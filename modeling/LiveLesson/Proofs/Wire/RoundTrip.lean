import LiveLesson.Message
import LiveLesson.Proofs.Config.RoundTrip
import LiveLesson.Quiz.Payload
import LiveLesson.Session.Basic
import LiveLesson.Session.Payload

/-!
What the service writes comes back. Every record that is both written and read is recovered from
what was written of it, and from that with its members in another order, under another name of their
fields and among members with unknown names.
-/

namespace LiveLesson

open Record

namespace Question

structure InRange (q : Question) : Prop where
  id : q.id.InRange
  course : q.course.InRange
  createdAt : q.createdAt.IsCommon

def puts (v : Question) : List (Question → Question) := [
  fun q => { q with id := v.id }, fun q => { q with course := v.course },
  fun q => { q with type := v.type },
  fun q => { q with content := v.content }, fun q => { q with options := v.options },
  fun q => { q with answer := v.answer }, fun q => { q with createdAt := v.createdAt }]

theorem restores {q : Question} (h : q.InRange) :
    record.Restores (inside []) (record.withPuts q.puts) q where
  commute := by simp [withPuts, record, puts]
  each := ⟨restored_of (Id.wire_recovers h.id) _, restored_of (Id.wire_recovers h.course) _,
    restored_of (QuestionType.wire_recovers q.type) _,
    restored_of (Wire.string_recovers q.content) _,
    restored_of (Wire.strings_recovers q.options) _, restored_of (Wire.string_recovers q.answer) _,
    restored_of (Timestamp.wire_recovers h.createdAt) _⟩

end Question

namespace QuestionView

structure InRange (q : QuestionView) : Prop where
  id : q.id.InRange
  course : q.course.InRange

def puts (v : QuestionView) : List (QuestionView → QuestionView) := [
  fun q => { q with id := v.id }, fun q => { q with course := v.course },
  fun q => { q with type := v.type },
  fun q => { q with content := v.content }, fun q => { q with options := v.options }]

theorem restores {q : QuestionView} (h : q.InRange) :
    record.Restores (inside []) (record.withPuts q.puts) q where
  commute := by simp [withPuts, record, puts]
  each := ⟨restored_of (Id.wire_recovers h.id) _, restored_of (Id.wire_recovers h.course) _,
    restored_of (QuestionType.wire_recovers q.type) _,
    restored_of (Wire.string_recovers q.content) _,
    restored_omittedWhen nofun (fun hempty => by rw [List.isEmpty_iff.1 hempty]; rfl)
      fun _ => (restored_of (Wire.strings_recovers q.options) _).withDefault⟩

end QuestionView

namespace Tally

structure InRange (t : Tally) : Prop where
  question : t.question.InRange
  total : (Text.Range.signed 64).Contains t.total
  correct : (Text.Range.signed 64).Contains t.correct

def puts (v : Tally) : List (Tally → Tally) := [
  fun t => { t with question := v.question }, fun t => { t with total := v.total },
  fun t => { t with correct := v.correct }]

theorem restores {t : Tally} (h : t.InRange) :
    record.Restores (inside []) (record.withPuts t.puts) t where
  commute := by simp [withPuts, record, puts]
  each := ⟨restored_of (Id.wire_recovers h.question) _, restored_of (Wire.int64_recovers h.total) _,
    restored_of (Wire.int64_recovers h.correct) _⟩

end Tally

namespace CreateQuestion

def InRange (p : CreateQuestion) : Prop := (Text.Range.signed 64).Contains p.courseId

def puts (v : CreateQuestion) : List (CreateQuestion → CreateQuestion) := [
  fun p => { p with courseId := v.courseId }, fun p => { p with type := v.type },
  fun p => { p with content := v.content }, fun p => { p with options := v.options },
  fun p => { p with answer := v.answer }]

theorem restores {p : CreateQuestion} (h : p.InRange) :
    record.Restores (inside []) (record.withPuts p.puts) p where
  commute := by simp [withPuts, record, puts]
  each := ⟨restored_of (Wire.int64_recovers h) _, restored_of (QuestionType.wire_recovers p.type) _,
    restored_of (Wire.string_recovers p.content) _,
    (restored_of (Wire.strings_recovers p.options) _).withDefault,
    restored_of (Wire.string_recovers p.answer) _⟩

end CreateQuestion

namespace SubmitAnswer

structure InRange (p : SubmitAnswer) : Prop where
  question : (Text.Range.signed 64).Contains p.questionId
  student : (Text.Range.signed 64).Contains p.studentId

def puts (v : SubmitAnswer) : List (SubmitAnswer → SubmitAnswer) := [
  fun p => { p with questionId := v.questionId }, fun p => { p with studentId := v.studentId },
  fun p => { p with answer := v.answer }]

theorem restores {p : SubmitAnswer} (h : p.InRange) :
    record.Restores (inside []) (record.withPuts p.puts) p where
  commute := by simp [withPuts, record, puts]
  each := ⟨restored_of (Wire.int64_recovers h.question) _,
    restored_of (Wire.int64_recovers h.student) _,
    restored_of (Wire.string_recovers p.answer) _⟩

end SubmitAnswer

namespace PlaybackUrls

def puts (v : PlaybackUrls) : List (PlaybackUrls → PlaybackUrls) := [
  fun u => { u with rtmp := v.rtmp }, fun u => { u with flv := v.flv },
  fun u => { u with hls := v.hls }]

theorem restores (u : PlaybackUrls) : record.Restores (inside []) (record.withPuts u.puts) u where
  commute := by simp [withPuts, record, puts]
  each := ⟨restored_of (Wire.string_recovers u.rtmp) _, restored_of (Wire.string_recovers u.flv) _,
    restored_of (Wire.string_recovers u.hls) _⟩

def Rearranged : Json → Json → Prop := record.Rearranges (inside [])

end PlaybackUrls

namespace SessionView

structure InRange (v : SessionView) : Prop where
  id : v.id.InRange
  course : v.course.InRange
  startedAt : ∀ t ∈ v.startedAt, t.IsCommon
  endedAt : ∀ t ∈ v.endedAt, t.IsCommon
  createdAt : v.createdAt.IsCommon

def puts (v : SessionView) : List (SessionView → SessionView) := [
  fun w => { w with id := v.id }, fun w => { w with course := v.course },
  fun w => { w with streamKey := v.streamKey },
  fun w => { w with status := v.status }, fun w => { w with startedAt := v.startedAt },
  fun w => { w with endedAt := v.endedAt }, fun w => { w with createdAt := v.createdAt },
  fun w => { w with playUrls := v.playUrls }]

def nested : List (String × (Json → Json → Prop)) := [("play_urls", PlaybackUrls.Rearranged)]

theorem urls_recovers {v : SessionView} (hsome : v.playUrls.isNone = false) :
    (Wire.optional PlaybackUrls.record.wire).Recovers (inside nested "play_urls") v.playUrls := by
  cases hurls : v.playUrls with
  | none => exact absurd hsome (by rw [hurls]; nofun)
  | some u => exact Wire.optional_recovers (PlaybackUrls.restores u).recovers fun hj => hj.ne_null

theorem restores {v : SessionView} (h : v.InRange) :
    record.Restores (inside nested) (record.withPuts v.puts) v where
  commute := by simp [withPuts, record, puts]
  each := ⟨restored_of (Id.wire_recovers h.id) _, restored_of (Id.wire_recovers h.course) _,
    restored_of (Wire.string_recovers v.streamKey) _, restored_of (Status.wire_recovers v.status) _,
    restored_omittedWhen nofun (fun hnone => by rw [Option.isNone_iff_eq_none.1 hnone]; rfl)
      fun _ => (restored_of (Timestamp.optional_wire_recovers h.startedAt) _).optionalMember,
    restored_omittedWhen nofun (fun hnone => by rw [Option.isNone_iff_eq_none.1 hnone]; rfl)
      fun _ => (restored_of (Timestamp.optional_wire_recovers h.endedAt) _).optionalMember,
    restored_of (Timestamp.wire_recovers h.createdAt) _,
    restored_omittedWhen nofun (fun hnone => by rw [Option.isNone_iff_eq_none.1 hnone]; rfl)
      fun hsome => (restored_of (urls_recovers hsome) _).optionalMember⟩

end SessionView

namespace StatusCallback

def puts (v : StatusCallback) : List (StatusCallback → StatusCallback) := [
  fun c => { c with streamPath := v.streamPath }, fun c => { c with status := v.status }]

theorem restores (c : StatusCallback) : record.Restores (inside []) (record.withPuts c.puts) c where
  commute := by simp [withPuts, record, puts]
  each := ⟨(restored_of (Wire.string_recovers c.streamPath) _).withAlias _,
    (restored_of (Wire.string_recovers c.status) _).withDefault⟩

/-- A report says the same under the other name of its path, in any order and among unknown
members. -/
theorem rearranges_alias (c : StatusCallback) {unknown members : List (String × Json)}
    (hunknown : ∀ m ∈ unknown, record.field? m.1 = none)
    (hperm : ([("stream_path", Json.string c.streamPath), ("status", Json.string c.status)] ++
      unknown).Perm members) :
    record.Rearranges (inside []) (record.encode c) (.object members) := by
  refine .object ?_ hunknown hperm
  exact .cons ⟨⟨_, rfl, rfl⟩, rfl⟩ (.cons ⟨⟨_, rfl, rfl⟩, rfl⟩ .nil)

end StatusCallback

namespace Message

def puts (v : Message) : List (Message → Message) := [fun m => { m with message := v.message }]

theorem restores (m : Message) : record.Restores (inside []) (record.withPuts m.puts) m where
  commute := by simp [withPuts, record, puts]
  each := restored_of (Wire.string_recovers m.message) _

end Message

/-- Every record comes back from what is written of it, and from whatever says the same. -/
theorem records_returned :
    (∀ q : Question, q.InRange → Question.record.Returns (inside []) q) ∧
    (∀ q : QuestionView, q.InRange → QuestionView.record.Returns (inside []) q) ∧
    (∀ t : Tally, t.InRange → Tally.record.Returns (inside []) t) ∧
    (∀ v : SessionView, v.InRange → SessionView.record.Returns (inside SessionView.nested) v) ∧
    (∀ u : PlaybackUrls, PlaybackUrls.record.Returns (inside []) u) ∧
    (∀ m : Message, Message.record.Returns (inside []) m) ∧
    (∀ c : StatusCallback, StatusCallback.record.Returns (inside []) c) ∧
    (∀ p : CreateQuestion, p.InRange → CreateQuestion.record.Returns (inside []) p) ∧
    (∀ p : SubmitAnswer, p.InRange → SubmitAnswer.record.Returns (inside []) p) ∧
    (∀ s : Settings, s.InRange → Settings.record.Returns (inside Settings.nested) s) :=
  ⟨fun _ h => (Question.restores h).returns, fun _ h => (QuestionView.restores h).returns,
    fun _ h => (Tally.restores h).returns, fun _ h => (SessionView.restores h).returns,
    fun u => (PlaybackUrls.restores u).returns, fun m => (Message.restores m).returns,
    fun c => (StatusCallback.restores c).returns, fun _ h => (CreateQuestion.restores h).returns,
    fun _ h => (SubmitAnswer.restores h).returns, fun _ h => (Settings.restores h).returns⟩

/-- A live session, its members reversed and among an unknown one, comes back, and so do values of
the other types. -/
theorem live_view_returned :
    SessionView.record.wire.parse
    (Text.Utf8.encode (Json.object [("note", .array [.null, .float (.finite true 1 (-1))]),
        ("play_urls", .object [("hls", .string "h"), ("flv", .string "f"), ("rtmp", .string "r")]),
        ("created_at", .string "1969-12-31T23:59:59Z"),
        ("started_at", .string "1970-01-01T00:00:00.500Z"),
        ("status", .string "live"), ("stream_key", .string "key"), ("course_id", .integer 3),
        ("id", .integer 7)]).text) =
      .ok ⟨⟨7⟩, ⟨3⟩, "key", .live, some ⟨0, 500000000⟩, none, ⟨-1, 0⟩, some ⟨"r", "f", "h"⟩⟩ ∧
    (Question.record.Returns (inside []) ⟨⟨1⟩, ⟨2⟩, .trueFalse, "Wahr?", [], "true", ⟨0, 1⟩⟩ ∧
      QuestionView.record.Returns (inside []) ⟨⟨1⟩, ⟨2⟩, .trueFalse, "Wahr?", []⟩ ∧
      Tally.record.Returns (inside []) ⟨⟨1⟩, 3, 2⟩ ∧
      CreateQuestion.record.Returns (inside []) ⟨2, .trueFalse, "Wahr?", [], "true"⟩ ∧
      SubmitAnswer.record.Returns (inside []) ⟨1, 9, "true"⟩ ∧
      Settings.record.Returns (inside Settings.nested) Settings.standard) := by
  obtain ⟨hquestion, hquestionView, htally, hview, -, -, -, hcreate, hsubmit, hsettings⟩ :=
    records_returned
  have hid : ∀ {e : Entity} {n : Nat}, n < 10 → (⟨n⟩ : Id e).InRange := by
    intro e n hn
    have hbounds : -2 ^ 63 ≤ (n : Int) ∧ (n : Int) ≤ 2 ^ 63 - 1 := by omega
    exact hbounds
  have hmoment : ∀ m ∈ [(⟨0, 500000000⟩ : Timestamp), ⟨-1, 0⟩, ⟨0, 1⟩], m.IsCommon := by
    simp only [List.forall_mem_cons]
    exact ⟨⟨by decide, by decide⟩, ⟨by decide, by decide⟩, ⟨by decide, by decide⟩,
      List.forall_mem_nil _⟩
  have hurls : PlaybackUrls.Rearranged (PlaybackUrls.record.encode ⟨"r", "f", "h"⟩)
      (.object [("hls", .string "h"), ("flv", .string "f"), ("rtmp", .string "r")]) := by
    refine .object ?_ (List.forall_mem_nil _)
      (List.reverse_perm ([("rtmp", Json.string "r"), ("flv", .string "f"),
        ("hls", .string "h")] ++ [])).symm
    exact .cons ⟨⟨_, rfl, rfl⟩, rfl⟩ (.cons ⟨⟨_, rfl, rfl⟩, rfl⟩ (.cons ⟨⟨_, rfl, rfl⟩, rfl⟩ .nil))
  refine ⟨(hview _ ⟨hid (by decide), hid (by decide), ?_, ?_,
    hmoment _ (by decide)⟩).parse_rearranged _ ?_ ?_,
    hquestion _ ⟨hid (by decide), hid (by decide), hmoment _ (by decide)⟩,
    hquestionView _ ⟨hid (by decide), hid (by decide)⟩,
    htally _ ⟨hid (by decide), by decide, by decide⟩,
    hcreate _ ⟨by decide, by decide⟩, hsubmit _ ⟨by decide, by decide⟩, hsettings _ ?_⟩
  · rintro _ ⟨⟩
    exact hmoment _ (by decide)
  · rintro _ ⟨⟩
  · refine .object ?_ ?_ (List.reverse_perm ([("id", Json.integer 7), ("course_id", .integer 3),
      ("stream_key", .string "key"), ("status", .string "live"),
      ("started_at", .string "1970-01-01T00:00:00.500Z"),
      ("created_at", .string "1969-12-31T23:59:59Z"),
      ("play_urls", .object [("hls", .string "h"), ("flv", .string "f"), ("rtmp", .string "r")])] ++
      [("note", .array [.null, .float (.finite true 1 (-1))])])).symm
    · exact .cons ⟨⟨_, rfl, rfl⟩, rfl⟩
        (.cons ⟨⟨_, rfl, rfl⟩, rfl⟩ (.cons ⟨⟨_, rfl, rfl⟩, rfl⟩ (.cons ⟨⟨_, rfl, rfl⟩, rfl⟩
        (.cons ⟨⟨_, rfl, rfl⟩, rfl⟩
          (.cons ⟨⟨_, rfl, rfl⟩, rfl⟩ (.cons ⟨⟨_, rfl, rfl⟩, hurls⟩ .nil))))))
    · simp only [List.forall_mem_cons]
      exact ⟨rfl, List.forall_mem_nil _⟩
  · have hhalf : (Binary64.finite true 1 (-1)).IsFinite := by decide
    simpa [Json.IsFinite, Json.MembersFinite, Json.AllFinite] using hhalf
  · exact ⟨(by decide : 8080 < 2 ^ 16), ⟨by decide, by decide, by decide⟩,
      ⟨by decide, by decide, by decide, by decide⟩,
      by decide, by decide⟩

end LiveLesson
