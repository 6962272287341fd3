import LiveLesson.Identifier
import LiveLesson.Proofs.Time.Rfc3339
import LiveLesson.Proofs.Wire.Rearranged
import LiveLesson.Quiz.Question
import LiveLesson.Session.Status
import LiveLesson.Time.Wire

/-!
Single values that come back: numbers in the range of their form, texts, identifiers, names out of a
list and moments.
-/

namespace LiveLesson

open Json

variable {α : Type} {e : Entity}

namespace Wire

theorem int64_recovers {n : Int} (h : (Text.Range.signed 64).Contains n) : int64.Recovers Eq n :=
  recovers_eq trivial (takes_int64 h)

theorem natural_recovers {bits n : Nat} (hbits : bits ≤ 64) (h : n < 2 ^ bits) :
    (natural bits).Recovers Eq n :=
  recovers_eq trivial (takes_natural hbits h)

theorem string_recovers (s : String) : string.Recovers Eq s := recovers_eq trivial (takes_string s)

theorem strings_recovers (ss : List String) : (list string).Recovers Eq ss := by
  refine recovers_eq ?_ (takes_list ?_)
  · change AllFinite (ss.map string.encode)
    induction ss with
    | nil => trivial
    | cons s ss ih => exact ⟨trivial, ih⟩
  · rw [List.forall₂_map_left_iff, List.forall₂_same]
    exact fun s _ => takes_string s

theorem optional_recovers {w : Wire α} {rel : Json → Json → Prop} {a : α} (h : w.Recovers rel a)
    (hnull : ∀ {j}, rel (w.encode a) j → j ≠ .null) : (optional w).Recovers rel (some a) :=
  ⟨h.same, h.finite, fun hj => takes_some (h.takes hj) (hnull hj)⟩

theorem optional_string_recovers (s : Option String) : (optional string).Recovers Eq s := by
  cases s with
  | none => exact recovers_eq trivial (takes_none _)
  | some s => exact optional_recovers (string_recovers s) fun hj => hj ▸ nofun

end Wire

def Id.InRange (i : Id e) : Prop := (Text.Range.signed 64).Contains i.value

theorem Id.wire_recovers {i : Id e} (h : i.InRange) : Id.wire.Recovers Eq i :=
  Wire.recovers_eq trivial (Wire.takes_rename (Wire.takes_int64 h) Id.mk Id.value)

theorem Timestamp.wire_recovers {t : Timestamp} (h : t.IsCommon) :
    Timestamp.wire.Recovers Eq t := by
  refine Wire.recovers_eq trivial (Wire.takes_convert (Wire.takes_stringAs _ t.text) ?_ _)
  rw [h.read_text]
  rfl

theorem Timestamp.optional_wire_recovers {t : Option Timestamp} (h : ∀ m ∈ t, m.IsCommon) :
    (Wire.optional Timestamp.wire).Recovers Eq t := by
  cases t with
  | none => exact Wire.recovers_eq trivial (Wire.takes_none _)
  | some m => exact Wire.optional_recovers (Timestamp.wire_recovers (h m rfl)) fun hj => hj ▸ nofun

theorem Status.wire_recovers (s : Status) : Status.wire.Recovers Eq s :=
  Wire.recovers_eq trivial (Wire.takes_oneOf (Status.ofText?_text s) _)

theorem QuestionType.wire_recovers (t : QuestionType) : QuestionType.wire.Recovers Eq t :=
  Wire.recovers_eq trivial (Wire.takes_oneOf (QuestionType.ofText?_text t) _)

end LiveLesson
