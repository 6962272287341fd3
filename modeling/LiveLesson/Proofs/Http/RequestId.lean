import LiveLesson.Proofs.Http.Protocol
import LiveLesson.Proofs.Text.Utf8
import LiveLesson.Proofs.Validation.Rules

/-!
The name of a request from its headers to the response and the log. Whatever the request is and
however it is answered, the response carries one name, which can stand in a header; the client's own
is kept if it is fit to be one, and the line that logs a failure tells the same name.
-/

namespace LiveLesson

namespace Text

theorem head?_trimChars {cs : List Char} {c : Char} (h : (trimChars cs).head? = some c) :
    isBlank c = false := by
  obtain ⟨back, hback, -⟩ := dropEndWhile_spec isBlank (cs.dropWhile isBlank)
  have hfirst := List.head?_dropWhile_not isBlank cs
  rw [hback, List.head?_append, ← trimChars, h] at hfirst
  exact hfirst

theorem getLast?_trimChars {cs : List Char} {c : Char} (h : (trimChars cs).getLast? = some c) :
    isBlank c = false := by
  have hlast := List.head?_dropWhile_not isBlank (cs.dropWhile isBlank).reverse
  rw [trimChars, dropEndWhile, List.getLast?_reverse] at h
  rwa [h] at hlast

end Text

namespace Http

namespace RequestId

def IsVisible (c : Char) : Prop := c = '\t' ∨ (0x20 ≤ c.toNat ∧ c.toNat < 0x7F)

/-- A text as it names a request in a header. -/
structure IsName (name : String) : Prop where
  nonempty : name ≠ ""
  short : name.utf8ByteSize ≤ 128
  visible : ∀ c ∈ name.toList, IsVisible c
  bare : ∀ c, name.toList.head? = some c ∨ name.toList.getLast? = some c → Text.isBlank c = false

structure IsFit (value : String) : Prop where
  visible : ∀ c ∈ value.toList, IsVisible c
  notBlank : ∃ c ∈ value.toList, Text.isBlank c = false
  short : (Text.trim value).utf8ByteSize ≤ 128

/-- The form of names that are drawn: 32 hexadecimal digits in five groups. -/
def IsDrawn (name : String) : Prop :=
  ∃ a b c d e : List Char, name.toList = a ++ '-' :: b ++ '-' :: c ++ '-' :: d ++ '-' :: e ∧
    [a, b, c, d, e].map List.length = [8, 4, 4, 4, 12] ∧
    ∀ group ∈ [a, b, c, d, e], ∀ digit ∈ group, digit ∈ Text.Hex.lowerDigits

theorem isHeaderText_iff {value : String} :
    isHeaderText value = true ↔ ∀ c ∈ value.toList, IsVisible c := by
  simp [isHeaderText, isHeaderChar, IsVisible]

theorem IsVisible.isAscii {c : Char} (h : IsVisible c) : c.toNat < 0x80 := by
  rcases h with rfl | h
  · decide
  · omega

theorem utf8ByteSize_of_visible {s : String} (h : ∀ c ∈ s.toList, IsVisible c) :
    s.utf8ByteSize = s.toList.length := by
  have hbytes : s.toList.flatMap String.utf8EncodeChar =
      s.toList.flatMap fun c => [c.toNat.toUInt8] :=
    List.flatMap_congr fun c hc => Text.Utf8.utf8EncodeChar_of_ascii (h c hc).isAscii
  rw [Text.Utf8.utf8ByteSize_eq, hbytes]
  simp

theorem mem_of_mem_trim {value : String} {c : Char} (hc : c ∈ (Text.trim value).toList) :
    c ∈ value.toList := by
  obtain ⟨front, back, hvalue, -, -⟩ := Text.exists_blanks value.toList
  rw [Text.toList_trim] at hc
  rw [hvalue]
  exact List.mem_append_left back (List.mem_append_right front hc)

theorem ofHeader_eq_some_iff {value name : String} :
    ofHeader value = some name ↔ IsFit value ∧ name = Text.trim value := by
  by_cases hvisible : ∀ c ∈ value.toList, IsVisible c
  · have hsize : (Text.trim value).utf8ByteSize = (Text.trim value).length :=
      utf8ByteSize_of_visible fun c hc => hvisible c (mem_of_mem_trim hc)
    have hfit : IsFit value ↔
        ¬((Text.trim value).isEmpty = true ∨ maxLength < (Text.trim value).length) := by
      rw [← hsize, String.isEmpty_iff, not_or, Nat.not_lt]
      constructor
      · exact fun h => ⟨Text.trim_ne_empty_iff.2 h.notBlank, h.short⟩
      · exact fun h => ⟨hvisible, Text.trim_ne_empty_iff.1 h.1, h.2⟩
    rw [ofHeader, isHeaderText_iff.2 hvisible, hfit, eq_comm (a := name)]
    simp only [Bool.not_true, Bool.false_eq_true, if_false, Option.ite_none_left_eq_some,
      Option.some_inj, Bool.or_eq_true, decide_eq_true_eq]
  · have hnot : isHeaderText value = false := by simpa using mt isHeaderText_iff.1 hvisible
    rw [ofHeader, hnot]
    exact iff_of_false nofun fun h => hvisible h.1.visible

theorem IsFit.isName {value : String} (h : IsFit value) : IsName (Text.trim value) where
  nonempty := Text.trim_ne_empty_iff.2 h.notBlank
  short := h.short
  visible c hc := h.visible c (mem_of_mem_trim hc)
  bare c hc := by
    rw [Text.toList_trim] at hc
    exact hc.elim Text.head?_trimChars Text.getLast?_trimChars

theorem IsDrawn.isName {name : String} (h : IsDrawn name) : IsName name := by
  obtain ⟨a, b, c, d, e, hname, hlengths, hdigits⟩ := h
  have hdigit : ∀ x ∈ Text.Hex.lowerDigits, IsVisible x ∧ Text.isBlank x = false := by
    unfold IsVisible
    exact List.forall_iff_forall_mem.1 (by decide)
  have hall : ∀ x ∈ name.toList, IsVisible x ∧ Text.isBlank x = false := by
    intro x hx
    by_cases hhyphen : x = '-'
    · subst hhyphen
      unfold IsVisible
      decide
    · simp only [hname, List.mem_append, List.mem_cons, hhyphen, false_or] at hx
      simp only [List.forall_mem_cons] at hdigits
      obtain ⟨ha, hb, hc, hd, he, -⟩ := hdigits
      rcases hx with (((hx | hx) | hx) | hx) | hx
      · exact hdigit x (ha x hx)
      · exact hdigit x (hb x hx)
      · exact hdigit x (hc x hx)
      · exact hdigit x (hd x hx)
      · exact hdigit x (he x hx)
  have hlength : name.toList.length = 36 := by
    simp only [List.map_cons, List.map_nil, List.cons.injEq, and_true] at hlengths
    simp only [hname, List.length_append, List.length_cons]
    omega
  refine ⟨?_, ?_, fun x hx => (hall x hx).1, fun x hx => (hall x ?_).2⟩
  · rintro rfl
    exact absurd hlength (by decide +kernel)
  · rw [utf8ByteSize_of_visible fun x hx => (hall x hx).1, hlength]
    decide
  · exact hx.elim List.mem_of_head? List.mem_of_getLast?

theorem brought_eq_some_iff {r : Request} {value : String} : brought r = some value ↔
    r.header? "x-request-id" = some value ∨
      (r.header? "x-request-id" = none ∧ r.header? "x-correlation-id" = some value) := by
  rw [brought, headerName, otherHeaderName]
  cases r.header? "x-request-id" <;> simp

theorem choose_of_isFit {r : Request} {value : String} (hvalue : brought r = some value)
    (hfit : IsFit value) (fresh : String) : choose fresh r = Text.trim value := by
  rw [choose, hvalue, Option.bind_some, ofHeader_eq_some_iff.2 ⟨hfit, rfl⟩, Option.getD_some]

theorem choose_of_not_isFit {r : Request} (h : ∀ value, brought r = some value → ¬IsFit value)
    (fresh : String) : choose fresh r = fresh := by
  have hnone : (brought r).bind ofHeader = none := by
    refine Option.eq_none_iff_forall_ne_some.2 fun name hname => ?_
    obtain ⟨value, hvalue, hname⟩ := Option.bind_eq_some_iff.1 hname
    exact h value hvalue (ofHeader_eq_some_iff.1 hname).1
  rw [choose, hnone, Option.getD_none]

theorem isName_choose {fresh : String} (hfresh : IsName fresh) (r : Request) :
    IsName (choose fresh r) := by
  by_cases h : ∃ value, brought r = some value ∧ IsFit value
  · obtain ⟨value, hvalue, hfit⟩ := h
    rw [choose_of_isFit hvalue hfit]
    exact hfit.isName
  · rw [choose_of_not_isFit fun value hvalue hfit => h ⟨value, hvalue, hfit⟩]
    exact hfresh

/-- What stands around the rest of the service: the name is chosen, told to the rest, and set on the
response. -/
def named (fresh : String) (r : Request) (rest : String → Program Response) : Program Response := do
  let response ← rest (choose fresh r)
  pure (response.setHeader headerName (choose fresh r))

theorem named_run {σ : Type} (fresh : String) (r : Request) (rest : String → Program Response)
    (h : Handler σ) (s : σ) : (named fresh r rest).run h s =
      { (rest (choose fresh r)).run h s with
        result := ((rest (choose fresh r)).run h s).result.setHeader headerName
          (choose fresh r) } :=
  Program.run_map h (rest (choose fresh r)) _ s

theorem filter_setHeader (response : Response) (name value : String) :
    (response.setHeader name value).headers.filter (fun header => header.1 == name) =
      [(name, value)] := by
  have hothers : (response.headers.filter fun header => header.1 != name).filter
      (fun header => header.1 == name) = [] := by
    rw [List.filter_eq_nil_iff]
    intro header hheader
    have hne := (List.mem_filter.1 hheader).2
    simpa using hne
  rw [Response.setHeader, List.filter_append, hothers]
  simp

end RequestId

namespace App

variable (settings : Settings) (doc : Documentation)

theorem atRoute_logs (key : String) (r : Request) (route : Option (Endpoint × Captures)) :
    (atRoute settings doc key r route).Logs LogEvent.IsAnonymous := by
  unfold atRoute
  split
  · trivial
  · split
    · exact (atEndpoint_inStep settings doc _ _ _ _).logs
    · trivial

def behindName (key : String) (r : Request) (requestId : String) : Program Response := do
  let response ← inner settings doc key requestId r
  pure (Cors.mark settings.server.corsAllowOrigins r response)

theorem serve_eq_named (fresh : Fresh) (r : Request) : serve settings doc fresh r =
    RequestId.named fresh.requestId r (behindName settings doc fresh.streamKey r) := by
  rw [RequestId.named, behindName, Program.bind_assoc]
  rfl

@[simp] theorem status_withAllow (r : Request) (route : Option (Endpoint × Captures))
    (response : Response) : (withAllow r route response).status = response.status := by
  unfold withAllow
  split
  · split <;> rfl
  · rfl

@[simp] theorem status_withoutBody (r : Request) (response : Response) :
    (withoutBody r response).status = response.status := by
  unfold withoutBody
  split <;> rfl

end App

def Tells (e : LogEvent) (requestId : String) (status : Nat) : Prop :=
  e.fields.lookup "request_id" = some (.string requestId) ∧
    e.fields.lookup "status" = some (.integer status)

def namesRequest (e : LogEvent) : Bool := (e.fields.lookup "request_id").isSome

/-- A failure is told in one line, under the name of its request; nothing else is told under a
name. -/
def ToldUnder (requestId : String) (logs : List LogEvent) (response : Response) : Prop :=
  if response.isFailure then ∃ line, logs.filter namesRequest = [line] ∧
    Tells line requestId response.status
  else logs.filter namesRequest = []

namespace ToldUnder

variable {requestId : String} {logs : List LogEvent} {response : Response}

theorem of_status (h : ToldUnder requestId logs response) {response' : Response}
    (hstatus : response'.status = response.status) : ToldUnder requestId logs response' := by
  unfold ToldUnder Response.isFailure at *
  rwa [hstatus]

theorem append_front (h : ToldUnder requestId logs response) {front : List LogEvent}
    (hfront : ∀ e ∈ front, e.IsAnonymous) : ToldUnder requestId (front ++ logs) response := by
  have hnone : front.filter namesRequest = [] := by
    rw [List.filter_eq_nil_iff]
    intro e he
    rw [namesRequest, hfront e he]
    decide
  unfold ToldUnder at *
  rwa [List.filter_append, hnone, List.nil_append]

end ToldUnder

theorem FailureLog.pass_told {σ : Type} (requestId : String) (r : Request) (response : Response)
    (h : Handler σ) (s : σ) :
    ToldUnder requestId ((pass requestId r response).run h s).logs response := by
  unfold ToldUnder
  cases hfailure : response.isFailure with
  | false =>
    rw [pass, hfailure]
    rfl
  | true =>
    by_cases hsize : response.body.utf8ByteSize ≤ maxBuffered
    · have hlogs : ((pass requestId r response).run h s).logs = [event requestId r response] := by
        rw [pass, hfailure, Bool.not_true, if_neg Bool.false_ne_true, if_pos hsize]
        rfl
      rw [hlogs]
      exact ⟨_, rfl, rfl, rfl⟩
    · have hlogs : ((pass requestId r response).run h s).logs =
          [lostEvent requestId r response] := by
        rw [pass, hfailure, Bool.not_true, if_neg Bool.false_ne_true, if_neg hsize]
        rfl
      rw [hlogs]
      exact ⟨_, rfl, rfl, rfl⟩

namespace App

variable (settings : Settings) (doc : Documentation) (key : String) (r : Request)
  (requestId : String)

theorem inner_run {σ : Type} (hpreflight : Cors.isPreflight r = false) (h : Handler σ) (s : σ) :
    let trace := (inner settings doc key requestId r).run h s
    let answered := (atRoute settings doc key r (route? r.target)).run h s
    trace.result.status = answered.result.status ∧
      trace.logs = answered.logs ++
        ((FailureLog.pass requestId r answered.result).run h answered.state).logs := by
  intro trace answered
  have htrace : trace = (atRoute settings doc key r (route? r.target) >>= fun response =>
      FailureLog.pass requestId r response >>= fun response =>
        pure (withAllow r (route? r.target) (withoutBody r response))).run h s := by
    simp only [trace, inner, hpreflight, Bool.false_eq_true, if_false]
  refine ⟨?_, ?_⟩
  · rw [htrace, (Program.run_bind h _ _ s).1, Program.run_map, status_withAllow, status_withoutBody,
      (FailureLog.run_pass h _ _ _ _).1, FailureLog.status_passed]
  · rw [htrace, Program.logs_run_bind, Program.run_map]

theorem behindName_told {σ : Type} (h : Handler σ) (s : σ) :
    let trace := (behindName settings doc key r requestId).run h s
    ToldUnder requestId trace.logs trace.result := by
  intro trace
  have htrace : trace = ⟨Cors.mark settings.server.corsAllowOrigins r
      ((inner settings doc key requestId r).run h s).result,
      _, _, ((inner settings doc key requestId r).run h s).logs⟩ := Program.run_map h _ _ s
  rw [htrace]
  suffices hinner : ToldUnder requestId ((inner settings doc key requestId r).run h s).logs
      ((inner settings doc key requestId r).run h s).result from
      hinner.of_status (Cors.status_mark _ _ _)
  cases hpreflight : Cors.isPreflight r with
  | true =>
    have hsuccess : ToldUnder requestId [] Cors.preflight := by
      rw [ToldUnder, if_neg (by decide)]
      rfl
    rw [inner, hpreflight, if_pos rfl]
    exact hsuccess.of_status (status_withAllow _ _ _)
  | false =>
    obtain ⟨hstatus, hlogs⟩ := inner_run settings doc key r requestId hpreflight h s
    rw [hlogs]
    have hanonymous := (atRoute_logs settings doc key r (route? r.target)).run h s
    exact ((FailureLog.pass_told requestId r _ h _).append_front hanonymous).of_status hstatus

end App

/-- Every response carries one name, which is written in visible characters without blanks around it
and takes 128 bytes at most. It is the trimmed value of the first `x-request-id` header, or of the
first `x-correlation-id` header if there is none of the former, provided that this value is visible,
not blank and short enough, and in every other case the name that was drawn for the request. The
rest of the service is told that name, and whatever name it sets itself does not go out; a failure
is logged in one line under the same name, and no other line tells a name. -/
theorem request_named_once {σ : Type} (settings : Settings) (doc : Documentation) (fresh : Fresh)
    (h : Handler σ) (s : σ) (r : Request) (hfresh : RequestId.IsDrawn fresh.requestId) :
    let name := RequestId.choose fresh.requestId r
    let trace := (App.serve settings doc fresh r).run h s
    trace.result.headers.filter (fun header => header.1 == "x-request-id") =
      [("x-request-id", name)] ∧
    RequestId.IsName name ∧
    (∀ value, r.header? "x-request-id" = some value ∨
        (r.header? "x-request-id" = none ∧ r.header? "x-correlation-id" = some value) →
      (RequestId.IsFit value → name = Text.trim value) ∧
        (¬RequestId.IsFit value → name = fresh.requestId)) ∧
    (r.header? "x-request-id" = none → r.header? "x-correlation-id" = none →
      name = fresh.requestId) ∧
    (if trace.result.isFailure then
      ∃ line, trace.logs.filter namesRequest = [line] ∧ Tells line name trace.result.status
    else trace.logs.filter namesRequest = []) ∧
    App.serve settings doc fresh r =
      RequestId.named fresh.requestId r (App.behindName settings doc fresh.streamKey r) ∧
    ∀ rest : String → Program Response,
      ((RequestId.named fresh.requestId r rest).run h s).result =
        ((rest name).run h s).result.setHeader "x-request-id" name ∧
      ((RequestId.named fresh.requestId r rest).run h s).result.headers.filter
        (fun header => header.1 == "x-request-id") = [("x-request-id", name)] := by
  intro name trace
  have hnamed : ∀ rest : String → Program Response,
      ((RequestId.named fresh.requestId r rest).run h s).result =
      ((rest name).run h s).result.setHeader "x-request-id" name := fun rest =>
    congrArg Trace.result (RequestId.named_run fresh.requestId r rest h s)
  have htrace : trace =
      (RequestId.named fresh.requestId r (App.behindName settings doc fresh.streamKey r)).run h
      s := by
    rw [← App.serve_eq_named]
  refine ⟨?_, RequestId.isName_choose hfresh.isName r,
    fun value hvalue => ⟨fun hfit => ?_, fun hnot => ?_⟩,
    fun hfirst hsecond => ?_, ?_, App.serve_eq_named settings doc fresh r,
    fun rest => ⟨hnamed rest, ?_⟩⟩
  · rw [htrace, hnamed]
    exact RequestId.filter_setHeader _ _ _
  · exact RequestId.choose_of_isFit (RequestId.brought_eq_some_iff.2 hvalue) hfit _
  · refine RequestId.choose_of_not_isFit (fun value' hvalue' => ?_) _
    have hsame := (RequestId.brought_eq_some_iff.2 hvalue).symm.trans hvalue'
    rwa [← Option.some_inj.1 hsame]
  · refine RequestId.choose_of_not_isFit (fun value hvalue => ?_) _
    rw [RequestId.brought_eq_some_iff, hfirst, hsecond] at hvalue
    simp at hvalue
  · rw [htrace, RequestId.named_run]
    exact (App.behindName_told settings doc fresh.streamKey r name h s).of_status
      (Response.status_setHeader _ _ _)
  · rw [hnamed]
    exact RequestId.filter_setHeader _ _ _

/-- Nothing is served there, and of three names the second one counts. -/
def strayRequest : Request :=
  ⟨"GET", "/nowhere", [("x-correlation-id", "c"), ("x-request-id", " a b\t"),
    ("x-request-id", "d")], []⟩

def drawnName : String := "936da01f-9abd-4d9d-80c7-02af85c822a8"

theorem strayRequest_named :
    let trace := (App.serve .standard .null ⟨"k", drawnName⟩ strayRequest).run
      (Tables.handler Tables.calm) .empty
    RequestId.IsDrawn drawnName ∧ trace.result.status = 404 ∧
      trace.result.headers.filter (fun header => header.1 == "x-request-id") =
        [("x-request-id", "a b")] ∧
      ∃ line, trace.logs.filter namesRequest = [line] ∧ Tells line "a b" 404 := by
  intro trace
  have hdigits : ["936da01f".toList, "9abd".toList, "4d9d".toList, "80c7".toList,
      "02af85c822a8".toList].Forall
      fun group => group.Forall fun digit => digit ∈ Text.Hex.lowerDigits := by decide
  have hdrawn : RequestId.IsDrawn drawnName :=
    ⟨_, _, _, _, _, by decide +kernel, by decide, fun group hgroup =>
      List.forall_iff_forall_mem.1 (List.forall_iff_forall_mem.1 hdigits group hgroup)⟩
  have hfit : RequestId.IsFit " a b\t" :=
    ⟨by unfold RequestId.IsVisible; exact List.forall_iff_forall_mem.1 (by decide +kernel),
      ⟨'a', by decide +kernel, by decide⟩, by decide +kernel⟩
  have hstatus : trace.result.status = 404 := by decide +kernel
  obtain ⟨honce, _, hbrought, _, hlogged, _⟩ := request_named_once .standard .null ⟨"k", drawnName⟩
    (Tables.handler Tables.calm) Tables.empty strayRequest hdrawn
  have hname : RequestId.choose drawnName strayRequest = "a b" :=
    ((hbrought " a b\t" (.inl (by decide))).1 hfit).trans (by decide)
  rw [hname] at honce hlogged
  have hfailure : trace.result.isFailure = true := by
    rw [Response.isFailure, hstatus]
    decide
  rw [if_pos hfailure] at hlogged
  exact ⟨hdrawn, hstatus, honce, hstatus ▸ hlogged⟩

end Http

end LiveLesson
