import LiveLesson.Proofs.Http.RequestId
import LiveLesson.Proofs.Text.Percent

/-!
Pages of other origins. The service is built whatever origins are configured, and every response,
however it comes about, admits the origin of its request exactly if that was configured as a text
that can stand in a header.
-/

namespace LiveLesson

namespace Program

variable {α β σ : Type} {P : α → Prop} {Q : β → Prop}

/-- The program ends as the predicate says, whatever its calls are answered. -/
def Ends (P : α → Prop) : Program α → Prop
  | .done a => P a
  | .log _ p => p.Ends P
  | .call _ k => ∀ o, (k o).Ends P

theorem Ends.bind {p : Program α} (hp : p.Ends P) {f : α → Program β}
    (hf : ∀ a, P a → (f a).Ends Q) : (p >>= f).Ends Q := by
  induction p with
  | done a => exact hf a hp
  | log e p ih => exact ih hp
  | call c k ih => exact fun o => ih o (hp o)

theorem Obeys.ends {may : List Exchange → Call → Prop} {ends : List Exchange → α → Prop}
    {xs : List Exchange} {p : Program α} (hp : p.Obeys may ends xs) (hP : ∀ xs a, ends xs a → P a) :
    p.Ends P := by
  induction p generalizing xs with
  | done a => exact hP xs a hp
  | log e p ih => exact ih hp
  | call c k ih => exact fun o => ih o (hp.2 o)

theorem Ends.run {p : Program α} (hp : p.Ends P) (h : Handler σ) (s : σ) :
    P (p.run h s).result := by
  induction p generalizing s with
  | done a => exact hp
  | log e p ih => exact ih hp s
  | call c k ih => exact ih (h c s).1 (hp (h c s).1) (h c s).2

end Program

namespace Http

/-- A text that can stand in a header: it holds no control characters but tabs. -/
def IsHeaderValue (s : String) : Prop :=
  ∀ c ∈ s.toList, c = '\t' ∨ (0x20 ≤ c.toNat ∧ c.toNat ≠ 0x7F)

theorem all_isHeaderByte_iff (c : Char) :
    (String.utf8EncodeChar c).all isHeaderByte = true ↔ c = '\t' ∨
    (0x20 ≤ c.toNat ∧ c.toNat ≠ 0x7F) := by
  by_cases hascii : c.toNat < 0x80
  · rw [Text.Utf8.utf8EncodeChar_of_ascii hascii]
    exact Text.forall_ascii c hascii (by decide +kernel)
  · have hhigh : ∀ b : UInt8, 0x80 ≤ b.toNat → isHeaderByte b = true := fun b =>
      Text.forall_byte b (by decide +kernel)
    refine iff_of_true ?_ (.inr (by omega))
    exact List.all_eq_true.2 fun b hb => hhigh b (Text.Utf8.le_of_mem_utf8EncodeChar hascii hb)

theorem headerValue?_eq_some_iff {s : String} {value : List UInt8} :
    headerValue? s = some value ↔ IsHeaderValue s ∧ value = Text.Utf8.encode s := by
  have hall : (Text.Utf8.encode s).all isHeaderByte = true ↔ IsHeaderValue s := by
    rw [Text.Utf8.encode_eq, List.all_flatMap, List.all_eq_true]
    simp only [all_isHeaderByte_iff, IsHeaderValue]
  rw [headerValue?, ← hall, eq_comm (a := value)]
  simp only [Option.ite_none_right_eq_some, Option.some_inj]

instance (s : String) : Decidable (IsHeaderValue s) :=
  decidable_of_iff ((headerValue? s).isSome = true)
    (by simp [Option.isSome_iff_exists, headerValue?_eq_some_iff])

namespace Response

variable {name name' value : String} {response : Response}

theorem values_setHeader_self : (response.setHeader name value).values name = [value] := by
  rw [values, RequestId.filter_setHeader]
  rfl

theorem values_setHeader_of_ne (hne : name' ≠ name) :
    (response.setHeader name value).values name' = response.values name' := by
  have hsame : ∀ header : String × String, (header.1 == name' && header.1 != name) =
      (header.1 == name') := by
    intro header
    by_cases hname : header.1 = name'
    · simp [hname, hne]
    · simp [hname]
  rw [values, setHeader, List.filter_append, List.filter_filter]
  simp [hsame, values, hne.symm]

end Response

namespace Cors

variable {configured : List String}

theorem headerValues_run {σ : Type} (configured : List String) (h : Handler σ) (s : σ) :
    (headerValues configured).run h s =
      ⟨configured.filterMap headerValue?, s, [],
        (configured.filter fun o => (headerValue? o).isNone).map ignored⟩ := by
  induction configured with
  | nil => rfl
  | cons o rest ih =>
    rw [headerValues, List.filterMap_cons, List.filter_cons]
    cases hvalue : headerValue? o with
    | some value =>
      dsimp only
      rw [Program.run_map, ih]
      rfl
    | none =>
      have hemit : (Program.emit (ignored o) >>= fun _ => headerValues rest) =
          .log (ignored o) (headerValues rest) := rfl
      dsimp only
      rw [hemit, Program.run, ih]
      rfl

theorem mem_headerValues_iff {value : List UInt8} : value ∈ configured.filterMap headerValue? ↔
    ∃ o ∈ configured, IsHeaderValue o ∧ Text.Utf8.encode o = value := by
  simp only [List.mem_filterMap, headerValue?_eq_some_iff, eq_comm (a := value)]

theorem encode_mem_headerValues_iff {o : String} :
    Text.Utf8.encode o ∈ configured.filterMap headerValue? ↔ o ∈ configured ∧ IsHeaderValue o := by
  rw [mem_headerValues_iff]
  constructor
  · rintro ⟨o', hmem, hvalue, hbytes⟩
    rw [← Text.Utf8.encode_injective hbytes]
    exact ⟨hmem, hvalue⟩
  · exact fun h => ⟨o, h.1, h.2, rfl⟩

/-- No rule is refused: only the star itself is sent as the star is. -/
theorem rule?_result {σ : Type} (configured : List String) (h : Handler σ) (s : σ) :
    ((rule? configured).run h s).result = some (allowOrigin configured) := by
  unfold rule? allowOrigin
  by_cases hstar : configured.contains "*" = true
  · rw [if_pos hstar, if_pos hstar]
    rfl
  · have hnot : Text.Utf8.encode "*" ∉ configured.filterMap headerValue? := fun hmem =>
      hstar (List.contains_iff_mem.2 (encode_mem_headerValues_iff.1 hmem).1)
    rw [if_neg hstar, if_neg hstar, Program.run_map, headerValues_run]
    exact if_neg (mt List.contains_iff_mem.1 hnot)

theorem admits_iff {bytes : List UInt8} : (allowOrigin configured).admits bytes = true ↔
    "*" ∈ configured ∨ ∃ o ∈ configured, IsHeaderValue o ∧ Text.Utf8.encode o = bytes := by
  unfold allowOrigin
  by_cases hstar : "*" ∈ configured
  · rw [if_pos (List.contains_iff_mem.2 hstar)]
    exact iff_of_true rfl (.inl hstar)
  · rw [if_neg (mt List.contains_iff_mem.1 hstar), AllowOrigin.admits, List.contains_iff_mem,
      mem_headerValues_iff, or_iff_right hstar]

theorem value?_of_star (hstar : "*" ∈ configured) (origin : Option String) :
    (allowOrigin configured).value? origin = some "*" := by
  rw [allowOrigin, if_pos (List.contains_iff_mem.2 hstar)]
  rfl

theorem value?_eq_some_iff (hstar : "*" ∉ configured) {origin : Option String} {value : String} :
    (allowOrigin configured).value? origin = some value ↔ origin = some value ∧ value ∈ configured ∧
    IsHeaderValue value := by
  rw [allowOrigin, if_neg (mt List.contains_iff_mem.1 hstar), AllowOrigin.value?,
    Option.filter_eq_some_iff, AllowOrigin.admits, List.contains_iff_mem,
    encode_mem_headerValues_iff]

def IsAdmitted (configured : List String) (r : Request) (origin : String) : Prop :=
  r.header? "origin" = some origin ∧ origin ∈ configured ∧ IsHeaderValue origin

theorem isHeaderValue_star : IsHeaderValue "*" := by decide +kernel

/-- What cannot stand in a header makes no difference to a rule, nor does the order of the
origins. -/
theorem value?_congr {configured' : List String}
    (hsame : ∀ o, IsHeaderValue o → (o ∈ configured' ↔ o ∈ configured)) :
    (allowOrigin configured').value? = (allowOrigin configured).value? := by
  funext origin
  by_cases hstar : "*" ∈ configured
  · rw [value?_of_star hstar, value?_of_star ((hsame "*" isHeaderValue_star).2 hstar)]
  · have hstar' : "*" ∉ configured' := mt (hsame "*" isHeaderValue_star).1 hstar
    ext value
    rw [value?_eq_some_iff hstar, value?_eq_some_iff hstar']
    exact and_congr_right fun _ => and_congr_left fun hvalue => hsame value hvalue

theorem values_markUnder (rule : AllowOrigin) (r : Request) {response : Response}
    (hresponse : response.values headerName = []) :
    (markUnder rule r response).values headerName = (rule.value? (r.header? "origin")).toList := by
  have hvary : (response.setHeader "vary" vary).values headerName = [] := by
    rw [Response.values_setHeader_of_ne (by decide), hresponse]
  unfold markUnder
  cases rule.value? (r.header? "origin") with
  | none => exact hvary
  | some o => exact Response.values_setHeader_self

end Cors

theorem FailureLog.pass_unmarked (requestId : String) (r : Request) {response : Response}
    (h : response.IsUnmarked) : (pass requestId r response).Ends Response.IsUnmarked := by
  unfold pass
  split
  · exact h
  · split
    · exact h
    · exact h

namespace App

variable (settings : Settings) (doc : Documentation) (key : String) (r : Request)

theorem atRoute_unmarked (route : Option (Endpoint × Captures)) :
    (atRoute settings doc key r route).Ends Response.IsUnmarked := by
  unfold atRoute
  split
  · rfl
  · split
    · exact (atEndpoint_obeys settings doc key r _ _).ends fun _ _ => Accounts.unmarked
    · rfl

theorem withAllow_unmarked (route : Option (Endpoint × Captures)) {response : Response}
    (h : response.IsUnmarked) : (withAllow r route response).IsUnmarked := by
  unfold withAllow
  split
  · split
    · exact h
    · exact (Response.values_setHeader_of_ne (by decide)).trans h
  · exact h

theorem withoutBody_unmarked {response : Response} (h : response.IsUnmarked) :
    (withoutBody r response).IsUnmarked := by
  unfold withoutBody
  split
  · exact h
  · exact h

/-- Behind the rule for other origins, nothing admits a page of one: neither what the endpoints
answer, nor the log of failures, nor the answer to a preflight request. -/
theorem inner_unmarked (requestId : String) :
    (inner settings doc key requestId r).Ends Response.IsUnmarked := by
  unfold inner
  split
  · exact withAllow_unmarked r _ rfl
  · refine (atRoute_unmarked settings doc key r _).bind fun response hresponse => ?_
    refine (FailureLog.pass_unmarked requestId r hresponse).bind fun response hresponse => ?_
    exact withAllow_unmarked r _ (withoutBody_unmarked r hresponse)

theorem values_serveUnder {σ : Type} (rule : Cors.AllowOrigin) (fresh : Fresh)
    (h : Handler σ) (s : σ) :
    ((serveUnder rule settings doc fresh r).run h s).result.values Cors.headerName =
      (rule.value? (r.header? "origin")).toList := by
  have hinner :=
    (inner_unmarked settings doc fresh.streamKey r (RequestId.choose fresh.requestId r)).run h s
  rw [serveUnder, Program.run_map, Response.values_setHeader_of_ne (by decide),
    Cors.values_markUnder rule r hinner]

theorem serveUnder_congr {rule rule' : Cors.AllowOrigin} (h : rule'.value? = rule.value?) :
    serveUnder rule' settings doc = serveUnder rule settings doc := by
  funext fresh r
  unfold serveUnder Cors.markUnder
  rw [h]

theorem build?_result {σ : Type} (h : Handler σ) (s : σ) :
    ((build? settings doc).run h s).result = some (serve settings doc) := by
  rw [build?, Program.run_map, Cors.rule?_result]
  rfl

end App

/-- The service is built whatever origins are configured. If the star is among them, every response
admits all origins. Otherwise a response admits the origin of its request if that was configured and
can stand in a header, and none if not, whether the request is answered at an endpoint, refused,
failed or a preflight request. Texts that cannot stand in a header admit nobody and change nothing
for the others. Origins are compared byte by byte. -/
theorem configured_origins_granted {σ : Type} (settings : Settings) (doc : Documentation)
    (h : Handler σ) (s : σ) :
    let configured := settings.server.corsAllowOrigins
    ((App.build? settings doc).run h s).result = some (App.serve settings doc) ∧
    (∀ (fresh : Fresh) (r : Request),
      let granted := ((App.serve settings doc fresh r).run h s).result.values
        "access-control-allow-origin"
      ("*" ∈ configured → granted = ["*"]) ∧
      ("*" ∉ configured → (∀ origin, granted = [origin] ↔ Cors.IsAdmitted configured r origin) ∧
        ((∀ origin, ¬Cors.IsAdmitted configured r origin) → granted = []))) ∧
    (∀ configured' : List String, (∀ o, IsHeaderValue o → (o ∈ configured' ↔ o ∈ configured)) →
      App.serve { settings with server := { settings.server with corsAllowOrigins := configured' } }
      doc =
        App.serve settings doc) ∧
    ∀ bytes : List UInt8, (Cors.allowOrigin configured).admits bytes = true ↔
      "*" ∈ configured ∨ ∃ o ∈ configured, IsHeaderValue o ∧ Text.Utf8.encode o = bytes := by
  intro configured
  refine ⟨App.build?_result settings doc h s, fun fresh r => ?_, fun configured' hsame => ?_,
    fun bytes => Cors.admits_iff⟩
  · intro granted
    have hgranted : granted = ((Cors.allowOrigin configured).value? (r.header? "origin")).toList :=
      App.values_serveUnder settings doc r _ fresh h s
    refine ⟨fun hstar => ?_, fun hstar => ⟨fun origin => ?_, fun hnone => ?_⟩⟩
    · rw [hgranted, Cors.value?_of_star hstar]
      rfl
    · rw [hgranted, Option.toList_eq_singleton_iff]
      exact Cors.value?_eq_some_iff hstar
    · have hvalue : (Cors.allowOrigin configured).value? (r.header? "origin") = none :=
        Option.eq_none_iff_forall_ne_some.2 fun origin horigin =>
          hnone origin ((Cors.value?_eq_some_iff hstar).1 horigin)
      rw [hgranted, hvalue]
      rfl
  · exact App.serveUnder_congr settings doc (Cors.value?_congr hsame)

def listedSettings (origins : List String) : Settings :=
  { Settings.standard with server := { ServerSettings.standard with corsAllowOrigins := origins } }

def fromOrigin (method target origin : String) : Request :=
  ⟨method, target, [("origin", origin)], []⟩

/-- Of three configured origins no header can hold the first one; the others are admitted, also
where nothing is served. -/
theorem listed_origins_granted :
    let settings := listedSettings ["bad\norigin", "https://a", "é"]
    let answer (r : Request) :=
      ((App.serve settings .null ⟨"k", "i"⟩ r).run (Tables.handler Tables.calm) .empty).result
    (answer (fromOrigin "OPTIONS" "/api/health" "https://a")).values "access-control-allow-origin" =
      ["https://a"] ∧
      (answer (fromOrigin "GET" "/nowhere" "é")).status = 404 ∧
      (answer (fromOrigin "GET" "/nowhere" "é")).values "access-control-allow-origin" = ["é"] ∧
      (answer (fromOrigin "GET" "/nowhere" "bad\norigin")).values "access-control-allow-origin" =
        [] ∧
      App.serve (listedSettings ["é", "https://a"]) .null = App.serve settings .null := by
  intro settings answer
  have hstar : "*" ∉ settings.server.corsAllowOrigins := by decide +kernel
  have hbad : ¬IsHeaderValue "bad\norigin" := by decide +kernel
  obtain ⟨-, hgranted, hsame, -⟩ :=
    configured_origins_granted settings .null (Tables.handler Tables.calm) Tables.empty
  refine ⟨?_, by decide +kernel, ?_, ?_, hsame ["é", "https://a"] fun o ho => ?_⟩
  · exact (((hgranted ⟨"k", "i"⟩ _).2 hstar).1 _).2 ⟨rfl, by decide +kernel, by decide +kernel⟩
  · exact (((hgranted ⟨"k", "i"⟩ _).2 hstar).1 _).2 ⟨rfl, by decide +kernel, by decide +kernel⟩
  · refine ((hgranted ⟨"k", "i"⟩ _).2 hstar).2 fun origin hadmitted => ?_
    obtain ⟨horigin, -, hlegal⟩ := hadmitted
    cases horigin
    exact hbad hlegal
  · have hne : o ≠ "bad\norigin" := fun heq => hbad (heq ▸ ho)
    simp [settings, listedSettings, hne, or_comm]

end Http

end LiveLesson
