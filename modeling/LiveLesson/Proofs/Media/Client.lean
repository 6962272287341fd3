import LiveLesson.Media.Client
import Mathlib.Data.List.Basic

/-!
What becomes of an order to the media server. It begins with one POST, each further request is where
the reply to the one before led, and the reply to the last one decides; so the reply to the POST
decides exactly if it leads nowhere. No request is sent to an address that is none of the web.
-/

namespace LiveLesson.Media

open Text

namespace Reply

/-- The reply sends a client on to a place that HTTP has an address for. -/
def LeadsOn (reply : Reply) (request : Request) : Prop :=
  reply.status ∈ [301, 302, 303, 307, 308] ∧ ∃ place url, reply.header? "location" = some place ∧
    request.url.join place = .ok url ∧ Uri.isValid url.toText = true

theorem nextMethod?_eq_none_iff (reply : Reply) (method : Method) :
    reply.nextMethod? method = none ↔ reply.status ∉ [301, 302, 303, 307, 308] := by
  unfold nextMethod?
  split
  · next h =>
    have hmem : reply.status ∈ [301, 302, 303] := by simpa [or_assoc] using h
    exact ⟨nofun, fun hnot => absurd (List.mem_append_left [307, 308] hmem) hnot⟩
  · next h =>
    have hnot : reply.status ∉ [301, 302, 303] := by simpa [and_assoc] using h
    split
    · next h' =>
      have hmem : reply.status ∈ [307, 308] := by simpa using h'
      exact ⟨nofun, fun hnone => absurd (List.mem_append_right [301, 302, 303] hmem) hnone⟩
    · next h' =>
      have hnot' : reply.status ∉ [307, 308] := by simpa using h'
      exact ⟨fun _ hmem => (List.mem_append (s := [301, 302, 303]).1 hmem).elim hnot hnot',
        fun _ => rfl⟩

theorem next?_eq_none_iff (reply : Reply) (request : Request) :
    reply.next? request = none ↔ ¬reply.LeadsOn request := by
  have hmethod := nextMethod?_eq_none_iff reply request.method
  constructor
  · rintro hnone ⟨hstatus, place, url, hplace, hjoin, hvalid⟩
    obtain ⟨method, hsome⟩ := Option.ne_none_iff_exists'.1 fun h => hmethod.1 h hstatus
    simp [next?, hsome, hplace, hjoin, hvalid, Except.toOption] at hnone
  · intro hnot
    by_cases hstatus : reply.status ∈ [301, 302, 303, 307, 308]
    · unfold next?
      cases hplace : reply.header? "location" with
      | none => simp
      | some place =>
        cases hjoin : request.url.join place with
        | error e => simp [hjoin, Except.toOption]
        | ok url =>
          have hvalid : Uri.isValid url.toText = false :=
            Bool.eq_false_iff.2 fun hvalid => hnot ⟨hstatus, place, url, hplace, hjoin, hvalid⟩
          simp [hjoin, hvalid, Except.toOption]
    · simp [next?, hmethod.2 hstatus]

theorem not_leadsOn_of_isSuccess {reply : Reply} (h : reply.isSuccess = true) (request : Request) :
    ¬reply.LeadsOn request := by
  rintro ⟨hstatus, -⟩
  have hall : ∀ status ∈ [301, 302, 303, 307, 308], ¬(200 ≤ status ∧ status ≤ 299) :=
    List.forall_iff_forall_mem.1 (by decide)
  simp only [isSuccess, Bool.and_eq_true, decide_eq_true_eq] at h
  exact hall reply.status hstatus h

end Reply

variable {server : Server} {reply : Reply} {request next : Request} {left count : Nat}

theorem send_of_unfit (hunfit : isSendable request.url = false) :
    send server left count request = ⟨[], .error (.request "unfit address")⟩ := by
  rw [send.eq_def, hunfit]
  rfl

theorem send_of_final (hfit : isSendable request.url = true)
    (hreply : server count request = some reply) (hnext : reply.next? request = none) :
    send server left count request = ⟨[request], .ok reply⟩ := by
  rw [send.eq_def]
  simp only [hfit, hreply, hnext, Bool.not_true, Bool.false_eq_true, if_false]

/-- Each request, the first one being the one numbered, leads on to the one behind it. -/
def IsChain (server : Server) : Nat → List Request → Prop
  | count, request :: next :: rest =>
    (∃ reply, server count request = some reply ∧ reply.next? request = some next) ∧
      IsChain server (count + 1) (next :: rest)
  | _, _ => True

/-- How an exchange ends at its last request. -/
inductive Exchange.Ends (x : Exchange) (server : Server) (left count : Nat) (last : Request) :
    Prop where
  | answered (reply : Reply) : server count last = some reply → reply.next? last = none →
    x.result = .ok reply → Ends x server left count last
  | unanswered : server count last = none → x.result = .error (.request "connection failed") →
    Ends x server left count last
  | givenUp (reply : Reply) (next : Request) : server count last = some reply →
    reply.next? last = some next → x.sent.length = left + 1 →
    x.result = .error (.request "too many redirects") → Ends x server left count last
  | unfit (reply : Reply) (next : Request) : server count last = some reply →
    reply.next? last = some next → isSendable next.url = false →
    x.result = .error (.request "unfit address") → Ends x server left count last

structure Exchange.Follows (x : Exchange) (server : Server) (left count : Nat) (request : Request) :
    Prop where
  first : x.sent.head? = some request
  bounded : x.sent.length ≤ left + 1
  fit : ∀ r ∈ x.sent, isSendable r.url = true
  chain : IsChain server count x.sent
  last : ∃ last, x.sent.getLast? = some last ∧ x.Ends server left (count + (x.sent.length - 1)) last

theorem Exchange.follows_single {x : Exchange} (hfit : isSendable request.url = true)
    (hsent : x.sent = [request]) (h : x.Ends server left count request) :
    x.Follows server left count request where
  first := by rw [hsent]; rfl
  bounded := by rw [hsent]; exact Nat.le_add_left 1 left
  fit := by simpa [hsent] using hfit
  chain := by rw [hsent]; trivial
  last := ⟨request, by rw [hsent]; rfl, by rw [hsent]; exact h⟩

theorem Exchange.Follows.cons {x : Exchange} (h : x.Follows server left (count + 1) next)
    (hfit : isSendable request.url = true) (hreply : server count request = some reply)
    (hnext : reply.next? request = some next) :
    Exchange.Follows ⟨request :: x.sent, x.result⟩ server (left + 1) count request := by
  obtain ⟨rest, hsent⟩ : ∃ rest, x.sent = next :: rest := List.head?_eq_some_iff.1 h.first
  obtain ⟨last, hlast, hends⟩ := h.last
  have hnumber : count + ((request :: x.sent).length - 1) = count + 1 + (x.sent.length - 1) := by
    simp only [hsent, List.length_cons]
    omega
  refine ⟨rfl, Nat.succ_le_succ h.bounded, List.forall_mem_cons.2 ⟨hfit, h.fit⟩, ?_, last, ?_, ?_⟩
  · have hchain := h.chain
    rw [hsent] at hchain
    simp only [hsent]
    exact ⟨⟨reply, hreply, hnext⟩, hchain⟩
  · rw [hsent] at hlast
    simpa only [hsent, List.getLast?_cons_cons] using hlast
  · rw [hnumber]
    cases hends with
    | answered reply hreply hnext hresult => exact .answered reply hreply hnext hresult
    | unanswered hnone hresult => exact .unanswered hnone hresult
    | givenUp reply next hreply hnext hlength hresult =>
      exact .givenUp reply next hreply hnext (congrArg (· + 1) hlength) hresult
    | unfit reply next hreply hnext hunfit hresult =>
      exact .unfit reply next hreply hnext hunfit hresult

theorem follows_send (server : Server) (left count : Nat) (request : Request)
    (hfit : isSendable request.url = true) :
    (send server left count request).Follows server left count request := by
  fun_induction send server left count request with
  | case1 left count request hunfit => simp [hfit] at hunfit
  | case2 left count request _ hnone =>
    exact Exchange.follows_single hfit rfl (.unanswered hnone rfl)
  | case3 left count request _ reply hreply hnext =>
    exact Exchange.follows_single hfit rfl (.answered reply hreply hnext rfl)
  | case4 count request _ reply hreply next hnext =>
    exact Exchange.follows_single hfit rfl (.givenUp reply next hreply hnext rfl rfl)
  | case5 count request _ reply hreply next left hnext rest ih =>
    by_cases hnextFit : isSendable next.url = true
    · exact (ih hnextFit).cons hfit hreply hnext
    -- The next request is not sent, so this one stays the last.
    · have hunfit := Bool.eq_false_iff.2 hnextFit
      have hrest : rest = ⟨[], .error (.request "unfit address")⟩ := send_of_unfit hunfit
      rw [hrest]
      exact Exchange.follows_single hfit rfl (.unfit reply next hreply hnext hunfit rfl)

namespace Exchange.Ends

variable {x : Exchange} {last : Request}

theorem result_eq (h : x.Ends server left count last) (hreply : server count last = some reply)
    (hnot : ¬reply.LeadsOn last) : x.result = .ok reply := by
  rw [← Reply.next?_eq_none_iff] at hnot
  cases h with
  | answered reply' hreply' _ hresult => rwa [Option.some.inj (hreply.symm.trans hreply')]
  | unanswered hnone _ => cases hnone.symm.trans hreply
  | givenUp reply' next hreply' hnext _ _ | unfit reply' next hreply' hnext _ _ =>
    rw [Option.some.inj (hreply.symm.trans hreply'), hnext] at hnot
    cases hnot

theorem of_leadsOn (h : x.Ends server left count last) (hreply : server count last = some reply)
    (hleads : reply.LeadsOn last) :
    x.sent.length = left + 1 ∧ x.result = .error (.request "too many redirects") ∨
      ∃ next, reply.next? last = some next ∧ isSendable next.url = false ∧
        x.result = .error (.request "unfit address") := by
  cases h with
  | answered reply' hreply' hnext _ =>
    rw [← Option.some.inj (hreply.symm.trans hreply')] at hnext
    exact absurd hleads ((Reply.next?_eq_none_iff reply last).1 hnext)
  | unanswered hnone _ => cases hnone.symm.trans hreply
  | givenUp reply' next hreply' _ hlength hresult => exact .inl ⟨hlength, hresult⟩
  | unfit reply' next hreply' hnext hunfit hresult =>
    rw [← Option.some.inj (hreply.symm.trans hreply')] at hnext
    exact .inr ⟨next, hnext, hunfit, hresult⟩

theorem of_none (h : x.Ends server left count last) (hnone : server count last = none) :
    x.result = .error (.request "connection failed") := by
  cases h with
  | unanswered _ hresult => exact hresult
  | answered reply hreply | givenUp reply next hreply | unfit reply next hreply =>
    cases hnone.symm.trans hreply

theorem judge_eq_ok_iff (h : x.Ends server left count last) :
    judge x.result = .ok () ↔ ∃ reply, server count last = some reply ∧ reply.isSuccess = true := by
  constructor
  · intro hok
    cases h with
    | answered reply hreply _ hresult =>
      refine ⟨reply, hreply, Bool.of_not_eq_false fun hfailure => ?_⟩
      simp [hresult, judge, hfailure] at hok
    | unanswered _ hresult => simp [hresult, judge] at hok
    | givenUp reply next _ _ _ hresult => simp [hresult, judge] at hok
    | unfit reply next _ _ _ hresult => simp [hresult, judge] at hok
  · rintro ⟨reply, hreply, hsuccess⟩
    rw [h.result_eq hreply (Reply.not_leadsOn_of_isSuccess hsuccess last), judge, if_pos hsuccess]

end Exchange.Ends

/-- An order is judged by the reply to it, and is the only request, exactly if that reply leads
nowhere. -/
theorem judged_at_once_iff (hfit : isSendable request.url = true)
    (hreply : server 0 request = some reply) :
    (send server redirectLimit 0 request).sent = [request] ∧
        judge (send server redirectLimit 0 request).result = judge (.ok reply) ↔
      ¬reply.LeadsOn request := by
  constructor
  · rintro ⟨hsent, hresult⟩ hleads
    obtain ⟨-, -, -, -, last, hlast, hends⟩ := follows_send server redirectLimit 0 request hfit
    rw [hsent] at hlast hends
    obtain rfl : request = last := Option.some.inj hlast
    have hfailure : reply.isSuccess = false := Bool.eq_false_iff.2 fun hsuccess =>
      Reply.not_leadsOn_of_isSuccess hsuccess request hleads
    obtain ⟨-, herror⟩ | ⟨next, -, -, herror⟩ := hends.of_leadsOn hreply hleads <;>
      simp [herror, judge, hfailure] at hresult
  · intro hnot
    rw [send_of_final hfit hreply ((Reply.next?_eq_none_iff reply request).2 hnot)]
    exact ⟨rfl, rfl⟩

/-- An order that cannot be put into an address, or whose address is none of the web, is not sent.
Of an order and the requests that it leads on to, the reply to the last one decides: the stream is
granted exactly if that reply is a success. So the reply to the order itself decides exactly if it
leads nowhere. -/
theorem last_reply_decides (server : Server) (endpoint : Endpoint) (key : String) :
    (∀ e, endpoint.provisionUrl key = .error e →
      provision server endpoint key = ([], .error (.invalidUrl e))) ∧
    ∀ url, endpoint.provisionUrl key = .ok url →
      (isSendable url = false →
        provision server endpoint key = ([], .error (.request "unfit address"))) ∧
      (isSendable url = true → ∃ sent result last, provision server endpoint key = (sent, result) ∧
        sent.head? = some ⟨.post, url⟩ ∧ sent.length ≤ redirectLimit + 1 ∧
        (∀ r ∈ sent, isSendable r.url = true) ∧ IsChain server 0 sent ∧
        sent.getLast? = some last ∧
        (result = .ok () ↔
          ∃ reply, server (sent.length - 1) last = some reply ∧ reply.isSuccess = true) ∧
        (∀ reply, server (sent.length - 1) last = some reply → ¬reply.LeadsOn last →
          reply.isSuccess = false →
          result = .error (.rejected reply.status (Utf8.decodeLossy reply.body))) ∧
        (∀ reply, server (sent.length - 1) last = some reply → reply.LeadsOn last →
          sent.length = redirectLimit + 1 ∧ result = .error (.request "too many redirects") ∨
            ∃ next, reply.next? last = some next ∧ isSendable next.url = false ∧
              result = .error (.request "unfit address")) ∧
        (server (sent.length - 1) last = none → result = .error (.request "connection failed")) ∧
        ∀ reply, server 0 ⟨.post, url⟩ = some reply →
          (sent = [⟨.post, url⟩] ∧ result = judge (.ok reply) ↔ ¬reply.LeadsOn ⟨.post, url⟩)) := by
  refine ⟨fun e he => by rw [provision, he], fun url hurl => ?_⟩
  have hprovision : provision server endpoint key =
      ((send server redirectLimit 0 ⟨.post, url⟩).sent,
        judge (send server redirectLimit 0 ⟨.post, url⟩).result) := by
    rw [provision, hurl]
  refine ⟨fun hunfit => ?_, fun hfit => ?_⟩
  · rw [hprovision, send_of_unfit hunfit]
    rfl
  obtain ⟨hfirst, hbounded, hsendable, hchain, last, hlast, hends⟩ :=
    follows_send server redirectLimit 0 ⟨.post, url⟩ hfit
  rw [Nat.zero_add] at hends
  refine ⟨_, _, last, hprovision, hfirst, hbounded, hsendable, hchain, hlast,
    hends.judge_eq_ok_iff, fun reply hreply hnot hfailure => ?_, fun reply hreply hleads => ?_,
    fun hnone => ?_, fun reply hreply => judged_at_once_iff hfit hreply⟩
  · rw [hends.result_eq hreply hnot, judge, if_neg (Bool.eq_false_iff.1 hfailure)]
  · obtain ⟨hlength, hresult⟩ | ⟨next, hnext, hunfit, hresult⟩ := hends.of_leadsOn hreply hleads
    · exact .inl ⟨hlength, by rw [hresult, judge]⟩
    · exact .inr ⟨next, hnext, hunfit, by rw [hresult, judge]⟩
  · rw [hends.of_none hnone, judge]

/-- Nothing is asked of an address of another kind. -/
example : provision (fun _ _ => some ⟨200, [], []⟩)
    ⟨⟨"ftp", some ⟨"", none, .name "media", none⟩, .segments [""], none, none⟩⟩ "k" =
      ([], .error (.request "unfit address")) := by
  decide +kernel

def mediaRoot : Endpoint :=
  ⟨⟨"http", some ⟨"", none, .name "media", none⟩, .segments [""], none, none⟩⟩

def orderOfK : Request :=
  ⟨.post, ⟨"http", some ⟨"", none, .name "media", none⟩, .segments ["api", "stream", "add"],
    some "stream=k", none⟩⟩

/-- A refusal that leads nowhere is told as it is. -/
theorem busy_reply_decides : mediaRoot.provisionUrl "k" = .ok orderOfK.url ∧
    provision (fun _ _ => some ⟨503, [], [98, 117, 115, 121]⟩) mediaRoot "k" =
      ([orderOfK], .error (.rejected 503 "busy")) := by
  have hurl : mediaRoot.provisionUrl "k" = .ok orderOfK.url := by decide +kernel
  obtain ⟨sent, result, last, hprovision, -, -, -, -, -, -, -, -, -, hdecides⟩ :=
    ((last_reply_decides (fun _ _ => some ⟨503, [], [98, 117, 115, 121]⟩) mediaRoot "k").2
      orderOfK.url hurl).2 (by decide +kernel)
  obtain ⟨hsent, hresult⟩ := (hdecides _ rfl).2 fun hleads => absurd hleads.1 (by decide)
  have hjudge : judge (.ok ⟨503, [], [98, 117, 115, 121]⟩) = .error (.rejected 503 "busy") := by
    decide +kernel
  exact ⟨hurl, by rw [hprovision, hsent, hresult, hjudge]; rfl⟩

/-- An order that is answered with another place is taken for granted when that place can be
visited. -/
theorem moved_order_accepted :
    provision (fun n _ => some (if n = 0 then ⟨302, [("location", "/done")], []⟩
      else ⟨200, [], []⟩)) mediaRoot "k" =
      ([orderOfK, ⟨.get, ⟨"http", some ⟨"", none, .name "media", none⟩, .segments ["done"], none,
        none⟩⟩], .ok ()) ∧
    Reply.isSuccess ⟨302, [("location", "/done")], []⟩ = false := by
  decide +kernel

end LiveLesson.Media
