import LiveLesson.Media.Endpoint
import LiveLesson.Proofs.Url.Form
import LiveLesson.Proofs.Url.Web

/-!
The address that asks the media server for a stream. Below the base of the server it is the same for
every stream, and the key is all that its query says.
-/

namespace LiveLesson

namespace Url

variable {base : Url} {port : Nat} {parts : List String}

theorem pathText_of_authority {url : Url} (h : url.authority ≠ none) :
    url.pathText = url.path.toText := by
  unfold pathText
  split
  · next hnone _ => exact absurd hnone h
  · rfl

theorem kind_of_web (h : base.scheme = "http" ∨ base.scheme = "https") :
    ∃ port, SchemeKind.of base.scheme = .web port := by
  rcases h with h | h <;> rw [h]
  · exact ⟨80, rfl⟩
  · exact ⟨443, rfl⟩

end Url

namespace Media

open Url Text

def folderText (text : String) : String :=
  if text.toList.getLast? = some '/' then text else text ++ "/"

theorem asFolder_segments {parts : List String} (hne : parts ≠ [])
    (hparts : ∀ s ∈ parts, Path.IsSegment s) :
    ∃ front, asFolder (.segments parts) = .segments (front ++ [""]) ∧
      folderText (Path.segments parts).toText = (Path.segments front).toText ++ "/" := by
  obtain ⟨front, last, rfl⟩ := (List.eq_nil_or_concat' parts).resolve_left hne
  have htext : (Path.segments (front ++ [last])).toText =
      (Path.segments front).toText ++ ("/" ++ last) := by
    simp [Path.toText]
  rw [asFolder, List.getLast?_concat, htext, folderText]
  by_cases hempty : last = ""
  · subst hempty
    exact ⟨front, by simp, by simp⟩
  · have hslash : ((Path.segments front).toText ++ ("/" ++ last)).toList.getLast? ≠ some '/' := by
      have hchars : last.toList ≠ [] := fun hnil => hempty (String.toList_eq_nil_iff.1 hnil)
      rw [String.toList_append, String.toList_append, List.getLast?_append_of_ne_nil _ (by simp),
        List.getLast?_append_of_ne_nil _ hchars]
      exact fun h => (hparts last (by simp)).noSlash (List.mem_of_getLast? h)
    refine ⟨front ++ [last], by simp [hempty], ?_⟩
    rw [htext, if_neg hslash]

namespace Endpoint

variable {base : Url} {port : Nat}

theorem pieces_provisionPath (port : Nat) :
    Path.pieces (.web port) provisionPath.toList = ["api", "stream", "add"].map String.toList := by
  rw [Path.pieces, List.map_congr_left (g := id) (fun c hc => ?_), List.map_id]
  · decide
  · have hplain : c ≠ '\\' := by
      rintro rfl
      exact absurd hc (by decide)
    by_cases hslash : c = '/' <;> simp [SchemeKind.isSlash, hslash, hplain]

theorem join_provisionPath {front : List String} (hkind : SchemeKind.of base.scheme = .web port)
    (hpath : base.path = .segments (front ++ [""])) : base.join provisionPath =
      .ok { base with
        path := .segments (front ++ ["api", "stream", "add"])
        query := none
        fragment := none } := by
  have hclean : clean provisionPath = provisionPath.toList := by decide
  have hscheme : scheme? provisionPath.toList = none := by decide
  have hdots : ∀ piece ∈ ["api", "stream", "add"].map String.toList, ¬Path.IsDots piece :=
    List.forall_iff_forall_mem.1 (by decide)
  have hfollow : Path.follow (.web port) (Path.shorten (.web port) (front ++ [""]))
      provisionPath.toList =
      front ++ ["api", "stream", "add"] := by
    have hshorten : Path.shorten (.web port) (front ++ [""]) = front := List.dropLast_concat
    rw [hshorten, Path.follow_web, pieces_provisionPath, Path.addAll_of_not_isDots hdots]
    rfl
  have hcut : cutTail provisionPath.toList =
      ('a' :: "pi/stream/add".toList, none, none) := by decide
  have hslashes : leadingSlashes (.web port) ('a' :: "pi/stream/add".toList) = 0 := rfl
  have hslash : (SchemeKind.web port).isSlash 'a' = false := rfl
  rw [join, hclean, hscheme, hpath]
  dsimp only
  rw [resolve, hkind, hcut]
  dsimp only
  rw [hslashes, hslash]
  exact congrArg (fun path => Except.ok
    { base with path := .segments path, query := none, fragment := none }) hfollow

/-- The address of an order is the folder of the base, the way from there, and the key. -/
theorem provisionUrl_eq (base : Url) {front : List String}
    (hkind : SchemeKind.of base.scheme = .web port) (hpath : base.path = .segments (front ++ [""]))
    (key : String) : provisionUrl ⟨base⟩ key =
      .ok ⟨base.scheme, base.authority, .segments (front ++ ["api", "stream", "add"]),
        some (Form.pair "stream" key), none⟩ := by
  rw [provisionUrl, join_provisionPath hkind hpath]
  rfl

theorem toText_order (scheme : String) (a : Authority) (front : List String) (key : String) :
    toText ⟨scheme, some a, .segments (front ++ ["api", "stream", "add"]),
      some (Form.pair "stream" key), none⟩ =
      scheme ++ "://" ++ a.toText ++ (Path.segments front).toText ++ "/api/stream/add" ++
        "?stream=" ++ Form.encode key := by
  have hname : Form.encode "stream" = "stream" := by decide
  rw [toText, pathText_of_authority (by simp), Form.pair, hname, ← String.toList_inj]
  simp [Path.toText]

/-- Every key is carried as it is: the address of its order is below the base of the server, the key
is the one parameter, and the rest of the address is the same for all keys. -/
theorem key_carried {address : String} (hread : Url.parse address = .ok base)
    (hweb : base.scheme = "http" ∨ base.scheme = "https") :
    ∃ endpoint front, ofText address = .ok endpoint ∧
      (∀ key, ∃ url query, endpoint.provisionUrl key = .ok url ∧ url.scheme = base.scheme ∧
        url.authority = base.authority ∧
        url.pathText = folderText base.pathText ++ "api/stream/add" ∧
        url.query = some query ∧ Form.pairs query = [("stream", key)] ∧ url.fragment = none ∧
        url.toText = front ++ "?stream=" ++ Form.encode key) ∧
      ∀ key key' url url', endpoint.provisionUrl key = .ok url →
      endpoint.provisionUrl key' = .ok url' →
        url.toText = url'.toText → key = key' := by
  obtain ⟨port, hkind⟩ := kind_of_web hweb
  obtain ⟨a, parts, hauthority, hpath, hne, hparts⟩ := parse_web hread hkind
  obtain ⟨front, hfolder, htext⟩ := asFolder_segments hne hparts
  have hof : ofText address =
      .ok ⟨{ base with path := asFolder base.path }⟩ := by rw [ofText, hread]
  have hurl : ∀ key, provisionUrl ⟨{ base with path := asFolder base.path }⟩ key =
      .ok ⟨base.scheme, some a, .segments (front ++ ["api", "stream", "add"]),
        some (Form.pair "stream" key), none⟩ :=
    fun key => by
      rw [provisionUrl_eq { base with path := asFolder base.path } hkind (by rw [hpath, hfolder]),
        hauthority]
  have hbase : folderText base.pathText = (Path.segments front).toText ++ "/" := by
    rw [pathText_of_authority (by simp [hauthority]), hpath, htext]
  refine ⟨_, _, hof, fun key => ⟨_, _, hurl key, rfl, hauthority.symm, ?_, rfl,
    Form.pairs_pair "stream" key, rfl,
    toText_order base.scheme a front key⟩, fun key key' url url' h h' hsame => ?_⟩
  · rw [pathText_of_authority (by simp), hbase]
    simp [Path.toText, String.append_assoc]
  · rw [hurl, Except.ok.injEq] at h h'
    rw [← h, ← h', toText_order, toText_order, String.append_right_inj] at hsame
    exact Form.encode_injective hsame

/-- What divides addresses is no trouble in a key, and what looks like its encoded form is another
key. -/
theorem divided_key_carried :
    Url.parse "http://media:8090/control?x=1#top" =
        .ok ⟨"http", some ⟨"", none, .name "media", some 8090⟩, .segments ["control"], some "x=1",
          some "top"⟩ ∧
      ∃ endpoint url query url', ofText "http://media:8090/control?x=1#top" = .ok endpoint ∧
        endpoint.provisionUrl "live a&b" = .ok url ∧ url.query = some query ∧
        Form.pairs query = [("stream", "live a&b")] ∧ url.pathText = "/control/api/stream/add" ∧
        url.toText = "http://media:8090/control/api/stream/add?stream=live+a%26b" ∧
        endpoint.provisionUrl "live+a%26b" = .ok url' ∧ url.toText ≠ url'.toText := by
  have hread : Url.parse "http://media:8090/control?x=1#top" =
      .ok ⟨"http", some ⟨"", none, .name "media", some 8090⟩, .segments ["control"], some "x=1",
        some "top"⟩ := by
    decide +kernel
  obtain ⟨endpoint, front, hof, hcarried, hapart⟩ := key_carried hread (.inl rfl)
  obtain ⟨url, query, hurl, -, -, hpath, hquery, hpairs, -, -⟩ := hcarried "live a&b"
  obtain ⟨url', -, hurl', -⟩ := hcarried "live+a%26b"
  have htext : (ofText "http://media:8090/control?x=1#top").map
      (fun e => (e.provisionUrl "live a&b").map Url.toText) =
      .ok (.ok "http://media:8090/control/api/stream/add?stream=live+a%26b") := by decide +kernel
  rw [hof] at htext
  simp only [Except.map, hurl, Except.ok.injEq] at htext
  exact ⟨hread, endpoint, url, query, url', hof, hurl, hquery,
    hpairs, by rw [hpath]; decide +kernel, htext, hurl',
    fun hsame => absurd (hapart _ _ _ _ hurl hurl' hsame) (by decide)⟩

end Endpoint

end Media

end LiveLesson
