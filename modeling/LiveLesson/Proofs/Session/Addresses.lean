import LiveLesson.Session.Playback
import LiveLesson.Session.StreamPath
import Mathlib.Data.List.TakeWhile

/-!
Playback addresses beside stream paths. Behind scheme, host and port an address has a path under
which the media server reports the stream, and the key that such a path is read to is the one that
the address was made of. Slashes behind the host and around the application make no difference.
-/

namespace LiveLesson

namespace StreamKey

structure IsPlain (key : String) : Prop where
  noSlash : '/' ∉ key.toList
  notBlank : ¬ (key.toList.all Text.isBlank) = true

instance (key : String) : Decidable (IsPlain key) :=
  decidable_of_iff ('/' ∉ key.toList ∧ ¬ (key.toList.all Text.isBlank) = true)
    ⟨fun h => ⟨h.1, h.2⟩, fun h => ⟨h.noSlash, h.notBlank⟩⟩

theorem IsFresh.isPlain {key : String} (h : IsFresh key) : IsPlain key := by
  obtain ⟨part, _, halphabet, rfl⟩ := h
  have hchars : (ofRandom part).toList = head.toList ++ part := by
    rw [ofRandom, String.toList_append, String.toList_ofList]
  refine ⟨fun hslash => ?_, fun hblank => ?_⟩
  · rw [hchars] at hslash
    rcases List.mem_append.1 hslash with hslash | hslash
    · exact absurd hslash (by decide)
    · exact absurd (halphabet _ hslash) (by decide)
  · rw [hchars, List.all_append, Bool.and_eq_true] at hblank
    exact absurd hblank.1 (by decide)

end StreamKey

theorem StreamPath.key?_two_parts {app : List Char} {key : String} (happ : '/' ∉ app)
    (hkey : StreamKey.IsPlain key) :
    key? (String.ofList ('/' :: app ++ '/' :: key.toList)) = some key := by
  have hparts : Text.split '/' ('/' :: app ++ '/' :: key.toList) = [[], app, key.toList] := by
    have hlead : Text.split '/' ('/' :: app ++ '/' :: key.toList) =
        [] :: Text.split '/' (app ++ '/' :: key.toList) :=
      Text.split_append_sep List.not_mem_nil (app ++ '/' :: key.toList)
    rw [hlead, Text.split_append_sep happ, Text.split_of_notMem hkey.noSlash]
  rw [key?, String.toList_ofList, hparts]
  exact (if_neg hkey.notBlank).trans (congrArg some (String.ofList_toList))

namespace PlaybackUrls

variable (s : PlaybackSettings)

theorem path_injective : Function.Injective (path s) := by
  intro key key' h
  have hkey := List.append_cancel_left h
  exact String.toList_injective (List.cons.inj hkey).2

theorem ofKey_ne {key key' : String} (hne : key ≠ key') :
    (ofKey s key).rtmp ≠ (ofKey s key').rtmp ∧ (ofKey s key).flv ≠ (ofKey s key').flv ∧
      (ofKey s key).hls ≠ (ofKey s key').hls := by
  have hpath : path s key ≠ path s key' := fun h => hne (path_injective s h)
  refine ⟨fun h => ?_, fun h => ?_, fun h => ?_⟩
  · exact hpath (List.append_cancel_left (String.ofList_injective h))
  · exact hpath (List.append_cancel_left (List.append_cancel_right (String.ofList_injective h)))
  · exact hpath (List.append_cancel_left (List.append_cancel_right (String.ofList_injective h)))

end PlaybackUrls

def slashes (n : Nat) : String := String.ofList (List.replicate n '/')

theorem isSlash_of_mem_slashes {n : Nat} :
    ∀ c ∈ (slashes n).toList, PlaybackUrls.isSlash c = true := by
  intro c hc
  rw [slashes, String.toList_ofList] at hc
  rw [List.eq_of_mem_replicate hc]
  rfl

theorem strip_append {α : Type} {p : α → Bool} (xs : List α) {ys zs : List α}
    (hys : ∀ y ∈ ys, p y = true) (hzs : ∀ z ∈ zs, p z = true) :
    Text.dropEndWhile p ((ys ++ xs ++ zs).dropWhile p) = Text.dropEndWhile p (xs.dropWhile p) := by
  rw [List.append_assoc, List.dropWhile_append_of_pos hys, List.dropWhile_append]
  split
  · next hempty =>
    have hnil : zs.dropWhile p = [] := List.dropWhile_eq_nil_iff.2 hzs
    rw [hnil, List.isEmpty_iff.1 hempty]
  · exact Text.dropEndWhile_append _ hzs

namespace PlaybackUrls

theorem ofKey_slashes (s : PlaybackSettings) (key : String) (behind front back : Nat) :
    ofKey { s with
      host := s.host ++ slashes behind, app := slashes front ++ s.app ++ slashes back } key =
      ofKey s key := by
  have hhost : hostChars { s with
      host := s.host ++ slashes behind, app := slashes front ++ s.app ++ slashes back } =
      hostChars s := by
    rw [hostChars, String.toList_append, Text.dropEndWhile_append _ isSlash_of_mem_slashes,
      hostChars]
  have happ : appChars { s with
      host := s.host ++ slashes behind, app := slashes front ++ s.app ++ slashes back } =
      appChars s := by
    rw [appChars, String.toList_append, String.toList_append, strip_append _ isSlash_of_mem_slashes
      isSlash_of_mem_slashes, appChars]
  simp only [ofKey, origin, path, hhost, happ]

/-- What stands behind scheme, host and port, if the host holds no slash: all from the third slash
on. -/
def behindOrigin (url : String) : String :=
  String.ofList (((url.toList.dropWhile fun c => c != '/').drop 2).dropWhile fun c => c != '/')

theorem dropWhile_to_slash {front : List Char} (h : '/' ∉ front) (back : List Char) :
    (front ++ '/' :: back).dropWhile (fun c => c != '/') = '/' :: back := by
  have hfront : ∀ c ∈ front, (c != '/') = true := by
    intro c hc
    rw [bne_iff_ne]
    rintro rfl
    exact h hc
  rw [List.dropWhile_append_of_pos hfront]
  rfl

variable {s : PlaybackSettings}

theorem behindOrigin_rtmp (hhost : '/' ∉ hostChars s) (key : String) :
    behindOrigin (ofKey s key).rtmp = String.ofList (path s key) := by
  have hport : '/' ∉ Nat.toDigits 10 s.rtmpPort := fun h =>
    absurd (Nat.isDigit_of_mem_toDigits (by decide) (by decide) h) (by decide)
  have hauthority : '/' ∉ hostChars s ++ ':' :: Nat.toDigits 10 s.rtmpPort := by
    simp [hhost, hport]
  have hchars : (ofKey s key).rtmp.toList =
      "rtmp:".toList ++ '/' :: '/' :: (hostChars s ++ ':' :: Nat.toDigits 10 s.rtmpPort) ++
        path s key := by
    simp [ofKey, origin]
  rw [behindOrigin, hchars, List.append_assoc, List.cons_append, dropWhile_to_slash (by decide)]
  exact congrArg String.ofList (dropWhile_to_slash hauthority _)

/-- The addresses are scheme, host and port, one and the same path, and an ending. The path is read
to the key. -/
theorem ofKey_parts {key : String} (happ : '/' ∉ appChars s) (hkey : StreamKey.IsPlain key) :
    ∃ path : String, StreamPath.key? path = some key ∧
      (ofKey s key).rtmp = String.ofList (origin "rtmp" s s.rtmpPort) ++ path ∧
      (ofKey s key).flv = String.ofList (origin "http" s s.flvPort) ++ path ++ ".flv" ∧
      (ofKey s key).hls = String.ofList (origin "http" s s.hlsPort) ++ path ++ ".m3u8" ∧
      ('/' ∉ hostChars s → behindOrigin (ofKey s key).rtmp = path) := by
  refine ⟨String.ofList (path s key), StreamPath.key?_two_parts happ hkey, ?_, ?_, ?_,
    fun hhost => ?_⟩
  · rw [ofKey, String.ofList_append]
  · simp only [ofKey, String.ofList_append, String.ofList_toList]
  · simp only [ofKey, String.ofList_append, String.ofList_toList]
  · exact behindOrigin_rtmp hhost key

theorem key?_of_rtmp {key path : String} (happ : '/' ∉ appChars s) (hkey : StreamKey.IsPlain key)
    (hpath : (ofKey s key).rtmp = String.ofList (origin "rtmp" s s.rtmpPort) ++ path) :
    StreamPath.key? path = some key := by
  obtain ⟨path', hread, hrtmp, _⟩ := ofKey_parts happ hkey
  rw [hrtmp] at hpath
  rwa [← (String.append_right_inj _).1 hpath]

end PlaybackUrls

end LiveLesson
