import LiveLesson.Proofs.Text.Decoding
import LiveLesson.Url.Form

/-!
Form encoding and the way back. Nothing that divides a query is left in an encoded text, and
decoding gives back every text, so a query of one parameter is read as that parameter.
-/

namespace LiveLesson

namespace Text.Percent

variable {stays : Char → Bool}

theorem spells_encode (hpercent : stays '%' = false) (cs : List Char) :
    Spells (encode stays cs) (cs.flatMap String.utf8EncodeChar) := by
  induction cs with
  | nil => exact .nil
  | cons c cs ih =>
    rw [encode, List.flatMap_cons, List.flatMap_cons]
    by_cases hc : stays c = true
    · have hne : c ≠ '%' := by
        rintro rfl
        rw [hpercent] at hc
        cases hc
      rw [encodeChar_of_stays hc]
      exact .char (fun hescape => hne hescape.1) ih
    · rw [encodeChar, if_neg hc, Utf8.encodeChar_eq]
      exact ih.encodeBytes _

end Text.Percent

namespace Url.Form

open Text

def isRead (c : Char) : Bool := isKept c || c = ' '

theorem isKept_of_mem_digits {c : Char} (h : c ∈ Hex.digits) : isKept c = true :=
  List.forall_iff_forall_mem.1 (show Hex.digits.Forall fun c => isKept c = true by decide) c h

theorem of_mem_encodeChar {c x : Char} (h : x ∈ encodeChar c) :
    isKept x = true ∨ x = '+' ∨ x = '%' := by
  unfold encodeChar at h
  split at h
  · exact .inr (.inl (List.mem_singleton.1 h))
  · have hx : x ∈ Percent.encode isKept [c] := by simpa [Percent.encode] using h
    rcases Percent.of_mem_encode hx with hkept | hpercent | hdigit
    · exact .inl hkept.2
    · exact .inr (.inr hpercent)
    · exact .inl (isKept_of_mem_digits hdigit)

theorem of_mem_encode {s : String} {x : Char} (h : x ∈ (encode s).toList) :
    isKept x = true ∨ x = '+' ∨ x = '%' := by
  rw [encode, String.toList_ofList, List.mem_flatMap] at h
  obtain ⟨c, -, hx⟩ := h
  exact of_mem_encodeChar hx

theorem notMem_encode {x : Char} (s : String) (h : isKept x = false) (hplus : x ≠ '+')
    (hpercent : x ≠ '%') :
    x ∉ (encode s).toList := fun hmem => by
  rcases of_mem_encode hmem with hkept | hx | hx
  · rw [h] at hkept
    cases hkept
  · exact hplus hx
  · exact hpercent hx

theorem map_encodeChar (c : Char) :
    (encodeChar c).map (fun c => if c = '+' then ' ' else c) = Percent.encodeChar isRead c := by
  by_cases hspace : c = ' '
  · subst hspace
    decide
  · have hsame : isRead c = isKept c := by simp [isRead, hspace]
    have hplus : ∀ x ∈ encodeChar c, x ≠ '+' := by
      rintro x hx rfl
      have hx' : '+' ∈ Percent.encode isKept [c] := by simpa [Percent.encode, encodeChar, hspace]
        using hx
      rcases Percent.of_mem_encode hx' with hkept | hpercent | hdigit
      · exact absurd hkept.2 (by decide)
      · exact absurd hpercent (by decide)
      · exact absurd hdigit (by decide)
    have hmap : (encodeChar c).map (fun c => if c = '+' then ' ' else c) = (encodeChar c).map id :=
      List.map_congr_left fun x hx => if_neg (hplus x hx)
    rw [hmap, List.map_id, encodeChar, if_neg hspace, Percent.encodeChar, Percent.encodeChar, hsame]

theorem decodeBytes_encode (s : String) : decodeBytes (encode s).toList = Utf8.encode s := by
  have hmap : (encode s).toList.map (fun c => if c = '+' then ' ' else c) =
      Percent.encode isRead s.toList := by
    rw [encode, String.toList_ofList, List.map_flatMap, Percent.encode]
    exact List.flatMap_congr fun c _ => map_encodeChar c
  rw [decodeBytes, hmap, (Percent.spells_encode (by decide) s.toList).decode_encode, Utf8.encode_eq]

theorem decode_encode (s : String) : decode (encode s).toList = s := by
  rw [decode, decodeBytes_encode, Utf8.decodeLossy_encode]

theorem encode_injective {s t : String} (h : encode s = encode t) : s = t := by
  rw [← decode_encode s, h, decode_encode]

theorem toList_pair (key value : String) :
    (pair key value).toList = (encode key).toList ++ '=' :: (encode value).toList := by
  simp [pair]

theorem pairs_pair (key value : String) : pairs (pair key value) = [(key, value)] := by
  have hkey : '=' ∉ (encode key).toList := notMem_encode key (by decide) (by decide) (by decide)
  have hwhole : '&' ∉ (pair key value).toList := by
    rw [toList_pair, List.mem_append, List.mem_cons]
    rintro (h | h | h)
    · exact notMem_encode key (by decide) (by decide) (by decide) h
    · exact absurd h (by decide)
    · exact notMem_encode value (by decide) (by decide) (by decide) h
  have hcut := cutFirst_append_sep hkey (encode value).toList
  rw [pairs, split_of_notMem hwhole, toList_pair]
  simp [hcut, decode_encode]

end Url.Form

end LiveLesson
