import LiveLesson.Config.Reading
import LiveLesson.Proofs.Config.Tree

/-!
What is read from a place in a tree of settings. A slot that sets one part of a record leaves the
other parts alone, so a part is read from the entry of its name, whatever stands around it; a text
setting is read from the end of its names.
-/

namespace LiveLesson.Config

namespace Slot

variable {α β : Type} {slots : List (Slot α)} {name : String} {read : Tree → Except Fault β}
  {get : α → β} {a b : α}
  {entries : List (String × Tree)} {t : Tree}

def Keeps (get : α → β) (slot : Slot α) : Prop :=
  ∀ {t : Tree} {a b : α}, slot.fill t a = .ok b → get b = get a

/-- A part of a record is read by the slot of its name, and by no other. -/
structure Reads (slots : List (Slot α)) (name : String) (read : Tree → Except Fault β)
    (get : α → β) : Prop where
  found : ∃ slot, slots.find? (·.name = name) = some slot ∧
    ∀ {t : Tree} {a b : α}, slot.fill t a = .ok b → read t = .ok (get b)
  kept : ∀ slot ∈ slots, slot.name = name ∨ Keeps get slot

@[simp] theorem of_name (name : String) (read : Tree → Except Fault β) (set : α → β → α) :
    (of name read set).name = name := by
  rw [of]

theorem fill_of {set : α → β → α} (h : (of name read set).fill t a = .ok b) :
    ∃ x, read t = .ok x ∧ b = set a x := by
  unfold of at h
  dsimp only at h
  cases hread : read t with
  | error e => simp [hread, Except.map] at h
  | ok x => exact ⟨x, rfl, by simpa [hread, Except.map, eq_comm] using h⟩

theorem keeps_of {γ : Type} {name : String} {read : Tree → Except Fault γ} {set : α → γ → α}
    (h : ∀ a x, get (set a x) = get a) : Keeps get (of name read set) := by
  intro t a b hfill
  obtain ⟨x, -, rfl⟩ := fill_of hfill
  exact h a x

/-- A part that is given back as it was set is read by its slot, if the others leave it alone. -/
theorem Reads.of_find {set : α → β → α}
    (hfind : slots.find? (·.name = name) = some (of name read set))
    (hset : ∀ a x, get (set a x) = x) (hkept : ∀ slot ∈ slots, slot.name = name ∨ Keeps get slot) :
    Reads slots name read get := by
  refine ⟨⟨_, hfind, fun hfill => ?_⟩, hkept⟩
  obtain ⟨x, hread, rfl⟩ := fill_of hfill
  rw [hread, hset]

theorem fillEntries_cons {k : String} (h : fillEntries slots ((k, t) :: entries) a = .ok b) :
    ∃ a', fillEntries slots entries a' = .ok b ∧
      (slots.find? (·.name = k) = none ∧ a' = a ∨
        ∃ slot, slots.find? (·.name = k) = some slot ∧ slot.fill t a = .ok a') := by
  rw [fillEntries] at h
  split at h
  · next slot hslot =>
    cases hfill : slot.fill t a with
    | error e => simp [hfill, Except.mapError, bind, Except.bind] at h
    | ok a' =>
      refine ⟨a', ?_, .inr ⟨slot, hslot, hfill⟩⟩
      simpa [hfill, Except.mapError, bind, Except.bind] using h
  · next hnone => exact ⟨a, h, .inl ⟨hnone, rfl⟩⟩

theorem Reads.get_eq_of_lookup_eq_none (hreads : Reads slots name read get)
    (hnone : entries.lookup name = none) (h : fillEntries slots entries a = .ok b) :
    get b = get a := by
  induction entries generalizing a with
  | nil => rw [fillEntries] at h; cases h; rfl
  | cons e entries ih =>
    obtain ⟨k, t⟩ := e
    have hk : k ≠ name := by
      rintro rfl
      simp at hnone
    have hrest : entries.lookup name = none := by
      rwa [List.lookup_cons, beq_false_of_ne (Ne.symm hk)] at hnone
    obtain ⟨a', hentries, ⟨-, rfl⟩ | ⟨slot, hslot, hfill⟩⟩ := fillEntries_cons h
    · exact ih hrest hentries
    · have hslotName : slot.name = k := by simpa using List.find?_some hslot
      rcases hreads.kept slot (List.mem_of_find?_eq_some hslot) with hname | hkeeps
      · exact absurd (hslotName.symm.trans hname) hk
      · rw [ih hrest hentries, hkeeps hfill]

theorem Reads.read_eq (hreads : Reads slots name read get) (hnodup : (entries.map Prod.fst).Nodup)
    (hlookup : entries.lookup name = some t) (h : fillEntries slots entries a = .ok b) :
    read t = .ok (get b) := by
  induction entries generalizing a with
  | nil => cases hlookup
  | cons e entries ih =>
    obtain ⟨k, t'⟩ := e
    obtain ⟨hnotMem, hrest⟩ := List.nodup_cons.1 hnodup
    obtain ⟨a', hentries, hfilled⟩ := fillEntries_cons h
    by_cases hk : name = k
    -- This is the last entry of the name, so what is filled in behind it leaves the part alone.
    · subst hk
      obtain rfl : t' = t := by simpa [List.lookup_cons] using hlookup
      have hnone : entries.lookup name = none := List.lookup_eq_none_iff.2 fun e he =>
        bne_iff_ne.2 fun (hsame : name = e.1) => hnotMem (List.mem_map.2 ⟨e, he, hsame.symm⟩)
      obtain ⟨slot, hslot, hread⟩ := hreads.found
      obtain ⟨hslot', -⟩ | ⟨slot', hslot', hfill⟩ := hfilled
      · rw [hslot] at hslot'
        cases hslot'
      · rw [hslot] at hslot'
        cases hslot'
        rw [hreads.get_eq_of_lookup_eq_none hnone hentries]
        exact hread hfill
    · rw [List.lookup_cons, beq_false_of_ne hk] at hlookup
      exact ih hrest hlookup hentries

/-- A part that is read in turn from the end of names behind its own. -/
theorem Reads.step (get : α → β) (hreads : Reads slots name read get) {path : List String}
    {value : Tree} (hproper : t.IsProper) (hat : t.at? (name :: path) = some value)
    (h : readTable slots a t = .ok b) :
    ∃ part : Tree, part.IsProper ∧ part.at? path = some value ∧ read part = .ok (get b) := by
  obtain ⟨part, hlookup, hpart⟩ := Option.bind_eq_some_iff.1 hat
  refine ⟨part, hproper.of_lookup hlookup, hpart, ?_⟩
  cases t with
  | table entries => exact hreads.read_eq hproper.nodup hlookup h
  | _ => cases hlookup

theorem Reads.last (get : α → β) (hreads : Reads slots name read get) {value : Tree}
    (hproper : t.IsProper) (hat : t.at? [name] = some value) (h : readTable slots a t = .ok b) :
    read value = .ok (get b) := by
  obtain ⟨part, -, hpart, hread⟩ := hreads.step get hproper hat h
  cases hpart
  exact hread

end Slot

/-- The settings whose values are any texts. -/
inductive TextSetting where
  | serverHost
  | databaseUser
  | databasePassword
  | databaseHost
  | databaseName
  | playbackHost
  | playbackApp
  deriving DecidableEq, Repr

namespace TextSetting

def path : TextSetting → List String
  | serverHost => ["server", "host"]
  | databaseUser => ["database", "user"]
  | databasePassword => ["database", "password"]
  | databaseHost => ["database", "host"]
  | databaseName => ["database", "name"]
  | playbackHost => ["streaming", "playback", "host"]
  | playbackApp => ["streaming", "playback", "app"]

def get : TextSetting → Settings → String
  | serverHost, s => s.server.host
  | databaseUser, s => s.database.user
  | databasePassword, s => s.database.password
  | databaseHost, s => s.database.host
  | databaseName, s => s.database.name
  | playbackHost, s => s.streaming.playback.host
  | playbackApp, s => s.streaming.playback.app

end TextSetting

namespace Tree

open TextSetting

variable {t value : Tree} {path : List String} {s : Settings}

theorem server_read (hproper : t.IsProper) (hat : t.at? ("server" :: path) = some value)
    (h : t.readSettings = .ok s) :
    ∃ part : Tree, part.IsProper ∧ part.at? path = some value ∧ part.readServer = .ok s.server := by
  refine Slot.Reads.step Settings.server ?_ hproper hat h
  exact .of_find rfl (fun _ _ => rfl) (by simp [Slot.keeps_of])

theorem database_read (hproper : t.IsProper) (hat : t.at? ("database" :: path) = some value)
    (h : t.readSettings = .ok s) :
    ∃ part : Tree, part.IsProper ∧ part.at? path = some value ∧
    part.readDatabase = .ok s.database := by
  refine Slot.Reads.step Settings.database ?_ hproper hat h
  exact .of_find rfl (fun _ _ => rfl) (by simp [Slot.keeps_of])

theorem streaming_read (hproper : t.IsProper) (hat : t.at? ("streaming" :: path) = some value)
    (h : t.readSettings = .ok s) :
    ∃ part : Tree, part.IsProper ∧ part.at? path = some value ∧
    part.readStreaming = .ok s.streaming := by
  refine Slot.Reads.step Settings.streaming ?_ hproper hat h
  exact .of_find rfl (fun _ _ => rfl) (by simp [Slot.keeps_of])

theorem playback_read {s : StreamingSettings} (hproper : t.IsProper)
    (hat : t.at? ("playback" :: path) = some value) (h : t.readStreaming = .ok s) :
    ∃ part : Tree, part.IsProper ∧ part.at? path = some value ∧
    part.readPlayback = .ok s.playback := by
  refine Slot.Reads.step StreamingSettings.playback ?_ hproper hat h
  exact .of_find rfl (fun _ _ => rfl) (by simp [Slot.keeps_of])

theorem readText_of_readSettings (f : TextSetting) (hproper : t.IsProper)
    (hat : t.at? f.path = some value) (h : t.readSettings = .ok s) :
    value.readText = .ok (f.get s) := by
  cases f with
  | serverHost =>
    obtain ⟨part, hpart, hat, h⟩ := server_read hproper hat h
    refine Slot.Reads.last ServerSettings.host ?_ hpart hat h
    exact .of_find rfl (fun _ _ => rfl) (by simp [Slot.keeps_of])
  | databaseUser =>
    obtain ⟨part, hpart, hat, h⟩ := database_read hproper hat h
    refine Slot.Reads.last DatabaseSettings.user ?_ hpart hat h
    exact .of_find rfl (fun _ _ => rfl) (by simp [Slot.keeps_of])
  | databasePassword =>
    obtain ⟨part, hpart, hat, h⟩ := database_read hproper hat h
    refine Slot.Reads.last DatabaseSettings.password ?_ hpart hat h
    exact .of_find rfl (fun _ _ => rfl) (by simp [Slot.keeps_of])
  | databaseHost =>
    obtain ⟨part, hpart, hat, h⟩ := database_read hproper hat h
    refine Slot.Reads.last DatabaseSettings.host ?_ hpart hat h
    exact .of_find rfl (fun _ _ => rfl) (by simp [Slot.keeps_of])
  | databaseName =>
    obtain ⟨part, hpart, hat, h⟩ := database_read hproper hat h
    refine Slot.Reads.last DatabaseSettings.name ?_ hpart hat h
    exact .of_find rfl (fun _ _ => rfl) (by simp [Slot.keeps_of])
  | playbackHost =>
    obtain ⟨part, hpart, hat, h⟩ := streaming_read hproper hat h
    obtain ⟨part, hpart, hat, h⟩ := playback_read hpart hat h
    refine Slot.Reads.last PlaybackSettings.host ?_ hpart hat h
    exact .of_find rfl (fun _ _ => rfl) (by simp [Slot.keeps_of])
  | playbackApp =>
    obtain ⟨part, hpart, hat, h⟩ := streaming_read hproper hat h
    obtain ⟨part, hpart, hat, h⟩ := playback_read hpart hat h
    refine Slot.Reads.last PlaybackSettings.app ?_ hpart hat h
    exact .of_find rfl (fun _ _ => rfl) (by simp [Slot.keeps_of])

end Tree

end LiveLesson.Config
