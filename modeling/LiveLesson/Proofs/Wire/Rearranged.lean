import LiveLesson.Proofs.Wire.Members
import Mathlib.Data.List.Pairwise

/-!
Records that come back. A record's object may be rearranged: its members stand in any order, under
any name of their fields, and among members that the record does not know. As each member sets a
part of its own, what comes out of all of them does not depend on that, and a member that was left
out is one whose part is in place from the start.
-/

namespace LiveLesson

open Json Json.Reader

variable {α β : Type}

namespace Record

/-- A member for the same field as another one. How the content of a field may differ, `inner`
says. -/
def StandsFor (r : Record α) (inner : String → Json → Json → Prop) (m m' : String × Json) : Prop :=
  (∃ f, r.field? m.1 = some f ∧ r.field? m'.1 = some f) ∧ inner m.1 m.2 m'.2

/-- The objects that say the same to a record: with the same members under one name or another of
their fields, and with others that the record does not know, in any order. -/
inductive Rearranges (r : Record α) (inner : String → Json → Json → Prop) : Json → Json → Prop
  | object {members known unknown members' : List (String × Json)}
      (hknown : List.Forall₂ (r.StandsFor inner) members known)
      (hunknown : ∀ m ∈ unknown, r.field? m.1 = none)
      (hperm : (known ++ unknown).Perm members') :
      Rearranges r inner (.object members) (.object members')

variable {r : Record α} {parts : List (Part α)}

def keys (r : Record α) : List String := r.fields.flatMap Field.keys

/-- The way in which a part is made up again. What is written of `v` stays itself, and sets the part
in every form of the content; what is left out is in place from the start. -/
structure Restored (inner : String → Json → Json → Prop) (blank v : α) (p : Part α) : Prop where
  same : ∀ {j}, p.field.encode v = some j → inner p.field.name j j ∧ j.IsFinite
  given : ∀ {j j'}, p.field.encode v = some j → inner p.field.name j j' → p.field.Takes j' p.put
  omitted : p.field.encode v = none → p.field.absence ≠ .refused ∧ p.put blank = blank

/-- The parts make up `v`, in any order. -/
structure Restores (r : Record α) (inner : String → Json → Json → Prop) (parts : List (Part α))
    (v : α) : Prop where
  fields : r.fields = parts.map Part.field := by rfl
  keys : r.keys.Nodup := by decide
  commute : parts.Pairwise fun p q => ∀ a, p.put (q.put a) = q.put (p.put a)
  whole : setAll parts r.blank = v := by rfl
  each : parts.Forall (Restored inner r.blank v)

theorem isNamed_iff {f : Field α} {key : String} : f.IsNamed key = true ↔ key ∈ f.keys := by
  rw [Field.keys, Field.IsNamed, Bool.or_eq_true, beq_iff_eq, List.contains_iff_mem,
    List.mem_cons, eq_comm]

theorem part?_eq (hkeys : (parts.flatMap fun p => p.field.keys).Nodup) {p : Part α} (hp : p ∈ parts)
    {key : String} (hkey : p.field.IsNamed key = true) : part? parts key = some p := by
  induction parts with
  | nil => cases hp
  | cons q parts ih =>
    rw [List.flatMap_cons, List.nodup_append] at hkeys
    rw [part?, List.find?_cons]
    rcases List.mem_cons.1 hp with rfl | hp
    · rw [hkey]
    · have hother : ¬ q.field.IsNamed key = true := fun hq =>
        hkeys.2.2 key (isNamed_iff.1 hq) key (List.mem_flatMap.2 ⟨p, hp, isNamed_iff.1 hkey⟩) rfl
      rw [Bool.eq_false_iff.2 hother]
      exact ih hkeys.2.1 hp

theorem part?_name (hkeys : (parts.flatMap fun p => p.field.keys).Nodup) {p : Part α}
    (hp : p ∈ parts) : part? parts p.field.name = some p :=
  part?_eq hkeys hp (isNamed_iff.2 List.mem_cons_self)

theorem nodup_names (hkeys : (parts.flatMap fun p => p.field.keys).Nodup) :
    (names parts).Nodup := by
  refine hkeys.sublist ?_
  induction parts with
  | nil => exact List.Sublist.refl _
  | cons p parts ih =>
    rw [names_cons, List.flatMap_cons, Field.keys, List.cons_append]
    exact List.Sublist.cons_cons _
      ((ih (List.nodup_append.1 hkeys).2.1).trans (List.sublist_append_right _ _))

theorem part?_of_sameField (hfields : r.fields = parts.map Part.field)
    (hkeys : (parts.flatMap fun p => p.field.keys).Nodup) {p : Part α}
    (hp : p ∈ parts) {key : String}
    (hkey : ∃ f, r.field? p.field.name = some f ∧ r.field? key = some f) :
    part? parts key = some p := by
  obtain ⟨f, hname, hkey⟩ := hkey
  rw [field?_eq hfields, part?_name hkeys hp] at hname
  rw [field?_eq hfields] at hkey
  obtain ⟨q, hq, hfield⟩ := Option.map_eq_some_iff.1 hkey
  have hqmem : q ∈ parts := List.mem_of_find?_eq_some hq
  have hsame : q.field = p.field := hfield.trans (Option.some.inj hname).symm
  -- The field of `q` is that of `p`, so both stand for its name.
  have hboth := part?_name hkeys hqmem
  rw [hsame, part?_name hkeys hp] at hboth
  exact hq.trans hboth.symm

section

variable {inner : String → Json → Json → Prop} {v : α}

theorem Restores.parts_keys (h : r.Restores inner parts v) :
    (parts.flatMap fun p => p.field.keys).Nodup := by
  have hkeys := h.keys
  rwa [Record.keys, h.fields, List.flatMap_map] at hkeys

theorem Restores.restored (h : r.Restores inner parts v) {p : Part α} (hp : p ∈ parts) :
    Restored inner r.blank v p :=
  List.forall_iff_forall_mem.1 h.each p hp

def written (v : α) (ps : List (Part α)) : List (String × Json) :=
  ps.filterMap fun p => (p.field.encode v).map fun j => (p.field.name, j)

theorem encode_eq (hfields : r.fields = parts.map Part.field) (v : α) :
    r.encode v = .object (written v parts) := by
  rw [encode, hfields, List.filterMap_map]
  rfl

def givenParts (v : α) (ps : List (Part α)) : List (Part α) :=
  ps.filter fun p => (p.field.encode v).isSome

theorem partsOf_known (h : r.Restores inner parts v) {ps : List (Part α)}
    (hps : ∀ p ∈ ps, p ∈ parts) {known : List (String × Json)}
    (hknown : List.Forall₂ (r.StandsFor inner) (written v ps) known) :
    partsOf parts known = givenParts v ps ∧ Suits parts known := by
  induction ps generalizing known with
  | nil =>
    cases hknown
    exact ⟨rfl, nofun⟩
  | cons p ps ih =>
    obtain ⟨hp, hps⟩ := List.forall_mem_cons.1 hps
    -- A part is either written, and then the first member stands for it, or left out.
    cases hencode : p.field.encode v with
    | none =>
      rw [written, List.filterMap_cons, hencode] at hknown
      rw [givenParts, List.filter_cons, hencode]
      exact ih hps hknown
    | some j =>
      rw [written, List.filterMap_cons, hencode] at hknown
      rw [givenParts, List.filter_cons, hencode]
      cases hknown with
      | @cons _ m' _ known hm hrest =>
        have hpart := part?_of_sameField h.fields h.parts_keys hp hm.1
        obtain ⟨hparts, hsuits⟩ := ih hps hrest
        constructor
        · rw [partsOf_cons_of_some hpart]
          exact congrArg (p :: ·) hparts
        · refine List.forall_mem_cons.2 ⟨fun q hq => ?_, hsuits⟩
          obtain rfl : p = q := Option.some.inj (hpart.symm.trans hq)
          exact (h.restored hp).given hencode hm.2

theorem setAll_perm (h : r.Restores inner parts v) {ps qs : List (Part α)}
    (hps : ∀ p ∈ ps, p ∈ parts) (hperm : ps.Perm qs) (a : α) : setAll ps a = setAll qs a := by
  have hsymm : Std.Symm fun p q : Part α => ∀ a, p.put (q.put a) = q.put (p.put a) :=
    ⟨fun _ _ hpq a => (hpq a).symm⟩
  have hcommute := h.commute.forall_of_forall fun _ _ _ => rfl
  exact hperm.foldl_eq' (fun p hp q hq a => hcommute (hps q hq) (hps p hp) a) a

theorem setAll_fixed {ps : List (Part α)} {a : α} (h : ∀ p ∈ ps, p.put a = a) :
    setAll ps a = a := by
  induction ps with
  | nil => rfl
  | cons p ps ih =>
    obtain ⟨hp, hps⟩ := List.forall_mem_cons.1 h
    rw [setAll, List.foldl_cons, hp]
    exact ih hps

theorem setAll_given (h : r.Restores inner parts v) : setAll (givenParts v parts) r.blank = v := by
  -- As the order does not matter, all of them may be set first.
  let left := parts.filter fun p => !(p.field.encode v).isSome
  have hperm : parts.Perm (left ++ givenParts v parts) :=
    ((List.perm_append_comm).trans (List.filter_append_perm _ parts)).symm
  have hblank : setAll left r.blank = r.blank := by
    refine setAll_fixed fun p hp => ?_
    obtain ⟨hp, hnone⟩ := List.mem_filter.1 hp
    exact ((h.restored hp).omitted (by simpa using hnone)).2
  calc setAll (givenParts v parts) r.blank
    _ = setAll (givenParts v parts) (setAll left r.blank) := by rw [hblank]
    _ = setAll (left ++ givenParts v parts) r.blank := List.foldl_append.symm
    _ = setAll parts r.blank := (setAll_perm h (fun _ hp => hp) hperm _).symm
    _ = v := h.whole

/-- A record takes what it writes, however its members are rearranged. -/
theorem takes_of_rearranges (h : r.Restores inner parts v) {j : Json}
    (hj : r.Rearranges inner (r.encode v) j) : r.wire.Takes j v := by
  rw [encode_eq h.fields] at hj
  cases hj with
  | @object _ known unknown members' hknown hunknown hperm =>
    obtain ⟨hparts, hsuits⟩ := partsOf_known h (fun _ hp => hp) hknown
    have hnone : ∀ m ∈ unknown, part? parts m.1 = none := by
      intro m hm
      have hm := hunknown m hm
      rwa [field?_eq h.fields, Option.map_eq_none_iff] at hm
    have hall : (partsOf parts members').Perm (givenParts v parts) := by
      have hsame : partsOf parts (known ++ unknown) = givenParts v parts := by
        rw [partsOf, List.filterMap_append, List.filterMap_eq_nil_iff.2 hnone, List.append_nil]
        exact hparts
      exact hsame ▸ (hperm.symm.filterMap _)
    refine takes_object h.fields (fun m hm p hp => ?_) ?_ (fun p hp hrefused => ?_) fun ps hps => ?_
    · rcases List.mem_append.1 (hperm.mem_iff.2 hm) with hm | hm
      · exact hsuits m hm p hp
      · rw [hnone m hm] at hp
        cases hp
    · exact (hall.map _).nodup_iff.2
        ((nodup_names h.parts_keys).sublist (List.filter_sublist.map _))
    · rw [hall.mem_iff, givenParts, List.mem_filter, Option.isSome_iff_ne_none]
      exact ⟨hp, fun hnone => ((h.restored hp).omitted hnone).1 hrefused⟩
    · have hmem : ∀ p ∈ ps, p ∈ parts :=
        fun p hp => List.mem_of_mem_filter ((hps.trans hall).mem_iff.1 hp)
      rw [setAll_perm h hmem (hps.trans hall), setAll_given h]

theorem rearranges_refl (h : r.Restores inner parts v) :
    r.Rearranges inner (r.encode v) (r.encode v) := by
  have hsame : ∀ m ∈ written v parts, r.StandsFor inner m m := by
    intro m hm
    obtain ⟨p, hp, hm⟩ := List.mem_filterMap.1 hm
    obtain ⟨j, hj, rfl⟩ := Option.map_eq_some_iff.1 hm
    have hfield : r.field? p.field.name = some p.field := by
      rw [field?_eq h.fields, part?_name h.parts_keys hp]
      rfl
    exact ⟨⟨_, hfield, hfield⟩, ((h.restored hp).same hj).1⟩
  rw [encode_eq h.fields]
  have hperm : (written v parts ++ []).Perm (written v parts) := by rw [List.append_nil]
  exact .object (List.forall₂_same.2 hsame) (List.forall_mem_nil _) hperm

theorem isFinite_encode (h : r.Restores inner parts v) : (r.encode v).IsFinite := by
  have hall : ∀ ps : List (Part α), (∀ p ∈ ps, p ∈ parts) → MembersFinite (written v ps) := by
    intro ps hps
    induction ps with
    | nil => trivial
    | cons p ps ih =>
      obtain ⟨hp, hps⟩ := List.forall_mem_cons.1 hps
      rw [written, List.filterMap_cons]
      cases hencode : p.field.encode v with
      | none => exact ih hps
      | some j => exact ⟨((h.restored hp).same hencode).2, ih hps⟩
  rw [encode_eq h.fields]
  exact hall parts fun _ hp => hp

end

end Record

/-- The form takes for `a` what it writes of `a`, and everything that `rel` makes of it. -/
structure Wire.Recovers (w : Wire α) (rel : Json → Json → Prop) (a : α) : Prop where
  same : rel (w.encode a) (w.encode a)
  finite : (w.encode a).IsFinite
  takes : ∀ {j}, rel (w.encode a) j → w.Takes j a

theorem Record.Restores.recovers {r : Record α} {inner : String → Json → Json → Prop}
    {parts : List (Part α)} {v : α} (h : r.Restores inner parts v) :
    r.wire.Recovers (r.Rearranges inner) v :=
  ⟨rearranges_refl h, isFinite_encode h, takes_of_rearranges h⟩

theorem Wire.recovers_eq {w : Wire α} {a : α} (hfinite : (w.encode a).IsFinite)
    (h : w.Takes (w.encode a) a) :
    w.Recovers Eq a := ⟨rfl, hfinite, fun hj => hj ▸ h⟩

namespace Record

variable {inner : String → Json → Json → Prop} {blank v : α}

theorem restored_of {w : Wire β} {name : String} {get : α → β} (h : w.Recovers (inner name) (get v))
    (set : α → β → α) :
    Restored inner blank v ⟨Field.of name w get set, fun a => set a (get v)⟩ where
  same hj := Option.some.inj hj ▸ ⟨h.same, h.finite⟩
  given hj hinner := Field.takes_of (h.takes (Option.some.inj hj ▸ hinner)) name get set
  omitted hnone := nomatch hnone

variable {f : Field α} {put : α → α}

theorem Restored.withDefault (h : Restored inner blank v ⟨f, put⟩) :
    Restored inner blank v ⟨f.withDefault, put⟩ where
  same hj := h.same hj
  given hj hinner := (h.given hj hinner).withDefault
  omitted hnone := ⟨nofun, (h.omitted hnone).2⟩

theorem Restored.optionalMember (h : Restored inner blank v ⟨f, put⟩) :
    Restored inner blank v ⟨f.optionalMember, put⟩ where
  same hj := h.same hj
  given hj hinner := (h.given hj hinner).optionalMember
  omitted hnone := ⟨nofun, (h.omitted hnone).2⟩

theorem Restored.withAlias (h : Restored inner blank v ⟨f, put⟩) (key : String) :
    Restored inner blank v ⟨f.withAlias key, put⟩ where
  same hj := h.same hj
  given hj hinner := (h.given hj hinner).withAlias key
  omitted hnone := h.omitted hnone

theorem restored_omittedWhen {skip : α → Bool} (habsence : f.absence ≠ .refused)
    (hskip : skip v = true → put blank = blank)
    (hgiven : skip v = false → Restored inner blank v ⟨f, put⟩) :
    Restored inner blank v ⟨f.omittedWhen skip, put⟩ := by
  cases hv : skip v with
  | true =>
    have hnone : (f.omittedWhen skip).encode v = none := if_pos hv
    refine ⟨fun hj => ?_, fun hj _ => ?_, fun _ => ⟨habsence, hskip hv⟩⟩ <;>
    · rw [hnone] at hj
      cases hj
  | false =>
    have hsame : (f.omittedWhen skip).encode v = f.encode v :=
      if_neg (by rw [hv]; exact Bool.false_ne_true)
    have hf := hgiven hv
    exact ⟨fun hj => hf.same (hsame.symm.trans hj),
      fun hj hinner => (hf.given (hsame.symm.trans hj) hinner).omittedWhen skip,
      fun hnone => hf.omitted (hsame.symm.trans hnone)⟩

def withPuts (r : Record α) (puts : List (α → α)) : List (Part α) := r.fields.zipWith Part.mk puts

/-- The contents of the listed fields may be rearranged too, those of the others stay. -/
def inside (nested : List (String × (Json → Json → Prop))) (name : String) : Json → Json → Prop :=
  (nested.lookup name).getD Eq

theorem Rearranges.ne_null {r : Record α} {j j' : Json} (h : r.Rearranges inner j j') :
    j' ≠ .null := by
  cases h
  nofun

/-- What is written of `v` is read as `v`, and so is whatever says the same, as a value and as a
text. -/
structure Returns (r : Record α) (inner : String → Json → Json → Prop) (v : α) : Prop where
  decode : r.decode (r.encode v) = .ok v
  parse : r.wire.parse (Text.Utf8.encode (r.encode v).text) = .ok v
  decode_rearranged : ∀ j, r.Rearranges inner (r.encode v) j → r.decode j = .ok v
  parse_rearranged : ∀ j, r.Rearranges inner (r.encode v) j → j.IsFinite →
    r.wire.parse (Text.Utf8.encode j.text) = .ok v

theorem Restores.returns {r : Record α} {parts : List (Part α)} (h : r.Restores inner parts v) :
    r.Returns inner v where
  decode := (h.recovers.takes h.recovers.same).decode
  parse := (h.recovers.takes h.recovers.same).parse h.recovers.finite
  decode_rearranged _ hj := (h.recovers.takes hj).decode
  parse_rearranged _ hj hfinite := (h.recovers.takes hj).parse hfinite

end Record

end LiveLesson
