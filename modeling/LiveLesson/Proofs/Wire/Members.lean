import LiveLesson.Proofs.Json.Skip
import LiveLesson.Proofs.Wire.Takes
import LiveLesson.Wire.Record

/-!
The members of a record's object. Each one that the record knows sets a part of the record, the
others are passed over, and the record is complete once every part that has to be given was set.
This holds of members in a text, in the order in which they stand there, as of the members of a
value, in the order of their names.
-/

namespace LiveLesson

open Json Json.Reader

variable {α β : Type}

/-- The field takes `j` to set its part by `put`. -/
structure Field.Takes (f : Field α) (j : Json) (put : α → α) : Prop where
  decode : ∀ a, f.decode a j = .ok (put a)
  read : j.IsFinite → ∀ a {rest}, Ends rest → f.read a (bytes j ++ rest) = .ok (put a, rest)

namespace Field

variable {f : Field α} {j : Json} {put : α → α}

theorem takes_of {w : Wire β} {b : β} (h : w.Takes j b) (name : String) (get : α → β)
    (set : α → β → α) : (Field.of name w get set).Takes j fun a => set a b := by
  constructor
  · intro a
    simp only [Field.of, h.decode]
    rfl
  · intro hfinite a rest hrest
    exact bind_of_ok (h.read hfinite hrest) fun b => pure (set a b)

theorem Takes.withDefault (h : f.Takes j put) : f.withDefault.Takes j put := ⟨h.decode, h.read⟩

theorem Takes.optionalMember (h : f.Takes j put) : f.optionalMember.Takes j put :=
  ⟨h.decode, h.read⟩

theorem Takes.withAlias (h : f.Takes j put) (name : String) : (f.withAlias name).Takes j put :=
  ⟨h.decode, h.read⟩

theorem Takes.omittedWhen (h : f.Takes j put) (skip : α → Bool) :
    (f.omittedWhen skip).Takes j put := ⟨h.decode, h.read⟩

end Field

def Field.keys (f : Field α) : List String := f.name :: f.aliases

structure Part (α : Type) where
  field : Field α
  put : α → α

namespace Record

variable {r : Record α} {parts : List (Part α)}

def part? (parts : List (Part α)) (key : String) : Option (Part α) :=
  parts.find? fun p => p.field.IsNamed key

def partsOf (parts : List (Part α)) (members : List (String × Json)) : List (Part α) :=
  members.filterMap fun m => part? parts m.1

theorem field?_eq (hfields : r.fields = parts.map Part.field) (key : String) :
    r.field? key = (part? parts key).map Part.field := by
  rw [field?, hfields, List.find?_map, part?]
  rfl

def setAll (ps : List (Part α)) (a : α) : α := ps.foldl (fun a p => p.put a) a

def Suits (parts : List (Part α)) (members : List (String × Json)) : Prop :=
  ∀ m ∈ members, ∀ p, part? parts m.1 = some p → p.field.Takes m.2 p.put

def names (ps : List (Part α)) : List String := ps.map fun p => p.field.name

theorem names_cons (p : Part α) (ps : List (Part α)) :
    names (p :: ps) = p.field.name :: names ps := rfl

theorem partsOf_cons_of_none {m : String × Json} (h : part? parts m.1 = none)
    (members : List (String × Json)) : partsOf parts (m :: members) = partsOf parts members := by
  rw [partsOf, List.filterMap_cons, h]
  rfl

theorem partsOf_cons_of_some {m : String × Json} {p : Part α} (h : part? parts m.1 = some p)
    (members : List (String × Json)) :
    partsOf parts (m :: members) = p :: partsOf parts members := by
  rw [partsOf, List.filterMap_cons, h]
  rfl

/-- The first of the names that are to come was not there before, and from then on it was. -/
theorem not_seen {name : String} {next seen : List String} (h : (name :: next ++ seen).Nodup) :
    seen.contains name = false ∧ (next ++ name :: seen).Nodup := by
  refine ⟨?_, List.perm_middle.nodup_iff.2 h⟩
  rw [List.cons_append, List.nodup_cons] at h
  simpa using fun hmem => h.1 (List.mem_append_right _ hmem)

theorem decodeMembers_eq (hfields : r.fields = parts.map Part.field)
    {members : List (String × Json)} (hsuits : Suits parts members) {seen : List String}
    (hseen : (names (partsOf parts members) ++ seen).Nodup) (a : α) :
    r.decodeMembers members seen a =
      r.complete ((names (partsOf parts members)).reverse ++ seen)
        (setAll (partsOf parts members) a) := by
  induction members generalizing seen a with
  | nil => rfl
  | cons m members ih =>
    obtain ⟨key, j⟩ := m
    obtain ⟨hfirst, hrest⟩ := List.forall_mem_cons.1 hsuits
    rw [decodeMembers, field?_eq hfields]
    cases hpart : part? parts key with
    | none =>
      rw [partsOf_cons_of_none hpart] at hseen ⊢
      exact ih hrest hseen a
    | some p =>
      rw [partsOf_cons_of_some hpart, names_cons] at hseen ⊢
      obtain ⟨hnew, hnext⟩ := not_seen hseen
      simp only [Option.map_some, hnew, (hfirst p hpart).decode a, Bool.false_eq_true, if_false]
      rw [ih hrest hnext, List.reverse_cons, List.append_assoc]
      rfl

theorem nextMember_close (first : Bool) (rest : List UInt8) :
    nextMember first (byte '\x7d' :: rest) = .ok (.close, byte '\x7d' :: rest) := rfl

theorem nextMember_another (first : Bool) (key : String) (rest : List UInt8) :
    nextMember first ((if first then [] else [byte ',']) ++ (nameBytes key ++ rest)) =
      .ok (.another, nameBytes key ++ rest) := by
  cases first <;> rfl

theorem memberName_eq (key : String) (rest : List UInt8) :
    memberName (nameBytes key ++ rest) = .ok (key, byte ':' :: rest) := by
  rw [nameBytes, List.cons_append, List.append_assoc]
  exact stringTail_eq key _

theorem readMembers_eq (hfields : r.fields = parts.map Part.field) {members : List (String × Json)}
    (hfinite : MembersFinite members) (hsuits : Suits parts members) {fuel : Nat}
    (hfuel : members.length ≤ fuel) {seen : List String}
    (hseen : (names (partsOf parts members) ++ seen).Nodup) (first : Bool) (a : α)
    (rest : List UInt8) :
    r.readMembers (fuel + 1) first seen a (membersFrom first members ++ rest) =
      .ok (r.complete ((names (partsOf parts members)).reverse ++ seen)
        (setAll (partsOf parts members) a),
        byte '\x7d' :: rest) := by
  induction members generalizing fuel seen first a with
  | nil => exact bind_of_ok (nextMember_close first rest) _
  | cons m members ih =>
    obtain ⟨key, j⟩ := m
    obtain ⟨hfirst, hrest⟩ := List.forall_mem_cons.1 hsuits
    obtain ⟨fuel, rfl⟩ := Nat.exists_eq_add_of_le' (Nat.lt_of_lt_of_le (Nat.zero_lt_succ _) hfuel)
    have hends := ends_membersFrom members rest
    rw [membersFrom, List.append_assoc, List.append_assoc, List.append_assoc]
    refine (bind_of_ok (nextMember_another first key _) _).trans ?_
    refine (bind_of_ok (memberName_eq key _) _).trans ?_
    rw [field?_eq hfields]
    cases hpart : part? parts key with
    | none =>
      have hvalue : (do colon; skipValue : Reader Unit)
          (byte ':' :: (bytes j ++ (membersFrom false members ++ rest))) =
          .ok ((), membersFrom false members ++ rest) := skipValue_eq hfinite.1 hends
      rw [partsOf_cons_of_none hpart] at hseen ⊢
      refine (bind_of_ok (Wire.within_of_ok hvalue _) _).trans ?_
      exact ih hfinite.2 hrest (Nat.le_of_succ_le_succ hfuel) hseen false a
    | some p =>
      rw [partsOf_cons_of_some hpart, names_cons] at hseen ⊢
      obtain ⟨hnew, hnext⟩ := not_seen hseen
      have hvalue : (do colon; p.field.read a : Reader α)
          (byte ':' :: (bytes j ++ (membersFrom false members ++ rest))) =
          .ok (p.put a, membersFrom false members ++ rest) :=
          (hfirst p hpart).read hfinite.1 a hends
      dsimp only [Option.map_some]
      rw [hnew, if_neg Bool.false_ne_true]
      refine (bind_of_ok (Wire.within_of_ok hvalue _) _).trans ?_
      refine (ih hfinite.2 hrest (Nat.le_of_succ_le_succ hfuel) hnext false (p.put a)).trans ?_
      rw [List.reverse_cons, List.append_assoc]
      rfl

theorem length_le_membersFrom (members : List (String × Json)) :
    members.length ≤ (membersFrom true members).length := by
  have hlater : ∀ members : List (String × Json), members.length <
      (membersFrom false members).length := by
    intro members
    induction members with
    | nil => exact Nat.zero_lt_one
    | cons m members ih =>
      simp only [membersFrom, Bool.false_eq_true, if_false, List.length_append, List.length_cons,
        List.length_nil]
      omega
  cases members with
  | nil => exact Nat.zero_le _
  | cons m members =>
    have hmembers := hlater members
    simp only [membersFrom, List.length_append, List.length_cons]
    omega

theorem complete_eq (hfields : r.fields = parts.map Part.field) {seen : List String}
    (hseen : ∀ p ∈ parts, p.field.absence = .refused → p.field.name ∈ seen) (a : α) :
    r.complete seen a = .ok a := by
  have hnone : r.firstMissing seen = none := by
    rw [firstMissing, hfields, List.find?_eq_none]
    simpa using hseen
  rw [complete, hnone]

theorem read_object (members : List (String × Json)) (rest : List UInt8) :
    r.read (bytes (.object members) ++ rest) = (do
      let result ← fun rest => r.readMembers (rest.length + 1) true [] r.blank rest
      conclude .object result : Reader α) (membersFrom true members ++ rest) := by
  rw [bytes_object]
  rfl

/-- The members of an object are taken in any order, among others. -/
theorem takes_object (hfields : r.fields = parts.map Part.field) {members : List (String × Json)}
    (hsuits : Suits parts members) (hnames : (names (partsOf parts members)).Nodup)
    (hgiven : ∀ p ∈ parts, p.field.absence = .refused → p ∈ partsOf parts members) {v : α}
    (hset : ∀ ps : List (Part α), ps.Perm (partsOf parts members) → setAll ps r.blank = v) :
    r.wire.Takes (.object members) v := by
  have hseen : ∀ {ps : List (Part α)}, ps.Perm (partsOf parts members) →
      ∀ p ∈ parts, p.field.absence = .refused →
      p.field.name ∈ (names ps).reverse ++ [] := by
    intro ps hps p hp hrefused
    rw [List.append_nil, List.mem_reverse]
    exact List.mem_map_of_mem (hps.mem_iff.2 (hgiven p hp hrefused))
  constructor
  -- A value is decoded by the order of its names, a text is read by its own order.
  · have hperm : (byName members).Perm members := List.mergeSort_perm members _
    have hparts : (partsOf parts (byName members)).Perm (partsOf parts members) := hperm.filterMap _
    have hnodup : (names (partsOf parts (byName members)) ++ []).Nodup := by
      rw [List.append_nil]
      exact (hparts.map _).nodup_iff.2 hnames
    refine (decodeMembers_eq hfields (fun m hm => hsuits m (hperm.mem_iff.1 hm)) hnodup
      r.blank).trans ?_
    rw [complete_eq hfields (hseen hparts), hset _ hparts]
  · intro hfinite rest _
    have hlength := length_le_membersFrom members
    have hfuel : members.length ≤ (membersFrom true members ++ rest).length := by
      rw [List.length_append]
      omega
    have hnodup : (names (partsOf parts members) ++ []).Nodup := by rwa [List.append_nil]
    have hread := readMembers_eq hfields hfinite hsuits hfuel hnodup true r.blank rest
    refine (read_object members rest).trans ((bind_of_ok hread _).trans ?_)
    rw [complete_eq hfields (hseen (List.Perm.refl _)), hset _ (List.Perm.refl _)]
    rfl

end Record

end LiveLesson
