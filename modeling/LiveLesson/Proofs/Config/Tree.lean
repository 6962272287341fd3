import LiveLesson.Config.KeyPath
import Mathlib.Data.List.Basic

/-!
Places in a tree of settings. A value that is put at the end of some names is found there, and a
place whose names part from these somewhere on the way keeps what it holds. No table that is reached
by names has two entries of one name.
-/

namespace LiveLesson.Config

namespace Tree

variable {name : String} {value t : Tree} {entries : List (String × Tree)}

theorem lookup_upsert (name k : String) (value : Tree) (entries : List (String × Tree)) :
    (upsert name value entries).lookup k = if k = name then some value else entries.lookup k := by
  induction entries with
  | nil => by_cases h : k = name <;> simp [upsert, List.lookup_cons, beq_false_of_ne, h]
  | cons e entries ih =>
    obtain ⟨k', old⟩ := e
    unfold upsert
    by_cases hname : k' = name
    · subst hname
      by_cases hk : k = k' <;> simp [List.lookup_cons, beq_false_of_ne, hk]
    · rw [if_neg hname, List.lookup_cons, List.lookup_cons, ih]
      by_cases hk : k = k'
      · subst hk
        simp [hname]
      · simp [beq_false_of_ne hk]

theorem mem_upsert {e : String × Tree} (h : e ∈ upsert name value entries) :
    e = (name, value) ∨ e ∈ entries := by
  induction entries with
  | nil => exact .inl (List.mem_singleton.1 (by rwa [upsert] at h))
  | cons x entries ih =>
    obtain ⟨k, old⟩ := x
    unfold upsert at h
    split at h
    · next hname =>
      subst hname
      rcases List.mem_cons.1 h with rfl | h
      · exact .inl rfl
      · exact .inr (List.mem_cons_of_mem _ h)
    · rcases List.mem_cons.1 h with rfl | h
      · exact .inr List.mem_cons_self
      · exact (ih h).imp_right (List.mem_cons_of_mem _)

theorem nodup_upsert (name : String) (value : Tree) (h : (entries.map Prod.fst).Nodup) :
    ((upsert name value entries).map Prod.fst).Nodup := by
  induction entries with
  | nil => simp [upsert]
  | cons e entries ih =>
    obtain ⟨k, old⟩ := e
    obtain ⟨hk, hentries⟩ := List.nodup_cons.1 h
    unfold upsert
    split
    · exact h
    · next hname =>
      refine List.nodup_cons.2 ⟨fun hmem => ?_, ih hentries⟩
      obtain ⟨x, hx, hsame⟩ := List.mem_map.1 hmem
      rcases mem_upsert hx with rfl | hx
      · exact hname hsame.symm
      · exact hk (hsame ▸ List.mem_map_of_mem hx)

theorem exists_put (t : Tree) (name : String) (value : Tree) :
    ∃ new, t.put name value = t.set name new := by
  cases value with
  | table incoming => exact ⟨_, by rw [put]⟩
  | _ => exact ⟨_, by rw [put]; nofun⟩

theorem put_of_not_table (t : Tree) (name : String) (h : ∀ entries, value ≠ .table entries) :
    t.put name value = t.set name value := by
  cases value with
  | table entries => exact absurd rfl (h entries)
  | _ => rw [put]; nofun

/-- No table has two entries of one name, down to what is no table. -/
inductive IsProper : Tree → Prop
  | table {entries : List (String × Tree)} (names : (entries.map Prod.fst).Nodup)
      (values : ∀ e ∈ entries, IsProper e.2) : IsProper (.table entries)
  | other {t : Tree} (h : ∀ entries, t ≠ .table entries) : IsProper t

theorem isProper_empty : IsProper (.table []) := .table List.nodup_nil nofun

theorem IsProper.nodup (h : t.IsProper) : (t.entries.map Prod.fst).Nodup := by
  cases h with
  | table names values => exact names
  | other h =>
    cases t with
    | table entries => exact absurd rfl (h entries)
    | _ => exact List.nodup_nil

theorem IsProper.of_mem (h : t.IsProper) {e : String × Tree} (he : e ∈ t.entries) :
    e.2.IsProper := by
  cases h with
  | table names values => exact values e he
  | other h =>
    cases t with
    | table entries => exact absurd rfl (h entries)
    | _ => cases he

theorem IsProper.of_lookup (h : t.IsProper) (hvalue : t.entries.lookup name = some value) :
    value.IsProper := by
  have hmem : (name, value) ∈ t.entries := by
    obtain ⟨l, r, hentries, -⟩ := List.lookup_eq_some_iff.1 hvalue
    simp [hentries]
  exact h.of_mem hmem

theorem IsProper.set (h : t.IsProper) (hvalue : value.IsProper) (name : String) :
    (t.set name value).IsProper := by
  refine .table (nodup_upsert _ _ h.nodup) fun e he => ?_
  rcases mem_upsert he with rfl | he
  · exact hvalue
  · exact h.of_mem he

theorem isProper_put_putAll :
    (∀ (t : Tree) (name : String) (value : Tree), t.IsProper → (t.put name value).IsProper) ∧
      ∀ (t : Tree) (incoming : List (String × Tree)), t.IsProper →
      (t.putAll incoming).IsProper := by
  apply put.mutual_induct
  · intro t name incoming ih h
    rw [put]
    refine h.set (ih ?_) name
    cases hmember : t.member? name with
    | none => exact isProper_empty
    | some old => exact h.of_lookup hmember
  · intro t name value hvalue h
    rw [put_of_not_table t name hvalue]
    exact h.set (.other hvalue) name
  · intro t h
    rwa [putAll]
  · intro t name value rest ihValue ihRest h
    rw [putAll]
    exact ihRest (ihValue h)

theorem IsProper.putAt {steps : List Step} (h : t.IsProper) (hne : steps ≠ []) :
    (KeyPath.putAt value steps t).IsProper := by
  induction steps, t using KeyPath.putAt.induct with
  | case1 => exact absurd rfl hne
  | case2 name t => exact isProper_put_putAll.1 t name value h
  | case3 name rest t hrest ih =>
    rw [KeyPath.putAt]
    · refine h.set (ih ?_ ?_) name
      · cases hmember : t.member? name with
        | none => exact .other nofun
        | some old => exact h.of_lookup hmember
      · rintro rfl
        exact hrest rfl
    · exact hrest
  | case4 index rest t => exact .other nofun

def at? : Tree → List String → Option Tree
  | t, [] => some t
  | t, name :: path => (t.entries.lookup name).bind fun value => value.at? path

theorem at?_set_self (t : Tree) (name : String) (value : Tree) (path : List String) :
    (t.set name value).at? (lowerName name :: path) = value.at? path := by
  have hlookup : (t.set name value).entries.lookup (lowerName name) = some value :=
    (lookup_upsert _ _ _ _).trans (if_pos rfl)
  rw [at?, hlookup, Option.bind_some]

theorem at?_set_of_ne {k : String} (h : k ≠ lowerName name) (path : List String) :
    (t.set name value).at? (k :: path) = t.at? (k :: path) := by
  have hlookup : (t.set name value).entries.lookup k = t.entries.lookup k :=
    (lookup_upsert _ _ _ _).trans (if_neg h)
  rw [at?, hlookup, at?]

theorem at?_member (t : Tree) {path : List String} (hne : path ≠ []) :
    ((t.member? name).getD .nil).at? path = t.at? (lowerName name :: path) := by
  rw [at?, ← member?]
  cases t.member? name with
  | some old => rfl
  | none =>
    obtain ⟨k, path, rfl⟩ := List.exists_cons_of_ne_nil hne
    rfl

end Tree

namespace KeyPath

/-- Whether some steps part from some names on the way, before either ends. -/
def avoids : List Step → List String → Bool
  | .child name :: steps, k :: path => k != Tree.lowerName name || avoids steps path
  | _, _ => false

variable {steps : List Step} {path : List String} {value : Tree}

theorem at?_putAt_of_avoids (h : avoids steps path = true) (t : Tree) :
    (putAt value steps t).at? path = t.at? path := by
  induction steps, t using putAt.induct generalizing path with
  | case1 => simp [avoids] at h
  | case2 name t =>
    cases path with
    | nil => simp [avoids] at h
    | cons k path =>
      obtain ⟨new, hnew⟩ := t.exists_put name value
      rw [putAt, hnew]
      exact Tree.at?_set_of_ne (by simpa [avoids] using h) path
  | case3 name rest t hrest ih =>
    cases path with
    | nil => simp [avoids] at h
    | cons k path =>
      rw [putAt.eq_3 _ _ _ _ hrest]
      by_cases hk : k = Tree.lowerName name
      -- The steps go in where the place does, and part from it further on.
      · subst hk
        have hrests : avoids rest path = true := by simpa [avoids] using h
        have hpath : path ≠ [] := by
          rintro rfl
          simp [avoids] at hrests
        rw [Tree.at?_set_self, ih hrests, Tree.at?_member t hpath]
      · exact Tree.at?_set_of_ne hk path
  | case4 index rest t => simp [avoids] at h

theorem at?_putAt (hvalue : ∀ entries, value ≠ .table entries) {names : List String}
    (hne : names ≠ []) (t : Tree) :
    (putAt value (names.map .child) t).at? (names.map Tree.lowerName) = some value := by
  induction names generalizing t with
  | nil => exact absurd rfl hne
  | cons name names ih =>
    cases names with
    | nil =>
      rw [List.map_cons, List.map_nil, putAt, Tree.put_of_not_table t name hvalue]
      exact Tree.at?_set_self t name value []
    | cons name' names =>
      rw [List.map_cons, List.map_cons (f := Tree.lowerName), putAt, Tree.at?_set_self]
      · exact ih (by simp) _
      · simp

def stepsOf (name : String) : List Step :=
  match read? name with
  | some ⟨root, steps⟩ => .child root :: steps
  | none => [.child name]

theorem stepsOf_ne_nil (name : String) : stepsOf name ≠ [] := by
  unfold stepsOf
  split <;> simp

end KeyPath

namespace Tree

variable {t : Tree} {path : List String} {source : List (String × Tree)}

theorem putNamed_eq (t : Tree) (name : String) (value : Tree) :
    t.putNamed name value = KeyPath.putAt value (KeyPath.stepsOf name) t := by
  unfold putNamed KeyPath.stepsOf
  cases KeyPath.read? name <;> rfl

theorem merge_cons (t : Tree) (name : String) (value : Tree) (source : List (String × Tree)) :
    t.merge ((name, value) :: source) =
      (KeyPath.putAt value (KeyPath.stepsOf name) t).merge source := by
  rw [← putNamed_eq]
  rfl

theorem merge_append (t : Tree) (before after : List (String × Tree)) :
    t.merge (before ++ after) = (t.merge before).merge after := List.foldl_append

theorem IsProper.merge (h : t.IsProper) (source : List (String × Tree)) :
    (t.merge source).IsProper := by
  induction source generalizing t with
  | nil => exact h
  | cons e source ih =>
    obtain ⟨name, value⟩ := e
    rw [merge_cons]
    exact ih (h.putAt (KeyPath.stepsOf_ne_nil name))

theorem at?_merge_of_avoids (h : ∀ e ∈ source, KeyPath.avoids (KeyPath.stepsOf e.1) path = true)
    (t : Tree) : (t.merge source).at? path = t.at? path := by
  induction source generalizing t with
  | nil => rfl
  | cons e source ih =>
    obtain ⟨name, value⟩ := e
    obtain ⟨hname, hsource⟩ := List.forall_mem_cons.1 h
    rw [merge_cons, ih hsource, KeyPath.at?_putAt_of_avoids hname]

/-- The last value for a place stays there. -/
theorem at?_merge_append {name : String} {value : Tree} {after : List (String × Tree)}
    {names : List String} (before : List (String × Tree))
    (hvalue : ∀ entries, value ≠ .table entries) (hname : KeyPath.stepsOf name = names.map .child)
    (hafter : ∀ e ∈ after, KeyPath.avoids (KeyPath.stepsOf e.1) (names.map lowerName) = true)
    (t : Tree) :
    (t.merge (before ++ (name, value) :: after)).at? (names.map lowerName) = some value := by
  have hne : names ≠ [] := by
    rintro rfl
    exact KeyPath.stepsOf_ne_nil name hname
  rw [merge_append, merge_cons, at?_merge_of_avoids hafter, hname, KeyPath.at?_putAt hvalue hne]

end Tree

end LiveLesson.Config
