import LiveLesson.Identifier
import Mathlib.Logic.Equiv.Basic

/-!
The identifiers that two stores give out side by side. One of them uses up an identifier only for
what it keeps, the other one for every attempt. What they give out at the same time can be made to
correspond, one to one.
-/

namespace LiveLesson

theorem exists_perm_of_pairwise {α : Type} [DecidableEq α] (pairs : List (α × α))
    (h : pairs.Pairwise fun p q => p.1 ≠ q.1 ∧ p.2 ≠ q.2) : ∃ e :
    Equiv.Perm α, ∀ p ∈ pairs, e p.1 = p.2 := by
  induction pairs with
  | nil => exact ⟨Equiv.refl α, by simp⟩
  | cons p pairs ih =>
    obtain ⟨hp, hrest⟩ := List.pairwise_cons.1 h
    obtain ⟨e, he⟩ := ih hrest
    -- Nothing that is paired already is moved by the exchange.
    refine ⟨e.trans (Equiv.swap (e p.1) p.2), fun q hq => ?_⟩
    rw [Equiv.trans_apply]
    rcases List.mem_cons.1 hq with rfl | hq
    · exact Equiv.swap_apply_left _ _
    · have hne : e q.1 ≠ e p.1 := fun heq => (hp q hq).1 (e.injective heq).symm
      rw [Equiv.swap_apply_of_ne_of_ne hne (he q hq ▸ (hp q hq).2.symm)]
      exact he q hq

/-- What two stores give out after their last identifiers, from the attempts to add something and
whether they succeeded. -/
def givenOut (l l' : Int) : List (Option Bool) → List (SessionId × SessionId)
  | [] => []
  | none :: rest => givenOut l l' rest
  | some false :: rest => givenOut l (l' + 1) rest
  | some true :: rest => (⟨l + 1⟩, ⟨l' + 1⟩) :: givenOut (l + 1) (l' + 1) rest

theorem lt_of_mem_givenOut {l l' : Int} {attempts : List (Option Bool)} {p : SessionId × SessionId}
    (h : p ∈ givenOut l l' attempts) : l < p.1.value ∧ l' < p.2.value := by
  induction attempts generalizing l l' with
  | nil => cases h
  | cons attempt rest ih =>
    rcases attempt with _ | (_ | _)
    · exact ih h
    · have hrest := ih h
      omega
    · rcases List.mem_cons.1 h with rfl | h
      · exact ⟨Int.lt_succ l, Int.lt_succ l'⟩
      · have hrest := ih h
        omega

theorem givenOut_pairwise (l l' : Int) (attempts : List (Option Bool)) :
    (givenOut l l' attempts).Pairwise fun p q => p.1 ≠ q.1 ∧ p.2 ≠ q.2 := by
  induction attempts generalizing l l' with
  | nil => exact .nil
  | cons attempt rest ih =>
    rcases attempt with _ | (_ | _)
    · exact ih l l'
    · exact ih l (l' + 1)
    · refine List.pairwise_cons.2 ⟨fun q hq => ?_, ih (l + 1) (l' + 1)⟩
      obtain ⟨hlt, hlt'⟩ := lt_of_mem_givenOut hq
      constructor
      · rintro heq
        rw [← heq] at hlt
        exact Int.lt_irrefl _ hlt
      · rintro heq
        rw [← heq] at hlt'
        exact Int.lt_irrefl _ hlt'

theorem exists_perm_givenOut (l l' : Int) (attempts : List (Option Bool)) :
    ∃ ids : Equiv.Perm SessionId, ∀ p ∈ givenOut l l' attempts, ids p.1 = p.2 :=
  exists_perm_of_pairwise _ (givenOut_pairwise l l' attempts)

end LiveLesson
