import LiveLesson.Proofs.Quiz.Table
import LiveLesson.Proofs.Store.TableStep
import LiveLesson.Service.Interleaving

/-!
What the tables can become. Calls and cleaning up are all that changes them, one program after the
other or several side by side, so what these keep holds of the tables at every moment.
-/

namespace LiveLesson.Tables

/-- What calls, in any surroundings, and cleaning up make of the tables. -/
inductive Leads (t : Tables) : Tables → Prop
  | here : Leads t t
  | call (around : Surroundings) (c : Call) {t' : Tables} :
    Leads t t' → Leads t (answer around c t').2
  | cleanUp (cutoff : Timestamp) {t' : Tables} : Leads t t' → Leads t (world.cleanUp cutoff t')

namespace Leads

variable {t t' : Tables}

theorem trans {t'' : Tables} (h : t.Leads t') (h' : t'.Leads t'') : t.Leads t'' := by
  induction h' with
  | here => exact h
  | call around c _ ih => exact ih.call around c
  | cleanUp cutoff _ ih => exact ih.cleanUp cutoff

theorem of_answer_eq {around : Surroundings} {c : Call} {o : c.Outcome}
    (h : answer around c t = (o, t')) : t.Leads t' := by
  have hcall := Leads.here.call (t := t) around c
  rwa [h] at hcall

theorem sessions_wellFormed (h : t.Leads t') (hwf : t.sessions.WellFormed) :
    t'.sessions.WellFormed := by
  induction h with
  | here => exact hwf
  | call around c _ ih => exact answer_wellFormed ih around c
  | cleanUp cutoff _ ih => exact ih.filter _

theorem quiz_induction {P : QuizTable → Prop} (create : ∀ u q now, P u → P (u.create q now).2)
    (insert : ∀ u a, P u → P (u.insertAnswer a).2) (h : t.Leads t') (begin : P t.quiz) :
    P t'.quiz := by
  induction h with
  | here => exact begin
  | cleanUp cutoff _ ih => exact ih
  | call around c _ ih =>
    unfold answer
    cases fault? around c with
    | some e => exact ih
    | none =>
      cases c with
      | createQuestion q => exact create _ q around.now ih
      | insertAnswer a => exact insert _ a ih
      | _ => exact ih

end Leads

end LiveLesson.Tables
