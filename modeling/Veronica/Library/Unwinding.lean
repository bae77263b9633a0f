import Mathlib.Data.List.Forall2
import Veronica.Library.Runs

/- Two runs of one system, compared through what an observer sees of their actions. The runs may
   differ in the actions that are not seen, in number and in kind. -/
namespace Unwinding
open Runs
variable {State Action Seen : Type} {step : State → Action → State} {see : Action → Option Seen}
  {legal : State → Action → Prop} {related : State → State → Prop}

/-- The actions of a run that are seen, each with the state it is taken in. -/
def visits (step : State → Action → State) (see : Action → Option Seen) :
    State → List Action → List (State × Action)
  | _, [] => []
  | s, a :: rest =>
    if (see a).isSome then (s, a) :: visits step see (step s a) rest
    else visits step see (step s a) rest

/-- Related states stay related under an action that is not seen, taken on one side, and under
    two actions that are seen as the same, taken on both. -/
structure Unwinds (step : State → Action → State) (see : Action → Option Seen)
    (legal : State → Action → Prop) (related : State → State → Prop) : Prop where
  symm : ∀ s t, related s t → related t s
  unseen : ∀ s t a, related s t → legal s a → see a = none → related (step s a) t
  seen : ∀ s t a b, related s t → legal s a → legal t b → see a = see b → (see a).isSome →
    related (step s a) (step t b)

/-- What holds between two visits at the same place of the two runs. -/
def Paired (see : Action → Option Seen) (legal : State → Action → Prop)
    (related : State → State → Prop) (x y : State × Action) : Prop :=
  related x.1 y.1 ∧ legal x.1 x.2 ∧ legal y.1 y.2 ∧ see x.2 = see y.2 ∧ (see x.2).isSome

theorem visits_unseen (step : State → Action → State) {s : State} {actions : List Action}
    (nothing : actions.filterMap see = []) : visits step see s actions = [] := by
  induction actions generalizing s with
  | nil => rfl
  | cons a rest ih =>
    cases sight : see a with
    | some seen => simp [sight] at nothing
    | none =>
      rw [List.filterMap_cons_none sight] at nothing
      simp only [visits, sight, Option.isSome_none, Bool.false_eq_true, if_false]
      exact ih nothing

/-- The unwinding rule: two legal runs from related states in which the same is seen, pass
    through related states at every action that is seen. -/
theorem visits_paired (unwinds : Unwinds step see legal related) {s t : State}
    {actions others : List Action} (start : related s t)
    (legalRun : EachStep step legal s actions) (legalOther : EachStep step legal t others)
    (same : actions.filterMap see = others.filterMap see) :
    List.Forall₂ (Paired see legal related) (visits step see s actions)
      (visits step see t others) := by
  induction actions generalizing s t others with
  | nil =>
    rw [visits_unseen step same.symm]
    exact List.Forall₂.nil
  | cons a rest ih =>
    cases sight : see a with
    | none =>
      rw [List.filterMap_cons_none sight] at same
      simp only [visits, sight, Option.isSome_none, Bool.false_eq_true, if_false]
      exact ih (unwinds.unseen s t a start legalRun.1 sight) legalRun.2 legalOther same
    | some seen =>
      rw [List.filterMap_cons_some sight] at same
      induction others generalizing t with
      | nil => cases same
      | cons b later inner =>
        cases sight' : see b with
        | none =>
          rw [List.filterMap_cons_none sight'] at same
          have moved := unwinds.unseen t s b (unwinds.symm s t start) legalOther.1 sight'
          have tail := inner (unwinds.symm _ _ moved) legalOther.2 same
          rw [visits.eq_def step see t]
          simpa only [sight', Option.isSome_none, Bool.false_eq_true, if_false] using tail
        | some seen' =>
          rw [List.filterMap_cons_some sight', List.cons.injEq] at same
          have alike : see a = see b := by rw [sight, sight', same.1]
          have visible : (see a).isSome := by rw [sight]; rfl
          simp only [visits, sight, sight', Option.isSome_some, if_true]
          exact List.Forall₂.cons ⟨start, legalRun.1, legalOther.1, alike, visible⟩
            (ih (unwinds.seen s t a b start legalRun.1 legalOther.1 alike visible) legalRun.2
              legalOther.2 same.2)

/-- Where the observer's answers at paired visits are equal exactly under a condition, the
    answers of the two runs are equal exactly when the condition holds at every pair. -/
theorem map_eq_iff_forall₂ {X Y : Type} {pairs condition : X → X → Prop} {answer : X → Y}
    {first second : List X} (paired : List.Forall₂ pairs first second)
    (exact_pair : ∀ x y, pairs x y → (answer x = answer y ↔ condition x y)) :
    first.map answer = second.map answer ↔ List.Forall₂ condition first second := by
  induction paired with
  | nil => exact iff_of_true rfl List.Forall₂.nil
  | cons here _ ih =>
    rw [List.map_cons, List.map_cons, List.cons.injEq, List.forall₂_cons, ih,
      exact_pair _ _ here]

end Unwinding
