import Veronica.Library.Dict
import Veronica.Library.Runs
import Mathlib.Algebra.Order.Group.Defs
import Mathlib.Algebra.Order.Group.Abs

/- What was spent from a budget and what is still promised. A promise is kept by a cost of at
   most the promised amount; until then its cost is open. -/
structure Commitments (K M : Type) where
  spent : M
  promised : Dict K M

namespace Commitments
variable {K M : Type} [DecidableEq K] [AddCommGroup M] [LinearOrder M]

inductive Effect (K M : Type) where
  | keep
  | promise (k : K) (amount : M)
  | fulfil (k : K) (cost : M)

def apply (b : Commitments K M) : Effect K M → Commitments K M
  | .keep => b
  | .promise k amount => { b with promised := b.promised.set k amount }
  | .fulfil k cost => { spent := b.spent + cost, promised := b.promised.erase k }

/-- New promises have a key of their own, and costs stay within their promise, or are none. -/
def Allowed (b : Commitments K M) : Effect K M → Prop
  | .keep => True
  | .promise k _ => b.promised.get? k = none
  | .fulfil k cost => ∃ amount ∈ b.promised.get? k, cost ≤ amount ∨ cost = 0

/-- What is spent if every open promise is used up. -/
def exposure (b : Commitments K M) : M := b.spent + b.promised.sumOf fun _ amount => max 0 amount

/-- However the open promises are kept, or left at no cost, the budget is enough. -/
def Covered (total : M) (b : Commitments K M) : Prop :=
  ∀ cost : K → M, (∀ k amount, b.promised.get? k = some amount → cost k ≤ amount ∨ cost k = 0) →
    b.spent + b.promised.sumOf (fun k _ => cost k) ≤ total

/-- The budget has room for one more promise. -/
def Fits (total : M) (b : Commitments K M) : Effect K M → Prop
  | .promise _ amount => b.exposure + max 0 amount ≤ total
  | _ => True

variable {total : M} {b : Commitments K M}

theorem exposure_promise {k : K} (fresh : b.promised.get? k = none) (amount : M) :
    (b.apply (.promise k amount)).exposure = b.exposure + max 0 amount := by
  simp only [apply, exposure, Dict.sumOf_set_new fresh, add_assoc]

variable [IsOrderedAddMonoid M]

theorem covered_iff : b.Covered total ↔ b.exposure ≤ total := by
  constructor
  · intro covered
    have worst := covered (fun k => max 0 (b.promised.getD k 0)) (by
      intro k amount found
      simp only [Dict.getD, found, Option.getD_some]
      rcases le_total 0 amount with nonneg | nonpos
      · exact Or.inl (max_eq_right nonneg).le
      · exact Or.inr (max_eq_left nonpos))
    have same : b.promised.sumOf (fun k _ => max 0 (b.promised.getD k 0)) =
        b.promised.sumOf fun _ amount => max 0 amount :=
      Dict.sumOf_congr fun k amount found => by simp only [Dict.getD, found, Option.getD_some]
    rwa [same] at worst
  · intro room cost within
    refine le_trans (add_le_add_right (Dict.sumOf_le_sumOf fun k amount found => ?_) _) room
    rcases within k amount found with le | zero
    · exact le.trans (le_max_right 0 amount)
    · exact zero.trans_le (le_max_left 0 amount)

theorem exposure_fulfil_le {k : K} {amount cost : M} (found : b.promised.get? k = some amount)
    (within : cost ≤ amount ∨ cost = 0) : (b.apply (.fulfil k cost)).exposure ≤ b.exposure := by
  have bounded : cost ≤ max 0 amount := by
    rcases within with le | rfl
    · exact le.trans (le_max_right 0 amount)
    · exact le_max_left 0 amount
  simp only [apply, exposure]
  rw [← Dict.sumOf_erase found, add_assoc, add_comm cost]
  exact add_le_add_right (add_le_add_right bounded _) _

theorem covered_apply_iff {effect : Effect K M} (covered : b.Covered total)
    (allowed : b.Allowed effect) : (b.apply effect).Covered total ↔ b.Fits total effect := by
  cases effect with
  | keep => exact iff_of_true covered trivial
  | promise k amount => rw [covered_iff, exposure_promise allowed, Fits]
  | fulfil k cost =>
    obtain ⟨amount, found, within⟩ := allowed
    refine iff_of_true ?_ trivial
    exact covered_iff.mpr ((exposure_fulfil_le found within).trans (covered_iff.mp covered))

variable {State Action : Type} {step : State → Action → State}
  {legal cond : State → Action → Prop} {I : State → Prop} {book : State → Commitments K M}
  {effect : State → Action → Effect K M}

/-- A run is covered in all its states exactly when it starts covered and `cond` holds of all its
    steps, if `cond` says of a covered state which promises fit. The invariant may rely on the
    coverage so far. -/
theorem eachState_covered_iff
    (keep : ∀ s a, I s → legal s a → (book (step s a)).Covered total → I (step s a))
    (moves : ∀ s a, I s → legal s a →
      (book s).Allowed (effect s a) ∧ book (step s a) = (book s).apply (effect s a))
    (exact_step : ∀ s a, I s → (book s).Covered total → legal s a →
      ((book s).Fits total (effect s a) ↔ cond s a))
    {s : State} {actions : List Action} (start : (book s).Covered total → I s)
    (legalRun : Runs.EachStep step legal s actions) :
    Runs.EachState step (fun s => (book s).Covered total) s actions ↔
      (book s).Covered total ∧ Runs.EachStep step cond s actions := by
  rw [Runs.eachState_iff_eachStep]
  apply and_congr_right
  intro covered
  refine Runs.eachStep_exact (I := fun s => I s ∧ (book s).Covered total) ?_ ?_
    ⟨start covered, covered⟩ legalRun
  · intro s a kept isLegal after
    exact ⟨keep s a kept.1 isLegal after, after⟩
  · intro s a kept isLegal
    obtain ⟨allowed, eq⟩ := moves s a kept.1 isLegal
    rw [eq, covered_apply_iff kept.2 allowed]
    exact exact_step s a kept.1 kept.2 isLegal

end Commitments
