import Veronica.Library.Arithmetic
import Veronica.Library.Commitments
import Mathlib.Data.List.Permutation

/- Commitments whose costs are added in a rounding arithmetic. A rounded total depends on the order
   of the costs, so the budget is enough only if it is enough in every order. -/
namespace Commitments
variable {K : Type} [DecidableEq K] (r : Arithmetic)

def applyIn (b : Commitments K ℚ) : Effect K ℚ → Commitments K ℚ
  | .keep => b
  | .promise k amount => { b with promised := b.promised.set k amount }
  | .fulfil k cost => { spent := r.fl (b.spent + cost), promised := b.promised.erase k }

/-- The open promises, each used up if that costs anything. -/
def openAmounts (b : Commitments K ℚ) : List ℚ := b.promised.entries.map fun e => max 0 e.2

/-- In every order of these amounts the budget is enough. -/
def EveryOrder (spent budget : ℚ) (amounts : List ℚ) : Prop :=
  ∀ order ∈ amounts.permutations', r.total spent order ≤ budget

instance (spent budget : ℚ) (amounts : List ℚ) : Decidable (EveryOrder r spent budget amounts) :=
  inferInstanceAs (Decidable (∀ order ∈ amounts.permutations', _ ≤ _))

/-- However the open promises are kept, the budget is enough. -/
def CoveredIn (budget : ℚ) (b : Commitments K ℚ) : Prop :=
  EveryOrder r b.spent budget b.openAmounts

def FitsIn (budget : ℚ) (b : Commitments K ℚ) : Effect K ℚ → Prop
  | .promise _ amount => EveryOrder r b.spent budget (max 0 amount :: b.openAmounts)
  | _ => True

variable {r} {budget : ℚ} {b : Commitments K ℚ}

theorem everyOrder_iff {spent : ℚ} {amounts : List ℚ} : EveryOrder r spent budget amounts ↔
    ∀ order, order.Perm amounts → r.total spent order ≤ budget := by
  simp only [EveryOrder, List.mem_permutations']

theorem everyOrder_perm {spent : ℚ} {amounts others : List ℚ} (perm : amounts.Perm others) :
    EveryOrder r spent budget amounts ↔ EveryOrder r spent budget others := by
  rw [everyOrder_iff, everyOrder_iff]
  constructor
  · exact fun every order among => every order (among.trans perm.symm)
  · exact fun every order among => every order (among.trans perm)

theorem everyOrder_nil {spent : ℚ} : EveryOrder r spent budget [] ↔ spent ≤ budget := by
  rw [everyOrder_iff]
  constructor
  · exact fun every => every [] (List.Perm.refl [])
  · rintro within order perm
    rw [List.perm_nil.mp perm]
    exact within

theorem everyOrder_zero {spent : ℚ} (held : r.fl spent = spent) {amounts : List ℚ}
    (every : EveryOrder r spent budget amounts) : EveryOrder r spent budget (0 :: amounts) := by
  refine everyOrder_iff.mpr fun order among => ?_
  obtain ⟨first, rest, rfl⟩ := List.append_of_mem (among.mem_iff.mpr List.mem_cons_self)
  have others : (first ++ rest).Perm amounts :=
    (List.perm_cons 0).mp (List.perm_middle.symm.trans among)
  rw [Arithmetic.total_append, Arithmetic.total_cons, add_zero, r.total_held held,
    ← Arithmetic.total_append]
  exact everyOrder_iff.mp every _ others

theorem coveredIn_promise {k : K} (fresh : b.promised.get? k = none) (amount : ℚ) :
    (b.applyIn r (.promise k amount)).CoveredIn r budget ↔
      b.FitsIn r budget (.promise k amount) := by
  refine everyOrder_perm ?_
  simp only [openAmounts, applyIn, Dict.set_entries_absent (Dict.get?_eq_none_iff.mp fresh),
    List.map_append, List.map_cons, List.map_nil]
  exact List.perm_append_comm

theorem coveredIn_fulfil {k : K} {amount cost : ℚ} (found : b.promised.get? k = some amount)
    (within : cost ≤ amount ∨ cost = 0) (covered : b.CoveredIn r budget) :
    (b.applyIn r (.fulfil k cost)).CoveredIn r budget := by
  have used : cost ≤ max 0 amount := by
    rcases within with le | zero
    · exact le.trans (le_max_right 0 amount)
    · exact zero.trans_le (le_max_left 0 amount)
  have perm : b.openAmounts.Perm
      (max 0 amount :: (b.applyIn r (.fulfil k cost)).openAmounts) :=
    (Dict.perm_erase found).map fun e : K × ℚ => max 0 e.2
  refine everyOrder_iff.mpr fun order among => ?_
  have first := everyOrder_iff.mp covered (max 0 amount :: order)
    ((among.cons _).trans perm.symm)
  exact (r.total_mono_start (r.monotone (add_le_add_right used _)) order).trans first

theorem coveredIn_applyIn_iff {effect : Effect K ℚ} (covered : b.CoveredIn r budget)
    (allowed : b.Allowed effect) :
    (b.applyIn r effect).CoveredIn r budget ↔ b.FitsIn r budget effect := by
  cases effect with
  | keep => exact iff_of_true covered trivial
  | promise k amount => exact coveredIn_promise allowed amount
  | fulfil k cost =>
    obtain ⟨amount, found, within⟩ := allowed
    exact iff_of_true (coveredIn_fulfil found within covered) trivial

omit [DecidableEq K] in
theorem spent_le_of_coveredIn (held : r.fl b.spent = b.spent) (covered : b.CoveredIn r budget) :
    b.spent ≤ budget := by
  have whole := everyOrder_iff.mp covered b.openAmounts (List.Perm.refl _)
  refine (r.le_total held ?_).trans whole
  intro amount listed
  obtain ⟨e, _, rfl⟩ := List.mem_map.mp listed
  exact le_max_left 0 e.2

section Runs
variable {State Action : Type} {step : State → Action → State}
  {legal cond : State → Action → Prop} {I : State → Prop} {book : State → Commitments K ℚ}
  {effect : State → Action → Effect K ℚ}

/-- The run rule for commitments: a run is covered in all its states exactly when it starts
    covered and `cond` holds of all its steps, if `cond` says which promises fit. -/
theorem eachState_coveredIn_iff (keep : ∀ s a, I s → legal s a → I (step s a))
    (moves : ∀ s a, I s → legal s a →
      (book s).Allowed (effect s a) ∧ book (step s a) = (book s).applyIn r (effect s a))
    (exact_step : ∀ s a, I s → (book s).CoveredIn r budget → legal s a →
      ((book s).FitsIn r budget (effect s a) ↔ cond s a))
    {s : State} {actions : List Action} (start : I s)
    (legalRun : Runs.EachStep step legal s actions) :
    Runs.EachState step (fun s => (book s).CoveredIn r budget) s actions ↔
      (book s).CoveredIn r budget ∧ Runs.EachStep step cond s actions := by
  rw [Runs.eachState_iff_eachStep]
  apply and_congr_right
  intro covered
  refine Runs.eachStep_exact (I := fun s => I s ∧ (book s).CoveredIn r budget) ?_ ?_
    ⟨start, covered⟩ legalRun
  · intro s a kept isLegal after
    exact ⟨keep s a kept.1 isLegal, after⟩
  · intro s a kept isLegal
    obtain ⟨allowed, eq⟩ := moves s a kept.1 isLegal
    rw [eq, coveredIn_applyIn_iff kept.2 allowed]
    exact exact_step s a kept.1 kept.2 isLegal

end Runs

end Commitments
