import Veronica.ProportionalShares

/- How much ProportionalArbiter hands out of a budget that the desired ceilings could hold. Its
   second pass gives the surplus away once; what a ceiling cuts off there goes to nobody else. -/
namespace VeronicaSurplus
open VeronicaTypes VeronicaArbiters VeronicaProportionalShares WeightedShares

section Sums
variable (desires : List DesiredPolicy) (budget : ℚ)

def cutOff : ℚ := (divisionOf (eligibleOf desires) budget).lost

def lifted : ℚ :=
  if CoversMinimum (eligibleOf desires) budget then
    ((eligibleOf desires).map (shortfall (eligibleOf desires) budget)).sum
  else 0

def capacity : ℚ := ((eligibleOf desires).map DesiredPolicy.ceilingUsd).sum

end Sums

/-- The allocations add up to the budget, within the tolerance. -/
def SpendsBudget (budget : ℚ) (policies : Dict String PolicyConfig) : Prop :=
  budget - eps ≤ (policies.sumOf fun _ policy => policy.ceilingUsd) ∧
    (policies.sumOf fun _ policy => policy.ceilingUsd) ≤ budget + eps

variable {desires : List DesiredPolicy} {budget : ℚ}

theorem lifted_nonneg : 0 ≤ lifted desires budget := by
  unfold lifted
  split
  · refine List.sum_nonneg ?_
    intro lack member
    obtain ⟨d, _, rfl⟩ := List.mem_map.mp member
    exact le_max_left _ _
  · exact le_refl 0

theorem raisedTotal_lifted : raisedTotal (eligibleOf desires) budget =
    budget - unclaimed (eligibleOf desires) budget + lifted desires budget := by
  unfold lifted
  split
  · rename_i covers
    exact raisedTotal_eq covers
  · rename_i short
    have own : (eligibleOf desires).map (raised (eligibleOf desires) budget) =
        (eligibleOf desires).map (divisionOf (eligibleOf desires) budget).entitlement :=
      List.map_congr_left fun d _ => by rw [raised, if_neg short]
    rw [raisedTotal, own, unclaimed, sub_sub_cancel, add_zero]

theorem unclaimed_cutOff (ceilings : ∀ d ∈ desires, 0 ≤ d.ceilingUsd) (nonneg : 0 ≤ budget)
    (enough : budget ≤ capacity desires) :
    unclaimed (eligibleOf desires) budget = cutOff desires budget ∨
      (unclaimed (eligibleOf desires) budget ≤ eps ∧ cutOff desires budget ≤ eps) := by
  by_cases empty : eligibleOf desires = []
  · have nothing : budget = 0 := by
      rw [capacity, empty] at enough
      exact le_antisymm enough nonneg
    have none : (divisionOf [] 0).lost = 0 := rfl
    left
    rw [unclaimed, cutOff, empty, nothing, none, List.map_nil, List.sum_nil, sub_zero]
  · have sound := (eligible_valid ceilings).sound nonneg
    refine sound.undivided ?_ empty enough
    intro d member
    have one : (1 : ℚ) ≤ d.priority := by exact_mod_cast (mem_eligible.mp member).2
    have small : eps < 1 := by norm_num [eps]
    exact small.trans_le one

/-- A budget that fits under the ceilings is handed out exactly if the second pass cuts off no more
    than the minimum adds, and the tolerance. -/
theorem spends_budget_iff (distinct : DistinctChains desires)
    (ceilings : ∀ d ∈ desires, 0 ≤ d.ceilingUsd) (nonneg : 0 ≤ budget)
    (enough : budget ≤ capacity desires) (now : ℚ) :
    SpendsBudget budget (proportionalArbitrate desires budget now) ↔
      cutOff desires budget ≤ lifted desires budget + eps := by
  have small := eps_pos
  have added : 0 ≤ lifted desires budget := lifted_nonneg
  have left := unclaimed_cutOff ceilings nonneg enough
  rw [SpendsBudget, allocated_sum distinct, sum_allotment nonneg, raisedTotal_lifted]
  split
  · rename_i above
    refine iff_of_true ⟨by linarith, by linarith⟩ ?_
    rcases left with same | ⟨_, little⟩
    · linarith
    · linarith
  · rename_i within
    rcases left with same | ⟨little, little'⟩
    · rw [same] at within ⊢
      constructor
      · rintro ⟨least, _⟩
        linarith
      · intro cut
        exact ⟨by linarith, by linarith⟩
    · exact iff_of_true ⟨by linarith, by linarith⟩ (by linarith)

/-- The surplus of one chain goes to the other. -/
theorem one_surplus_spent : SpendsBudget 5
    (proportionalArbitrate [desired "c1" (1 / 2) 50, desired "c2" 10 50] 5 0) :=
  (spends_budget_iff (by decide) (by decide +kernel) (by norm_num) (by decide +kernel) 0).mpr
    (by decide +kernel)

/-- Of a surplus of three dollars the second chain takes one and the third its half; the third could
    take the rest, but half a dollar is left. -/
theorem second_cap_left_over :
    DistinctChains [desired "c1" 0 50, desired "c2" 4 50, desired "c3" 100 50] ∧
    (∀ d ∈ [desired "c1" 0 50, desired "c2" 4 50, desired "c3" 100 50], 0 ≤ d.ceilingUsd) ∧
    9 ≤ capacity [desired "c1" 0 50, desired "c2" 4 50, desired "c3" 100 50] ∧
    ¬ SpendsBudget 9 (proportionalArbitrate
      [desired "c1" 0 50, desired "c2" 4 50, desired "c3" 100 50] 9 0) := by
  refine ⟨by decide, by decide +kernel, by decide +kernel, ?_⟩
  rintro ⟨least, _⟩
  revert least
  decide +kernel

end VeronicaSurplus
