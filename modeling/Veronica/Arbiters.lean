import Veronica.Types
import Veronica.Library.Arithmetic
import Veronica.Library.Dict

/- The two arbiters that work without shared state, in any arithmetic. Both map desires to
   policies by chain; a later desire of a chain overwrites an earlier one. -/
namespace VeronicaArbiters
open VeronicaTypes

/-- The policy every arbiter issues for a desire, up to its ceiling and version. -/
def issue (d : DesiredPolicy) (ceilingUsd : ℚ) (version : String) (now : ℚ) : PolicyConfig where
  chainId := d.chainId
  ceilingUsd := ceilingUsd
  ceilingSteps := some d.ceilingSteps
  ceilingTokensOut := some d.ceilingTokensOut
  onExceed := d.onExceed
  fallbackModel := d.fallbackModel
  timeoutMs := some d.timeoutMs
  priority := d.priority
  issuedAt := now
  plannerVersion := some version

section Arbitrate
variable (r : Arithmetic)

def totalDesired (desires : List DesiredPolicy) : ℚ := r.sum (desires.map DesiredPolicy.ceilingUsd)

def passthroughScale (desires : List DesiredPolicy) (budgetRemainingUsd : ℚ) : ℚ :=
  if budgetRemainingUsd < totalDesired r desires ∧ 0 < totalDesired r desires then
    r.fl (budgetRemainingUsd / totalDesired r desires)
  else 1

/-- PassthroughArbiter.arbitrate -/
def passthroughArbitrate (desires : List DesiredPolicy) (budgetRemainingUsd now : ℚ)
    (r : Arithmetic := .exact) : Dict String PolicyConfig :=
  let scale := passthroughScale r desires budgetRemainingUsd
  desires.foldl (fun result d =>
    result.set d.chainId (issue d (r.scale d.ceilingUsd scale) "0.1.0" now)) ∅

def minAllocationUsd : ℚ := 1 / 100
def eps : ℚ := 1 / 10 ^ 12

theorem minAllocationUsd_pos : 0 < minAllocationUsd := by norm_num [minAllocationUsd]
theorem eps_pos : 0 < eps := by norm_num [eps]

def weight (desires : List DesiredPolicy) : ℚ := (desires.map fun d => (d.priority : ℚ)).sum

/-- What the first pass over the eligible desires leaves. -/
structure FirstPass where
  allocations : Dict String ℚ := ∅
  surplus : ℚ := 0
  uncapped : List DesiredPolicy := []

def allocateShare (totalWeight budgetRemainingUsd : ℚ) (pass : FirstPass) (d : DesiredPolicy) :
    FirstPass :=
  let share := r.scale budgetRemainingUsd (r.fl (d.priority / totalWeight))
  if d.ceilingUsd < share then
    { pass with
      surplus := r.fl (pass.surplus + r.fl (share - d.ceilingUsd))
      allocations := pass.allocations.set d.chainId d.ceilingUsd }
  else
    { pass with
      allocations := pass.allocations.set d.chainId share
      uncapped := pass.uncapped ++ [d] }

def redistribute (pass : FirstPass) : Dict String ℚ :=
  if r.fl eps < pass.surplus ∧ pass.uncapped ≠ [] ∧ r.fl eps < weight pass.uncapped then
    pass.uncapped.foldl (fun allocations d =>
      let extra := r.scale pass.surplus (r.fl (d.priority / weight pass.uncapped))
      allocations.set d.chainId (min (r.fl (allocations.getD d.chainId 0 + extra)) d.ceilingUsd))
      pass.allocations
  else pass.allocations

def applyMinimum (count : Nat) (budgetRemainingUsd : ℚ) (allocations : Dict String ℚ) :
    Dict String ℚ :=
  if r.fl (count * r.fl minAllocationUsd) ≤ budgetRemainingUsd then
    allocations.mapValues fun allocation => max allocation (r.fl minAllocationUsd)
  else allocations

/-- The total is above the budget where it divides; it is not zero there unless two desires
    name the same chain. -/
def doubleClamp (budgetRemainingUsd : ℚ) (allocations : Dict String ℚ) : Dict String ℚ :=
  let total := r.sum (allocations.entries.map Prod.snd)
  if r.fl (budgetRemainingUsd + r.fl eps) < total then
    allocations.mapValues fun allocation =>
      r.scale allocation (r.fl (budgetRemainingUsd / total))
  else allocations

def allocate (eligible : List DesiredPolicy) (budgetRemainingUsd : ℚ) : Dict String ℚ :=
  let pass := eligible.foldl (allocateShare r (weight eligible) budgetRemainingUsd) {}
  doubleClamp r budgetRemainingUsd
    (applyMinimum r eligible.length budgetRemainingUsd (redistribute r pass))

/-- The last desire of a chain, as in a dict built from the list. -/
def desireOf (eligible : List DesiredPolicy) (chainId : String) : Option DesiredPolicy :=
  eligible.reverse.find? fun d => d.chainId = chainId

/-- ProportionalArbiter.arbitrate -/
def proportionalArbitrate (desires : List DesiredPolicy) (budgetRemainingUsd now : ℚ)
    (r : Arithmetic := .exact) : Dict String PolicyConfig :=
  let eligible := desires.filter fun d => 0 < d.priority
  if eligible = [] ∨ weight eligible < r.fl eps then ∅
  else
    (allocate r eligible budgetRemainingUsd).entries.foldl (fun result (chainId, allocation) =>
      match desireOf eligible chainId with
      | none => result
      | some d => result.set chainId (issue d allocation "0.2.0" now)) ∅

end Arbitrate

theorem weight_heavy (r : Arithmetic) {eligible : List DesiredPolicy}
    (positive : ∀ d ∈ eligible, 0 < d.priority) (nonempty : eligible ≠ []) :
    ¬ weight eligible < r.fl eps := by
  have small : r.fl eps ≤ 1 := r.fl_le r.one (by norm_num [eps])
  obtain ⟨d, member⟩ := List.exists_mem_of_ne_nil eligible nonempty
  have one : (1 : ℚ) ≤ d.priority := by exact_mod_cast positive d member
  have part : (d.priority : ℚ) ≤ weight eligible := by
    refine List.single_le_sum ?_ _ (List.mem_map_of_mem member)
    intro share among
    obtain ⟨e, memberE, rfl⟩ := List.mem_map.mp among
    exact_mod_cast (positive e memberE).le
  linarith

/-- What PassthroughArbiter makes of a single ceiling. -/
def passthroughCeiling (ceilingUsd budgetRemainingUsd : ℚ) (r : Arithmetic := .exact) : ℚ :=
  if budgetRemainingUsd < ceilingUsd ∧ 0 < ceilingUsd then
    r.scale ceilingUsd (r.fl (budgetRemainingUsd / ceilingUsd))
  else ceilingUsd

/-- What ProportionalArbiter makes of a single ceiling. -/
def proportionalCeiling (ceilingUsd budgetRemainingUsd : ℚ) (r : Arithmetic := .exact) : ℚ :=
  if r.fl minAllocationUsd ≤ budgetRemainingUsd then
    max (min budgetRemainingUsd ceilingUsd) (r.fl minAllocationUsd)
  else min budgetRemainingUsd ceilingUsd

theorem passthroughCeiling_exact (ceilingUsd remaining : ℚ) :
    passthroughCeiling ceilingUsd remaining =
      if 0 < ceilingUsd then min remaining ceilingUsd else ceilingUsd := by
  unfold passthroughCeiling
  by_cases positive : 0 < ceilingUsd
  · rcases lt_or_ge remaining ceilingUsd with short | enough
    · rw [if_pos ⟨short, positive⟩, if_pos positive, min_eq_left short.le, Arithmetic.exact_scale,
        mul_div_cancel₀ _ positive.ne']
    · rw [if_neg (fun h => not_lt.mpr enough h.1), if_pos positive, min_eq_right enough]
  · rw [if_neg (fun h => positive h.2), if_neg positive]

theorem passthrough_nonneg_iff (ceilingUsd remaining : ℚ) :
    0 ≤ passthroughCeiling ceilingUsd remaining ↔
      0 ≤ ceilingUsd ∧ (0 ≤ remaining ∨ ceilingUsd ≤ 0) := by
  rw [passthroughCeiling_exact]
  split
  · rename_i positive
    simp [positive.le, not_le.mpr positive]
  · rename_i nonpositive
    simp [not_lt.mp nonpositive]

section Single
variable (r : Arithmetic)

theorem passthrough_affordable {ceiling remaining : ℚ} (affordable : ceiling ≤ remaining) :
    passthroughCeiling ceiling remaining r = ceiling :=
  if_neg fun short => not_lt.mpr affordable short.1

theorem proportional_nonneg_iff (ceilingUsd remaining : ℚ) :
    0 ≤ proportionalCeiling ceilingUsd remaining r ↔
      r.fl minAllocationUsd ≤ remaining ∨ (0 ≤ remaining ∧ 0 ≤ ceilingUsd) := by
  have cent := r.fl_nonneg minAllocationUsd_pos.le
  unfold proportionalCeiling
  split
  · rename_i enough
    exact iff_of_true (cent.trans (le_max_right _ _)) (Or.inl enough)
  · rename_i short
    simp [short]

theorem proportional_le (ceilingUsd remaining : ℚ) :
    proportionalCeiling ceilingUsd remaining r ≤ max 0 remaining := by
  unfold proportionalCeiling
  split
  · rename_i enough
    exact (max_le (min_le_left _ _) enough).trans (le_max_right _ _)
  · exact (min_le_left _ _).trans (le_max_right _ _)

theorem passthrough_single (d : DesiredPolicy) (budgetRemainingUsd now : ℚ) :
    passthroughArbitrate [d] budgetRemainingUsd now r =
      (∅ : Dict String PolicyConfig).set d.chainId
        (issue d (passthroughCeiling d.ceilingUsd budgetRemainingUsd r) "0.1.0" now) := by
  have scaled : r.scale d.ceilingUsd (passthroughScale r [d] budgetRemainingUsd) =
      passthroughCeiling d.ceilingUsd budgetRemainingUsd r := by
    simp only [passthroughScale, passthroughCeiling, totalDesired, List.map_cons, List.map_nil,
      Arithmetic.sum_singleton]
    split
    · rfl
    · exact r.scale_one _
  simp only [passthroughArbitrate, List.foldl_cons, List.foldl_nil, scaled]

variable {r}

theorem first_pass_single {d : DesiredPolicy} (positive : 0 < d.priority)
    (budgetRemainingUsd : ℚ) :
    redistribute r ([d].foldl (allocateShare r (weight [d]) budgetRemainingUsd) {}) =
      (∅ : Dict String ℚ).set d.chainId (min budgetRemainingUsd d.ceilingUsd) := by
  have nonzero : (d.priority : ℚ) ≠ 0 := by exact_mod_cast positive.ne'
  have whole : r.scale budgetRemainingUsd (r.fl (d.priority / weight [d])) =
      budgetRemainingUsd := by
    have one : (d.priority : ℚ) / weight [d] = 1 := by simp [weight, nonzero]
    rw [one, r.one, r.scale_one]
  have no_surplus : ¬ r.fl eps < 0 := (r.fl_nonneg eps_pos.le).not_gt
  simp only [List.foldl_cons, List.foldl_nil, allocateShare, whole]
  split
  · rename_i surplus
    simp [redistribute, min_eq_right surplus.le]
  · rename_i capped
    simp [redistribute, no_surplus, min_eq_left (not_lt.mp capped)]

theorem applyMinimum_single (chainId : String) (allocation budgetRemainingUsd : ℚ) :
    applyMinimum r 1 budgetRemainingUsd ((∅ : Dict String ℚ).set chainId allocation) =
      (∅ : Dict String ℚ).set chainId (if r.fl minAllocationUsd ≤ budgetRemainingUsd then
        max allocation (r.fl minAllocationUsd) else allocation) := by
  simp only [applyMinimum, Nat.cast_one, one_mul, r.idempotent]
  split
  · rw [Dict.mapValues_set _ rfl, Dict.mapValues_empty]
  · rfl

theorem doubleClamp_single (chainId : String) {allocation budgetRemainingUsd : ℚ}
    (held : r.fl budgetRemainingUsd = budgetRemainingUsd)
    (within : allocation ≤ budgetRemainingUsd) :
    doubleClamp r budgetRemainingUsd ((∅ : Dict String ℚ).set chainId allocation) =
      (∅ : Dict String ℚ).set chainId allocation := by
  have room : budgetRemainingUsd ≤ r.fl (budgetRemainingUsd + r.fl eps) :=
    r.le_fl held (le_add_of_nonneg_right (r.fl_nonneg eps_pos.le))
  simp only [doubleClamp, Dict.single_entries, List.map_cons, List.map_nil,
    Arithmetic.sum_singleton, not_lt.mpr (within.trans room), if_false]

theorem proportional_single {d : DesiredPolicy} (positive : 0 < d.priority)
    {budgetRemainingUsd : ℚ} (held : r.fl budgetRemainingUsd = budgetRemainingUsd) (now : ℚ) :
    proportionalArbitrate [d] budgetRemainingUsd now r =
      (∅ : Dict String PolicyConfig).set d.chainId
        (issue d (proportionalCeiling d.ceilingUsd budgetRemainingUsd r) "0.2.0" now) := by
  have within : (if r.fl minAllocationUsd ≤ budgetRemainingUsd then
      max (min budgetRemainingUsd d.ceilingUsd) (r.fl minAllocationUsd)
      else min budgetRemainingUsd d.ceilingUsd) ≤ budgetRemainingUsd := by
    split
    · rename_i enough
      exact max_le (min_le_left _ _) enough
    · exact min_le_left _ _
  have heavy : ¬ weight [d] < r.fl eps :=
    weight_heavy r (by simpa using positive) (List.cons_ne_nil _ _)
  have allocated : allocate r [d] budgetRemainingUsd = (∅ : Dict String ℚ).set d.chainId
      (proportionalCeiling d.ceilingUsd budgetRemainingUsd r) := by
    rw [allocate, first_pass_single positive, List.length_singleton, applyMinimum_single,
      doubleClamp_single _ held within, proportionalCeiling]
  have eligible : [d].filter (fun d => decide (0 < d.priority)) = [d] := by simp [positive]
  simp only [proportionalArbitrate, eligible, heavy, or_false, List.cons_ne_nil, if_false,
    allocated, Dict.single_entries, List.foldl_cons, List.foldl_nil]
  simp [desireOf]

theorem proportional_excluded {d : DesiredPolicy} (excluded : d.priority ≤ 0)
    (budgetRemainingUsd now : ℚ) :
    proportionalArbitrate [d] budgetRemainingUsd now r = ∅ := by
  simp [proportionalArbitrate, not_lt.mpr excluded]

end Single

end VeronicaArbiters
