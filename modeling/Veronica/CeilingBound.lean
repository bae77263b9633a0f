import Veronica.PipelineRuns

/- When an issued ceiling lies between zero and the remaining budget. The planner cuts its
   ceiling to what the chain has left, only an arbiter cuts it to the request budget, and no
   stage lifts a ceiling that an overspend made negative. -/
namespace VeronicaCeilingBound
open VeronicaTypes VeronicaPlanners VeronicaArbiters VeronicaPipeline VeronicaStages VeronicaIssue
open VeronicaRuns

/-- `remaining` is the request budget as read under the lock of the call. -/
def WithinRemaining (handle : StepHandle) (remaining : ℚ) : Prop :=
  0 ≤ handle.policy.ceilingUsd ∧ handle.policy.ceilingUsd ≤ max 0 remaining

/-- A limit above what is left: their quotient is not rounded up, or times the limit it is
    rounded back. Of a negative rest, the product underflows to zero. -/
def ScalesDown (r : Arithmetic) (limit remaining : ℚ) : Prop :=
  if 0 ≤ remaining then
    r.fl (remaining / limit) ≤ remaining / limit ∨
      r.scale limit (r.fl (remaining / limit)) = remaining
  else r.scale limit (r.fl (remaining / limit)) = 0

section Scaling
variable {r : Arithmetic} {limit remaining : ℚ}

theorem scaled_within_iff (held : r.fl remaining = remaining) (short : remaining < limit)
    (positive : 0 < limit) :
    (0 ≤ r.scale limit (r.fl (remaining / limit)) ∧
      r.scale limit (r.fl (remaining / limit)) ≤ max 0 remaining) ↔
        ScalesDown r limit remaining := by
  have below_one : remaining / limit < 1 := (div_lt_one positive).mpr short
  have product : limit * (remaining / limit) = remaining := mul_div_cancel₀ _ positive.ne'
  unfold ScalesDown
  split
  · rename_i nonneg
    have factor := r.fl_nonneg (div_nonneg nonneg positive.le)
    rw [max_eq_right nonneg]
    constructor
    · rintro ⟨_, within⟩
      by_contra above
      rw [not_or, not_le] at above
      refine above.2 (le_antisymm within ?_)
      unfold Arithmetic.scale
      split
      · exact short.le
      · refine r.le_fl held ?_
        calc remaining = limit * (remaining / limit) := product.symm
          _ ≤ limit * r.fl (remaining / limit) :=
            mul_le_mul_of_nonneg_left above.1.le positive.le
    · rintro (down | back)
      · have fraction : r.fl (remaining / limit) ≠ 1 := (down.trans_lt below_one).ne
        rw [Arithmetic.scale, if_neg fraction]
        refine ⟨r.fl_nonneg (mul_nonneg positive.le factor), r.fl_le held ?_⟩
        calc limit * r.fl (remaining / limit) ≤ limit * (remaining / limit) :=
              mul_le_mul_of_nonneg_left down positive.le
          _ = remaining := product
      · rw [back]
        exact ⟨nonneg, le_rfl⟩
  · rename_i negative
    rw [not_le] at negative
    rw [max_eq_left negative.le]
    exact ⟨fun bounds => le_antisymm bounds.2 bounds.1, fun zero => ⟨zero.ge, zero.le⟩⟩

theorem passthrough_within_iff (held : r.fl remaining = remaining) (ceiling : ℚ) :
    (0 ≤ passthroughCeiling ceiling remaining r ∧
      passthroughCeiling ceiling remaining r ≤ max 0 remaining) ↔
        0 ≤ ceiling ∧ (ceiling ≤ max 0 remaining ∨ ScalesDown r ceiling remaining) := by
  unfold passthroughCeiling
  split
  · rename_i scaled
    rw [scaled_within_iff held scaled.1 scaled.2, and_iff_right scaled.2.le,
      or_iff_right (not_le.mpr (max_lt scaled.2 scaled.1))]
  · rename_i kept
    refine and_congr_right fun nonneg => (or_iff_left_of_imp fun _ => ?_).symm
    by_contra above
    rw [le_max_iff, not_or, not_le, not_le] at above
    exact kept ⟨above.2, above.1⟩

end Scaling

variable {P S : Type} [CeilingPlanner P] [StoreProtocol S]

/-- What each way of issuing asks of the limits and of the remaining budget. Without a positive
    priority the proportional arbiter drops the desire, and a default of one dollar is issued. -/
def CeilingSound (setup : Setup) (early late : VeronicaOS P (LocalArbiter setup.arithmetic) S)
    (intent : StepIntent) (t : BeforeTimes) : Prop :=
  let limits := ceilingLimits setup early late intent t
  let remaining := late.remaining setup
  if arbiterOverran setup t then
    (∀ limit ∈ limits, 0 ≤ limit) ∧ ∃ limit ∈ limits, limit ≤ max 0 remaining
  else match late.arbiter with
    | .inl _ => (∀ limit ∈ limits, 0 ≤ limit) ∧
      ((∃ limit ∈ limits, limit ≤ max 0 remaining) ∨
        ∃ limit ∈ limits, (∀ other ∈ limits, limit ≤ other) ∧
          ScalesDown setup.arithmetic limit remaining)
    | .inr _ =>
      if cappedPriority setup ≤ 0 then 1 ≤ remaining
      else setup.arithmetic.fl minAllocationUsd ≤ remaining ∨
        (0 ≤ remaining ∧ ∀ limit ∈ limits, 0 ≤ limit)

/-- Exactly when a call that is not denied issues a ceiling within the remaining budget, in any
    state of the pipeline, in any arithmetic and under any timing of its stages. -/
theorem within_remaining_iff {setup : Setup}
    {early late : VeronicaOS P (LocalArbiter setup.arithmetic) S}
    {intent : StepIntent} {t : BeforeTimes} {handle : StepHandle}
    (issued : (VeronicaOS.beforeStepAt setup early late intent t).2 = .ok handle)
    (admitted : handle.decisionMeta.orgDenial = none) :
    WithinRemaining handle (late.remaining setup) ↔ CeilingSound setup early late intent t := by
  have above := le_desired_iff setup early late intent t 0
  have below := desired_le_iff setup early late intent t
  have least := desired_iff_least setup early late intent t
    fun limit => ScalesDown setup.arithmetic limit (late.remaining setup)
  have held : setup.arithmetic.fl (late.remaining setup) = late.remaining setup :=
    setup.arithmetic.idempotent _
  rw [WithinRemaining, admitted_policy setup early late intent t issued admitted]
  unfold CeilingSound
  by_cases overran : arbiterOverran setup t
  · simp only [policyFor_overran overran, overran, if_true, barePolicy, above, below]
  · simp only [overran, if_false]
    cases late.arbiter with
    | inl a =>
      simp only [policyFor_inl overran, policyFor_passthrough overran, issue,
        passthrough_within_iff held, above, below, least]
    | inr a =>
      simp only [policyFor_inr overran, policyFor_proportional overran held, desired_priority]
      by_cases excluded : cappedPriority setup ≤ 0
      · simp only [not_lt.mpr excluded, excluded, if_true, if_false, barePolicy]
        constructor
        · intro within
          obtain ⟨_, le⟩ := within
          rcases le_max_iff.mp le with absurdly | enough
          · norm_num at absurdly
          · exact enough
        · intro enough
          exact ⟨zero_le_one, enough.trans (le_max_right _ _)⟩
      · simp only [not_le.mp excluded, excluded, if_true, if_false, issue,
          and_iff_left (proportional_le _ _ _), proportional_nonneg_iff, above]

/-- After an overspend the default pipeline issues a negative ceiling. -/
theorem overspent_ceiling_negative : ∃ handle,
    ReachableOS (defaultSetup 1 none) defaultOS overspent ∧
    (overspent.beforeStep (defaultSetup 1 none) (llmIntent "2") inTime).2 = .ok handle ∧
    handle.decisionMeta.orgDenial = none ∧
    ¬ WithinRemaining handle (overspent.remaining (defaultSetup 1 none)) := by
  refine ⟨_, reachableOS_run _ _ _, rfl, rfl, ?_⟩
  intro within
  obtain ⟨nonneg, _⟩ := within
  revert nonneg
  decide +kernel

def inDoubles (requestBudgetUsd : ℚ) : Setup :=
  { defaultSetup requestBudgetUsd none with arithmetic := .double }

/-- The default pipeline in doubles, after a step of another chain for seventy cents. -/
def seventySpent : VeronicaOS (SimplePlanner .double) (LocalArbiter .double) MemoryStore :=
  (Runs.run (callStep (inDoubles 1)) (started (created {} (.inl {}) {}))
    [.before 1 { llmIntent "0" with chainId := "other" } inTime,
      .after 1 { snapshotOf (Doubles.round (7 / 10)) with chainId := "other" }
        collectedInTime]).os

/-- The next step gets its ceiling of a dollar scaled down to what the request has left. -/
theorem scaled_ceiling_within : ∃ handle,
    (seventySpent.beforeStep (inDoubles 1) (llmIntent "1") inTime).2 = .ok handle ∧
    handle.policy.ceilingUsd = Doubles.round (1 - Doubles.round (7 / 10)) ∧
    WithinRemaining handle (seventySpent.remaining (inDoubles 1)) := by
  obtain ⟨handle, issued, admitted, ceiling⟩ : ∃ handle,
      (seventySpent.beforeStep (inDoubles 1) (llmIntent "1") inTime).2 = .ok handle ∧
      handle.decisionMeta.orgDenial = none ∧
      handle.policy.ceilingUsd = Doubles.round (1 - Doubles.round (7 / 10)) :=
    ⟨_, rfl, rfl, by decide +kernel⟩
  refine ⟨handle, issued, ceiling, (within_remaining_iff issued admitted).mpr ?_⟩
  unfold CeilingSound
  rw [if_neg (by decide +kernel)]
  refine ⟨by decide +kernel, Or.inr ⟨1, by decide +kernel, by decide +kernel, ?_⟩⟩
  rw [ScalesDown, if_pos (by decide +kernel)]
  exact Or.inl (by decide +kernel)

end VeronicaCeilingBound
