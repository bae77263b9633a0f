import Veronica.StepContext
import Veronica.PipelineRuns

/- When `after_step` runs once `before_step` has returned. Only what stands before the `try`,
   and a snapshot that raises more than Exception, can keep it from running. -/
namespace VeronicaGuarantee
open VeronicaTypes VeronicaLedger VeronicaRedis VeronicaArbiters VeronicaPipeline VeronicaStages
open VeronicaIssue VeronicaRuns VeronicaStep

def RanAfterStep {P A S R : Type} (run : StepRun P A S R) (handle : StepHandle) : Prop :=
  ∃ snapshot, run.afterCalls = [(handle, snapshot)]

/-- The kernel takes every configuration with a budget that is not negative. -/
def AcceptsNonneg {Ctx R : Type} (kernel : Kernel Ctx R) : Prop :=
  ∀ config metadata, 0 ≤ config.maxCostUsd →
    ∃ execCtx, kernel.executionContext config metadata = .ok execCtx

def SnapshotCaught (snapshot : Except PyExc ContextSnapshot) : Prop :=
  ∀ e, snapshot = .error e → e.isException

section Path
variable {P A S Ctx R : Type} [PlannerProtocol P] [ArbiterProtocol A] [StoreProtocol S]
  {setup : Setup} {kernel : Kernel Ctx R} {env : StepEnv P A S} {os : VeronicaOS P A S}
  {intent : StepIntent} {handle : StepHandle}

theorem openContext_ok_iff (accepts : AcceptsNonneg kernel) :
    (∃ execCtx, openContext kernel intent handle = .ok execCtx) ↔ 0 ≤ handle.policy.ceilingUsd := by
  rw [← toExecConfig_ok_iff, openContext]
  cases converted : handle.policy.toExecConfig with
  | error e => simp
  | ok config =>
    have nonneg : 0 ≤ config.maxCostUsd := by
      rw [toExecConfig_cost converted]
      exact toExecConfig_ok_iff.mp ⟨config, converted⟩
    exact iff_of_true (accepts config _ nonneg) ⟨config, rfl⟩

theorem snapshot_ok_iff (snapshot : Except PyExc ContextSnapshot) :
    (∃ taken, snapshotOrFallback intent snapshot = .ok taken) ↔ SnapshotCaught snapshot := by
  cases snapshot with
  | ok taken => exact iff_of_true ⟨taken, rfl⟩ fun e raised => nomatch raised
  | error e =>
    by_cases caught : e.isException <;> simp [snapshotOrFallback, SnapshotCaught, caught]

/-- The path from an issued handle to `after_step`, whatever the body does. -/
theorem ran_iff (body : StepContext Ctx → Except PyExc R)
    (issued : (step setup kernel env os intent body).issued = some handle) :
    (VeronicaOS.beforeStepAt setup os (env.duringBefore os) intent env.before).2 = .ok handle ∧
    (RanAfterStep (step setup kernel env os intent body) handle ↔
      (∃ execCtx, openContext kernel intent handle = .ok execCtx) ∧
      ∃ taken, snapshotOrFallback intent env.snapshot = .ok taken) := by
  unfold step at issued ⊢
  rcases early : VeronicaOS.beforeStepAt setup os (env.duringBefore os) intent env.before with
    ⟨late, raised | returned⟩
  · simp [early] at issued
  · cases opened : openContext kernel intent returned with
    | error e =>
      simp only [early, opened, Option.some.injEq] at issued ⊢
      subst issued
      simp [opened, RanAfterStep]
    | ok execCtx =>
      cases taken : snapshotOrFallback intent env.snapshot with
      | error e =>
        simp only [early, opened, taken, Option.some.injEq] at issued ⊢
        subst issued
        simp [RanAfterStep]
      | ok snapshot =>
        simp only [early, opened, taken, Option.some.injEq] at issued ⊢
        subst issued
        simp [opened, RanAfterStep]

end Path

section Ceilings
variable {S : Type} [StoreProtocol S]

def ProportionalNonneg (setup : Setup) (limits : List ℚ) (remaining : ℚ) : Prop :=
  cappedPriority setup ≤ 0 ∨ minAllocationUsd ≤ remaining ∨
    (0 ≤ remaining ∧ ∀ limit ∈ limits, 0 ≤ limit)

/-- What each arbiter needs of the limits and the budgets for a ceiling that is not negative. -/
def GrantsNonneg (setup : Setup) (intent : StepIntent) (limits : List ℚ) (remaining : ℚ) :
    AnyArbiter → Prop
  | .inl (.inl _) => (∀ limit ∈ limits, 0 ≤ limit) ∧ (0 ≤ remaining ∨ ∃ limit ∈ limits, limit ≤ 0)
  | .inl (.inr _) => ProportionalNonneg setup limits remaining
  | .inr client =>
    if client.reachable then
      (∀ limit ∈ limits, 0 ≤ limit) ∧
      ((client.ledger.alloc.get?
          (client.arbiter.allocKey intent.requestId intent.stepId)).isSome ∨
        0 ≤ client.ledger.effectiveRemaining client.arbiter.totalBudgetMicro)
    else ProportionalNonneg setup limits remaining

def IssuesNonneg (setup : Setup) (early late : VeronicaOS AnyPlanner AnyArbiter S)
    (intent : StepIntent) (t : BeforeTimes) : Prop :=
  let limits := ceilingLimits setup early late intent t
  setup.denial intent = none →
  if arbiterOverran setup t then ∀ limit ∈ limits, 0 ≤ limit
  else GrantsNonneg setup intent limits (late.remaining setup) late.arbiter

/-- The shared ledger grants a negative ceiling to a negative desire, or when it is itself
    overdrawn and the step holds no record. -/
theorem redis_nonneg_iff (client : RedisClient) (desire : DesiredPolicy)
    (requestId stepId : String) (now : ℚ) :
    0 ≤ RedisArbiter.ceilingOf desire
        (client.arbiter.reserve client.ledger desire requestId stepId now).2 ↔
      0 ≤ desire.ceilingUsd ∧
      ((client.ledger.alloc.get? (client.arbiter.allocKey requestId stepId)).isSome ∨
        0 ≤ client.ledger.effectiveRemaining client.arbiter.totalBudgetMicro) := by
  have micro : (RedisArbiter.allocRecord desire now).totalReservedMicro =
      toMicro desire.ceilingUsd := rfl
  rw [RedisArbiter.reserve]
  rcases reserve_cases client.ledger (client.arbiter.allocKey requestId stepId)
      (RedisArbiter.allocRecord desire now) client.arbiter.totalBudgetMicro with
    ⟨existing, found, eq⟩ | ⟨absent, short, eq⟩ | ⟨absent, enough, eq⟩
  · simp only [eq, RedisArbiter.ceilingOf, found, Option.isSome_some, true_or, and_true]
  · simp only [eq, RedisArbiter.ceilingOf, absent, Option.isSome_none, Bool.false_eq_true,
      false_or, fromMicro_nonneg_iff]
    rw [micro] at short
    constructor
    · intro nonneg
      refine ⟨?_, nonneg⟩
      by_contra negative
      have := toMicro_nonpos (not_le.mp negative).le
      omega
    · intro backed
      obtain ⟨_, nonneg⟩ := backed
      exact nonneg
  · simp only [eq, RedisArbiter.ceilingOf, absent, Option.isSome_none, Bool.false_eq_true,
      false_or]
    rw [micro] at enough
    constructor
    · intro nonneg
      exact ⟨nonneg, (toMicro_nonneg nonneg).trans enough⟩
    · intro backed
      obtain ⟨nonneg, _⟩ := backed
      exact nonneg

variable {setup : Setup} {early late : VeronicaOS AnyPlanner AnyArbiter S} {intent : StepIntent}
  {t : BeforeTimes} {handle : StepHandle}

theorem proportional_issues_iff (inTime : ¬ arbiterOverran setup t)
    (arbiter : ProportionalArbiter) :
    0 ≤ (policyFor setup intent t arbiter (desired setup early late intent t)
      (late.remaining setup)).ceilingUsd ↔
    ProportionalNonneg setup (ceilingLimits setup early late intent t)
      (late.remaining setup) := by
  rw [policyFor_proportional inTime rfl, desired_priority, ProportionalNonneg,
    ← le_desired_iff setup early late intent t 0]
  by_cases excluded : cappedPriority setup ≤ 0
  · simp only [not_lt.mpr excluded, excluded, if_false, barePolicy, true_or, iff_true]
    exact zero_le_one
  · simp only [not_le.mp excluded, excluded, if_true, issue, proportional_nonneg_iff, false_or]

/-- Exactly when an issued ceiling is not negative, with any planner and arbiter of the
    package. -/
theorem issued_nonneg_iff
    (issued : (VeronicaOS.beforeStepAt setup early late intent t).2 = .ok handle) :
    0 ≤ handle.policy.ceilingUsd ↔ IssuesNonneg setup early late intent t := by
  have above := le_desired_iff setup early late intent t 0
  have below := desired_le_iff setup early late intent t 0
  rcases handle_cases setup early late intent t issued with
    ⟨reason, denied, rfl⟩ | ⟨admitted, _, _, policy⟩
  · refine iff_of_true le_rfl fun admitted => ?_
    rw [admitted] at denied
    cases denied
  · rw [policy, IssuesNonneg]
    simp only [admitted, forall_const]
    by_cases overran : arbiterOverran setup t
    · simp only [policyFor_overran overran, overran, if_true, barePolicy, above]
    · simp only [overran, if_false]
      rcases late.arbiter with (passthrough | proportional) | client
      · simp only [GrantsNonneg, policyFor_inl overran, policyFor_passthrough overran, issue,
          passthrough_nonneg_iff, above, below]
      · simp only [GrantsNonneg, policyFor_inl overran, policyFor_inr overran,
          proportional_issues_iff overran]
      · rw [policyFor_inr overran, policyFor_redis overran, GrantsNonneg]
        by_cases answering : client.reachable
        · simp only [answering, if_true, issue, redis_nonneg_iff, above]
        · simp only [answering, Bool.false_eq_true, if_false, proportional_issues_iff overran]

end Ceilings

variable {S Ctx R : Type} [StoreProtocol S]

/-- The condition for `after_step`: a ceiling that is not negative, and a snapshot that raises
    nothing beyond Exception. -/
def Guaranteed (setup : Setup) (env : StepEnv AnyPlanner AnyArbiter S)
    (os : VeronicaOS AnyPlanner AnyArbiter S) (intent : StepIntent) : Prop :=
  IssuesNonneg setup os (env.duringBefore os) intent env.before ∧ SnapshotCaught env.snapshot

theorem step_ran_iff {setup : Setup} {kernel : Kernel Ctx R} (accepts : AcceptsNonneg kernel)
    {env : StepEnv AnyPlanner AnyArbiter S} {os : VeronicaOS AnyPlanner AnyArbiter S}
    {intent : StepIntent} {body : StepContext Ctx → Except PyExc R} {handle : StepHandle}
    (issued : (step setup kernel env os intent body).issued = some handle) :
    RanAfterStep (step setup kernel env os intent body) handle ↔
      Guaranteed setup env os intent := by
  obtain ⟨returned, ran⟩ := ran_iff body issued
  rw [ran, openContext_ok_iff accepts, snapshot_ok_iff, issued_nonneg_iff returned, Guaranteed]

/-- For every state of the pipeline, every body and every snapshot: once `before_step` has
    returned a handle inside `step` or `run_step`, `after_step` is called exactly once with it
    if and only if the step is guaranteed. -/
theorem after_step_runs_iff {setup : Setup} {kernel : Kernel Ctx R}
    (accepts : AcceptsNonneg kernel) (env : StepEnv AnyPlanner AnyArbiter S)
    (os : VeronicaOS AnyPlanner AnyArbiter S) (intent : StepIntent) :
    (∀ body handle, (step setup kernel env os intent body).issued = some handle →
      (RanAfterStep (step setup kernel env os intent body) handle ↔
        Guaranteed setup env os intent)) ∧
    (∀ fn handle, (runStep setup kernel env os intent fn).issued = some handle →
      (RanAfterStep (runStep setup kernel env os intent fn) handle ↔
        Guaranteed setup env (normalizeIntent env.uuidHex os intent).1
          (normalizeIntent env.uuidHex os intent).2)) :=
  ⟨fun _ _ issued => step_ran_iff accepts issued, fun _ _ issued => step_ran_iff accepts issued⟩

/-- A kernel that refuses negative budgets and passes outcomes on. -/
def plainKernel (R : Type) : Kernel ExecutionConfig R where
  executionContext := fun config _ =>
    if config.maxCostUsd < 0 then .error (.valueError "max_cost_usd") else .ok config
  wrapToolCall := fun _ outcome => outcome
  wrapLlmCall := fun _ outcome => outcome

def promptEnv (P A S : Type) : StepEnv P A S where
  before := inTime
  after := collectedInTime
  snapshot := .ok (snapshotOf (1 / 2))
  uuidHex := "0123456789abcdef0123456789abcdef"

/-- After an overspend `before_step` returns a handle and `after_step` is never called. -/
theorem overspent_step_skips_after_step :
    let setup := defaultSetup 1 none
    let run := runStep setup (plainKernel Unit) (promptEnv AnyPlanner LocalArbiter MemoryStore)
      overspent (llmIntent "2") (.ok ())
    ReachableOS setup defaultOS overspent ∧ run.issued.isSome ∧
      ∀ handle, ¬ RanAfterStep run handle := by
  refine ⟨reachableOS_run _ _ _, by decide +kernel, ?_⟩
  rintro handle ⟨snapshot, called⟩
  have skipped : (runStep (defaultSetup 1 none) (plainKernel Unit)
      (promptEnv AnyPlanner LocalArbiter MemoryStore) overspent (llmIntent "2")
      (.ok ())).afterCalls.length = 0 := by decide +kernel
  rw [called] at skipped
  cases skipped

theorem plainKernel_accepts (R : Type) : AcceptsNonneg (plainKernel R) :=
  fun config _ nonneg => ⟨config, if_neg (not_lt.mpr nonneg)⟩

/-- A body that is interrupted, within the budget. -/
theorem interrupted_body_runs_after_step :
    let run := runStep (defaultSetup 1 none) (plainKernel Unit)
      (promptEnv AnyPlanner AnyArbiter MemoryStore) (created (.inl {}) (.inl (.inl {})) {})
      (llmIntent "1") (.error .keyboardInterrupt)
    ∃ handle, run.issued = some handle ∧ RanAfterStep run handle := by
  intro run
  have started : run.issued.isSome := by decide +kernel
  obtain ⟨handle, issued⟩ := Option.isSome_iff_exists.mp started
  refine ⟨handle, issued, ?_⟩
  refine ((after_step_runs_iff (plainKernel_accepts Unit) _ _ _).2 _ _ issued).mpr ⟨?_, ?_⟩
  · intro _
    rw [if_neg (by decide +kernel)]
    show GrantsNonneg _ _ _ _ (.inl (.inl _))
    exact ⟨by decide +kernel, Or.inl (by decide +kernel)⟩
  · intro e raised
    cases raised

end VeronicaGuarantee
