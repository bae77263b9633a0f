import Veronica.StepSessions
import Veronica.StepGuarantee

/- Reservations of steps over a RedisArbiter, from the reserve in `before_step` to the settle at
   the end of `after_step`. -/
namespace VeronicaReservations
open VeronicaTypes VeronicaLedger VeronicaRedis VeronicaArbiters VeronicaPlanners VeronicaPipeline
open VeronicaStages VeronicaIssue VeronicaRuns VeronicaStep VeronicaGuarantee VeronicaSessions

/-- A step that made a reservation has settled it once, with its own ids and the cost of its
    collected outcome. -/
def Settled (step : LeftStep) : Prop :=
  step.reserved → ∃ outcome, step.collected = some outcome ∧ step.settles =
    [{ requestId := step.intent.requestId, stepId := step.intent.stepId,
       actualCostUsd := outcome.costUsd }]

section Conditions
variable {P S : Type} [StoreProtocol S]

def AllSettled (s : Session P S) : Prop := ∀ step ∈ s.left, Settled step

/-- Whether the store answers both calls of an `after_step`. -/
def storeAnswers (setup : Setup) (os : VeronicaOS P Watched S) (step : FinishingStep P S) :
    Bool :=
  let outcome := setup.collect step.snapshot step.times.nowMs
  match StoreProtocol.buildHistory step.early.store outcome.chainId with
  | .error _ => false
  | .ok history =>
    let analysis := analyzeStage setup step.handle.intent outcome history step.times
    let late := os.account setup outcome analysis
    let store :=
      StoreProtocol.setBudgetContext late.store setup.requestBudgetUsd (late.remaining setup)
    (StoreProtocol.commit store outcome analysis step.handle.cost step.handle.desired
      step.handle.policy step.handle.decisionMeta).2.isOk

/-- The store answers every `after_step` that gets to it. -/
def StoreAnswers (setup : Setup) (s : Session P S) : Action → Prop
  | .finish ticket => ∀ step ∈ s.finishingAt ticket,
    step.times.collectorMs ≤ setup.collectorBudget → storeAnswers setup s.os step
  | _ => True

/-- A step that reserves is issued a ceiling none of whose limits is negative, its snapshot
    raises nothing beyond Exception, and its collector is in time. -/
def Kept [CeilingPlanner P] (setup : Setup) (s : Session P S) : Action → Prop
  | .issue ticket t => ∀ step ∈ s.readingAt ticket,
    reserves s.os (VeronicaOS.beforeStepAt setup step.early s.os step.intent t).1 step.intent →
      ∀ limit ∈ ceilingLimits setup step.early s.os step.intent t, 0 ≤ limit
  | .observe ticket _ snapshot _ => ∀ step ∈ s.runningAt ticket, step.reserved →
    SnapshotCaught snapshot
  | .finish ticket => ∀ step ∈ s.finishingAt ticket, step.reserved →
    step.times.collectorMs ≤ setup.collectorBudget
  | _ => True

instance (setup : Setup) (s : Session P S) : ∀ a, Decidable (StoreAnswers setup s a)
  | .finish ticket => inferInstanceAs (Decidable (∀ step ∈ s.finishingAt ticket,
    step.times.collectorMs ≤ setup.collectorBudget → storeAnswers setup s.os step))
  | .enter _ _ _ | .issue _ _ | .observe _ _ _ _ | .elsewhere _ =>
    inferInstanceAs (Decidable True)

instance : ∀ snapshot, Decidable (SnapshotCaught snapshot)
  | .ok _ => isTrue fun _ raised => nomatch raised
  | .error e => decidable_of_iff (e.isException = true)
    ⟨fun caught _ raised => Except.error.inj raised ▸ caught, fun caught => caught e rfl⟩

instance [CeilingPlanner P] (setup : Setup) (s : Session P S) :
    ∀ a, Decidable (Kept setup s a)
  | .issue ticket t => inferInstanceAs (Decidable (∀ step ∈ s.readingAt ticket,
    reserves s.os (VeronicaOS.beforeStepAt setup step.early s.os step.intent t).1 step.intent →
      ∀ limit ∈ ceilingLimits setup step.early s.os step.intent t, 0 ≤ limit))
  | .observe ticket _ snapshot _ => inferInstanceAs (Decidable (∀ step ∈ s.runningAt ticket,
    step.reserved → SnapshotCaught snapshot))
  | .finish ticket => inferInstanceAs (Decidable (∀ step ∈ s.finishingAt ticket,
    step.reserved → step.times.collectorMs ≤ setup.collectorBudget))
  | .enter _ _ _ | .elsewhere _ => inferInstanceAs (Decidable True)

/-- A step that has settled nothing so far, and has the handle of its own intent. -/
def SettlesLater (step : RunningStep) : Prop :=
  step.settles = [] ∧ step.handle.intent = step.intent

def Unsettled : EnteredStep P S → Prop
  | .reading _ => True
  | .running step => SettlesLater step
  | .finishing step => SettlesLater step.toRunningStep

/-- Redis answers, and no step settles before its `after_step`. -/
structure Steady (s : Session P S) : Prop where
  reachable : s.os.arbiter.client.reachable = true
  unsettled : ∀ ticket step, s.steps.get? ticket = some step → Unsettled step
  settled : AllSettled s

end Conditions

section Before
variable {P S : Type} [CeilingPlanner P] [StoreProtocol S] {setup : Setup}
  {early late : VeronicaOS P Watched S} {intent : StepIntent} {t : BeforeTimes}

theorem policyFor_watched (w : Watched) (desire : DesiredPolicy) (remaining : ℚ) :
    policyFor setup intent t w desire remaining =
      policyFor setup intent t w.client desire remaining := rfl

def reservedBy (w : Watched) (desire : DesiredPolicy) (intent : StepIntent) (now : ℚ) : Watched :=
  { w with client := { w.client with
    context := some (intent.requestId, intent.stepId)
    ledger := (w.client.arbiter.reserve w.client.ledger desire intent.requestId intent.stepId
      now).1 } }

omit [CeilingPlanner P] [StoreProtocol S] in
theorem arbitrateStage_watched (answering : late.arbiter.client.reachable = true)
    (desire : DesiredPolicy) :
    (late.arbitrateStage setup intent desire t).1 =
      reservedBy late.arbiter desire intent t.now := by
  simp only [VeronicaOS.arbitrateStage, ArbiterProtocol.arbitrate,
    ArbiterProtocol.setArbitrationContext, RedisClient.arbitrate,
    RedisClient.setArbitrationContext, answering, if_true, RedisArbiter.arbitrateRedis, reservedBy]

theorem beforeStepAt_arbiter (answering : late.arbiter.client.reachable = true) :
    (VeronicaOS.beforeStepAt setup early late intent t).1.arbiter = late.arbiter ∨
    setup.denial intent = none ∧
      (VeronicaOS.beforeStepAt setup early late intent t).1.arbiter =
        reservedBy late.arbiter (desired setup early late intent t) intent t.now := by
  unfold VeronicaOS.beforeStepAt
  cases denied : setup.denial intent with
  | some reason => exact Or.inl rfl
  | none =>
    cases read : StoreProtocol.buildHistory early.store intent.chainId with
    | error e => exact Or.inl rfl
    | ok history =>
      refine Or.inr ⟨rfl, ?_⟩
      simp only [arbitrateStage_watched answering, desired, costAt, read]

/-- A reserve that puts a record where there was none took the desired amount. -/
theorem reserve_fresh {arbiter : RedisArbiter} {ledger : Ledger} {desire : DesiredPolicy}
    {requestId stepId : String} {now : ℚ}
    (absent : ledger.alloc.get? (arbiter.allocKey requestId stepId) = none)
    (present : ((arbiter.reserve ledger desire requestId stepId now).1.alloc.get?
      (arbiter.allocKey requestId stepId)).isSome) :
    RedisArbiter.ceilingOf desire (arbiter.reserve ledger desire requestId stepId now).2 =
      desire.ceilingUsd := by
  unfold RedisArbiter.reserve at present ⊢
  rcases reserve_cases ledger (arbiter.allocKey requestId stepId)
      (RedisArbiter.allocRecord desire now) arbiter.totalBudgetMicro with
    ⟨existing, found, _⟩ | ⟨_, _, eq⟩ | ⟨_, _, eq⟩
  · rw [absent] at found
    cases found
  · simp only [eq, absent, Option.isSome_none, Bool.false_eq_true] at present
  · simp only [eq, RedisArbiter.ceilingOf]

omit [CeilingPlanner P] [StoreProtocol S] in
theorem unreserved_of_arbiter {before after : VeronicaOS P Watched S}
    (same : after.arbiter = before.arbiter) : reserves before after intent = false := by
  unfold reserves
  rw [same]
  dsimp only
  cases before.arbiter.client.ledger.alloc.get?
    (before.arbiter.client.arbiter.allocKey intent.requestId intent.stepId) <;> rfl

theorem reserving_ceiling (answering : late.arbiter.client.reachable = true) {handle : StepHandle}
    (issued : (VeronicaOS.beforeStepAt setup early late intent t).2 = .ok handle)
    (reserved : reserves late (VeronicaOS.beforeStepAt setup early late intent t).1 intent) :
    handle.policy.ceilingUsd = (desired setup early late intent t).ceilingUsd := by
  rcases beforeStepAt_arbiter answering with same | ⟨admitted, arbiter⟩
  · rw [unreserved_of_arbiter same] at reserved
    cases reserved
  · obtain ⟨absent, present⟩ := Bool.and_eq_true_iff.mp reserved
    rw [arbiter] at present
    have ceiling := reserve_fresh (Option.isNone_iff_eq_none.mp absent) present
    rcases handle_cases setup early late intent t issued with
      ⟨reason, denied, _⟩ | ⟨_, _, _, policy⟩
    · rw [admitted] at denied
      cases denied
    · rw [policy, policyFor_watched]
      by_cases overran : arbiterOverran setup t
      · rw [policyFor_overran overran]
        rfl
      · rw [policyFor_redis overran, if_pos answering]
        exact ceiling

/-- A step that reserves gets its execution context exactly when no limit of its ceiling is
    negative. -/
theorem reserving_opens_iff {Ctx R : Type} {kernel : Kernel Ctx R}
    (accepts : AcceptsNonneg kernel) (answering : late.arbiter.client.reachable = true)
    {handle : StepHandle}
    (issued : (VeronicaOS.beforeStepAt setup early late intent t).2 = .ok handle)
    (reserved : reserves late (VeronicaOS.beforeStepAt setup early late intent t).1 intent) :
    (∃ execCtx, openContext kernel intent handle = .ok execCtx) ↔
      ∀ limit ∈ ceilingLimits setup early late intent t, 0 ≤ limit := by
  rw [openContext_ok_iff accepts, reserving_ceiling answering issued reserved, le_desired_iff]

theorem refused_unreserved {e : PyExc}
    (refused : (VeronicaOS.beforeStepAt setup early late intent t).2 = .error e) :
    reserves late (VeronicaOS.beforeStepAt setup early late intent t).1 intent = false := by
  apply unreserved_of_arbiter
  have read := refused_cases setup early late intent t refused
  unfold VeronicaOS.beforeStepAt
  rw [read]
  split <;> rfl

theorem beforeStepAt_quiet (setup : Setup) (early : VeronicaOS P Watched S) (intent : StepIntent)
    (t : BeforeTimes) (answering : late.arbiter.client.reachable = true) :
    (VeronicaOS.beforeStepAt setup early late intent t).1.arbiter.client.reachable = true ∧
    settledBetween late (VeronicaOS.beforeStepAt setup early late intent t).1 = [] := by
  unfold settledBetween
  rcases beforeStepAt_arbiter (t := t) answering with same | ⟨_, arbiter⟩
  · rw [same]
    exact ⟨answering, List.drop_length⟩
  · rw [arbiter]
    exact ⟨answering, List.drop_length⟩

end Before

section Leaving
variable {P S : Type} {s : Session P S} {ticket : Nat}

theorem allSettled_leave {step : LeftStep} :
    AllSettled (s.leave ticket step) ↔ AllSettled s ∧ Settled step := by
  simp only [AllSettled, Session.leave, List.forall_mem_append, List.forall_mem_singleton]

/-- A step left without its outcome collected is settled only if it reserved nothing. -/
theorem settled_uncollected_iff {intent : StepIntent} {reserved : Bool} {settles : List Settle}
    {result : Except PyExc Unit} :
    Settled { intent, reserved, collected := none, settles, result } ↔ reserved = false := by
  cases reserved with
  | false => exact iff_of_true (fun reserved => nomatch reserved) rfl
  | true =>
    refine iff_of_false ?_ Bool.noConfusion
    intro settled
    obtain ⟨outcome, collected, _⟩ := settled rfl
    cases collected

def leftAtIssue (s : Session P S) (os : VeronicaOS P Watched S) (intent : StepIntent)
    (e : PyExc) : LeftStep where
  intent := intent
  reserved := reserves s.os os intent
  collected := none
  settles := settledBetween s.os os
  result := .error e

theorem settled_leftAtIssue {os : VeronicaOS P Watched S} {intent : StepIntent} {e : PyExc} :
    Settled (leftAtIssue s os intent e) ↔ reserves s.os os intent = false :=
  settled_uncollected_iff

theorem steps_of_runningAt {step : RunningStep} (found : s.runningAt ticket = some step) :
    s.steps.get? ticket = some (.running step) := by
  unfold Session.runningAt at found
  split at found
  · rename_i same
    cases found
    exact same
  · cases found

theorem steps_of_finishingAt {step : FinishingStep P S}
    (found : s.finishingAt ticket = some step) :
    s.steps.get? ticket = some (.finishing step) := by
  unfold Session.finishingAt at found
  split at found
  · rename_i same
    cases found
    exact same
  · cases found

end Leaving

section Cases
variable {P S Ctx R : Type} [PlannerProtocol P] [StoreProtocol S] {setup : Setup}
  {s : Session P S} {ticket : Nat}

theorem beforeStepAt_intent {early late : VeronicaOS P Watched S} {intent : StepIntent}
    {t : BeforeTimes} {handle : StepHandle}
    (issued : (VeronicaOS.beforeStepAt setup early late intent t).2 = .ok handle) :
    handle.intent = intent := by
  unfold VeronicaOS.beforeStepAt at issued
  split at issued
  · cases issued
    rfl
  · split at issued
    · cases issued
    · cases issued
      rfl

/-- Everything `issue` can do to a step that reads: `before_step` raises, no execution context
    is opened, or the body starts. -/
theorem issue_cases (setup : Setup) (kernel : Kernel Ctx R) {step : ReadingStep P S}
    (found : s.readingAt ticket = some step)
    (t : BeforeTimes) :
    let after := VeronicaOS.beforeStepAt setup step.early s.os step.intent t
    (∃ e, after.2 = .error e ∧ s.issue setup kernel ticket t =
      ({ s with os := after.1 } : Session P S).leave ticket
        (leftAtIssue s after.1 step.intent e)) ∨
    (∃ handle e, after.2 = .ok handle ∧ openContext kernel step.intent handle = .error e ∧
      s.issue setup kernel ticket t = ({ s with os := after.1 } : Session P S).leave ticket
        (leftAtIssue s after.1 step.intent e)) ∨
    (∃ handle execCtx, after.2 = .ok handle ∧
      openContext kernel step.intent handle = .ok execCtx ∧
      s.issue setup kernel ticket t = {
        os := after.1
        steps := s.steps.set ticket (.running {
          intent := step.intent
          reserved := reserves s.os after.1 step.intent
          settles := settledBetween s.os after.1
          handle })
        left := s.left }) := by
  intro after
  cases returned : after.2 with
  | error e =>
    left
    refine ⟨e, rfl, ?_⟩
    simp only [Session.issue, found, after] at returned ⊢
    simp only [returned]
    rfl
  | ok handle =>
    right
    cases opened : openContext kernel step.intent handle with
    | error e =>
      left
      refine ⟨handle, e, rfl, opened, ?_⟩
      simp only [Session.issue, found, after] at returned ⊢
      simp only [returned, opened]
      rfl
    | ok execCtx =>
      right
      refine ⟨handle, execCtx, rfl, opened, ?_⟩
      simp only [Session.issue, found, after] at returned ⊢
      simp only [returned, opened]

end Cases

section Acting
variable {P S Ctx R : Type} [CeilingPlanner P] [StoreProtocol S] {setup : Setup}
  {kernel : Kernel Ctx R} {s : Session P S} {ticket : Nat}

theorem kept_issue {step : ReadingStep P S} (found : s.readingAt ticket = some step)
    (t : BeforeTimes) : Kept setup s (.issue ticket t) ↔
      (reserves s.os (VeronicaOS.beforeStepAt setup step.early s.os step.intent t).1
        step.intent → ∀ limit ∈ ceilingLimits setup step.early s.os step.intent t, 0 ≤ limit) := by
  simp only [Kept, found, Option.mem_def, Option.some.injEq, forall_eq']

theorem issue_settled_iff (accepts : AcceptsNonneg kernel) (steady : Steady s)
    (t : BeforeTimes) :
    AllSettled (s.issue setup kernel ticket t) ↔ Kept setup s (.issue ticket t) := by
  cases found : s.readingAt ticket with
  | none =>
    simp only [Session.issue, found, Kept, Option.mem_def, reduceCtorEq, false_implies,
      implies_true, iff_true]
    exact steady.settled
  | some step =>
    rw [kept_issue found]
    rcases issue_cases setup kernel found t with
      ⟨e, refused, eq⟩ | ⟨handle, e, returned, unopened, eq⟩ | ⟨handle, _, returned, opened, eq⟩
    · have free := refused_unreserved refused
      rw [eq, allSettled_leave, settled_leftAtIssue]
      refine iff_of_true ⟨steady.settled, free⟩ ?_
      intro reserved
      rw [free] at reserved
      cases reserved
    · have opens := reserving_opens_iff accepts steady.reachable returned
      rw [eq, allSettled_leave, settled_leftAtIssue]
      constructor
      · intro settled reserved
        rw [settled.2] at reserved
        cases reserved
      · intro kept
        refine ⟨steady.settled, ?_⟩
        cases reserved : reserves s.os
            (VeronicaOS.beforeStepAt setup step.early s.os step.intent t).1 step.intent with
        | false => rfl
        | true =>
          obtain ⟨execCtx, opened⟩ := (opens reserved).mpr (kept reserved)
          rw [unopened] at opened
          cases opened
    · have opens := reserving_opens_iff accepts steady.reachable returned
      rw [eq]
      exact iff_of_true steady.settled fun reserved => (opens reserved).mp ⟨_, opened⟩

theorem issue_steady (steady : Steady s) {t : BeforeTimes}
    (settled : AllSettled (s.issue setup kernel ticket t)) :
    Steady (s.issue setup kernel ticket t) := by
  cases found : s.readingAt ticket with
  | none =>
    simp only [Session.issue, found]
    exact steady
  | some step =>
    obtain ⟨reachable, quiet⟩ :=
      beforeStepAt_quiet setup step.early step.intent t steady.reachable
    rcases issue_cases setup kernel found t with
      ⟨_, _, eq⟩ | ⟨_, _, _, _, eq⟩ | ⟨_, _, returned, _, eq⟩
    · rw [eq] at settled ⊢
      exact ⟨reachable, Dict.forall_erase ticket steady.unsettled, settled⟩
    · rw [eq] at settled ⊢
      exact ⟨reachable, Dict.forall_erase ticket steady.unsettled, settled⟩
    · rw [eq] at settled ⊢
      have unsettled := And.intro quiet (beforeStepAt_intent returned)
      exact ⟨reachable, Dict.forall_set unsettled steady.unsettled, settled⟩

omit [CeilingPlanner P] [StoreProtocol S] in
theorem observe_cases {step : RunningStep} (found : s.runningAt ticket = some step)
    (result : Except PyExc Unit) (snapshot : Except PyExc ContextSnapshot) (t : AfterTimes) :
    (∃ e, snapshotOrFallback step.intent snapshot = .error e ∧
      s.observe ticket result snapshot t = s.leave ticket {
        intent := step.intent
        reserved := step.reserved
        collected := none
        settles := step.settles
        result := .error e }) ∨
    (∃ taken, snapshotOrFallback step.intent snapshot = .ok taken ∧
      s.observe ticket result snapshot t =
        let finishing := { step with snapshot := taken, times := t, early := s.os, result }
        { s with steps := s.steps.set ticket (.finishing finishing) }) := by
  cases taken : snapshotOrFallback step.intent snapshot with
  | error e => exact Or.inl ⟨e, rfl, by simp only [Session.observe, found, taken]⟩
  | ok view => exact Or.inr ⟨view, rfl, by simp only [Session.observe, found, taken]⟩

theorem observe_settled_iff (steady : Steady s) (result : Except PyExc Unit)
    (snapshot : Except PyExc ContextSnapshot) (t : AfterTimes) :
    AllSettled (s.observe ticket result snapshot t) ↔
      Kept setup s (.observe ticket result snapshot t) := by
  cases found : s.runningAt ticket with
  | none =>
    simp only [Session.observe, found, Kept, Option.mem_def, reduceCtorEq, false_implies,
      implies_true, iff_true]
    exact steady.settled
  | some step =>
    have kept : Kept setup s (.observe ticket result snapshot t) ↔
        (step.reserved → SnapshotCaught snapshot) := by
      simp only [Kept, found, Option.mem_def, Option.some.injEq, forall_eq']
    rw [kept, ← @snapshot_ok_iff step.intent]
    rcases observe_cases found result snapshot t with ⟨e, lost, eq⟩ | ⟨taken, caught, eq⟩
    · rw [eq, allSettled_leave, settled_uncollected_iff, lost]
      simp only [steady.settled, true_and, reduceCtorEq, exists_false, imp_false,
        Bool.not_eq_true]
    · rw [eq]
      exact iff_of_true steady.settled fun _ => ⟨taken, caught⟩

omit [CeilingPlanner P] [StoreProtocol S] in
theorem observe_steady (steady : Steady s) {result : Except PyExc Unit}
    {snapshot : Except PyExc ContextSnapshot} {t : AfterTimes}
    (settled : AllSettled (s.observe ticket result snapshot t)) :
    Steady (s.observe ticket result snapshot t) := by
  cases found : s.runningAt ticket with
  | none =>
    simp only [Session.observe, found]
    exact steady
  | some step =>
    have unsettled := steady.unsettled ticket _ (steps_of_runningAt found)
    rcases observe_cases found result snapshot t with ⟨_, _, eq⟩ | ⟨_, _, eq⟩
    · rw [eq] at settled ⊢
      exact ⟨steady.reachable, Dict.forall_erase ticket steady.unsettled, settled⟩
    · rw [eq] at settled ⊢
      exact ⟨steady.reachable, Dict.forall_set unsettled steady.unsettled, settled⟩

omit [CeilingPlanner P] in
/-- An `after_step` that has collected in time settles once, if the store answers. -/
theorem afterStepAt_settles {step : FinishingStep P S} (found : s.finishingAt ticket = some step)
    (answers : StoreAnswers setup s (.finish ticket))
    (inTime : step.times.collectorMs ≤ setup.collectorBudget) :
    (VeronicaOS.afterStepAt setup step.early s.os step.handle step.snapshot
      step.times).1.arbiter = ArbiterProtocol.settle s.os.arbiter step.handle.intent.requestId
        step.handle.intent.stepId (setup.collect step.snapshot step.times.nowMs).costUsd := by
  have answered := answers step found inTime
  have kept : ¬ setup.collectorBudget < step.times.collectorMs := not_lt.mpr inTime
  unfold storeAnswers at answered
  cases read : StoreProtocol.buildHistory step.early.store
      (setup.collect step.snapshot step.times.nowMs).chainId with
  | error e =>
    simp only [read] at answered
    cases answered
  | ok history =>
    simp only [read] at answered
    simp only [VeronicaOS.afterStepAt, runWithBudget, kept, if_false, read, VeronicaOS.commitStep]
    split
    · rename_i raised
      rw [raised] at answered
      cases answered
    · rfl

omit [CeilingPlanner P] in
theorem afterStepAt_overran {early late : VeronicaOS P Watched S} {handle : StepHandle}
    {snapshot : ContextSnapshot} {t : AfterTimes}
    (overran : setup.collectorBudget < t.collectorMs) :
    VeronicaOS.afterStepAt setup early late handle snapshot t = (late, .ok ()) := by
  simp only [VeronicaOS.afterStepAt, runWithBudget, overran, if_true]

omit [CeilingPlanner P] in
theorem finish_eq (setup : Setup) {step : FinishingStep P S}
    (found : s.finishingAt ticket = some step) :
    let after := VeronicaOS.afterStepAt setup step.early s.os step.handle step.snapshot step.times
    ∃ result, s.finish setup ticket = ({ s with os := after.1 } : Session P S).leave ticket {
      intent := step.intent
      reserved := step.reserved
      collected := some (setup.collect step.snapshot step.times.nowMs)
      settles := step.settles ++ settledBetween s.os after.1
      result } := by
  intro after
  exact ⟨_, by simp only [Session.finish, found]; rfl⟩

theorem finish_settled_iff (steady : Steady s) (answers : StoreAnswers setup s (.finish ticket)) :
    AllSettled (s.finish setup ticket) ↔ Kept setup s (.finish ticket) := by
  cases found : s.finishingAt ticket with
  | none =>
    simp only [Session.finish, found, Kept, Option.mem_def, reduceCtorEq, false_implies,
      implies_true, iff_true]
    exact steady.settled
  | some step =>
    have kept : Kept setup s (.finish ticket) ↔
        (step.reserved → step.times.collectorMs ≤ setup.collectorBudget) := by
      simp only [Kept, found, Option.mem_def, Option.some.injEq, forall_eq']
    obtain ⟨unsettled, own⟩ := steady.unsettled ticket _ (steps_of_finishingAt found)
    obtain ⟨result, eq⟩ := finish_eq setup found
    rw [kept, eq, allSettled_leave]
    by_cases inTime : step.times.collectorMs ≤ setup.collectorBudget
    · refine iff_of_true ⟨steady.settled, ?_⟩ fun _ => inTime
      intro _
      refine ⟨_, rfl, ?_⟩
      simp only [settledBetween, afterStepAt_settles found answers inTime, unsettled,
        ArbiterProtocol.settle, List.nil_append, List.drop_left, own]
    · rw [afterStepAt_overran (not_le.mp inTime)]
      constructor
      · intro settled reserved
        obtain ⟨outcome, _, once⟩ := settled.2 reserved
        simp only [settledBetween, unsettled, List.drop_length, List.append_nil] at once
        cases once
      · intro inTimeIf
        exact ⟨steady.settled, fun reserved => absurd (inTimeIf reserved) inTime⟩

omit [CeilingPlanner P] in
theorem finish_steady (steady : Steady s) (answers : StoreAnswers setup s (.finish ticket))
    (settled : AllSettled (s.finish setup ticket)) : Steady (s.finish setup ticket) := by
  cases found : s.finishingAt ticket with
  | none =>
    simp only [Session.finish, found]
    exact steady
  | some step =>
    obtain ⟨result, eq⟩ := finish_eq setup found
    rw [eq] at settled ⊢
    refine ⟨?_, Dict.forall_erase ticket steady.unsettled, settled⟩
    show (VeronicaOS.afterStepAt setup step.early s.os step.handle step.snapshot
      step.times).1.arbiter.client.reachable = true
    by_cases inTime : step.times.collectorMs ≤ setup.collectorBudget
    · rw [afterStepAt_settles found answers inTime]
      simp only [ArbiterProtocol.settle, RedisClient.settle, steady.reachable, if_true]
    · rw [afterStepAt_overran (not_le.mp inTime)]
      exact steady.reachable

omit [CeilingPlanner P] [StoreProtocol S] in
theorem normalizeIntent_arbiter (uuidHex : String) (os : VeronicaOS P Watched S)
    (intent : StepIntent) : (normalizeIntent uuidHex os intent).1.arbiter = os.arbiter := by
  unfold normalizeIntent
  dsimp only
  split <;> rfl

omit [CeilingPlanner P] [StoreProtocol S] in
theorem enter_steady (steady : Steady s) (intent : StepIntent) (uuidHex : Option String) :
    Steady (s.enter ticket intent uuidHex) := by
  unfold Session.enter
  split
  · exact steady
  · cases uuidHex with
    | none => exact ⟨steady.reachable, Dict.forall_set trivial steady.unsettled, steady.settled⟩
    | some uuidHex =>
      refine ⟨?_, Dict.forall_set trivial steady.unsettled, steady.settled⟩
      show (normalizeIntent uuidHex s.os intent).1.arbiter.client.reachable = true
      rw [normalizeIntent_arbiter]
      exact steady.reachable

omit [CeilingPlanner P] [StoreProtocol S] in
theorem elsewhere_steady (steady : Steady s) (op : LedgerOp) : Steady (s.elsewhere op) :=
  ⟨steady.reachable, steady.unsettled, steady.settled⟩

theorem steady_act (steady : Steady s) {a : Action} (answers : StoreAnswers setup s a)
    (settled : AllSettled (act setup kernel s a)) : Steady (act setup kernel s a) := by
  cases a with
  | enter ticket intent uuidHex => exact enter_steady steady intent uuidHex
  | issue ticket t => exact issue_steady steady settled
  | observe ticket result snapshot t => exact observe_steady steady settled
  | finish ticket => exact finish_steady steady answers settled
  | elsewhere op => exact elsewhere_steady steady op

theorem act_settled_iff (accepts : AcceptsNonneg kernel) (steady : Steady s) {a : Action}
    (answers : StoreAnswers setup s a) :
    AllSettled (act setup kernel s a) ↔ Kept setup s a := by
  cases a with
  | enter ticket intent uuidHex =>
    exact iff_of_true (enter_steady steady intent uuidHex).settled trivial
  | issue ticket t => exact issue_settled_iff accepts steady t
  | observe ticket result snapshot t => exact observe_settled_iff steady result snapshot t
  | finish ticket => exact finish_settled_iff steady answers
  | elsewhere op => exact iff_of_true (elsewhere_steady steady op).settled trivial

end Acting

section Runs
variable {P S Ctx R : Type} [CeilingPlanner P] [StoreProtocol S]

/-- In every run whose store answers, no step is left with its reservation unsettled exactly
    when every action keeps the reservations. -/
theorem reservations_settled_iff {kernel : Kernel Ctx R} (accepts : AcceptsNonneg kernel)
    (setup : Setup) (planner : P) (arbiter : RedisArbiter) (store : S) {actions : List Action}
    (answers : Runs.EachStep (act setup kernel) (StoreAnswers setup)
      (opening planner arbiter store) actions) :
    Runs.EachState (act setup kernel) AllSettled (opening planner arbiter store) actions ↔
      Runs.EachStep (act setup kernel) (Kept setup) (opening planner arbiter store) actions := by
  have none : AllSettled (opening planner arbiter store) := by
    intro step member
    cases member
  have first : Steady (opening planner arbiter store) := by
    constructor
    case reachable => rfl
    case unsettled => intro ticket step found; cases found
    case settled => exact none
  rw [Runs.eachState_iff_eachStep, and_iff_right none]
  exact Runs.eachStep_exact (fun _ _ steady answers settled => steady_act steady answers settled)
    (fun _ _ steady answers => act_settled_iff accepts steady answers) first answers

def oneStep (t : AfterTimes) : List Action :=
  [.enter 0 (llmIntent "1") none, .issue 0 inTime,
    .observe 0 (.error .keyboardInterrupt) (.ok (snapshotOf (1 / 2))) t, .finish 0]

def sharedOpening : Session SimplePlanner MemoryStore :=
  opening {} (redisArbiter "default" 10) {}

/-- An interrupted step that is in time settles what it reserved. -/
theorem prompt_step_settled :
    Runs.EachState (act (defaultSetup 10 none) (plainKernel Unit)) AllSettled sharedOpening
      (oneStep collectedInTime) := by
  have answers : Runs.EachStep (act (defaultSetup 10 none) (plainKernel Unit))
      (StoreAnswers (defaultSetup 10 none)) sharedOpening (oneStep collectedInTime) := by
    decide +kernel
  have kept : Runs.EachStep (act (defaultSetup 10 none) (plainKernel Unit))
      (Kept (defaultSetup 10 none)) sharedOpening (oneStep collectedInTime) := by
    decide +kernel
  exact (reservations_settled_iff (plainKernel_accepts Unit) _ _ _ _ answers).mpr kept

/-- A step whose collector is a millisecond over its budget leaves its reservation behind. -/
theorem slow_collector_leaks :
    Runs.EachStep (act (defaultSetup 10 none) (plainKernel Unit))
      (StoreAnswers (defaultSetup 10 none)) sharedOpening
      (oneStep { collectedInTime with collectorMs := 6 }) ∧
    ¬ Runs.EachState (act (defaultSetup 10 none) (plainKernel Unit)) AllSettled sharedOpening
      (oneStep { collectedInTime with collectorMs := 6 }) := by
  refine ⟨by decide +kernel, ?_⟩
  intro settled
  have unsettled : ((Runs.run (act (defaultSetup 10 none) (plainKernel Unit)) sharedOpening
      (oneStep { collectedInTime with collectorMs := 6 })).left.any fun step =>
        step.reserved && step.settles.isEmpty) = true := by
    decide +kernel
  obtain ⟨step, left, leaks⟩ := List.any_eq_true.mp unsettled
  obtain ⟨reserved, empty⟩ := Bool.and_eq_true_iff.mp leaks
  obtain ⟨_, _, once⟩ := Runs.eachState_last settled step left reserved
  rw [once] at empty
  cases empty

end Runs

end VeronicaReservations
