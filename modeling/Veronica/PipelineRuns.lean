import Veronica.Issue
import Veronica.Library.Runs

/- Runs of one VeronicaOS: any number of steps on any chains, each begun by `before_step` and
   finished by `after_step`, in any order. -/
namespace VeronicaRuns
open VeronicaTypes VeronicaPlanners VeronicaPipeline VeronicaStages VeronicaIssue

section Accounting
variable {P A S : Type} [ArbiterProtocol A] [StoreProtocol S] (setup : Setup)
  (os : VeronicaOS P A S) (snapshot : ContextSnapshot) (t : AfterTimes)

def collectedCost : ℚ := (setup.collect snapshot t.nowMs).costUsd.finiteOrZero

/-- An `after_step` call gets as far as the accounting when its collector is in time and the
    history of the collected chain can be read. -/
def Accounts : Prop :=
  t.collectorMs ≤ setup.collectorBudget ∧
    (StoreProtocol.buildHistory os.store (setup.collect snapshot t.nowMs).chainId).isOk

instance : Decidable (Accounts setup os snapshot t) := inferInstanceAs (Decidable (_ ∧ _))

theorem commitStep_counters (handle : StepHandle) (outcome : StepOutcome)
    (analysis : AnalysisResult) :
    (os.commitStep setup handle outcome analysis).1.totalSpentUsd = os.totalSpentUsd ∧
    (os.commitStep setup handle outcome analysis).1.chainSpentUsd = os.chainSpentUsd := by
  unfold VeronicaOS.commitStep
  dsimp only
  split <;> exact ⟨rfl, rfl⟩

/-- What `after_step` does to the pipeline: nothing at all, or accounting and commit. -/
theorem afterStep_cases (handle : StepHandle) :
    (¬ Accounts setup os snapshot t ∧ (os.afterStep setup handle snapshot t).1 = os) ∨
    (Accounts setup os snapshot t ∧ ∃ analysis, os.afterStep setup handle snapshot t =
      (os.account setup (setup.collect snapshot t.nowMs) analysis).commitStep setup handle
        (setup.collect snapshot t.nowMs) analysis) := by
  unfold VeronicaOS.afterStep VeronicaOS.afterStepAt Accounts
  by_cases overran : setup.collectorBudget < t.collectorMs
  · refine Or.inl ⟨fun accounts => absurd overran (not_lt.mpr accounts.1), ?_⟩
    simp only [runWithBudget, overran, if_true]
  · cases read : StoreProtocol.buildHistory os.store (setup.collect snapshot t.nowMs).chainId with
    | error e =>
      refine Or.inl ⟨fun accounts => Bool.noConfusion accounts.2, ?_⟩
      simp only [runWithBudget, overran, if_false, read]
    | ok history =>
      refine Or.inr ⟨⟨not_lt.mp overran, rfl⟩, analyzeStage setup handle.intent
        (setup.collect snapshot t.nowMs) history t, ?_⟩
      simp only [runWithBudget, overran, if_false, read]

/-- The only writes `after_step` makes to the two counters. -/
theorem afterStep_counters (handle : StepHandle) :
    let after := (os.afterStep setup handle snapshot t).1
    let chainId := (setup.collect snapshot t.nowMs).chainId
    let cost := collectedCost setup snapshot t
    (¬ Accounts setup os snapshot t ∧ after.totalSpentUsd = os.totalSpentUsd ∧
      after.chainSpentUsd = os.chainSpentUsd) ∨
    (Accounts setup os snapshot t ∧
      after.totalSpentUsd = setup.arithmetic.fl (os.totalSpentUsd + cost) ∧
      after.chainSpentUsd = os.chainSpentUsd.set chainId
        (setup.arithmetic.fl (os.chainSpentUsd.getD chainId 0 + cost))) := by
  rcases afterStep_cases setup os snapshot t handle with ⟨skipped, eq⟩ | ⟨accounts, analysis, eq⟩
  · exact Or.inl ⟨skipped, by rw [eq], by rw [eq]⟩
  · obtain ⟨total, chains⟩ := commitStep_counters setup
      (os.account setup (setup.collect snapshot t.nowMs) analysis) handle
      (setup.collect snapshot t.nowMs) analysis
    exact Or.inr ⟨accounts, by rw [eq, total]; rfl, by rw [eq, chains]; rfl⟩

theorem afterStep_planner (handle : StepHandle) :
    (os.afterStep setup handle snapshot t).1.planner = os.planner := by
  rcases afterStep_cases setup os snapshot t handle with ⟨_, eq⟩ | ⟨_, analysis, eq⟩
  · rw [eq]
  · rw [eq]
    unfold VeronicaOS.commitStep
    dsimp only
    split <;> rfl

theorem beforeStep_counters [PlannerProtocol P] (intent : StepIntent) (t : BeforeTimes) :
    (os.beforeStep setup intent t).1.totalSpentUsd = os.totalSpentUsd ∧
    (os.beforeStep setup intent t).1.chainSpentUsd = os.chainSpentUsd := by
  unfold VeronicaOS.beforeStep VeronicaOS.beforeStepAt
  split
  · exact ⟨rfl, rfl⟩
  · split <;> exact ⟨rfl, rfl⟩

theorem beforeStep_store [PlannerProtocol P] (intent : StepIntent) (t : BeforeTimes) :
    (os.beforeStep setup intent t).1.store = os.store := by
  unfold VeronicaOS.beforeStep VeronicaOS.beforeStepAt
  split
  · rfl
  · split <;> rfl

end Accounting

/-- The pipeline and the handles of the steps not finished yet, under tickets of the runs'
    own. -/
structure Running (P A S : Type) where
  os : VeronicaOS P A S
  handles : Dict Nat StepHandle

inductive Call where
  | before (ticket : Nat) (intent : StepIntent) (t : BeforeTimes)
  | after (ticket : Nat) (snapshot : ContextSnapshot) (t : AfterTimes)

variable {P A S : Type} [PlannerProtocol P] [ArbiterProtocol A] [StoreProtocol S]

/-- A VeronicaOS as its constructor leaves it. -/
def created (planner : P) (arbiter : A) (store : S) : VeronicaOS P A S :=
  { planner, arbiter, store }

def started (os : VeronicaOS P A S) : Running P A S := { os, handles := ∅ }

def callStep (setup : Setup) (s : Running P A S) : Call → Running P A S
  | .before ticket intent t =>
    match s.os.beforeStep setup intent t with
    | (os, .ok handle) => { os, handles := s.handles.set ticket handle }
    | (os, .error _) => { s with os }
  | .after ticket snapshot t =>
    match s.handles.get? ticket with
    | none => s
    | some handle =>
      { os := (s.os.afterStep setup handle snapshot t).1, handles := s.handles.erase ticket }

@[simp] theorem callStep_before_os (setup : Setup) (s : Running P A S) (ticket : Nat)
    (intent : StepIntent) (t : BeforeTimes) :
    (callStep setup s (.before ticket intent t)).os = (s.os.beforeStep setup intent t).1 := by
  rcases issued : s.os.beforeStep setup intent t with ⟨os, raised | handle⟩
  · simp only [callStep, issued]
  · simp only [callStep, issued]

/-- The counters are numbers that the arithmetic stores. -/
structure HeldCounters {P A S : Type} (setup : Setup) (os : VeronicaOS P A S) : Prop where
  total : setup.arithmetic.fl os.totalSpentUsd = os.totalSpentUsd
  chains : ∀ chainId, setup.arithmetic.fl (os.chainSpentUsd.getD chainId 0) =
    os.chainSpentUsd.getD chainId 0

omit [PlannerProtocol P] [ArbiterProtocol A] [StoreProtocol S] in
theorem created_held (setup : Setup) (planner : P) (arbiter : A) (store : S) :
    HeldCounters setup (created planner arbiter store) :=
  ⟨setup.arithmetic.zero, fun _ => setup.arithmetic.zero⟩

theorem callStep_held {setup : Setup} {s : Running P A S} (held : HeldCounters setup s.os)
    (call : Call) : HeldCounters setup (callStep setup s call).os := by
  cases call with
  | before ticket intent t =>
    obtain ⟨total, chains⟩ := beforeStep_counters setup s.os intent t
    rw [callStep_before_os]
    exact ⟨by rw [total, held.total], fun c => by rw [chains, held.chains]⟩
  | after ticket snapshot t =>
    cases opened : s.handles.get? ticket with
    | none => simpa only [callStep, opened] using held
    | some handle =>
      simp only [callStep, opened]
      rcases afterStep_counters setup s.os snapshot t handle with
        ⟨_, total, chains⟩ | ⟨_, total, chains⟩
      · exact ⟨by rw [total, held.total], fun c => by rw [chains, held.chains]⟩
      · refine ⟨by rw [total, setup.arithmetic.idempotent], fun c => ?_⟩
        rw [chains, Dict.getD, Dict.get?_set]
        split
        · rw [Option.getD_some, setup.arithmetic.idempotent]
        · exact held.chains c

/-- The pipeline states that calls lead to from a given start. -/
def ReachableOS (setup : Setup) (start os : VeronicaOS P A S) : Prop :=
  ∃ handles, Runs.Reachable (callStep setup) (fun _ _ => True) (started start) { os, handles }

theorem reachableOS_run (setup : Setup) (start : VeronicaOS P A S) (calls : List Call) :
    ReachableOS setup start (Runs.run (callStep setup) (started start) calls).os :=
  ⟨_, Runs.reachable_run calls⟩

section Planner
variable {X : Type} {setup : Setup} (part : P → X)
  (kept : ∀ p analysis cost budget, part (PlannerProtocol.plan p analysis cost budget).1 = part p)

theorem beforeStep_planner (os : VeronicaOS P A S) (intent : StepIntent) (t : BeforeTimes) :
    (os.beforeStep setup intent t).1.planner = os.planner ∨
      ∃ cost budget, (os.beforeStep setup intent t).1.planner =
        (PlannerProtocol.plan os.planner os.lastAnalysis cost budget).1 := by
  unfold VeronicaOS.beforeStep VeronicaOS.beforeStepAt
  split
  · exact Or.inl rfl
  · split
    · exact Or.inl rfl
    · exact Or.inr ⟨_, _, rfl⟩

include kept in
/-- What `plan` keeps of a planner, every call keeps. -/
theorem callStep_planner (s : Running P A S) (call : Call) :
    part (callStep setup s call).os.planner = part s.os.planner := by
  cases call with
  | before ticket intent t =>
    rw [callStep_before_os]
    rcases beforeStep_planner s.os intent t with eq | ⟨cost, budget, eq⟩
    · rw [eq]
    · rw [eq, kept]
  | after ticket snapshot t =>
    cases found : s.handles.get? ticket with
    | none => simp only [callStep, found]
    | some handle => simp only [callStep, found, afterStep_planner]

end Planner

section Timing

def beforeInTime (setup : Setup) (t : BeforeTimes) : Prop :=
  t.costModelMs ≤ setup.costModelBudget ∧ t.plannerMs ≤ setup.plannerBudget ∧
    t.arbiterMs ≤ setup.arbiterBudget

def afterInTime (setup : Setup) (t : AfterTimes) : Prop :=
  t.collectorMs ≤ setup.collectorBudget ∧ t.analyzerMs ≤ setup.analyzerBudget

instance (setup : Setup) (t : BeforeTimes) : Decidable (beforeInTime setup t) :=
  inferInstanceAs (Decidable (_ ∧ _ ∧ _))

instance (setup : Setup) (t : AfterTimes) : Decidable (afterInTime setup t) :=
  inferInstanceAs (Decidable (_ ∧ _))

end Timing

section Defaults

def defaultStageBudgets : Dict String ℚ :=
  ((((∅ : Dict String ℚ).set "collector" 5).set "analyzer" 20).set "cost_model" 10
    |>.set "planner" 30).set "arbiter" 20

/-- The default stages, with a pricing table that knows no model. -/
def defaultSetup (requestBudgetUsd : ℚ) (orgPolicy : Option OrgPolicy) : Setup where
  collect := simpleCollect
  analyze := ruleAnalyze
  estimate := tableEstimate fun _ => none
  stageBudgetsMs := defaultStageBudgets
  requestBudgetUsd := requestBudgetUsd
  orgPolicy := orgPolicy
  casefold := String.toLower

def defaultOS : VeronicaOS AnyPlanner LocalArbiter MemoryStore := created (.inl {}) (.inl {}) {}

def llmIntent (stepId : String) : StepIntent where
  stepId := stepId
  requestId := "request"
  chainId := "chain"
  kind := .llm
  model := some "model"
  toolName := none
  timeoutMs := 30000

def inTime : BeforeTimes := { costModelMs := 1, plannerMs := 1, arbiterMs := 1, now := 1740000000 }
def slowArbiter : BeforeTimes := { inTime with arbiterMs := 25 }
def collectedInTime : AfterTimes := { collectorMs := 1, analyzerMs := 1, nowMs := 1740000000000 }

/-- The kernel's snapshot of a step of one call that cost `costUsd`. -/
def snapshotOf (costUsd : ℚ) : ContextSnapshot where
  chainId := "chain"
  requestId := "request"
  stepCount := 1
  costUsdAccumulated := .finite costUsd
  aborted := false
  abortReason := none
  elapsedMs := .finite 10
  nodes := [{
    nodeId := "node"
    kind := .llm
    status := "ok"
    costUsd := .finite costUsd
    partialBuffer := some {
      metadata := ((∅ : Dict String Int).set "tokens_in" 10).set "tokens_out" 10 } }]

/-- One step that cost more than the whole budget of one dollar. -/
def overspent : VeronicaOS AnyPlanner LocalArbiter MemoryStore :=
  (Runs.run (callStep (defaultSetup 1 none)) (started defaultOS)
    [.before 1 (llmIntent "1") inTime, .after 1 (snapshotOf 5) collectedInTime]).os

end Defaults

end VeronicaRuns
