import Veronica.Planners
import Veronica.Arbiters

/- VeronicaOS: the pipeline around each step of an agent. Stages with state are protocols;
   the collector, analyzer and cost model are functions. How long a stage takes is chosen by
   the environment of each call. -/
namespace VeronicaPipeline
open VeronicaTypes

/-- What the kernel keeps of a call on the way; the token counts it stores are ints. -/
structure PartialBuffer where
  metadata : Dict String Int

structure NodeRecord where
  nodeId : String
  kind : StepKind
  status : String
  costUsd : PyFloat
  partialBuffer : Option PartialBuffer := none

structure ContextSnapshot where
  chainId : String
  requestId : String
  stepCount : Nat
  costUsdAccumulated : PyFloat
  aborted : Bool
  abortReason : Option String
  elapsedMs : PyFloat
  nodes : List NodeRecord
  events : List (SafetyEvent PyVal) := []

class PlannerProtocol (P : Type) where
  plan : P → Option AnalysisResult → CostEstimate → BudgetState → P × DesiredPolicy

/-- An arbiter without the two optional methods keeps its state in them. -/
class ArbiterProtocol (A : Type) where
  setArbitrationContext : A → String → String → A := fun a _ _ => a
  arbitrate : A → List DesiredPolicy → ℚ → ℚ → A × Dict String PolicyConfig
  settle : A → String → String → PyFloat → A := fun a _ _ _ => a

class StoreProtocol (S : Type) where
  buildHistory : S → String → Except PyExc HistoryView
  commit : S → StepOutcome → AnalysisResult → CostEstimate → DesiredPolicy → PolicyConfig →
    DecisionMeta → S × Except PyExc Unit
  setBudgetContext : S → ℚ → ℚ → S := fun s _ _ => s

/-- What the constructor of VeronicaOS fixes, and the arithmetic its amounts are computed in. -/
structure Setup where
  arithmetic : Arithmetic := .exact
  collect : ContextSnapshot → Int → StepOutcome
  analyze : StepIntent → StepOutcome → HistoryView → AnalysisResult
  estimate : StepIntent → HistoryView → Option AnalysisResult → CostEstimate
  stageBudgetsMs : Dict String ℚ
  requestBudgetUsd : ℚ
  orgPolicy : Option OrgPolicy
  casefold : String → String

inductive Event where
  | stepDenied (intent : StepIntent) (reason : String)
  | stepCompleted (outcome : StepOutcome) (analysis : AnalysisResult) (handle : StepHandle)

structure VeronicaOS (P A S : Type) where
  planner : P
  arbiter : A
  store : S
  lastAnalysis : Option AnalysisResult := none
  totalSpentUsd : ℚ := 0
  chainSpentUsd : Dict String ℚ := ∅
  stepCounter : Nat := 1
  emitted : List Event := []

structure TimeBudgetExceeded where
  stageName : String
  budgetMs : ℚ
  actualMs : ℚ

/-- The stage has run and kept its effects when an overrun is noticed. -/
def runWithBudget {T : Type} (result : T) (elapsedMs budgetMs : ℚ) (stageName : String) :
    Except TimeBudgetExceeded (T × ℚ) :=
  if budgetMs < elapsedMs then .error ⟨stageName, budgetMs, elapsedMs⟩
  else .ok (result, elapsedMs)

/-- The times of one `before_step` call; `now` is the clock. -/
structure BeforeTimes where
  costModelMs : ℚ
  plannerMs : ℚ
  arbiterMs : ℚ
  now : ℚ

structure AfterTimes where
  collectorMs : ℚ
  analyzerMs : ℚ
  nowMs : Int

namespace Setup

def costModelBudget (setup : Setup) : ℚ := setup.stageBudgetsMs.getD "cost_model" 10
def plannerBudget (setup : Setup) : ℚ := setup.stageBudgetsMs.getD "planner" 30
def arbiterBudget (setup : Setup) : ℚ := setup.stageBudgetsMs.getD "arbiter" 20
def collectorBudget (setup : Setup) : ℚ := setup.stageBudgetsMs.getD "collector" 5
def analyzerBudget (setup : Setup) : ℚ := setup.stageBudgetsMs.getD "analyzer" 20

def denial (setup : Setup) (intent : StepIntent) : Option String :=
  setup.orgPolicy.bind fun org => org.validate setup.casefold intent

def clamp (setup : Setup) (desired : DesiredPolicy) : DesiredPolicy :=
  match setup.orgPolicy with
  | none => desired
  | some org => org.clamp setup.casefold desired

end Setup

def fallbackCost : CostEstimate where
  estimatedUsd := 1 / 100
  confidence := 1 / 10
  modelUsed := "fallback"
  basis := .fallback

def overrunDesire (intent : StepIntent) (remaining : ℚ) : DesiredPolicy where
  chainId := intent.chainId
  ceilingUsd := min 1 remaining
  ceilingSteps := 100
  ceilingTokensOut := 50000
  onExceed := .halt
  fallbackModel := none
  timeoutMs := intent.timeoutMs
  priority := 50

/-- The bare policy issued when the arbiter is too slow, or left a chain out. -/
def barePolicy (intent : StepIntent) (ceilingUsd now : ℚ) : PolicyConfig where
  chainId := intent.chainId
  ceilingUsd := ceilingUsd
  onExceed := .halt
  issuedAt := now

def fillChain (intent : StepIntent) (desired : DesiredPolicy) : DesiredPolicy :=
  if desired.chainId = "" then { desired with chainId := intent.chainId } else desired

def deniedHandle (intent : StepIntent) (denial : String) (now : ℚ) : StepHandle where
  intent := intent
  policy := barePolicy intent 0 now
  desired := {
    chainId := intent.chainId
    ceilingUsd := 0
    ceilingSteps := 0
    ceilingTokensOut := 0
    onExceed := .halt
    fallbackModel := none
    timeoutMs := intent.timeoutMs
    priority := 0 }
  cost := {
    estimatedUsd := 0
    confidence := 1
    modelUsed := if intent.model.getD "" = "" then "unknown" else intent.model.getD ""
    basis := .fallback }
  decisionMeta := {
    riskLevel := .critical
    recommendation := .halt
    degraded := true
    stageTimeMs := [("org_policy", 0)]
    orgDenial := some denial }

def decisionMetaOf (setup : Setup) (analysis : Option AnalysisResult) (t : BeforeTimes) :
    DecisionMeta where
  riskLevel := (analysis.map AnalysisResult.riskLevel).getD .nominal
  recommendation := (analysis.map AnalysisResult.recommendation).getD .continue
  degraded := decide (setup.costModelBudget < t.costModelMs ∨ setup.plannerBudget < t.plannerMs ∨
    setup.arbiterBudget < t.arbiterMs)
  stageTimeMs :=
    [("cost_model", t.costModelMs), ("planner", t.plannerMs), ("arbiter", t.arbiterMs)]

def nominalAnalysis : AnalysisResult where
  signals := []
  riskLevel := .nominal
  recommendation := .continue

def costStage (setup : Setup) (intent : StepIntent) (history : HistoryView)
    (analysis : Option AnalysisResult) (t : BeforeTimes) : CostEstimate :=
  match runWithBudget (setup.estimate intent history analysis) t.costModelMs
      setup.costModelBudget "cost_model" with
  | .ok (cost, _) => cost
  | .error _ => fallbackCost

def analyzeStage (setup : Setup) (intent : StepIntent) (outcome : StepOutcome)
    (history : HistoryView) (t : AfterTimes) : AnalysisResult :=
  match runWithBudget (setup.analyze intent outcome history) t.analyzerMs
      setup.analyzerBudget "analyzer" with
  | .ok (analysis, _) => analysis
  | .error _ => nominalAnalysis

section Steps
variable {P A S : Type} [PlannerProtocol P] [ArbiterProtocol A] [StoreProtocol S]

namespace VeronicaOS

def remaining (setup : Setup) (os : VeronicaOS P A S) : ℚ :=
  setup.arithmetic.fl (setup.requestBudgetUsd - os.totalSpentUsd)

def chainRemaining (setup : Setup) (os : VeronicaOS P A S) (chainId : String) : ℚ :=
  setup.arithmetic.fl (setup.requestBudgetUsd - os.chainSpentUsd.getD chainId 0)

def budgetState (setup : Setup) (os : VeronicaOS P A S) (chainId : String) : BudgetState where
  requestRemainingUsd := os.remaining setup
  chainRemainingUsd := os.chainRemaining setup chainId
  windowRemainingSteps := 100

/-- Planner, org clamp and chain id: the new planner and the desire for the arbiter. -/
def planStage (setup : Setup) (os : VeronicaOS P A S) (intent : StepIntent)
    (analysis : Option AnalysisResult) (cost : CostEstimate) (t : BeforeTimes) :
    P × DesiredPolicy :=
  let (planner, planned) :=
    PlannerProtocol.plan os.planner analysis cost (os.budgetState setup intent.chainId)
  let desired := match runWithBudget planned t.plannerMs setup.plannerBudget "planner" with
    | .ok (desired, _) => desired
    | .error _ => overrunDesire intent (os.remaining setup)
  (planner, fillChain intent (setup.clamp desired))

def arbitrateStage (setup : Setup) (os : VeronicaOS P A S) (intent : StepIntent)
    (desired : DesiredPolicy) (t : BeforeTimes) : A × PolicyConfig :=
  let arbiter := ArbiterProtocol.setArbitrationContext os.arbiter intent.requestId intent.stepId
  let (arbiter, configs) :=
    ArbiterProtocol.arbitrate arbiter [desired] (os.remaining setup) t.now
  let configs := match runWithBudget configs t.arbiterMs setup.arbiterBudget "arbiter" with
    | .ok (configs, _) => configs
    | .error _ =>
      (∅ : Dict String PolicyConfig).set intent.chainId (barePolicy intent desired.ceilingUsd t.now)
  (arbiter, configs.getD intent.chainId (barePolicy intent 1 t.now))

/-- `before_step`: the history and the last analysis are read at `early`; planner and arbiter
    run under the lock at `late`, after whatever other calls did in between. -/
def beforeStepAt (setup : Setup) (early late : VeronicaOS P A S) (intent : StepIntent)
    (t : BeforeTimes) : VeronicaOS P A S × Except PyExc StepHandle :=
  match setup.denial intent with
  | some reason =>
    ({ late with emitted := late.emitted ++ [.stepDenied intent reason] },
      .ok (deniedHandle intent reason t.now))
  | none =>
    match StoreProtocol.buildHistory early.store intent.chainId with
    | .error e => (late, .error e)
    | .ok history =>
      let analysis := early.lastAnalysis
      let cost := costStage setup intent history analysis t
      let (planner, desired) := late.planStage setup intent analysis cost t
      let (arbiter, policy) := late.arbitrateStage setup intent desired t
      ({ late with planner, arbiter }, .ok {
        intent
        policy
        desired
        cost
        decisionMeta := decisionMetaOf setup analysis t })

def beforeStep (setup : Setup) (os : VeronicaOS P A S) (intent : StepIntent) (t : BeforeTimes) :
    VeronicaOS P A S × Except PyExc StepHandle :=
  beforeStepAt setup os os intent t

/-- The locked section of `after_step`. -/
def account (setup : Setup) (os : VeronicaOS P A S) (outcome : StepOutcome)
    (analysis : AnalysisResult) : VeronicaOS P A S :=
  let costToAdd := outcome.costUsd.finiteOrZero
  { os with
    lastAnalysis := some analysis
    totalSpentUsd := setup.arithmetic.fl (os.totalSpentUsd + costToAdd)
    chainSpentUsd := os.chainSpentUsd.set outcome.chainId
      (setup.arithmetic.fl (os.chainSpentUsd.getD outcome.chainId 0 + costToAdd)) }

/-- What follows the locked section: commit, settle and emit. -/
def commitStep (setup : Setup) (os : VeronicaOS P A S) (handle : StepHandle)
    (outcome : StepOutcome) (analysis : AnalysisResult) : VeronicaOS P A S × Except PyExc Unit :=
  let store := StoreProtocol.setBudgetContext os.store setup.requestBudgetUsd (os.remaining setup)
  let (store, committed) := StoreProtocol.commit store outcome analysis handle.cost
    handle.desired handle.policy handle.decisionMeta
  match committed with
  | .error e => ({ os with store }, .error e)
  | .ok () =>
    let arbiter := ArbiterProtocol.settle os.arbiter handle.intent.requestId
      handle.intent.stepId outcome.costUsd
    ({ os with
        store
        arbiter
        emitted := os.emitted ++ [.stepCompleted outcome analysis handle] }, .ok ())

/-- `after_step`: the history is read at `early`, the rest happens at `late`. A collector that
    is too slow ends the call. -/
def afterStepAt (setup : Setup) (early late : VeronicaOS P A S) (handle : StepHandle)
    (snapshot : ContextSnapshot) (t : AfterTimes) : VeronicaOS P A S × Except PyExc Unit :=
  match runWithBudget (setup.collect snapshot t.nowMs) t.collectorMs setup.collectorBudget
      "collector" with
  | .error _ => (late, .ok ())
  | .ok (outcome, _) =>
    match StoreProtocol.buildHistory early.store outcome.chainId with
    | .error e => (late, .error e)
    | .ok history =>
      let analysis := analyzeStage setup handle.intent outcome history t
      (late.account setup outcome analysis).commitStep setup handle outcome analysis

def afterStep (setup : Setup) (os : VeronicaOS P A S) (handle : StepHandle)
    (snapshot : ContextSnapshot) (t : AfterTimes) : VeronicaOS P A S × Except PyExc Unit :=
  afterStepAt setup os os handle snapshot t

end VeronicaOS

end Steps

end VeronicaPipeline
