import Veronica.Library.PyValue
import Veronica.Library.Dict

/- The records of the execution pipeline, built by its own stages, so every field has its
   declared type. What is collected and the statistics of a history are any floats; the other
   amounts and times are finite. -/
namespace VeronicaTypes

inductive StepKind where
  | llm
  | tool
  | system
  deriving DecidableEq, Repr

inductive StepStatus where
  | ok
  | halted
  | error
  | timeout
  deriving DecidableEq, Repr

inductive Severity where
  | info
  | warning
  | critical
  deriving DecidableEq, Repr

inductive RiskLevel where
  | nominal
  | elevated
  | critical
  deriving DecidableEq, Repr

inductive Recommendation where
  | «continue»
  | tighten
  | loosen
  | halt
  deriving DecidableEq, Repr

inductive OnExceed where
  | halt
  | degrade
  | queue
  deriving DecidableEq, Repr

inductive CostBasis where
  | historical
  | pricingTable
  | fallback
  deriving DecidableEq, Repr

structure StepIntent where
  stepId : String
  requestId : String
  chainId : String
  kind : StepKind
  model : Option String
  toolName : Option String
  timeoutMs : Int

/-- An event of the kernel. `decision` is the decision's `value`, if it has one, and `timestamp`
    what `ts.timestamp()` gives, if there is one to call. -/
structure SafetyEvent (V : Type) where
  eventType : String
  hook : String
  decision : Option V
  requestId : Option String := none
  reason : Option V := none
  metadata : Dict String V := ∅
  timestamp : Option (Except PyExc PyFloat) := none

structure StepOutcome where
  stepId : String
  requestId : String
  chainId : String
  kind : StepKind
  status : StepStatus
  costUsd : PyFloat
  tokensIn : Int
  tokensOut : Int
  elapsedMs : PyFloat
  events : List (SafetyEvent PyVal) := []
  timestampMs : Int

/-- The last five are left at their defaults by a store without averages. Those by model become
    estimates and are finite. -/
structure HistoryView where
  chainId : String
  lastN : List StepOutcome
  rollingCostUsd : PyFloat
  failureStreak : Nat
  depth : Nat
  loopScore : PyFloat
  successStreak : Nat := 0
  costPerStepEma : PyFloat := .finite 0
  costPerStepEmaByModel : Dict String ℚ := ∅
  latencyEmaMs : Dict String PyFloat := ∅
  budgetHeadroomRatio : PyFloat := .finite 1

structure Signal where
  kind : String
  severity : Severity
  detail : String
  deriving DecidableEq, Repr

structure AnalysisResult where
  signals : List Signal
  riskLevel : RiskLevel
  recommendation : Recommendation
  deriving DecidableEq, Repr

structure CostEstimate where
  estimatedUsd : ℚ
  confidence : ℚ
  modelUsed : String
  basis : CostBasis

structure BudgetState where
  requestRemainingUsd : ℚ
  chainRemainingUsd : ℚ
  windowRemainingSteps : Int

structure DesiredPolicy where
  chainId : String
  ceilingUsd : ℚ
  ceilingSteps : Int
  ceilingTokensOut : Int
  onExceed : OnExceed
  fallbackModel : Option String
  timeoutMs : Int
  priority : Int

structure DecisionMeta where
  riskLevel : RiskLevel
  recommendation : Recommendation
  degraded : Bool
  stageTimeMs : List (String × ℚ)
  orgDenial : Option String := none
  policyHash : String := ""
  auditId : String := ""

structure PolicyConfig where
  chainId : String
  ceilingUsd : ℚ
  onExceed : OnExceed
  issuedAt : ℚ
  ceilingTokensOut : Option Int := none
  ceilingSteps : Option Int := none
  fallbackModel : Option String := none
  timeoutMs : Option Int := none
  rateWindowSeconds : Option ℚ := none
  rateCeilingCalls : Option Int := none
  priority : Int := 50
  deadlineTs : Option ℚ := none
  expiresAt : Option ℚ := none
  plannerVersion : Option String := none

structure ExecutionConfig where
  maxCostUsd : ℚ
  maxSteps : Int
  maxRetriesTotal : Int
  timeoutMs : Int

structure StepHandle where
  intent : StepIntent
  policy : PolicyConfig
  desired : DesiredPolicy
  cost : CostEstimate
  decisionMeta : DecisionMeta

def defaultSteps : Int := 100
def defaultRetries : Int := 10

/-- The message of the error ends before the value it quotes. -/
def PolicyConfig.toExecConfig (p : PolicyConfig) : Except PyExc ExecutionConfig :=
  if p.ceilingUsd < 0 then
    .error (.valueError "ceiling_usd must be a non-negative finite float, got ")
  else
    .ok {
      maxCostUsd := p.ceilingUsd
      maxSteps := p.ceilingSteps.getD defaultSteps
      maxRetriesTotal := defaultRetries
      timeoutMs := p.timeoutMs.getD 0 }

structure OrgPolicy where
  maxCeilingUsd : Option ℚ := none
  maxTimeoutMs : Option Int := none
  blockedModels : List String := []
  blockedTools : List String := []
  maxPriority : Option Int := none

namespace OrgPolicy
variable (casefold : String → String)

/-- `name and name.casefold() in blocked`, where an empty name is not blocked -/
def blocks (blocked : List String) (name : Option String) : Prop :=
  ∃ n ∈ name, n ≠ "" ∧ casefold n ∈ blocked.map casefold

instance (blocked : List String) (name : Option String) :
    Decidable (blocks casefold blocked name) :=
  inferInstanceAs (Decidable (∃ n ∈ name, n ≠ "" ∧ casefold n ∈ blocked.map casefold))

def validate (org : OrgPolicy) (intent : StepIntent) : Option String :=
  if blocks casefold org.blockedModels intent.model then
    some ("model '" ++ intent.model.getD "" ++ "' is blocked by org policy")
  else if blocks casefold org.blockedTools intent.toolName then
    some ("tool '" ++ intent.toolName.getD "" ++ "' is blocked by org policy")
  else none

/-- `value` lowered to `cap`, if there is a cap -/
def capped {A : Type} [LinearOrder A] (cap : Option A) (value : A) : A :=
  match cap with
  | none => value
  | some limit => if limit < value then limit else value

def clamp (org : OrgPolicy) (desired : DesiredPolicy) : DesiredPolicy :=
  { desired with
    ceilingUsd := capped org.maxCeilingUsd desired.ceilingUsd
    timeoutMs := capped org.maxTimeoutMs desired.timeoutMs
    priority := capped org.maxPriority desired.priority
    fallbackModel :=
      if blocks casefold org.blockedModels desired.fallbackModel then none
      else desired.fallbackModel }

end OrgPolicy

theorem capped_eq_min {A : Type} [LinearOrder A] (limit value : A) :
    OrgPolicy.capped (some limit) value = min limit value := by
  simp only [OrgPolicy.capped]
  split
  · rename_i above
    exact (min_eq_left above.le).symm
  · rename_i within
    exact (min_eq_right (not_lt.mp within)).symm

theorem le_capped_iff {A : Type} [LinearOrder A] (cap : Option A) (value x : A) :
    x ≤ OrgPolicy.capped cap value ↔ (∀ limit ∈ cap, x ≤ limit) ∧ x ≤ value := by
  cases cap with
  | none => simp [OrgPolicy.capped]
  | some limit => simp [capped_eq_min]

theorem capped_cases {A : Type} [LinearOrder A] (cap : Option A) (value : A) :
    OrgPolicy.capped cap value ∈ cap ∨ OrgPolicy.capped cap value = value := by
  cases cap with
  | none => exact Or.inr rfl
  | some limit =>
    rw [capped_eq_min]
    rcases min_choice limit value with eq | eq
    · exact Or.inl (by simp [eq])
    · exact Or.inr eq

theorem capped_le {A : Type} [LinearOrder A] {cap : Option A} {limit : A} (set : limit ∈ cap)
    (value : A) : OrgPolicy.capped cap value ≤ limit :=
  ((le_capped_iff cap value _).mp le_rfl).1 limit set

theorem toExecConfig_ok_iff {p : PolicyConfig} :
    (∃ config, p.toExecConfig = .ok config) ↔ 0 ≤ p.ceilingUsd := by
  unfold PolicyConfig.toExecConfig
  split
  · rename_i negative
    simpa using negative
  · rename_i nonnegative
    simpa using nonnegative

theorem toExecConfig_cost {p : PolicyConfig} {config : ExecutionConfig}
    (converted : p.toExecConfig = .ok config) : config.maxCostUsd = p.ceilingUsd := by
  unfold PolicyConfig.toExecConfig at converted
  split at converted
  · cases converted
  · cases converted
    rfl

end VeronicaTypes
