import Veronica.Pipeline
import Veronica.RedisArbiter

/- The stages the package ships: both planners, the three arbiters, the memory store, and the
   default collector, analyzer and cost model. -/
namespace VeronicaStages
open VeronicaTypes VeronicaPlanners VeronicaArbiters VeronicaRedis VeronicaLedger
open VeronicaPipeline

instance {r : Arithmetic} : PlannerProtocol (SimplePlanner r) where
  plan := SimplePlanner.plan

instance {r : Arithmetic} : PlannerProtocol (AdaptivePlanner r) where
  plan := AdaptivePlanner.plan

structure PassthroughArbiter (r : Arithmetic := .exact) where

instance {r : Arithmetic} : ArbiterProtocol (PassthroughArbiter r) where
  arbitrate := fun a desires remaining now => (a, passthroughArbitrate desires remaining now r)

structure ProportionalArbiter (r : Arithmetic := .exact) where

instance {r : Arithmetic} : ArbiterProtocol (ProportionalArbiter r) where
  arbitrate := fun a desires remaining now => (a, proportionalArbitrate desires remaining now r)

/-- RedisArbiter as one process sees it: the context it was given, the shared ledger, and
    whether Redis answers the next call. -/
structure RedisClient where
  arbiter : RedisArbiter
  context : Option (String × String) := none
  ledger : Ledger := unwritten
  reachable : Bool := true

namespace RedisClient

def setArbitrationContext (c : RedisClient) (requestId stepId : String) : RedisClient :=
  { c with context := some (requestId, stepId) }

def arbitrate (c : RedisClient) (desires : List DesiredPolicy) (budgetRemainingUsd now : ℚ) :
    RedisClient × Dict String PolicyConfig :=
  match c.context with
  | none => (c, proportionalArbitrate desires budgetRemainingUsd now)
  | some (requestId, stepId) =>
    if c.reachable then
      let (ledger, configs) := c.arbiter.arbitrateRedis c.ledger desires requestId stepId now
      ({ c with ledger }, configs)
    else (c, proportionalArbitrate desires budgetRemainingUsd now)

def settle (c : RedisClient) (requestId stepId : String) (actualCostUsd : PyFloat) :
    RedisClient :=
  if c.reachable then
    { c with ledger := c.arbiter.settle c.ledger requestId stepId actualCostUsd }
  else c

end RedisClient

instance : ArbiterProtocol RedisClient where
  setArbitrationContext := RedisClient.setArbitrationContext
  arbitrate := RedisClient.arbitrate
  settle := RedisClient.settle

/-- A deployment picks one of two planners, or one of two arbiters. -/
instance {P Q : Type} [PlannerProtocol P] [PlannerProtocol Q] : PlannerProtocol (P ⊕ Q) where
  plan := fun planner analysis cost budget => match planner with
    | .inl p => (PlannerProtocol.plan p analysis cost budget).map .inl id
    | .inr q => (PlannerProtocol.plan q analysis cost budget).map .inr id

instance {A B : Type} [ArbiterProtocol A] [ArbiterProtocol B] : ArbiterProtocol (A ⊕ B) where
  setArbitrationContext := fun arbiter requestId stepId => match arbiter with
    | .inl a => .inl (ArbiterProtocol.setArbitrationContext a requestId stepId)
    | .inr b => .inr (ArbiterProtocol.setArbitrationContext b requestId stepId)
  arbitrate := fun arbiter desires remaining now => match arbiter with
    | .inl a => (ArbiterProtocol.arbitrate a desires remaining now).map .inl id
    | .inr b => (ArbiterProtocol.arbitrate b desires remaining now).map .inr id
  settle := fun arbiter requestId stepId cost => match arbiter with
    | .inl a => .inl (ArbiterProtocol.settle a requestId stepId cost)
    | .inr b => .inr (ArbiterProtocol.settle b requestId stepId cost)

def maxOutcomesPerChain : Nat := 50000
def maxChains : Nat := 10000

structure MemoryStore where
  chains : Dict String (List StepOutcome) := ∅

def isChainChar (c : Char) : Bool :=
  c.isAlphanum || c = '_' || c = ':' || c = '@' || c = '.' || c = '-'

/-- `$` in the pattern also matches before a final newline. -/
def isSafeChainId (chainId : String) : Bool :=
  let characters := chainId.toList
  let body := if characters.getLast? = some '\n' then characters.dropLast else characters
  body ≠ [] ∧ body.length ≤ 256 ∧ body.all isChainChar

def invalidChain : PyExc :=
  .valueError "Invalid chain_id: must match '^[a-zA-Z0-9_:@.\\\\-]\x7b1,256\x7d$'"

namespace MemoryStore

def historyLimit : Nat := 50

def rollingCost (outcomes : List StepOutcome) : ℚ :=
  (outcomes.map fun o => o.costUsd.finiteOrZero).sum

def failureStreak (outcomes : List StepOutcome) : Nat :=
  (outcomes.reverse.takeWhile fun o => o.status ≠ .ok).length

def buildHistory (store : MemoryStore) (chainId : String) : Except PyExc HistoryView :=
  if isSafeChainId chainId then
    let outcomes := store.chains.getD chainId []
    let lastN := outcomes.drop (outcomes.length - historyLimit)
    .ok {
      chainId
      lastN
      rollingCostUsd := .finite (rollingCost lastN)
      failureStreak := failureStreak lastN
      depth := lastN.length
      loopScore := .finite 0 }
  else .error invalidChain

def commit (store : MemoryStore) (outcome : StepOutcome) : MemoryStore × Except PyExc Unit :=
  if isSafeChainId outcome.chainId then
    match store.chains.get? outcome.chainId with
    | none =>
      if maxChains ≤ store.chains.size then
        (store, .error (.valueError ("Chain limit (" ++ toString maxChains ++
          ") reached; cannot create chain '" ++ outcome.chainId ++ "'")))
      else ({ chains := store.chains.set outcome.chainId [outcome] }, .ok ())
    | some chain =>
      let chain := chain ++ [outcome]
      ({ chains := store.chains.set outcome.chainId
          (chain.drop (chain.length - maxOutcomesPerChain)) }, .ok ())
  else (store, .error invalidChain)

end MemoryStore

instance : StoreProtocol MemoryStore where
  buildHistory := MemoryStore.buildHistory
  commit := fun store outcome _ _ _ _ _ => store.commit outcome

def statusOf : String → StepStatus
  | "ok" => .ok
  | "halted" => .halted
  | "timeout" => .timeout
  | _ => .error

/-- `max(0, int(meta.get(key, 0) or 0))`; a node without a buffer has no tokens. -/
def tokenCount (node : NodeRecord) (key : String) : Int :=
  max 0 ((node.partialBuffer.map fun buffer => buffer.metadata.getD key 0).getD 0)

/-- SimpleCollector.collect -/
def simpleCollect (snapshot : ContextSnapshot) (nowMs : Int) : StepOutcome :=
  match snapshot.nodes.getLast? with
  | none => {
      stepId := snapshot.chainId ++ "-" ++ toString snapshot.stepCount
      requestId := snapshot.requestId
      chainId := snapshot.chainId
      kind := .system
      status := .ok
      costUsd := snapshot.costUsdAccumulated
      tokensIn := 0
      tokensOut := 0
      elapsedMs := snapshot.elapsedMs
      events := snapshot.events
      timestampMs := nowMs }
  | some lastNode => {
      stepId := lastNode.nodeId
      requestId := snapshot.requestId
      chainId := snapshot.chainId
      kind := lastNode.kind
      status := statusOf lastNode.status
      costUsd := lastNode.costUsd
      tokensIn := tokenCount lastNode "tokens_in"
      tokensOut := tokenCount lastNode "tokens_out"
      elapsedMs := snapshot.elapsedMs
      events := snapshot.events
      timestampMs := nowMs }

def depthThreshold : Nat := 8
def failureStreakElevated : Nat := 2
def failureStreakCritical : Nat := 5

def stepKindName : StepKind → String
  | .llm => "llm"
  | .tool => "tool"
  | .system => "system"

def deviationSignals (intent : StepIntent) (outcome : StepOutcome) : List Signal :=
  if intent.kind ≠ outcome.kind then
    [⟨"intent_deviation", .warning, "intended " ++ stepKindName intent.kind ++ ", got " ++
      stepKindName outcome.kind⟩]
  else []

/-- The current outcome counts toward the streak. -/
def streakOf (outcome : StepOutcome) (history : HistoryView) : Nat :=
  history.failureStreak + if outcome.status = .ok then 0 else 1

def streakSignals (streak : Nat) : List Signal × RiskLevel :=
  let detail := toString streak ++ " consecutive failures"
  if failureStreakCritical ≤ streak then ([⟨"repeated_failure", .critical, detail⟩], .critical)
  else if failureStreakElevated ≤ streak then
    ([⟨"repeated_failure", .warning, detail⟩], .elevated)
  else ([], .nominal)

/-- RuleAnalyzer.analyze -/
def ruleAnalyze (intent : StepIntent) (outcome : StepOutcome) (history : HistoryView) :
    AnalysisResult :=
  let (streakFound, riskLevel) := streakSignals (streakOf outcome history)
  let signals := deviationSignals intent outcome ++ streakFound
  if depthThreshold ≤ history.depth then
    { signals := signals ++ [⟨"depth_anomaly", .critical, "depth " ++ toString history.depth ++
        " >= " ++ toString depthThreshold⟩]
      riskLevel := .critical
      recommendation := .halt }
  else if outcome.status ≠ .ok then
    { signals
      riskLevel := if riskLevel = .nominal then .elevated else riskLevel
      recommendation := .tighten }
  else if history.failureStreak = 0 then { signals, riskLevel, recommendation := .loosen }
  else { signals, riskLevel, recommendation := .continue }

/-- TableCostModel.estimate over the kernel's pricing table: `price model` is the estimate for
    the assumed token counts, if the table has the model. -/
def tableEstimate (price : String → Option ℚ) (intent : StepIntent) (_history : HistoryView)
    (_lastAnalysis : Option AnalysisResult) : CostEstimate :=
  if intent.kind = .tool then
    { estimatedUsd := 0
      confidence := 1
      modelUsed := if intent.toolName.getD "" = "" then "tool" else intent.toolName.getD ""
      basis := .pricingTable }
  else match intent.model.bind price with
    | none =>
      { estimatedUsd := 1 / 100
        confidence := 3 / 10
        modelUsed := if intent.model.getD "" = "" then "unknown" else intent.model.getD ""
        basis := .fallback }
    | some cost =>
      { estimatedUsd := cost
        confidence := 7 / 10
        modelUsed := intent.model.getD ""
        basis := .pricingTable }

end VeronicaStages
