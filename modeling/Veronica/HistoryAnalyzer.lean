import Veronica.MemoryHistory
import Veronica.Library.PyConversions

/- HistoryAnalyzer: six patterns over an outcome and the statistics of its chain, computed in
   doubles. All that match emit signals; the risk is the worst severity, the recommendation the
   one of highest rank. -/
namespace VeronicaHistory
open VeronicaTypes VeronicaStages VeronicaMemory

def depthSoft : Nat := 6
def depthHard : Nat := 10
def costSpikeFactor : ℚ := 2
def costMinHistory : Nat := 5
def loopThreshold : PyFloat := .finite (Doubles.round (7 / 10))
def latencySpikeFactor : ℚ := 3
def loosenMinStreak : Nat := 3
def loosenMinHeadroom : PyFloat := .finite (1 / 2)
def eps : PyFloat := .finite (Doubles.round (1 / 10 ^ 12))

def severityRank : Severity → Nat
  | .info => 0
  | .warning => 1
  | .critical => 2

def riskByMaxSeverity : Nat → RiskLevel
  | 0 => .nominal
  | 1 => .elevated
  | _ => .critical

def recommendationRank : Recommendation → Nat
  | .continue => 0
  | .loosen => 1
  | .tighten => 2
  | .halt => 3

def statusName : StepStatus → String
  | .ok => "ok"
  | .halted => "halted"
  | .error => "error"
  | .timeout => "timeout"

/-- What one pattern adds to the two lists of `analyze`. -/
structure Finding where
  signals : List Signal := []
  recommendations : List Recommendation := []

def Finding.append (first second : Finding) : Finding where
  signals := first.signals ++ second.signals
  recommendations := first.recommendations ++ second.recommendations

section Patterns
variable (outcome : StepOutcome) (history : HistoryView)

def haltTighten : Finding :=
  if outcome.status = .ok then {}
  else {
    signals := [⟨"halt_tighten", if outcome.status = .halted then .critical else .warning,
      "outcome status=" ++ statusName outcome.status⟩]
    recommendations := [.tighten] }

def cleanLoosen : Finding :=
  if outcome.status = .ok ∧ loosenMinStreak ≤ history.successStreak ∧
      loosenMinHeadroom.le history.budgetHeadroomRatio then {
    signals := [⟨"clean_loosen", .info, "streak=" ++ toString history.successStreak ++
      ", headroom=" ++ history.budgetHeadroomRatio.fixed 2⟩]
    recommendations := [.loosen] }
  else {}

def depthGuard : Finding :=
  if depthHard ≤ history.depth then {
    signals := [⟨"depth_guard", .critical,
      "depth " ++ toString history.depth ++ " >= hard limit " ++ toString depthHard⟩]
    recommendations := [.halt] }
  else if depthSoft ≤ history.depth then {
    signals := [⟨"depth_guard", .warning,
      "depth " ++ toString history.depth ++ " >= soft limit " ++ toString depthSoft⟩]
    recommendations := [.tighten] }
  else {}

def costAcceleration : Finding :=
  if costMinHistory ≤ history.depth ∧ eps.lt history.costPerStepEma ∧
      (Doubles.scaled costSpikeFactor history.costPerStepEma).lt outcome.costUsd then {
    signals := [⟨"cost_acceleration", .warning, "cost " ++ outcome.costUsd.fixed 4 ++
      " > 2.0x EMA " ++ history.costPerStepEma.fixed 4⟩]
    recommendations := [.tighten] }
  else {}

def loopDetection : Finding :=
  if loopThreshold.le history.loopScore then {
    signals := [⟨"loop_detection", .warning,
      "loop_score=" ++ history.loopScore.fixed 2⟩]
    recommendations := [.tighten] }
  else {}

/-- The average is that of the outcome's model. -/
def latencyAnomaly (modelKey : String) : Finding :=
  match history.latencyEmaMs.get? modelKey with
  | none => {}
  | some latencyEma =>
    if eps.lt latencyEma ∧
        (Doubles.scaled latencySpikeFactor latencyEma).lt outcome.elapsedMs then {
      signals := [⟨"latency_anomaly", .info, "elapsed " ++ outcome.elapsedMs.fixed 0 ++
        "ms > 3.0x EMA " ++ latencyEma.fixed 0 ++ "ms"⟩] }
    else {}

end Patterns

def findings (modelKey : String) (outcome : StepOutcome) (history : HistoryView) : Finding :=
  [haltTighten outcome, cleanLoosen outcome history, depthGuard history,
    costAcceleration outcome history, loopDetection history,
    latencyAnomaly outcome history modelKey].foldl Finding.append {}

/-- `max(recommendations, key=rank)`: the first of highest rank. -/
def highest (recommendations : List Recommendation) : Recommendation :=
  recommendations.foldl (fun best r =>
    if recommendationRank best < recommendationRank r then r else best) .continue

def compose (found : Finding) : AnalysisResult where
  signals := found.signals
  riskLevel := riskByMaxSeverity
    ((found.signals.map fun s => severityRank s.severity).foldl max 0)
  recommendation := highest found.recommendations

/-- HistoryAnalyzer.analyze; SimpleCollector names no model. -/
def historyAnalyze (_intent : StepIntent) (outcome : StepOutcome) (history : HistoryView) :
    AnalysisResult :=
  compose (findings "unknown" outcome history)

/-- A view of MemoryStore has no averages, no loop score and no success streak: only the status
    of the outcome and the depth of the chain are left for the analyzer to read. -/
theorem findings_memory (outcome : StepOutcome) (chainId : String) (lastN : List StepOutcome) :
    findings "unknown" outcome (viewOf chainId lastN) =
      (haltTighten outcome).append (depthGuard (viewOf chainId lastN)) := by
  have streak : cleanLoosen outcome (viewOf chainId lastN) = {} := by
    rw [cleanLoosen, if_neg (by simp [viewOf, loosenMinStreak])]
  have cost : costAcceleration outcome (viewOf chainId lastN) = {} := by
    have low : eps.lt (.finite 0) = false := by decide +kernel
    rw [costAcceleration, if_neg (by simp [viewOf, low])]
  have loop : loopDetection (viewOf chainId lastN) = {} := by
    have low : loopThreshold.le (.finite 0) = false := by decide +kernel
    rw [loopDetection, if_neg (by simp [viewOf, low])]
  have latency : latencyAnomaly outcome (viewOf chainId lastN) "unknown" = {} := rfl
  simp [findings, streak, cost, loop, latency, Finding.append]

theorem historyAnalyze_congr (intent intent' : StepIntent) {outcome outcome' : StepOutcome}
    {chainId chainId' : String} {lastN lastN' : List StepOutcome}
    (status : outcome.status = outcome'.status) (depth : lastN.length = lastN'.length) :
    historyAnalyze intent outcome (viewOf chainId lastN) =
      historyAnalyze intent' outcome' (viewOf chainId' lastN') := by
  have same : findings "unknown" outcome (viewOf chainId lastN) =
      findings "unknown" outcome' (viewOf chainId' lastN') := by
    rw [findings_memory, findings_memory, haltTighten, haltTighten, status, depthGuard, depthGuard,
      viewOf, viewOf, depth]
  rw [historyAnalyze, historyAnalyze, same]

end VeronicaHistory
