import Veronica.FileStore
import Veronica.HistoryAnalyzer
import Veronica.Planners
import Veronica.Library.Ranks

/- HistoryAnalyzer in front of AdaptivePlanner. The planner reads the class of an error off the
   severity of the first signal, and an error and a timeout have the same one. -/
namespace VeronicaErrorFactors
open VeronicaTypes VeronicaHistory VeronicaPlanners
open VeronicaFileStore (FileOutcome)

/-- `outcome.model or "unknown"` -/
def latencyKey (outcome : FileOutcome) : String :=
  if outcome.model.getD "" = "" then "unknown" else outcome.model.getD ""

/-- The sixth pattern for an outcome that names its model. -/
def latencyAnomalyOf (outcome : FileOutcome) (history : HistoryView) : Finding :=
  latencyAnomaly outcome.toStepOutcome history (latencyKey outcome)

def findingsOf (outcome : FileOutcome) (history : HistoryView) : Finding :=
  findings (latencyKey outcome) outcome.toStepOutcome history

/-- HistoryAnalyzer.analyze of an outcome that names its model. -/
def analyze (_intent : StepIntent) (outcome : FileOutcome) (history : HistoryView) :
    AnalysisResult :=
  compose (findingsOf outcome history)

/-- The factor of an error class in the planner's description of itself. -/
def documentedFactor : StepStatus → ℚ
  | .halted => haltedFactor
  | .error => errorFactor
  | .timeout => timeoutFactor
  | .ok => 1

/-- Neither clamp nor the cost guard changes this ceiling. -/
structure Unclamped (band : CeilingBand) (cost : CostEstimate) (budget : BudgetState)
    (ceiling : ℚ) : Prop where
  headroom : cost.estimatedUsd * costHeadroom ≤ ceiling
  least : band.minCeilingUsd ≤ ceiling
  most : ceiling ≤ band.maxCeilingUsd
  remaining : ceiling ≤ budget.chainRemainingUsd

/-- The call multiplies the ceiling by this factor, in the policy and for the calls to come. -/
structure Multiplies (p : AdaptivePlanner) (analysis : AnalysisResult) (cost : CostEstimate)
    (budget : BudgetState) (factor : ℚ) : Prop where
  policy : (p.plan (some analysis) cost budget).2.ceilingUsd = p.effectiveCeiling * factor
  effective : (p.plan (some analysis) cost budget).1.effectiveCeiling = p.effectiveCeiling * factor

def severityOf (status : StepStatus) : Severity :=
  if status = .halted then .critical else .warning

section Failed
variable {intent : StepIntent} {outcome : FileOutcome} {history : HistoryView}
  (failed : outcome.status ≠ .ok) (depth : history.depth < depthHard)

include failed in
/-- The signal of the status comes first, whatever else the history triggers. -/
theorem signals_head : ∃ (detail : String) (others : List Signal),
    (analyze intent outcome history).signals =
      ⟨"halt_tighten", severityOf outcome.status, detail⟩ :: others := by
  have found : (analyze intent outcome history).signals =
      (haltTighten outcome.toStepOutcome).signals ++ ((cleanLoosen outcome.toStepOutcome
        history).signals ++ ((depthGuard history).signals ++ ((costAcceleration
          outcome.toStepOutcome history).signals ++ ((loopDetection history).signals ++
            (latencyAnomalyOf outcome history).signals)))) := by
    simp [analyze, compose, findingsOf, findings, latencyAnomalyOf, Finding.append]
  rw [found, haltTighten, if_neg failed]
  exact ⟨_, _, rfl⟩

include failed in
theorem tightenFactor_eq : adaptiveTightenFactor (analyze intent outcome history) =
    severityFactor (severityOf outcome.status) := by
  obtain ⟨detail, others, eq⟩ : ∃ (detail : String) (others : List Signal),
      (analyze intent outcome history).signals =
        ⟨"halt_tighten", severityOf outcome.status, detail⟩ :: others := signals_head failed
  rw [adaptiveTightenFactor, eq, List.find?_cons_of_pos (by rfl)]

/-- The findings that follow the one on the status. -/
def furtherFindings (outcome : FileOutcome) (history : HistoryView) : List Finding :=
  [cleanLoosen outcome.toStepOutcome history, depthGuard history,
    costAcceleration outcome.toStepOutcome history, loopDetection history,
    latencyAnomalyOf outcome history]

include failed depth in
/-- Short of the depth limit no pattern recommends anything but to tighten. -/
theorem only_tighten {finding : Finding} (among : finding ∈ furtherFindings outcome history) :
    ∀ r ∈ finding.recommendations, r = .tighten := by
  have single : ∀ r ∈ [Recommendation.tighten], r = .tighten :=
    fun r member => List.mem_singleton.mp member
  have none : ∀ r ∈ ([] : List Recommendation), r = .tighten :=
    fun r member => absurd member List.not_mem_nil
  simp only [furtherFindings, List.mem_cons, List.not_mem_nil, or_false] at among
  rcases among with rfl | rfl | rfl | rfl | rfl
  · rw [cleanLoosen, if_neg fun clean => failed clean.1]
    exact none
  · rw [depthGuard, if_neg (not_le.mpr depth)]
    split
    · exact single
    · exact none
  · unfold costAcceleration
    split
    · exact single
    · exact none
  · unfold loopDetection
    split
    · exact single
    · exact none
  · unfold latencyAnomalyOf latencyAnomaly
    split
    · exact none
    · split
      · exact none
      · exact none

theorem highest_tighten {others : List Recommendation} (only : ∀ r ∈ others, r = .tighten) :
    highest (.tighten :: others) = .tighten := by
  have best : highest (.tighten :: others) = Ranks.best recommendationRank .tighten others := rfl
  rw [best]
  rcases List.mem_cons.mp (Ranks.best_mem recommendationRank .tighten others) with own | among
  · exact own
  · exact only _ among

include failed depth in
theorem recommends_tighten : (analyze intent outcome history).recommendation = .tighten := by
  have found : (findingsOf outcome history).recommendations =
      (haltTighten outcome.toStepOutcome).recommendations ++
        (furtherFindings outcome history).flatMap Finding.recommendations := by
    simp [findingsOf, findings, furtherFindings, latencyAnomalyOf, Finding.append]
  rw [analyze, compose, found, haltTighten, if_neg failed]
  refine highest_tighten ?_
  intro r member
  obtain ⟨finding, among, inside⟩ := List.mem_flatMap.mp member
  exact only_tighten failed depth among r inside

end Failed

/-- The factor the two apply to an error class together. -/
def appliedFactor (status : StepStatus) : ℚ := severityFactor (severityOf status)

theorem applied_eq_documented_iff {status : StepStatus} (failed : status ≠ .ok) :
    appliedFactor status = documentedFactor status ↔ status ≠ .timeout := by
  cases status with
  | ok => exact absurd rfl failed
  | halted => exact iff_of_true rfl (by decide)
  | error => exact iff_of_true rfl (by decide)
  | timeout =>
    refine iff_of_false ?_ fun other => other rfl
    have applied : appliedFactor .timeout = errorFactor := rfl
    rw [applied]
    norm_num [documentedFactor, errorFactor, timeoutFactor]

section Planned
variable {p : AdaptivePlanner} {intent : StepIntent} {outcome : FileOutcome}
  {history : HistoryView} {cost : CostEstimate} {budget : BudgetState}

theorem adjustment_eq (rested : p.cooldownRemaining ≤ 0) (failed : outcome.status ≠ .ok)
    (depth : history.depth < depthHard) : p.adjustment (some (analyze intent outcome history)) =
      some (appliedFactor outcome.status) := by
  simp only [AdaptivePlanner.adjustment, if_neg (not_lt.mpr rested),
    recommends_tighten failed depth, tightenFactor_eq failed, appliedFactor]

theorem plan_unclamped {analysis : AnalysisResult} {factor : ℚ}
    (adjusted : p.adjustment (some analysis) = some factor)
    (unclamped : Unclamped p.band cost budget (p.effectiveCeiling * factor)) :
    (p.plan (some analysis) cost budget).2.ceilingUsd = p.effectiveCeiling * factor ∧
      (p.plan (some analysis) cost budget).1.effectiveCeiling = p.effectiveCeiling * factor := by
  have settled : min (p.band.cut (p.drift (some analysis) cost)) budget.chainRemainingUsd =
      p.effectiveCeiling * factor := by
    rw [AdaptivePlanner.drift, adjusted, Option.getD_some, Arithmetic.exact_fl,
      Arithmetic.exact_fl, Arithmetic.exact_scale, max_eq_left unclamped.headroom,
      CeilingBand.cut, min_eq_right unclamped.most, max_eq_right unclamped.least,
      min_eq_left unclamped.remaining]
  exact ⟨settled, settled⟩

/-- After a failed step, with nothing to clamp the result, the planner multiplies the ceiling by
    the factor of the error class, except that it takes a timeout for an error. -/
theorem error_factor_iff (rested : p.cooldownRemaining ≤ 0) (failed : outcome.status ≠ .ok)
    (depth : history.depth < depthHard)
    (unclamped : Unclamped p.band cost budget (p.effectiveCeiling *
      ((p.adjustment (some (analyze intent outcome history))).getD 1))) :
    Multiplies p (analyze intent outcome history) cost budget (documentedFactor outcome.status) ↔
      outcome.status ≠ .timeout ∨ p.effectiveCeiling = 0 := by
  have adjusted : p.adjustment (some (analyze intent outcome history)) =
      some (appliedFactor outcome.status) := adjustment_eq rested failed depth
  rw [adjusted, Option.getD_some] at unclamped
  obtain ⟨policy, effective⟩ := plan_unclamped adjusted unclamped
  have product : p.effectiveCeiling * appliedFactor outcome.status =
      p.effectiveCeiling * documentedFactor outcome.status ↔
        outcome.status ≠ .timeout ∨ p.effectiveCeiling = 0 := by
    rw [mul_eq_mul_left_iff, applied_eq_documented_iff failed]
  rw [← product]
  constructor
  · intro multiplies
    rw [← policy]
    exact multiplies.policy
  · intro equal
    rw [equal] at policy effective
    exact ⟨policy, effective⟩

end Planned

section Dollar

def anyIntent : StepIntent where
  stepId := "s"
  requestId := "r"
  chainId := "agent"
  kind := .llm
  model := none
  toolName := none
  timeoutMs := 1000

def failedStep (status : StepStatus) : FileOutcome where
  stepId := "s"
  requestId := "r"
  chainId := "agent"
  kind := .llm
  status := status
  costUsd := .finite 0
  tokensIn := 0
  tokensOut := 0
  elapsedMs := .finite 5
  timestampMs := 0

def firstView : HistoryView where
  chainId := "agent"
  lastN := []
  rollingCostUsd := .finite 0
  failureStreak := 0
  depth := 0
  loopScore := .finite 0

def freeEstimate : CostEstimate where
  estimatedUsd := 0
  confidence := 1
  modelUsed := "m"
  basis := .fallback

def hundredLeft : BudgetState where
  requestRemainingUsd := 100
  chainRemainingUsd := 100
  windowRemainingSteps := 100

theorem failed_adjustment {status : StepStatus} (failed : status ≠ .ok) :
    ({} : AdaptivePlanner).adjustment (some (analyze anyIntent (failedStep status) firstView)) =
      some (appliedFactor status) :=
  adjustment_eq (le_refl 0) failed (by decide)

theorem dollar_unclamped :
    Unclamped (defaultBand .exact) freeEstimate hundredLeft (1 * errorFactor) := by
  constructor <;> norm_num [defaultBand, freeEstimate, hundredLeft, errorFactor, costHeadroom]

/-- A timeout cuts the ceiling of a dollar to 85 cents. -/
theorem timeout_cut_as_error : ¬ Multiplies {} (analyze anyIntent (failedStep .timeout) firstView)
    freeEstimate hundredLeft (documentedFactor .timeout) := by
  intro multiplies
  have adjusted := failed_adjustment (show StepStatus.timeout ≠ .ok by decide)
  have taken : appliedFactor .timeout = errorFactor := rfl
  rw [taken] at adjusted
  have cut := (plan_unclamped adjusted dollar_unclamped).1.symm.trans multiplies.policy
  norm_num [defaultBand, errorFactor, documentedFactor, timeoutFactor] at cut

theorem error_cut_as_documented : Multiplies {} (analyze anyIntent (failedStep .error) firstView)
    freeEstimate hundredLeft (documentedFactor .error) := by
  have rested : ({} : AdaptivePlanner).cooldownRemaining ≤ 0 := le_refl 0
  have adjusted := failed_adjustment (show StepStatus.error ≠ .ok by decide)
  refine (error_factor_iff rested (by decide) (by decide) ?_).mpr (Or.inl (by decide))
  rw [adjusted]
  exact dollar_unclamped

end Dollar

end VeronicaErrorFactors
