import Veronica.Types
import Veronica.Library.Arithmetic
import Veronica.Library.Dict

/- The two planners. Both let a ceiling drift with the analysis and then cut it to a band and
   to what the chain has left. They compute in any arithmetic, in exact numbers unless another
   is given. -/
namespace VeronicaPlanners
open VeronicaTypes

/-- The parameters and the drifting ceiling both planners have. -/
structure CeilingBand where
  baseCeilingUsd : ℚ := 1
  maxCeilingUsd : ℚ := 10
  minCeilingUsd : ℚ := 1 / 10
  defaultTimeoutMs : Int := 30000
  defaultOnExceed : OnExceed := .halt
  fallbackModel : Option String := none

def tightenFactor : ℚ := 9 / 10
def loosenFactor : ℚ := 105 / 100
def defaultTokensOut : Int := 50000

/-- `max(min_, min(max_, ceiling))` -/
def CeilingBand.cut (band : CeilingBand) (ceiling : ℚ) : ℚ :=
  max band.minCeilingUsd (min band.maxCeilingUsd ceiling)

/-- The policy both planners return for the ceiling they settled on. -/
def CeilingBand.desire (band : CeilingBand) (ceiling : ℚ) (onExceed : OnExceed)
    (budget : BudgetState) : DesiredPolicy where
  chainId := ""
  ceilingUsd := ceiling
  ceilingSteps := min defaultSteps budget.windowRemainingSteps
  ceilingTokensOut := defaultTokensOut
  onExceed := onExceed
  fallbackModel := band.fallbackModel
  timeoutMs := band.defaultTimeoutMs
  priority := 50

def recommends (analysis : Option AnalysisResult) (recommendation : Recommendation) : Bool :=
  (analysis.map AnalysisResult.recommendation) = some recommendation

/-- The default parameters, as the arithmetic stores them. -/
def defaultBand (r : Arithmetic) : CeilingBand := { minCeilingUsd := r.fl (1 / 10) }

structure SimplePlanner (r : Arithmetic := .exact) where
  band : CeilingBand := defaultBand r
  effectiveCeiling : ℚ := band.baseCeilingUsd

variable {r : Arithmetic}

def SimplePlanner.drift (p : SimplePlanner r) (analysis : Option AnalysisResult) : ℚ :=
  if recommends analysis .tighten then r.scale p.effectiveCeiling (r.fl tightenFactor)
  else if recommends analysis .loosen then r.scale p.effectiveCeiling (r.fl loosenFactor)
  else p.effectiveCeiling

def SimplePlanner.plan (p : SimplePlanner r) (analysis : Option AnalysisResult)
    (_cost : CostEstimate) (budget : BudgetState) : SimplePlanner r × DesiredPolicy :=
  let onExceed := if recommends analysis .halt then .halt else p.band.defaultOnExceed
  let ceiling := min (p.band.cut (p.drift analysis)) budget.chainRemainingUsd
  ({ p with effectiveCeiling := ceiling }, p.band.desire ceiling onExceed budget)

def haltedFactor : ℚ := 1 / 2
def errorFactor : ℚ := 85 / 100
def timeoutFactor : ℚ := 9 / 10
def adaptiveLoosenFactor : ℚ := 103 / 100
def cooldownSteps : Int := 3
def costHeadroom : ℚ := 3 / 2

structure AdaptivePlanner (r : Arithmetic := .exact) where
  band : CeilingBand := defaultBand r
  effectiveCeiling : ℚ := band.baseCeilingUsd
  cooldowns : Dict String Int := ∅

def severityFactor (severity : Severity) : ℚ :=
  if severity = .critical then haltedFactor else errorFactor

/-- The first `halt_tighten` signal decides; without one, the worst severity does. -/
def adaptiveTightenFactor (analysis : AnalysisResult) : ℚ :=
  match analysis.signals.find? fun s => s.kind = "halt_tighten" with
  | some signal => severityFactor signal.severity
  | none =>
    if analysis.signals = [] then timeoutFactor
    else if analysis.signals.any fun s => s.severity = .critical then haltedFactor
    else errorFactor

/-- The cooldowns are kept under one key for all chains. -/
def chainKey : String := ""

def AdaptivePlanner.cooldownRemaining (p : AdaptivePlanner r) : Int := p.cooldowns.getD chainKey 0

/-- The factor the analysis asks for, unless an earlier adjustment is still cooling down. -/
def AdaptivePlanner.adjustment (p : AdaptivePlanner r) (analysis : Option AnalysisResult) :
    Option ℚ :=
  match analysis with
  | none => none
  | some a =>
    if 0 < p.cooldownRemaining then none
    else match a.recommendation with
      | .tighten => some (adaptiveTightenFactor a)
      | .loosen => some adaptiveLoosenFactor
      | _ => none

/-- The adjusted ceiling, raised to the headroom over the estimated cost. -/
def AdaptivePlanner.drift (p : AdaptivePlanner r) (analysis : Option AnalysisResult)
    (cost : CostEstimate) : ℚ :=
  max (r.scale p.effectiveCeiling (r.fl ((p.adjustment analysis).getD 1)))
    (r.fl (cost.estimatedUsd * costHeadroom))

def AdaptivePlanner.plan (p : AdaptivePlanner r) (analysis : Option AnalysisResult)
    (cost : CostEstimate) (budget : BudgetState) : AdaptivePlanner r × DesiredPolicy :=
  let onExceed := if recommends analysis .halt then .halt else p.band.defaultOnExceed
  let ceiling := min (p.band.cut (p.drift analysis cost)) budget.chainRemainingUsd
  let cooldown :=
    if (p.adjustment analysis).isSome then cooldownSteps else max 0 (p.cooldownRemaining - 1)
  ({ p with effectiveCeiling := ceiling, cooldowns := p.cooldowns.set chainKey cooldown },
    p.band.desire ceiling onExceed budget)

end VeronicaPlanners
