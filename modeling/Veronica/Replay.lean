import Mathlib.Data.Prod.Lex
import Mathlib.Data.String.Basic
import Veronica.Library.KeyedSort
import Veronica.Simulation

/- ReplayEngine: the recorded events of a chain judged again under an override policy. Its loop
   does not stop at a refused step, and it reads the token ceiling as a bound on each step. -/
namespace VeronicaReplay
open VeronicaDistribution VeronicaPolicyParsing VeronicaSimulation

/-- A recorded event, as far as replay reads it. -/
structure StepOutcome where
  stepId : String
  chainId : String
  decision : Decision
  costUsd : PyFloat
  tokens : Int
  timestamp : PyFloat

structure ReplayRequest where
  chainId : String
  fromTimestamp : ℚ
  toTimestamp : ℚ
  overridePolicy : Option (Dict String PyVal) := none
  ordered : fromTimestamp ≤ toTimestamp

structure DecisionDiff where
  stepId : String
  originalDecision : Decision
  replayedDecision : Decision
  changed : Bool

structure ReplayResult where
  chainId : String
  eventCount : Nat
  diffs : List DecisionDiff
  changedCount : Nat
  summary : FString

def maxReplayEvents : Nat := 100000

def replayDecision (event : StepOutcome) (stepIndex : Nat) (cumulativeCost : ℚ)
    (policy : PolicyConfig) : Except PyExc Decision := do
  let projectedCost := cumulativeCost + event.costUsd.finiteOrZero
  let projectedSteps := stepIndex + 1
  let onExceed := Decision.ofOnExceed policy.onExceed
  if ← policy.ceilingUsd.exceededBy projectedCost then
    return onExceed
  if ← exceedsIfSet projectedSteps policy.ceilingSteps then
    return onExceed
  let finite ← (PyVal.int event.tokens).isfinite
  let eventTokens := if finite then event.tokens else 0
  if ← exceedsIfSet eventTokens policy.ceilingTokensOut then
    return onExceed
  return .allow

def replayedDecision (overridePolicy : Option PolicyConfig) (event : StepOutcome)
    (stepIndex : Nat) (cumulativeCost : ℚ) : Except PyExc Decision :=
  match overridePolicy with
  | some policy => replayDecision event stepIndex cumulativeCost policy
  | none => .ok event.decision

def diffOf (event : StepOutcome) (replayed : Decision) : DecisionDiff where
  stepId := event.stepId
  originalDecision := event.decision
  replayedDecision := replayed
  changed := decide (replayed ≠ event.decision)

def replayEvents (overridePolicy : Option PolicyConfig) :
    Nat → ℚ → List StepOutcome → Except PyExc (List DecisionDiff)
  | _, _, [] => .ok []
  | idx, cumulativeCost, event :: rest =>
    match replayedDecision overridePolicy event idx cumulativeCost with
    | .error e => .error e
    | .ok replayed =>
      (replayEvents overridePolicy (idx + 1) (cumulativeCost + event.costUsd.finiteOrZero)
        rest).map fun diffs => diffOf event replayed :: diffs

def inRange (request : ReplayRequest) (event : StepOutcome) : Bool :=
  decide (event.chainId = request.chainId) &&
    (PyFloat.finite request.fromTimestamp).le event.timestamp &&
    event.timestamp.le (.finite request.toTimestamp)

/-- `(e.timestamp, e.step_id)`; a timestamp in range is finite. -/
def sortKey (event : StepOutcome) : ℚ ×ₗ String :=
  toLex (event.timestamp.finiteOrZero, event.stepId)

/-- The earliest events of the chain in the time range, in order. -/
def selectEvents (request : ReplayRequest) (store : List StepOutcome) : List StepOutcome :=
  (KeyedSort.sorted sortKey (store.filter (inRange request))).take maxReplayEvents

def invalidOverride : PyExc := .valueError "Invalid override_policy: validation failed"

/-- `except (ValueError, PolicyValidationError)` -/
def overrideFault : DistributeError → PyExc
  | .policyValidation _ _ | .missingFields _ _ | .python (.valueError _) => invalidOverride
  | .python e => e

def checkOverride (numerals : Numerals) (distributor : PolicyDistributor) (now : ℚ) :
    Option (Dict String PyVal) → Except PyExc (Option PolicyConfig)
  | none => .ok none
  | some override =>
    match buildOverridePolicy numerals now override with
    | .error e => .error (overrideFault (.python e))
    | .ok policy =>
      match distributor.validate policy with
      | .error e => .error (overrideFault e)
      | .ok () => .ok (some policy)

def summaryOf (chainId : String) (overridePolicy : Option PolicyConfig)
    (total changedCount : Nat) : FString :=
  let replayed := "Replayed " ++ toString total ++ " event(s) for chain '" ++ chainId ++ "'. "
  match overridePolicy with
  | some policy =>
    if 0 < changedCount then
      [.inl (replayed ++ toString changedCount ++
        " decision(s) changed under override policy (ceiling_usd="), .inr policy.ceilingUsd,
        .inl ", ceiling_steps=", .inr policy.ceilingSteps, .inl ")."]
    else [.inl (replayed ++ "All decisions unchanged under override policy.")]
  | none => [.inl (replayed ++ "No override policy applied; all decisions match original.")]

def noEvents (chainId : String) : ReplayResult where
  chainId := chainId
  eventCount := 0
  diffs := []
  changedCount := 0
  summary := [.inl ("No events found for chain '" ++ chainId ++ "' in the requested time range.")]

def resultOf (chainId : String) (overridePolicy : Option PolicyConfig)
    (diffs : List DecisionDiff) : ReplayResult :=
  let changedCount := diffs.countP DecisionDiff.changed
  { chainId
    eventCount := diffs.length
    diffs
    changedCount
    summary := summaryOf chainId overridePolicy diffs.length changedCount }

def replay (numerals : Numerals) (distributor : PolicyDistributor) (now : ℚ)
    (store : List StepOutcome) (request : ReplayRequest) : Except PyExc ReplayResult :=
  match checkOverride numerals distributor now request.overridePolicy with
  | .error e => .error e
  | .ok overridePolicy =>
    let events := selectEvents request store
    if events.isEmpty then .ok (noEvents request.chainId)
    else (replayEvents overridePolicy 0 0 events).map (resultOf request.chainId overridePolicy)

/-- What the engine returns under an override policy it has accepted. -/
def replayWith (policy : PolicyConfig) (store : List StepOutcome) (request : ReplayRequest) :
    Except PyExc ReplayResult :=
  let events := selectEvents request store
  if events.isEmpty then .ok (noEvents request.chainId)
  else (replayEvents (some policy) 0 0 events).map (resultOf request.chainId (some policy))

/-- The event records this step. -/
structure Records (event : StepOutcome) (step : SimulationStep) : Prop where
  cost : event.costUsd = .finite step.costUsd
  tokens : event.tokens = step.tokensOut

/-- What replay tests of the steps so far: of the tokens only those of the last one. -/
def lastTokensExceeded (policy : PolicyConfig) (steps : List SimulationStep) : Bool :=
  match steps.getLast? with
  | some step => exceeds step.tokensOut policy.ceilingTokensOut
  | none => false

def replayRefuses (policy : PolicyConfig) (steps : List SimulationStep) : Bool :=
  costExceeded .exact policy steps || stepsExceeded policy steps || lastTokensExceeded policy steps

/-- `float(n)` does not raise. -/
def FitsDouble (n : Int) : Prop := n < PyVal.floatLimit ∧ -PyVal.floatLimit < n

instance (n : Int) : Decidable (FitsDouble n) := inferInstanceAs (Decidable (_ ∧ _))

/-- This cost or this number of events exceeds its ceiling. -/
def outspent (policy : PolicyConfig) (cost : ℚ) (count : Nat) : Bool :=
  exceeds cost policy.ceilingUsd || exceeds count policy.ceilingSteps

def tokensRefused (policy : PolicyConfig) (event : StepOutcome) : Bool :=
  exceeds event.tokens policy.ceilingTokensOut

def tokensTooLarge : PyExc := .overflowError "int too large to convert to float"

theorem outspent_mono {policy : PolicyConfig} {cost cost' : ℚ} {count count' : Nat}
    (cost_le : cost ≤ cost') (count_le : count ≤ count')
    (exceeded : outspent policy cost count = true) : outspent policy cost' count' = true := by
  simp only [outspent, Bool.or_eq_true] at exceeded ⊢
  exact exceeded.imp (exceeds_mono cost_le) (exceeds_mono (by exact_mod_cast count_le))

theorem isfinite_fits {n : Int} (fits : FitsDouble n) : (PyVal.int n).isfinite = .ok true := by
  rw [PyVal.isfinite, if_pos]
  exact fits

theorem isfinite_tooLarge {n : Int} (large : ¬ FitsDouble n) :
    (PyVal.int n).isfinite = .error tokensTooLarge := by
  rw [PyVal.isfinite, if_neg]
  · rfl
  · exact large

theorem tokens_isfinite {n : Int} (nonneg : 0 ≤ n) (fits : n < PyVal.floatLimit) :
    (PyVal.int n).isfinite = .ok true := by
  have limit := PyVal.floatLimit_pos
  exact isfinite_fits ⟨fits, by omega⟩

/-- A replayed event is refused for the cost or the number of the events so far; only then its own
    tokens count, and those must fit into a double. -/
theorem replayDecision_cases {policy : PolicyConfig} (numbers : NumberCeilings policy)
    (event : StepOutcome) (idx : Nat) (cumulativeCost : ℚ) :
    replayDecision event idx cumulativeCost policy =
      if outspent policy (cumulativeCost + event.costUsd.finiteOrZero) (idx + 1) then
        .ok (.ofOnExceed policy.onExceed)
      else if FitsDouble event.tokens then .ok (verdict policy (tokensRefused policy event))
      else .error tokensTooLarge := by
  have cost := exceededBy_number numbers.usd (cumulativeCost + event.costUsd.finiteOrZero)
  have tokens := exceedsIfSet_number numbers.tokens (event.tokens : ℚ)
  have count := exceedsIfSet_number numbers.steps ((idx + 1 : Nat) : ℚ)
  simp only [replayDecision, cost, count, bind, Except.bind, pure, Except.pure]
  by_cases costly : exceeds (cumulativeCost + event.costUsd.finiteOrZero) policy.ceilingUsd = true
  · simp [outspent, costly]
  · by_cases many : exceeds ((idx + 1 : Nat) : ℚ) policy.ceilingSteps = true
    · simp only [outspent, many, costly, Bool.or_true, Bool.false_eq_true, if_false, if_true]
    · rw [Bool.not_eq_true] at costly many
      by_cases fits : FitsDouble event.tokens
      · simp only [costly, many, outspent, isfinite_fits fits, tokens, fits, Bool.or_self,
          Bool.false_eq_true, if_false, if_true, tokensRefused]
        cases exceeds (event.tokens : ℚ) policy.ceilingTokensOut <;> rfl
      · simp only [costly, many, outspent, isfinite_tooLarge fits, fits, Bool.or_self,
          Bool.false_eq_true, if_false]

/-- A replayed step is judged by the cost and number of the steps so far and its own tokens. -/
theorem replayDecision_eq {policy : PolicyConfig} (comparable : Comparable policy)
    (pre : List SimulationStep) {step : SimulationStep} {event : StepOutcome}
    (records : Records event step) (fits : step.tokensOut < PyVal.floatLimit) :
    replayDecision event pre.length (costOf .exact pre) policy =
      .ok (verdict policy (replayRefuses policy (pre ++ [step]))) := by
  have inDouble : FitsDouble event.tokens := by
    have limit := PyVal.floatLimit_pos
    have nonneg := step.tokens_nonneg
    rw [records.tokens]
    exact ⟨fits, by omega⟩
  rw [replayDecision_cases comparable.judgeable.toNumberCeilings, if_pos inDouble]
  simp only [outspent, tokensRefused, records.cost, records.tokens, PyFloat.finiteOrZero_finite,
    replayRefuses, costExceeded, stepsExceeded, lastTokensExceeded, List.getLast?_concat,
    costOf_concat, List.length_append, List.length_singleton]
  cases exceeds (costOf .exact pre + step.costUsd) policy.ceilingUsd <;>
    cases exceeds ((pre.length + 1 : Nat) : ℚ) policy.ceilingSteps <;> simp [verdict]

theorem replayEvents_ok {policy : PolicyConfig} (comparable : Comparable policy)
    (pre : List SimulationStep) {events : List StepOutcome} {rest : List SimulationStep}
    (recorded : List.Forall₂ Records events rest)
    (fits : ∀ step ∈ rest, step.tokensOut < PyVal.floatLimit) :
    ∃ diffs, replayEvents (some policy) pre.length (costOf .exact pre) events = .ok diffs ∧
      diffs.map DecisionDiff.replayedDecision =
        (Prefixes.goesOn (replayRefuses policy) pre rest).map (verdict policy) := by
  induction recorded generalizing pre with
  | nil => exact ⟨[], rfl, rfl⟩
  | @cons event step events rest records _ ih =>
    have judged := replayDecision_eq comparable pre records (fits step List.mem_cons_self)
    have later := ih (pre ++ [step]) fun other member => fits other (List.mem_cons_of_mem _ member)
    rw [List.length_append, List.length_singleton, costOf_concat] at later
    obtain ⟨diffs, replayed, decisions⟩ := later
    refine ⟨diffOf event (verdict policy (replayRefuses policy (pre ++ [step]))) :: diffs, ?_, ?_⟩
    · simp only [replayEvents, replayedDecision, judged, records.cost, PyFloat.finiteOrZero_finite,
        replayed, Except.map]
    · simp [Prefixes.goesOn, decisions, diffOf]

def recordedCost (events : List StepOutcome) : ℚ :=
  (events.map fun event => event.costUsd.finiteOrZero).sum

theorem recordedCost_concat (pre : List StepOutcome) (event : StepOutcome) :
    recordedCost (pre ++ [event]) = recordedCost pre + event.costUsd.finiteOrZero := by
  simp [recordedCost]

/-- The cost or the number of these events exceeds its ceiling. -/
def spentOut (policy : PolicyConfig) (events : List StepOutcome) : Bool :=
  outspent policy (recordedCost events) events.length

/-- The last of these events is refused. -/
def replayRefusal (policy : PolicyConfig) (events : List StepOutcome) : Bool :=
  spentOut policy events || events.getLast?.any (tokensRefused policy)

/-- The tokens of an event fit into a double wherever they count. -/
def TokensFit (policy : PolicyConfig) (pre : List StepOutcome) (events : List StepOutcome) : Prop :=
  ∀ (j : Nat) (event : StepOutcome), events[j]? = some event →
    spentOut policy (pre ++ events.take (j + 1)) = false → FitsDouble event.tokens

theorem tokensFit_cons {policy : PolicyConfig} {pre rest : List StepOutcome} {event : StepOutcome} :
    TokensFit policy pre (event :: rest) ↔
      (spentOut policy (pre ++ [event]) = false → FitsDouble event.tokens) ∧
        TokensFit policy (pre ++ [event]) rest := by
  constructor
  · intro fit
    refine ⟨fun within => fit 0 event rfl within, ?_⟩
    intro j other found within
    refine fit (j + 1) other found ?_
    simpa using within
  · intro fit j other found within
    cases j with
    | zero =>
      cases found
      exact fit.1 within
    | succ j =>
      refine fit.2 j other found ?_
      simpa using within

theorem replayedDecision_eq {policy : PolicyConfig} (numbers : NumberCeilings policy)
    (pre : List StepOutcome) (event : StepOutcome) :
    replayedDecision (some policy) event pre.length (recordedCost pre) =
      if spentOut policy (pre ++ [event]) = false → FitsDouble event.tokens then
        .ok (verdict policy (replayRefusal policy (pre ++ [event])))
      else .error tokensTooLarge := by
  rw [replayedDecision, replayDecision_cases numbers]
  simp only [replayRefusal, List.getLast?_concat, Option.any_some]
  have spent : spentOut policy (pre ++ [event]) =
      outspent policy (recordedCost pre + event.costUsd.finiteOrZero) (pre.length + 1) := by
    rw [spentOut, recordedCost_concat, List.length_append, List.length_singleton]
  rw [spent]
  cases outspent policy (recordedCost pre + event.costUsd.finiteOrZero) (pre.length + 1) with
  | true => simp [verdict]
  | false => simp

/-- Under an override policy the loop judges every event by the events up to it. -/
theorem replayEvents_fit {policy : PolicyConfig} (numbers : NumberCeilings policy)
    (pre : List StepOutcome) {rest : List StepOutcome} (fit : TokensFit policy pre rest) :
    ∃ diffs, replayEvents (some policy) pre.length (recordedCost pre) rest = .ok diffs ∧
      diffs.map DecisionDiff.replayedDecision =
        (Prefixes.goesOn (replayRefusal policy) pre rest).map (verdict policy) := by
  induction rest generalizing pre with
  | nil => exact ⟨[], rfl, rfl⟩
  | cons event rest ih =>
    obtain ⟨here, later⟩ := tokensFit_cons.mp fit
    have next := ih (pre ++ [event]) later
    rw [List.length_append, List.length_singleton, recordedCost_concat] at next
    obtain ⟨diffs, replayed, decisions⟩ := next
    refine ⟨diffOf event (verdict policy (replayRefusal policy (pre ++ [event]))) :: diffs, ?_, ?_⟩
    · rw [replayEvents, replayedDecision_eq numbers, if_pos here]
      dsimp only
      rw [replayed]
      rfl
    · simp [Prefixes.goesOn, decisions, diffOf]

theorem replayEvents_unfit {policy : PolicyConfig} (numbers : NumberCeilings policy)
    (pre : List StepOutcome) {rest : List StepOutcome} (unfit : ¬ TokensFit policy pre rest) :
    replayEvents (some policy) pre.length (recordedCost pre) rest = .error tokensTooLarge := by
  induction rest generalizing pre with
  | nil => exact absurd (fun _ _ found => absurd found (by simp)) unfit
  | cons event rest ih =>
    rw [replayEvents, replayedDecision_eq numbers]
    by_cases here : spentOut policy (pre ++ [event]) = false → FitsDouble event.tokens
    · have later : ¬ TokensFit policy (pre ++ [event]) rest :=
        fun fit => unfit (tokensFit_cons.mpr ⟨here, fit⟩)
      have next := ih (pre ++ [event]) later
      rw [List.length_append, List.length_singleton, recordedCost_concat] at next
      rw [if_pos here]
      dsimp only
      rw [next]
      rfl
    · rw [if_neg here]

theorem replay_accepted {numerals : Numerals} {d : PolicyDistributor} {now : ℚ}
    {override : Dict String PyVal} {policy : PolicyConfig} {request : ReplayRequest}
    (given : request.overridePolicy = some override)
    (built : buildOverridePolicy numerals now override = .ok policy)
    (accepted : d.Accepts policy) (store : List StepOutcome) :
    replay numerals d now store request = replayWith policy store request := by
  have validated : d.validate policy = .ok () := accepted
  have checked : checkOverride numerals d now request.overridePolicy = .ok (some policy) := by
    rw [given, checkOverride, built]
    dsimp only
    rw [validated]
  rw [replay, checked]
  rfl

/-- Events with increasing timestamps are replayed in that order, wherever they are stored. -/
theorem selectEvents_eq {request : ReplayRequest} {store recorded : List StepOutcome}
    (found : (store.filter (inRange request)).Perm recorded)
    (increasing : recorded.Pairwise fun a b => a.timestamp.lt b.timestamp = true)
    (few : recorded.length ≤ maxReplayEvents) : selectEvents request store = recorded := by
  have finite : ∀ event ∈ recorded, ∃ t, event.timestamp = .finite t := by
    intro event member
    have inside := (List.mem_filter.mp (found.mem_iff.mpr member)).2
    simp only [inRange, Bool.and_eq_true] at inside
    cases stamp : event.timestamp with
    | finite t => exact ⟨t, rfl⟩
    | inf => simp [stamp, PyFloat.le] at inside
    | negInf => simp [stamp, PyFloat.le] at inside
    | nan => simp [stamp, PyFloat.le] at inside
  have keys : recorded.Pairwise fun a b => sortKey a < sortKey b := by
    refine increasing.imp_of_mem ?_
    intro a b memberA memberB earlier
    obtain ⟨s, stampA⟩ := finite a memberA
    obtain ⟨t, stampB⟩ := finite b memberB
    have before : a.timestamp.finiteOrZero < b.timestamp.finiteOrZero := by
      simpa [stampA, stampB, PyFloat.lt] using earlier
    exact Prod.Lex.toLex_lt_toLex.mpr (Or.inl before)
  rw [selectEvents, KeyedSort.sorted_of_strict sortKey found keys]
  exact List.take_of_length_le few

end VeronicaReplay
