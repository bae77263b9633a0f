import Veronica.Library.Arithmetic
import Veronica.Library.Prefixes
import Veronica.PolicyParsing
import Veronica.Types

/- POST /simulate: the steps of a scenario judged one after another against a policy, up to the
   first that is not allowed. -/
namespace VeronicaSimulation
open VeronicaDistribution VeronicaPolicyParsing

/-- The verdicts of a recorded event; a simulated step gets one of the first four. -/
inductive Decision where
  | allow
  | halt
  | degrade
  | queue
  | retry
  | quarantine
  | unknown
  deriving DecidableEq, Repr

/-- The verdict an `on_exceed` value names. Parsed policies have one of the three named here. -/
def Decision.ofOnExceed : PyVal → Decision
  | .str "halt" => .halt
  | .str "degrade" => .degrade
  | .str "queue" => .queue
  | _ => .unknown

structure SimulationStep where
  kind : VeronicaTypes.StepKind
  costUsd : ℚ
  tokensOut : Int
  elapsedMs : ℚ
  cost_nonneg : 0 ≤ costUsd
  tokens_nonneg : 0 ≤ tokensOut

structure SimulateRequest where
  policy : Dict String PyVal
  steps : List SimulationStep
  maxLength : steps.length ≤ 1000

structure SimulationStepResult where
  stepIndex : Nat
  kind : VeronicaTypes.StepKind
  costUsd : ℚ
  tokensOut : Int
  elapsedMs : ℚ
  cumulativeCostUsd : ℚ
  decision : Decision
  reason : FString

structure SimulateResponse where
  policyHash : String
  totalSteps : Nat
  stepsAllowed : Nat
  stepsHalted : Nat
  totalCostUsd : ℚ
  finalDecision : Decision
  stepResults : List SimulationStepResult
  storeUnchanged : Bool

/-- `ceiling is not None and x > ceiling` -/
def exceedsIfSet (x : ℚ) (ceiling : PyVal) : Except PyExc Bool :=
  if ceiling.isNone then .ok false else ceiling.exceededBy x

/-- Costs are added up in the arithmetic `r`. -/
def evaluateStep (now stepCost : ℚ) (stepTokensOut : Int) (cumulativeCost : ℚ)
    (cumulativeSteps : Nat) (cumulativeTokensOut : Int) (policy : PolicyConfig)
    (r : Arithmetic := .exact) : Except PyExc (Decision × FString) := do
  let projectedCost := r.fl (cumulativeCost + stepCost)
  let projectedTokens := cumulativeTokensOut + stepTokensOut
  let projectedSteps := cumulativeSteps + 1
  let onExceed := Decision.ofOnExceed policy.onExceed
  if ← policy.ceilingUsd.exceededBy projectedCost then
    return (onExceed, [.inl "cost ceiling exceeded: ", .inr (.float (.finite projectedCost)),
      .inl " > ", .inr policy.ceilingUsd])
  if ← exceedsIfSet projectedTokens policy.ceilingTokensOut then
    return (onExceed, [.inl "token ceiling exceeded: ", .inr (.int projectedTokens),
      .inl " > ", .inr policy.ceilingTokensOut])
  if ← exceedsIfSet projectedSteps policy.ceilingSteps then
    return (onExceed, [.inl "step ceiling exceeded: ", .inr (.int projectedSteps),
      .inl " > ", .inr policy.ceilingSteps])
  if ← exceedsIfSet now policy.deadlineTs then
    return (.halt, [.inl "deadline exceeded: ", .inr policy.deadlineTs])
  if ← exceedsIfSet now policy.expiresAt then
    return (.halt, [.inl "policy expired at ", .inr policy.expiresAt])
  return (.allow, [.inl "within budget"])

/-- What the loop of `simulate` has accumulated. -/
structure Tally where
  cumulativeCost : ℚ := 0
  cumulativeTokensOut : Int := 0
  stepsAllowed : Nat := 0
  stepsHalted : Nat := 0
  finalDecision : Decision := .allow
  stepResults : List SimulationStepResult := []

def Tally.record (tally : Tally) (idx : Nat) (step : SimulationStep) (decision : Decision)
    (reason : FString) : Tally :=
  { tally with stepResults := tally.stepResults ++ [{
      stepIndex := idx
      kind := step.kind
      costUsd := step.costUsd
      tokensOut := step.tokensOut
      elapsedMs := step.elapsedMs
      cumulativeCostUsd := tally.cumulativeCost
      decision
      reason }] }

def Tally.allowStep (tally : Tally) (step : SimulationStep) (r : Arithmetic := .exact) : Tally :=
  { tally with
    cumulativeCost := r.fl (tally.cumulativeCost + step.costUsd)
    cumulativeTokensOut := tally.cumulativeTokensOut + step.tokensOut
    stepsAllowed := tally.stepsAllowed + 1
    finalDecision := .allow }

/-- The step that is refused and the steps after it, which are not judged, count as halted. -/
def Tally.refuseStep (tally : Tally) (decision : Decision) (unprocessed : Nat) : Tally :=
  { tally with
    stepsHalted := tally.stepsHalted + 1 + unprocessed
    finalDecision := decision }

/-- `clock` is what `time.time()` gives while each step is judged. -/
def simulateSteps (clock : Nat → ℚ) (policy : PolicyConfig) (idx : Nat) (tally : Tally)
    (steps : List SimulationStep) (r : Arithmetic := .exact) : Except PyExc Tally :=
  match steps with
  | [] => .ok tally
  | step :: rest =>
    match evaluateStep (clock idx) step.costUsd step.tokensOut tally.cumulativeCost idx
        tally.cumulativeTokensOut policy r with
    | .error e => .error e
    | .ok (decision, reason) =>
      if decision = .allow then
        simulateSteps clock policy (idx + 1)
          ((tally.allowStep step r).record idx step decision reason) rest r
      else .ok ((tally.refuseStep decision rest.length).record idx step decision reason)

/-- `except (PolicyValidationError, TypeError, ValueError)` around `validate`. -/
def validationFault : DistributeError → ParseError
  | .python (.overflowError message) => .python (.overflowError message)
  | _ => .http 422 invalidConfiguration

/-- `except Exception` around `_build_policy`, past its own HTTPException. -/
def parseFault : ParseError → ParseError
  | .http statusCode detail => .http statusCode detail
  | .python _ => .http 422 "Invalid simulation request"

def simulate (numerals : Numerals) (rt : Runtime) (distributor : PolicyDistributor)
    (clock : Nat → ℚ) (now : ℚ) (body : SimulateRequest) (r : Arithmetic := .exact) :
    Except ParseError SimulateResponse :=
  match buildPolicy numerals now body.policy with
  | .error e => .error (parseFault e)
  | .ok policy =>
    match distributor.validate policy with
    | .error e => .error (validationFault e)
    | .ok () =>
      match simulateSteps clock policy 0 {} body.steps r with
      | .error e => .error (.python e)
      | .ok tally => .ok {
          policyHash := rt.computePolicyHash policy
          totalSteps := body.steps.length
          stepsAllowed := tally.stepsAllowed
          stepsHalted := tally.stepsHalted
          totalCostUsd := tally.cumulativeCost
          finalDecision := tally.finalDecision
          stepResults := tally.stepResults
          storeUnchanged := true }

/-- What the steps cost, added up one after the other. -/
def costOf (r : Arithmetic) (steps : List SimulationStep) : ℚ :=
  r.total 0 (steps.map SimulationStep.costUsd)

def tokensOf (steps : List SimulationStep) : Int := (steps.map SimulationStep.tokensOut).sum

/-- `x > ceiling`, where no number is exceeded by anything. -/
def exceeds (x : ℚ) (ceiling : PyVal) : Bool :=
  match ceiling.number? with
  | some bound => bound.lt (.finite x)
  | none => false

def costExceeded (r : Arithmetic) (policy : PolicyConfig) (steps : List SimulationStep) : Bool :=
  exceeds (costOf r steps) policy.ceilingUsd

def tokensExceeded (policy : PolicyConfig) (steps : List SimulationStep) : Bool :=
  exceeds (tokensOf steps) policy.ceilingTokensOut

def stepsExceeded (policy : PolicyConfig) (steps : List SimulationStep) : Bool :=
  exceeds steps.length policy.ceilingSteps

/-- Some ceiling is exceeded once these steps have run. -/
def overBudget (r : Arithmetic) (policy : PolicyConfig) (steps : List SimulationStep) : Bool :=
  costExceeded r policy steps || tokensExceeded policy steps || stepsExceeded policy steps

def verdict (policy : PolicyConfig) (refused : Bool) : Decision :=
  if refused then .ofOnExceed policy.onExceed else .allow

/-- The ceilings can be compared with numbers, and no timestamp can end the policy early. -/
structure Comparable (policy : PolicyConfig) : Prop where
  usd : policy.ceilingUsd.number?.isSome = true
  tokens : policy.ceilingTokensOut.isNone = true ∨ policy.ceilingTokensOut.number?.isSome = true
  steps : policy.ceilingSteps.isNone = true ∨ policy.ceilingSteps.number?.isSome = true
  deadline : policy.deadlineTs = .none
  expiry : policy.expiresAt = .none

theorem ofOnExceed_ne_allow (onExceed : PyVal) : Decision.ofOnExceed onExceed ≠ .allow := by
  unfold Decision.ofOnExceed
  split <;> exact fun h => by cases h

theorem verdict_eq_allow_iff (policy : PolicyConfig) (refused : Bool) :
    verdict policy refused = .allow ↔ refused = false := by
  cases refused with
  | false => simp [verdict]
  | true => simpa [verdict] using ofOnExceed_ne_allow policy.onExceed

theorem exceededBy_number {ceiling : PyVal} (number : ceiling.number?.isSome = true) (x : ℚ) :
    ceiling.exceededBy x = .ok (exceeds x ceiling) := by
  obtain ⟨bound, eq⟩ := Option.isSome_iff_exists.mp number
  simp [PyVal.exceededBy, exceeds, eq]

theorem exceedsIfSet_number {ceiling : PyVal}
    (number : ceiling.isNone = true ∨ ceiling.number?.isSome = true) (x : ℚ) :
    exceedsIfSet x ceiling = .ok (exceeds x ceiling) := by
  unfold exceedsIfSet
  split
  · rename_i none
    cases ceiling <;> first | rfl | cases none
  · rename_i set
    exact exceededBy_number (number.resolve_left set) x

theorem exceeds_mono {x y : ℚ} {ceiling : PyVal} (le : x ≤ y)
    (exceeded : exceeds x ceiling = true) :
    exceeds y ceiling = true := by
  unfold exceeds at exceeded ⊢
  cases number : ceiling.number? with
  | none => simp [number] at exceeded
  | some bound =>
    simp only [number] at exceeded
    exact PyFloat.lt_finite_mono le exceeded

section Costs
variable (r : Arithmetic)

theorem costOf_concat (pre : List SimulationStep) (step : SimulationStep) :
    costOf r (pre ++ [step]) = r.fl (costOf r pre + step.costUsd) := by
  rw [costOf, List.map_append, List.map_singleton, r.total_concat, costOf]

theorem costOf_le_concat (pre : List SimulationStep) (step : SimulationStep) :
    costOf r pre ≤ costOf r (pre ++ [step]) := by
  rw [costOf_concat]
  exact r.le_fl (r.total_held r.zero _) (le_add_of_nonneg_right step.cost_nonneg)

end Costs

theorem tokensOf_concat (pre : List SimulationStep) (step : SimulationStep) :
    tokensOf (pre ++ [step]) = tokensOf pre + step.tokensOut := by
  simp [tokensOf]

theorem tokensOf_nonneg (steps : List SimulationStep) : 0 ≤ tokensOf steps := by
  apply List.sum_nonneg
  intro tokens member
  obtain ⟨step, _, rfl⟩ := List.mem_map.mp member
  exact step.tokens_nonneg

theorem costExceeded_upClosed (r : Arithmetic) (policy : PolicyConfig) :
    Prefixes.UpClosed (costExceeded r policy) := by
  intro pre step exceeded
  exact exceeds_mono (costOf_le_concat r pre step) exceeded

theorem stepsExceeded_upClosed (policy : PolicyConfig) :
    Prefixes.UpClosed (stepsExceeded policy) := by
  intro pre step exceeded
  refine exceeds_mono ?_ exceeded
  simp

theorem tokensExceeded_upClosed (policy : PolicyConfig) :
    Prefixes.UpClosed (tokensExceeded policy) := by
  intro pre step exceeded
  refine exceeds_mono ?_ exceeded
  rw [tokensOf_concat]
  have := step.tokens_nonneg
  exact_mod_cast (by omega : tokensOf pre ≤ tokensOf pre + step.tokensOut)

/-- Costs and token counts are not negative, so what has been exceeded stays exceeded. -/
theorem overBudget_upClosed (r : Arithmetic) (policy : PolicyConfig) :
    Prefixes.UpClosed (overBudget r policy) := by
  intro pre step exceeded
  simp only [overBudget, Bool.or_eq_true] at exceeded ⊢
  rcases exceeded with (cost | tokens) | count
  · exact Or.inl (Or.inl (costExceeded_upClosed r policy pre step cost))
  · exact Or.inl (Or.inr (tokensExceeded_upClosed policy pre step tokens))
  · exact Or.inr (stepsExceeded_upClosed policy pre step count)

/-- A timestamp of the policy has passed. -/
def late (policy : PolicyConfig) (now : ℚ) : Bool :=
  exceeds now policy.deadlineTs || exceeds now policy.expiresAt

/-- The decision on the last of these steps. -/
def judgement (r : Arithmetic) (clock : Nat → ℚ) (policy : PolicyConfig)
    (steps : List SimulationStep) : Decision :=
  if overBudget r policy steps then .ofOnExceed policy.onExceed
  else if late policy (clock (steps.length - 1)) then .halt
  else .allow

def refused (r : Arithmetic) (clock : Nat → ℚ) (policy : PolicyConfig)
    (steps : List SimulationStep) : Bool :=
  decide (judgement r clock policy steps ≠ .allow)

/-- The ceilings can be compared with numbers. -/
structure NumberCeilings (policy : PolicyConfig) : Prop where
  usd : policy.ceilingUsd.number?.isSome = true
  tokens : policy.ceilingTokensOut.isNone = true ∨ policy.ceilingTokensOut.number?.isSome = true
  steps : policy.ceilingSteps.isNone = true ∨ policy.ceilingSteps.number?.isSome = true

/-- The timestamps can, too. -/
structure Judgeable (policy : PolicyConfig) : Prop extends NumberCeilings policy where
  deadline : policy.deadlineTs.isNone = true ∨ policy.deadlineTs.number?.isSome = true
  expiry : policy.expiresAt.isNone = true ∨ policy.expiresAt.number?.isSome = true

theorem Comparable.judgeable {policy : PolicyConfig} (comparable : Comparable policy) :
    Judgeable policy where
  usd := comparable.usd
  tokens := comparable.tokens
  steps := comparable.steps
  deadline := Or.inl (comparable.deadline ▸ rfl)
  expiry := Or.inl (comparable.expiry ▸ rfl)

theorem refused_iff (r : Arithmetic) (clock : Nat → ℚ) (policy : PolicyConfig)
    (steps : List SimulationStep) : refused r clock policy steps = true ↔
      overBudget r policy steps = true ∨ late policy (clock (steps.length - 1)) = true := by
  unfold refused judgement
  split
  · rename_i exceeded
    simp [exceeded, ofOnExceed_ne_allow]
  · rename_i within
    split
    · rename_i past
      simp [past]
    · rename_i intime
      simp [within, intime]

theorem judgement_of_passed {r : Arithmetic} {clock : Nat → ℚ} {policy : PolicyConfig}
    {steps : List SimulationStep} (passed : refused r clock policy steps = false) :
    judgement r clock policy steps = .allow := by
  simpa [refused] using passed

/-- One step is judged by what the steps up to it amount to, and by the clock. -/
theorem evaluateStep_eq {policy : PolicyConfig} (judgeable : Judgeable policy) (r : Arithmetic)
    (clock : Nat → ℚ) (pre : List SimulationStep) (step : SimulationStep) :
    ∃ reason, evaluateStep (clock pre.length) step.costUsd step.tokensOut (costOf r pre) pre.length
      (tokensOf pre) policy r = .ok (judgement r clock policy (pre ++ [step]), reason) := by
  have cost := exceededBy_number judgeable.usd (r.fl (costOf r pre + step.costUsd))
  have tokens := exceedsIfSet_number judgeable.tokens
    ((tokensOf pre + step.tokensOut : Int) : ℚ)
  have count := exceedsIfSet_number judgeable.steps ((pre.length + 1 : Nat) : ℚ)
  have deadline := exceedsIfSet_number judgeable.deadline (clock pre.length)
  have expiry := exceedsIfSet_number judgeable.expiry (clock pre.length)
  simp only [evaluateStep, cost, tokens, count, deadline, expiry, judgement, late, overBudget,
    costExceeded, tokensExceeded, stepsExceeded, costOf_concat, tokensOf_concat,
    List.length_append, List.length_singleton, Nat.add_sub_cancel, bind, Except.bind, pure,
    Except.pure]
  cases exceeds (r.fl (costOf r pre + step.costUsd)) policy.ceilingUsd with
  | true => exact ⟨_, rfl⟩
  | false =>
    cases exceeds ((tokensOf pre + step.tokensOut : Int) : ℚ) policy.ceilingTokensOut with
    | true => exact ⟨_, rfl⟩
    | false =>
      cases exceeds ((pre.length + 1 : Nat) : ℚ) policy.ceilingSteps with
      | true => exact ⟨_, rfl⟩
      | false =>
        cases exceeds (clock pre.length) policy.deadlineTs with
        | true => exact ⟨_, rfl⟩
        | false =>
          cases exceeds (clock pre.length) policy.expiresAt with
          | true => exact ⟨_, rfl⟩
          | false => exact ⟨_, rfl⟩

/-- What the loop adds to a tally when it lets the first `n` of the steps pass. -/
structure Tallied (r : Arithmetic) (clock : Nat → ℚ) (policy : PolicyConfig)
    (pre rest : List SimulationStep) (before after : Tally) (n : Nat) : Prop where
  cost : after.cumulativeCost = costOf r (pre ++ rest.take n)
  allowed : after.stepsAllowed = before.stepsAllowed + n
  halted : after.stepsHalted = before.stepsHalted + (rest.length - n)
  decisions : after.stepResults.map SimulationStepResult.decision =
    before.stepResults.map SimulationStepResult.decision ++ List.replicate n .allow ++
      if n < rest.length then [judgement r clock policy (pre ++ rest.take (n + 1))] else []
  final : after.finalDecision =
    if n < rest.length then judgement r clock policy (pre ++ rest.take (n + 1)) else .allow

/-- The loop lets pass what a loop does that stops at the first refused step. -/
theorem simulateSteps_tallied {policy : PolicyConfig} (judgeable : Judgeable policy)
    (r : Arithmetic) (clock : Nat → ℚ) (pre rest : List SimulationStep) (tally : Tally)
    (cost : tally.cumulativeCost = costOf r pre) (tokens : tally.cumulativeTokensOut = tokensOf pre)
    (allowed : tally.finalDecision = .allow) :
    ∃ done, simulateSteps clock policy pre.length tally rest r = .ok done ∧
      Tallied r clock policy pre rest tally done
        (Prefixes.passedCount (refused r clock policy) pre rest) := by
  induction rest generalizing pre tally with
  | nil =>
    refine ⟨tally, rfl, ?_⟩
    constructor <;> simp [Prefixes.passedCount, cost, allowed]
  | cons step rest ih =>
    obtain ⟨reason, judged⟩ := evaluateStep_eq judgeable r clock pre step
    rw [simulateSteps, cost, tokens, judged, Prefixes.passedCount]
    dsimp only
    by_cases refusal : refused r clock policy (pre ++ [step]) = true
    · have decision : judgement r clock policy (pre ++ [step]) ≠ .allow := of_decide_eq_true refusal
      rw [if_neg decision, if_pos refusal]
      refine ⟨_, rfl, ?_⟩
      constructor
      case cost => simp [Tally.record, Tally.refuseStep, cost]
      case allowed => rfl
      case halted =>
        simp only [Tally.record, Tally.refuseStep, List.length_cons]
        omega
      case decisions => simp [Tally.record, Tally.refuseStep]
      case final => simp [Tally.record, Tally.refuseStep]
    · rw [Bool.not_eq_true] at refusal
      have decision := judgement_of_passed refusal
      rw [if_pos decision, if_neg (Bool.eq_false_iff.mp refusal), decision]
      have next := ih (pre ++ [step])
        ((tally.allowStep step r).record pre.length step .allow reason)
        (by simp [Tally.record, Tally.allowStep, cost, costOf_concat])
        (by simp [Tally.record, Tally.allowStep, tokens, tokensOf_concat])
        (by simp [Tally.record, Tally.allowStep])
      rw [List.length_append, List.length_singleton] at next
      obtain ⟨done, run, tallied⟩ := next
      refine ⟨done, run, ?_⟩
      constructor
      case cost => simpa using tallied.cost
      case allowed =>
        rw [tallied.allowed]
        simp only [Tally.record, Tally.allowStep]
        omega
      case halted =>
        rw [tallied.halted]
        simp only [Tally.record, Tally.allowStep, List.length_cons]
        omega
      case decisions =>
        rw [tallied.decisions]
        simp [Tally.record, Tally.allowStep, List.replicate_succ]
      case final =>
        rw [tallied.final]
        simp

theorem not_late_of_comparable {policy : PolicyConfig} (comparable : Comparable policy) (now : ℚ) :
    late policy now = false := by
  rw [late, comparable.deadline, comparable.expiry]
  rfl

theorem refused_of_comparable {policy : PolicyConfig} (comparable : Comparable policy)
    (r : Arithmetic) (clock : Nat → ℚ) : refused r clock policy = overBudget r policy := by
  funext steps
  rw [Bool.eq_iff_iff, refused_iff, not_late_of_comparable comparable]
  simp

theorem judgement_of_comparable {policy : PolicyConfig} (comparable : Comparable policy)
    (r : Arithmetic) (clock : Nat → ℚ) (steps : List SimulationStep) :
    judgement r clock policy steps = verdict policy (overBudget r policy steps) := by
  simp [judgement, verdict, not_late_of_comparable comparable]

/-- The loop gives the verdicts of a loop that stops at the first step over budget. -/
theorem simulateSteps_ok {policy : PolicyConfig} (comparable : Comparable policy)
    (clock : Nat → ℚ) (pre rest : List SimulationStep) (tally : Tally)
    (cost : tally.cumulativeCost = costOf .exact pre)
    (tokens : tally.cumulativeTokensOut = tokensOf pre)
    (allowed : tally.finalDecision = .allow) :
    ∃ done, simulateSteps clock policy pre.length tally rest = .ok done ∧
      done.stepResults.map SimulationStepResult.decision =
        tally.stepResults.map SimulationStepResult.decision ++
          (Prefixes.stops (overBudget .exact policy) pre rest).map (verdict policy) ∧
      done.finalDecision =
        verdict policy ((Prefixes.stops (overBudget .exact policy) pre rest).contains true) := by
  obtain ⟨done, run, tallied⟩ :=
    simulateSteps_tallied comparable.judgeable .exact clock pre rest tally cost tokens allowed
  have last : Prefixes.passedCount (overBudget .exact policy) pre rest < rest.length →
      judgement .exact clock policy
        (pre ++ rest.take (Prefixes.passedCount (overBudget .exact policy) pre rest + 1)) =
          .ofOnExceed policy.onExceed := by
    intro short
    rw [judgement_of_comparable comparable, Prefixes.fails_at pre rest short]
    rfl
  rw [refused_of_comparable comparable] at tallied
  refine ⟨done, run, ?_, ?_⟩
  · rw [tallied.decisions, Prefixes.stops_eq, List.append_assoc]
    split
    · rename_i short
      simp [last short, verdict]
    · simp [verdict]
  · rw [tallied.final]
    split
    · rename_i short
      rw [last short, (Prefixes.contains_true_stops_iff pre rest).mpr short]
      rfl
    · rename_i whole
      rw [Bool.eq_false_iff.mpr fun contains =>
        whole ((Prefixes.contains_true_stops_iff pre rest).mp contains)]
      rfl

end VeronicaSimulation
