import Veronica.Simulation
import Veronica.Validation

/- What POST /simulate allows: the longest prefix of the steps that the ceilings have room for. -/
namespace VeronicaSimulatedPrefix
open VeronicaDistribution VeronicaPolicyUpdates VeronicaPolicyParsing VeronicaSimulation
  VeronicaValidation

/-- `x <= ceiling`, or there is no ceiling. -/
def Within (x : ℚ) : PyVal → Prop
  | .none => True
  | .int n => x ≤ n
  | .float (.finite q) => x ≤ q
  | _ => False

def IntOrNone : PyVal → Prop
  | .none | .int _ => True
  | _ => False

/-- The three ceilings have room for these steps, their costs added up one after the other. -/
structure Admissible (r : Arithmetic) (policy : PolicyConfig) (steps : List SimulationStep) :
    Prop where
  cost : Within (costOf r steps) policy.ceilingUsd
  count : Within steps.length policy.ceilingSteps
  tokens : Within (tokensOf steps) policy.ceilingTokensOut

/-- The response allows the first `n` steps, and one more would be too much. -/
structure LongestPrefix (r : Arithmetic) (policy : PolicyConfig) (steps : List SimulationStep)
    (response : SimulateResponse) (n : Nat) : Prop where
  inside : n ≤ steps.length
  admissible : Admissible r policy (steps.take n)
  maximal : n < steps.length → ¬ Admissible r policy (steps.take (n + 1))
  allowed : ∀ j : Nat,
    (response.stepResults[j]?).map SimulationStepResult.decision = some .allow ↔ j < n
  totalCost : response.totalCostUsd = costOf r (steps.take n)
  stepsAllowed : response.stepsAllowed = n
  counted : response.stepsAllowed + response.stepsHalted = steps.length
  total : response.totalSteps = steps.length
  final : response.finalDecision =
    if n = steps.length then .allow else .ofOnExceed policy.onExceed

def responseOf (rt : Runtime) (policy : PolicyConfig) (steps : List SimulationStep)
    (tally : Tally) : SimulateResponse where
  policyHash := rt.computePolicyHash policy
  totalSteps := steps.length
  stepsAllowed := tally.stepsAllowed
  stepsHalted := tally.stepsHalted
  totalCostUsd := tally.cumulativeCost
  finalDecision := tally.finalDecision
  stepResults := tally.stepResults
  storeUnchanged := true

/-- What the endpoint answers with a policy it has accepted. -/
def simulateWith (rt : Runtime) (clock : Nat → ℚ) (policy : PolicyConfig)
    (steps : List SimulationStep) (r : Arithmetic := .exact) : Except PyExc SimulateResponse :=
  (simulateSteps clock policy 0 {} steps r).map (responseOf rt policy steps)

theorem simulate_accepted {numerals : Numerals} {d : PolicyDistributor} {now : ℚ}
    {body : SimulateRequest} {policy : PolicyConfig}
    (parsed : buildPolicy numerals now body.policy = .ok policy) (accepted : d.Accepts policy)
    (rt : Runtime) (clock : Nat → ℚ) (r : Arithmetic) : simulate numerals rt d clock now body r =
      (simulateWith rt clock policy body.steps r).mapError ParseError.python := by
  have validated : d.validate policy = .ok () := accepted
  unfold simulate simulateWith
  rw [parsed]
  dsimp only
  rw [validated]
  dsimp only
  cases simulateSteps clock policy 0 {} body.steps r <;> rfl

/-- How many steps are allowed. -/
def allowedCount (r : Arithmetic) (clock : Nat → ℚ) (policy : PolicyConfig)
    (steps : List SimulationStep) : Nat :=
  Prefixes.passedCount (refused r clock policy) [] steps

theorem simulateWith_ok {policy : PolicyConfig} (judgeable : Judgeable policy) (rt : Runtime)
    (r : Arithmetic) (clock : Nat → ℚ) (steps : List SimulationStep) :
    ∃ tally, simulateWith rt clock policy steps r = .ok (responseOf rt policy steps tally) ∧
      Tallied r clock policy [] steps {} tally (allowedCount r clock policy steps) := by
  obtain ⟨done, run, tallied⟩ := simulateSteps_tallied judgeable r clock [] steps {} rfl rfl rfl
  have run' : simulateSteps clock policy 0 {} steps r = .ok done := run
  refine ⟨done, ?_, tallied⟩
  rw [simulateWith, run']
  rfl

theorem allowed_iff {r : Arithmetic} {clock : Nat → ℚ} {policy : PolicyConfig}
    {steps : List SimulationStep} {tally : Tally} (tallied : Tallied r clock policy [] steps {}
      tally (allowedCount r clock policy steps)) (j : Nat) :
    (tally.stepResults[j]?).map SimulationStepResult.decision = some .allow ↔
      j < allowedCount r clock policy steps := by
  rw [← List.getElem?_map, tallied.decisions]
  simp only [List.map_nil, List.nil_append, List.getElem?_append, List.length_replicate]
  split
  · rename_i before
    simp [before]
  · rename_i past
    refine iff_of_false ?_ past
    split
    · rename_i short
      have fails := Prefixes.fails_at [] steps short
      have last := of_decide_eq_true fails
      simp only [List.nil_append] at last
      cases j - allowedCount r clock policy steps with
      | zero => simpa [allowedCount] using last
      | succ k => simp
    · simp

section Ceilings
variable {r : Arithmetic} {policy : PolicyConfig} {steps : List SimulationStep}

theorem exceeds_iff {ceiling : PyVal} (typed : IntOrNone ceiling) (x : ℚ) :
    exceeds x ceiling = false ↔ Within x ceiling := by
  cases ceiling with
  | none => exact iff_of_true rfl trivial
  | int n => simp [exceeds, Within, PyVal.number?, PyFloat.lt]
  | bool | float | str | list | dict => exact typed.elim

theorem within_zero {ceiling : PyVal} (typed : IntOrNone ceiling)
    (nonneg : ceiling.isNone = true ∨ ceiling.isNegative = .ok false) : Within 0 ceiling := by
  cases ceiling with
  | none => trivial
  | int n =>
    rcases nonneg with none | nonneg
    · cases none
    · have least : ¬ n < 0 := of_decide_eq_false (Except.ok.inj nonneg)
      simpa [Within] using not_lt.mp least
  | bool | float | str | list | dict => exact typed.elim

theorem overBudget_iff {q : ℚ} (ceiling : policy.ceilingUsd = .float (.finite q))
    (stepsTyped : IntOrNone policy.ceilingSteps) (tokensTyped : IntOrNone policy.ceilingTokensOut) :
    overBudget r policy steps = false ↔ Admissible r policy steps := by
  have cost : exceeds (costOf r steps) policy.ceilingUsd = false ↔
      Within (costOf r steps) policy.ceilingUsd := by
    simp [ceiling, exceeds, Within, PyVal.number?, PyFloat.lt]
  rw [overBudget, costExceeded, tokensExceeded, stepsExceeded, Bool.or_eq_false_iff,
    Bool.or_eq_false_iff, cost, exceeds_iff tokensTyped, exceeds_iff stepsTyped]
  constructor
  · intro within
    exact ⟨within.1.1, within.2, within.1.2⟩
  · intro admissible
    exact ⟨⟨admissible.cost, admissible.tokens⟩, admissible.count⟩

end Ceilings

theorem comparable_of_typed {policy : PolicyConfig} {q : ℚ}
    (ceiling : policy.ceilingUsd = .float (.finite q))
    (stepsTyped : IntOrNone policy.ceilingSteps) (tokensTyped : IntOrNone policy.ceilingTokensOut)
    (noDeadline : policy.deadlineTs = .none) (noExpiry : policy.expiresAt = .none) :
    Comparable policy := by
  have number : ∀ value : PyVal, IntOrNone value →
      value.isNone = true ∨ value.number?.isSome = true := by
    intro value typed
    cases value with
    | none => exact Or.inl rfl
    | int n => exact Or.inr rfl
    | bool | float | str | list | dict => exact typed.elim
  exact ⟨by rw [ceiling]; rfl, number _ tokensTyped, number _ stepsTyped, noDeadline, noExpiry⟩

theorem admissible_nil {r : Arithmetic} {d : PolicyDistributor} {policy : PolicyConfig} {q : ℚ}
    (nonneg : 0 ≤ q)
    (ceiling : policy.ceilingUsd = .float (.finite q)) (stepsTyped : IntOrNone policy.ceilingSteps)
    (tokensTyped : IntOrNone policy.ceilingTokensOut) (accepted : d.Accepts policy) :
    Admissible r policy [] := by
  obtain ⟨passes, _⟩ := (accepts_iff d policy).mp accepted
  constructor
  case cost =>
    rw [ceiling]
    exact nonneg
  case count => exact_mod_cast within_zero stepsTyped (passes .ceilingSteps)
  case tokens =>
    exact_mod_cast within_zero tokensTyped ((passes .ceilingTokensOut).imp_right And.right)

/-- A policy that is accepted with int ceilings or none, and without timestamps, allows the
    longest prefix of the steps that its ceilings have room for, in any arithmetic the costs are
    added up in. -/
theorem simulated_longest_prefix {numerals : Numerals} {rt : Runtime} {d : PolicyDistributor}
    {clock : Nat → ℚ} {now : ℚ} {body : SimulateRequest} {policy : PolicyConfig}
    (parsed : buildPolicy numerals now body.policy = .ok policy) (accepted : d.Accepts policy)
    (stepsTyped : IntOrNone policy.ceilingSteps) (tokensTyped : IntOrNone policy.ceilingTokensOut)
    (noDeadline : policy.deadlineTs = .none) (noExpiry : policy.expiresAt = .none)
    (r : Arithmetic) : ∃ response n, simulate numerals rt d clock now body r = .ok response ∧
      LongestPrefix r policy body.steps response n := by
  obtain ⟨q, _, nonneg, ceiling⟩ := (buildPolicy_ok parsed).ceiling
  have comparable := comparable_of_typed ceiling stepsTyped tokensTyped noDeadline noExpiry
  have room : ∀ steps, overBudget r policy steps = false ↔ Admissible r policy steps :=
    fun _ => overBudget_iff ceiling stepsTyped tokensTyped
  obtain ⟨tally, answered, tallied⟩ :=
    simulateWith_ok comparable.judgeable rt r clock body.steps
  refine ⟨responseOf rt policy body.steps tally, allowedCount r clock policy body.steps, ?_, ?_⟩
  · rw [simulate_accepted parsed accepted, answered]
    rfl
  have inside : allowedCount r clock policy body.steps ≤ body.steps.length :=
    Prefixes.passedCount_le [] body.steps
  have same := refused_of_comparable comparable r clock
  have fails : allowedCount r clock policy body.steps < body.steps.length →
      overBudget r policy (body.steps.take (allowedCount r clock policy body.steps + 1)) =
        true := by
    intro short
    rw [← same]
    exact Prefixes.fails_at [] body.steps short
  constructor
  case inside => exact inside
  case admissible =>
    have start : overBudget r policy [] = false := (room []).mpr (admissible_nil nonneg ceiling
      stepsTyped tokensTyped accepted)
    rw [← same] at start
    have passes : refused r clock policy
        (body.steps.take (allowedCount r clock policy body.steps)) = false :=
      Prefixes.passes_counted start
    rw [same] at passes
    exact (room _).mp passes
  case maximal =>
    intro short admissible
    have passes := (room _).mpr admissible
    exact Bool.false_ne_true (passes.symm.trans (fails short))
  case allowed => exact allowed_iff tallied
  case totalCost => exact tallied.cost
  case stepsAllowed => exact tallied.allowed.trans (Nat.zero_add _)
  case counted =>
    have allowed := tallied.allowed
    have halted := tallied.halted
    simp only [responseOf, allowed, halted]
    omega
  case total => rfl
  case final =>
    have final := tallied.final
    simp only [responseOf, final]
    split
    · rename_i short
      rw [if_neg short.ne, judgement_of_comparable comparable, List.nil_append, fails short]
      rfl
    · rename_i whole
      rw [if_pos (le_antisymm inside (not_lt.mp whole))]

section ExactBudget

def dollarStep : SimulationStep where
  kind := .llm
  costUsd := 1
  tokensOut := 10
  elapsedMs := 0
  cost_nonneg := zero_le_one
  tokens_nonneg := by decide

/-- Three steps of a dollar each under a ceiling of two. -/
def dollarScenario : SimulateRequest where
  policy := ((((∅ : Dict String PyVal).set "chain_id" (.str "agent")).set "ceiling_usd"
    (.float (.finite 2))).set "on_exceed" (.str "degrade")).set "ceiling_steps" (.int 5)
  steps := [dollarStep, dollarStep, dollarStep]
  maxLength := by decide

def dollarPolicy : PolicyConfig where
  chainId := "agent"
  ceilingUsd := .float (.finite 2)
  onExceed := .str "degrade"
  issuedAt := .float (.finite 0)
  ceilingSteps := .int 5

theorem exact_budget_allowed : ∃ response n,
    simulate noNumerals plainRuntime lenient (fun _ => 0) 0 dollarScenario .double = .ok response ∧
      LongestPrefix .double dollarPolicy dollarScenario.steps response n := by
  have parsed : buildPolicy noNumerals 0 dollarScenario.policy = .ok dollarPolicy := rfl
  have accepted : lenient.Accepts dollarPolicy := rfl
  exact simulated_longest_prefix parsed accepted trivial trivial rfl rfl .double

end ExactBudget

section RoundedCosts

def tenthStep : SimulationStep where
  kind := .llm
  costUsd := Doubles.round (1 / 10)
  tokensOut := 0
  elapsedMs := 0
  cost_nonneg := Doubles.round_nonneg (by norm_num)
  tokens_nonneg := by decide

def tenthsPolicy : PolicyConfig where
  chainId := "agent"
  ceilingUsd := .float (.finite 1)
  onExceed := .str "halt"
  issuedAt := .float (.finite 0)

/-- Ten steps of ten cents each under a ceiling of one dollar. -/
def tenthsScenario : SimulateRequest where
  policy := (((∅ : Dict String PyVal).set "chain_id" (.str "agent")).set "ceiling_usd"
    (.float (.finite 1))).set "on_exceed" (.str "halt")
  steps := List.replicate 10 tenthStep
  maxLength := by decide

/-- The double that stands for ten cents is a little more, and the rounded additions lose that:
    all ten steps are allowed, at a cost above the ceiling. -/
theorem ten_tenths_allowed : ∃ response,
    simulate noNumerals plainRuntime lenient (fun _ => 0) 0 tenthsScenario .double =
        .ok response ∧
      response.stepsAllowed = tenthsScenario.steps.length ∧
      ¬ Within (tenthsScenario.steps.map SimulationStep.costUsd).sum tenthsPolicy.ceilingUsd := by
  have parsed : buildPolicy noNumerals 0 tenthsScenario.policy = .ok tenthsPolicy := rfl
  have accepted : lenient.Accepts tenthsPolicy := rfl
  have comparable : Comparable tenthsPolicy :=
    comparable_of_typed (q := 1) rfl trivial trivial rfl rfl
  obtain ⟨tally, answered, tallied⟩ := simulateWith_ok comparable.judgeable plainRuntime .double
    (fun _ => 0) tenthsScenario.steps
  have every : allowedCount .double (fun _ => 0) tenthsPolicy tenthsScenario.steps = 10 := by
    decide +kernel
  refine ⟨_, by rw [simulate_accepted parsed accepted, answered]; rfl, ?_, ?_⟩
  · exact tallied.allowed.trans (by rw [every]; rfl)
  · intro within
    have sum : (tenthsScenario.steps.map SimulationStep.costUsd).sum ≤ 1 := within
    revert sum
    decide +kernel

end RoundedCosts

end VeronicaSimulatedPrefix
