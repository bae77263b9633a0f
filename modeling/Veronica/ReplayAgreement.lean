import Veronica.Replay
import Veronica.Validation

/- The same steps simulated and replayed under the same policy. Simulation adds the tokens of the
   steps up; replay compares those of each step, so only what the steps use together sets the two
   apart. -/
namespace VeronicaReplayAgreement
open VeronicaDistribution VeronicaPolicyUpdates VeronicaPolicyParsing VeronicaSimulation
  VeronicaReplay VeronicaValidation

/-- Replay allows exactly the steps before the first one simulation does not allow, decides that
    one the same way, and allows everything if simulation does. -/
structure Agrees (response : SimulateResponse) (result : ReplayResult) : Prop where
  whole : result.diffs.length = response.totalSteps
  allowed : ∀ (j : Nat) (diff : DecisionDiff), result.diffs[j]? = some diff →
    (diff.replayedDecision = .allow ↔
      (response.stepResults[j]?).map SimulationStepResult.decision = some .allow)
  refused : ∀ (j : Nat) (judged : SimulationStepResult) (diff : DecisionDiff),
    response.stepResults[j]? = some judged → judged.decision ≠ .allow →
      result.diffs[j]? = some diff → diff.replayedDecision = response.finalDecision
  all : (∀ judged ∈ response.stepResults, judged.decision = .allow) →
    ∀ diff ∈ result.diffs, diff.replayedDecision = .allow

/-- Wherever the tokens so far exceed their ceiling, the step's own tokens do, or the cost or the
    number of the steps so far exceeds its ceiling. -/
def TokensExceededAlone (policy : PolicyConfig) (steps : List SimulationStep) : Prop :=
  ∀ pre step rest, steps = pre ++ step :: rest → tokensExceeded policy (pre ++ [step]) = true →
    exceeds step.tokensOut policy.ceilingTokensOut = true ∨
      costExceeded .exact policy (pre ++ [step]) = true ∨
        stepsExceeded policy (pre ++ [step]) = true

/-- The fields both evaluators read. -/
structure SameCeilings (p q : PolicyConfig) : Prop where
  usd : p.ceilingUsd = q.ceilingUsd
  tokens : p.ceilingTokensOut = q.ceilingTokensOut
  steps : p.ceilingSteps = q.ceilingSteps
  onExceed : p.onExceed = q.onExceed

theorem sameCeilings_of_parsed {numerals : Numerals} {now : ℚ} {body : Dict String PyVal}
    {p q : PolicyConfig} (parsed : Parsed numerals now body p)
    (overrideParsed : OverrideParsed numerals body q) : SameCeilings p q := by
  constructor
  case usd =>
    obtain ⟨x, eq, _, ceiling⟩ := parsed.ceiling
    obtain ⟨y, eq', _, ceiling'⟩ := overrideParsed.ceiling
    rw [eq] at eq'
    cases eq'
    rw [ceiling, ceiling']
  case tokens => rw [parsed.tokens, overrideParsed.tokens.1]
  case steps => rw [parsed.steps, overrideParsed.steps.1]
  case onExceed => rw [parsed.onExceed, overrideParsed.onExceed, getD_of_present parsed.present]

theorem timestamp_absent {numerals : Numerals} {body : Dict String PyVal} {key : String}
    (absent : (getOrNone body key).isNone = true) {value : PyVal}
    (ok : timestamp numerals body key = .ok value) : value = .none := by
  rw [timestamp] at ok
  simp only [absent, if_true] at ok
  cases ok
  rfl

theorem comparable_of_parsed {numerals : Numerals} {now : ℚ} {body : Dict String PyVal}
    {p q : PolicyConfig} (parsed : Parsed numerals now body p)
    (overrideParsed : OverrideParsed numerals body q)
    (noDeadline : (getOrNone body "deadline_ts").isNone = true)
    (noExpiry : (getOrNone body "expires_at").isNone = true) : Comparable p := by
  have same := sameCeilings_of_parsed parsed overrideParsed
  have number : ∀ value : PyVal, (value = .none ∨ ∃ n : Int, value = .int n ∧ 0 ≤ n) →
      value.isNone = true ∨ value.number?.isSome = true := by
    intro value whole
    rcases whole with rfl | ⟨n, rfl, _⟩
    · exact Or.inl rfl
    · exact Or.inr rfl
  constructor
  case usd =>
    obtain ⟨x, _, _, ceiling⟩ := parsed.ceiling
    rw [ceiling]
    rfl
  case tokens =>
    rw [same.tokens]
    exact number _ overrideParsed.tokens.2
  case steps =>
    rw [same.steps]
    exact number _ overrideParsed.steps.2
  case deadline => exact timestamp_absent noDeadline parsed.deadline
  case expiry => exact timestamp_absent noExpiry parsed.expiry

theorem overrideTimeout_passes {numerals : Numerals} {value timeoutMs : PyVal}
    (ok : overrideTimeout numerals value = .ok timeoutMs) :
    Passes timeoutMs .timeoutMs ∧ (timeoutMs.isNone = value.isNone) := by
  unfold overrideTimeout at ok
  split at ok
  · rename_i none
    cases ok
    exact ⟨Or.inl rfl, none.symm⟩
  · rename_i set
    obtain ⟨_, _, ok⟩ := except_bind_ok.mp ok
    obtain ⟨number, finite, ok⟩ := except_bind_ok.mp ok
    obtain ⟨q, _, nonneg, rfl⟩ := finiteNumber_ok finite
    cases ok
    refine ⟨Or.inr ⟨rfl, ?_⟩, ?_⟩
    · exact congrArg Except.ok (decide_eq_false (not_lt.mpr nonneg))
    · rw [Bool.not_eq_true] at set
      rw [set]
      rfl

theorem override_accepted {numerals : Numerals} {now : ℚ} {body : Dict String PyVal}
    {p q : PolicyConfig} (parsed : Parsed numerals now body p)
    (overrideParsed : OverrideParsed numerals body q) {d : PolicyDistributor}
    (accepted : d.Accepts p) : d.Accepts q := by
  have same := sameCeilings_of_parsed parsed overrideParsed
  obtain ⟨timeoutPasses, timeoutNone⟩ := overrideTimeout_passes overrideParsed.timeout
  obtain ⟨passes, given⟩ := (accepts_iff d p).mp accepted
  refine (accepts_iff d q).mpr ⟨?_, ?_⟩
  · intro field
    cases field with
    | ceilingUsd =>
      have usd := passes .ceilingUsd
      rw [PolicyField.get, same.usd] at usd
      exact usd
    | onExceed =>
      have action := passes .onExceed
      rw [PolicyField.get, same.onExceed] at action
      exact action
    | ceilingSteps =>
      have steps := passes .ceilingSteps
      rw [PolicyField.get, same.steps] at steps
      exact steps
    | ceilingTokensOut =>
      have tokens := passes .ceilingTokensOut
      rw [PolicyField.get, same.tokens] at tokens
      exact tokens
    | timeoutMs => exact timeoutPasses
    | priority =>
      obtain ⟨n, _, whole⟩ := overrideParsed.priority
      rw [PolicyField.get, whole]
      rfl
    | issuedAt | fallbackModel | rateWindowSeconds | rateCeilingCalls | deadlineTs | expiresAt
    | plannerVersion => trivial
  · intro strict
    have missing := given strict
    unfold PolicyDistributor.missingStrict at missing ⊢
    rw [← same.steps, ← same.tokens]
    rw [← parsed.timeout] at timeoutNone
    simp only [List.filterMap_cons, timeoutNone] at missing ⊢
    exact missing

theorem comparable_congr {p q : PolicyConfig} (same : SameCeilings p q)
    (comparable : Comparable p) (timeless : q.deadlineTs = .none ∧ q.expiresAt = .none) :
    Comparable q where
  usd := same.usd ▸ comparable.usd
  tokens := same.tokens ▸ comparable.tokens
  steps := same.steps ▸ comparable.steps
  deadline := timeless.1
  expiry := timeless.2

theorem replayRefuses_congr {p q : PolicyConfig} (same : SameCeilings p q) :
    replayRefuses q = replayRefuses p := by
  funext steps
  simp only [replayRefuses, costExceeded, stepsExceeded, lastTokensExceeded, same.usd, same.tokens,
    same.steps]

theorem verdict_congr {p q : PolicyConfig} (same : SameCeilings p q) : verdict q = verdict p := by
  funext refused
  simp only [verdict, same.onExceed]

theorem tokensExceeded_of_last {policy : PolicyConfig} {pre : List SimulationStep}
    {step : SimulationStep} (exceeded : exceeds step.tokensOut policy.ceilingTokensOut = true) :
    tokensExceeded policy (pre ++ [step]) = true := by
  refine exceeds_mono ?_ exceeded
  rw [tokensOf_concat]
  have := tokensOf_nonneg pre
  exact_mod_cast (by omega : step.tokensOut ≤ tokensOf pre + step.tokensOut)

/-- The two tests agree on every prefix exactly when tokens are exceeded by single steps. -/
theorem tests_agree_iff (policy : PolicyConfig) (steps : List SimulationStep) :
    (∀ j < steps.length, replayRefuses policy (steps.take (j + 1)) =
      overBudget .exact policy (steps.take (j + 1))) ↔ TokensExceededAlone policy steps := by
  have here : ∀ pre step,
      replayRefuses policy (pre ++ [step]) = overBudget .exact policy (pre ++ [step]) ↔
      (tokensExceeded policy (pre ++ [step]) = true →
        exceeds step.tokensOut policy.ceilingTokensOut = true ∨
          costExceeded .exact policy (pre ++ [step]) = true ∨
            stepsExceeded policy (pre ++ [step]) = true) := by
    intro pre step
    have own : exceeds step.tokensOut policy.ceilingTokensOut = true →
        tokensExceeded policy (pre ++ [step]) = true := tokensExceeded_of_last
    simp only [replayRefuses, overBudget, lastTokensExceeded, List.getLast?_concat]
    revert own
    cases costExceeded .exact policy (pre ++ [step]) <;>
      cases stepsExceeded policy (pre ++ [step]) <;>
      cases exceeds (step.tokensOut : ℚ) policy.ceilingTokensOut <;>
      cases tokensExceeded policy (pre ++ [step]) <;> simp
  constructor
  · intro agree pre step rest eq
    have inside : pre.length < steps.length := by simp [eq]
    have taken : steps.take (pre.length + 1) = pre ++ [step] := by
      rw [eq, List.take_append]
      simp
    have same := agree pre.length inside
    rw [taken] at same
    exact (here pre step).mp same
  · intro alone j inside
    have taken : steps.take (j + 1) = steps.take j ++ [steps[j]] :=
      List.take_succ_eq_append_getElem inside
    rw [taken]
    refine (here _ _).mpr (alone (steps.take j) steps[j] (steps.drop (j + 1)) ?_)
    rw [← List.drop_eq_getElem_cons inside, List.take_append_drop]

section Verdicts
variable {policy : PolicyConfig} {steps : List SimulationStep} {response : SimulateResponse}
  {result : ReplayResult}
  (simulated : response.stepResults.map SimulationStepResult.decision =
    (Prefixes.stops (overBudget .exact policy) [] steps).map (verdict policy))
  (replayed : result.diffs.map DecisionDiff.replayedDecision =
    (Prefixes.goesOn (replayRefuses policy) [] steps).map (verdict policy))

include replayed in
theorem diffs_length : result.diffs.length = steps.length := by
  have lengths := congrArg List.length replayed
  simpa [Prefixes.goesOn_length] using lengths

include replayed in
theorem replayed_at {j : Nat} {diff : DecisionDiff} (found : result.diffs[j]? = some diff) :
    ∃ refused, (Prefixes.goesOn (replayRefuses policy) [] steps)[j]? = some refused ∧
      diff.replayedDecision = verdict policy refused := by
  have decision := congrArg (fun decisions => decisions[j]?) replayed
  simp only [List.getElem?_map, found, Option.map_some] at decision
  obtain ⟨refused, judged, eq⟩ := Option.map_eq_some_iff.mp decision.symm
  exact ⟨refused, judged, eq.symm⟩

include simulated in
theorem simulated_at {j : Nat} {judged : SimulationStepResult}
    (found : response.stepResults[j]? = some judged) :
    ∃ stopped, (Prefixes.stops (overBudget .exact policy) [] steps)[j]? = some stopped ∧
      judged.decision = verdict policy stopped := by
  have decision := congrArg (fun decisions => decisions[j]?) simulated
  simp only [List.getElem?_map, found, Option.map_some] at decision
  obtain ⟨stopped, stoppedAt, eq⟩ := Option.map_eq_some_iff.mp decision.symm
  exact ⟨stopped, stoppedAt, eq.symm⟩

include simulated in
theorem simulated_allowed_iff (j : Nat) :
    (response.stepResults[j]?).map SimulationStepResult.decision = some .allow ↔
      (Prefixes.stops (overBudget .exact policy) [] steps)[j]? = some false := by
  rw [← List.getElem?_map, simulated, List.getElem?_map, Option.map_eq_some_iff]
  constructor
  · intro found
    obtain ⟨refused, judged, eq⟩ := found
    rw [(verdict_eq_allow_iff policy refused).mp eq] at judged
    exact judged
  · intro judged
    exact ⟨false, judged, rfl⟩

include simulated in
theorem no_refusal_of_allowed
    (every : ∀ judged ∈ response.stepResults, judged.decision = .allow) :
    true ∉ Prefixes.stops (overBudget .exact policy) [] steps := by
  intro refusal
  have among : verdict policy true ∈ response.stepResults.map SimulationStepResult.decision := by
    rw [simulated]
    exact List.mem_map_of_mem refusal
  obtain ⟨judged, member, eq⟩ := List.mem_map.mp among
  have allow := every judged member
  rw [eq, verdict_eq_allow_iff] at allow
  cases allow

/-- The two loops give the same verdicts up to the first refusal of the one that stops. -/
def SameVerdicts (policy : PolicyConfig) (steps : List SimulationStep) : Prop :=
  ∀ (j : Nat) (refused : Bool),
    (Prefixes.goesOn (replayRefuses policy) [] steps)[j]? = some refused →
      (refused = false ↔ (Prefixes.stops (overBudget .exact policy) [] steps)[j]? = some false)

theorem sameVerdicts_iff (policy : PolicyConfig) (steps : List SimulationStep) :
    SameVerdicts policy steps ↔ TokensExceededAlone policy steps := by
  rw [← tests_agree_iff, ← Prefixes.agree_iff (overBudget_upClosed .exact policy)]
  rfl

include simulated replayed

theorem sameVerdicts_of_agrees (agrees : Agrees response result) : SameVerdicts policy steps := by
  intro j refused judged
  have inside : j < result.diffs.length := by
    have decision := congrArg (fun decisions => decisions[j]?) replayed
    simp only [List.getElem?_map, judged, Option.map_some] at decision
    obtain ⟨diff, found, _⟩ := Option.map_eq_some_iff.mp decision
    exact (List.getElem?_eq_some_iff.mp found).1
  have found := List.getElem?_eq_getElem inside
  obtain ⟨refused', judged', eq⟩ := replayed_at replayed found
  rw [judged] at judged'
  cases judged'
  rw [← simulated_allowed_iff simulated, ← agrees.allowed j _ found, eq, verdict_eq_allow_iff]

theorem allowed_of_same (same : SameVerdicts policy steps) {j : Nat} {diff : DecisionDiff}
    (found : result.diffs[j]? = some diff) : diff.replayedDecision = .allow ↔
      (response.stepResults[j]?).map SimulationStepResult.decision = some .allow := by
  obtain ⟨refused, judged, eq⟩ := replayed_at replayed found
  rw [simulated_allowed_iff simulated, ← same j refused judged, eq, verdict_eq_allow_iff]

theorem refused_of_same (same : SameVerdicts policy steps)
    (final : response.finalDecision =
      verdict policy ((Prefixes.stops (overBudget .exact policy) [] steps).contains true))
    {j : Nat} {judged : SimulationStepResult} {diff : DecisionDiff}
    (found : response.stepResults[j]? = some judged) (notAllowed : judged.decision ≠ .allow)
    (foundDiff : result.diffs[j]? = some diff) :
    diff.replayedDecision = response.finalDecision := by
  obtain ⟨refused, replayedAt, eq⟩ := replayed_at replayed foundDiff
  obtain ⟨stopped, stoppedAt, stoppedEq⟩ := simulated_at simulated found
  have isTrue : stopped = true := by
    by_contra isFalse
    rw [Bool.not_eq_true] at isFalse
    exact notAllowed (stoppedEq.trans ((verdict_eq_allow_iff policy stopped).mpr isFalse))
  rw [isTrue] at stoppedAt
  have goes : refused = true := by
    by_contra isFalse
    rw [Bool.not_eq_true] at isFalse
    have passes := (same j refused replayedAt).mp isFalse
    rw [stoppedAt] at passes
    cases passes
  have contains : (Prefixes.stops (overBudget .exact policy) [] steps).contains true = true := by
    rw [List.contains_iff_mem]
    exact List.mem_of_getElem? stoppedAt
  rw [eq, goes, final, contains]

/-- Two lists of verdicts, one from each loop, and what the endpoints report of them. -/
theorem agrees_iff (total : response.totalSteps = steps.length)
    (final : response.finalDecision =
      verdict policy ((Prefixes.stops (overBudget .exact policy) [] steps).contains true)) :
    Agrees response result ↔ TokensExceededAlone policy steps := by
  have length := diffs_length replayed
  rw [← sameVerdicts_iff]
  constructor
  · exact sameVerdicts_of_agrees simulated replayed
  · intro same
    constructor
    case whole => rw [length, total]
    case allowed =>
      intro j diff found
      exact allowed_of_same simulated replayed same found
    case refused =>
      intro j judged diff found notAllowed foundDiff
      exact refused_of_same simulated replayed same final found notAllowed foundDiff
    case all =>
      intro every diff member
      obtain ⟨j, inside, at_⟩ := List.mem_iff_getElem.mp member
      have found : result.diffs[j]? = some diff := List.getElem?_eq_some_iff.mpr ⟨inside, at_⟩
      have closed := overBudget_upClosed .exact policy
      refine (allowed_of_same simulated replayed same found).mpr
        ((simulated_allowed_iff simulated j).mpr ?_)
      refine (Prefixes.stops_allowed_iff closed [] steps j).mpr ⟨length ▸ inside, ?_⟩
      exact Prefixes.passes_of_no_refusal (no_refusal_of_allowed simulated every)
        (length ▸ inside)

end Verdicts

theorem simulate_ok {numerals : Numerals} {rt : Runtime} {d : PolicyDistributor}
    {clock : Nat → ℚ} {now : ℚ} {body : SimulateRequest} {response : SimulateResponse}
    (ok : simulate numerals rt d clock now body = .ok response) :
    ∃ p tally, buildPolicy numerals now body.policy = .ok p ∧ d.Accepts p ∧
      simulateSteps clock p 0 {} body.steps = .ok tally ∧
      response.totalSteps = body.steps.length ∧ response.finalDecision = tally.finalDecision ∧
      response.stepResults = tally.stepResults := by
  unfold simulate at ok
  cases built : buildPolicy numerals now body.policy with
  | error e =>
    rw [built] at ok
    cases ok
  | ok p =>
    rw [built] at ok
    dsimp only at ok
    cases validated : d.validate p with
    | error e =>
      rw [validated] at ok
      cases ok
    | ok u =>
      rw [validated] at ok
      dsimp only at ok
      cases run : simulateSteps clock p 0 {} body.steps with
      | error e =>
        rw [run] at ok
        cases ok
      | ok tally =>
        rw [run] at ok
        cases ok
        exact ⟨p, tally, rfl, validated, run, rfl, rfl, rfl⟩

/-- Replaying the recorded steps succeeds and gives the verdicts of the loop that goes on. -/
theorem replay_ok {numerals : Numerals} {d : PolicyDistributor} {now : ℚ}
    {store recorded : List StepOutcome} {request : ReplayRequest} {override : Dict String PyVal}
    {policy : PolicyConfig} {steps : List SimulationStep}
    (overridden : request.overridePolicy = some override)
    (parsed : buildOverridePolicy numerals now override = .ok policy) (accepted : d.Accepts policy)
    (comparable : Comparable policy) (found : (store.filter (inRange request)).Perm recorded)
    (increasing : recorded.Pairwise fun a b => a.timestamp.lt b.timestamp = true)
    (records : List.Forall₂ Records recorded steps) (few : steps.length ≤ maxReplayEvents)
    (fits : ∀ step ∈ steps, step.tokensOut < PyVal.floatLimit) :
    ∃ result, replay numerals d now store request = .ok result ∧
      result.diffs.map DecisionDiff.replayedDecision =
        (Prefixes.goesOn (replayRefuses policy) [] steps).map (verdict policy) := by
  have selected := selectEvents_eq found increasing (records.length_eq ▸ few)
  have validated : d.validate policy = .ok () := accepted
  have checked : checkOverride numerals d now request.overridePolicy = .ok (some policy) := by
    rw [overridden, checkOverride, parsed]
    dsimp only
    rw [validated]
  unfold replay
  rw [checked]
  dsimp only
  rw [selected]
  split
  · rename_i none
    rw [List.isEmpty_iff] at none
    rw [none] at records
    cases records
    exact ⟨_, rfl, rfl⟩
  · obtain ⟨diffs, run, decisions⟩ := replayEvents_ok comparable [] records fits
    refine ⟨resultOf request.chainId (some policy) diffs, ?_, decisions⟩
    have run' : replayEvents (some policy) 0 0 recorded = .ok diffs := run
    rw [run']
    rfl

theorem tokensExceededAlone_congr {p q : PolicyConfig} (same : SameCeilings p q)
    (steps : List SimulationStep) : TokensExceededAlone q steps ↔ TokensExceededAlone p steps := by
  simp only [TokensExceededAlone, tokensExceeded, costExceeded, stepsExceeded, same.usd,
    same.tokens, same.steps]

/-- Whatever body is simulated can be replayed, and one policy decides in both loops. -/
theorem both_judge {numerals : Numerals} {rt : Runtime} {d : PolicyDistributor}
    {clock : Nat → ℚ} {now replayNow : ℚ} {body : SimulateRequest} {response : SimulateResponse}
    {store recorded : List StepOutcome} {request : ReplayRequest} {policy : PolicyConfig}
    (simulated : simulate numerals rt d clock now body = .ok response)
    (overridden : request.overridePolicy = some body.policy)
    (parsed : buildOverridePolicy numerals replayNow body.policy = .ok policy)
    (noDeadline : (getOrNone body.policy "deadline_ts").isNone = true)
    (noExpiry : (getOrNone body.policy "expires_at").isNone = true)
    (found : (store.filter (inRange request)).Perm recorded)
    (increasing : recorded.Pairwise fun a b => a.timestamp.lt b.timestamp = true)
    (records : List.Forall₂ Records recorded body.steps)
    (fits : ∀ step ∈ body.steps, step.tokensOut < PyVal.floatLimit) :
    ∃ result p, replay numerals d replayNow store request = .ok result ∧ SameCeilings p policy ∧
      response.totalSteps = body.steps.length ∧
      response.stepResults.map SimulationStepResult.decision =
        (Prefixes.stops (overBudget .exact p) [] body.steps).map (verdict p) ∧
      response.finalDecision =
        verdict p ((Prefixes.stops (overBudget .exact p) [] body.steps).contains true) ∧
      result.diffs.map DecisionDiff.replayedDecision =
        (Prefixes.goesOn (replayRefuses p) [] body.steps).map (verdict p) := by
  obtain ⟨p, tally, built, accepted, run, total, final, results⟩ := simulate_ok simulated
  have parsedBody := buildPolicy_ok built
  have parsedOverride := buildOverridePolicy_ok parsed
  have same := sameCeilings_of_parsed parsedBody parsedOverride
  have comparable := comparable_of_parsed parsedBody parsedOverride noDeadline noExpiry
  obtain ⟨done, run', decisions, finalDone⟩ :=
    simulateSteps_ok comparable clock [] body.steps {} rfl rfl rfl
  have sameRun : done = tally := Except.ok.inj (run'.symm.trans run)
  rw [sameRun] at decisions finalDone
  obtain ⟨result, replayed, replayedDecisions⟩ := replay_ok overridden parsed
    (override_accepted parsedBody parsedOverride accepted)
    (comparable_congr same comparable parsedOverride.timeless) found increasing records
    (body.maxLength.trans (by decide)) fits
  rw [replayRefuses_congr same, verdict_congr same] at replayedDecisions
  exact ⟨result, p, replayed, same, total, by simpa [results] using decisions,
    final.trans finalDone, replayedDecisions⟩

/-- Recorded steps replayed under the policy they were simulated with agree with the simulation
    exactly when the token ceiling is exceeded only by steps whose own tokens exceed it, or where
    the cost or the number of steps exceeds its ceiling too. -/
theorem replay_agrees_iff {numerals : Numerals} {rt : Runtime} {d : PolicyDistributor}
    {clock : Nat → ℚ} {now replayNow : ℚ} {body : SimulateRequest} {response : SimulateResponse}
    {store recorded : List StepOutcome} {request : ReplayRequest} {policy : PolicyConfig}
    (simulated : simulate numerals rt d clock now body = .ok response)
    (overridden : request.overridePolicy = some body.policy)
    (parsed : buildOverridePolicy numerals replayNow body.policy = .ok policy)
    (noDeadline : (getOrNone body.policy "deadline_ts").isNone = true)
    (noExpiry : (getOrNone body.policy "expires_at").isNone = true)
    (found : (store.filter (inRange request)).Perm recorded)
    (increasing : recorded.Pairwise fun a b => a.timestamp.lt b.timestamp = true)
    (records : List.Forall₂ Records recorded body.steps)
    (fits : ∀ step ∈ body.steps, step.tokensOut < PyVal.floatLimit) :
    ∃ result, replay numerals d replayNow store request = .ok result ∧
      (Agrees response result ↔ TokensExceededAlone policy body.steps) := by
  obtain ⟨result, p, replayed, same, total, decisions, final, replayedDecisions⟩ :=
    both_judge simulated overridden parsed noDeadline noExpiry found increasing records fits
  refine ⟨result, replayed, ?_⟩
  rw [tokensExceededAlone_congr same]
  exact agrees_iff decisions replayedDecisions total final

section SharedTokens

def tokenBody : Dict String PyVal :=
  ((((∅ : Dict String PyVal).set "chain_id" (.str "agent")).set "ceiling_usd"
    (.float (.finite 10))).set "on_exceed" (.str "halt")).set "ceiling_tokens_out" (.int 100)

def tokenStep (tokensOut : Int) (nonneg : 0 ≤ tokensOut) : SimulationStep where
  kind := .llm
  costUsd := 1
  tokensOut := tokensOut
  elapsedMs := 0
  cost_nonneg := by norm_num
  tokens_nonneg := nonneg

/-- Two steps of 60 tokens each under a ceiling of 100. -/
def tokenScenario : SimulateRequest where
  policy := tokenBody
  steps := [tokenStep 60 (by decide), tokenStep 60 (by decide)]
  maxLength := by decide

def tokenEvent (stepId : String) (tokens : Int) (timestamp : ℚ) : StepOutcome where
  stepId := stepId
  chainId := "agent"
  decision := .allow
  costUsd := .finite 1
  tokens := tokens
  timestamp := .finite timestamp

def tokenStore : List StepOutcome := [tokenEvent "b" 60 2, tokenEvent "a" 60 1]

def tokenReplay : ReplayRequest where
  chainId := "agent"
  fromTimestamp := 0
  toTimestamp := 10
  overridePolicy := some tokenBody
  ordered := by norm_num

def tokenPolicy : PolicyConfig where
  chainId := "agent"
  ceilingUsd := .float (.finite 10)
  onExceed := .str "halt"
  issuedAt := .float (.finite 0)
  ceilingTokensOut := .int 100

theorem tokenPolicy_comparable : Comparable tokenPolicy :=
  ⟨rfl, Or.inr rfl, Or.inl rfl, rfl, rfl⟩

theorem tokenPolicy_accepted : lenient.Accepts tokenPolicy := by
  refine (accepts_iff_passes rfl tokenPolicy).mpr ?_
  intro field
  have below : (100 : Int) < PyVal.floatLimit := PyVal.lt_floatLimit (by norm_num)
  cases field with
  | ceilingUsd => exact ⟨rfl, rfl⟩
  | ceilingTokensOut => exact Or.inr ⟨tokens_isfinite (by decide) below, rfl⟩
  | ceilingSteps | timeoutMs => exact Or.inl rfl
  | onExceed | priority => rfl
  | issuedAt | fallbackModel | rateWindowSeconds | rateCeilingCalls | deadlineTs | expiresAt
  | plannerVersion => trivial

theorem tokenScenario_simulated : ∃ response,
    simulate noNumerals plainRuntime lenient (fun _ => 0) 0 tokenScenario = .ok response := by
  have parsed : buildPolicy noNumerals 0 tokenScenario.policy = .ok tokenPolicy := rfl
  have validated : lenient.validate tokenPolicy = .ok () := tokenPolicy_accepted
  obtain ⟨done, run, _⟩ := simulateSteps_ok tokenPolicy_comparable (fun _ => 0) []
    tokenScenario.steps {} rfl rfl rfl
  have run' : simulateSteps (fun _ => 0) tokenPolicy 0 {} tokenScenario.steps = .ok done := run
  unfold simulate
  rw [parsed]
  dsimp only
  rw [validated]
  dsimp only
  rw [run']
  exact ⟨_, rfl⟩

theorem tokenScenario_fits : ∀ step ∈ tokenScenario.steps, step.tokensOut < PyVal.floatLimit := by
  have below : (60 : Int) < PyVal.floatLimit := PyVal.lt_floatLimit (by norm_num)
  intro step member
  simp only [tokenScenario, List.mem_cons, List.not_mem_nil, or_false, or_self] at member
  rw [member]
  exact below

theorem tokenStore_found : (tokenStore.filter (inRange tokenReplay)).Perm
    [tokenEvent "a" 60 1, tokenEvent "b" 60 2] := by
  have all : tokenStore.filter (inRange tokenReplay) = tokenStore := by
    apply List.filter_eq_self.mpr
    intro event member
    simp only [tokenStore, List.mem_cons, List.not_mem_nil, or_false] at member
    rcases member with rfl | rfl <;>
      norm_num [inRange, tokenReplay, tokenEvent, PyFloat.le]
  rw [all]
  exact List.Perm.swap _ _ _

theorem tokenStore_increasing : [tokenEvent "a" 60 1, tokenEvent "b" 60 2].Pairwise
    fun a b => a.timestamp.lt b.timestamp = true := by
  norm_num [tokenEvent, PyFloat.lt]

theorem tokenScenario_recorded : List.Forall₂ Records
    [tokenEvent "a" 60 1, tokenEvent "b" 60 2] tokenScenario.steps :=
  .cons ⟨rfl, rfl⟩ (.cons ⟨rfl, rfl⟩ .nil)

theorem tokenScenario_replayed : ∃ response,
    simulate noNumerals plainRuntime lenient (fun _ => 0) 0 tokenScenario = .ok response ∧
      ∃ result, replay noNumerals lenient 0 tokenStore tokenReplay = .ok result ∧
        (Agrees response result ↔ TokensExceededAlone tokenPolicy tokenScenario.steps) := by
  obtain ⟨response, simulated⟩ := tokenScenario_simulated
  exact ⟨response, simulated, replay_agrees_iff simulated rfl rfl rfl rfl tokenStore_found
    tokenStore_increasing tokenScenario_recorded tokenScenario_fits⟩

/-- The second step takes the tokens to 120: simulation halts it, replay allows it. -/
theorem shared_tokens_disagree : ∃ response result,
    simulate noNumerals plainRuntime lenient (fun _ => 0) 0 tokenScenario = .ok response ∧
      replay noNumerals lenient 0 tokenStore tokenReplay = .ok result ∧
        ¬ Agrees response result := by
  obtain ⟨response, simulated⟩ := tokenScenario_simulated
  have parsed : buildOverridePolicy noNumerals 0 tokenScenario.policy = .ok tokenPolicy := rfl
  obtain ⟨result, p, replayed, same, total, decisions, final, replayedDecisions⟩ :=
    both_judge simulated rfl parsed rfl rfl tokenStore_found tokenStore_increasing
      tokenScenario_recorded tokenScenario_fits
  refine ⟨response, result, simulated, replayed, ?_⟩
  rw [agrees_iff decisions replayedDecisions total final, ← tokensExceededAlone_congr same]
  intro alone
  have second := alone [tokenStep 60 (by decide)] (tokenStep 60 (by decide)) [] rfl
  norm_num [tokensExceeded, tokensOf, costExceeded, costOf, stepsExceeded, exceeds, tokenStep,
    tokenPolicy, PyVal.number?, PyFloat.lt] at second

end SharedTokens

end VeronicaReplayAgreement
