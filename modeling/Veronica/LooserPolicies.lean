import Veronica.Replay
import Veronica.SimulatedPrefix

/- Two policies that differ only in their ceilings, those of the first at most those of the second.
   Whatever the first allows the second allows, in a simulation and in a replay; but a replay under
   the second may read tokens that a replay under the first has refused unread. -/
namespace VeronicaLooserPolicies
open VeronicaDistribution VeronicaSimulation VeronicaReplay VeronicaSimulatedPrefix

/-- `x <= y`, where None is unlimited. -/
def NoHigher (x y : PyVal) : Prop :=
  (y.isNone = true ∧ (x.isNone = true ∨ x.number?.isSome = true)) ∨
    ∃ low high, x.number? = some low ∧ y.number? = some high ∧ low.le high = true

/-- `q` is `p` with ceilings at least as high. -/
structure Looser (p q : PolicyConfig) : Prop where
  usd : ∃ low high, p.ceilingUsd.number? = some low ∧ q.ceilingUsd.number? = some high ∧
    low.le high = true
  steps : NoHigher p.ceilingSteps q.ceilingSteps
  tokens : NoHigher p.ceilingTokensOut q.ceilingTokensOut
  rest : q = { p with
    ceilingUsd := q.ceilingUsd
    ceilingSteps := q.ceilingSteps
    ceilingTokensOut := q.ceilingTokensOut }

/-- A deadline and an expiry are a number or None. -/
structure TimestampsTyped (policy : PolicyConfig) : Prop where
  deadline : policy.deadlineTs.isNone = true ∨ policy.deadlineTs.number?.isSome = true
  expiry : policy.expiresAt.isNone = true ∨ policy.expiresAt.number?.isSome = true

/-- The second simulation judges each step no later than the first, or time plays no part. -/
def NoLater (policy : PolicyConfig) (clock clock' : Nat → ℚ) : Prop :=
  (policy.deadlineTs.isNone = true ∧ policy.expiresAt.isNone = true) ∨
    ∀ idx, clock' idx ≤ clock idx

/-- Replay allows the `j`-th event it replays. -/
def ReplayAllows (policy : PolicyConfig) (store : List StepOutcome) (request : ReplayRequest)
    (j : Nat) : Prop :=
  ∃ result diff, replayWith policy store request = .ok result ∧
    result.diffs[j]? = some diff ∧ diff.replayedDecision = .allow

/-- The simulation allows exactly the first `n` steps. -/
structure SimulationAllows (rt : Runtime) (clock : Nat → ℚ) (policy : PolicyConfig)
    (steps : List SimulationStep) (n : Nat) : Prop where
  inside : n ≤ steps.length
  allowed : ∃ response, simulateWith rt clock policy steps = .ok response ∧
    response.stepsAllowed = n ∧
      ∀ j : Nat, (response.stepResults[j]?).map SimulationStepResult.decision = some .allow ↔ j < n

/-- What the looser policy has to do for these steps and these stored events. -/
structure NeverForbidsMore (rt : Runtime) (clock clock' : Nat → ℚ) (p q : PolicyConfig)
    (steps : List SimulationStep) (store : List StepOutcome) (request : ReplayRequest) :
    Prop where
  replayed : ∀ j, ReplayAllows p store request j → ReplayAllows q store request j
  simulated : ∃ m n, SimulationAllows rt clock p steps m ∧ SimulationAllows rt clock' q steps n ∧
    m ≤ n
  initial : p.ceilingTokensOut.isNone = true → ∀ i j, i ≤ j → ReplayAllows p store request j →
    ReplayAllows p store request i

/-- The costs are finite and not negative. -/
def CostsCounted (store : List StepOutcome) : Prop :=
  ∀ event ∈ store, ∃ q : ℚ, event.costUsd = .finite q ∧ 0 ≤ q

/-- Every event replayed within the cost and step ceilings is refused for its own tokens. -/
def AllRefused (policy : PolicyConfig) (events : List StepOutcome) : Prop :=
  ∀ (j : Nat) (event : StepOutcome), events[j]? = some event →
    spentOut policy (events.take (j + 1)) = false → tokensRefused policy event = true

section Ceilings
variable {x y : PyVal}

theorem NoHigher.typed (le : NoHigher x y) : (x.isNone = true ∨ x.number?.isSome = true) ∧
    (y.isNone = true ∨ y.number?.isSome = true) := by
  rcases le with ⟨none, typed⟩ | ⟨low, high, eqX, eqY, _⟩
  · exact ⟨typed, Or.inl none⟩
  · exact ⟨Or.inr (by rw [eqX]; rfl), Or.inr (by rw [eqY]; rfl)⟩

theorem exceeds_none (none : y.isNone = true) (q : ℚ) : exceeds q y = false := by
  cases y <;> first | rfl | cases none

theorem exceeds_anti (le : NoHigher x y) {q : ℚ} (exceeded : exceeds q y = true) :
    exceeds q x = true := by
  rcases le with ⟨none, _⟩ | ⟨low, high, eqX, eqY, le⟩
  · rw [exceeds_none none] at exceeded
    cases exceeded
  · simp only [exceeds, eqX, eqY] at exceeded ⊢
    exact PyFloat.lt_of_le_bound le exceeded

end Ceilings

namespace Looser
variable {p q : PolicyConfig}

theorem usdNoHigher (looser : Looser p q) : NoHigher p.ceilingUsd q.ceilingUsd :=
  Or.inr looser.usd

theorem deadline (looser : Looser p q) : q.deadlineTs = p.deadlineTs := by rw [looser.rest]
theorem expiry (looser : Looser p q) : q.expiresAt = p.expiresAt := by rw [looser.rest]

theorem tighterNumbers (looser : Looser p q) : NumberCeilings p := by
  obtain ⟨low, _, eq, _, _⟩ := looser.usd
  exact ⟨by rw [eq]; rfl, looser.tokens.typed.1, looser.steps.typed.1⟩

theorem looserNumbers (looser : Looser p q) : NumberCeilings q := by
  obtain ⟨_, high, _, eq, _⟩ := looser.usd
  exact ⟨by rw [eq]; rfl, looser.tokens.typed.2, looser.steps.typed.2⟩

theorem outspent_anti (looser : Looser p q) {cost : ℚ} {count : Nat}
    (exceeded : outspent q cost count = true) : outspent p cost count = true := by
  simp only [outspent, Bool.or_eq_true] at exceeded ⊢
  exact exceeded.imp (exceeds_anti looser.usdNoHigher) (exceeds_anti looser.steps)

theorem spentOut_anti (looser : Looser p q) {events : List StepOutcome}
    (exceeded : spentOut q events = true) : spentOut p events = true :=
  looser.outspent_anti exceeded

theorem tokensRefused_anti (looser : Looser p q) {event : StepOutcome}
    (refused : tokensRefused q event = true) : tokensRefused p event = true :=
  exceeds_anti looser.tokens refused

theorem overBudget_anti (looser : Looser p q) {steps : List SimulationStep}
    (exceeded : overBudget .exact q steps = true) : overBudget .exact p steps = true := by
  simp only [overBudget, costExceeded, tokensExceeded, stepsExceeded, Bool.or_eq_true]
    at exceeded ⊢
  exact exceeded.imp (Or.imp (exceeds_anti looser.usdNoHigher) (exceeds_anti looser.tokens))
    (exceeds_anti looser.steps)

/-- A step the looser policy refuses, judged no later, the tighter one refuses. -/
theorem refused_anti (looser : Looser p q) {clock clock' : Nat → ℚ}
    (noLater : NoLater p clock clock') (steps : List SimulationStep)
    (refusal : refused .exact clock' q steps = true) : refused .exact clock p steps = true := by
  rw [refused_iff] at refusal ⊢
  refine refusal.imp looser.overBudget_anti ?_
  intro past
  rw [late, looser.deadline, looser.expiry] at past
  rcases noLater with ⟨deadline, expiry⟩ | earlier
  · rw [exceeds_none deadline, exceeds_none expiry] at past
    cases past
  · rw [Bool.or_eq_true] at past
    rw [late, Bool.or_eq_true]
    exact past.imp (exceeds_mono (earlier _)) (exceeds_mono (earlier _))

end Looser

theorem simulationAllows {policy : PolicyConfig} (judgeable : Judgeable policy) (rt : Runtime)
    (clock : Nat → ℚ) (steps : List SimulationStep) :
    SimulationAllows rt clock policy steps (allowedCount .exact clock policy steps) := by
  obtain ⟨tally, answered, tallied⟩ := simulateWith_ok judgeable rt .exact clock steps
  refine ⟨Prefixes.passedCount_le [] steps, _, answered, ?_, allowed_iff tallied⟩
  exact tallied.allowed.trans (Nat.zero_add _)

theorem simulated_mono {p q : PolicyConfig} (looser : Looser p q) (typed : TimestampsTyped p)
    {clock clock' : Nat → ℚ} (noLater : NoLater p clock clock') (rt : Runtime)
    (steps : List SimulationStep) :
    ∃ m n, SimulationAllows rt clock p steps m ∧ SimulationAllows rt clock' q steps n ∧ m ≤ n := by
  have judgeableP : Judgeable p := ⟨looser.tighterNumbers, typed.deadline, typed.expiry⟩
  have judgeableQ : Judgeable q :=
    ⟨looser.looserNumbers, looser.deadline ▸ typed.deadline, looser.expiry ▸ typed.expiry⟩
  exact ⟨_, _, simulationAllows judgeableP rt clock steps,
    simulationAllows judgeableQ rt clock' steps,
    Prefixes.passedCount_mono (looser.refused_anti noLater) [] steps⟩

section Replayed
variable {policy : PolicyConfig} {store : List StepOutcome} {request : ReplayRequest}

theorem replayWith_fit (numbers : NumberCeilings policy)
    (fit : TokensFit policy [] (selectEvents request store)) :
    ∃ result, replayWith policy store request = .ok result ∧
      result.diffs.map DecisionDiff.replayedDecision =
        (Prefixes.goesOn (replayRefusal policy) [] (selectEvents request store)).map
          (verdict policy) := by
  obtain ⟨diffs, replayed, decisions⟩ := replayEvents_fit numbers [] fit
  have run : replayEvents (some policy) 0 0 (selectEvents request store) = .ok diffs := replayed
  unfold replayWith
  dsimp only
  split
  · rename_i none
    rw [List.isEmpty_iff] at none
    exact ⟨_, rfl, by simp [none, noEvents, Prefixes.goesOn]⟩
  · rw [run]
    exact ⟨_, rfl, decisions⟩

theorem replayWith_unfit (numbers : NumberCeilings policy)
    (unfit : ¬ TokensFit policy [] (selectEvents request store)) :
    replayWith policy store request = .error tokensTooLarge := by
  have run : replayEvents (some policy) 0 0 (selectEvents request store) = .error tokensTooLarge :=
    replayEvents_unfit numbers [] unfit
  unfold replayWith
  dsimp only
  rw [if_neg, run]
  · rfl
  · intro none
    rw [List.isEmpty_iff] at none
    rw [none] at run
    cases run

/-- Replay allows the events within the cost and step ceilings whose tokens are not refused, if
    it gets through at all. -/
theorem replayAllows_iff (numbers : NumberCeilings policy) (j : Nat) :
    ReplayAllows policy store request j ↔
      TokensFit policy [] (selectEvents request store) ∧
        ∃ event, (selectEvents request store)[j]? = some event ∧
          spentOut policy ((selectEvents request store).take (j + 1)) = false ∧
            tokensRefused policy event = false := by
  by_cases fit : TokensFit policy [] (selectEvents request store)
  swap
  · refine iff_of_false ?_ fun allowed => fit allowed.1
    rintro ⟨result, diff, answered, _⟩
    rw [replayWith_unfit numbers fit] at answered
    cases answered
  rw [and_iff_right fit]
  obtain ⟨result, answered, decisions⟩ := replayWith_fit numbers fit
  have judged : ReplayAllows policy store request j ↔
      (result.diffs.map DecisionDiff.replayedDecision)[j]? = some .allow := by
    rw [List.getElem?_map]
    constructor
    · rintro ⟨other, diff, answered', found, allowed⟩
      rw [answered] at answered'
      cases answered'
      rw [found, Option.map_some, allowed]
    · intro allowed
      obtain ⟨diff, found, allowed⟩ := Option.map_eq_some_iff.mp allowed
      exact ⟨result, diff, answered, found, allowed⟩
  rw [judged, decisions, List.getElem?_map, Prefixes.goesOn_getElem?, List.nil_append]
  split
  · rename_i inside
    have found := List.getElem?_eq_getElem inside
    have last : ((selectEvents request store).take (j + 1)).getLast? =
        (selectEvents request store)[j]? := by
      rw [List.take_succ_eq_append_getElem inside, List.getLast?_concat, found]
    simp [verdict_eq_allow_iff, replayRefusal, last, found]
  · rename_i outside
    have none := List.getElem?_eq_none (not_lt.mp outside)
    simp [none]

theorem mem_store_of_selected {event : StepOutcome} (member : event ∈ selectEvents request store) :
    event ∈ store := by
  have sorted := List.mem_of_mem_take member
  exact (List.mem_filter.mp (List.mem_mergeSort.mp sorted)).1

theorem recordedCost_mono {events : List StepOutcome}
    (nonneg : ∀ event ∈ events, 0 ≤ event.costUsd.finiteOrZero) {i j : Nat} (le : i ≤ j) :
    recordedCost (events.take i) ≤ recordedCost (events.take j) := by
  have part : (events.take i).Sublist (events.take j) := (List.take_prefix_take_left le).sublist
  refine (part.map fun event => event.costUsd.finiteOrZero).sum_le_sum ?_
  intro cost member
  obtain ⟨event, among, rfl⟩ := List.mem_map.mp member
  exact nonneg event (List.mem_of_mem_take among)

theorem withinBefore {events : List StepOutcome}
    (nonneg : ∀ event ∈ events, 0 ≤ event.costUsd.finiteOrZero) {i j : Nat} (le : i ≤ j)
    (within : spentOut policy (events.take j) = false) :
    spentOut policy (events.take i) = false := by
  by_contra spent
  rw [Bool.not_eq_false] at spent
  have shorter : (events.take i).length ≤ (events.take j).length := by
    simp only [List.length_take]
    omega
  have later : spentOut policy (events.take j) = true :=
    outspent_mono (recordedCost_mono nonneg le) shorter spent
  exact Bool.false_ne_true (within.symm.trans later)

/-- Without a token ceiling, replay allows every event before one that it allows. -/
theorem replay_prefix (numbers : NumberCeilings policy) (costs : CostsCounted store)
    (unlimited : policy.ceilingTokensOut.isNone = true) {i j : Nat} (le : i ≤ j)
    (allowed : ReplayAllows policy store request j) : ReplayAllows policy store request i := by
  obtain ⟨fit, event, found, within, _⟩ := (replayAllows_iff numbers j).mp allowed
  have nonneg : ∀ event ∈ selectEvents request store, 0 ≤ event.costUsd.finiteOrZero := by
    intro other member
    obtain ⟨q, eq, nonneg⟩ := costs other (mem_store_of_selected member)
    rw [eq]
    exact nonneg
  have inside := le.trans_lt (List.getElem?_eq_some_iff.mp found).1
  refine (replayAllows_iff numbers i).mpr ⟨fit, _, List.getElem?_eq_getElem inside, ?_, ?_⟩
  · exact withinBefore nonneg (Nat.succ_le_succ le) within
  · exact exceeds_none unlimited _

end Replayed

/-- What replay allows under the tighter policy it allows under the looser one, unless only the
    looser one has it read tokens that do not fit into a double. -/
theorem replayed_mono_iff {p q : PolicyConfig} (looser : Looser p q) (store : List StepOutcome)
    (request : ReplayRequest) :
    (∀ j, ReplayAllows p store request j → ReplayAllows q store request j) ↔
      ¬ TokensFit p [] (selectEvents request store) ∨ AllRefused p (selectEvents request store) ∨
        TokensFit q [] (selectEvents request store) := by
  constructor
  · intro mono
    by_contra neither
    simp only [not_or, not_not] at neither
    obtain ⟨fitP, someAllowed, unfitQ⟩ := neither
    simp only [AllRefused, not_forall, Bool.not_eq_true] at someAllowed
    obtain ⟨j, event, found, within, allowed⟩ := someAllowed
    have allowedP := (replayAllows_iff looser.tighterNumbers j).mpr
      ⟨fitP, event, found, within, allowed⟩
    exact unfitQ ((replayAllows_iff looser.looserNumbers j).mp (mono j allowedP)).1
  · intro condition j allowedP
    obtain ⟨fitP, event, found, within, allowed⟩ :=
      (replayAllows_iff looser.tighterNumbers j).mp allowedP
    rcases condition with unfitP | refused | fitQ
    · exact absurd fitP unfitP
    · have contrary := refused j event found within
      rw [allowed] at contrary
      cases contrary
    · refine (replayAllows_iff looser.looserNumbers j).mpr ⟨fitQ, event, found, ?_, ?_⟩
      · rw [Bool.eq_false_iff] at within ⊢
        exact fun exceeded => within (looser.spentOut_anti exceeded)
      · rw [Bool.eq_false_iff] at allowed ⊢
        exact fun refused => allowed (looser.tokensRefused_anti refused)

/-- A looser policy never forbids more, unless it has a replay read tokens that do not fit into a
    double, which the tighter one refuses unread. -/
theorem looser_never_forbids_more_iff {p q : PolicyConfig} (looser : Looser p q)
    (typed : TimestampsTyped p) {clock clock' : Nat → ℚ} (noLater : NoLater p clock clock')
    (rt : Runtime) (steps : List SimulationStep) {store : List StepOutcome}
    (costs : CostsCounted store) (request : ReplayRequest) :
    NeverForbidsMore rt clock clock' p q steps store request ↔
      ¬ TokensFit p [] (selectEvents request store) ∨ AllRefused p (selectEvents request store) ∨
        TokensFit q [] (selectEvents request store) := by
  rw [← replayed_mono_iff looser store request]
  constructor
  · exact NeverForbidsMore.replayed
  · intro mono
    exact ⟨mono, simulated_mono looser typed noLater rt steps,
      fun unlimited _ _ le => replay_prefix looser.tighterNumbers costs unlimited le⟩

section Raised

def ceilingOf (ceiling : ℚ) : PolicyConfig where
  chainId := "agent"
  ceilingUsd := .float (.finite ceiling)
  onExceed := .str "halt"
  issuedAt := .float (.finite 0)

theorem ceilingOf_looser {low high : ℚ} (le : low ≤ high) :
    Looser (ceilingOf low) (ceilingOf high) where
  usd := ⟨.finite low, .finite high, rfl, rfl, decide_eq_true le⟩
  steps := Or.inl ⟨rfl, Or.inl rfl⟩
  tokens := Or.inl ⟨rfl, Or.inl rfl⟩
  rest := rfl

def eventAt (timestamp cost : ℚ) (tokens : Int) : StepOutcome where
  stepId := "step"
  chainId := "agent"
  decision := .allow
  costUsd := .finite cost
  tokens := tokens
  timestamp := .finite timestamp

def wholeDay : ReplayRequest where
  chainId := "agent"
  fromTimestamp := 0
  toTimestamp := 86400
  ordered := by norm_num

/-- A free step, and then one for a dollar. -/
def freeThenDollar (tokens : Int) : List StepOutcome := [eventAt 1 0 10, eventAt 2 1 tokens]

theorem freeThenDollar_counted (tokens : Int) : CostsCounted (freeThenDollar tokens) := by
  intro event member
  simp only [freeThenDollar, List.mem_cons, List.not_mem_nil, or_false] at member
  rcases member with rfl | rfl
  · exact ⟨0, rfl, le_refl 0⟩
  · exact ⟨1, rfl, zero_le_one⟩

theorem freeThenDollar_selected (tokens : Int) :
    selectEvents wholeDay (freeThenDollar tokens) = freeThenDollar tokens := by
  have found : (freeThenDollar tokens).filter (inRange wholeDay) = freeThenDollar tokens := rfl
  refine selectEvents_eq (by rw [found]) ?_ ?_
  · simp [freeThenDollar, eventAt, PyFloat.lt]
  · simp [freeThenDollar, maxReplayEvents]

/-- Under a ceiling of nothing the free step is allowed and the second one refused for its cost;
    under one of ten dollars the second step's tokens are read, and the replay raises. -/
theorem looser_replay_raises : Looser (ceilingOf 0) (ceilingOf 10) ∧
    CostsCounted (freeThenDollar PyVal.floatLimit) ∧
    ReplayAllows (ceilingOf 0) (freeThenDollar PyVal.floatLimit) wholeDay 0 ∧
    replayWith (ceilingOf 10) (freeThenDollar PyVal.floatLimit) wholeDay = .error tokensTooLarge ∧
    ¬ NeverForbidsMore plainRuntime (fun _ => 0) (fun _ => 0) (ceilingOf 0) (ceilingOf 10) []
      (freeThenDollar PyVal.floatLimit) wholeDay := by
  have looser : Looser (ceilingOf 0) (ceilingOf 10) := ceilingOf_looser (by norm_num)
  have selected := freeThenDollar_selected PyVal.floatLimit
  have fitP : TokensFit (ceilingOf 0) [] (freeThenDollar PyVal.floatLimit) := by
    refine tokensFit_cons.mpr ⟨fun _ => ?_, tokensFit_cons.mpr ⟨fun within => ?_, ?_⟩⟩
    · have above : (10 : Int) < PyVal.floatLimit := PyVal.lt_floatLimit (by norm_num)
      exact ⟨above, by simp only [eventAt]; omega⟩
    · have spent :
          spentOut (ceilingOf 0) [eventAt 1 0 10, eventAt 2 1 PyVal.floatLimit] = true := by
        simp [spentOut, outspent, exceeds, ceilingOf, recordedCost, eventAt, PyVal.number?,
          PyFloat.lt]
      exact absurd (within.symm.trans spent) Bool.false_ne_true
    · intro j event found
      simp at found
  have unfitQ : ¬ TokensFit (ceilingOf 10) [] (freeThenDollar PyVal.floatLimit) := by
    intro fit
    obtain ⟨below, _⟩ := fit 1 (eventAt 2 1 PyVal.floatLimit) rfl (by
      simp [spentOut, outspent, exceeds, ceilingOf, recordedCost, eventAt, PyVal.number?,
        PyFloat.lt, freeThenDollar])
    exact lt_irrefl _ below
  have allowed : ReplayAllows (ceilingOf 0) (freeThenDollar PyVal.floatLimit) wholeDay 0 := by
    refine (replayAllows_iff looser.tighterNumbers 0).mpr ?_
    rw [selected]
    refine ⟨fitP, eventAt 1 0 10, rfl, ?_, rfl⟩
    simp [spentOut, outspent, exceeds, ceilingOf, recordedCost, eventAt, PyVal.number?,
      PyFloat.lt, freeThenDollar]
  rw [← selected] at unfitQ
  refine ⟨looser, freeThenDollar_counted _, allowed, replayWith_unfit looser.looserNumbers unfitQ,
    ?_⟩
  intro never
  exact unfitQ ((replayAllows_iff looser.looserNumbers 0).mp (never.replayed 0 allowed)).1

/-- With ten tokens each, the two steps may also be replayed under the higher ceiling. -/
theorem ten_tokens_never_forbidden : NeverForbidsMore plainRuntime (fun _ => 0) (fun _ => 0)
    (ceilingOf 0) (ceilingOf 10) [dollarStep] (freeThenDollar 10) wholeDay := by
  refine (looser_never_forbids_more_iff (ceilingOf_looser (by norm_num)) ⟨Or.inl rfl, Or.inl rfl⟩
    (Or.inl ⟨rfl, rfl⟩) plainRuntime [dollarStep] (freeThenDollar_counted 10) wholeDay).mpr
      (Or.inr (Or.inr ?_))
  have above : (10 : Int) < PyVal.floatLimit := PyVal.lt_floatLimit (by norm_num)
  rw [freeThenDollar_selected]
  intro j event found _
  have member := List.mem_of_getElem? found
  have ten : event.tokens = 10 := by
    simp only [freeThenDollar, List.mem_cons, List.not_mem_nil, or_false] at member
    rcases member with rfl | rfl <;> rfl
  exact ⟨by omega, by omega⟩

end Raised

end VeronicaLooserPolicies
