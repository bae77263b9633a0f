import Veronica.Library.KeyedSort
import Veronica.Replay
import Veronica.Validation

/- Replay over the same events stored in another order. They are sorted by timestamp and step id;
   among events that have both in common the order of the store decides. -/
namespace VeronicaReplayOrder
open VeronicaDistribution VeronicaPolicyParsing VeronicaSimulation VeronicaReplay
  VeronicaValidation

/-- Whatever order the events of the store are in, a request gets the same result. -/
def OrderIndependent (numerals : Numerals) (d : PolicyDistributor) (now : ℚ)
    (store : List StepOutcome) : Prop :=
  ∀ (store' : List StepOutcome) (request : ReplayRequest), store'.Perm store →
    replay numerals d now store' request = replay numerals d now store request

/-- Events of one chain that replay's sort does not tell apart. -/
structure Tied (e f : StepOutcome) : Prop where
  chain : e.chainId = f.chainId
  stamp : ∃ t : ℚ, e.timestamp = .finite t ∧ f.timestamp = .finite t
  step : e.stepId = f.stepId

/-- The events of the chain at this event's time that are replayed before it. -/
def ahead (store : List StepOutcome) (e : StepOutcome) : List StepOutcome :=
  store.filter fun g =>
    decide (g.chainId = e.chainId) && decide (g.timestamp = e.timestamp) &&
      decide (g.stepId < e.stepId)

/-- The tokens a ceiling is compared with; a number too large for a double raises. -/
def tokensSeen (e : StepOutcome) : WithTop ℕ :=
  if FitsDouble e.tokens then (e.tokens.toNat : WithTop ℕ) else ⊤

/-- No override policy tells these events apart. -/
structure SameWeight (e f : StepOutcome) : Prop where
  cost : e.costUsd.finiteOrZero = f.costUsd.finiteOrZero
  tokens : tokensSeen e = tokensSeen f

/-- The events may change places. What an event costs and uses does not matter behind one whose
    tokens are too large for a double: either replay raises there, or its budget is spent. -/
structure Alike (store : List StepOutcome) (e f : StepOutcome) : Prop where
  decision : e.decision = f.decision
  weight : (∀ g ∈ ahead store e, FitsDouble g.tokens) → SameWeight e f

/-- Tied events that are replayed at all may change places. -/
def TiesAlike (store : List StepOutcome) : Prop :=
  ∀ e ∈ store, ∀ f ∈ store, Tied e f → (ahead store e).length < maxReplayEvents → Alike store e f

/-- The events of a store cost nothing or more, as the ingestor has it. -/
def NonNegative (events : List StepOutcome) : Prop :=
  ∀ e ∈ events, 0 ≤ e.costUsd.finiteOrZero

/-- A result says the same of both events. -/
structure Recorded (e f : StepOutcome) : Prop where
  step : e.stepId = f.stepId
  decision : e.decision = f.decision

/-- Two runs that no policy tells apart: they weigh the same, up to an event whose tokens are too
    large for a double. -/
inductive SameRun : List StepOutcome → List StepOutcome → Prop
  | nil : SameRun [] []
  | cons {e f : StepOutcome} {events events' : List StepOutcome} (recorded : Recorded e f)
      (weight : SameWeight e f) (rest : SameRun events events') :
      SameRun (e :: events) (f :: events')
  | tooLarge {e f : StepOutcome} {events events' : List StepOutcome} (recorded : Recorded e f)
      (weight : SameWeight e f) (large : ¬ FitsDouble e.tokens)
      (rest : List.Forall₂ Recorded events events') : SameRun (e :: events) (f :: events')

theorem SameRun.recorded {events events' : List StepOutcome} (same : SameRun events events') :
    List.Forall₂ Recorded events events' := by
  induction same with
  | nil => exact .nil
  | cons recorded _ _ ih => exact .cons recorded ih
  | tooLarge recorded _ _ rest => exact .cons recorded rest

theorem diffOf_recorded {e f : StepOutcome} (recorded : Recorded e f) (replayed : Decision) :
    diffOf e replayed = diffOf f replayed := by
  rw [diffOf, diffOf, recorded.step, recorded.decision]

theorem diffs_recorded {events events' : List StepOutcome}
    (recorded : List.Forall₂ Recorded events events') (replayed : StepOutcome → Decision)
    (same : ∀ e f, Recorded e f → replayed e = replayed f) :
    events.map (fun e => diffOf e (replayed e)) = events'.map fun e => diffOf e (replayed e) := by
  induction recorded with
  | nil => rfl
  | @cons e f _ _ recorded _ ih =>
    rw [List.map_cons, List.map_cons, ih, same e f recorded, diffOf_recorded recorded]

theorem replayEvents_none (idx : Nat) (cumulativeCost : ℚ) (events : List StepOutcome) :
    replayEvents none idx cumulativeCost events =
      .ok (events.map fun e => diffOf e e.decision) := by
  induction events generalizing idx cumulativeCost with
  | nil => rfl
  | cons e events ih =>
    rw [replayEvents, replayedDecision]
    dsimp only
    rw [ih]
    rfl

/-- The ceilings of an override policy that was built: numbers, and no negative ones. -/
structure Ceilings (policy : PolicyConfig) : Prop extends NumberCeilings policy where
  limit : policy.ceilingTokensOut = .none ∨
    ∃ n : Int, policy.ceilingTokensOut = .int n ∧ 0 ≤ n

theorem ceilings_of_parsed {numerals : Numerals} {override : Dict String PyVal}
    {policy : PolicyConfig} (parsed : OverrideParsed numerals override policy) :
    Ceilings policy := by
  obtain ⟨q, _, _, usd⟩ := parsed.ceiling
  refine ⟨⟨by rw [usd]; rfl, ?_, ?_⟩, parsed.tokens.2⟩
  · rcases parsed.tokens.2 with none | ⟨n, eq, _⟩
    · exact Or.inl (by rw [none]; rfl)
    · exact Or.inr (by rw [eq]; rfl)
  · rcases parsed.steps.2 with none | ⟨n, eq, _⟩
    · exact Or.inl (by rw [none]; rfl)
    · exact Or.inr (by rw [eq]; rfl)

section Policy
variable {policy : PolicyConfig} (ceilings : Ceilings policy)
include ceilings

theorem replayEvents_exhausted {idx : Nat} {cumulativeCost : ℚ} {events : List StepOutcome}
    (exhausted : ∀ cost : ℚ, cumulativeCost ≤ cost → outspent policy cost (idx + 1) = true)
    (nonneg : NonNegative events) : replayEvents (some policy) idx cumulativeCost events =
      .ok (events.map fun e => diffOf e (.ofOnExceed policy.onExceed)) := by
  induction events generalizing idx cumulativeCost with
  | nil => rfl
  | cons e events ih =>
    have more : cumulativeCost ≤ cumulativeCost + e.costUsd.finiteOrZero := by
      have := nonneg e List.mem_cons_self
      linarith
    have later : ∀ cost : ℚ, cumulativeCost + e.costUsd.finiteOrZero ≤ cost →
        outspent policy cost (idx + 1 + 1) = true := by
      intro cost least
      exact outspent_mono le_rfl (Nat.le_succ _) (exhausted cost (more.trans least))
    rw [replayEvents, replayedDecision, replayDecision_cases ceilings.toNumberCeilings,
      if_pos (exhausted _ more)]
    dsimp only
    rw [ih later fun f member => nonneg f (List.mem_cons_of_mem _ member)]
    rfl

theorem tokensRefused_seen {e f : StepOutcome} (seen : tokensSeen e = tokensSeen f)
    (fits : FitsDouble e.tokens) : FitsDouble f.tokens ∧
      tokensRefused policy e = tokensRefused policy f := by
  have fits' : FitsDouble f.tokens := by
    by_contra large
    rw [tokensSeen, tokensSeen, if_pos fits, if_neg large] at seen
    exact WithTop.coe_ne_top seen
  rw [tokensSeen, tokensSeen, if_pos fits, if_pos fits'] at seen
  have same : e.tokens.toNat = f.tokens.toNat := by exact_mod_cast seen
  refine ⟨fits', ?_⟩
  rcases ceilings.limit with none | ⟨n, limit, nonneg⟩
  · simp [tokensRefused, exceeds, none, PyVal.number?]
  · simp only [tokensRefused, exceeds, limit, PyVal.number?, PyFloat.lt, Int.cast_lt]
    congr 1
    rw [eq_iff_iff]
    omega

theorem replayDecision_same {e f : StepOutcome} (weight : SameWeight e f) (idx : Nat)
    (cumulativeCost : ℚ) :
    replayDecision e idx cumulativeCost policy = replayDecision f idx cumulativeCost policy := by
  rw [replayDecision_cases ceilings.toNumberCeilings,
    replayDecision_cases ceilings.toNumberCeilings,
    weight.cost]
  by_cases fits : FitsDouble e.tokens
  · obtain ⟨fits', same⟩ := tokensRefused_seen ceilings weight.tokens fits
    rw [if_pos fits, if_pos fits', same]
  · have large : ¬ FitsDouble f.tokens :=
      fun fits' => fits (tokensRefused_seen ceilings weight.tokens.symm fits').1
    rw [if_neg fits, if_neg large]

theorem replayEvents_sameRun {events events' : List StepOutcome} (same : SameRun events events')
    (nonneg : NonNegative events) (nonneg' : NonNegative events') (idx : Nat) (cumulativeCost : ℚ) :
    replayEvents (some policy) idx cumulativeCost events =
      replayEvents (some policy) idx cumulativeCost events' := by
  induction same generalizing idx cumulativeCost with
  | nil => rfl
  | @cons e f events events' recorded weight _ ih =>
    have later := ih (fun g member => nonneg g (List.mem_cons_of_mem _ member))
      (fun g member => nonneg' g (List.mem_cons_of_mem _ member)) (idx + 1)
      (cumulativeCost + f.costUsd.finiteOrZero)
    rw [replayEvents, replayEvents, replayedDecision, replayedDecision,
      replayDecision_same ceilings weight, weight.cost]
    cases replayDecision f idx cumulativeCost policy with
    | error exc => rfl
    | ok replayed =>
      dsimp only
      rw [later, diffOf_recorded recorded]
  | @tooLarge e f events events' recorded weight large rest =>
    have same := replayDecision_same ceilings weight idx cumulativeCost
    have decided := replayDecision_cases ceilings.toNumberCeilings e idx cumulativeCost
    rw [if_neg large] at decided
    rw [replayEvents, replayEvents, replayedDecision, replayedDecision, ← same, decided,
      ← weight.cost]
    by_cases spent : outspent policy (cumulativeCost + e.costUsd.finiteOrZero) (idx + 1) = true
    · have exhausted : ∀ cost : ℚ, cumulativeCost + e.costUsd.finiteOrZero ≤ cost →
          outspent policy cost (idx + 1 + 1) = true := by
        intro cost least
        exact outspent_mono least (Nat.le_succ _) spent
      rw [if_pos spent]
      dsimp only
      rw [replayEvents_exhausted ceilings exhausted
          fun g member => nonneg g (List.mem_cons_of_mem _ member),
        replayEvents_exhausted ceilings exhausted
          fun g member => nonneg' g (List.mem_cons_of_mem _ member),
        diffOf_recorded recorded, diffs_recorded rest fun _ => .ofOnExceed policy.onExceed]
      intro _ _ _
      rfl
    · rw [if_neg spent]

end Policy

section Sorted
variable {store : List StepOutcome} {request : ReplayRequest}

/-- The events of a request in the order of the sort, before the cap. -/
def sortedEvents (request : ReplayRequest) (store : List StepOutcome) : List StepOutcome :=
  KeyedSort.sorted sortKey (store.filter (inRange request))

theorem selectEvents_take (request : ReplayRequest) (store : List StepOutcome) :
    selectEvents request store = (sortedEvents request store).take maxReplayEvents := rfl

theorem inRange_stamp {e : StepOutcome} (inside : inRange request e = true) :
    e.chainId = request.chainId ∧ ∃ t : ℚ, e.timestamp = .finite t := by
  simp only [inRange, Bool.and_eq_true, decide_eq_true_eq] at inside
  refine ⟨inside.1.1, ?_⟩
  cases stamp : e.timestamp with
  | finite t => exact ⟨t, rfl⟩
  | inf => simp [stamp, PyFloat.le] at inside
  | negInf => simp [stamp, PyFloat.le] at inside
  | nan => simp [stamp, PyFloat.le] at inside

theorem tied_of_key {e f : StepOutcome} (inside : inRange request e = true)
    (inside' : inRange request f = true) (key : sortKey e = sortKey f) : Tied e f := by
  obtain ⟨chain, s, stamp⟩ := inRange_stamp inside
  obtain ⟨chain', t, stamp'⟩ := inRange_stamp inside'
  have pair := Prod.ext_iff.mp (toLex.injective key)
  simp only [stamp, stamp', PyFloat.finiteOrZero_finite] at pair
  exact ⟨chain.trans chain'.symm, ⟨t, by rw [stamp, pair.1], stamp'⟩, pair.2⟩

/-- In the range of a request, what is ahead of an event is sorted before it. -/
theorem ahead_sublist {e : StepOutcome} (inside : inRange request e = true) :
    (ahead store e).Sublist (KeyedSort.ahead sortKey (store.filter (inRange request)) e) := by
  rw [KeyedSort.ahead, List.filter_filter]
  refine List.monotone_filter_right store ?_
  intro g earlier
  simp only [Bool.and_eq_true, decide_eq_true_eq] at earlier ⊢
  obtain ⟨⟨chain, stamp⟩, step⟩ := earlier
  refine ⟨Prod.Lex.toLex_lt_toLex.mpr (Or.inr ⟨?_, step⟩), ?_⟩
  · rw [stamp]
  · rw [← inside, inRange, inRange, chain, stamp]

theorem alike_at (ties : TiesAlike store) {pre rest : List StepOutcome} {e f : StepOutcome}
    (place : sortedEvents request store = pre ++ e :: rest) (room : pre.length < maxReplayEvents)
    (member : e ∈ store.filter (inRange request)) (member' : f ∈ store.filter (inRange request))
    (key : sortKey e = sortKey f) : Alike store e f ∧ ∀ g ∈ ahead store e, g ∈ pre := by
  obtain ⟨stored, inside⟩ := List.mem_filter.mp member
  obtain ⟨stored', inside'⟩ := List.mem_filter.mp member'
  have sub : (ahead store e).Sublist (KeyedSort.ahead sortKey (store.filter (inRange request)) e) :=
    ahead_sublist inside
  have few := (sub.length_le.trans (KeyedSort.ahead_length_le place)).trans_lt room
  refine ⟨ties e stored f stored' (tied_of_key inside inside' key) few, ?_⟩
  intro g earlier
  exact KeyedSort.ahead_before place (sub.subset earlier)

variable {pre rest rest' dropped : List StepOutcome}
  (place : sortedEvents request store = pre ++ (rest ++ dropped))
  (keys : List.Forall₂ (fun e f => sortKey e = sortKey f) rest rest')
  (room : pre.length + rest.length ≤ maxReplayEvents)
  (members : ∀ e ∈ rest, e ∈ store.filter (inRange request))
  (members' : ∀ e ∈ rest', e ∈ store.filter (inRange request))
include place keys room members members'

theorem recorded_of_ties (ties : TiesAlike store) : List.Forall₂ Recorded rest rest' := by
  induction keys generalizing pre with
  | nil => exact .nil
  | @cons e f rest rest' key _ ih =>
    rw [List.length_cons] at room
    have inside := (List.mem_filter.mp (members e List.mem_cons_self)).2
    have inside' := (List.mem_filter.mp (members' f List.mem_cons_self)).2
    have alike := alike_at ties place (by omega) (members e List.mem_cons_self)
      (members' f List.mem_cons_self) key
    refine .cons ⟨(tied_of_key inside inside' key).step, alike.1.decision⟩ ?_
    have place' : sortedEvents request store = (pre ++ [e]) ++ (rest ++ dropped) := by
      rw [place]
      simp
    have room' : (pre ++ [e]).length + rest.length ≤ maxReplayEvents := by
      rw [List.length_append, List.length_singleton]
      omega
    exact ih place' room' (fun g member => members g (List.mem_cons_of_mem _ member))
      fun g member => members' g (List.mem_cons_of_mem _ member)

theorem sameRun_of_ties (ties : TiesAlike store) (fits : ∀ g ∈ pre, FitsDouble g.tokens) :
    SameRun rest rest' := by
  induction keys generalizing pre with
  | nil => exact .nil
  | @cons e f rest rest' key later ih =>
    rw [List.length_cons] at room
    have inside := (List.mem_filter.mp (members e List.mem_cons_self)).2
    have inside' := (List.mem_filter.mp (members' f List.mem_cons_self)).2
    obtain ⟨alike, before⟩ := alike_at ties place (by omega) (members e List.mem_cons_self)
      (members' f List.mem_cons_self) key
    have recorded : Recorded e f := ⟨(tied_of_key inside inside' key).step, alike.decision⟩
    have weight := alike.weight fun g earlier => fits g (before g earlier)
    have place' : sortedEvents request store = (pre ++ [e]) ++ (rest ++ dropped) := by
      rw [place]
      simp
    have room' : (pre ++ [e]).length + rest.length ≤ maxReplayEvents := by
      rw [List.length_append, List.length_singleton]
      omega
    have among : ∀ g ∈ rest, g ∈ store.filter (inRange request) :=
      fun g member => members g (List.mem_cons_of_mem _ member)
    have among' : ∀ g ∈ rest', g ∈ store.filter (inRange request) :=
      fun g member => members' g (List.mem_cons_of_mem _ member)
    by_cases fit : FitsDouble e.tokens
    · refine .cons recorded weight (ih place' room' among among' ?_)
      intro g member
      rcases List.mem_append.mp member with earlier | last
      · exact fits g earlier
      · rw [List.mem_singleton.mp last]
        exact fit
    · exact .tooLarge recorded weight fit (recorded_of_ties place' later room' among among' ties)

end Sorted

section Independent
variable {numerals : Numerals} {d : PolicyDistributor} {now : ℚ} {store : List StepOutcome}
  {request : ReplayRequest}

theorem checked_ceilings {override : Option (Dict String PyVal)} {policy : PolicyConfig}
    (checked : checkOverride numerals d now override = .ok (some policy)) : Ceilings policy := by
  unfold checkOverride at checked
  split at checked
  · cases checked
  · split at checked
    · cases checked
    · rename_i built
      split at checked
      · cases checked
      · cases checked
        exact ceilings_of_parsed (buildOverridePolicy_ok built)

theorem replay_sameRun {store' : List StepOutcome}
    (same : SameRun (selectEvents request store') (selectEvents request store))
    (nonneg : NonNegative (selectEvents request store))
    (nonneg' : NonNegative (selectEvents request store')) :
    replay numerals d now store' request = replay numerals d now store request := by
  have empty : (selectEvents request store').isEmpty = (selectEvents request store).isEmpty := by
    rw [Bool.eq_iff_iff, List.isEmpty_iff_length_eq_zero, List.isEmpty_iff_length_eq_zero,
      same.recorded.length_eq]
  unfold replay
  cases checked : checkOverride numerals d now request.overridePolicy with
  | error e => rfl
  | ok override =>
    dsimp only
    rw [empty]
    cases override with
    | none =>
      rw [replayEvents_none, replayEvents_none, diffs_recorded same.recorded StepOutcome.decision
        fun _ _ recorded => recorded.decision]
    | some policy =>
      rw [replayEvents_sameRun (checked_ceilings checked) same nonneg' nonneg]

theorem nonNegative_selected (nonneg : NonNegative store) :
    NonNegative (selectEvents request store) := by
  intro e member
  have sorted := List.mem_mergeSort.mp (List.mem_of_mem_take member)
  exact nonneg e (List.mem_filter.mp sorted).1

theorem independent_of_ties (nonneg : NonNegative store) (ties : TiesAlike store) :
    OrderIndependent numerals d now store := by
  intro store' request perm
  have found := perm.filter (inRange request)
  have keys := List.forall₂_take maxReplayEvents (KeyedSort.same_keys sortKey found.symm)
  have sorted := KeyedSort.sorted_perm sortKey (store.filter (inRange request))
  have sorted' := (KeyedSort.sorted_perm sortKey (store'.filter (inRange request))).trans found
  have place : sortedEvents request store = [] ++ (selectEvents request store ++
      (sortedEvents request store).drop maxReplayEvents) := (List.take_append_drop _ _).symm
  have same : SameRun (selectEvents request store) (selectEvents request store') := by
    refine sameRun_of_ties place keys ?_ ?_ ?_ ties
      fun g member => absurd member List.not_mem_nil
    · rw [List.length_nil, Nat.zero_add]
      exact List.length_take_le _ _
    · intro e member
      exact sorted.mem_iff.mp (List.mem_of_mem_take member)
    · intro e member
      exact sorted'.mem_iff.mp (List.mem_of_mem_take member)
  have nonneg' : NonNegative store' := fun e member => nonneg e (perm.mem_iff.mp member)
  exact (replay_sameRun same (nonNegative_selected nonneg') (nonNegative_selected nonneg)).symm

end Independent

section Placed
variable {store : List StepOutcome}

/-- The request for the events of a chain at one time. -/
def momentOf (chainId : String) (t : ℚ) (override : Option (Dict String PyVal)) :
    ReplayRequest where
  chainId := chainId
  fromTimestamp := t
  toTimestamp := t
  overridePolicy := override
  ordered := le_rfl

theorem inRange_moment (chainId : String) (t : ℚ) (override : Option (Dict String PyVal))
    (e : StepOutcome) : inRange (momentOf chainId t override) e = true ↔
      e.chainId = chainId ∧ e.timestamp = .finite t := by
  rw [inRange, Bool.and_eq_true, Bool.and_eq_true, and_assoc, decide_eq_true_eq]
  refine and_congr_right fun _ => ?_
  dsimp only [momentOf]
  cases e.timestamp with
  | finite q =>
    simp only [PyFloat.le, decide_eq_true_eq, PyFloat.finite.injEq]
    exact ⟨fun both => le_antisymm both.2 both.1, fun same => ⟨same.ge, same.le⟩⟩
  | inf => simp [PyFloat.le]
  | negInf => simp [PyFloat.le]
  | nan => simp [PyFloat.le]

theorem selectEvents_placed {request : ReplayRequest} {inside outside : List StepOutcome}
    (all : ∀ e ∈ inside, inRange request e = true)
    (none : ∀ e ∈ outside, inRange request e = false)
    (inOrder : inside.Pairwise fun a b => sortKey a ≤ sortKey b) :
    selectEvents request (inside ++ outside) = inside.take maxReplayEvents := by
  have found : (inside ++ outside).filter (inRange request) = inside := by
    rw [List.filter_append, List.filter_eq_self.mpr all,
      List.filter_eq_nil_iff.mpr fun e member => by rw [none e member]; exact Bool.false_ne_true,
      List.append_nil]
  rw [selectEvents_take, sortedEvents, found, KeyedSort.sorted_of_pairwise sortKey inOrder]

/-- Two tied events can be stored so that either of them is replayed right after those that are
    ahead of both. -/
theorem placed_either_way {e f : StepOutcome} (memberE : e ∈ store) (memberF : f ∈ store)
    (tied : Tied e f) (distinct : e ≠ f) :
    ∃ (pre rest store₁ store₂ : List StepOutcome) (t : ℚ), pre.Perm (ahead store e) ∧
      (∀ g ∈ pre ++ e :: f :: rest, g ∈ store) ∧ store₁.Perm store ∧ store₂.Perm store ∧
      ∀ override,
        selectEvents (momentOf e.chainId t override) store₁ =
          (pre ++ e :: f :: rest).take maxReplayEvents ∧
        selectEvents (momentOf e.chainId t override) store₂ =
          (pre ++ f :: e :: rest).take maxReplayEvents := by
  obtain ⟨t, stampE, stampF⟩ := tied.stamp
  have moment := inRange_moment e.chainId t none
  have key : sortKey e = sortKey f := by
    rw [sortKey, sortKey, stampE, stampF, tied.step]
  obtain ⟨pre, rest, front, perm, inOrder, inOrder'⟩ := KeyedSort.sorted_first sortKey
    (List.mem_filter.mpr ⟨memberE, (moment e).mpr ⟨rfl, stampE⟩⟩)
    (List.mem_filter.mpr ⟨memberF, (moment f).mpr ⟨tied.chain.symm, stampF⟩⟩) key distinct
  have same : KeyedSort.ahead sortKey (store.filter (inRange (momentOf e.chainId t none))) e =
      ahead store e := by
    rw [KeyedSort.ahead, List.filter_filter, ahead]
    refine List.filter_congr ?_
    intro g _
    rw [Bool.eq_iff_iff]
    simp only [Bool.and_eq_true, decide_eq_true_eq, moment, stampE]
    constructor
    · rintro ⟨earlier, chain, stamp⟩
      refine ⟨⟨chain, stamp⟩, ?_⟩
      rcases Prod.Lex.toLex_lt_toLex.mp earlier with less | ⟨_, step⟩
      · simp only [stamp, stampE, lt_irrefl] at less
      · exact step
    · rintro ⟨⟨chain, stamp⟩, step⟩
      exact ⟨Prod.Lex.toLex_lt_toLex.mpr (Or.inr ⟨by rw [stamp, stampE], step⟩), chain, stamp⟩
  have swapped : (pre ++ f :: e :: rest).Perm (pre ++ e :: f :: rest) :=
    (List.Perm.swap e f rest).append_left pre
  have halves := List.filter_append_perm (inRange (momentOf e.chainId t none)) store
  have all : ∀ g ∈ pre ++ e :: f :: rest, inRange (momentOf e.chainId t none) g = true :=
    fun g member => (List.mem_filter.mp (perm.mem_iff.mp member)).2
  have outside : ∀ g ∈ store.filter (fun g => !inRange (momentOf e.chainId t none) g),
      inRange (momentOf e.chainId t none) g = false := by
    intro g member
    simpa using (List.mem_filter.mp member).2
  refine ⟨pre, rest, _, _, t, same ▸ front,
    fun g member => (List.mem_filter.mp (perm.mem_iff.mp member)).1,
    (perm.append_right _).trans halves,
    ((swapped.trans perm).append_right _).trans halves, ?_⟩
  intro override
  exact ⟨selectEvents_placed all outside inOrder, selectEvents_placed
    (fun g member => all g (swapped.mem_iff.mp member)) outside inOrder'⟩

end Placed

section Probe

/-- A policy with just these ceilings. -/
def probePolicy (cost : ℚ) (count tokens : Nat) : PolicyConfig where
  chainId := "probe"
  ceilingUsd := .float (.finite cost)
  onExceed := .str "halt"
  issuedAt := .float (.finite 0)
  ceilingTokensOut := .int tokens
  ceilingSteps := .int count
  timeoutMs := .float (.finite 0)

def probeDict (cost : ℚ) (count tokens : Nat) : Dict String PyVal :=
  ((((((∅ : Dict String PyVal).set "chain_id" (.str "probe")).set "ceiling_usd"
    (.float (.finite cost))).set "issued_at" (.float (.finite 0))).set "ceiling_tokens_out"
    (.int tokens)).set "ceiling_steps" (.int count)).set "timeout_ms" (.float (.finite 0))

theorem probe_built (numerals : Numerals) (now : ℚ) {cost : ℚ} (nonneg : 0 ≤ cost)
    (count tokens : Nat) :
    buildOverridePolicy numerals now (probeDict cost count tokens) =
      .ok (probePolicy cost count tokens) := by
  have whole : ∀ (key : String) (n : Nat), wholeNumber key (.int n) = .ok (.int n) := by
    intro key n
    simp [wholeNumber]
  have paid : finiteNumber numerals "ceiling_usd" (.float (.finite cost)) = .ok (.finite cost) := by
    simp [finiteNumber, PyVal.toFloat, PyFloat.isFiniteNonNegative, nonneg]
  have issued : finiteNumber numerals "issued_at" (.float (.finite 0)) = .ok (.finite 0) := rfl
  have timeout : overrideTimeout numerals (.float (.finite 0)) = .ok (.float (.finite 0)) := rfl
  have chain : overrideChainId (.str "probe") = .ok "probe" := rfl
  have action : (PyVal.str "halt").inNames validOnExceed = .ok true := rfl
  have priority : overridePriority (.int 50) = .ok (.int 50) := rfl
  simp [buildOverridePolicy, probeDict, getOrNone, Dict.getD, Dict.get?_set, paid, whole, issued,
    timeout, chain, action, priority, require, PyVal.isNone, PyVal.isBool, bind, Except.bind, pure,
    Except.pure, probePolicy]

theorem probe_accepted (d : PolicyDistributor) {cost : ℚ} (nonneg : 0 ≤ cost) (count : Nat)
    {tokens : Nat} (fits : (tokens : Int) < PyVal.floatLimit) :
    d.Accepts (probePolicy cost count tokens) := by
  refine (accepts_iff d _).mpr ⟨?_, fun _ => rfl⟩
  intro field
  cases field with
  | ceilingUsd => exact ⟨rfl, congrArg Except.ok (decide_eq_false (not_lt.mpr nonneg))⟩
  | onExceed => rfl
  | ceilingSteps => exact Or.inr (congrArg Except.ok (decide_eq_false (by omega)))
  | ceilingTokensOut =>
    have limit := PyVal.floatLimit_pos
    exact Or.inr ⟨isfinite_fits ⟨fits, by omega⟩, congrArg Except.ok (decide_eq_false (by omega))⟩
  | timeoutMs => exact Or.inr ⟨rfl, rfl⟩
  | priority => rfl
  | issuedAt | fallbackModel | rateWindowSeconds | rateCeilingCalls | deadlineTs | expiresAt
  | plannerVersion => trivial

theorem probe_ceilings (cost : ℚ) (count tokens : Nat) : Ceilings (probePolicy cost count tokens) :=
  ⟨⟨rfl, Or.inr rfl, Or.inr rfl⟩, Or.inr ⟨tokens, rfl, by omega⟩⟩

theorem replayEvents_length {override : Option PolicyConfig} {idx : Nat} {cumulativeCost : ℚ}
    {events : List StepOutcome} {diffs : List DecisionDiff}
    (ok : replayEvents override idx cumulativeCost events = .ok diffs) :
    diffs.length = events.length := by
  induction events generalizing idx cumulativeCost diffs with
  | nil =>
    cases ok
    rfl
  | cons e events ih =>
    rw [replayEvents] at ok
    split at ok
    · cases ok
    · cases later : replayEvents override (idx + 1) (cumulativeCost + e.costUsd.finiteOrZero)
          events with
      | error exc => simp [later, Except.map] at ok
      | ok rest =>
        simp only [later, Except.map, Except.ok.injEq] at ok
        rw [← ok, List.length_cons, List.length_cons, ih later]

theorem replayEvents_append {override : Option PolicyConfig} {idx : Nat} {cumulativeCost : ℚ}
    {pre : List StepOutcome} {diffs : List DecisionDiff}
    (ok : replayEvents override idx cumulativeCost pre = .ok diffs) (rest : List StepOutcome) :
    replayEvents override idx cumulativeCost (pre ++ rest) =
      (replayEvents override (idx + pre.length) (cumulativeCost + recordedCost pre) rest).map
        (diffs ++ ·) := by
  induction pre generalizing idx cumulativeCost diffs with
  | nil =>
    cases ok
    simp only [List.nil_append, List.length_nil, recordedCost, List.map_nil, List.sum_nil, add_zero]
    cases replayEvents override idx cumulativeCost rest <;> rfl
  | cons e pre ih =>
    rw [replayEvents] at ok
    rw [List.cons_append, replayEvents]
    split at ok
    · cases ok
    · rename_i replayed decided
      cases later : replayEvents override (idx + 1) (cumulativeCost + e.costUsd.finiteOrZero)
          pre with
      | error exc => simp [later, Except.map] at ok
      | ok diffs' =>
        simp only [later, Except.map, Except.ok.injEq] at ok
        have place : idx + 1 + pre.length = idx + (e :: pre).length := by
          rw [List.length_cons]
          omega
        have cost : cumulativeCost + e.costUsd.finiteOrZero + recordedCost pre =
            cumulativeCost + recordedCost (e :: pre) := by
          rw [recordedCost, recordedCost, List.map_cons, List.sum_cons]
          ring
        rw [ih later, place, cost, ← ok]
        cases replayEvents override (idx + (e :: pre).length)
          (cumulativeCost + recordedCost (e :: pre)) rest <;> rfl

/-- The decision on one event, or the exception. -/
def decisionAt (place : Nat) (replayed : Except PyExc ReplayResult) :
    Except PyExc (Option Decision) :=
  replayed.map fun result => (result.diffs[place]?).map DecisionDiff.replayedDecision

/-- A probe that has no steps left behind an event tells how that event is judged. -/
theorem decisionAt_probe {store pre rest : List StepOutcome} {e : StepOutcome}
    {request : ReplayRequest} {cost : ℚ} {tokens : Nat}
    (selected : selectEvents request store = pre ++ e :: rest) (nonneg : NonNegative rest)
    (fits : ∀ g ∈ pre, FitsDouble g.tokens) :
    decisionAt pre.length (replayWith (probePolicy cost (pre.length + 1) tokens) store request) =
      (replayDecision e pre.length (recordedCost pre)
        (probePolicy cost (pre.length + 1) tokens)).map some := by
  have ceilings := probe_ceilings cost (pre.length + 1) tokens
  have fit : TokensFit (probePolicy cost (pre.length + 1) tokens) [] pre :=
    fun j g found _ => fits g (List.mem_of_getElem? found)
  obtain ⟨diffs, replayed, _⟩ := replayEvents_fit ceilings.toNumberCeilings [] fit
  have before : replayEvents (some (probePolicy cost (pre.length + 1) tokens)) 0 0 pre =
      .ok diffs := replayed
  have exhausted : ∀ paid : ℚ, recordedCost pre + e.costUsd.finiteOrZero ≤ paid →
      outspent (probePolicy cost (pre.length + 1) tokens) paid (pre.length + 1 + 1) = true := by
    intro paid _
    simp [outspent, probePolicy, exceeds, PyVal.number?, PyFloat.lt]
  have whole := replayEvents_append before (e :: rest)
  rw [replayEvents, replayedDecision, Nat.zero_add, zero_add,
    replayEvents_exhausted ceilings exhausted nonneg] at whole
  have some : (pre ++ e :: rest).isEmpty = false := by
    rw [Bool.eq_false_iff]
    simp
  rw [decisionAt, replayWith, selected]
  rw [if_neg (Bool.eq_false_iff.mp some), whole]
  cases replayDecision e pre.length (recordedCost pre)
      (probePolicy cost (pre.length + 1) tokens) with
  | error exc => rfl
  | ok replayed =>
    have last : diffs.length = pre.length := replayEvents_length before
    simp [Except.map, resultOf, last, diffOf]

/-- The decision recorded for one event. -/
def recordedAt (place : Nat) (replayed : Except PyExc ReplayResult) :
    Except PyExc (Option Decision) :=
  replayed.map fun result => (result.diffs[place]?).map DecisionDiff.originalDecision

theorem recordedAt_plain {numerals : Numerals} {d : PolicyDistributor} {now : ℚ}
    {store pre rest : List StepOutcome} {e : StepOutcome} {request : ReplayRequest}
    (plain : request.overridePolicy = none)
    (selected : selectEvents request store = pre ++ e :: rest) :
    recordedAt pre.length (replay numerals d now store request) = .ok (some e.decision) := by
  have some : (pre ++ e :: rest).isEmpty = false := by
    rw [Bool.eq_false_iff]
    simp
  rw [recordedAt, replay, plain, checkOverride, selected]
  dsimp only
  rw [if_neg (Bool.eq_false_iff.mp some), replayEvents_none]
  simp [Except.map, resultOf, diffOf]

/-- The most tokens a probe for this event may allow. -/
def probeTokens (e : StepOutcome) : Nat := if FitsDouble e.tokens then e.tokens.toNat else 0

theorem probeTokens_fits (e : StepOutcome) : (probeTokens e : Int) < PyVal.floatLimit := by
  have limit := PyVal.floatLimit_pos
  unfold probeTokens
  split
  · rename_i fits
    have below := fits.1
    omega
  · omega

theorem probe_decision (f : StepOutcome) (idx : Nat) (cumulativeCost cost : ℚ) (tokens : Nat) :
    replayDecision f idx cumulativeCost (probePolicy (cumulativeCost + cost) (idx + 1) tokens) =
      if f.costUsd.finiteOrZero ≤ cost then
        if FitsDouble f.tokens then .ok (if (tokens : Int) < f.tokens then .halt else .allow)
        else .error tokensTooLarge
      else .ok .halt := by
  have numbers := (probe_ceilings (cumulativeCost + cost) (idx + 1) tokens).toNumberCeilings
  have refused : tokensRefused (probePolicy (cumulativeCost + cost) (idx + 1) tokens) f =
      decide ((tokens : Int) < f.tokens) := by
    simp only [tokensRefused, probePolicy, exceeds, PyVal.number?, PyFloat.lt, Int.cast_lt]
  rw [replayDecision_cases numbers, refused]
  by_cases cheap : f.costUsd.finiteOrZero ≤ cost
  · have kept : outspent (probePolicy (cumulativeCost + cost) (idx + 1) tokens)
        (cumulativeCost + f.costUsd.finiteOrZero) (idx + 1) = false := by
      simp [outspent, probePolicy, exceeds, PyVal.number?, PyFloat.lt, cheap]
    rw [kept, if_neg Bool.false_ne_true, if_pos cheap]
    by_cases many : (tokens : Int) < f.tokens
    · rw [decide_eq_true many, if_pos many]
      rfl
    · rw [decide_eq_false many, if_neg many]
      rfl
  · have spent : outspent (probePolicy (cumulativeCost + cost) (idx + 1) tokens)
        (cumulativeCost + f.costUsd.finiteOrZero) (idx + 1) = true := by
      simp [outspent, probePolicy, exceeds, PyVal.number?, PyFloat.lt, not_le.mp cheap]
    rw [if_pos spent, if_neg cheap]
    rfl

/-- A probe that one event just passes tells an event that costs more or uses more tokens. -/
theorem probe_tells {e f : StepOutcome} {idx : Nat} {cumulativeCost : ℚ}
    (same : replayDecision e idx cumulativeCost
        (probePolicy (cumulativeCost + e.costUsd.finiteOrZero) (idx + 1) (probeTokens e)) =
      replayDecision f idx cumulativeCost
        (probePolicy (cumulativeCost + e.costUsd.finiteOrZero) (idx + 1) (probeTokens e))) :
    f.costUsd.finiteOrZero ≤ e.costUsd.finiteOrZero ∧ tokensSeen f ≤ tokensSeen e := by
  rw [probe_decision, probe_decision, if_pos (le_refl e.costUsd.finiteOrZero)] at same
  by_cases fits : FitsDouble e.tokens
  · have passes : ¬ (probeTokens e : Int) < e.tokens := by
      rw [probeTokens, if_pos fits]
      omega
    rw [if_pos fits, if_neg passes] at same
    split at same
    · rename_i cheaper
      refine ⟨cheaper, ?_⟩
      split at same
      · rename_i fits'
        split at same
        · cases same
        · rename_i fewer
          rw [probeTokens, if_pos fits] at fewer
          have most : f.tokens.toNat ≤ e.tokens.toNat := by omega
          rw [tokensSeen, tokensSeen, if_pos fits, if_pos fits']
          exact_mod_cast most
      · cases same
    · cases same
  · rw [if_neg fits] at same
    refine ⟨?_, by rw [tokensSeen, tokensSeen, if_neg fits]; exact le_top⟩
    by_contra dearer
    rw [if_neg dearer] at same
    cases same

end Probe

theorem recordedCost_nonneg {events : List StepOutcome} (nonneg : NonNegative events) :
    0 ≤ recordedCost events := by
  apply List.sum_nonneg
  intro cost member
  obtain ⟨e, among, rfl⟩ := List.mem_map.mp member
  exact nonneg e among

theorem take_beyond {A : Type} {pre rest : List A} {x : A} {n : Nat} (room : pre.length < n) :
    (pre ++ x :: rest).take n = pre ++ x :: rest.take (n - pre.length - 1) := by
  obtain ⟨m, rfl⟩ := Nat.exists_eq_add_of_lt room
  have place : pre.length + m + 1 - pre.length = m + 1 := by omega
  rw [List.take_append, List.take_of_length_le (by omega), place, List.take_succ_cons,
    Nat.add_sub_cancel]

theorem exceptSome_inj {x y : Except PyExc Decision} (same : x.map some = y.map some) : x = y := by
  cases x <;> cases y <;> simp_all [Except.map]

theorem ties_of_independent {numerals : Numerals} {d : PolicyDistributor} {now : ℚ}
    {store : List StepOutcome} (nonneg : NonNegative store)
    (independent : OrderIndependent numerals d now store) : TiesAlike store := by
  intro e memberE f memberF tied few
  by_cases equal : e = f
  · subst equal
    exact ⟨rfl, fun _ => ⟨rfl, rfl⟩⟩
  obtain ⟨pre, rest, store₁, store₂, t, front, stored, perm₁, perm₂, selected⟩ :=
    placed_either_way memberE memberF tied equal
  have room : pre.length < maxReplayEvents := front.length_eq.trans_lt few
  have same : ∀ override, replay numerals d now store₁ (momentOf e.chainId t override) =
      replay numerals d now store₂ (momentOf e.chainId t override) := by
    intro override
    rw [independent store₁ _ perm₁, independent store₂ _ perm₂]
  simp only [take_beyond room] at selected
  constructor
  case decision =>
    have here := congrArg (recordedAt pre.length) (same none)
    rw [recordedAt_plain rfl (selected none).1, recordedAt_plain rfl (selected none).2] at here
    exact Option.some.inj (Except.ok.inj here)
  case weight =>
    intro fit
    have fits : ∀ g ∈ pre, FitsDouble g.tokens := fun g member => fit g (front.mem_iff.mp member)
    have free : 0 ≤ recordedCost pre := by
      refine recordedCost_nonneg fun g member => nonneg g (stored g ?_)
      exact List.mem_append_left _ member
    have behind : NonNegative (e :: f :: rest) :=
      fun g member => nonneg g (stored g (List.mem_append_right _ member))
    have behindE : NonNegative ((f :: rest).take (maxReplayEvents - pre.length - 1)) :=
      fun g member => behind g (List.mem_cons_of_mem _ (List.mem_of_mem_take member))
    have behindF : NonNegative ((e :: rest).take (maxReplayEvents - pre.length - 1)) := by
      intro g member
      refine behind g (List.mem_cons.mpr ?_)
      exact (List.mem_cons.mp (List.mem_of_mem_take member)).imp_right (List.mem_cons_of_mem _)
    -- whatever override policy the distributor accepts, the two events are judged alike
    have judged : ∀ (cost : ℚ) (tokens : Nat), 0 ≤ cost → (tokens : Int) < PyVal.floatLimit →
        replayDecision e pre.length (recordedCost pre)
            (probePolicy cost (pre.length + 1) tokens) =
          replayDecision f pre.length (recordedCost pre)
            (probePolicy cost (pre.length + 1) tokens) := by
      intro cost tokens paid below
      have here := same (some (probeDict cost (pre.length + 1) tokens))
      have accepted := probe_accepted d paid (pre.length + 1) below
      rw [replay_accepted rfl (probe_built numerals now paid _ _) accepted,
        replay_accepted rfl (probe_built numerals now paid _ _) accepted] at here
      have decisions := congrArg (decisionAt pre.length) here
      rw [decisionAt_probe (selected _).1 behindE fits,
        decisionAt_probe (selected _).2 behindF fits]
        at decisions
      exact exceptSome_inj decisions
    have costE := nonneg e memberE
    have costF := nonneg f memberF
    have tellsE := probe_tells (judged _ _ (by linarith) (probeTokens_fits e))
    have tellsF := probe_tells (judged _ _ (by linarith) (probeTokens_fits f)).symm
    exact ⟨le_antisymm tellsF.1 tellsE.1, le_antisymm tellsF.2 tellsE.2⟩

/-- Replay gives the same result for every order of the store, and every request, exactly if
    events that tie for a place in the sort may change places. -/
theorem order_independent_iff (numerals : Numerals) (d : PolicyDistributor) (now : ℚ)
    {store : List StepOutcome} (nonneg : NonNegative store) :
    OrderIndependent numerals d now store ↔ TiesAlike store :=
  ⟨ties_of_independent nonneg, independent_of_ties nonneg⟩

section Ties

def retry (decision : Decision) : StepOutcome where
  stepId := "req-1"
  chainId := "agent"
  decision := decision
  costUsd := .finite 1
  tokens := 10
  timestamp := .finite 60

theorem retries_selected (first second : Decision) :
    selectEvents (momentOf "agent" 60 none) [retry first, retry second] =
      [retry first, retry second] := by
  have inside : ∀ e ∈ [retry first, retry second], inRange (momentOf "agent" 60 none) e = true := by
    intro e member
    simp only [List.mem_cons, List.not_mem_nil, or_false] at member
    rcases member with rfl | rfl <;> exact (inRange_moment _ _ _ _).mpr ⟨rfl, rfl⟩
  have inOrder : [retry first, retry second].Pairwise fun a b => sortKey a ≤ sortKey b :=
    List.pairwise_pair.mpr (le_refl (sortKey (retry first)))
  have whole : [retry first, retry second].length ≤ maxReplayEvents := by simp [maxReplayEvents]
  have placed := selectEvents_placed inside (fun e member => absurd member List.not_mem_nil) inOrder
  rwa [List.append_nil, List.take_of_length_le whole] at placed

/-- Two events of one request, stored either way round: the result lists them as they are stored. -/
theorem tie_keeps_storage_order : ¬ OrderIndependent ⟨fun _ => none, fun _ => none⟩
    ⟨false, 0, none⟩ 0 [retry .allow, retry .halt] := by
  intro independent
  have same := independent [retry .halt, retry .allow] (momentOf "agent" 60 none)
    (List.Perm.swap _ _ _)
  have first := congrArg (recordedAt ([] : List StepOutcome).length) same
  rw [recordedAt_plain rfl (retries_selected .halt .allow),
    recordedAt_plain rfl (retries_selected .allow .halt)] at first
  simp [retry] at first

/-- The same two events a second apart. -/
theorem distinct_times_independent : OrderIndependent ⟨fun _ => none, fun _ => none⟩
    ⟨false, 0, none⟩ 0 [{ retry .halt with timestamp := .finite 61 }, retry .allow] := by
  refine (order_independent_iff _ _ 0 ?_).mpr ?_
  · intro e member
    simp only [List.mem_cons, List.not_mem_nil, or_false] at member
    rcases member with rfl | rfl <;> exact zero_le_one
  · intro e memberE f memberF tied _
    have equal : e = f := by
      obtain ⟨t, stampE, stampF⟩ := tied.stamp
      have sameTime := stampE.trans stampF.symm
      simp only [List.mem_cons, List.not_mem_nil, or_false] at memberE memberF
      rcases memberE with rfl | rfl <;> rcases memberF with rfl | rfl
      · rfl
      · norm_num [retry] at sameTime
      · norm_num [retry] at sameTime
      · rfl
    subst equal
    exact ⟨rfl, fun _ => ⟨rfl, rfl⟩⟩

end Ties

end VeronicaReplayOrder
