import Mathlib.Data.List.Dedup
import Mathlib.Data.Multiset.Bind
import Veronica.EventQueries
import Veronica.Library.Arithmetic
import Veronica.Library.Tally

/- GET /runs, GET /incidents, and the active chains GET /health counts: what they say of a chain,
   beside what GET /events lists of it. `sum` is the built-in one, which rounds by a rule of its
   own; times are subtracted in the arithmetic `r`. -/
namespace VeronicaRunQueries
open VeronicaStages VeronicaConversion VeronicaQueries

def activeWindowSeconds : ℚ := 300

inductive RunStatus where
  | active
  | completed
  deriving DecidableEq, Repr

structure RunDetail where
  chainId : String
  status : RunStatus
  totalCost : PyFloat
  totalSteps : Nat
  eventsCount : Nat
  firstEventAt : ℚ
  lastEventAt : ℚ
  policyHash : Option String
  deriving DecidableEq

/-- The pattern and the lengths declared for a name in a path. -/
def SafePath (name : String) : Prop := Patterns.OfClass isChainChar 1 256 name.toList

instance (name : String) : Decidable (SafePath name) :=
  inferInstanceAs (Decidable (Patterns.OfClass ..))

/-- The repr of a name without quotes or backslashes. -/
def quoted (name : String) : String := "'" ++ name ++ "'"

def ofChain (store : List StepOutcome) (chainId : String) : List StepOutcome :=
  store.filter fun o => o.chainId = chainId

def finite? : PyFloat → Option ℚ
  | .finite q => some q
  | _ => none

def finiteTimes (outcomes : List StepOutcome) : List ℚ :=
  outcomes.filterMap fun o => finite? o.timestamp

def finiteCosts (outcomes : List StepOutcome) : List ℚ :=
  outcomes.filterMap fun o => finite? o.costUsd

/-- `heapq.nlargest(1, outcomes, key=lambda o: o.timestamp)`: the first of the latest -/
def mostRecent (outcomes : List StepOutcome) : Option StepOutcome :=
  outcomes.argmax fun o => o.timestamp.rank

/-- `most_recent.policy_hash or None` -/
def hashOrNone (o : StepOutcome) : Option String :=
  if o.policyHash = "" then none else some o.policyHash

def runDetail (r : Arithmetic) (sum : List ℚ → PyFloat) (chainId : String)
    (outcomes : List StepOutcome) (first last now : ℚ) : RunDetail where
  chainId
  status := if r.fl (now - last) ≤ activeWindowSeconds then .active else .completed
  totalCost := sum (finiteCosts outcomes)
  totalSteps := outcomes.length
  eventsCount := outcomes.length
  firstEventAt := first
  lastEventAt := last
  policyHash := (mostRecent outcomes).bind hashOrNone

def getRun (r : Arithmetic) (sum : List ℚ → PyFloat) (store : List StepOutcome)
    (chainId : String) (now : ℚ) : Except Refusal RunDetail :=
  if SafePath chainId then
    let chainOutcomes := ofChain store chainId
    if chainOutcomes = [] then
      .error (.http 404 ("No events found for chain_id: " ++ quoted chainId))
    else
      match (finiteTimes chainOutcomes).min?, (finiteTimes chainOutcomes).max? with
      | some first, some last => .ok (runDetail r sum chainId chainOutcomes first last now)
      | _, _ => .error (.http 404 ("No valid events for chain_id: " ++ quoted chainId))
  else .error .unprocessable

/-- `_count_active_chains` -/
def countActiveChains (r : Arithmetic) (store : List StepOutcome) (now : ℚ) : Nat :=
  let cutoff := r.fl (now - activeWindowSeconds)
  ((store.filter fun o => (PyFloat.finite cutoff).le o.timestamp).map
    StepOutcome.chainId).dedup.length

structure TimelineEvent where
  stepId : String
  decision : String
  costUsd : PyFloat
  tokens : Int
  durationMs : PyFloat
  timestamp : PyFloat
  operationName : String
  auditId : String

def TimelineEvent.fromOutcome (o : StepOutcome) : TimelineEvent where
  stepId := o.stepId
  decision := o.decision
  costUsd := o.costUsd
  tokens := o.tokens
  durationMs := o.durationMs
  timestamp := o.timestamp
  operationName := o.operationName
  auditId := o.auditId

structure RootCause where
  stepId : String
  decision : String
  timestamp : PyFloat
  operationName : String
  auditId : String

def RootCause.fromOutcome (o : StepOutcome) : RootCause where
  stepId := o.stepId
  decision := o.decision
  timestamp := o.timestamp
  operationName := o.operationName
  auditId := o.auditId

structure IncidentDetail where
  incidentId : String
  chainId : String
  stepId : String
  decision : String
  reasonCode : Option String
  policyHash : Option String
  auditId : String
  timeline : List TimelineEvent
  rootCause : Option RootCause

def haltDecisions : List String := ["halt", "degrade"]

/-- `sorted(outcomes, key=lambda o: o.timestamp)` -/
def oldestFirst (outcomes : List StepOutcome) : List StepOutcome :=
  KeyedSort.sorted (fun o => o.timestamp.rank) outcomes

def getIncident (store : List StepOutcome) (chainId stepId : String) :
    Except Refusal IncidentDetail :=
  if SafePath chainId ∧ SafePath stepId then
    match store.find? fun o => o.chainId = chainId ∧ o.stepId = stepId with
    | none => .error (.http 404 ("No event found for chain_id=" ++ quoted chainId ++ ", step_id=" ++
        quoted stepId))
    | some target =>
      let chainOutcomes := oldestFirst (ofChain store chainId)
      .ok {
        incidentId := chainId ++ ":" ++ stepId
        chainId
        stepId
        decision := target.decision
        reasonCode := none
        policyHash := some target.policyHash
        auditId := target.auditId
        timeline := chainOutcomes.map TimelineEvent.fromOutcome
        rootCause := (chainOutcomes.find? fun o => o.decision ∈ haltDecisions).map
          RootCause.fromOutcome }
  else .error .unprocessable

/-- The query the events page makes for a chain. -/
def chainQuery (chainId : String) : EventQuery := { chainId := some chainId }

/-- The query for what halted or degraded a chain. -/
def haltQuery (chainId : String) : EventQuery :=
  { chainId := some chainId, decision := some haltDecisions }

/-- Every timestamp is a finite number, as the times of kernel events are. -/
def Dated (store : List StepOutcome) : Prop := ∀ o ∈ store, o.timestamp.isfinite = true

section Times
variable {outcomes : List StepOutcome}

theorem Dated.timed (dated : Dated outcomes) : Timed outcomes := by
  intro o member number
  have finite := dated o member
  rw [number] at finite
  cases finite

theorem Dated.filter (dated : Dated outcomes) (keep : StepOutcome → Bool) :
    Dated (outcomes.filter keep) := by
  intro o member
  exact dated o (List.mem_of_mem_filter member)

theorem Dated.time (dated : Dated outcomes) {o : StepOutcome} (member : o ∈ outcomes) :
    ∃ q, o.timestamp = .finite q := by
  have finite := dated o member
  cases time : o.timestamp with
  | finite q => exact ⟨q, rfl⟩
  | inf => rw [time] at finite; cases finite
  | negInf => rw [time] at finite; cases finite
  | nan => rw [time] at finite; cases finite

theorem mem_finiteTimes {q : ℚ} :
    q ∈ finiteTimes outcomes ↔ ∃ o ∈ outcomes, o.timestamp = .finite q := by
  rw [finiteTimes, List.mem_filterMap]
  refine exists_congr fun o => and_congr_right fun _ => ?_
  cases o.timestamp <;> simp [finite?]

theorem mostRecent_eq (outcomes : List StepOutcome) :
    mostRecent outcomes = (newestFirst outcomes).head? :=
  (KeyedSort.head?_sorted (fun o : StepOutcome => OrderDual.toDual o.timestamp.rank) outcomes).symm

theorem max?_of_head {o : StepOutcome} (first : (newestFirst outcomes).head? = some o) {last : ℚ}
    (time : o.timestamp = .finite last) : (finiteTimes outcomes).max? = some last := by
  have member : o ∈ outcomes :=
    (newestFirst_perm outcomes).mem_iff.mp (List.mem_of_head? first)
  rw [List.max?_eq_some_iff]
  refine ⟨mem_finiteTimes.mpr ⟨o, member, time⟩, ?_⟩
  intro q among
  obtain ⟨x, memberX, timeX⟩ := mem_finiteTimes.mp among
  rw [← mostRecent_eq] at first
  have le := List.le_of_mem_argmax memberX first
  rwa [time, timeX, PyFloat.rank_finite_le] at le

theorem min?_of_getLast (dated : Dated outcomes) {o : StepOutcome}
    (final : (newestFirst outcomes).getLast? = some o) {first : ℚ}
    (time : o.timestamp = .finite first) : (finiteTimes outcomes).min? = some first := by
  obtain ⟨init, listing⟩ := List.getLast?_eq_some_iff.mp final
  have member : o ∈ outcomes :=
    (newestFirst_perm outcomes).mem_iff.mp (by rw [listing]; simp)
  rw [List.min?_eq_some_iff]
  refine ⟨mem_finiteTimes.mpr ⟨o, member, time⟩, ?_⟩
  intro q among
  obtain ⟨x, memberX, timeX⟩ := mem_finiteTimes.mp among
  have inOrder := newestFirst_pairwise dated.timed
  rw [listing] at inOrder
  have memberX := (newestFirst_perm outcomes).mem_iff.mpr memberX
  rw [listing, List.mem_append, List.mem_singleton] at memberX
  rcases memberX with earlier | rfl
  · have le := (List.pairwise_append.mp inOrder).2.2 x earlier o List.mem_cons_self
    rw [time, timeX] at le
    exact of_decide_eq_true le
  · rw [timeX] at time
    cases time
    exact le_refl _

end Times

section Runs
variable {r : Arithmetic} {sum : List ℚ → PyFloat} {store : List StepOutcome} {chainId : String}
  {now : ℚ}

theorem filter_chainQuery : store.filter (chainQuery chainId).selects = ofChain store chainId := by
  refine List.filter_congr ?_
  intro o _
  simp [EventQuery.selects, chainQuery]

theorem listed_chain (few : (ofChain store chainId).length ≤ maxResultsCap) :
    listed store (chainQuery chainId) = newestFirst (ofChain store chainId) := by
  rw [listed_eq, filter_chainQuery, List.take_of_length_le]
  rwa [(newestFirst_perm _).length_eq]

/-- What GET /runs says of a chain is what the pages of its events show: their number, first and
    last time, the policy of the newest, and the sum of their costs in some order. -/
structure Summarises (sum : List ℚ → PyFloat) (run : RunDetail) (shown : List StepOutcome) :
    Prop where
  newest : ∃ o, shown.head? = some o ∧ o.timestamp = .finite run.lastEventAt ∧
    run.policyHash = hashOrNone o
  oldest : ∃ o, shown.getLast? = some o ∧ o.timestamp = .finite run.firstEventAt
  count : run.eventsCount = shown.length ∧ run.totalSteps = shown.length
  cost : ∃ costs, costs.Perm (finiteCosts shown) ∧ run.totalCost = sum costs

theorem getRun_of_safe (safe : SafePath chainId) (dated : Dated store) :
    getRun r sum store chainId now = match (newestFirst (ofChain store chainId)).head?,
        (newestFirst (ofChain store chainId)).getLast? with
      | some newest, some oldest => .ok (runDetail r sum chainId (ofChain store chainId)
          oldest.timestamp.finiteOrZero newest.timestamp.finiteOrZero now)
      | _, _ => .error (.http 404 ("No events found for chain_id: " ++ quoted chainId)) := by
  have chainDated : Dated (ofChain store chainId) := dated.filter _
  rw [getRun, if_pos safe]
  dsimp only
  by_cases none : ofChain store chainId = []
  · have empty : newestFirst [] = [] := List.mergeSort_nil
    rw [if_pos none, none, empty]
    rfl
  · have perm := newestFirst_perm (ofChain store chainId)
    have some : newestFirst (ofChain store chainId) ≠ [] := by
      intro empty
      rw [empty] at perm
      exact none perm.nil_eq.symm
    obtain ⟨newest, first⟩ := Option.ne_none_iff_exists'.mp (mt List.head?_eq_none_iff.mp some)
    obtain ⟨oldest, final⟩ :=
      Option.ne_none_iff_exists'.mp (mt List.getLast?_eq_none_iff.mp some)
    obtain ⟨last, timeLast⟩ := chainDated.time (perm.mem_iff.mp (List.mem_of_head? first))
    obtain ⟨start, timeStart⟩ := chainDated.time (perm.mem_iff.mp (List.mem_of_getLast? final))
    rw [if_neg none, max?_of_head first timeLast,
      min?_of_getLast chainDated final timeStart, first, final]
    simp only [timeLast, timeStart, PyFloat.finiteOrZero_finite]

/-- GET /runs and GET /events agree on every chain. -/
theorem run_summarises_events (safe : SafePath chainId) (dated : Dated store)
    (few : (ofChain store chainId).length ≤ maxResultsCap) :
    (listed store (chainQuery chainId) = [] → getRun r sum store chainId now =
      .error (.http 404 ("No events found for chain_id: " ++ quoted chainId))) ∧
    (listed store (chainQuery chainId) ≠ [] → ∃ run, getRun r sum store chainId now = .ok run ∧
      Summarises sum run (listed store (chainQuery chainId)) ∧
      (run.status = .active ↔ r.fl (now - run.lastEventAt) ≤ activeWindowSeconds)) := by
  have chainDated : Dated (ofChain store chainId) := dated.filter _
  have perm := newestFirst_perm (ofChain store chainId)
  rw [listed_chain few, getRun_of_safe safe dated]
  constructor
  · intro empty
    rw [empty]
    rfl
  · intro some
    obtain ⟨newest, first⟩ := Option.ne_none_iff_exists'.mp (mt List.head?_eq_none_iff.mp some)
    obtain ⟨oldest, final⟩ :=
      Option.ne_none_iff_exists'.mp (mt List.getLast?_eq_none_iff.mp some)
    obtain ⟨last, timeLast⟩ := chainDated.time (perm.mem_iff.mp (List.mem_of_head? first))
    obtain ⟨start, timeStart⟩ := chainDated.time (perm.mem_iff.mp (List.mem_of_getLast? final))
    rw [first, final]
    refine ⟨_, rfl,
      ⟨⟨newest, first, ?_, ?_⟩, ⟨oldest, final, ?_⟩, ⟨?_, ?_⟩, _, ?_, rfl⟩, ?_⟩
    · rw [runDetail, timeLast, PyFloat.finiteOrZero_finite]
    · rw [runDetail, mostRecent_eq, first, Option.bind_some]
    · rw [runDetail, timeStart, PyFloat.finiteOrZero_finite]
    · exact perm.length_eq.symm
    · exact perm.length_eq.symm
    · exact (perm.filterMap _).symm
    · simp only [runDetail]
      split
      · rename_i recent
        simp [recent]
      · rename_i old
        simp [old]

end Runs

section Totals
variable (r : Arithmetic) (sum : List ℚ → PyFloat) (store : List StepOutcome) (now : ℚ)

/-- The chains of the store, each once. -/
def chainsOf : List String := (store.map StepOutcome.chainId).dedup

def runOf (chainId : String) : Option RunDetail := (getRun r sum store chainId now).toOption

def isActive (chainId : String) : Bool :=
  (runOf r sum store now chainId).any fun run => decide (run.status = .active)

/-- The time since a stored event, and the start of the window, are doubles themselves. -/
structure Clocked : Prop where
  window : r.fl (now - activeWindowSeconds) = now - activeWindowSeconds
  elapsed : ∀ o ∈ store, ∀ q, o.timestamp = .finite q → r.fl (now - q) = now - q

variable {r} {sum} {store} {now}

theorem runOf_present (r : Arithmetic) (sum : List ℚ → PyFloat) (now : ℚ) (dated : Dated store)
    {o : StepOutcome} (member : o ∈ store)
    (safe : SafePath o.chainId) : ∃ first last,
      runOf r sum store now o.chainId =
        some (runDetail r sum o.chainId (ofChain store o.chainId) first last now) ∧
      (finiteTimes (ofChain store o.chainId)).max? = some last := by
  have chainDated : Dated (ofChain store o.chainId) := dated.filter _
  have perm := newestFirst_perm (ofChain store o.chainId)
  have among : o ∈ newestFirst (ofChain store o.chainId) := by
    rw [perm.mem_iff]
    exact List.mem_filter.mpr ⟨member, by simp⟩
  have some : newestFirst (ofChain store o.chainId) ≠ [] := List.ne_nil_of_mem among
  obtain ⟨newest, first⟩ := Option.ne_none_iff_exists'.mp (mt List.head?_eq_none_iff.mp some)
  obtain ⟨oldest, final⟩ := Option.ne_none_iff_exists'.mp (mt List.getLast?_eq_none_iff.mp some)
  obtain ⟨last, time⟩ := chainDated.time (perm.mem_iff.mp (List.mem_of_head? first))
  refine ⟨oldest.timestamp.finiteOrZero, last, ?_, max?_of_head first time⟩
  rw [runOf, getRun_of_safe safe dated, first, final]
  dsimp only
  rw [time]
  rfl

theorem isActive_iff (clocked : Clocked r store now) (dated : Dated store) {o : StepOutcome}
    (member : o ∈ store) (safe : SafePath o.chainId) : isActive r sum store now o.chainId = true ↔
      ∃ x ∈ store, x.chainId = o.chainId ∧
        (PyFloat.finite (now - activeWindowSeconds)).le x.timestamp = true := by
  obtain ⟨first, last, run, latest⟩ := runOf_present r sum now dated member safe
  obtain ⟨among, greatest⟩ := List.max?_eq_some_iff.mp latest
  obtain ⟨newest, inChain, stamped⟩ := mem_finiteTimes.mp among
  have exact := clocked.elapsed newest (List.mem_of_mem_filter inChain) last stamped
  have active : isActive r sum store now o.chainId = true ↔ now - last ≤ activeWindowSeconds := by
    rw [isActive, run, Option.any_some, runDetail, exact]
    split
    · rename_i recent
      simp [recent]
    · rename_i old
      simp [old]
  rw [active]
  constructor
  · intro recent
    obtain ⟨stored, same⟩ := List.mem_filter.mp inChain
    refine ⟨newest, stored, of_decide_eq_true same, ?_⟩
    rw [stamped]
    exact decide_eq_true (by linarith)
  · rintro ⟨x, stored, same, recent⟩
    obtain ⟨q, time⟩ := dated.time stored
    have within : x ∈ ofChain store o.chainId :=
      List.mem_filter.mpr ⟨stored, decide_eq_true same⟩
    have le := greatest q (mem_finiteTimes.mpr ⟨x, within, time⟩)
    rw [time] at recent
    have cutoff : now - activeWindowSeconds ≤ q := of_decide_eq_true recent
    linarith

theorem mem_chainsOf {chainId : String} :
    chainId ∈ chainsOf store ↔ ∃ o ∈ store, o.chainId = chainId := by
  rw [chainsOf, List.mem_dedup, List.mem_map]

theorem countActiveChains_eq (clocked : Clocked r store now) (dated : Dated store)
    (safe : ∀ o ∈ store, SafePath o.chainId) : countActiveChains r store now =
      ((chainsOf store).filter (isActive r sum store now)).length := by
  rw [countActiveChains, clocked.window]
  have distinct : (chainsOf store).Nodup := List.nodup_dedup _
  refine List.Perm.length_eq ?_
  rw [List.perm_ext_iff_of_nodup (List.nodup_dedup _) (distinct.filter _)]
  intro chainId
  rw [List.mem_dedup, List.mem_map, List.mem_filter, mem_chainsOf]
  constructor
  · rintro ⟨o, recent, rfl⟩
    obtain ⟨member, recent⟩ := List.mem_filter.mp recent
    exact ⟨⟨o, member, rfl⟩, (isActive_iff clocked dated member (safe o member)).mpr
      ⟨o, member, rfl, recent⟩⟩
  · rintro ⟨⟨o, member, rfl⟩, active⟩
    obtain ⟨x, stored, same, recent⟩ :=
      (isActive_iff clocked dated member (safe o member)).mp active
    exact ⟨x, List.mem_filter.mpr ⟨stored, recent⟩, same⟩

/-- A sum over the store is the sum over its chains of what each adds to it. -/
theorem sum_of_chains {M : Type} [AddCommMonoid M] (f : StepOutcome → M) :
    ((chainsOf store).map fun c => ((ofChain store c).map f).sum).sum = (store.map f).sum := by
  have parts := Tally.total_eq_sum_totalOn (store.map fun o => (o.chainId, f o))
    (List.nodup_dedup (store.map StepOutcome.chainId)) (by
      intro booking member
      obtain ⟨o, stored, rfl⟩ := List.mem_map.mp member
      exact mem_chainsOf.mpr ⟨o, stored, rfl⟩)
  simpa [Tally.total, Tally.totalOn, List.filter_map, Function.comp_def, ofChain, chainsOf]
    using parts.symm

theorem finiteCosts_of_chains (store : List StepOutcome) :
    ((chainsOf store).flatMap fun c => finiteCosts (ofChain store c)).Perm (finiteCosts store) := by
  let costs (o : StepOutcome) : Multiset ℚ := (finite? o.costUsd).toList
  have parts : ((chainsOf store).map fun c => ((ofChain store c).map costs).sum).sum =
      (store.map costs).sum := sum_of_chains costs
  have joined : ∀ outcomes : List StepOutcome,
      (outcomes.map costs).sum = (finiteCosts outcomes : Multiset ℚ) := by
    intro outcomes
    rw [finiteCosts, List.filterMap_eq_flatMap_toList, List.flatMap, ← Multiset.coe_join]
    simp [Multiset.join, List.map_map, Function.comp_def, costs]
  simp only [joined] at parts
  rw [← Multiset.coe_eq_coe, ← parts, List.flatMap, ← Multiset.coe_join]
  simp [Multiset.join, List.map_map, Function.comp_def]

/-- The runs of all chains add up: to the events and to their costs, and in number to the active
    chains that GET /health reports. -/
theorem runs_add_up (r : Arithmetic) (sum : List ℚ → PyFloat) (store : List StepOutcome) (now : ℚ)
    (dated : Dated store) (safe : ∀ o ∈ store, SafePath o.chainId)
    (clocked : Clocked r store now) :
    ((chainsOf store).map fun c =>
      ((runOf r sum store now c).map RunDetail.eventsCount).getD 0).sum = store.length ∧
    (∃ costs : String → List ℚ,
      (∀ c ∈ chainsOf store, (runOf r sum store now c).map RunDetail.totalCost =
        some (sum (costs c))) ∧
      ((chainsOf store).flatMap costs).Perm (finiteCosts store)) ∧
    countActiveChains r store now =
      ((chainsOf store).filter (isActive r sum store now)).length := by
  have each : ∀ c ∈ chainsOf store, ∃ first last,
      runOf r sum store now c = some (runDetail r sum c (ofChain store c) first last now) := by
    intro c member
    obtain ⟨o, stored, rfl⟩ := mem_chainsOf.mp member
    obtain ⟨first, last, run, _⟩ := runOf_present r sum now dated stored (safe o stored)
    exact ⟨first, last, run⟩
  refine ⟨?_, ⟨fun c => finiteCosts (ofChain store c), ?_, finiteCosts_of_chains store⟩,
    countActiveChains_eq clocked dated safe⟩
  · have counts : ((chainsOf store).map fun c => ((ofChain store c).map fun _ => 1).sum).sum =
        store.length := by
      rw [sum_of_chains]
      simp
    rw [← counts]
    congr 1
    refine List.map_congr_left ?_
    intro c member
    obtain ⟨first, last, run⟩ := each c member
    simp [run, runDetail]
  · intro c member
    obtain ⟨first, last, run⟩ := each c member
    rw [run]
    rfl

end Totals

section Incidents
variable {store : List StepOutcome} {chainId stepId : String}

theorem oldestFirst_perm (outcomes : List StepOutcome) : (oldestFirst outcomes).Perm outcomes :=
  KeyedSort.sorted_perm _ outcomes

theorem oldestFirst_pairwise (outcomes : List StepOutcome) :
    (oldestFirst outcomes).Pairwise fun a b => a.timestamp.rank ≤ b.timestamp.rank :=
  KeyedSort.sorted_pairwise _ outcomes

theorem oldestFirst_ranks (outcomes : List StepOutcome) :
    (oldestFirst outcomes).map (fun o => o.timestamp.rank) =
      ((newestFirst outcomes).map fun o => o.timestamp.rank).reverse := by
  have newest := KeyedSort.sorted_pairwise (fun o : StepOutcome =>
    OrderDual.toDual o.timestamp.rank) outcomes
  refine List.Perm.eq_of_pairwise (fun _ _ _ _ => le_antisymm)
    (List.pairwise_map.mpr (oldestFirst_pairwise outcomes)) ?_ ?_
  · rw [List.pairwise_reverse]
    exact List.pairwise_map.mpr newest
  · refine List.Perm.trans ?_ (List.reverse_perm _).symm
    exact ((oldestFirst_perm outcomes).trans (newestFirst_perm outcomes).symm).map _

theorem oldestFirst_times {outcomes : List StepOutcome} (timed : Timed outcomes) :
    (oldestFirst outcomes).map StepOutcome.timestamp =
      ((newestFirst outcomes).map StepOutcome.timestamp).reverse := by
  refine PyFloat.map_rank_inj ?_ ?_ ?_
  · intro x member
    obtain ⟨o, among, rfl⟩ := List.mem_map.mp member
    exact timed o ((oldestFirst_perm outcomes).mem_iff.mp among)
  · intro x member
    obtain ⟨o, among, rfl⟩ := List.mem_map.mp (List.mem_reverse.mp member)
    exact timed o ((newestFirst_perm outcomes).mem_iff.mp among)
  · rw [← List.map_reverse, List.map_map, List.map_map, List.map_reverse]
    exact oldestFirst_ranks outcomes

theorem filter_haltQuery : store.filter (haltQuery chainId).selects =
    (ofChain store chainId).filter fun o => decide (o.decision ∈ haltDecisions) := by
  rw [ofChain, List.filter_filter]
  refine List.filter_congr ?_
  intro o _
  simp [EventQuery.selects, haltQuery, Bool.and_comm]

theorem listed_halts (few : (ofChain store chainId).length ≤ maxResultsCap) :
    listed store (haltQuery chainId) = newestFirst
      ((ofChain store chainId).filter fun o => decide (o.decision ∈ haltDecisions)) := by
  rw [listed_eq, filter_haltQuery, List.take_of_length_le]
  rw [(newestFirst_perm _).length_eq]
  exact (List.length_filter_le _ _).trans few

/-- An incident beside the events of its chain and those of them that halted or degraded it. -/
structure Explains (chainId stepId : String) (incident : IncidentDetail)
    (shown halts : List StepOutcome) : Prop where
  names : incident.chainId = chainId ∧ incident.stepId = stepId
  step : ∃ o ∈ shown, o.chainId = chainId ∧ o.stepId = stepId ∧
    o.decision = incident.decision ∧ some o.policyHash = incident.policyHash ∧
    o.auditId = incident.auditId
  events : incident.timeline.Perm (shown.map TimelineEvent.fromOutcome)
  times : incident.timeline.map TimelineEvent.timestamp = (shown.map StepOutcome.timestamp).reverse
  cause : incident.rootCause.map RootCause.timestamp = halts.getLast?.map StepOutcome.timestamp
  named : ∀ c ∈ incident.rootCause, ∃ o ∈ halts, c = RootCause.fromOutcome o

theorem rootCause_eq (outcomes : List StepOutcome) :
    (oldestFirst outcomes).find? (fun o => decide (o.decision ∈ haltDecisions)) =
      (oldestFirst (outcomes.filter fun o => decide (o.decision ∈ haltDecisions))).head? := by
  rw [oldestFirst, oldestFirst, KeyedSort.sorted_filter, List.head?_filter]

/-- The step an incident is about is one of the listed events of its chain. -/
theorem target_listed {target : StepOutcome}
    (present : store.find? (fun o => o.chainId = chainId ∧ o.stepId = stepId) = some target) :
    target ∈ newestFirst (ofChain store chainId) ∧ target.chainId = chainId ∧
      target.stepId = stepId := by
  have fits : target.chainId = chainId ∧ target.stepId = stepId := by
    simpa using List.find?_some present
  refine ⟨?_, fits⟩
  rw [(newestFirst_perm _).mem_iff]
  exact List.mem_filter.mpr ⟨List.mem_of_find?_eq_some present, decide_eq_true fits.1⟩

theorem rootCause_time (timed : Timed store) :
    ((oldestFirst (ofChain store chainId)).find? fun o => decide (o.decision ∈ haltDecisions)).map
        StepOutcome.timestamp =
      (newestFirst ((ofChain store chainId).filter fun o =>
        decide (o.decision ∈ haltDecisions))).getLast?.map StepOutcome.timestamp := by
  have haltsTimed : Timed ((ofChain store chainId).filter fun o =>
      decide (o.decision ∈ haltDecisions)) :=
    fun o member => timed o (List.mem_of_mem_filter (List.mem_of_mem_filter member))
  have heads := congrArg List.head? (oldestFirst_times haltsTimed)
  rw [List.head?_map, List.head?_reverse, List.getLast?_map] at heads
  rw [rootCause_eq, ← heads]

/-- GET /incidents and GET /events agree on what happened to a chain. -/
theorem incident_explained_by_events (timed : Timed store) (safeChain : SafePath chainId)
    (safeStep : SafePath stepId) (few : (ofChain store chainId).length ≤ maxResultsCap) :
    ((∃ incident, getIncident store chainId stepId = .ok incident) ↔
      ∃ o ∈ listed store (chainQuery chainId), o.stepId = stepId) ∧
    ∀ incident, getIncident store chainId stepId = .ok incident →
      Explains chainId stepId incident (listed store (chainQuery chainId))
        (listed store (haltQuery chainId)) := by
  have chainTimed : Timed (ofChain store chainId) :=
    fun o member => timed o (List.mem_of_mem_filter member)
  rw [listed_chain few, listed_halts few]
  unfold getIncident
  rw [if_pos ⟨safeChain, safeStep⟩]
  constructor
  · constructor
    · rintro ⟨incident, found⟩
      split at found
      · cases found
      · rename_i target present
        obtain ⟨shown, _, step⟩ := target_listed present
        exact ⟨target, shown, step⟩
    · rintro ⟨o, member, same⟩
      rw [(newestFirst_perm _).mem_iff] at member
      obtain ⟨stored, ofChain⟩ := List.mem_filter.mp member
      split
      · rename_i absent
        have none := List.find?_eq_none.mp absent o stored
        exact absurd (decide_eq_true (And.intro (of_decide_eq_true ofChain) same)) none
      · exact ⟨_, rfl⟩
  · intro incident found
    split at found
    · cases found
    · rename_i target present
      cases found
      constructor
      case names => exact ⟨rfl, rfl⟩
      case step =>
        obtain ⟨shown, chain, step⟩ := target_listed present
        exact ⟨target, shown, chain, step, rfl, rfl, rfl⟩
      case events =>
        exact ((oldestFirst_perm _).trans (newestFirst_perm _).symm).map _
      case times =>
        rw [List.map_map]
        exact oldestFirst_times chainTimed
      case cause =>
        rw [← rootCause_time timed, Option.map_map]
        rfl
      case named =>
        intro c cause
        rw [rootCause_eq] at cause
        obtain ⟨o, first, rfl⟩ := Option.map_eq_some_iff.mp cause
        refine ⟨o, ?_, rfl⟩
        rw [(newestFirst_perm _).mem_iff, ← (oldestFirst_perm _).mem_iff]
        exact List.mem_of_head? first

end Incidents

section TwoChains

/-- The built-in `sum` without the compensation of later versions. -/
def plainSum (costs : List ℚ) : PyFloat := .finite (Arithmetic.double.sum costs)

theorem twoChains_dated : Dated twoChains := by
  unfold Dated
  decide

theorem twoChains_few (chainId : String) : (ofChain twoChains chainId).length ≤ maxResultsCap :=
  (List.length_filter_le _ _).trans (by decide)

theorem first_run_summarised :
    (listed twoChains (chainQuery "first") = [] →
      getRun .double plainSum twoChains "first" 1740000400 =
        .error (.http 404 ("No events found for chain_id: " ++ quoted "first"))) ∧
    (listed twoChains (chainQuery "first") ≠ [] →
      ∃ run, getRun .double plainSum twoChains "first" 1740000400 = .ok run ∧
        Summarises plainSum run (listed twoChains (chainQuery "first")) ∧
        (run.status = .active ↔
          Arithmetic.double.fl (1740000400 - run.lastEventAt) ≤ activeWindowSeconds)) :=
  run_summarises_events (by decide +kernel) twoChains_dated (twoChains_few "first")

example : (getRun .double plainSum twoChains "first" 1740000400).toOption.map
    (fun run => (run.status, run.totalCost, run.eventsCount)) =
      some (.active, .finite (Doubles.round (1 / 4)), 2) := by decide +kernel

theorem two_runs_add_up :
    ((chainsOf twoChains).map fun c =>
      ((runOf .double plainSum twoChains 1740000400 c).map RunDetail.eventsCount).getD 0).sum = 3 ∧
    (∃ costs : String → List ℚ,
      (∀ c ∈ chainsOf twoChains, (runOf .double plainSum twoChains 1740000400 c).map
        RunDetail.totalCost = some (plainSum (costs c))) ∧
      ((chainsOf twoChains).flatMap costs).Perm (finiteCosts twoChains)) ∧
    countActiveChains .double twoChains 1740000400 =
      ((chainsOf twoChains).filter (isActive .double plainSum twoChains 1740000400)).length := by
  refine runs_add_up .double plainSum twoChains 1740000400 twoChains_dated ?_ ?_
  · decide +kernel
  · constructor
    case window => decide +kernel
    case elapsed =>
      have each : ∀ o ∈ twoChains, Doubles.round (1740000400 - o.timestamp.finiteOrZero) =
          1740000400 - o.timestamp.finiteOrZero := by decide +kernel
      intro o member q time
      have same := each o member
      rwa [time] at same

theorem answer_explained :
    ((∃ incident, getIncident twoChains "first" "answer" = .ok incident) ↔
      ∃ o ∈ listed twoChains (chainQuery "first"), o.stepId = "answer") ∧
    ∀ incident, getIncident twoChains "first" "answer" = .ok incident →
      Explains "first" "answer" incident (listed twoChains (chainQuery "first"))
        (listed twoChains (haltQuery "first")) :=
  incident_explained_by_events twoChains_dated.timed (by decide +kernel) (by decide +kernel)
    (twoChains_few "first")

end TwoChains

end VeronicaRunQueries
