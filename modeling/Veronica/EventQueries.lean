import Veronica.EventConversion
import Veronica.Library.FloatOrder
import Veronica.Library.KeyedSort
import Veronica.Library.Pages

/- GET /events: the stored outcomes that match the filters, newest first, page by page. -/
namespace VeronicaQueries
open VeronicaConversion

def maxLimit : Nat := 1000
def defaultLimit : Nat := 100
def maxResultsCap : Nat := 10000

/-- A parameter outside the bounds it was declared with, or an HTTPException. -/
inductive Refusal where
  | unprocessable
  | http (statusCode : Nat) (detail : String)
  deriving DecidableEq, Repr

/-- An outcome as the API shows it. -/
structure EventItem where
  stepId : String
  chainId : String
  operationName : String
  decision : String
  costUsd : PyFloat
  tokens : Int
  durationMs : PyFloat
  policyHash : String
  auditId : String
  timestamp : PyFloat
  reasonCode : Option String := none

def EventItem.fromOutcome (outcome : StepOutcome) : EventItem where
  stepId := outcome.stepId
  chainId := outcome.chainId
  operationName := outcome.operationName
  decision := outcome.decision
  costUsd := outcome.costUsd
  tokens := outcome.tokens
  durationMs := outcome.durationMs
  policyHash := outcome.policyHash
  auditId := outcome.auditId
  timestamp := outcome.timestamp
  reasonCode := outcome.reasonCode

structure EventsResponse where
  items : List EventItem
  total : Nat
  offset : Nat
  limit : Nat
  truncated : Bool := false

/-- The parameters of GET /events. -/
structure EventQuery where
  chainId : Option String := none
  decision : Option (List String) := none
  policyHash : Option String := none
  sinceTime : Option PyFloat := none
  untilTime : Option PyFloat := none
  offset : Nat := 0
  limit : Nat := defaultLimit
  deriving DecidableEq

namespace EventQuery
variable (q : EventQuery)

/-- The bounds the parameters are declared with. -/
def Declared : Prop :=
  (∀ id ∈ q.chainId, id.length ≤ 256) ∧ (∀ hash ∈ q.policyHash, hash.length ≤ 64) ∧
    q.offset ≤ maxResultsCap ∧ 1 ≤ q.limit ∧ q.limit ≤ maxLimit

instance : Decidable q.Declared := inferInstanceAs (Decidable (_ ∧ _))

def tooManyDecisions : Bool := q.decision.any fun decisions => decide (20 < decisions.length)

def invalidDecisions : Bool :=
  q.decision.any fun decisions => decisions.any fun d => decide (d ∉ validDecisions)

def badHash : Bool :=
  q.policyHash.any fun hash => !decide (Patterns.Matches isHexDigit 64 64 hash.toList)

def notFinite (time : Option PyFloat) : Bool := time.any fun x => !x.isfinite

/-- `since is not None and until is not None and since > until` -/
def reversedTimes : Bool :=
  q.sinceTime.any fun since => q.untilTime.any fun last => last.lt since

/-- The checks of the handler, in its order. -/
def refusal : Option Refusal :=
  if q.tooManyDecisions then some (.http 400 "Too many decision filter values (max 20)")
  else if q.invalidDecisions then some (.http 400 ("Invalid decision filter value(s). Valid: " ++
    "['allow', 'degrade', 'halt', 'quarantine', 'queue', 'retry', 'unknown']"))
  else if q.badHash then
    some (.http 400 "policy_hash must be a 64-character lowercase hex string")
  else if notFinite q.sinceTime then some (.http 400 "since must be a finite number")
  else if notFinite q.untilTime then some (.http 400 "until must be a finite number")
  else if q.reversedTimes then some (.http 400 "since must be <= until")
  else none

def selects (o : StepOutcome) : Bool :=
  q.chainId.all (fun id => decide (o.chainId = id)) &&
    q.decision.all (fun decisions => decide (o.decision ∈ decisions)) &&
    q.policyHash.all (fun hash => decide (o.policyHash = hash)) &&
    q.sinceTime.all (fun since => since.le o.timestamp) &&
    q.untilTime.all (fun last => o.timestamp.le last)

end EventQuery

/-- `sorted(outcomes, key=lambda o: o.timestamp, reverse=True)`, which keeps the order of ties -/
def newestFirst (outcomes : List StepOutcome) : List StepOutcome :=
  KeyedSort.sorted (fun o => OrderDual.toDual o.timestamp.rank) outcomes

/-- `heapq.nlargest(n, outcomes, key=lambda o: o.timestamp)` -/
def nlargest (n : Nat) (outcomes : List StepOutcome) : List StepOutcome :=
  (newestFirst outcomes).take n

/-- All the pages together. -/
def listed (store : List StepOutcome) (q : EventQuery) : List StepOutcome :=
  let outcomes := store.filter q.selects
  nlargest (min outcomes.length maxResultsCap) outcomes

def respond (store : List StepOutcome) (q : EventQuery) : EventsResponse :=
  let actualTotal := (store.filter q.selects).length
  { items := (((listed store q).drop q.offset).take q.limit).map EventItem.fromOutcome
    total := min actualTotal maxResultsCap
    offset := q.offset
    limit := q.limit
    truncated := decide (maxResultsCap < actualTotal) }

def listEvents (store : List StepOutcome) (q : EventQuery) : Except Refusal EventsResponse :=
  if q.Declared then
    match q.refusal with
    | some refusal => .error refusal
    | none => .ok (respond store q)
  else .error .unprocessable

/-- The timestamps are numbers, infinities included. -/
def Timed (store : List StepOutcome) : Prop := ∀ o ∈ store, o.timestamp ≠ .nan

instance (store : List StepOutcome) : Decidable (Timed store) :=
  inferInstanceAs (Decidable (∀ o ∈ store, o.timestamp ≠ .nan))

section Listing
variable (store : List StepOutcome) (q : EventQuery)

/-- What a client sees that reads all the pages. -/
structure Listing (shown : List StepOutcome) : Prop where
  newestFirst : shown.Pairwise fun a b => b.timestamp.le a.timestamp = true
  ofStore : ∃ omitted, (shown ++ omitted).Perm (store.filter q.selects) ∧
    ∀ a ∈ shown, ∀ b ∈ omitted, b.timestamp.le a.timestamp = true
  length : shown.length = min (store.filter q.selects).length maxResultsCap
  ties : ∀ time, (shown.filter fun o => o.timestamp = .finite time) <+:
    store.filter fun o => q.selects o && decide (o.timestamp = .finite time)

theorem newestFirst_perm (outcomes : List StepOutcome) : (newestFirst outcomes).Perm outcomes :=
  KeyedSort.sorted_perm _ outcomes

theorem newestFirst_pairwise {outcomes : List StepOutcome} (timed : Timed outcomes) :
    (newestFirst outcomes).Pairwise fun a b => b.timestamp.le a.timestamp = true := by
  have inOrder := KeyedSort.sorted_pairwise (fun o : StepOutcome =>
    OrderDual.toDual o.timestamp.rank) outcomes
  refine inOrder.imp_of_mem ?_
  intro a b memberA memberB earlier
  have numberA := timed a ((newestFirst_perm outcomes).mem_iff.mp memberA)
  have numberB := timed b ((newestFirst_perm outcomes).mem_iff.mp memberB)
  exact (PyFloat.rank_le_iff numberB numberA).mp (OrderDual.toDual_le_toDual.mp earlier)

theorem listed_eq : listed store q =
    (newestFirst (store.filter q.selects)).take maxResultsCap := by
  rw [listed, nlargest, ← (newestFirst_perm (store.filter q.selects)).length_eq, min_comm,
    ← List.take_eq_take_min]

theorem length_listed : (listed store q).length =
    min (store.filter q.selects).length maxResultsCap := by
  rw [listed_eq, List.length_take, (newestFirst_perm _).length_eq, min_comm]

theorem rank_eq_iff {x : PyFloat} {time : ℚ} :
    x.rank = (PyFloat.finite time).rank ↔ x = .finite time := by
  cases x <;> simp [PyFloat.rank]

theorem newestFirst_ties (outcomes : List StepOutcome) (time : ℚ) :
    (newestFirst outcomes).filter (fun o => o.timestamp = .finite time) =
      outcomes.filter fun o => o.timestamp = .finite time := by
  have ties := KeyedSort.sorted_ties (fun o : StepOutcome => OrderDual.toDual o.timestamp.rank)
    outcomes (OrderDual.toDual (PyFloat.finite time).rank)
  simpa only [newestFirst, OrderDual.toDual_inj, rank_eq_iff] using ties

theorem listed_listing (timed : Timed store) : Listing store q (listed store q) where
  newestFirst := by
    rw [listed_eq]
    refine (newestFirst_pairwise ?_).sublist (List.take_sublist _ _)
    intro o member
    exact timed o (List.mem_of_mem_filter member)
  ofStore := by
    have inOrder : (newestFirst (store.filter q.selects)).Pairwise fun a b =>
        b.timestamp.le a.timestamp = true :=
      newestFirst_pairwise fun o member => timed o (List.mem_of_mem_filter member)
    rw [listed_eq]
    refine ⟨(newestFirst (store.filter q.selects)).drop maxResultsCap, ?_, ?_⟩
    · rw [List.take_append_drop]
      exact newestFirst_perm _
    · rw [← List.take_append_drop maxResultsCap (newestFirst _)] at inOrder
      exact (List.pairwise_append.mp inOrder).2.2
  length := length_listed store q
  ties := by
    intro time
    have cut := (List.take_prefix maxResultsCap (newestFirst (store.filter q.selects))).filter
      fun o => decide (o.timestamp = .finite time)
    rw [newestFirst_ties, List.filter_filter] at cut
    rw [listed_eq]
    simpa only [Bool.and_comm] using cut

/-- A query that is answered with a page. -/
def Answered : Prop := q.Declared ∧ q.refusal = none

theorem listEvents_ok (answered : Answered q) : listEvents store q = .ok (respond store q) := by
  rw [listEvents, if_pos answered.1, answered.2]

/-- The query for another page. -/
def EventQuery.atOffset (q : EventQuery) (offset : Nat) : EventQuery := { q with offset }

@[simp] theorem refusal_atOffset (offset : Nat) : (q.atOffset offset).refusal = q.refusal := rfl

@[simp] theorem listed_atOffset (offset : Nat) :
    listed store (q.atOffset offset) = listed store q := rfl

theorem Answered.atOffset {q : EventQuery} (answered : Answered q) {offset : Nat}
    (within : offset ≤ maxResultsCap) : Answered (q.atOffset offset) :=
  ⟨⟨answered.1.1, answered.1.2.1, within, answered.1.2.2.2⟩, answered.2⟩

/-- What page n answers. -/
def pageResponse (store : List StepOutcome) (q : EventQuery) (n : Nat) : EventsResponse where
  items := Pages.page q.limit n ((listed store q).map EventItem.fromOutcome)
  total := (listed store q).length
  offset := n * q.limit
  limit := q.limit
  truncated := decide (maxResultsCap < (store.filter q.selects).length)

def pageCount (store : List StepOutcome) (q : EventQuery) : Nat :=
  ((listed store q).length + q.limit - 1) / q.limit

theorem offset_within {n : Nat} (inside : n * q.limit < (listed store q).length) :
    n * q.limit ≤ maxResultsCap := by
  rw [length_listed] at inside
  exact inside.le.trans (min_le_right _ _)

theorem listEvents_page (answered : Answered q) {n : Nat}
    (inside : n * q.limit < (listed store q).length) :
    listEvents store (q.atOffset (n * q.limit)) = .ok (pageResponse store q n) := by
  rw [listEvents_ok store _ (answered.atOffset (offset_within store q inside)), respond,
    pageResponse, length_listed, ← Pages.map_page, Pages.page]
  rfl

/-- The pages of a store that stays as it is hold what there is to see, each outcome once. -/
theorem pages_hold_listing (answered : Answered q) (timed : Timed store) :
    ∃ shown, Listing store q shown ∧
      (∀ n, n * q.limit < shown.length → listEvents store (q.atOffset (n * q.limit)) =
        .ok (pageResponse store q n)) ∧
      (List.range (pageCount store q)).flatMap (fun n => (pageResponse store q n).items) =
        shown.map EventItem.fromOutcome := by
  refine ⟨listed store q, listed_listing store q timed, ?_, ?_⟩
  · intro n inside
    exact listEvents_page store q answered inside
  · have enough : (listed store q).length ≤ pageCount store q * q.limit := by
      have positive := answered.1.2.2.2.1
      have split := Nat.div_add_mod ((listed store q).length + q.limit - 1) q.limit
      have rest := Nat.mod_lt ((listed store q).length + q.limit - 1) positive
      rw [pageCount, Nat.mul_comm]
      omega
    simp only [pageResponse]
    rw [Pages.flatMap_page, List.take_of_length_le]
    rwa [List.length_map]

end Listing

section TwoPages

def outcomeOf (chainId stepId decision : String) (cost timestamp : ℚ) : StepOutcome where
  stepId
  chainId
  operationName := "complete"
  decision
  costUsd := .finite (Doubles.round cost)
  tokens := 10
  durationMs := .finite 20
  policyHash := ""
  auditId := stepId
  timestamp := .finite timestamp

/-- The second chain is halted between the two steps of the first. -/
def twoChains : List StepOutcome :=
  [outcomeOf "first" "request" "allow" (1 / 10) 1740000000,
    outcomeOf "second" "request" "halt" (1 / 5) 1740000100,
    outcomeOf "first" "answer" "degrade" (3 / 20) 1740000200]

/-- The two newest outcomes make one page, the oldest a second one. -/
def inPairs : EventQuery := { limit := 2 }

theorem three_outcomes_listed : ∃ shown, Listing twoChains inPairs shown ∧
    (∀ n, n * inPairs.limit < shown.length → listEvents twoChains
      (inPairs.atOffset (n * inPairs.limit)) = .ok (pageResponse twoChains inPairs n)) ∧
    (List.range (pageCount twoChains inPairs)).flatMap
        (fun n => (pageResponse twoChains inPairs n).items) =
      shown.map EventItem.fromOutcome := by
  refine pages_hold_listing twoChains inPairs ⟨by decide, rfl⟩ ?_
  unfold Timed
  decide

end TwoPages

end VeronicaQueries
