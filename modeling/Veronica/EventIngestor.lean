import Mathlib.Data.List.DropRight
import Veronica.Library.Dict
import Veronica.Library.PyValue
import Veronica.Library.Runs

/- EventIngestor: kernel events become outcomes, outcomes are batched, and full batches are
   written to a store outside the ingestor's lock, with retries and a dead-letter list. -/
namespace VeronicaIngest

/-- A converted outcome with its place in the order of ingestion, which no code reads. -/
structure Numbered (O : Type) where
  number : Nat
  outcome : O

def defaultMaxRecords : Int := 500000

structure CPStepOutcomeStore (R : Type) where
  records : List R
  maxRecords : Nat

namespace CPStepOutcomeStore
variable {R : Type}

def create (maxRecords : Int := defaultMaxRecords) : CPStepOutcomeStore R where
  records := []
  maxRecords := (max 1 maxRecords).toNat

def evictIfNeeded (store : CPStepOutcomeStore R) : CPStepOutcomeStore R :=
  if store.maxRecords < store.records.length then
    { store with records := store.records.rtake store.maxRecords }
  else store

def putMany (store : CPStepOutcomeStore R) (outcomes : List R) : CPStepOutcomeStore R :=
  evictIfNeeded { store with records := store.records ++ outcomes }

end CPStepOutcomeStore

def deadLetterMax : Nat := 1000

/-- `_WRITE_RETRY_DELAYS`, in seconds -/
def writeRetryDelays : List ℚ := [1 / 10, 2 / 10]
def writeAttempts : Nat := writeRetryDelays.length + 1

structure EventIngestor (O : Type) where
  store : CPStepOutcomeStore (Numbered O)
  batchSize : Nat
  batch : List (Numbered O) := []
  ingestedTotal : Nat := 0
  errorTotal : Nat := 0
  deadLetter : List (Numbered O) := []

namespace EventIngestor
variable {O : Type}

def create (store : CPStepOutcomeStore (Numbered O)) (batchSize : Int) : EventIngestor O where
  store := store
  batchSize := (max 0 batchSize).toNat

/-- A failed conversion is counted, unless what it raised is no Exception. -/
def conversionFailed (e : EventIngestor O) (raised : PyExc) : EventIngestor O :=
  if raised.isException then { e with errorTotal := e.errorTotal + 1 } else e

/-- The locked section of `ingest`, with the outcomes to write now, if any. -/
def accept (e : EventIngestor O) (converted : O) :
    EventIngestor O × Option (List (Numbered O)) :=
  let outcome : Numbered O := ⟨e.ingestedTotal, converted⟩
  let e := { e with ingestedTotal := e.ingestedTotal + 1 }
  if e.batchSize = 0 then (e, some [outcome])
  else
    let batch := e.batch ++ [outcome]
    if e.batchSize ≤ batch.length then ({ e with batch := [] }, some batch)
    else ({ e with batch }, none)

/-- The locked section of `flush`. -/
def takeBatch (e : EventIngestor O) : EventIngestor O × List (Numbered O) :=
  ({ e with batch := [] }, e.batch)

/-- The locked section at the end of `_write`, with the outcomes that find no room. -/
def deadLetters (e : EventIngestor O) (outcomes : List (Numbered O)) :
    EventIngestor O × List (Numbered O) :=
  let available := deadLetterMax - e.deadLetter.length
  let actuallyStored := min outcomes.length available
  ({ e with
      errorTotal := e.errorTotal + outcomes.length
      deadLetter := e.deadLetter ++ outcomes.take actuallyStored },
    outcomes.drop actuallyStored)

def putMany (e : EventIngestor O) (outcomes : List (Numbered O)) : EventIngestor O :=
  { e with store := e.store.putMany outcomes }

/-- `_write` with no other thread in between; `raises` are the attempts at which the store
    fails. -/
def writeFrom (e : EventIngestor O) (outcomes : List (Numbered O)) (raises : Nat → Bool) :
    List Nat → EventIngestor O × Nat
  | [] => ((e.deadLetters outcomes).1, 0)
  | attempt :: later =>
    if raises attempt then e.writeFrom outcomes raises later
    else (e.putMany outcomes, outcomes.length)

def write (e : EventIngestor O) (outcomes : List (Numbered O)) (raises : Nat → Bool) :
    EventIngestor O × Nat :=
  e.writeFrom outcomes raises (List.range writeAttempts)

def ingest (e : EventIngestor O) (converted : Except PyExc O) (raises : Nat → Bool) :
    EventIngestor O :=
  match converted with
  | .error raised => e.conversionFailed raised
  | .ok outcome =>
    match e.accept outcome with
    | (e, none) => e
    | (e, some flushNow) => (e.write flushNow raises).1

def ingestMany (e : EventIngestor O) (events : List (Except PyExc O × (Nat → Bool))) :
    EventIngestor O :=
  events.foldl (fun e event => e.ingest event.1 event.2) e

def flush (e : EventIngestor O) (raises : Nat → Bool) : EventIngestor O × Nat :=
  match e.takeBatch with
  | (e, []) => (e, 0)
  | (e, pending) => e.write pending raises

end EventIngestor

/-- A write between two of its attempts; `attempt` have failed so far. -/
structure Write (O : Type) where
  outcomes : List (Numbered O)
  attempt : Nat := 0

/-- The ingestor and the writes in flight, by the ticket of the thread. -/
structure Threads (O : Type) where
  ingestor : EventIngestor O
  writes : Dict Nat (Write O) := ∅

/-- A conversion may read the clock or draw a UUID, so its outcome comes with the action. -/
inductive Action (O : Type) where
  | ingest (ticket : Nat) (converted : Except PyExc O)
  | flush (ticket : Nat)
  | attempt (ticket : Nat) (raises : Bool)
  | giveUp (ticket : Nat)

namespace Threads
variable {O : Type}

def beginWrite (s : Threads O) (ticket : Nat) (outcomes : List (Numbered O)) : Threads O :=
  { s with writes := s.writes.set ticket { outcomes } }

def accept (s : Threads O) (ticket : Nat) (outcome : O) : Threads O :=
  match s.ingestor.accept outcome with
  | (ingestor, none) => { s with ingestor }
  | (ingestor, some flushNow) => { s with ingestor }.beginWrite ticket flushNow

def flush (s : Threads O) (ticket : Nat) : Threads O :=
  match s.ingestor.takeBatch with
  | (ingestor, []) => { s with ingestor }
  | (ingestor, pending) => { s with ingestor }.beginWrite ticket pending

def persist (s : Threads O) (ticket : Nat) (write : Write O) : Threads O :=
  { s with
    ingestor := s.ingestor.putMany write.outcomes
    writes := s.writes.erase ticket }

def giveUp (s : Threads O) (ticket : Nat) (write : Write O) : Threads O :=
  { s with
    ingestor := (s.ingestor.deadLetters write.outcomes).1
    writes := s.writes.erase ticket }

end Threads

/-- A thread whose write is in flight makes no other call. -/
def act {O : Type} (s : Threads O) : Action O → Threads O
  | .ingest _ (.error raised) => { s with ingestor := s.ingestor.conversionFailed raised }
  | .ingest ticket (.ok outcome) =>
    match s.writes.get? ticket with
    | some _ => s
    | none => s.accept ticket outcome
  | .flush ticket =>
    match s.writes.get? ticket with
    | some _ => s
    | none => s.flush ticket
  | .attempt ticket raises =>
    match s.writes.get? ticket with
    | none => s
    | some write =>
      if writeAttempts ≤ write.attempt then s
      else if raises then
        { s with writes := s.writes.set ticket { write with attempt := write.attempt + 1 } }
      else s.persist ticket write
  | .giveUp ticket =>
    match s.writes.get? ticket with
    | none => s
    | some write => if writeAttempts ≤ write.attempt then s.giveUp ticket write else s

def opened (O : Type) (batchSize maxRecords : Int) : Threads O :=
  { ingestor := EventIngestor.create (CPStepOutcomeStore.create maxRecords) batchSize }

/-- The attempts of one write in a row are `_write`. -/
theorem write_eq_run {O : Type} (s : Threads O) (ticket : Nat) (outcomes : List (Numbered O))
    (raises : Nat → Bool) :
    (Runs.run act (s.beginWrite ticket outcomes) [.attempt ticket (raises 0),
      .attempt ticket (raises 1), .attempt ticket (raises 2), .giveUp ticket]).ingestor =
      (s.ingestor.write outcomes raises).1 := by
  have attempts : writeAttempts = 3 := rfl
  have order : List.range writeAttempts = [0, 1, 2] := rfl
  simp only [Runs.run, List.foldl_cons, List.foldl_nil, EventIngestor.write, order,
    EventIngestor.writeFrom]
  cases first : raises 0 <;> cases second : raises 1 <;> cases third : raises 2 <;>
    simp [act, Threads.beginWrite, Threads.persist, Threads.giveUp, attempts, Dict.get?_erase]

theorem write_frees {O : Type} (s : Threads O) (ticket : Nat) (outcomes : List (Numbered O))
    (raises : Nat → Bool) :
    (Runs.run act (s.beginWrite ticket outcomes) [.attempt ticket (raises 0),
      .attempt ticket (raises 1), .attempt ticket (raises 2), .giveUp ticket]).writes.get? ticket =
      none := by
  have attempts : writeAttempts = 3 := rfl
  simp only [Runs.run, List.foldl_cons, List.foldl_nil]
  cases first : raises 0 <;> cases second : raises 1 <;> cases third : raises 2 <;>
    simp [act, Threads.beginWrite, Threads.persist, Threads.giveUp, attempts, Dict.get?_erase]

theorem idle_run {O : Type} (s : Threads O) {ticket : Nat} (unused : s.writes.get? ticket = none)
    (raises : Nat → Bool) :
    Runs.run act s [.attempt ticket (raises 0), .attempt ticket (raises 1),
      .attempt ticket (raises 2), .giveUp ticket] = s := by
  simp [Runs.run, act, unused]

/-- A call of `ingest` that no other thread comes between is `ingest`. -/
theorem ingest_eq_run {O : Type} (s : Threads O) {ticket : Nat}
    (unused : s.writes.get? ticket = none) (converted : Except PyExc O) (raises : Nat → Bool) :
    (Runs.run act s [.ingest ticket converted, .attempt ticket (raises 0),
      .attempt ticket (raises 1), .attempt ticket (raises 2), .giveUp ticket]).ingestor =
      s.ingestor.ingest converted raises := by
  cases converted with
  | error raised =>
    exact congrArg Threads.ingestor
      (idle_run { s with ingestor := s.ingestor.conversionFailed raised } unused raises)
  | ok outcome =>
    have entered : act s (.ingest ticket (.ok outcome)) = s.accept ticket outcome := by
      simp only [act, unused]
    rw [Runs.run, List.foldl_cons, entered, EventIngestor.ingest, Threads.accept]
    cases accepted : s.ingestor.accept outcome with
    | mk ingestor flushNow =>
      cases flushNow with
      | none =>
        exact congrArg Threads.ingestor (idle_run { s with ingestor } unused raises)
      | some outcomes => exact write_eq_run _ ticket outcomes raises

theorem ingest_frees {O : Type} (s : Threads O) {ticket : Nat}
    (unused : s.writes.get? ticket = none) (converted : Except PyExc O) (raises : Nat → Bool) :
    (Runs.run act s [.ingest ticket converted, .attempt ticket (raises 0),
      .attempt ticket (raises 1), .attempt ticket (raises 2), .giveUp ticket]).writes.get? ticket =
      none := by
  cases converted with
  | error raised =>
    let failed := { s with ingestor := s.ingestor.conversionFailed raised }
    exact (congrArg (fun s => s.writes.get? ticket) (idle_run failed unused raises)).trans unused
  | ok outcome =>
    have entered : act s (.ingest ticket (.ok outcome)) = s.accept ticket outcome := by
      simp only [act, unused]
    rw [Runs.run, List.foldl_cons, entered, Threads.accept]
    cases accepted : s.ingestor.accept outcome with
    | mk ingestor flushNow =>
      cases flushNow with
      | none =>
        have idle := idle_run { s with ingestor } unused raises
        exact (congrArg (fun s => s.writes.get? ticket) idle).trans unused
      | some outcomes => exact write_frees _ ticket outcomes raises

/-- The calls of `ingest_many` that no other thread comes between are `ingest_many`. -/
theorem ingestMany_eq_run {O : Type} (s : Threads O) {ticket : Nat}
    (unused : s.writes.get? ticket = none)
    (events : List (Except PyExc O × (Nat → Bool))) :
    (Runs.run act s (events.flatMap fun event => [.ingest ticket event.1,
      .attempt ticket (event.2 0), .attempt ticket (event.2 1), .attempt ticket (event.2 2),
      .giveUp ticket])).ingestor = s.ingestor.ingestMany events := by
  induction events generalizing s with
  | nil => rfl
  | cons event later ih =>
    rw [List.flatMap_cons, Runs.run_append, ih _ (ingest_frees s unused event.1 event.2),
      ingest_eq_run s unused, EventIngestor.ingestMany, EventIngestor.ingestMany, List.foldl_cons]

theorem flush_eq_run {O : Type} (s : Threads O) {ticket : Nat}
    (unused : s.writes.get? ticket = none) (raises : Nat → Bool) :
    (Runs.run act s [.flush ticket, .attempt ticket (raises 0),
      .attempt ticket (raises 1), .attempt ticket (raises 2), .giveUp ticket]).ingestor =
      (s.ingestor.flush raises).1 := by
  have entered : act s (.flush ticket) = s.flush ticket := by
    simp only [act, unused]
  rw [Runs.run, List.foldl_cons, entered, EventIngestor.flush, Threads.flush]
  cases taken : s.ingestor.takeBatch with
  | mk ingestor pending =>
    cases pending with
    | nil => exact congrArg Threads.ingestor (idle_run { s with ingestor } unused raises)
    | cons outcome later => exact write_eq_run _ ticket (outcome :: later) raises

end VeronicaIngest
