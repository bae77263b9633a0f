import Mathlib.Algebra.Order.Group.Multiset
import Mathlib.Data.List.Pairwise
import Veronica.EventIngestor

/- Conservation of ingested events. Every event that was converted is in one place: the batch, a
   write in flight, the store, the dead letters, or among the dropped. -/
namespace VeronicaIngestConservation
open VeronicaIngest
variable {O : Type}

def InOrder (outcomes : List (Numbered O)) : Prop :=
  outcomes.Pairwise fun a b => a.number < b.number

def inFlight (s : Threads O) : Multiset (Numbered O) :=
  s.writes.sumOf fun _ write => ↑write.outcomes

/-- The event a call of `ingest` has converted; a thread makes no call while its write is in
    flight. -/
def ingestedBy (s : Threads O) : Action O → List O
  | .ingest ticket (.ok outcome) => if s.writes.get? ticket = none then [outcome] else []
  | _ => []

/-- Whether a call of `ingest` counts a conversion that failed. -/
def countedFailure : Action O → Bool
  | .ingest _ (.error raised) => raised.isException
  | _ => false

/-- A write that the store takes. -/
def persistedBy (s : Threads O) : Action O → List (List (Numbered O))
  | .attempt ticket false => (s.writes.get? ticket).toList.flatMap fun write =>
    if writeAttempts ≤ write.attempt then [] else [write.outcomes]
  | _ => []

/-- The outcomes of a write that is given up for which the dead letters have no room. -/
def droppedBy (s : Threads O) : Action O → List (Numbered O)
  | .giveUp ticket => (s.writes.get? ticket).toList.flatMap fun write =>
    if writeAttempts ≤ write.attempt then (s.ingestor.deadLetters write.outcomes).2 else []
  | _ => []

/-- What a run has done with its events: those converted, numbered in the order of ingestion, the
    writes the store has taken and the outcomes dropped, each in the order it happened; and the
    number of conversions that have failed. -/
structure Log (O : Type) where
  ingested : List (Numbered O)
  persisted : List (List (Numbered O))
  dropped : List (Numbered O)
  failed : Nat

def logOf (start : Threads O) (actions : List (Action O)) : Log O where
  ingested := (Runs.shown act ingestedBy start actions).mapIdx Numbered.mk
  persisted := Runs.shown act persistedBy start actions
  dropped := Runs.shown act droppedBy start actions
  failed := actions.countP countedFailure

def places (log : Log O) (s : Threads O) : Multiset (Numbered O) :=
  ↑s.ingestor.batch + inFlight s + ↑log.persisted.flatten + ↑s.ingestor.deadLetter + ↑log.dropped

def newEvent (s : Threads O) (outcome : O) : Numbered O := ⟨s.ingestor.ingestedTotal, outcome⟩

/-- A new event is counted and left with the thread. -/
def count (s : Threads O) : Threads O :=
  { s with
    ingestor := { s.ingestor with ingestedTotal := s.ingestor.ingestedTotal + 1 } }

/-- The new event joins the batch. -/
def join (s : Threads O) (outcome : O) : Threads O :=
  { s with
    ingestor := { s.ingestor with
      ingestedTotal := s.ingestor.ingestedTotal + 1
      batch := s.ingestor.batch ++ [newEvent s outcome] } }

def unbatch (s : Threads O) : Threads O :=
  { s with ingestor := { s.ingestor with batch := [] } }

/-- `held` are the outcomes a thread has taken from one place and not put into another yet. -/
structure Inv (held : List (Numbered O)) (log : Log O) (s : Threads O) : Prop where
  located : places log s + ↑held = ↑log.ingested
  heldInOrder : InOrder held
  numbered : log.ingested.map Numbered.number = List.range s.ingestor.ingestedTotal
  batchInOrder : InOrder s.ingestor.batch
  writesInOrder : ∀ ticket write, s.writes.get? ticket = some write → InOrder write.outcomes
  persistedInOrder : ∀ outcomes ∈ log.persisted, InOrder outcomes
  bounded : s.ingestor.deadLetter.length ≤ deadLetterMax
  errors : s.ingestor.errorTotal =
    log.failed + s.ingestor.deadLetter.length + log.dropped.length

/-- What an action adds to the log at the state it is taken from. -/
def Log.after (log : Log O) (s : Threads O) (a : Action O) : Log O where
  ingested := log.ingested ++ (ingestedBy s a).map (newEvent s)
  persisted := log.persisted ++ persistedBy s a
  dropped := log.dropped ++ droppedBy s a
  failed := log.failed + if countedFailure a then 1 else 0

/-- The store holds the end of what it has taken. -/
structure Recent (maxRecords : Nat) (log : Log O) (s : Threads O) : Prop where
  cap : s.ingestor.store.maxRecords = maxRecords
  records : s.ingestor.store.records = log.persisted.flatten.rtake maxRecords

theorem inOrder_snoc {outcomes : List (Numbered O)} (ordered : InOrder outcomes)
    {last : Numbered O} (below : ∀ a ∈ outcomes, a.number < last.number) :
    InOrder (outcomes ++ [last]) :=
  List.pairwise_append.mpr ⟨ordered, List.pairwise_singleton _ _, by simpa using below⟩

theorem rtake_append_rtake (n : Nat) (earlier later : List O) :
    (earlier.rtake n ++ later).rtake n = (earlier ++ later).rtake n := by
  simp only [List.rtake_eq_reverse_take_reverse, List.reverse_append, List.reverse_reverse,
    List.take_append, List.take_take, List.length_reverse]
  congr 2
  rw [Nat.min_eq_left (Nat.sub_le _ _)]

theorem rtake_of_length_le {n : Nat} {outcomes : List O} (fits : outcomes.length ≤ n) :
    outcomes.rtake n = outcomes := by
  rw [List.rtake, Nat.sub_eq_zero_of_le fits, List.drop_zero]

theorem putMany_records (store : CPStepOutcomeStore O) (outcomes : List O) :
    (store.putMany outcomes).records = (store.records ++ outcomes).rtake store.maxRecords ∧
      (store.putMany outcomes).maxRecords = store.maxRecords := by
  unfold CPStepOutcomeStore.putMany CPStepOutcomeStore.evictIfNeeded
  split
  · exact ⟨rfl, rfl⟩
  · rename_i fits
    exact ⟨(rtake_of_length_le (not_lt.mp fits)).symm, rfl⟩

theorem mapIdx_ingestedBy (s : Threads O) (a : Action O) :
    (ingestedBy s a).mapIdx (fun i => Numbered.mk (i + s.ingestor.ingestedTotal)) =
      (ingestedBy s a).map (newEvent s) := by
  unfold ingestedBy
  split
  · split <;> simp [newEvent]
  · rfl

theorem logOf_concat {start : Threads O} {earlier : List (Action O)}
    (counted : (Runs.shown act ingestedBy start earlier).length =
      (Runs.run act start earlier).ingestor.ingestedTotal) (a : Action O) :
    logOf start (earlier ++ [a]) =
      (logOf start earlier).after (Runs.run act start earlier) a := by
  rw [logOf, Runs.shown_concat, Runs.shown_concat, Runs.shown_concat, List.mapIdx_append, counted,
    mapIdx_ingestedBy, List.countP_append]
  simp only [List.countP_singleton]
  rfl

section Steps
variable {s : Threads O} {log : Log O} {held : List (Numbered O)}

theorem number_lt (inv : Inv [] log s) {event : Numbered O}
    (waiting : event ∈ s.ingestor.batch) : event.number < s.ingestor.ingestedTotal := by
  have placed : event ∈ (↑log.ingested : Multiset (Numbered O)) := by
    rw [← inv.located, places]
    simp [waiting]
  have listed : event.number ∈ log.ingested.map Numbered.number :=
    List.mem_map_of_mem (Multiset.mem_coe.mp placed)
  rw [inv.numbered] at listed
  exact List.mem_range.mp listed

theorem inv_opened (batchSize maxRecords : Int) :
    Inv [] (logOf (opened O batchSize maxRecords) []) (opened O batchSize maxRecords) := by
  constructor <;> simp [opened, places, inFlight, EventIngestor.create, InOrder, logOf, Runs.shown]

theorem inv_beginWrite (inv : Inv held log s) {ticket : Nat}
    (unused : s.writes.get? ticket = none) : Inv [] log (s.beginWrite ticket held) where
  located := by
    have added : inFlight (s.beginWrite ticket held) = inFlight s + ↑held :=
      Dict.sumOf_set_new unused _ _
    have before := inv.located
    rw [places] at before
    rw [places, added, Multiset.coe_nil, add_zero]
    simp only [Threads.beginWrite]
    rw [← before]
    abel
  heldInOrder := List.Pairwise.nil
  numbered := inv.numbered
  batchInOrder := inv.batchInOrder
  writesInOrder := Dict.forall_set inv.heldInOrder inv.writesInOrder
  persistedInOrder := inv.persistedInOrder
  bounded := inv.bounded
  errors := inv.errors

theorem inv_endWrite (inv : Inv [] log s) {ticket : Nat} {write : Write O}
    (waiting : s.writes.get? ticket = some write) :
    Inv write.outcomes log { s with writes := s.writes.erase ticket } where
  located := by
    have before := inv.located
    have removed : inFlight { s with writes := s.writes.erase ticket } + ↑write.outcomes =
        inFlight s := Dict.sumOf_erase waiting _
    rw [places, ← removed, Multiset.coe_nil, add_zero] at before
    rw [places, ← before]
    abel
  heldInOrder := inv.writesInOrder ticket write waiting
  numbered := inv.numbered
  batchInOrder := inv.batchInOrder
  writesInOrder := Dict.forall_erase ticket inv.writesInOrder
  persistedInOrder := inv.persistedInOrder
  bounded := inv.bounded
  errors := inv.errors

theorem inv_persist (inv : Inv held log s) :
    Inv [] { log with persisted := log.persisted ++ [held] }
      { s with ingestor := s.ingestor.putMany held } where
  located := by
    have before := inv.located
    rw [places] at before
    rw [places, ← before]
    simp only [inFlight, EventIngestor.putMany, List.flatten_append, List.flatten_singleton,
      ← Multiset.coe_add, Multiset.coe_nil, add_zero]
    abel
  heldInOrder := List.Pairwise.nil
  numbered := inv.numbered
  batchInOrder := inv.batchInOrder
  writesInOrder := inv.writesInOrder
  persistedInOrder := by
    intro outcomes member
    rcases List.mem_append.mp member with earlier | last
    · exact inv.persistedInOrder outcomes earlier
    · rw [List.mem_singleton.mp last]
      exact inv.heldInOrder
  bounded := inv.bounded
  errors := inv.errors

theorem inv_deadLetters (inv : Inv held log s) :
    Inv [] { log with dropped := log.dropped ++ (s.ingestor.deadLetters held).2 }
      { s with ingestor := (s.ingestor.deadLetters held).1 } where
  located := by
    have before := inv.located
    rw [places] at before
    rw [places, ← before]
    simp only [inFlight, EventIngestor.deadLetters, Multiset.coe_nil, add_zero]
    set stored := min held.length (deadLetterMax - s.ingestor.deadLetter.length)
    have parts : (↑held : Multiset (Numbered O)) = ↑(held.take stored) + ↑(held.drop stored) := by
      rw [Multiset.coe_add, List.take_append_drop]
    rw [parts, ← Multiset.coe_add, ← Multiset.coe_add]
    abel
  heldInOrder := List.Pairwise.nil
  numbered := inv.numbered
  batchInOrder := inv.batchInOrder
  writesInOrder := inv.writesInOrder
  persistedInOrder := inv.persistedInOrder
  bounded := by
    have before := inv.bounded
    simp only [EventIngestor.deadLetters, List.length_append, List.length_take]
    omega
  errors := by
    have before := inv.errors
    simp only [EventIngestor.deadLetters, List.length_append, List.length_take, List.length_drop]
    omega

theorem inv_unbatch (inv : Inv [] log s) : Inv s.ingestor.batch log (unbatch s) where
  located := by
    have before := inv.located
    simp only [unbatch, places, inFlight, Multiset.coe_nil, add_zero, zero_add] at before ⊢
    rw [← before]
    abel
  heldInOrder := inv.batchInOrder
  numbered := inv.numbered
  batchInOrder := List.Pairwise.nil
  writesInOrder := inv.writesInOrder
  persistedInOrder := inv.persistedInOrder
  bounded := inv.bounded
  errors := inv.errors

/-- The log with one more event. -/
def Log.withEvent (log : Log O) (s : Threads O) (outcome : O) : Log O :=
  { log with ingested := log.ingested ++ [newEvent s outcome] }

theorem numbered_withEvent (inv : Inv [] log s) (outcome : O) :
    (log.withEvent s outcome).ingested.map Numbered.number =
      List.range (s.ingestor.ingestedTotal + 1) := by
  rw [Log.withEvent, List.map_append, inv.numbered, List.range_succ]
  rfl

theorem inv_join (inv : Inv [] log s) (outcome : O) :
    Inv [] (log.withEvent s outcome) (join s outcome) where
  located := by
    have before := inv.located
    simp only [Log.withEvent, join, places, inFlight, ← Multiset.coe_add, Multiset.coe_nil,
      add_zero] at before ⊢
    rw [← before]
    abel
  heldInOrder := List.Pairwise.nil
  numbered := numbered_withEvent inv outcome
  batchInOrder := inOrder_snoc inv.batchInOrder fun _ waiting => number_lt inv waiting
  writesInOrder := inv.writesInOrder
  persistedInOrder := inv.persistedInOrder
  bounded := inv.bounded
  errors := inv.errors

theorem inv_count (inv : Inv [] log s) (outcome : O) :
    Inv [newEvent s outcome] (log.withEvent s outcome) (count s) where
  located := by
    have before := inv.located
    simp only [Log.withEvent, count, places, inFlight, ← Multiset.coe_add, Multiset.coe_nil,
      add_zero] at before ⊢
    rw [← before]
  heldInOrder := List.pairwise_singleton _ _
  numbered := numbered_withEvent inv outcome
  batchInOrder := inv.batchInOrder
  writesInOrder := inv.writesInOrder
  persistedInOrder := inv.persistedInOrder
  bounded := inv.bounded
  errors := inv.errors

/-- Every way the locked section of `ingest` can end. -/
theorem accept_cases (s : Threads O) (ticket : Nat) (outcome : O) :
    s.accept ticket outcome = (count s).beginWrite ticket [newEvent s outcome] ∨
    s.accept ticket outcome =
      (unbatch (join s outcome)).beginWrite ticket (join s outcome).ingestor.batch ∨
    s.accept ticket outcome = join s outcome := by
  by_cases unbatched : s.ingestor.batchSize = 0
  · left
    simp [Threads.accept, EventIngestor.accept, unbatched, count, newEvent, Threads.beginWrite]
  · right
    by_cases full : s.ingestor.batchSize ≤ s.ingestor.batch.length + 1
    · left
      simp [Threads.accept, EventIngestor.accept, unbatched, full, join, unbatch, newEvent]
    · right
      simp [Threads.accept, EventIngestor.accept, unbatched, full, join, newEvent]

theorem inv_accept (inv : Inv [] log s) {ticket : Nat} (unused : s.writes.get? ticket = none)
    (outcome : O) : Inv [] (log.withEvent s outcome) (s.accept ticket outcome) := by
  rcases accept_cases s ticket outcome with eq | eq | eq
  · rw [eq]
    exact inv_beginWrite (inv_count inv outcome) unused
  · rw [eq]
    exact inv_beginWrite (inv_unbatch (inv_join inv outcome)) unused
  · rw [eq]
    exact inv_join inv outcome

theorem inv_flush (inv : Inv [] log s) {ticket : Nat} (unused : s.writes.get? ticket = none) :
    Inv [] log (s.flush ticket) := by
  have taken := inv_unbatch inv
  simp only [Threads.flush, EventIngestor.takeBatch]
  cases pending : s.ingestor.batch with
  | nil =>
    rw [pending] at taken
    exact taken
  | cons outcome later =>
    rw [pending] at taken
    exact inv_beginWrite taken unused

theorem inv_retry (inv : Inv [] log s) {ticket : Nat} {write : Write O}
    (waiting : s.writes.get? ticket = some write) (attempt : Nat) :
    Inv [] log { s with writes := s.writes.set ticket { write with attempt } } where
  located := by
    have ended := (inv_endWrite inv waiting).located
    have again : inFlight { s with writes := s.writes.set ticket { write with attempt } } =
        inFlight { s with writes := s.writes.erase ticket } + ↑write.outcomes :=
      Dict.sumOf_set s.writes ticket _ _
    rw [places] at ended
    rw [places, again, ← ended, Multiset.coe_nil, add_zero]
    abel
  heldInOrder := List.Pairwise.nil
  numbered := inv.numbered
  batchInOrder := inv.batchInOrder
  writesInOrder := Dict.forall_set (inv.writesInOrder ticket write waiting) inv.writesInOrder
  persistedInOrder := inv.persistedInOrder
  bounded := inv.bounded
  errors := inv.errors

theorem inv_conversionFailed (inv : Inv [] log s) (raised : PyExc) :
    Inv [] { log with failed := log.failed + if raised.isException then 1 else 0 }
      { s with ingestor := s.ingestor.conversionFailed raised } := by
  obtain ⟨located, heldInOrder, numbered, batchInOrder, writesInOrder, persistedInOrder, bounded,
    errors⟩ := inv
  unfold EventIngestor.conversionFailed
  split
  · exact ⟨located, heldInOrder, numbered, batchInOrder, writesInOrder, persistedInOrder, bounded,
      by simp only [errors]; omega⟩
  · exact ⟨located, heldInOrder, numbered, batchInOrder, writesInOrder, persistedInOrder, bounded,
      errors⟩

theorem after_silent {a : Action O} (noEvent : ingestedBy s a = [])
    (noWrite : persistedBy s a = []) (noDrop : droppedBy s a = [])
    (noFailure : countedFailure a = false) : log.after s a = log := by
  rw [Log.after, noEvent, noWrite, noDrop, noFailure]
  simp

theorem inv_ingest (inv : Inv [] log s) (ticket : Nat) (converted : Except PyExc O) :
    Inv [] (log.after s (.ingest ticket converted)) (act s (.ingest ticket converted)) := by
  cases converted with
  | error raised =>
    have logged : log.after s (.ingest ticket (.error raised)) =
        { log with failed := log.failed + if raised.isException then 1 else 0 } := by
      simp only [Log.after, ingestedBy, persistedBy, droppedBy, countedFailure, List.map_nil,
        List.append_nil]
      rfl
    rw [logged]
    exact inv_conversionFailed inv raised
  | ok outcome =>
    cases found : s.writes.get? ticket with
    | some write =>
      rw [after_silent (by simp [ingestedBy, found]) rfl rfl rfl]
      simp only [act, found]
      exact inv
    | none =>
      have logged : log.after s (.ingest ticket (.ok outcome)) = log.withEvent s outcome := by
        simp [Log.after, Log.withEvent, ingestedBy, persistedBy, droppedBy, countedFailure, found]
      simp only [act, found, logged]
      exact inv_accept inv found outcome

theorem inv_attempt (inv : Inv [] log s) (ticket : Nat) (raises : Bool) :
    Inv [] (log.after s (.attempt ticket raises)) (act s (.attempt ticket raises)) := by
  cases waiting : s.writes.get? ticket with
  | none =>
    rw [after_silent rfl (by cases raises <;> simp [persistedBy, waiting]) rfl rfl]
    simp only [act, waiting]
    exact inv
  | some write =>
    simp only [act, waiting]
    split
    · rename_i spent
      rw [after_silent rfl (by cases raises <;> simp [persistedBy, waiting, spent]) rfl rfl]
      exact inv
    · rename_i left
      cases raises with
      | true =>
        rw [after_silent rfl rfl rfl rfl]
        exact inv_retry inv waiting _
      | false =>
        have logged : log.after s (.attempt ticket false) =
            { log with persisted := log.persisted ++ [write.outcomes] } := by
          simp [Log.after, ingestedBy, persistedBy, droppedBy, countedFailure, waiting, left]
        rw [logged]
        exact inv_persist (inv_endWrite inv waiting)

theorem inv_giveUp (inv : Inv [] log s) (ticket : Nat) :
    Inv [] (log.after s (.giveUp ticket)) (act s (.giveUp ticket)) := by
  cases waiting : s.writes.get? ticket with
  | none =>
    rw [after_silent rfl rfl (by simp [droppedBy, waiting]) rfl]
    simp only [act, waiting]
    exact inv
  | some write =>
    simp only [act, waiting]
    split
    · rename_i spent
      have logged : log.after s (.giveUp ticket) =
          { log with dropped := log.dropped ++ (s.ingestor.deadLetters write.outcomes).2 } := by
        simp [Log.after, ingestedBy, persistedBy, droppedBy, countedFailure, waiting, spent]
      rw [logged]
      exact inv_deadLetters (inv_endWrite inv waiting)
    · rename_i left
      rw [after_silent rfl rfl (by simp [droppedBy, waiting, left]) rfl]
      exact inv

theorem act_inv (inv : Inv [] log s) (a : Action O) : Inv [] (log.after s a) (act s a) := by
  cases a with
  | ingest ticket converted => exact inv_ingest inv ticket converted
  | flush ticket =>
    rw [after_silent rfl rfl rfl rfl]
    simp only [act]
    split
    · exact inv
    · rename_i unused
      exact inv_flush inv unused
  | attempt ticket raises => exact inv_attempt inv ticket raises
  | giveUp ticket => exact inv_giveUp inv ticket

end Steps

section Store
variable {s : Threads O} {log : Log O} {maxRecords : Nat}

theorem recent_opened (batchSize maxRecords : Int) :
    Recent (max 1 maxRecords).toNat (logOf (opened O batchSize maxRecords) [])
      (opened O batchSize maxRecords) where
  cap := rfl
  records := by simp [opened, EventIngestor.create, CPStepOutcomeStore.create, logOf, Runs.shown]

theorem recent_of_same {later : Log O} {t : Threads O} (recent : Recent maxRecords log s)
    (store : t.ingestor.store = s.ingestor.store) (persisted : later.persisted = log.persisted) :
    Recent maxRecords later t where
  cap := by rw [store, recent.cap]
  records := by rw [store, persisted, recent.records]

theorem recent_persist {later : Log O} (recent : Recent maxRecords log s) (ticket : Nat)
    (write : Write O) (persisted : later.persisted = log.persisted ++ [write.outcomes]) :
    Recent maxRecords later (s.persist ticket write) where
  cap := by
    rw [← recent.cap]
    exact (putMany_records s.ingestor.store write.outcomes).2
  records := by
    show (s.ingestor.store.putMany write.outcomes).records = _
    rw [(putMany_records s.ingestor.store write.outcomes).1, recent.cap, recent.records,
      rtake_append_rtake, persisted, List.flatten_append, List.flatten_singleton]

theorem act_recent (recent : Recent maxRecords log s) (a : Action O) :
    Recent maxRecords (log.after s a) (act s a) := by
  have silent : persistedBy s a = [] → (log.after s a).persisted = log.persisted := by
    intro nothing
    rw [Log.after, nothing, List.append_nil]
  cases a with
  | ingest ticket converted =>
    refine recent_of_same recent ?_ (silent rfl)
    cases converted with
    | error raised =>
      simp only [act, EventIngestor.conversionFailed]
      split <;> rfl
    | ok outcome =>
      simp only [act]
      split
      · rfl
      · rcases accept_cases s ticket outcome with eq | eq | eq <;> rw [eq] <;> rfl
  | flush ticket =>
    refine recent_of_same recent ?_ (silent rfl)
    simp only [act]
    split
    · rfl
    · simp only [Threads.flush, EventIngestor.takeBatch]
      cases s.ingestor.batch <;> rfl
  | attempt ticket raises =>
    cases waiting : s.writes.get? ticket with
    | none =>
      refine recent_of_same recent (by simp only [act, waiting]) (silent ?_)
      cases raises <;> simp [persistedBy, waiting]
    | some write =>
      simp only [act, waiting]
      split
      · rename_i spent
        refine recent_of_same recent rfl (silent ?_)
        cases raises <;> simp [persistedBy, waiting, spent]
      · rename_i left
        cases raises with
        | true => exact recent_of_same recent rfl (silent rfl)
        | false =>
          refine recent_persist recent ticket write ?_
          simp [Log.after, persistedBy, waiting, left]
  | giveUp ticket =>
    refine recent_of_same recent ?_ (silent rfl)
    simp only [act]
    split
    · rfl
    · split <;> rfl

end Store

/-- The events the store has taken, in the order it took them. -/
def persistedSequence (log : Log O) : List (Numbered O) := log.persisted.flatten

structure Conserves (maxRecords : Nat) (log : Log O) (s : Threads O) : Prop where
  everyEventPlaced : places log s = ↑log.ingested
  inOnePlaceOnly : ((places log s).map Numbered.number).Nodup
  total : s.ingestor.ingestedTotal = s.ingestor.batch.length +
    s.writes.sumOf (fun _ write => write.outcomes.length) + (persistedSequence log).length +
    s.ingestor.deadLetter.length + log.dropped.length
  errors : s.ingestor.errorTotal =
    log.failed + s.ingestor.deadLetter.length + log.dropped.length
  persistedOnce : ((persistedSequence log).map Numbered.number).Nodup
  writesKeepOrder : (∀ ticket write, s.writes.get? ticket = some write →
    InOrder write.outcomes) ∧ ∀ outcomes ∈ log.persisted, InOrder outcomes
  deadLetterBounded : s.ingestor.deadLetter.length ≤ 1000
  snapshot : s.ingestor.store.records = (persistedSequence log).rtake maxRecords

theorem card_inFlight (s : Threads O) :
    (inFlight s).card = s.writes.sumOf fun _ write => write.outcomes.length :=
  Dict.map_sumOf (Multiset.cardHom (α := Numbered O)) s.writes _

theorem conserves_of_inv {maxRecords : Nat} {log : Log O} {s : Threads O} (inv : Inv [] log s)
    (recent : Recent maxRecords log s) : Conserves maxRecords log s := by
  have placed : places log s = ↑log.ingested := by simpa using inv.located
  have distinct : ((places log s).map Numbered.number).Nodup := by
    rw [placed, Multiset.map_coe, inv.numbered]
    exact List.nodup_range
  have total := congrArg Multiset.card placed
  have counted := congrArg List.length inv.numbered
  simp only [places, Multiset.card_add, Multiset.coe_card, card_inFlight] at total
  simp only [List.length_map, List.length_range] at counted
  have part : (↑log.persisted.flatten : Multiset (Numbered O)) ≤ places log s := by
    rw [places]
    exact (Multiset.le_add_left _ _).trans
      ((Multiset.le_add_right _ _).trans (Multiset.le_add_right _ _))
  exact {
    everyEventPlaced := placed
    inOnePlaceOnly := distinct
    total := by rw [← counted, ← total]; rfl
    errors := inv.errors
    persistedOnce := Multiset.nodup_of_le (Multiset.map_le_map part) distinct
    writesKeepOrder := ⟨inv.writesInOrder, inv.persistedInOrder⟩
    deadLetterBounded := inv.bounded
    snapshot := recent.records }

theorem inv_run (batchSize maxRecords : Int) (actions : List (Action O)) :
    let log := logOf (opened O batchSize maxRecords) actions
    let s := Runs.run act (opened O batchSize maxRecords) actions
    Inv [] log s ∧ Recent (max 1 maxRecords).toNat log s := by
  let start := opened O batchSize maxRecords
  let Kept (actions : List (Action O)) (s : Threads O) : Prop :=
    Inv [] (logOf start actions) s ∧ Recent (max 1 maxRecords).toNat (logOf start actions) s
  have keep : ∀ earlier s a, Kept earlier s → Runs.run act start earlier = s → True →
      Kept (earlier ++ [a]) (act s a) := by
    rintro earlier _ a ⟨inv, recent⟩ rfl _
    have counted := congrArg List.length inv.numbered
    simp only [logOf, List.length_map, List.length_mapIdx, List.length_range] at counted
    unfold Kept
    rw [logOf_concat counted]
    exact ⟨act_inv inv a, act_recent recent a⟩
  exact Runs.traced_invariant keep
    ⟨inv_opened batchSize maxRecords, recent_opened batchSize maxRecords⟩
    (Runs.eachStep_true start actions)

/-- At the end of every run, and so at every point of one, the events its `ingest` calls have
    converted are conserved: whatever the store refuses, each is in exactly one place. -/
theorem ingest_conserves (batchSize maxRecords : Int) (actions : List (Action O)) :
    Conserves (max 1 maxRecords).toNat (logOf (opened O batchSize maxRecords) actions)
      (Runs.run act (opened O batchSize maxRecords) actions) := by
  obtain ⟨inv, recent⟩ := inv_run batchSize maxRecords actions
  exact conserves_of_inv inv recent

/-- Seven calls of three threads: one write is taken at its second attempt and one is given up. -/
def sharedBatches : List (Action String) :=
  [.ingest 1 (.ok "a"), .ingest 2 (.ok "b"), .attempt 2 true, .ingest 1 (.ok "c"),
    .attempt 2 false, .ingest 2 (.error (.valueError "no hook")), .ingest 1 (.ok "d"),
    .attempt 1 true, .attempt 1 true, .ingest 2 (.ok "e"), .attempt 1 true, .giveUp 1, .flush 3,
    .ingest 2 (.ok "f")]

theorem shared_batches_conserved :
    let start := opened String 2 3
    let log := logOf start sharedBatches
    let s := Runs.run act start sharedBatches
    Conserves 3 log s ∧ log.ingested.length = 6 ∧
      log.persisted.map (List.map Numbered.number) = [[0, 1]] ∧
      s.ingestor.deadLetter.map Numbered.number = [2, 3] ∧
      (s.writes.get? 3).map (fun write => write.outcomes.map Numbered.number) = some [4] ∧
      s.ingestor.batch.map Numbered.number = [5] ∧ s.ingestor.errorTotal = 3 :=
  ⟨ingest_conserves 2 3 sharedBatches, by decide, by decide, by decide, by decide,
    by decide, by decide⟩

end VeronicaIngestConservation
