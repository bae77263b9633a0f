import Veronica.EventQueries
import Veronica.IngestConservation

/- The events page of the web UI beside a running ingestor. Its requests, the answers to them and
   the clicks of its reader come in any order with the steps of the threads that ingest. -/
namespace VeronicaEventsPage
open VeronicaConversion VeronicaIngest VeronicaIngestConservation VeronicaQueries

/-- A request in flight, with the query it was sent with and, in time, the answer to it. -/
inductive Request where
  | sent (q : EventQuery)
  | answered (q : EventQuery) (response : Except Refusal EventsResponse)

/-- The state of the page's script, with the filters applied; it is loading while there is a
    request. `shown` only observes: the query of the rows put on display since the filters were
    applied. -/
structure Page where
  filter : EventQuery := {}
  offset : Nat := 0
  total : Nat := 0
  request : Option Request := none
  shown : Option EventQuery := none

structure System where
  threads : Threads StepOutcome
  page : Page := {}

/-- A step of a thread that ingests, a click, a tick of the timer of auto-refresh, or what becomes
    of the request in flight. Filters are set to be applied, also by loading the page. -/
inductive Event where
  | ingest (a : Action StepOutcome)
  | apply (filter : EventQuery)
  | next
  | prev
  | refresh
  | answer
  | deliver
  | fail
  | unauthorized

namespace Page

/-- `buildParams` -/
def query (page : Page) : EventQuery := page.filter.atOffset page.offset

def fetchEvents (page : Page) : Page :=
  if page.request.isSome then page else { page with request := some (.sent page.query) }

def applyFilters (filter : EventQuery) (page : Page) : Page :=
  { page with filter, offset := 0, shown := none }.fetchEvents

/-- The listener of the Next button. -/
def next (page : Page) : Page :=
  if page.offset + page.filter.limit < page.total then
    { page with offset := page.offset + page.filter.limit }.fetchEvents
  else page

/-- The listener of the Previous button. -/
def prev (page : Page) : Page :=
  if 0 < page.offset then { page with offset := page.offset - page.filter.limit }.fetchEvents
  else page

/-- The rows give way to the message of the error. -/
def failed (page : Page) : Page :=
  if page.request.isSome then { page with request := none, shown := none } else page

/-- The rows stay behind the dialog that asks for a key. -/
def unauthorized (page : Page) : Page := { page with request := none }

def render (page : Page) (q : EventQuery) (response : EventsResponse) : Page :=
  { page with total := response.total, request := none, shown := some q }

def deliver (page : Page) : Page :=
  match page.request with
  | some (.answered q (.ok response)) => page.render q response
  | some (.answered _ (.error _)) => page.failed
  | some (.sent _) | none => page

end Page

/-- `store.snapshot()` -/
def stored (s : Threads StepOutcome) : List StepOutcome :=
  s.ingestor.store.records.map Numbered.outcome

/-- The server handles the request that has been sent. -/
def answerRequest (s : System) : Page :=
  match s.page.request with
  | some (.sent q) =>
    { s.page with request := some (.answered q (listEvents (stored s.threads) q)) }
  | some (.answered _ _) | none => s.page

def step (s : System) : Event → System
  | .ingest a => { s with threads := act s.threads a }
  | .apply filter => { s with page := s.page.applyFilters filter }
  | .next => { s with page := s.page.next }
  | .prev => { s with page := s.page.prev }
  | .refresh => { s with page := s.page.fetchEvents }
  | .answer => { s with page := answerRequest s }
  | .deliver => { s with page := s.page.deliver }
  | .fail => { s with page := s.page.failed }
  | .unauthorized => { s with page := s.page.unauthorized }

/-- The rows an event puts on display. -/
def rowsShown (s : System) : Event → List EventItem
  | .deliver =>
    match s.page.request with
    | some (.answered _ (.ok response)) => response.items
    | _ => []
  | _ => []

/-- The times are numbers, the store has room left, so that nothing has been evicted from it, and
    no answer would be truncated. -/
structure Whole (q : EventQuery) (s : System) : Prop where
  timed : Timed (stored s.threads)
  room : s.threads.ingestor.store.records.length < s.threads.ingestor.store.maxRecords
  uncut : ((stored s.threads).filter q.selects).length ≤ maxResultsCap

/-- The filters stay, the page that is turned is on display and not loading, and every answer is
    whole. The script disables the button no earlier than with the rows of the next page. -/
def Patient (q : EventQuery) (s : System) : Event → Prop
  | .apply _ => False
  | .next => s.page.request.isNone ∧ s.page.shown = some s.page.query
  | .answer => Whole q s
  | _ => True

/-- All that was ever put into the store. -/
def persisted (log : Log StepOutcome) : List StepOutcome :=
  (persistedSequence log).map Numbered.outcome

/-- The items that the pages together would show if nothing was evicted or cut. -/
def items (q : EventQuery) (log : Log StepOutcome) : List EventItem :=
  (newestFirst ((persisted log).filter q.selects)).map EventItem.fromOutcome

theorem items_sublist (q : EventQuery) (log : Log StepOutcome) (s : Threads StepOutcome)
    (a : Action StepOutcome) : (items q log).Sublist (items q (log.after s a)) := by
  have grown : persisted log <+: persisted (log.after s a) := by
    rw [persisted, persisted, persistedSequence, persistedSequence, Log.after,
      List.flatten_append, List.map_append]
    exact List.prefix_append _ _
  exact (KeyedSort.sorted_sublist _ (grown.sublist.filter q.selects)).map _

section Reading
variable {maxRecords : Nat} {q : EventQuery} {wanted seen : List EventItem}
  {log : Log StepOutcome} {s : System} {reached : Nat}

/-- What is wanted and has not been on display stands behind the pages that have been. -/
structure Reading (maxRecords : Nat) (q : EventQuery) (wanted seen : List EventItem)
    (log : Log StepOutcome) (s : System) (reached : Nat) : Prop where
  recent : Recent maxRecords log s.threads
  filter : s.page.filter.atOffset 0 = q.atOffset 0
  offset : s.page.offset ≤ reached
  ahead : Pages.Ahead wanted seen (items q log) reached
  sent : ∀ r, s.page.request = some (.sent r) → ∃ o ≤ reached, r = q.atOffset o
  answered : ∀ r response, s.page.request = some (.answered r (.ok response)) →
    ∃ o, r = q.atOffset o ∧
      Pages.Ahead wanted (seen ++ response.items) (items q log) (max reached (o + q.limit)) ∧
      (response.total ≤ o + q.limit → ∀ x ∈ wanted, x ∈ seen ++ response.items)
  shown : ∀ r, s.page.shown = some r → ∃ o, r = q.atOffset o ∧ o + q.limit ≤ reached ∧
    (s.page.total ≤ o + q.limit → ∀ x ∈ wanted, x ∈ seen)

theorem listEvents_ok_iff {store : List StepOutcome} {response : EventsResponse} :
    listEvents store q = .ok response ↔ Answered q ∧ respond store q = response := by
  constructor
  · intro ok
    unfold listEvents at ok
    split at ok
    · rename_i declared
      split at ok
      · cases ok
      · rename_i fine
        exact ⟨⟨declared, fine⟩, Except.ok.inj ok⟩
    · cases ok
  · rintro ⟨answered, rfl⟩
    exact listEvents_ok store q answered

theorem stored_whole (recent : Recent maxRecords log s.threads) (whole : Whole q s) :
    stored s.threads = persisted log := by
  have room := whole.room
  have records := recent.records
  rw [recent.cap, records, List.rtake, List.length_drop] at room
  have fits : log.persisted.flatten.length ≤ maxRecords := by omega
  rw [rtake_of_length_le fits] at records
  rw [stored, records]
  rfl

theorem respond_whole (recent : Recent maxRecords log s.threads) (whole : Whole q s) (o : Nat) :
    (respond (stored s.threads) (q.atOffset o)).items = ((items q log).drop o).take q.limit ∧
    (respond (stored s.threads) (q.atOffset o)).total = (items q log).length := by
  have same := stored_whole recent whole
  have uncut := whole.uncut
  rw [same] at uncut ⊢
  have all : listed (persisted log) q = newestFirst ((persisted log).filter q.selects) := by
    rw [listed_eq, List.take_of_length_le]
    rwa [(newestFirst_perm _).length_eq]
  constructor
  · rw [respond, listed_atOffset, all, items, List.map_take, List.map_drop]
    rfl
  · rw [items, List.length_map, (newestFirst_perm _).length_eq]
    exact min_eq_left uncut

theorem Reading.query (inv : Reading maxRecords q wanted seen log s reached) (o : Nat) :
    s.page.filter.atOffset o = q.atOffset o := by
  have same := congrArg (fun r => EventQuery.atOffset r o) inv.filter
  exact same

theorem Reading.limit (inv : Reading maxRecords q wanted seen log s reached) :
    s.page.filter.limit = q.limit := by
  have same := congrArg EventQuery.limit inv.filter
  exact same

theorem reading_ingest (inv : Reading maxRecords q wanted seen log s reached)
    (a : Action StepOutcome) :
    Reading maxRecords q wanted seen (log.after s.threads a) (step s (.ingest a)) reached where
  recent := act_recent inv.recent a
  filter := inv.filter
  offset := inv.offset
  ahead := inv.ahead.grown (items_sublist q log s.threads a)
  sent := inv.sent
  answered := by
    intro r response waiting
    obtain ⟨o, same, ahead, complete⟩ := inv.answered r response waiting
    exact ⟨o, same, ahead.grown (items_sublist q log s.threads a), complete⟩
  shown := inv.shown

theorem reading_fetch (inv : Reading maxRecords q wanted seen log s reached) :
    Reading maxRecords q wanted seen log { s with page := s.page.fetchEvents } reached := by
  unfold Page.fetchEvents
  split
  · exact inv
  · refine ⟨inv.recent, inv.filter, inv.offset, inv.ahead, ?_, ?_, inv.shown⟩
    · intro r sending
      cases sending
      exact ⟨s.page.offset, inv.offset, inv.query _⟩
    · intro r response waiting
      cases waiting

/-- The offset may move as long as it is not past what has been on display. -/
theorem reading_move (inv : Reading maxRecords q wanted seen log s reached) {offset : Nat}
    (within : offset ≤ reached) :
    Reading maxRecords q wanted seen log { s with page := { s.page with offset } } reached :=
  ⟨inv.recent, inv.filter, within, inv.ahead, inv.sent, inv.answered, inv.shown⟩

theorem reading_unauthorized (inv : Reading maxRecords q wanted seen log s reached) :
    Reading maxRecords q wanted seen log { s with page := s.page.unauthorized } reached := by
  refine ⟨inv.recent, inv.filter, inv.offset, inv.ahead, ?_, ?_, inv.shown⟩
  · intro r sending
    cases sending
  · intro r response waiting
    cases waiting

theorem reading_failed (inv : Reading maxRecords q wanted seen log s reached) :
    Reading maxRecords q wanted seen log { s with page := s.page.failed } reached := by
  unfold Page.failed
  split
  · refine ⟨inv.recent, inv.filter, inv.offset, inv.ahead, ?_, ?_, ?_⟩
    · intro r sending
      cases sending
    · intro r response waiting
      cases waiting
    · intro r onDisplay
      cases onDisplay
  · exact inv

theorem reading_answer (inv : Reading maxRecords q wanted seen log s reached)
    (whole : Whole q s) :
    Reading maxRecords q wanted seen log { s with page := answerRequest s } reached := by
  unfold answerRequest
  split
  · rename_i r sending
    refine ⟨inv.recent, inv.filter, inv.offset, inv.ahead, ?_, ?_, inv.shown⟩
    · intro r' sending'
      cases sending'
    · intro r' response waiting
      simp only [Option.some.injEq, Request.answered.injEq] at waiting
      obtain ⟨rfl, answer⟩ := waiting
      obtain ⟨o, within, rfl⟩ := inv.sent r sending
      obtain ⟨_, rfl⟩ := listEvents_ok_iff.mp answer
      obtain ⟨page, total⟩ := respond_whole inv.recent whole o
      have read := inv.ahead.read within q.limit
      refine ⟨o, rfl, ?_⟩
      rw [page, total]
      refine ⟨read, ?_⟩
      intro last
      exact read.all (last.trans (le_max_right _ _))
  · exact inv
  · exact inv

theorem reading_deliver (inv : Reading maxRecords q wanted seen log s reached) :
    ∃ reached, Reading maxRecords q wanted (seen ++ rowsShown s .deliver) log
      { s with page := s.page.deliver } reached := by
  unfold Page.deliver rowsShown
  cases request : s.page.request with
  | none =>
    rw [List.append_nil]
    exact ⟨reached, inv⟩
  | some sent =>
    cases sent with
    | sent r =>
      rw [List.append_nil]
      exact ⟨reached, inv⟩
    | answered r response =>
      cases response with
      | error refusal =>
        rw [List.append_nil]
        exact ⟨reached, reading_failed inv⟩
      | ok response =>
        obtain ⟨o, rfl, ahead, complete⟩ := inv.answered r response request
        refine ⟨max reached (o + q.limit), inv.recent, inv.filter, ?_, ahead, ?_, ?_, ?_⟩
        · exact inv.offset.trans (le_max_left _ _)
        · intro r sending
          cases sending
        · intro r response' waiting
          cases waiting
        · intro r onDisplay
          cases onDisplay
          exact ⟨o, rfl, le_max_right _ _, complete⟩

theorem reading_step (inv : Reading maxRecords q wanted seen log s reached) {e : Event}
    (patient : Patient q s e) : ∃ log reached,
      Reading maxRecords q wanted (seen ++ rowsShown s e) log (step s e) reached := by
  have silent : ∀ t log, Reading maxRecords q wanted seen log t reached →
      rowsShown s e = [] → ∃ log reached,
        Reading maxRecords q wanted (seen ++ rowsShown s e) log t reached := by
    intro t log inv none
    rw [none, List.append_nil]
    exact ⟨log, reached, inv⟩
  cases e with
  | ingest a => exact silent _ _ (reading_ingest inv a) rfl
  | apply filter => exact patient.elim
  | next =>
    refine silent _ log ?_ rfl
    simp only [step, Page.next]
    split
    · obtain ⟨o, same, within, _⟩ := inv.shown _ patient.2
      have here : s.page.offset = o := congrArg EventQuery.offset same
      rw [← here, ← inv.limit] at within
      exact reading_fetch (reading_move inv within)
    · exact inv
  | prev =>
    refine silent _ log ?_ rfl
    simp only [step, Page.prev]
    split
    · exact reading_fetch (reading_move inv ((Nat.sub_le _ _).trans inv.offset))
    · exact inv
  | refresh => exact silent _ log (reading_fetch inv) rfl
  | answer => exact silent _ log (reading_answer inv patient) rfl
  | deliver =>
    obtain ⟨reached, after⟩ := reading_deliver inv
    exact ⟨log, reached, after⟩
  | fail => exact silent _ log (reading_failed inv) rfl
  | unauthorized => exact silent _ log (reading_unauthorized inv) rfl

/-- Filters applied while nothing is loading are read from the first page on. -/
theorem reading_applied (recent : Recent maxRecords log s.threads)
    (idle : s.page.request = none) :
    Reading maxRecords q (items q log) [] log (step s (.apply q)) 0 := by
  simp only [step, Page.applyFilters, Page.fetchEvents, idle]
  refine ⟨recent, rfl, le_refl 0, Pages.ahead_start _ _, ?_, ?_, ?_⟩
  · intro r sending
    cases sending
    exact ⟨0, le_refl 0, rfl⟩
  · intro r response waiting
    cases waiting
  · intro r onDisplay
    cases onDisplay

end Reading

theorem recent_run (batchSize maxRecords : Int) (events : List Event) : ∃ log,
    Recent (max 1 maxRecords).toNat log
      (Runs.run step { threads := opened StepOutcome batchSize maxRecords } events).threads := by
  let Bounded (s : System) : Prop := ∃ log, Recent (max 1 maxRecords).toNat log s.threads
  have keep : ∀ s e, Bounded s → True → Bounded (step s e) := by
    rintro s e ⟨log, recent⟩ _
    cases e with
    | ingest a => exact ⟨_, act_recent recent a⟩
    | apply _ | next | prev | refresh | answer | deliver | fail | unauthorized =>
      exact ⟨log, recent⟩
  have start : Bounded { threads := opened StepOutcome batchSize maxRecords } :=
    ⟨_, recent_opened batchSize maxRecords⟩
  exact Runs.run_invariant keep start (Runs.eachStep_true _ events)

/-- Filters are applied at some point of any run, while nothing is loading. A reader who from then
    on turns the pages one by one up to the last has seen every event that was selected and stored
    at that point, whatever is ingested meanwhile and however often they turn back or a request
    fails. -/
theorem reader_misses_nothing (batchSize maxRecords : Int) (earlier : List Event)
    (q : EventQuery) (later : List Event) :
    let before := Runs.run step { threads := opened StepOutcome batchSize maxRecords } earlier
    before.page.request = none →
    Runs.EachStep step (Patient q) (step before (.apply q)) later →
    let s := Runs.run step (step before (.apply q)) later
    ∀ shown, s.page.shown = some shown → s.page.total ≤ shown.offset + shown.limit →
      ∀ x ∈ stored before.threads, q.selects x = true →
        EventItem.fromOutcome x ∈ Runs.shown step rowsShown (step before (.apply q)) later := by
  intro before idle patient s shown onDisplay last x member selected
  obtain ⟨log, recent⟩ := recent_run batchSize maxRecords earlier
  let start := step before (.apply q)
  let wanted := items q log
  have keep : ∀ (events : List Event) s e, (∃ log reached, Reading (max 1 maxRecords).toNat q
      wanted (Runs.shown step rowsShown start events) log s reached) →
      Runs.run step start events = s → Patient q s e → ∃ log reached,
        Reading (max 1 maxRecords).toNat q wanted
          (Runs.shown step rowsShown start (events ++ [e])) log (step s e) reached := by
    rintro events _ e ⟨log, reached, inv⟩ rfl patient
    rw [Runs.shown_concat]
    exact reading_step inv patient
  obtain ⟨_, reached, inv⟩ := Runs.traced_invariant keep
    ⟨log, 0, reading_applied recent idle⟩ patient
  obtain ⟨o, rfl, _, complete⟩ := inv.shown shown onDisplay
  refine complete last _ (List.mem_map_of_mem ?_)
  have everStored : x ∈ persisted log := by
    rw [stored, recent.records] at member
    exact (List.drop_sublist _ _).map _ |>.subset member
  exact (newestFirst_perm _).mem_iff.mpr (List.mem_filter.mpr ⟨everStored, selected⟩)

def outcomeOf (stepId : String) (timestamp : ℚ) : StepOutcome :=
  { costOutcome with stepId, timestamp := .finite timestamp }

/-- An outcome is ingested and written to the store. -/
def ingestOne (outcome : StepOutcome) : List Event :=
  [.ingest (.ingest 1 (.ok outcome)), .ingest (.attempt 1 false)]

/-- The first page of two is answered, a third event comes in, and the pages are turned. -/
def turned : List Event :=
  .answer :: ingestOne (outcomeOf "third" 3) ++
    [.deliver, .next, .answer, .deliver, .next, .answer, .deliver]

theorem two_events_seen :
    let q : EventQuery := { limit := 1 }
    let before := Runs.run step { threads := opened StepOutcome 0 10 }
      (ingestOne (outcomeOf "first" 1) ++ ingestOne (outcomeOf "second" 2))
    (stored before.threads).length = 2 ∧
    ∀ x ∈ stored before.threads, EventItem.fromOutcome x ∈
      Runs.shown step rowsShown (step before (.apply q)) turned := by
  intro q before
  refine ⟨rfl, fun x member => ?_⟩
  have whole : ∀ s : System, Timed (stored s.threads) →
      s.threads.ingestor.store.maxRecords = 10 → s.threads.ingestor.store.records.length ≤ 3 →
      Whole q s := by
    intro s timed max few
    refine ⟨timed, by omega, (List.length_filter_le _ _).trans ?_⟩
    rw [stored, List.length_map]
    exact few.trans (by decide)
  have patient : Runs.EachStep step (Patient q) (step before (.apply q)) turned := by
    refine ⟨whole _ ?_ ?_ ?_, trivial, trivial, trivial, ⟨?_, ?_⟩, whole _ ?_ ?_ ?_, trivial,
      ⟨?_, ?_⟩, whole _ ?_ ?_ ?_, trivial, trivial⟩ <;> decide +kernel
  exact reader_misses_nothing 0 10 _ q turned rfl patient (q.atOffset 2) (by decide +kernel)
    (by decide +kernel) x member rfl

end VeronicaEventsPage
