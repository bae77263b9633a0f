import Veronica.EventSchema
import Veronica.EventsPage
import Veronica.Library.Tally

/- From a kernel event to what the API serves of it: ingestion in any interleaving, the store, and
   the queries on it. -/
namespace VeronicaServed
open VeronicaConversion VeronicaSchema VeronicaIngest VeronicaIngestConservation VeronicaQueries
open VeronicaEventsPage
open VeronicaTypes (SafetyEvent)

section Places

/-- What holds of every outcome that is converted holds of every outcome there is, wherever it is
    by now. -/
theorem everywhere {holds : StepOutcome → Prop} (batchSize maxRecords : Int)
    {actions : List (Action StepOutcome)}
    (all : ∀ ticket outcome, .ingest ticket (.ok outcome) ∈ actions → holds outcome) :
    let log := logOf (opened StepOutcome batchSize maxRecords) actions
    let s := Runs.run act (opened StepOutcome batchSize maxRecords) actions
    (∀ event ∈ places log s, holds event.outcome) ∧ ∀ outcome ∈ stored s, holds outcome := by
  intro log s
  obtain ⟨inv, recent⟩ := inv_run batchSize maxRecords actions
  have placed : ∀ event ∈ places log s, holds event.outcome := by
    intro event member
    have located : places log s = ↑log.ingested := by simpa using inv.located
    rw [located, Multiset.mem_coe] at member
    obtain ⟨number, bound, rfl⟩ := List.mem_mapIdx.mp member
    obtain ⟨before, a, among, shows⟩ := Runs.mem_shown (List.getElem_mem bound)
    unfold ingestedBy at shows
    split at shows
    · rename_i ticket outcome
      split at shows
      · exact List.mem_singleton.mp shows ▸ all ticket outcome among
      · cases shows
    · cases shows
  refine ⟨placed, ?_⟩
  intro outcome member
  obtain ⟨event, kept, rfl⟩ := List.mem_map.mp member
  refine placed event ?_
  rw [recent.records] at kept
  have among : event ∈ log.persisted.flatten := (List.drop_sublist _ _).subset kept
  rw [places]
  simp only [Multiset.mem_add, Multiset.mem_coe]
  exact .inl (.inl (.inr among))

end Places

section Sources
variable {V : Type} (objects : Objects V)

/-- The outcome of a kernel event whose time is a number, and whose policy hash and audit id have
    no newline after them. -/
def Sourced (outcome : StepOutcome) : Prop :=
  ∃ event env operationName, convertEvent objects event env operationName = .ok outcome ∧
    outcome.timestamp.isfinite = true ∧
    ¬ NewlineAfter objects event "policy_hash" isHexDigit 64 64 ∧
    ¬ NewlineAfter objects event "audit_id" VeronicaStages.isChainChar 1 maxAuditIdLength

/-- Fit to be shown: safe, within the schema, and read back from its own dict by any reader. -/
structure Servable (outcome : StepOutcome) : Prop where
  sanitised : Sanitised outcome
  wellFormed : OutcomeWellFormed outcome
  readBack : ∀ numerals repr now,
    outcomeFromDict numerals repr now (outcomeToDict outcome) = .ok outcome

theorem servable_of_sourced {outcome : StepOutcome} (sourced : Sourced objects outcome) :
    Servable outcome := by
  obtain ⟨event, env, operationName, converted, dated, hash, audit⟩ := sourced
  have wellFormed :=
    (converted_wellFormed_iff objects event env operationName converted).mpr dated
  exact ⟨(converted_sanitised_iff objects event env operationName converted).mpr ⟨hash, audit⟩,
    wellFormed, fun numerals repr now => outcomeFromDict_toDict numerals repr now wellFormed⟩

end Sources

section Decisions
variable {store : List StepOutcome} (q : EventQuery)

def withDecisions (q : EventQuery) (decision : Option (List String)) : EventQuery :=
  { q with decision }

theorem selects_withDecision (d : String) (o : StepOutcome) :
    (withDecisions q (some [d])).selects o =
      ((withDecisions q none).selects o && decide (o.decision = d)) := by
  simp only [withDecisions, EventQuery.selects, Option.all_some, Option.all_none, Bool.and_true,
    List.mem_singleton]
  cases decide (o.decision = d) <;> simp

/-- Filtering by one decision after the other loses nothing and repeats nothing. -/
theorem decisions_partition (valid : ∀ o ∈ store, o.decision ∈ validDecisions) :
    (validDecisions.map fun d => (store.filter (withDecisions q (some [d])).selects).length).sum =
      (store.filter (withDecisions q none).selects).length := by
  have distinct : validDecisions.Nodup := by decide
  have parts := Tally.total_eq_sum_totalOn
    ((store.filter (withDecisions q none).selects).map fun o => (o.decision, 1)) distinct (by
      intro booking member
      obtain ⟨o, among, rfl⟩ := List.mem_map.mp member
      exact valid o (List.mem_of_mem_filter among))
  have total : Tally.total ((store.filter (withDecisions q none).selects).map fun o =>
      (o.decision, 1)) = (store.filter (withDecisions q none).selects).length := by
    simp [Tally.total, Function.comp_def]
  have one : ∀ d, Tally.totalOn d ((store.filter (withDecisions q none).selects).map fun o =>
      (o.decision, 1)) = (store.filter (withDecisions q (some [d])).selects).length := by
    intro d
    have same : store.filter (withDecisions q (some [d])).selects =
        (store.filter (withDecisions q none).selects).filter fun o => decide (o.decision = d) := by
      rw [List.filter_filter]
      refine List.filter_congr ?_
      intro o _
      rw [selects_withDecision, Bool.and_comm]
    rw [same]
    simp [Tally.totalOn, List.filter_map, Function.comp_def]
  rw [← total, parts]
  simp only [one]

end Decisions

section Served
variable {V : Type} (objects : Objects V)

/-- However the threads that ingest come between each other, retry and give up: what GET /events
    shows comes from outcomes fit to be shown, and so does what waits for the store or was refused
    by it; and the seven decisions share the events among them. -/
theorem served_events_servable (batchSize maxRecords : Int) {actions : List (Action StepOutcome)}
    (sourced : ∀ ticket outcome, .ingest ticket (.ok outcome) ∈ actions → Sourced objects outcome)
    (q : EventQuery) :
    let log := logOf (opened StepOutcome batchSize maxRecords) actions
    let s := Runs.run act (opened StepOutcome batchSize maxRecords) actions
    (∀ event ∈ places log s, Servable event.outcome) ∧
    (∀ response, listEvents (stored s) q = .ok response → ∀ item ∈ response.items,
      ∃ outcome, Servable outcome ∧ q.selects outcome = true ∧
        item = EventItem.fromOutcome outcome) ∧
    (validDecisions.map fun d =>
      ((stored s).filter (withDecisions q (some [d])).selects).length).sum =
      ((stored s).filter (withDecisions q none).selects).length := by
  intro log s
  obtain ⟨placed, kept⟩ := everywhere batchSize maxRecords sourced
  have servable : ∀ outcome ∈ stored s, Servable outcome :=
    fun outcome member => servable_of_sourced objects (kept outcome member)
  refine ⟨fun event member => servable_of_sourced objects (placed event member), ?_, ?_⟩
  · intro response answered item shown
    obtain ⟨_, rfl⟩ := listEvents_ok_iff.mp answered
    obtain ⟨outcome, onPage, rfl⟩ := List.mem_map.mp shown
    have among := (newestFirst_perm _).mem_iff.mp (List.mem_of_mem_take
      (List.mem_of_mem_drop (List.mem_of_mem_take onPage)))
    obtain ⟨member, selected⟩ := List.mem_filter.mp among
    exact ⟨outcome, servable outcome member, selected, rfl⟩
  · refine decisions_partition q ?_
    intro outcome member
    exact (servable outcome member).wellFormed.decision

end Served

section ThreeEvents

def costEvent : SafetyEvent PyVal :=
  stepEvent (Dict.ofEntries [("cost_usd", .float (.finite 1))])

theorem costOutcome_sourced : Sourced plainObjects costOutcome := by
  refine ⟨costEvent, plainSurroundings, none, rfl, rfl, ?_, ?_⟩
  · rintro ⟨candidate, absent, _⟩
    cases absent
  · rintro ⟨candidate, absent, _⟩
    cases absent

/-- Three events of two threads; the store refuses the second once, the third is still on its
    way. -/
def threeIngested : List (Action StepOutcome) :=
  [.ingest 1 (.ok costOutcome), .ingest 2 (.ok costOutcome), .attempt 2 true, .attempt 1 false,
    .attempt 2 false, .ingest 1 (.ok costOutcome)]

theorem three_events_servable :
    let log := logOf (opened StepOutcome 0 10) threeIngested
    let s := Runs.run act (opened StepOutcome 0 10) threeIngested
    (stored s).length = 2 ∧ (∀ event ∈ places log s, Servable event.outcome) ∧
    (∀ response, listEvents (stored s) {} = .ok response → ∀ item ∈ response.items,
      ∃ outcome, Servable outcome ∧ EventQuery.selects {} outcome = true ∧
        item = EventItem.fromOutcome outcome) ∧
    (validDecisions.map fun d =>
      ((stored s).filter (withDecisions {} (some [d])).selects).length).sum =
      ((stored s).filter (withDecisions {} none).selects).length := by
  have sourced : ∀ ticket outcome, .ingest ticket (.ok outcome) ∈ threeIngested →
      Sourced plainObjects outcome := by
    intro ticket outcome member
    have same : outcome = costOutcome := by
      simp only [threeIngested, List.mem_cons, Action.ingest.injEq, Except.ok.injEq, reduceCtorEq,
        List.not_mem_nil, false_or, or_false] at member
      rcases member with ⟨_, same⟩ | ⟨_, same⟩ | ⟨_, same⟩ <;> exact same
    rw [same]
    exact costOutcome_sourced
  exact ⟨rfl, served_events_servable plainObjects 0 10 sourced {}⟩

end ThreeEvents

end VeronicaServed
