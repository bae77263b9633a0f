import Veronica.AutoUnsubscribe
import Veronica.MetricsSubscriber

/- VeronicaOS, its BufferedEmitter and the subscribers that come with the package. Emits follow one
   another, so each has settled before the next one. -/
namespace VeronicaTelemetry
open VeronicaEmitter VeronicaAutoUnsubscribe Streaks

section Emits
variable {E : Type} (raises : String → E → Bool)

/-- How the call of a subscriber ends. -/
def ended (event : E) (ticket : Nat) (name : String) : Action E :=
  if raises name event then .raised ticket else .returned ticket

/-- An emit from its first locked section to its last. -/
def emitWhole (s : Emissions E) (event : E) : Emissions E :=
  let ticket := s.emits
  Runs.run act s
    (.emit event :: s.emitter.subscribers.keys.map (ended raises event ticket) ++ [.settle ticket])

/-- What an emit calls a subscriber with, once for each time it is among those called. -/
def callsOf (name : String) (s : Emissions E) (event : E) : List E :=
  (s.emitter.subscribers.keys.filter fun key => key = name).map fun _ => event

/-- The events that a subscriber is called with in a run of emits. -/
def handled (start : Emissions E) (es : List E) (name : String) : List E :=
  Runs.shown (emitWhole raises) (callsOf name) start es

def Subscribed (s : Emissions E) (name : String) : Prop := s.emitter.subscribers.get? name ≠ none

def subscribed (maxlen : Nat) (names : List String) : Emissions E :=
  Runs.run act (opened E maxlen) (names.map .subscribe)

def failures (s : Emissions E) (name : String) : Nat := s.emitter.failCounts.getD name 0

/-- A subscriber is called until it has raised three times in a row. -/
structure Served (es called : List E) (s : Emissions E) (name : String) : Prop where
  all : ¬ InARow (raises name) maxConsecutiveFailures es → Subscribed s name ∧ called = es
  dropped : InARow (raises name) maxConsecutiveFailures es → ¬ Subscribed s name ∧
    ∃ rest, es = called ++ rest ∧ InARow (raises name) maxConsecutiveFailures called ∧
      ¬ InARow (raises name) maxConsecutiveFailures called.dropLast

end Emits

section Calls
variable {E : Type} {raises : String → E → Bool} {event : E} {ticket : Nat} {s : Emissions E}

/-- What the calls of one emit leave behind. -/
structure Called (raises : String → E → Bool) (event : E) (ticket : Nat) (s : Emissions E)
    (delivery : Delivery) (t : Emissions E) (later : Delivery) : Prop where
  found : t.deliveries.get? ticket = some later
  done : later.targets = []
  resets : ∀ name, name ∈ later.localResets ↔ name ∈ delivery.localResets ∨
    (name ∈ delivery.targets.map Prod.fst ∧ raises name event = false)
  removals : ∀ name, name ∈ later.localRemovals ↔ name ∈ delivery.localRemovals ∨
    (name ∈ delivery.targets.map Prod.fst ∧ raises name event = true ∧
      maxConsecutiveFailures ≤ failures s name + 1)
  subscribers : t.emitter.subscribers = s.emitter.subscribers
  counts : ∀ name, failures t name =
    if name ∈ delivery.targets.map Prod.fst ∧ raises name event = true then failures s name + 1
    else failures s name
  others : ∀ other, other ≠ ticket → t.deliveries.get? other = s.deliveries.get? other

theorem note_same (s : Emissions E) (name : String) (id : Nat) (raised : Bool) :
    (s.note name id raised).emitter = s.emitter ∧
      (s.note name id raised).deliveries = s.deliveries := by
  unfold Emissions.note
  split
  · exact ⟨rfl, rfl⟩
  · exact ⟨rfl, rfl⟩

theorem first_call (raises : String → E → Bool) (event : E) {delivery : Delivery} {name : String}
    {id : Nat} {rest : List (String × Nat)} (found : s.deliveries.get? ticket = some delivery)
    (turn : delivery.targets = (name, id) :: rest) :
    ∃ later, (act s (ended raises event ticket name)).deliveries.get? ticket = some later ∧
      later.targets = rest ∧
      (∀ other, other ∈ later.localResets ↔ other ∈ delivery.localResets ∨
        (other = name ∧ raises name event = false)) ∧
      (∀ other, other ∈ later.localRemovals ↔ other ∈ delivery.localRemovals ∨
        (other = name ∧ raises name event = true ∧
          maxConsecutiveFailures ≤ failures s name + 1)) ∧
      (act s (ended raises event ticket name)).emitter.subscribers = s.emitter.subscribers ∧
      (∀ other, failures (act s (ended raises event ticket name)) other =
        if other = name ∧ raises name event = true then failures s other + 1
        else failures s other) ∧
      ∀ other, other ≠ ticket →
        (act s (ended raises event ticket name)).deliveries.get? other =
          s.deliveries.get? other := by
  have calling : s.calling ticket = some (delivery, name, id) := by
    simp [Emissions.calling, found, turn]
  obtain ⟨emitter, deliveries⟩ := note_same s name id (raises name event)
  unfold ended
  cases raised : raises name event with
  | false =>
    simp only [Bool.false_eq_true, if_false, act, calling, Emissions.afterReturn]
    rw [raised] at emitter deliveries
    refine ⟨_, Dict.get?_set_self _ _ _, by rw [turn]; rfl, ?_, ?_, ?_, ?_, ?_⟩
    · simp
    · simp
    · rw [emitter]
    · simp [failures, emitter]
    · intro other ne
      rw [deliveries, Dict.get?_set_of_ne _ ne]
  | true =>
    simp only [if_true, act, calling, Emissions.afterRaise]
    rw [raised] at emitter deliveries
    refine ⟨_, Dict.get?_set_self _ _ _, by rw [turn]; rfl, ?_, ?_, ?_, ?_, ?_⟩
    · simp
    · intro other
      rw [emitter]
      simp only [BufferedEmitter.countFailure, failures, List.mem_append, true_and]
      by_cases full : maxConsecutiveFailures ≤ s.emitter.failCounts.getD name 0 + 1
      · simp [full]
      · simp [full]
    · simp [BufferedEmitter.countFailure, emitter]
    · intro other
      rw [emitter]
      simp only [failures, BufferedEmitter.countFailure, Dict.getD, Dict.get?_set]
      by_cases same : other = name
      · simp [same]
      · simp [same]
    · intro other ne
      rw [deliveries, Dict.get?_set_of_ne _ ne]

theorem run_calls (raises : String → E → Bool) (event : E) {delivery : Delivery}
    (found : s.deliveries.get? ticket = some delivery)
    (distinct : (delivery.targets.map Prod.fst).Nodup) :
    ∃ later, Called raises event ticket s delivery
      (Runs.run act s ((delivery.targets.map Prod.fst).map (ended raises event ticket))) later := by
  generalize names : delivery.targets = targets at distinct
  induction targets generalizing s delivery with
  | nil =>
    refine ⟨delivery, found, names, ?_, ?_, rfl, ?_, fun _ _ => rfl⟩
    · simp [names]
    · simp [names]
    · simp [names, Runs.run]
  | cons target rest ih =>
    obtain ⟨name, id⟩ := target
    obtain ⟨fresh, distinct⟩ : name ∉ rest.map Prod.fst ∧ _ := List.nodup_cons.mp distinct
    obtain ⟨next, there, turn, resets, removals, subscribers, counts, others⟩ :=
      first_call raises event found names
    obtain ⟨later, called⟩ := ih there turn distinct
    refine ⟨later, called.found, called.done, ?_, ?_, called.subscribers.trans subscribers, ?_,
      fun other ne => (called.others other ne).trans (others other ne)⟩
    · intro other
      rw [called.resets, resets, names, turn, List.map_cons, List.mem_cons]
      by_cases same : other = name
      · simp only [same, fresh, true_and, false_and, or_false]
      · simp only [same, false_and, false_or, or_false]
    · intro other
      rw [called.removals, removals, names, turn, List.map_cons, List.mem_cons, counts]
      by_cases same : other = name
      · simp only [same, fresh, true_and, false_and, or_false]
      · simp only [same, false_and, false_or, or_false, if_false]
    · intro other
      refine (called.counts other).trans ?_
      rw [counts, names, turn, List.map_cons]
      simp only [List.mem_cons]
      by_cases same : other = name
      · simp only [same, fresh, true_and, false_and, true_or, if_false]
      · simp only [same, false_and, false_or, if_false]

def Idle (s : Emissions E) : Prop := ∀ ticket, s.deliveries.get? ticket = none

theorem emitWhole_spec (raises : String → E → Bool) (event : E) (idle : Idle s) :
    Idle (emitWhole raises s event) ∧ ∀ name,
      (emitWhole raises s event).emitter.subscribers.get? name =
          (if raises name event = true ∧ maxConsecutiveFailures ≤ failures s name + 1 then none
          else s.emitter.subscribers.get? name) ∧
        (s.emitter.subscribers.get? name ≠ none →
          ¬ (raises name event = true ∧ maxConsecutiveFailures ≤ failures s name + 1) →
          failures (emitWhole raises s event) name =
            if raises name event = true then failures s name + 1 else 0) := by
  have start : (s.emit event).deliveries.get? s.emits =
      some { targets := s.emitter.subscribers.entries } := Dict.get?_set_self _ _ _
  obtain ⟨later, called⟩ := run_calls raises event start
    s.emitter.subscribers.distinct
  generalize after : Runs.run act (s.emit event)
    ((s.emitter.subscribers.entries.map Prod.fst).map (ended raises event s.emits)) = t
    at called
  have whole : emitWhole raises s event = t.settle s.emits later := by
    rw [emitWhole, Runs.run_append]
    show act (Runs.run act (s.emit event) ((s.emitter.subscribers.entries.map Prod.fst).map
      (ended raises event s.emits))) (.settle s.emits) = _
    rw [after]
    simp only [act, called.found, called.done, if_true]
  have counts : ∀ name, failures (s.emit event) name = failures s name := fun _ => rfl
  have removals : ∀ name, name ∈ later.localRemovals ↔ name ∈ s.emitter.subscribers.keys ∧
      raises name event = true ∧ maxConsecutiveFailures ≤ failures s name + 1 := by
    intro name
    simp only [called.removals, counts, List.not_mem_nil, false_or]
    rfl
  rw [whole]
  refine ⟨?_, ?_⟩
  · intro ticket
    simp only [Emissions.settle, Dict.get?_erase]
    split
    · rfl
    · rename_i ne
      rw [called.others ticket ne]
      exact (Dict.get?_set_of_ne _ ne).trans (idle ticket)
  · intro name
    have live : (t.settle s.emits later).emitter.subscribers.get? name =
        if name ∈ later.localRemovals then none else s.emitter.subscribers.get? name := by
      show (t.emitter.settle _ _).subscribers.get? name = _
      rw [BufferedEmitter.settle, (get?_foldl_unsubscribe _ _ _).1, called.subscribers]
      rfl
    refine ⟨?_, ?_⟩
    · rw [live]
      by_cases known : name ∈ s.emitter.subscribers.keys
      · simp only [removals, known, true_and]
      · rw [Dict.get?_eq_none_iff.mpr known, ite_self, ite_self]
    · intro known kept
      have present : name ∈ s.emitter.subscribers.keys := by
        by_contra absent
        exact known (Dict.get?_eq_none_iff.mpr absent)
      have stays : name ∉ later.localRemovals := fun listed => kept ((removals name).mp listed).2
      have reset : name ∈ later.localResets ↔ raises name event = false := by
        rw [called.resets]
        simp only [List.not_mem_nil, false_or]
        exact and_iff_right present
      have charged := called.counts name
      rw [failures, Dict.getD, failCounts_settle stays]
      cases raised : raises name event with
      | false =>
        rw [if_pos (reset.mpr raised), if_neg Bool.false_ne_true]
        cases t.emitter.failCounts.get? name <;> rfl
      | true =>
        rw [if_pos ⟨present, raised⟩, counts] at charged
        rw [if_neg fun listed => Bool.false_ne_true ((reset.mp listed).symm.trans raised),
          if_pos rfl]
        exact charged

end Calls

section Served
variable {E : Type} {raises : String → E → Bool}

/-- Where a subscriber stands after some emits. -/
structure Following (raises : String → E → Bool) (name : String) (es called : List E)
    (s : Emissions E) : Prop where
  idle : Idle s
  served : Served raises es called s name
  count : ¬ InARow (raises name) maxConsecutiveFailures es →
    failures s name = trailing (raises name) es

theorem callsOf_eq (s : Emissions E) (event : E) (name : String) : callsOf name s event =
    if s.emitter.subscribers.get? name = none then [] else [event] := by
  have distinct : s.emitter.subscribers.keys.Nodup := s.emitter.subscribers.distinct
  rw [callsOf, List.filter_eq, List.map_replicate, distinct.count]
  by_cases known : name ∈ s.emitter.subscribers.keys
  · rw [if_pos known, if_neg fun absent => Dict.get?_eq_none_iff.mp absent known]
    rfl
  · rw [if_neg known, if_pos (Dict.get?_eq_none_iff.mpr known)]
    rfl

theorem subscribed_spec (maxlen : Nat) (names : List String) :
    Idle (subscribed (E := E) maxlen names) ∧ ∀ name ∈ names,
      Subscribed (subscribed (E := E) maxlen names) name ∧
        failures (subscribed (E := E) maxlen names) name = 0 := by
  induction names using List.reverseRecOn with
  | nil =>
    refine ⟨fun _ => rfl, ?_⟩
    intro name among
    cases among
  | append_singleton names last ih =>
    obtain ⟨idle, fresh⟩ := ih
    have grown : subscribed (E := E) maxlen (names ++ [last]) =
        act (subscribed (E := E) maxlen names) (.subscribe last) := by
      simp [subscribed, Runs.run]
    simp only [Subscribed, grown, act]
    refine ⟨idle, fun name among => ?_⟩
    simp only [BufferedEmitter.subscribe, failures, Dict.getD, Dict.get?_set]
    by_cases same : name = last
    · simp [same]
    · have before : name ∈ names := by simpa [same] using among
      simp only [if_neg same]
      exact fresh name before

theorem following_emit {name : String} {es called : List E} {s : Emissions E}
    (following : Following raises name es called s) (event : E) :
    Following raises name (es ++ [event]) (called ++ callsOf name s event)
      (emitWhole raises s event) := by
  obtain ⟨idle, spec⟩ := emitWhole_spec raises event following.idle
  obtain ⟨live, charged⟩ := spec name
  have more := inARow_concat (raises name) 2 es event
  by_cases thrice : InARow (raises name) maxConsecutiveFailures es
  · -- dropped before
    obtain ⟨gone, rest, eq, row, first⟩ := following.served.dropped thrice
    have absent : s.emitter.subscribers.get? name = none := by
      by_contra known
      exact gone known
    have still : InARow (raises name) maxConsecutiveFailures (es ++ [event]) :=
      more.mpr (Or.inl thrice)
    have handled : called ++ callsOf name s event = called := by
      rw [callsOf_eq, if_pos absent, List.append_nil]
    refine ⟨idle, ⟨fun none => absurd still none, fun _ => ⟨?_, ?_⟩⟩, fun none => absurd still none⟩
    · rw [absent, ite_self] at live
      exact fun known => known live
    · rw [handled]
      exact ⟨rest ++ [event], by rw [eq, List.append_assoc], row, first⟩
  · obtain ⟨known, same⟩ := following.served.all thrice
    have handled : called ++ callsOf name s event = es ++ [event] := by
      rw [callsOf_eq, if_neg known, same]
    rw [following.count thrice] at live charged
    have completed : InARow (raises name) maxConsecutiveFailures (es ++ [event]) ↔
        raises name event = true ∧ maxConsecutiveFailures ≤ trailing (raises name) es + 1 := by
      refine more.trans ((or_iff_right thrice).trans (and_congr_right fun _ => ?_))
      exact Nat.succ_le_succ_iff.symm
    by_cases full : raises name event = true ∧
        maxConsecutiveFailures ≤ trailing (raises name) es + 1
    · -- dropped now
      have row := completed.mpr full
      refine ⟨idle, ⟨fun none => absurd row none, fun _ => ⟨?_, ?_⟩⟩, fun none => absurd row none⟩
      · rw [if_pos full] at live
        exact fun known => known live
      · rw [handled, List.dropLast_concat]
        exact ⟨[], (List.append_nil _).symm, row, thrice⟩
    · have short := fun row => full (completed.mp row)
      refine ⟨idle, ⟨fun _ => ⟨?_, handled⟩, fun row => absurd row short⟩, fun _ => ?_⟩
      · rw [if_neg full] at live
        exact fun gone => known (live.symm.trans gone)
      · rw [trailing_concat]
        exact charged known full

theorem run_served (raises : String → E → Bool) (maxlen : Nat) {names : List String}
    {name : String} (among : name ∈ names) (es : List E) :
    Served raises es (handled raises (subscribed maxlen names) es name)
      (Runs.run (emitWhole raises) (subscribed maxlen names) es) name := by
  have following : Following raises name es (handled raises (subscribed maxlen names) es name)
      (Runs.run (emitWhole raises) (subscribed maxlen names) es) := by
    induction es using List.reverseRecOn with
    | nil =>
      obtain ⟨idle, fresh⟩ := subscribed_spec (E := E) maxlen names
      obtain ⟨known, count⟩ := fresh name among
      have none : ¬ InARow (raises name) maxConsecutiveFailures [] := by
        simp [InARow, maxConsecutiveFailures]
      exact ⟨idle, ⟨fun _ => ⟨known, rfl⟩, fun row => absurd row none⟩, fun _ => count⟩
    | append_singleton es event ih =>
      rw [Runs.run_append, handled, Runs.shown_concat]
      exact following_emit ih event
  exact following.served

end Served

section Costs
open VeronicaTypes VeronicaPipeline VeronicaRuns VeronicaPrometheus VeronicaMetrics
open VeronicaAuditTrail (CommittedRow Recording)

/-- `EventIngestor.on_event`. What it ingests is an event of the kernel, under a key of its own. -/
def onEvent {S : Type} (ingest : PyVal → S → S) (s : S) (e : Emission) : S :=
  match e.payload.get? "safety_event" with
  | none | some .none => s
  | some event => ingest event s

/-- The event completes a step whose cost is too large for micro dollars. -/
def boundless (event : Event) : Bool :=
  (completedRow event).any fun row => VeronicaMetrics.raises row.outcome.costUsd

/-- What is booked for rows, each in micro dollars. -/
def rowMicros (rows : List CommittedRow) : List Int :=
  rows.flatMap fun row => bookedMicros row.outcome.costUsd

variable {numerals : Numerals} {computePolicyHash : PolicyConfig → String} {setup : Setup}

theorem raised_reported {events : List Event} {es : List Emission}
    (reported : List.Forall₂ (Reports computePolicyHash setup) events es) :
    es.map (fun e => (callback numerals e).raised) = events.map boundless := by
  induction reported with
  | nil => rfl
  | cons report _ ih =>
    rw [List.map_cons, List.map_cons, ih, (callback_reported numerals report).2]
    rfl

theorem inARow_reported {events : List Event} {es : List Emission}
    (reported : List.Forall₂ (Reports computePolicyHash setup) events es) (n : Nat) :
    InARow (fun e => (callback numerals e).raised) n es ↔ InARow boundless n events := by
  rw [InARow, raised_reported reported, InARow]

theorem onEvent_reported {event : Event} {e : Emission}
    (report : Reports computePolicyHash setup event e) {S : Type} (ingest : PyVal → S → S)
    (s : S) : onEvent ingest s e = s := by
  cases report with
  | completed => rfl
  | denied => rfl

theorem onEvent_run {events : List Event} {es : List Emission}
    (reported : List.Forall₂ (Reports computePolicyHash setup) events es) {S : Type}
    (ingest : PyVal → S → S) (s : S) : es.foldl (onEvent ingest) s = s := by
  induction reported generalizing s with
  | nil => rfl
  | cons report _ ih =>
    rw [List.foldl_cons, onEvent_reported report]
    exact ih s

theorem never_thrice {E : Type} {raises : E → Bool} {es : List E}
    (never : ∀ e ∈ es, raises e = false) : ¬ InARow raises maxConsecutiveFailures es := by
  intro row
  have among : true ∈ es.map raises := row.subset (by simp [maxConsecutiveFailures])
  obtain ⟨e, member, raised⟩ := List.mem_map.mp among
  exact Bool.false_ne_true ((never e member).symm.trans raised)

/-- What has become of the telemetry of a run. -/
structure Telemetry {P A S : Type} (numerals : Numerals) (names : List String) (metrics : String)
    (raises : String → Emission → Bool) (os : VeronicaOS P A (Recording S)) (es : List Emission)
    (called : String → List Emission) (s : Emissions Emission) : Prop where
  followed : ¬ InARow boundless maxConsecutiveFailures os.emitted → Subscribed s metrics ∧
    booked numerals (called metrics) = rowMicros os.store.rows
  dropped : InARow boundless maxConsecutiveFailures os.emitted → ¬ Subscribed s metrics ∧
    ∃ seen later, os.emitted = seen ++ later ∧ InARow boundless maxConsecutiveFailures seen ∧
      ¬ InARow boundless maxConsecutiveFailures seen.dropLast ∧
      booked numerals (called metrics) = rowMicros (seen.filterMap completedRow)
  others : ∀ name ∈ names, (∀ e ∈ es, raises name e = false) →
    Subscribed s name ∧ called name = es
  ingested : ∀ (T : Type) (ingest : PyVal → T → T) (s : T), es.foldl (onEvent ingest) s = s

theorem handled_dropped {events : List Event} {es handled rest : List Emission}
    (reported : List.Forall₂ (Reports computePolicyHash setup) events es)
    (eq : es = handled ++ rest)
    (row : InARow (fun e => (callback numerals e).raised) maxConsecutiveFailures handled)
    (first : ¬ InARow (fun e => (callback numerals e).raised) maxConsecutiveFailures
      handled.dropLast) :
    ∃ seen later, events = seen ++ later ∧ InARow boundless maxConsecutiveFailures seen ∧
      ¬ InARow boundless maxConsecutiveFailures seen.dropLast ∧
      booked numerals handled = rowMicros (seen.filterMap completedRow) := by
  have before : List.Forall₂ (Reports computePolicyHash setup) (events.take handled.length)
      handled := by
    have taken := List.forall₂_take handled.length reported
    rwa [eq, List.take_left] at taken
  have almost : List.Forall₂ (Reports computePolicyHash setup)
      (events.take handled.length).dropLast handled.dropLast := by
    rw [List.dropLast_eq_take, List.dropLast_eq_take, before.length_eq]
    exact List.forall₂_take _ before
  exact ⟨_, _, (List.take_append_drop handled.length events).symm,
    (inARow_reported before _).mp row, fun early => first ((inARow_reported almost _).mpr early),
    (booked_reported numerals before).1⟩

/-- Whatever subscribers there are, and in every run of the pipeline: MetricsSubscriber books the
    rows stored until three events in a row complete steps whose cost is too large for micro
    dollars, and is dropped then. A subscriber that never raises, as PrometheusSubscriber,
    is called with every event. An EventIngestor that is subscribed ingests none of them. -/
theorem metrics_followed_until_dropped {P A S : Type} [PlannerProtocol P] [ArbiterProtocol A]
    [StoreProtocol S] {planner : P} {arbiter : A} {store : S} {calls : List Call}
    {es : List Emission} (maxlen : Nat) {names : List String} {metrics : String}
    (among : metrics ∈ names) {raises : String → Emission → Bool}
    (own : ∀ e, raises metrics e = (callback numerals e).raised)
    (reported : List.Forall₂ (Reports computePolicyHash setup)
      (Runs.run (callStep setup) (recorded planner arbiter store) calls).os.emitted es) :
    Telemetry numerals names metrics raises
      (Runs.run (callStep setup) (recorded planner arbiter store) calls).os es
      (handled raises (subscribed maxlen names) es)
      (Runs.run (emitWhole raises) (subscribed maxlen names) es) := by
  have served := run_served raises maxlen among es
  have same : raises metrics = fun e => (callback numerals e).raised := funext own
  obtain ⟨stored, _⟩ := run_records setup calls (recorded planner arbiter store) rfl
  constructor
  case followed =>
    intro none
    obtain ⟨known, handled⟩ := served.all (by
      rw [same, inARow_reported reported]
      exact none)
    refine ⟨known, ?_⟩
    rw [handled, (booked_reported numerals reported).1, stored]
    rfl
  case dropped =>
    intro row
    obtain ⟨gone, rest, eq, thrice, first⟩ := served.dropped (by
      rw [same, inARow_reported reported]
      exact row)
    rw [same] at thrice first
    exact ⟨gone, handled_dropped reported eq thrice first⟩
  case others =>
    intro name listed never
    exact (run_served raises maxlen listed es).all (never_thrice never)
  case ingested => exact fun _ ingest s => onEvent_run reported ingest s

section OneStep

/-- MetricsSubscriber beside a subscriber that returns. -/
def metricsRaise (name : String) (e : Emission) : Bool :=
  name = "metrics" && (callback noNumerals e).raised

theorem one_step_followed : Telemetry noNumerals ["prometheus", "metrics"] "metrics" metricsRaise
    (Runs.run (callStep (defaultSetup 1 none)) defaultRun oneStep).os oneStepEvents
    (handled metricsRaise (subscribed 1024 ["prometheus", "metrics"]) oneStepEvents)
    (Runs.run (emitWhole metricsRaise) (subscribed 1024 ["prometheus", "metrics"])
      oneStepEvents) :=
  metrics_followed_until_dropped 1024 (by simp) (fun _ => rfl) (emissionOf_reports _ _ _ _)

end OneStep

end Costs

end VeronicaTelemetry
