import Mathlib.Algebra.Order.Group.Multiset
import Veronica.EventSchema
import Veronica.Library.Admissions
import Veronica.Library.Runs

/- PrometheusSubscriber, as the calls it makes on its collectors. Emits of several threads may be
   inside the callback at once; the set of chains is all they share. -/
namespace VeronicaPrometheus
open VeronicaSchema Admissions

def labelUnknown : String := "unknown"
def labelOverflow : String := "overflow"
def msToS : ℚ := 1000
def chainIdMaxLen : Nat := 32
def maxChainIds : Nat := 1000

def validDecisions : List String :=
  ["allow", "halt", "halted", "degrade", "deny", "denied", "retry", "quarantine", "queue", "error",
    "ok", "unknown"]

/-- A call on a collector, with the labels it names. -/
inductive Sample where
  | completed (chainId decisionType : String)
  | denied (chainId decisionType : String)
  | halted (chainId : String)
  | degraded (chainId : String)
  | duration (chainId : String) (seconds : PyFloat)
  | newChain
  deriving DecidableEq

def Sample.chain? : Sample → Option String
  | .completed chainId _ | .denied chainId _ | .halted chainId | .degraded chainId
  | .duration chainId _ => some chainId
  | .newChain => none

def Sample.decision? : Sample → Option String
  | .completed _ decisionType | .denied _ decisionType => some decisionType
  | _ => none

abbrev Payload := Dict String PyVal

structure Emission where
  eventType : String
  payload : Payload

/-- `if x` -/
def truthy : PyVal → Bool
  | .none => false
  | .bool b => b
  | .int n => decide (n ≠ 0)
  | .float (.finite q) => decide (q ≠ 0)
  | .float _ => true
  | .str s => decide (s ≠ "")
  | .list values => !values.isEmpty
  | .dict entries => !entries.isEmpty

section Callback
variable (numerals : Numerals) (repr : PyVal → String)

def safeGet (payload : Payload) (key : String) : String :=
  match optional payload key with
  | .none => labelUnknown
  | .str s => if s = "" then labelUnknown else s
  | value => repr value

def normalizeDecision (value : String) : String :=
  if value ∈ validDecisions then value else labelUnknown

/-- `_track_chain`: the chains seen, the label, and whether the gauge goes up. -/
def trackChain (seen : List String) (chainId : String) : List String × String × List Sample :=
  if chainId = labelUnknown then (seen, chainId, [])
  else if chainId ∈ seen then (seen, chainId, [])
  else if maxChainIds ≤ seen.length then (seen, labelOverflow, [])
  else (seen ++ [chainId], chainId, [.newChain])

def rawChainId (payload : Payload) : String :=
  pyPrefix chainIdMaxLen (safeGet repr payload "chain_id")

/-- `elapsed_ms / _MS_TO_S` -/
def seconds (elapsedMs : PyFloat) : PyFloat := Doubles.scaled (1 / msToS) elapsedMs

/-- What `_handle_step_completed` asks for once it has its label. -/
def completedSamples (payload : Payload) (chainId : String) : List Sample :=
  let status := safeGet repr payload "status"
  [.completed chainId (normalizeDecision status)] ++
    (if status = "halted" then [.halted chainId] else []) ++
    (if truthy (optional payload "degraded") then [.degraded chainId] else []) ++
    match floatItem numerals payload "elapsed_ms" with
    | .ok ms => [.duration chainId (seconds ms)]
    | .error _ => []

/-- What `_handle_step_denied` asks for once it has its label. -/
def deniedSamples (payload : Payload) (chainId : String) : List Sample :=
  [.denied chainId (normalizeDecision (safeGet repr payload "status"))]

/-- An event of another type is none of the subscriber's concern. -/
def Emission.chain? (e : Emission) : Option String :=
  if e.eventType = "step_completed" ∨ e.eventType = "step_denied" then
    some (rawChainId repr e.payload)
  else none

def Emission.samples (e : Emission) (chainId : String) : List Sample :=
  if e.eventType = "step_completed" then completedSamples numerals repr e.payload chainId
  else if e.eventType = "step_denied" then deniedSamples repr e.payload chainId
  else []

/-- The callbacks that are running, by the ticket of the thread, with the calls they have still to
    make. -/
structure Callbacks where
  seen : List String := []
  running : Dict Nat (List Sample) := ∅

/-- A callback up to the end of its locked section, and one call on a collector. -/
inductive Action where
  | enter (ticket : Nat) (event : Emission)
  | sample (ticket : Nat)

def act (s : Callbacks) : Action → Callbacks
  | .enter ticket event =>
    if s.running.getD ticket [] ≠ [] then s
    else
      match event.chain? repr with
      | none => s
      | some chainId =>
        let (seen, label, _) := trackChain s.seen chainId
        { seen, running := s.running.set ticket (event.samples numerals repr label) }
  | .sample ticket =>
    match s.running.getD ticket [] with
    | [] => s
    | _ :: rest => { s with running := s.running.set ticket rest }

/-- The event handed in; a thread hands in none while its callback is running. -/
def handedIn (s : Callbacks) : Action → List Emission
  | .enter ticket event =>
    if s.running.getD ticket [] ≠ [] then [] else [event].filter fun e => (e.chain? repr).isSome
  | .sample _ => []

/-- The calls an action makes on the collectors. -/
def callsMade (s : Callbacks) : Action → List Sample
  | .enter ticket event =>
    if s.running.getD ticket [] ≠ [] then []
    else
      match event.chain? repr with
      | none => []
      | some chainId => (trackChain s.seen chainId).2.2
  | .sample ticket => (s.running.getD ticket []).take 1

end Callback

/-- The calls that the running callbacks have still to make. -/
def Callbacks.pending (s : Callbacks) : Multiset Sample :=
  s.running.sumOf fun _ rest => (rest : Multiset Sample)

/-- The label of a chain, once the chains seen are known. -/
def label (seen : List String) (chainId : String) : String :=
  if chainId = labelUnknown ∨ chainId ∈ seen then chainId else labelOverflow

section Attribution
variable (numerals : Numerals) (repr : PyVal → String)

def met (events : List Emission) : List String :=
  (events.filterMap (Emission.chain? repr)).filter fun chainId => chainId ≠ labelUnknown

/-- What an event adds to the collectors, the gauge of chains apart, if these chains are seen. -/
def attributed (seen : List String) (e : Emission) : List Sample :=
  match e.chain? repr with
  | none => []
  | some chainId => e.samples numerals repr (label seen chainId)

/-- Every event is counted once, under one label that its chain keeps: the calls made and still
    to be made are those of all events under the labels that the chains have now. -/
structure Attributed (handled : List Emission) (made : List Sample) (s : Callbacks) : Prop where
  chains : s.seen = (met repr handled).eraseDups.take maxChainIds
  samples : (made : Multiset Sample) + s.pending =
    Multiset.replicate s.seen.length .newChain +
      (handled.flatMap (attributed numerals repr s.seen) : Multiset Sample)
  series : ((made.filterMap Sample.chain?).eraseDups).length ≤ maxChainIds + 2
  decisions : ∀ x ∈ made, ∀ decision, x.decision? = some decision → decision ∈ validDecisions

structure Inv (handled : List Emission) (made : List Sample) (s : Callbacks) : Prop where
  chains : s.seen = admitted maxChainIds (met repr handled)
  samples : (made : Multiset Sample) + s.pending =
    Multiset.replicate s.seen.length .newChain +
      (handled.flatMap (attributed numerals repr s.seen) : Multiset Sample)

end Attribution

section Steps
variable {numerals : Numerals} {repr : PyVal → String} {handled : List Emission}
  {made : List Sample} {s : Callbacks}

theorem trackChain_eq (seen : List String) (chainId : String) :
    trackChain seen chainId =
      let after := if chainId = labelUnknown then seen else enroll maxChainIds seen chainId
      (after, label after chainId, List.replicate (after.length - seen.length) .newChain) := by
  unfold trackChain enroll
  by_cases unknown : chainId = labelUnknown
  · simp [unknown, label]
  · by_cases known : chainId ∈ seen
    · simp [unknown, known, label]
    · by_cases full : maxChainIds ≤ seen.length
      · simp [unknown, known, full, label]
      · simp [unknown, known, full, label]

theorem met_concat (events : List Emission) {e : Emission} {chainId : String}
    (chain : e.chain? repr = some chainId) : met repr (events ++ [e]) =
      met repr events ++ if chainId = labelUnknown then [] else [chainId] := by
  by_cases unknown : chainId = labelUnknown <;> simp [met, chain, unknown]

theorem pending_set (ticket : Nat) (rest : List Sample) :
    (s.running.set ticket rest).sumOf (fun _ rest => (rest : Multiset Sample)) +
      (s.running.getD ticket [] : Multiset Sample) = s.pending + rest := by
  rw [Dict.sumOf_set, Callbacks.pending]
  cases found : s.running.get? ticket with
  | none =>
    rw [Dict.erase_of_get?_none found, Dict.getD, found]
    simp
  | some before =>
    rw [← Dict.sumOf_erase found, Dict.getD, found, Option.getD_some, add_right_comm]

/-- A chain that has been met keeps its label when the next one is looked up. -/
theorem label_stable {chains : List String} {chainId : String}
    (before : chainId = labelUnknown ∨ chainId ∈ chains) (next : String) :
    label (admitted maxChainIds (chains ++ [next])) chainId =
      label (admitted maxChainIds chains) chainId := by
  rcases before with unknown | before
  · simp [label, unknown]
  · simp only [label, mem_admitted_concat before]

theorem mem_met {events : List Emission} {e : Emission} (among : e ∈ events) {chainId : String}
    (chain : e.chain? repr = some chainId) :
    chainId = labelUnknown ∨ chainId ∈ met repr events := by
  by_cases unknown : chainId = labelUnknown
  · exact Or.inl unknown
  · right
    refine List.mem_filter.mpr ⟨List.mem_filterMap.mpr ⟨e, among, chain⟩, ?_⟩
    simpa using unknown

theorem attributed_stable {events : List Emission} {e : Emission} (among : e ∈ events)
    (next : List String) (one : next.length ≤ 1) :
    attributed numerals repr (admitted maxChainIds (met repr events ++ next)) e =
      attributed numerals repr (admitted maxChainIds (met repr events)) e := by
  unfold attributed
  cases chain : e.chain? repr with
  | none => rfl
  | some chainId =>
    match next, one with
    | [], _ => rw [List.append_nil]
    | [key], _ => simp only [label_stable (mem_met among chain) key]

theorem inv_start : Inv numerals repr [] [] {} := by
  constructor
  · rfl
  · rfl

theorem inv_enter (inv : Inv numerals repr handled made s) {ticket : Nat}
    (free : s.running.getD ticket [] = []) {event : Emission} {chainId : String}
    (chain : event.chain? repr = some chainId) :
    Inv numerals repr (handled ++ [event]) (made ++ (trackChain s.seen chainId).2.2)
      (act numerals repr s (.enter ticket event)) := by
  let next := if chainId = labelUnknown then [] else [chainId]
  let seen := admitted maxChainIds (met repr handled ++ next)
  have tracked : (if chainId = labelUnknown then s.seen else enroll maxChainIds s.seen chainId) =
      seen := by
    by_cases unknown : chainId = labelUnknown
    · simp [seen, next, unknown, inv.chains]
    · simp [seen, next, unknown, inv.chains, admitted_concat]
  have entered : act numerals repr s (.enter ticket event) =
      { seen
        running := s.running.set ticket (event.samples numerals repr (label seen chainId)) } := by
    simp only [act, free, ne_eq, not_true, if_false, chain, trackChain_eq, tracked]
  have raised : (trackChain s.seen chainId).2.2 =
      List.replicate (seen.length - s.seen.length) .newChain := by
    simp only [trackChain_eq, tracked]
  have one : next.length ≤ 1 := by
    simp only [next]
    split <;> simp
  have grown : s.seen.length ≤ seen.length := by
    rw [← tracked]
    split
    · exact Nat.le_refl _
    · exact length_le_enroll s.seen chainId
  rw [entered, raised]
  constructor
  case chains =>
    show seen = admitted maxChainIds (met repr (handled ++ [event]))
    rw [met_concat handled chain]
  case samples =>
    have earlier : handled.flatMap (attributed numerals repr seen) =
        handled.flatMap (attributed numerals repr s.seen) := by
      refine List.flatMap_congr ?_
      intro e among
      rw [inv.chains]
      exact attributed_stable among next one
    have here : attributed numerals repr seen event =
        event.samples numerals repr (label seen chainId) := by
      simp only [attributed, chain]
    have waiting := pending_set (s := s) ticket (event.samples numerals repr (label seen chainId))
    rw [free, Multiset.coe_nil, add_zero] at waiting
    have gauge : Multiset.replicate seen.length Sample.newChain =
        Multiset.replicate s.seen.length .newChain +
          Multiset.replicate (seen.length - s.seen.length) .newChain := by
      rw [← Multiset.replicate_add, Nat.add_sub_cancel' grown]
    show ((made ++ _ : List Sample) : Multiset Sample) + Dict.sumOf _ _ = _ +
      (((handled ++ [event]).flatMap (attributed numerals repr seen) : List Sample) :
        Multiset Sample)
    rw [waiting, List.flatMap_append, earlier, List.flatMap_singleton, here, ← Multiset.coe_add,
      ← Multiset.coe_add, gauge, Multiset.coe_replicate]
    have before := inv.samples
    calc (made : Multiset Sample) + Multiset.replicate (seen.length - s.seen.length) .newChain +
          (s.pending + (event.samples numerals repr (label seen chainId) : Multiset Sample))
        = ((made : Multiset Sample) + s.pending) +
            Multiset.replicate (seen.length - s.seen.length) .newChain +
            (event.samples numerals repr (label seen chainId) : Multiset Sample) := by
          abel
      _ = _ := by
          rw [before]
          abel

theorem inv_sample (inv : Inv numerals repr handled made s) {ticket : Nat} {next : Sample}
    {rest : List Sample} (waiting : s.running.getD ticket [] = next :: rest) :
    Inv numerals repr handled (made ++ [next]) (act numerals repr s (.sample ticket)) := by
  have sampled : act numerals repr s (.sample ticket) =
      { s with running := s.running.set ticket rest } := by
    simp only [act, waiting]
  rw [sampled]
  constructor
  case chains => exact inv.chains
  case samples =>
    have moved := pending_set (s := s) ticket rest
    rw [waiting, ← Multiset.cons_coe, ← Multiset.singleton_add, ← add_assoc, add_left_inj] at moved
    calc ((made ++ [next] : List Sample) : Multiset Sample) +
          (s.running.set ticket rest).sumOf (fun _ rest => (rest : Multiset Sample))
        = (made : Multiset Sample) + s.pending := by
          rw [← Multiset.coe_add, Multiset.coe_singleton, add_assoc,
            add_comm ({next} : Multiset Sample), moved]
      _ = _ := inv.samples

theorem act_inv (inv : Inv numerals repr handled made s) (a : Action) :
    Inv numerals repr (handled ++ handedIn repr s a) (made ++ callsMade repr s a)
      (act numerals repr s a) := by
  have idle : handedIn repr s a = [] → callsMade repr s a = [] → act numerals repr s a = s →
      Inv numerals repr (handled ++ handedIn repr s a) (made ++ callsMade repr s a)
        (act numerals repr s a) := by
    intro noEvent noCall same
    rw [noEvent, noCall, same, List.append_nil, List.append_nil]
    exact inv
  cases a with
  | enter ticket event =>
    by_cases free : s.running.getD ticket [] = []
    · cases chain : event.chain? repr with
      | none =>
        exact idle (by simp [handedIn, chain]) (by simp [callsMade, chain]) (by simp [act, chain])
      | some chainId =>
        have event_in : handedIn repr s (.enter ticket event) = [event] := by
          simp [handedIn, free, chain]
        have calls : callsMade repr s (.enter ticket event) = (trackChain s.seen chainId).2.2 := by
          simp [callsMade, free, chain]
        rw [event_in, calls]
        exact inv_enter inv free chain
    · exact idle (by simp [handedIn, free]) (by simp [callsMade, free]) (by simp [act, free])
  | sample ticket =>
    cases waiting : s.running.getD ticket [] with
    | nil => exact idle rfl (by simp [callsMade, waiting]) (by simp [act, waiting])
    | cons next rest =>
      have calls : callsMade repr s (.sample ticket) = [next] := by simp [callsMade, waiting]
      rw [calls, handedIn, List.append_nil]
      exact inv_sample inv waiting

theorem inv_run (numerals : Numerals) (repr : PyVal → String) (actions : List Action) :
    Inv numerals repr (Runs.shown (act numerals repr) (handedIn repr) {} actions)
      (Runs.shown (act numerals repr) (callsMade repr) {} actions)
      (Runs.run (act numerals repr) {} actions) := by
  let Kept (actions : List Action) (s : Callbacks) : Prop :=
    Inv numerals repr (Runs.shown (act numerals repr) (handedIn repr) {} actions)
      (Runs.shown (act numerals repr) (callsMade repr) {} actions) s
  have keep : ∀ earlier s a, Kept earlier s → Runs.run (act numerals repr) {} earlier = s →
      True → Kept (earlier ++ [a]) (act numerals repr s a) := by
    rintro earlier _ a inv rfl _
    unfold Kept
    rw [Runs.shown_concat, Runs.shown_concat]
    exact act_inv inv a
  exact Runs.traced_invariant keep inv_start (Runs.eachStep_true _ actions)

end Steps

section Bounds
variable {numerals : Numerals} {repr : PyVal → String} {handled : List Emission}
  {made : List Sample} {s : Callbacks}

theorem normalizeDecision_valid (value : String) : normalizeDecision value ∈ validDecisions := by
  unfold normalizeDecision
  split
  · rename_i listed
    exact listed
  · decide

theorem mem_samples {e : Emission} {chainId : String} {x : Sample}
    (among : x ∈ e.samples numerals repr chainId) : x.chain? = some chainId ∧
      ∀ decision, x.decision? = some decision → decision ∈ validDecisions := by
  unfold Emission.samples at among
  split at among
  · simp only [completedSamples, List.mem_append, List.mem_singleton] at among
    rcases among with ((rfl | halted) | degraded) | duration
    · refine ⟨rfl, ?_⟩
      intro decision eq
      cases eq
      exact normalizeDecision_valid _
    · split at halted
      · obtain rfl := List.mem_singleton.mp halted
        exact ⟨rfl, by simp [Sample.decision?]⟩
      · cases halted
    · split at degraded
      · obtain rfl := List.mem_singleton.mp degraded
        exact ⟨rfl, by simp [Sample.decision?]⟩
      · cases degraded
    · split at duration
      · obtain rfl := List.mem_singleton.mp duration
        exact ⟨rfl, by simp [Sample.decision?]⟩
      · cases duration
  · split at among
    · obtain rfl := List.mem_singleton.mp among
      refine ⟨rfl, ?_⟩
      intro decision eq
      cases eq
      exact normalizeDecision_valid _
    · cases among

/-- Every call made is the gauge's or comes from an event, under its label. -/
theorem made_cases (inv : Inv numerals repr handled made s) {x : Sample} (among : x ∈ made) :
    x = .newChain ∨ ∃ e ∈ handled, ∃ chainId, e.chain? repr = some chainId ∧
      x ∈ e.samples numerals repr (label s.seen chainId) := by
  have counted : x ∈ (made : Multiset Sample) + s.pending :=
    Multiset.mem_add.mpr (Or.inl (Multiset.mem_coe.mpr among))
  rw [inv.samples, Multiset.mem_add] at counted
  rcases counted with gauge | event
  · exact Or.inl (Multiset.eq_of_mem_replicate gauge)
  · obtain ⟨e, among, listed⟩ := List.mem_flatMap.mp (Multiset.mem_coe.mp event)
    unfold attributed at listed
    split at listed
    · cases listed
    · rename_i chainId chain
      exact Or.inr ⟨e, among, chainId, chain, listed⟩

theorem label_listed (seen : List String) (chainId : String) :
    label seen chainId ∈ labelUnknown :: labelOverflow :: seen := by
  unfold label
  split
  · rename_i own
    rcases own with rfl | among
    · exact List.mem_cons_self
    · exact List.mem_cons_of_mem _ (List.mem_cons_of_mem _ among)
  · exact List.mem_cons_of_mem _ List.mem_cons_self

theorem made_labels (inv : Inv numerals repr handled made s) {chainId : String}
    (used : chainId ∈ made.filterMap Sample.chain?) :
    chainId ∈ labelUnknown :: labelOverflow :: s.seen := by
  obtain ⟨x, among, named⟩ := List.mem_filterMap.mp used
  rcases made_cases inv among with rfl | ⟨e, _, chain, _, listed⟩
  · cases named
  · rw [(mem_samples listed).1] at named
    cases named
    exact label_listed s.seen chain

theorem inv_attributed (inv : Inv numerals repr handled made s) :
    Attributed numerals repr handled made s := by
  constructor
  case chains => rw [inv.chains, admitted_eq]
  case samples => exact inv.samples
  case series =>
    have sub : (made.filterMap Sample.chain?).eraseDups ⊆
        labelUnknown :: labelOverflow :: s.seen :=
      fun chainId used => made_labels inv (List.mem_eraseDups.mp used)
    have fewer := (List.subperm_of_subset (nodup_eraseDups _) sub).length_le
    have bounded : s.seen.length ≤ maxChainIds := by
      rw [inv.chains]
      exact admitted_length_le _
    simp only [List.length_cons] at fewer
    omega
  case decisions =>
    intro x among decision named
    rcases made_cases inv among with rfl | ⟨e, _, chain, _, listed⟩
    · cases named
    · exact (mem_samples listed).2 decision named

end Bounds

/-- Whatever the threads do in between, every event is counted once, under one label that its
    chain keeps, and there are never more than a thousand and two labels. -/
theorem events_attributed (numerals : Numerals) (repr : PyVal → String) (actions : List Action) :
    Attributed numerals repr (Runs.shown (act numerals repr) (handedIn repr) {} actions)
      (Runs.shown (act numerals repr) (callsMade repr) {} actions)
      (Runs.run (act numerals repr) {} actions) :=
  inv_attributed (inv_run numerals repr actions)

def eventOf (eventType chainId : String) : Emission where
  eventType := eventType
  payload := Dict.ofEntries [("chain_id", .str chainId), ("status", .str "halted")]

/-- Two threads and three events, of which the second is none of the subscriber's concern; the
    last callback has a call to make yet. -/
def twoThreads : List Action :=
  [.enter 1 (eventOf "step_completed" "a"), .enter 2 (eventOf "budget_reset" "b"),
    .enter 2 (eventOf "step_denied" "c"), .sample 2, .sample 1]

theorem two_threads_attributed :
    let repr : PyVal → String := fun _ => ""
    let made := Runs.shown (act noNumerals repr) (callsMade repr) {} twoThreads
    let s := Runs.run (act noNumerals repr) {} twoThreads
    Attributed noNumerals repr (Runs.shown (act noNumerals repr) (handedIn repr) {} twoThreads)
        made s ∧
      made = [.newChain, .newChain, .denied "c" "halted", .completed "a" "halted"] ∧
      s.seen = ["a", "c"] ∧ s.running.getD 1 [] = [.halted "a"] :=
  ⟨events_attributed _ _ twoThreads, by decide, by decide, by decide⟩

end VeronicaPrometheus
