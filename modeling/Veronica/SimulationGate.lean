import Veronica.Lifecycle

/- The rollout endpoints as concurrent requests: a simulation computes its result in one step
   and installs it in a later one, and any other request may come between. -/
namespace VeronicaSimulationGate
open VeronicaDistribution VeronicaRollouts RolloutRegistry

/-- `inFlight` holds the simulations between their two steps. `recordedAt` only observes: the
    length the history had when the result in place was stored. -/
structure Service where
  app : AppState
  inFlight : Dict Nat (String × PyVal)
  recordedAt : Dict String Nat

/-- The first step of the simulate endpoint: read the rollout, distribute its policy. -/
def simulateRead (rt : Runtime) (app : AppState) (rolloutId : String) (now : ℚ) :
    AppState × Except Fault PyVal :=
  match app.rolloutRegistry.get rolloutId with
  | none => (app, .error (notFound rolloutId))
  | some rollout =>
    match app.registry.distributor.distribute rt rollout.policyConfig now with
    | (distributor, .error _) =>
      ({ app with registry := { app.registry with distributor } },
        .error (.http 422 "Simulation failed"))
    | (distributor, .ok bundle) =>
      ({ app with registry := { app.registry with distributor } },
        .ok (simulationResultOf bundle))

def simulateWrite (rt : Runtime) (app : AppState) (rolloutId : String) (result : PyVal)
    (now : ℚ) : AppState × Response :=
  let (reg, outcome) := app.rolloutRegistry.simulate rt rolloutId result "system" now
  ({ app with rolloutRegistry := reg }, outcome.mapError (ofRegistryError rolloutId))

def observeRecording (rt : Runtime) (s : Service) (rolloutId : String) (result : PyVal) :
    Dict String Nat :=
  match s.app.rolloutRegistry.get rolloutId with
  | none => s.recordedAt
  | some rollout =>
    if rollout.state = .draft ∧ checkResult rt result = .ok () then
      s.recordedAt.set rolloutId rollout.history.length
    else s.recordedAt

/-- One atomic step of some request. `ticket` names the request a simulation belongs to;
    `transition` is the approve, promote, activate and revoke endpoints and any rollback;
    `register` is the first half of activate. -/
inductive Action where
  | create (id : String) (policy : PolicyConfig) (createdBy : String) (now : ℚ)
  | simulateRead (ticket : Nat) (rolloutId : String) (now : ℚ)
  | simulateWrite (ticket : Nat) (now : ℚ)
  | transition (rolloutId : String) (target : RolloutState) (actor : String) (now : ℚ)
  | register (policy : PolicyConfig) (now : ℚ)

def serve (rt : Runtime) (s : Service) : Action → Service
  | .create id policy createdBy now =>
    { s with app := (createRollout s.app id policy createdBy now).1 }
  | .simulateRead ticket rolloutId now =>
    match simulateRead rt s.app rolloutId now with
    | (app, .error _) => { s with app }
    | (app, .ok result) => { s with app, inFlight := s.inFlight.set ticket (rolloutId, result) }
  | .simulateWrite ticket now =>
    match s.inFlight.get? ticket with
    | none => s
    | some (rolloutId, result) =>
      { app := (simulateWrite rt s.app rolloutId result now).1
        inFlight := s.inFlight.erase ticket
        recordedAt := observeRecording rt s rolloutId result }
  | .transition rolloutId target actor now =>
    { s with app := (doTransition s.app rolloutId target actor now).1 }
  | .register policy now =>
    { s with app := { s.app with registry := (s.app.registry.register rt policy now).1 } }

/-- A new id is a UUID, and no endpoint moves a rollout to SIMULATED but the simulation. -/
def Legal (s : Service) : Action → Prop
  | .create id _ _ _ => s.app.rolloutRegistry.get id = none
  | .transition _ target _ _ => target ≠ .simulated
  | _ => True

def opened (distributor : PolicyDistributor) : Service :=
  { app := startup distributor, inFlight := ∅, recordedAt := ∅ }

def resultHash : PyVal → Option PyVal
  | .dict fields => fields.lookup "policy_hash"
  | _ => none

def gatedStates : List RolloutState := [.simulated, .approved, .promoted, .active]

/-- The rollout holds a result for its own policy, stored at place `place` of its history, and
    has not entered DRAFT since. -/
structure SimulatedAt (rt : Runtime) (rollout : Rollout) (place : Nat) : Prop where
  result : ∃ result, rollout.simulationResult = some result ∧
    resultHash result = some (.str (rt.computePolicyHash rollout.policyConfig))
  inHistory : place ≤ rollout.history.length
  since : ∀ entry ∈ rollout.history.drop place, entry.toState ≠ .draft

def Gated (rt : Runtime) (s : Service) : Prop :=
  ∀ id rollout, s.app.rolloutRegistry.get id = some rollout → rollout.state ∈ gatedStates →
    ∃ place, s.recordedAt.get? id = some place ∧ SimulatedAt rt rollout place

/-- A result in flight was computed from the policy its rollout still has. -/
def InFlightMatch (rt : Runtime) (s : Service) : Prop :=
  ∀ ticket id result, s.inFlight.get? ticket = some (id, result) →
    ∃ rollout, s.app.rolloutRegistry.get id = some rollout ∧
      resultHash result = some (.str (rt.computePolicyHash rollout.policyConfig))

theorem resultHash_simulationResultOf (bundle : PolicyBundle) :
    resultHash (simulationResultOf bundle) = some (.str bundle.policyHash) := by
  simp [simulationResultOf, resultHash]

theorem simulateRead_cases (rt : Runtime) (app : AppState) (rolloutId : String) (now : ℚ) :
    (simulateRead rt app rolloutId now).1.rolloutRegistry = app.rolloutRegistry ∧
    ∀ result, (simulateRead rt app rolloutId now).2 = .ok result →
      ∃ rollout, app.rolloutRegistry.get rolloutId = some rollout ∧
        resultHash result = some (.str (rt.computePolicyHash rollout.policyConfig)) := by
  unfold simulateRead
  cases found : app.rolloutRegistry.get rolloutId with
  | none => simp
  | some rollout =>
    cases distributed : app.registry.distributor.distribute rt rollout.policyConfig now with
    | mk distributor outcome =>
      cases outcome with
      | error e => simp [distributed]
      | ok bundle =>
        obtain ⟨_, hash, _⟩ := distribute_ok distributed
        simp [distributed, resultHash_simulationResultOf, hash]

theorem transitioned_policyConfig (rollout : Rollout) (target : RolloutState) (actor : String)
    (now : ℚ) : (rollout.transitioned target actor now).policyConfig = rollout.policyConfig := by
  simp only [Rollout.transitioned]
  split <;> rfl

theorem transitioned_result {rollout : Rollout} {target : RolloutState} (actor : String)
    (now : ℚ) (onward : target ≠ .draft) :
    (rollout.transitioned target actor now).simulationResult = rollout.simulationResult := by
  simp [Rollout.transitioned, onward, Rollout.advance]

/-- Behind the gate one can only come from behind the gate, unless by simulation. -/
theorem gated_source {source target : RolloutState} (allowed : target ∈ validTransitions source)
    (notSimulated : target ≠ .simulated) (gated : target ∈ gatedStates) :
    source ∈ gatedStates ∧ target ≠ .draft := by
  cases source <;> cases target <;> simp_all [validTransitions, gatedStates]

theorem simulatedAt_transitioned {rt : Runtime} {rollout : Rollout} {place : Nat}
    (simulated : SimulatedAt rt rollout place) {target : RolloutState} (onward : target ≠ .draft)
    (actor : String) (now : ℚ) : SimulatedAt rt (rollout.transitioned target actor now) place := by
  constructor
  case result =>
    rw [transitioned_result actor now onward, transitioned_policyConfig]
    exact simulated.result
  case inHistory =>
    rw [VeronicaLifecycle.transitioned_history, List.length_append]
    exact Nat.le_add_right_of_le simulated.inHistory
  case since =>
    rw [VeronicaLifecycle.transitioned_history, List.drop_append_of_le_length simulated.inHistory]
    intro entry member
    rcases List.mem_append.mp member with earlier | last
    · exact simulated.since entry earlier
    · obtain rfl := List.mem_singleton.mp last
      exact onward

theorem simulatedAt_simulated {rt : Runtime} {rollout : Rollout} {result : PyVal}
    (hash : resultHash result = some (.str (rt.computePolicyHash rollout.policyConfig)))
    (actor : String) (now : ℚ) :
    SimulatedAt rt (rollout.simulated result actor now) rollout.history.length := by
  constructor
  case result => exact ⟨result, rfl, hash⟩
  case inHistory =>
    rw [VeronicaLifecycle.simulated_history, List.length_append]
    exact Nat.le_add_right _ _
  case since =>
    rw [VeronicaLifecycle.simulated_history, List.drop_left]
    simp

def PoliciesKept (before after : RolloutRegistry) : Prop :=
  ∀ id rollout, before.get id = some rollout →
    ∃ rollout', after.get id = some rollout' ∧ rollout'.policyConfig = rollout.policyConfig

theorem put_keeps_policies {reg : RolloutRegistry} {rolloutId : String} {rollout moved : Rollout}
    (found : reg.get rolloutId = some rollout)
    (same : moved.policyConfig = rollout.policyConfig) :
    PoliciesKept reg (reg.put rolloutId moved) := by
  intro id other known
  rw [get_put]
  split
  · rename_i eq
    rw [eq, found] at known
    cases known
    exact ⟨moved, rfl, same⟩
  · exact ⟨other, known, rfl⟩

theorem inFlightMatch_kept {rt : Runtime} {s s' : Service} (inFlight : InFlightMatch rt s)
    (fewer : ∀ ticket entry, s'.inFlight.get? ticket = some entry →
      s.inFlight.get? ticket = some entry)
    (kept : PoliciesKept s.app.rolloutRegistry s'.app.rolloutRegistry) : InFlightMatch rt s' := by
  intro ticket id result pending
  obtain ⟨rollout, known, hash⟩ := inFlight ticket id result (fewer ticket _ pending)
  obtain ⟨rollout', still, same⟩ := kept id rollout known
  exact ⟨rollout', still, by rw [same]; exact hash⟩

theorem create_gated {rt : Runtime} {s : Service} {id : String}
    (fresh : s.app.rolloutRegistry.get id = none) (gated : Gated rt s)
    (inFlight : InFlightMatch rt s) (policy : PolicyConfig) (createdBy : String) (now : ℚ) :
    Gated rt (serve rt s (.create id policy createdBy now)) ∧
    InFlightMatch rt (serve rt s (.create id policy createdBy now)) := by
  constructor
  · intro known rollout found behind
    have made : (s.app.rolloutRegistry.put id (newRollout id policy createdBy now)).get known =
      some rollout := found
    rw [get_put] at made
    split at made
    · cases made
      simp [newRollout, gatedStates] at behind
    · exact gated known rollout made behind
  · refine inFlightMatch_kept inFlight (fun _ _ pending => pending) ?_
    intro known rollout found
    have other : known ≠ id := by
      intro same
      rw [same, fresh] at found
      cases found
    refine ⟨rollout, ?_, rfl⟩
    show (s.app.rolloutRegistry.put id _).get known = some rollout
    rw [get_put, if_neg other]
    exact found

theorem simulateRead_gated {rt : Runtime} {s : Service} (gated : Gated rt s)
    (inFlight : InFlightMatch rt s) (ticket : Nat) (rolloutId : String) (now : ℚ) :
    Gated rt (serve rt s (.simulateRead ticket rolloutId now)) ∧
    InFlightMatch rt (serve rt s (.simulateRead ticket rolloutId now)) := by
  obtain ⟨unchanged, computed⟩ := simulateRead_cases rt s.app rolloutId now
  cases read : simulateRead rt s.app rolloutId now with
  | mk app outcome =>
    rw [read] at unchanged computed
    simp only at unchanged computed
    have kept : PoliciesKept s.app.rolloutRegistry app.rolloutRegistry := by
      rw [unchanged]
      exact fun id rollout known => ⟨rollout, known, rfl⟩
    simp only [serve, read]
    cases outcome with
    | error fault =>
      refine ⟨?_, inFlightMatch_kept inFlight (fun _ _ pending => pending) kept⟩
      simp only [Gated, unchanged]
      exact gated
    | ok result =>
      refine ⟨?_, ?_⟩
      · simp only [Gated, unchanged]
        exact gated
      · intro other id pendingResult pending
        rw [Dict.get?_set] at pending
        split at pending
        · cases pending
          obtain ⟨rollout, known, hash⟩ := computed result rfl
          exact ⟨rollout, by rw [unchanged]; exact known, hash⟩
        · obtain ⟨rollout, known, hash⟩ := inFlight other id pendingResult pending
          exact ⟨rollout, by rw [unchanged]; exact known, hash⟩

theorem transition_gated {rt : Runtime} {s : Service} {target : RolloutState}
    (notSimulated : target ≠ .simulated) (gated : Gated rt s) (inFlight : InFlightMatch rt s)
    (rolloutId actor : String) (now : ℚ) :
    Gated rt (serve rt s (.transition rolloutId target actor now)) ∧
    InFlightMatch rt (serve rt s (.transition rolloutId target actor now)) := by
  simp only [serve, doTransition]
  rcases s.app.rolloutRegistry.transition_cases rolloutId target actor now with
    ⟨_, eq⟩ | ⟨_, _, _, _, eq⟩ | ⟨before, found, allowed, _, eq⟩
  · rw [eq]
    exact ⟨gated, inFlight⟩
  · rw [eq]
    exact ⟨gated, inFlight⟩
  · rw [eq]
    refine ⟨?_, inFlightMatch_kept inFlight (fun _ _ pending => pending)
      (put_keeps_policies found (transitioned_policyConfig _ _ _ _))⟩
    intro id rollout known behind
    simp only [get_put] at known
    split at known
    · rename_i same
      cases known
      rw [transitioned_state] at behind
      obtain ⟨wasBehind, onward⟩ := gated_source allowed notSimulated behind
      obtain ⟨place, recorded, simulated⟩ := gated rolloutId before found wasBehind
      exact ⟨place, by rw [same]; exact recorded,
        simulatedAt_transitioned simulated onward actor now⟩
    · exact gated id rollout known behind

theorem simulateWrite_gated {rt : Runtime} {s : Service} (gated : Gated rt s)
    (inFlight : InFlightMatch rt s) (ticket : Nat) (now : ℚ) :
    Gated rt (serve rt s (.simulateWrite ticket now)) ∧
    InFlightMatch rt (serve rt s (.simulateWrite ticket now)) := by
  simp only [serve]
  cases pending : s.inFlight.get? ticket with
  | none => exact ⟨gated, inFlight⟩
  | some entry =>
    obtain ⟨rolloutId, result⟩ := entry
    obtain ⟨owner, owned, hash⟩ := inFlight ticket rolloutId result pending
    have fewer : ∀ other (entry : String × PyVal), (s.inFlight.erase ticket).get? other =
        some entry → s.inFlight.get? other = some entry := by
      intro other entry kept
      exact (Dict.get?_of_erase kept).2
    have elsewhere : ∀ (moved : Rollout) (place : Nat) id rollout, id ≠ rolloutId →
        (s.app.rolloutRegistry.put rolloutId moved).get id = some rollout →
        rollout.state ∈ gatedStates → ∃ place', (s.recordedAt.set rolloutId place).get? id =
          some place' ∧ SimulatedAt rt rollout place' := by
      intro moved place id rollout other known behind
      rw [get_put, if_neg other] at known
      rw [Dict.get?_set_of_ne _ other]
      exact gated id rollout known behind
    simp only [simulateWrite]
    rcases s.app.rolloutRegistry.simulate_cases rt rolloutId result "system" now with
      ⟨refused, _, eq⟩ | ⟨before, found, draft, ok, _, eq⟩ | ⟨before, found, draft, ok, _, eq⟩
    · simp only [eq, observeRecording, owned, if_neg (refused owner owned)]
      exact ⟨gated, inFlightMatch_kept inFlight fewer fun id rollout known => ⟨rollout, known, rfl⟩⟩
    · cases owned.symm.trans found
      simp only [eq, observeRecording, owned, draft, ok, and_self, if_true]
      refine ⟨?_, inFlightMatch_kept inFlight fewer (put_keeps_policies owned rfl)⟩
      intro id rollout known behind
      by_cases same : id = rolloutId
      · simp only [get_put, if_pos same] at known
        cases known
        simp [gatedStates] at behind
      · exact elsewhere _ _ id rollout same known behind
    · cases owned.symm.trans found
      simp only [eq, observeRecording, owned, draft, ok, and_self, if_true]
      refine ⟨?_, inFlightMatch_kept inFlight fewer (put_keeps_policies owned rfl)⟩
      intro id rollout known behind
      by_cases same : id = rolloutId
      · simp only [get_put, if_pos same] at known
        cases known
        exact ⟨owner.history.length, by rw [same]; exact Dict.get?_set_self _ _ _,
          simulatedAt_simulated hash "system" now⟩
      · exact elsewhere _ _ id rollout same known behind

theorem serve_gated {rt : Runtime} {s : Service} {a : Action} (legal : Legal s a)
    (gated : Gated rt s) (inFlight : InFlightMatch rt s) :
    Gated rt (serve rt s a) ∧ InFlightMatch rt (serve rt s a) := by
  cases a with
  | create id policy createdBy now => exact create_gated legal gated inFlight policy createdBy now
  | simulateRead ticket rolloutId now =>
    exact simulateRead_gated gated inFlight ticket rolloutId now
  | simulateWrite ticket now => exact simulateWrite_gated gated inFlight ticket now
  | transition rolloutId target actor now =>
    exact transition_gated legal gated inFlight rolloutId actor now
  | register policy now => exact ⟨gated, inFlight⟩

/-- Whatever the interleaving, a rollout behind the gate holds a result for its own policy that
    was stored after it last entered DRAFT. -/
theorem simulation_gate {rt : Runtime} {distributor : PolicyDistributor} {actions : List Action}
    (legal : Runs.EachStep (serve rt) Legal (opened distributor) actions) :
    Runs.EachState (serve rt) (Gated rt) (opened distributor) actions := by
  refine Runs.eachState_imp (fun s both => both.1)
    (Runs.eachState_invariant (I := fun s => Gated rt s ∧ InFlightMatch rt s) ?_ ?_ legal)
  · intro s a both legalHere
    exact serve_gated legalHere both.1 both.2
  · constructor
    · intro id rollout known
      simp [opened, startup, RolloutRegistry.get] at known
    · intro ticket id result pending
      simp [opened] at pending

section PaymentAgent
open VeronicaActivation (paymentPolicy paymentRuntime paymentDistributor)

/-- Two simulations of one rollout overlap, and a rollback comes between their writes. -/
def overlappingSimulations : List Action :=
  [.create "rollout-1" paymentPolicy "operator" 0, .simulateRead 1 "rollout-1" 1,
    .simulateRead 2 "rollout-1" 2, .simulateWrite 1 3,
    .transition "rollout-1" .draft "operator" 4, .simulateWrite 2 5,
    .transition "rollout-1" .approved "operator" 6]

theorem overlapping_simulations_gated : Runs.EachState (serve paymentRuntime)
    (Gated paymentRuntime) (opened paymentDistributor) overlappingSimulations :=
  simulation_gate ⟨rfl, trivial, trivial, trivial, by simp [Legal], trivial, by simp [Legal],
    trivial⟩

end PaymentAgent

/-- The atomic steps a request takes when nothing comes between them. -/
def stepsOf (rt : Runtime) (app : AppState) (ticket : Nat) : Request → List Action
  | .create id policy createdBy now => [.create id policy createdBy now]
  | .simulate rolloutId now => [.simulateRead ticket rolloutId now, .simulateWrite ticket now]
  | .approve rolloutId actor now => [.transition rolloutId .approved actor now]
  | .promote rolloutId actor now => [.transition rolloutId .promoted actor now]
  | .activate rolloutId actor now =>
    match app.rolloutRegistry.get rolloutId with
    | none => []
    | some rollout =>
      match app.registry.register rt rollout.policyConfig now with
      | (_, .error _) => [.register rollout.policyConfig now]
      | (_, .ok _) =>
        [.register rollout.policyConfig now, .transition rolloutId .active actor now]
  | .revoke rolloutId actor now => [.transition rolloutId .revoked actor now]

theorem handle_eq_run (rt : Runtime) (s : Service) (request : Request) {ticket : Nat}
    (unused : s.inFlight.get? ticket = none) :
    (Runs.run (serve rt) s (stepsOf rt s.app ticket request)).app = handle rt s.app request := by
  cases request with
  | create id policy createdBy now => rfl
  | approve rolloutId actor now => rfl
  | promote rolloutId actor now => rfl
  | revoke rolloutId actor now => rfl
  | simulate rolloutId now =>
    simp only [stepsOf, Runs.run, List.foldl, handle, respond, simulateRollout]
    cases found : s.app.rolloutRegistry.get rolloutId with
    | none => simp [serve, simulateRead, found, unused]
    | some rollout =>
      rcases distribute_cases rt s.app.registry.distributor rollout.policyConfig now with
        ⟨_, bundle, eq, _⟩ | ⟨_, e, eq⟩
      · simp [serve, simulateRead, simulateWrite, found, eq]
      · simp [serve, simulateRead, found, eq, unused]
  | activate rolloutId actor now =>
    simp only [stepsOf, handle, respond, activateRollout]
    cases found : s.app.rolloutRegistry.get rolloutId with
    | none => rfl
    | some rollout =>
      rcases register_cases rt s.app.registry rollout.policyConfig now with
        ⟨_, bundle, eq, _⟩ | ⟨_, e, eq⟩
      · simp only [eq, Runs.run, List.foldl, serve]
        rcases s.app.rolloutRegistry.transition_cases rolloutId .active actor now with
          ⟨_, moved⟩ | ⟨_, _, _, _, moved⟩ | ⟨_, _, _, _, moved⟩ <;>
          simp [doTransition, moved, Except.mapError, ofRegistryError, notFound]
      · simp [eq, Runs.run, serve]

end VeronicaSimulationGate
