import Veronica.ActivationGate
import Veronica.Library.Walks

/- Runs of the rollout registry under its own writers, successful or raising. -/
namespace VeronicaLifecycle
open VeronicaDistribution VeronicaRollouts Walks RolloutRegistry

/-- A call to the registry. The id of a new rollout is its UUID. -/
inductive Call where
  | create (id : String) (policyConfig : PolicyConfig) (createdBy : String) (now : ℚ)
  | transition (rolloutId : String) (target : RolloutState) (actor : String) (now : ℚ)
  | simulate (rolloutId : String) (result : PyVal) (actor : String) (now : ℚ)
  | setSimulationResult (rolloutId : String) (result : PyVal)

def call (rt : Runtime) (reg : RolloutRegistry) : Call → RolloutRegistry
  | .create id policyConfig createdBy now => (reg.create id policyConfig createdBy now).1
  | .transition rolloutId target actor now => (reg.transition rolloutId target actor now).1
  | .simulate rolloutId result actor now => (reg.simulate rt rolloutId result actor now).1
  | .setSimulationResult rolloutId result => (reg.setSimulationResult rt rolloutId result).1

def FreshId (reg : RolloutRegistry) : Call → Prop
  | .create id _ _ _ => reg.get id = none
  | _ => True

def emptyRegistry : RolloutRegistry := { rollouts := ∅ }

def registryAfter (rt : Runtime) (calls : List Call) : RolloutRegistry :=
  Runs.run (call rt) emptyRegistry calls

/-- What one call may do to a rollout that is already registered. -/
inductive Change (before : Rollout) : Rollout → Prop where
  | none : Change before before
  | recorded (result : PyVal) (draft : before.state = .draft) :
      Change before { before with simulationResult := some result }
  | moved (target : RolloutState) (actor : String) (now : ℚ)
      (allowed : target ∈ validTransitions before.state)
      (room : before.history.length < maxHistoryLength) :
      Change before (before.transitioned target actor now)
  | simulated (result : PyVal) (actor : String) (now : ℚ) (draft : before.state = .draft)
      (room : before.history.length < maxHistoryLength) :
      Change before (before.simulated result actor now)

theorem put_change {reg : RolloutRegistry} {rolloutId : String} {before after : Rollout}
    (found : reg.get rolloutId = some before) (change : Change before after) {id : String}
    {rollout : Rollout} (known : reg.get id = some rollout) :
    ∃ rollout', (reg.put rolloutId after).get id = some rollout' ∧ Change rollout rollout' := by
  rw [get_put]
  split
  · rename_i same
    rw [same, found] at known
    cases known
    exact ⟨after, rfl, change⟩
  · exact ⟨rollout, known, .none⟩

theorem call_change (rt : Runtime) {reg : RolloutRegistry} {c : Call} (fresh : FreshId reg c)
    {id : String} {rollout : Rollout} (known : reg.get id = some rollout) :
    ∃ rollout', (call rt reg c).get id = some rollout' ∧ Change rollout rollout' := by
  cases c with
  | create newId policyConfig createdBy now =>
    refine ⟨rollout, ?_, .none⟩
    have other : id ≠ newId := by
      intro same
      rw [same, fresh] at known
      cases known
    show (reg.rollouts.set newId _).get? id = some rollout
    rw [Dict.get?_set_of_ne _ other]
    exact known
  | transition rolloutId target actor now =>
    rcases reg.transition_cases rolloutId target actor now with
      ⟨_, eq⟩ | ⟨_, _, _, _, eq⟩ | ⟨before, found, allowed, room, eq⟩
    · simp only [call, eq]
      exact ⟨rollout, known, .none⟩
    · simp only [call, eq]
      exact ⟨rollout, known, .none⟩
    · simp only [call, eq]
      exact put_change found (.moved target actor now allowed room) known
  | simulate rolloutId result actor now =>
    rcases reg.simulate_cases rt rolloutId result actor now with
      ⟨_, _, eq⟩ | ⟨before, found, draft, _, _, eq⟩ | ⟨before, found, draft, _, room, eq⟩
    · simp only [call, eq]
      exact ⟨rollout, known, .none⟩
    · simp only [call, eq]
      exact put_change found (.recorded result draft) known
    · simp only [call, eq]
      exact put_change found (.simulated result actor now draft room) known
  | setSimulationResult rolloutId result =>
    rcases reg.setSimulationResult_cases rt rolloutId result with
      ⟨_, eq⟩ | ⟨before, found, draft, eq⟩
    · simp only [call, eq]
      exact ⟨rollout, known, .none⟩
    · simp only [call, eq]
      exact put_change found (.recorded result draft) known

theorem put_origin {reg : RolloutRegistry} {rolloutId : String} {before moved : Rollout}
    (found : reg.get rolloutId = some before) (change : Change before moved) {id : String}
    {after : Rollout} (known : (reg.put rolloutId moved).get id = some after) :
    ∃ rollout, reg.get id = some rollout ∧ Change rollout after := by
  rw [get_put] at known
  split at known
  · rename_i same
    cases known
    exact ⟨before, by rw [same, found], change⟩
  · exact ⟨after, known, .none⟩

theorem call_origin {rt : Runtime} {reg : RolloutRegistry} {c : Call} {id : String}
    {after : Rollout} (known : (call rt reg c).get id = some after) :
    (∃ before, reg.get id = some before ∧ Change before after) ∨
    ∃ newId policyConfig createdBy now, after = newRollout newId policyConfig createdBy now := by
  cases c with
  | create newId policyConfig createdBy now =>
    have made : (reg.put newId (newRollout newId policyConfig createdBy now)).get id =
      some after := known
    rw [get_put] at made
    split at made
    · cases made
      exact Or.inr ⟨newId, policyConfig, createdBy, now, rfl⟩
    · exact Or.inl ⟨after, made, .none⟩
  | transition rolloutId target actor now =>
    left
    rcases reg.transition_cases rolloutId target actor now with
      ⟨_, eq⟩ | ⟨_, _, _, _, eq⟩ | ⟨before, found, allowed, room, eq⟩ <;>
      simp only [call, eq] at known
    · exact ⟨after, known, .none⟩
    · exact ⟨after, known, .none⟩
    · exact put_origin found (.moved target actor now allowed room) known
  | simulate rolloutId result actor now =>
    left
    rcases reg.simulate_cases rt rolloutId result actor now with
      ⟨_, _, eq⟩ | ⟨before, found, draft, _, _, eq⟩ | ⟨before, found, draft, _, room, eq⟩ <;>
      simp only [call, eq] at known
    · exact ⟨after, known, .none⟩
    · exact put_origin found (.recorded result draft) known
    · exact put_origin found (.simulated result actor now draft room) known
  | setSimulationResult rolloutId result =>
    left
    rcases reg.setSimulationResult_cases rt rolloutId result with
      ⟨_, eq⟩ | ⟨before, found, draft, eq⟩ <;>
      simp only [call, eq] at known
    · exact ⟨after, known, .none⟩
    · exact put_origin found (.recorded result draft) known

/-- The induction over runs, for a property of single rollouts that new ones have and every
    change keeps. -/
theorem rollouts_invariant {rt : Runtime} {holds : Rollout → Prop}
    (new : ∀ id policyConfig createdBy now, holds (newRollout id policyConfig createdBy now))
    (keep : ∀ before after, Change before after → holds before → holds after)
    (calls : List Call) :
    ∀ id rollout, (registryAfter rt calls).get id = some rollout → holds rollout := by
  refine Runs.reachable_invariant (I := fun reg : RolloutRegistry => ∀ id rollout,
    reg.get id = some rollout → holds rollout) ?_ ?_ (Runs.reachable_run calls)
  · intro reg c all _ id after known
    rcases call_origin known with ⟨before, found, change⟩ | ⟨_, _, _, _, rfl⟩
    · exact keep before after change (all id before found)
    · exact new _ _ _ _
  · intro id rollout known
    simp [emptyRegistry, RolloutRegistry.get] at known

def Edge (source target : RolloutState) : Prop := target ∈ validTransitions source

def edgesOf (history : List StateTransition) : List (RolloutState × RolloutState) :=
  history.map fun entry => (entry.fromState, entry.toState)

/-- The gates a rollout has to have passed since it was last a draft. -/
def gates : RolloutState → List RolloutState
  | .draft => []
  | .simulated => [.simulated]
  | .approved => [.simulated, .approved]
  | .promoted => [.simulated, .approved, .promoted]
  | .active => [.simulated, .approved, .promoted, .active]
  | .revoked => []

structure WellFormed (rollout : Rollout) : Prop where
  path : Walk Edge .draft rollout.state (edgesOf rollout.history)
  bounded : rollout.history.length ≤ maxHistoryLength
  terminal : ∀ entry ∈ rollout.history, entry.fromState ≠ .revoked
  gated : rollout.state = .active →
    [.simulated, .approved, .promoted, .active].Sublist (since .draft (edgesOf rollout.history))

theorem edgesOf_append (history : List StateTransition) (entry : StateTransition) :
    edgesOf (history ++ [entry]) = edgesOf history ++ [(entry.fromState, entry.toState)] := by
  simp [edgesOf]

theorem gates_pass (source target : RolloutState) (edge : Edge source target)
    (onward : target ≠ .draft) : (gates target).Sublist (gates source ++ [target]) := by
  unfold Edge at edge
  cases source <;> cases target <;> simp_all [validTransitions, gates]

/-- The order of the gates and the finality of REVOKED are properties of the path alone. -/
theorem wellFormed_of_path {rollout : Rollout}
    (path : Walk Edge .draft rollout.state (edgesOf rollout.history))
    (bounded : rollout.history.length ≤ maxHistoryLength) : WellFormed rollout := by
  constructor
  case path => exact path
  case bounded => exact bounded
  case terminal =>
    intro entry member
    have blocked : ∀ next, ¬ Edge .revoked next := by simp [Edge, validTransitions]
    exact walk_ends_at_sink blocked path (entry.fromState, entry.toState)
      (List.mem_map.mpr ⟨entry, member, rfl⟩)
  case gated =>
    intro active
    have passed := gates_in_order gates .draft rfl rfl gates_pass path
    rw [active] at passed
    exact passed

@[simp] theorem transitioned_history (rollout : Rollout) (target : RolloutState)
    (actor : String) (now : ℚ) : (rollout.transitioned target actor now).history =
      rollout.history ++ [⟨rollout.state, target, now, actor⟩] := by
  simp only [Rollout.transitioned]
  split <;> rfl

@[simp] theorem simulated_history (rollout : Rollout) (result : PyVal) (actor : String)
    (now : ℚ) : (rollout.simulated result actor now).history =
      rollout.history ++ [⟨rollout.state, .simulated, now, actor⟩] := rfl

@[simp] theorem simulated_state (rollout : Rollout) (result : PyVal) (actor : String)
    (now : ℚ) : (rollout.simulated result actor now).state = .simulated := rfl

theorem draft_may_be_simulated {rollout : Rollout} (draft : rollout.state = .draft) :
    Edge rollout.state .simulated := by
  rw [draft]
  simp [Edge, validTransitions]

theorem new_wellFormed (id : String) (policyConfig : PolicyConfig) (createdBy : String)
    (now : ℚ) : WellFormed (newRollout id policyConfig createdBy now) :=
  wellFormed_of_path .nil (Nat.zero_le _)

theorem change_wellFormed {before after : Rollout} (change : Change before after)
    (well : WellFormed before) : WellFormed after := by
  have appended : ∀ {rollout : Rollout} {entry : StateTransition},
      rollout.history = before.history ++ [entry] → entry.fromState = before.state →
      entry.toState = rollout.state → Edge before.state rollout.state →
      before.history.length < maxHistoryLength → WellFormed rollout := by
    intro rollout entry history source target edge room
    apply wellFormed_of_path
    · rw [history, edgesOf_append, source, target]
      exact .step well.path edge
    · rw [history, List.length_append]
      exact room
  cases change with
  | none => exact well
  | recorded result draft => exact wellFormed_of_path well.path well.bounded
  | moved target actor now allowed room =>
    exact appended (transitioned_history _ _ _ _) rfl (transitioned_state _ _ _ _).symm
      (by rw [transitioned_state]; exact allowed) room
  | simulated result actor now draft room =>
    exact appended (simulated_history _ _ _ _) rfl rfl (draft_may_be_simulated draft) room

/-- `after` is what `before` has become: more history at the end, and still revoked if it was. -/
structure Extends (before after : Rollout) : Prop where
  history : before.history <+: after.history
  revoked : before.state = .revoked → after.state = .revoked

theorem change_extends {before after : Rollout} (change : Change before after) :
    Extends before after := by
  cases change with
  | none => exact ⟨List.prefix_refl _, id⟩
  | recorded result draft => exact ⟨List.prefix_refl _, id⟩
  | moved target actor now allowed room =>
    refine ⟨by rw [transitioned_history]; exact List.prefix_append _ _, ?_⟩
    intro revoked
    rw [revoked] at allowed
    simp [validTransitions] at allowed
  | simulated result actor now draft room =>
    refine ⟨List.prefix_append _ _, ?_⟩
    intro revoked
    rw [draft] at revoked
    cases revoked

theorem run_extends {rt : Runtime} {reg : RolloutRegistry} {calls : List Call}
    (fresh : Runs.EachStep (call rt) FreshId reg calls) {id : String} {before : Rollout}
    (known : reg.get id = some before) :
    ∃ after, (Runs.run (call rt) reg calls).get id = some after ∧ Extends before after := by
  refine Runs.run_invariant (I := fun reg => ∃ after, reg.get id = some after ∧
    Extends before after) ?_ ⟨before, known, List.prefix_refl _, fun revoked => revoked⟩ fresh
  intro reg c reached freshHere
  obtain ⟨rollout, found, extends_⟩ := reached
  obtain ⟨after, still, change⟩ := call_change rt freshHere found
  have more := change_extends change
  exact ⟨after, still, extends_.history.trans more.history,
    fun revoked => more.revoked (extends_.revoked revoked)⟩

theorem registered_wellFormed {rt : Runtime} {calls : List Call} {id : String}
    {rollout : Rollout} (known : (registryAfter rt calls).get id = some rollout) :
    WellFormed rollout :=
  rollouts_invariant new_wellFormed (fun _ _ => change_wellFormed) calls id rollout known

/-- The lifecycle of every rollout, at any two moments of a run. -/
theorem lifecycle {rt : Runtime} {earlier later : List Call}
    (fresh : Runs.EachStep (call rt) FreshId emptyRegistry (earlier ++ later)) {id : String}
    {before : Rollout} (known : (registryAfter rt earlier).get id = some before) :
    WellFormed before ∧ ∃ after, (registryAfter rt (earlier ++ later)).get id = some after ∧
      WellFormed after ∧ before.history <+: after.history ∧
      (before.state = .revoked → after.state = .revoked) := by
  obtain ⟨_, freshLater⟩ := Runs.eachStep_append.mp fresh
  obtain ⟨after, still, extends_⟩ := run_extends freshLater known
  have reached : (registryAfter rt (earlier ++ later)).get id = some after := by
    rw [registryAfter, Runs.run_append]
    exact still
  exact ⟨registered_wellFormed known, after, reached, registered_wellFormed reached,
    extends_.history, extends_.revoked⟩

section PaymentAgent
open VeronicaActivation (paymentPolicy paymentRuntime)

def createPayment : Call := .create "rollout-1" paymentPolicy "operator" 0
def simulatePayment : Call := .simulate "rollout-1" (.dict []) "system" 0
def movePayment (target : RolloutState) : Call := .transition "rollout-1" target "operator" 0

/-- A rollout is taken through every gate and then revoked. -/
theorem lifecycle_payment : WellFormed (newRollout "rollout-1" paymentPolicy "operator" 0) ∧
    ∃ after, (registryAfter paymentRuntime [createPayment, simulatePayment, movePayment .approved,
      movePayment .promoted, movePayment .active, movePayment .revoked]).get "rollout-1" =
        some after ∧
      WellFormed after ∧ [] <+: after.history ∧
      (RolloutState.draft = .revoked → after.state = .revoked) :=
  @lifecycle paymentRuntime [createPayment] [simulatePayment, movePayment .approved,
    movePayment .promoted, movePayment .active, movePayment .revoked]
    ⟨rfl, trivial, trivial, trivial, trivial, trivial, trivial⟩ "rollout-1" _ rfl

end PaymentAgent

section Revocation

/-- `transition(rollout_id, REVOKED, actor)` returns and leaves the rollout REVOKED. -/
def Revocable (reg : RolloutRegistry) (rolloutId actor : String) (now : ℚ) : Prop :=
  ∃ revoked, (reg.transition rolloutId .revoked actor now).2 = .ok revoked ∧
    (reg.transition rolloutId .revoked actor now).1.get rolloutId = some revoked ∧
    revoked.state = .revoked

def AllRevocable (reg : RolloutRegistry) : Prop :=
  ∀ id rollout actor now, reg.get id = some rollout → rollout.state ≠ .revoked →
    Revocable reg id actor now

def RoomLeft (reg : RolloutRegistry) : Prop :=
  ∀ id rollout, reg.get id = some rollout → rollout.state ≠ .revoked →
    rollout.history.length < maxHistoryLength

/-- A call that would fill the last place of a history is refused or a revocation. -/
def LeavesRoom (rt : Runtime) (reg : RolloutRegistry) : Call → Prop
  | .transition rolloutId target _ _ =>
    ∀ rollout, reg.get rolloutId = some rollout → target ∈ validTransitions rollout.state →
      target ≠ .revoked → rollout.history.length + 1 < maxHistoryLength
  | .simulate rolloutId result _ _ =>
    ∀ rollout, reg.get rolloutId = some rollout → rollout.state = .draft →
      checkResult rt result = .ok () → rollout.history.length + 1 < maxHistoryLength
  | _ => True

theorem revoked_allowed {state : RolloutState} (live : state ≠ .revoked) :
    .revoked ∈ validTransitions state := by
  cases state <;> simp_all [validTransitions]

theorem revocable_iff_room {reg : RolloutRegistry} {rolloutId : String} {rollout : Rollout}
    (known : reg.get rolloutId = some rollout) (live : rollout.state ≠ .revoked)
    (actor : String) (now : ℚ) :
    Revocable reg rolloutId actor now ↔ rollout.history.length < maxHistoryLength := by
  unfold Revocable
  rcases reg.transition_cases rolloutId .revoked actor now with
    ⟨missing, _⟩ | ⟨found, _, there, refused, eq⟩ | ⟨found, there, _, room, eq⟩
  · rw [known] at missing
    cases missing
  · cases known.symm.trans there
    have full : ¬ rollout.history.length < maxHistoryLength :=
      fun room => refused ⟨revoked_allowed live, room⟩
    simp [eq, full]
  · cases known.symm.trans there
    simp [eq, room]

theorem allRevocable_iff_roomLeft (reg : RolloutRegistry) : AllRevocable reg ↔ RoomLeft reg := by
  constructor
  · intro all id rollout known live
    exact (revocable_iff_room known live "" 0).mp (all id rollout "" 0 known live)
  · intro room id rollout actor now known live
    exact (revocable_iff_room known live actor now).mpr (room id rollout known live)

theorem roomLeft_put {reg : RolloutRegistry} (room : RoomLeft reg) (rolloutId : String)
    (moved : Rollout) : RoomLeft (reg.put rolloutId moved) ↔
      (moved.state ≠ .revoked → moved.history.length < maxHistoryLength) := by
  constructor
  · intro after
    exact after rolloutId moved (reg.get_put_self rolloutId moved)
  · intro movedRoom id rollout known live
    rw [get_put] at known
    split at known
    · cases known
      exact movedRoom live
    · exact room id rollout known live

theorem call_roomLeft_iff {rt : Runtime} {reg : RolloutRegistry} (room : RoomLeft reg)
    (c : Call) : RoomLeft (call rt reg c) ↔ LeavesRoom rt reg c := by
  cases c with
  | create id policyConfig createdBy now =>
    have made := roomLeft_put room id (newRollout id policyConfig createdBy now)
    exact ⟨fun _ => trivial, fun _ => made.mpr fun _ => Nat.zero_lt_succ _⟩
  | transition rolloutId target actor now =>
    rcases reg.transition_cases rolloutId target actor now with
      ⟨missing, eq⟩ | ⟨rollout, _, found, refused, eq⟩ | ⟨rollout, found, allowed, _, eq⟩
    · simp [call, eq, room, LeavesRoom, missing]
    · simp only [call, eq, room, LeavesRoom, found, true_iff, Option.some.injEq, forall_eq']
      intro allowed _
      have live : rollout.state ≠ .revoked := by
        intro revoked
        simp [revoked, validTransitions] at allowed
      exact absurd ⟨allowed, room rolloutId rollout found live⟩ refused
    · simp only [call, eq, LeavesRoom, found, Option.some.injEq, forall_eq', allowed,
        forall_const, roomLeft_put room, transitioned_state, transitioned_history,
        List.length_append, List.length_singleton]
  | simulate rolloutId result actor now =>
    rcases reg.simulate_cases rt rolloutId result actor now with
      ⟨refused, _, eq⟩ | ⟨rollout, found, draft, _, full, eq⟩ | ⟨rollout, found, draft, ok, _, eq⟩
    · simp only [call, eq, room, LeavesRoom, true_iff]
      intro rollout found draft ok
      exact absurd ⟨draft, ok⟩ (refused rollout found)
    · have live : rollout.state ≠ .revoked := by simp [draft]
      exact absurd (room rolloutId rollout found live) (Nat.not_lt.mpr full)
    · simp only [call, eq, LeavesRoom, found, Option.some.injEq, forall_eq', draft, ok,
        forall_const, roomLeft_put room, simulated_state, simulated_history,
        List.length_append, List.length_singleton, ne_eq, reduceCtorEq, not_false_eq_true]
  | setSimulationResult rolloutId result =>
    rcases reg.setSimulationResult_cases rt rolloutId result with
      ⟨_, eq⟩ | ⟨rollout, found, draft, eq⟩
    · simp [call, eq, room, LeavesRoom]
    · have kept := roomLeft_put room rolloutId { rollout with simulationResult := some result }
      simp only [call, eq, LeavesRoom, iff_true]
      exact kept.mpr (room rolloutId rollout found)

/-- Every rollout stays revocable through a run exactly when no call of the run takes the last
    place of a history for anything but a revocation. -/
theorem always_revocable_iff (rt : Runtime) (calls : List Call) :
    Runs.EachState (call rt) AllRevocable emptyRegistry calls ↔
      Runs.EachStep (call rt) (LeavesRoom rt) emptyRegistry calls := by
  have first : RoomLeft emptyRegistry := by
    intro id rollout known
    simp [emptyRegistry, RolloutRegistry.get] at known
  rw [Runs.eachState_iff_eachStep, and_iff_right ((allRevocable_iff_roomLeft _).mpr first)]
  exact Runs.eachStep_exact (I := RoomLeft)
    (fun reg c _ _ after => (allRevocable_iff_roomLeft _).mp after)
    (fun reg c room _ => (allRevocable_iff_roomLeft _).trans (call_roomLeft_iff room c))
    first (Runs.eachStep_true emptyRegistry calls)

open VeronicaActivation (paymentPolicy paymentRuntime)

def rollbackRounds : Nat → List Call
  | 0 => [createPayment]
  | rounds + 1 => rollbackRounds rounds ++ [simulatePayment, movePayment .draft]

theorem payment_result_accepted : checkResult paymentRuntime (.dict []) = .ok () := by
  decide +kernel

theorem round_history {calls : List Call} {rollout : Rollout}
    (known : (registryAfter paymentRuntime calls).get "rollout-1" = some rollout)
    (draft : rollout.state = .draft) (room : rollout.history.length + 1 < maxHistoryLength) :
    ∃ after, (registryAfter paymentRuntime (calls ++ [simulatePayment, movePayment .draft])).get
      "rollout-1" = some after ∧ after.state = .draft ∧
      after.history.length = rollout.history.length + 2 ∧ after.simulationResult = none := by
  have simulated : (registryAfter paymentRuntime calls).simulate paymentRuntime "rollout-1"
      (.dict []) "system" 0 = ((registryAfter paymentRuntime calls).put "rollout-1"
        (rollout.simulated (.dict []) "system" 0),
        .ok (rollout.simulated (.dict []) "system" 0)) := by
    have roomHere : ¬ maxHistoryLength ≤ rollout.history.length := by omega
    simp [RolloutRegistry.simulate, known, draft, payment_result_accepted, roomHere,
      Rollout.simulated]
  have rolledBack : .draft ∈ validTransitions RolloutState.simulated := by decide
  have roomThere : ¬ maxHistoryLength ≤ rollout.history.length + 1 := by omega
  refine ⟨(rollout.simulated (.dict []) "system" 0).transitioned .draft "operator" 0,
    ?_, ?_, ?_, rfl⟩
  · rw [registryAfter, Runs.run_append]
    show (call paymentRuntime (call paymentRuntime (registryAfter paymentRuntime calls)
      simulatePayment) (movePayment .draft)).get "rollout-1" = _
    simp only [call, simulatePayment, simulated, movePayment]
    simp [RolloutRegistry.transition, rolledBack, roomThere]
  · exact transitioned_state _ _ _ _
  · simp

theorem rollbackRounds_history (rounds : Nat) (enough : rounds ≤ 500) :
    ∃ rollout, (registryAfter paymentRuntime (rollbackRounds rounds)).get "rollout-1" =
      some rollout ∧ rollout.state = .draft ∧ rollout.history.length = 2 * rounds ∧
      rollout.simulationResult = none := by
  induction rounds with
  | zero => exact ⟨newRollout "rollout-1" paymentPolicy "operator" 0, rfl, rfl, rfl, rfl⟩
  | succ rounds ih =>
    obtain ⟨rollout, known, draft, length, _⟩ := ih (by omega)
    have room : rollout.history.length + 1 < maxHistoryLength := by
      simp only [maxHistoryLength]
      omega
    obtain ⟨after, still, draftAgain, longer, unset⟩ := round_history known draft room
    exact ⟨after, still, draftAgain, by omega, unset⟩

/-- After 500 rounds the history is full, and the draft can no longer be revoked. -/
theorem full_history_not_revocable : ∃ rollout,
    (registryAfter paymentRuntime (rollbackRounds 500)).get "rollout-1" = some rollout ∧
    rollout.state = .draft ∧
    ¬ Revocable (registryAfter paymentRuntime (rollbackRounds 500)) "rollout-1" "operator" 0 := by
  obtain ⟨rollout, known, draft, length, _⟩ := rollbackRounds_history 500 (Nat.le_refl _)
  refine ⟨rollout, known, draft, ?_⟩
  rw [revocable_iff_room known (by simp [draft]), length]
  decide

end Revocation

end VeronicaLifecycle
