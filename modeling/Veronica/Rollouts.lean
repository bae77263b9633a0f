import Veronica.Distribution
import Veronica.Library.Runs
import Mathlib.Data.List.Sort

/- The rollout lifecycle: the registry of rollouts and the HTTP handlers that drive it. The
   handlers contain no await, so the event loop runs each of them to its end. -/
namespace VeronicaRollouts
open VeronicaDistribution

inductive RolloutState where
  | draft
  | simulated
  | approved
  | promoted
  | active
  | revoked
  deriving DecidableEq, Repr

def RolloutState.value : RolloutState → String
  | .draft => "draft"
  | .simulated => "simulated"
  | .approved => "approved"
  | .promoted => "promoted"
  | .active => "active"
  | .revoked => "revoked"

structure StateTransition where
  fromState : RolloutState
  toState : RolloutState
  timestamp : ℚ
  actor : String

structure Rollout where
  id : String
  policyConfig : PolicyConfig
  state : RolloutState
  createdAt : ℚ
  updatedAt : ℚ
  createdBy : String
  history : List StateTransition := []
  simulationResult : Option PyVal := none

def newRollout (id : String) (policyConfig : PolicyConfig) (createdBy : String) (now : ℚ) :
    Rollout :=
  { id, policyConfig, state := .draft, createdAt := now, updatedAt := now, createdBy }

def maxSimResultSize : Nat := 65536
def maxHistoryLength : Nat := 1000

def validTransitions : RolloutState → List RolloutState
  | .draft => [.simulated, .revoked]
  | .simulated => [.approved, .revoked, .draft]
  | .approved => [.promoted, .revoked, .draft]
  | .promoted => [.active, .revoked, .approved]
  | .active => [.revoked]
  | .revoked => []

inductive RegistryError where
  | keyError : String → RegistryError
  | invalidTransition : String → RegistryError
  | valueError : String → RegistryError
  | python : PyExc → RegistryError
  deriving DecidableEq, Repr

def quoted (s : String) : String := "'" ++ s ++ "'"

def cannotTransition (source target : RolloutState) : RegistryError :=
  let allowed := ((validTransitions source).map RolloutState.value).insertionSort (· ≤ ·)
  .invalidTransition ("Cannot transition from " ++ quoted source.value ++ " to " ++
    quoted target.value ++ ". Allowed: [" ++ ", ".intercalate (allowed.map quoted) ++ "]")

def historyExceeded (rolloutId : String) : RegistryError :=
  .invalidTransition ("History limit of " ++ toString maxHistoryLength ++
    " entries exceeded for rollout " ++ quoted rolloutId)

/-- Append to the history, move to `target` and stamp the time. -/
def Rollout.advance (rollout : Rollout) (target : RolloutState) (actor : String) (now : ℚ) :
    Rollout :=
  { rollout with
    history := rollout.history ++ [⟨rollout.state, target, now, actor⟩]
    state := target
    updatedAt := now }

/-- What a successful `transition` makes of a rollout; going back to DRAFT clears its result. -/
def Rollout.transitioned (rollout : Rollout) (target : RolloutState) (actor : String)
    (now : ℚ) : Rollout :=
  let moved := rollout.advance target actor now
  if target = .draft then { moved with simulationResult := none } else moved

/-- What a successful `simulate` makes of a rollout. -/
def Rollout.simulated (rollout : Rollout) (result : PyVal) (actor : String) (now : ℚ) :
    Rollout :=
  { rollout with simulationResult := some result }.advance .simulated actor now

structure RolloutRegistry where
  rollouts : Dict String Rollout

namespace RolloutRegistry

def create (reg : RolloutRegistry) (id : String) (policyConfig : PolicyConfig)
    (createdBy : String) (now : ℚ) : RolloutRegistry × Rollout :=
  let rollout := newRollout id policyConfig createdBy now
  ({ reg with rollouts := reg.rollouts.set rollout.id rollout }, rollout)

def get (reg : RolloutRegistry) (rolloutId : String) : Option Rollout :=
  reg.rollouts.get? rolloutId

def put (reg : RolloutRegistry) (rolloutId : String) (rollout : Rollout) : RolloutRegistry :=
  { reg with rollouts := reg.rollouts.set rolloutId rollout }

def transition (reg : RolloutRegistry) (rolloutId : String) (target : RolloutState)
    (actor : String) (now : ℚ) : RolloutRegistry × Except RegistryError Rollout :=
  match reg.get rolloutId with
  | none => (reg, .error (.keyError rolloutId))
  | some rollout =>
    if target ∉ validTransitions rollout.state then
      (reg, .error (cannotTransition rollout.state target))
    else if maxHistoryLength ≤ rollout.history.length then
      (reg, .error (historyExceeded rolloutId))
    else
      let moved := rollout.transitioned target actor now
      (reg.put rolloutId moved, .ok moved)

/-- The checks both writers of a simulation result make on it. -/
def checkResult (rt : Runtime) (result : PyVal) : Except RegistryError Unit :=
  match rt.jsonDumps result with
  | .error (.typeError _) | .error (.valueError _) =>
    .error (.valueError "simulation_result is not JSON-serializable")
  | .error e => .error (.python e)
  | .ok serialized =>
    if maxSimResultSize < serialized.length then
      .error (.valueError ("simulation_result exceeds " ++ toString maxSimResultSize ++
        " byte limit (" ++ toString serialized.length ++ " bytes)"))
    else .ok ()

def notDraft (action : String) (state : RolloutState) : RegistryError :=
  .invalidTransition ("Cannot " ++ action ++ ": rollout is in " ++ quoted state.value ++
    ", expected 'draft'")

def setSimulationResult (rt : Runtime) (reg : RolloutRegistry) (rolloutId : String)
    (result : PyVal) : RolloutRegistry × Except RegistryError Rollout :=
  match reg.get rolloutId with
  | none => (reg, .error (.keyError rolloutId))
  | some rollout =>
    if rollout.state ≠ .draft then
      (reg, .error (notDraft "set simulation result" rollout.state))
    else
      match checkResult rt result with
      | .error e => (reg, .error e)
      | .ok () =>
        let stored := { rollout with simulationResult := some result }
        (reg.put rolloutId stored, .ok stored)

/-- The result is stored before the history limit is checked. -/
def simulate (rt : Runtime) (reg : RolloutRegistry) (rolloutId : String) (result : PyVal)
    (actor : String) (now : ℚ) : RolloutRegistry × Except RegistryError Rollout :=
  match reg.get rolloutId with
  | none => (reg, .error (.keyError rolloutId))
  | some rollout =>
    if rollout.state ≠ .draft then
      (reg, .error (notDraft "simulate" rollout.state))
    else
      match checkResult rt result with
      | .error e => (reg, .error e)
      | .ok () =>
        let stored := { rollout with simulationResult := some result }
        if maxHistoryLength ≤ stored.history.length then
          (reg.put rolloutId stored, .error (historyExceeded rolloutId))
        else
          let moved := stored.advance .simulated actor now
          (reg.put rolloutId moved, .ok moved)

/-- Every way a `transition` call can end. -/
theorem transition_cases (reg : RolloutRegistry) (rolloutId : String) (target : RolloutState)
    (actor : String) (now : ℚ) :
    (reg.get rolloutId = none ∧
      reg.transition rolloutId target actor now = (reg, .error (.keyError rolloutId))) ∨
    (∃ rollout message, reg.get rolloutId = some rollout ∧
      ¬ (target ∈ validTransitions rollout.state ∧ rollout.history.length < maxHistoryLength) ∧
      reg.transition rolloutId target actor now = (reg, .error (.invalidTransition message))) ∨
    (∃ rollout, reg.get rolloutId = some rollout ∧
      target ∈ validTransitions rollout.state ∧ rollout.history.length < maxHistoryLength ∧
      reg.transition rolloutId target actor now =
        (reg.put rolloutId (rollout.transitioned target actor now),
          .ok (rollout.transitioned target actor now))) := by
  cases found : reg.get rolloutId with
  | none => simp [transition, found]
  | some rollout =>
    by_cases allowed : target ∈ validTransitions rollout.state
    · rcases Nat.lt_or_ge rollout.history.length maxHistoryLength with room | full
      · simp [transition, found, allowed, room]
      · simp [transition, found, allowed, full, historyExceeded]
    · simp [transition, found, allowed, cannotTransition]

/-- Every way a `simulate` call can end. -/
theorem simulate_cases (rt : Runtime) (reg : RolloutRegistry) (rolloutId : String)
    (result : PyVal) (actor : String) (now : ℚ) :
    ((∀ rollout, reg.get rolloutId = some rollout →
        ¬ (rollout.state = .draft ∧ checkResult rt result = .ok ())) ∧
      ∃ e, reg.simulate rt rolloutId result actor now = (reg, .error e)) ∨
    (∃ rollout, reg.get rolloutId = some rollout ∧ rollout.state = .draft ∧
      checkResult rt result = .ok () ∧ maxHistoryLength ≤ rollout.history.length ∧
      reg.simulate rt rolloutId result actor now =
        (reg.put rolloutId { rollout with simulationResult := some result },
          .error (historyExceeded rolloutId))) ∨
    (∃ rollout, reg.get rolloutId = some rollout ∧ rollout.state = .draft ∧
      checkResult rt result = .ok () ∧ rollout.history.length < maxHistoryLength ∧
      reg.simulate rt rolloutId result actor now =
        (reg.put rolloutId (rollout.simulated result actor now),
          .ok (rollout.simulated result actor now))) := by
  cases found : reg.get rolloutId with
  | none => simp [simulate, found]
  | some rollout =>
    by_cases draft : rollout.state = .draft
    · cases checked : checkResult rt result with
      | error e => simp [simulate, found, draft, checked]
      | ok u =>
        rcases Nat.lt_or_ge rollout.history.length maxHistoryLength with room | full
        · simp [simulate, found, draft, checked, room, Rollout.simulated]
        · simp [simulate, found, draft, checked, full]
    · simp [simulate, found, draft]

/-- Every way a `setSimulationResult` call can end. -/
theorem setSimulationResult_cases (rt : Runtime) (reg : RolloutRegistry) (rolloutId : String)
    (result : PyVal) :
    (∃ e, reg.setSimulationResult rt rolloutId result = (reg, .error e)) ∨
    (∃ rollout, reg.get rolloutId = some rollout ∧ rollout.state = .draft ∧
      reg.setSimulationResult rt rolloutId result =
        (reg.put rolloutId { rollout with simulationResult := some result },
          .ok { rollout with simulationResult := some result })) := by
  cases found : reg.get rolloutId with
  | none => simp [setSimulationResult, found]
  | some rollout =>
    by_cases draft : rollout.state = .draft
    · cases checked : checkResult rt result <;>
        simp [setSimulationResult, found, draft, checked]
    · simp [setSimulationResult, found, draft]

theorem get_put (reg : RolloutRegistry) (rolloutId id : String) (rollout : Rollout) :
    (reg.put rolloutId rollout).get id = if id = rolloutId then some rollout else reg.get id :=
  Dict.get?_set _ _ _ _

@[simp] theorem get_put_self (reg : RolloutRegistry) (rolloutId : String) (rollout : Rollout) :
    (reg.put rolloutId rollout).get rolloutId = some rollout := by
  simp [get, put]

end RolloutRegistry

@[simp] theorem transitioned_state (rollout : Rollout) (target : RolloutState) (actor : String)
    (now : ℚ) : (rollout.transitioned target actor now).state = target := by
  simp only [Rollout.transitioned]
  split <;> rfl

/-- How a handler fails: an HTTPException, or an exception left to the catch-all handler. -/
inductive Fault where
  | http (statusCode : Nat) (detail : String)
  | unhandled (e : RegistryError)
  deriving DecidableEq, Repr

def notFound (rolloutId : String) : Fault :=
  .http 404 ("Rollout " ++ quoted rolloutId ++ " not found")

/-- `app.state`: the policy registry with the distributor it shares, and the rollouts. -/
structure AppState where
  registry : PolicyRegistry
  rolloutRegistry : RolloutRegistry

abbrev Response := Except Fault Rollout

/-- How the handlers answer an exception of the rollout registry. -/
def ofRegistryError (rolloutId : String) : RegistryError → Fault
  | .keyError _ => notFound rolloutId
  | .invalidTransition message => .http 409 message
  | e => .unhandled e

def doTransition (app : AppState) (rolloutId : String) (target : RolloutState)
    (actor : String) (now : ℚ) : AppState × Response :=
  let (reg, result) := app.rolloutRegistry.transition rolloutId target actor now
  ({ app with rolloutRegistry := reg }, result.mapError (ofRegistryError rolloutId))

/-- The policy is the one parsed from the request body; `id` is the fresh UUID. -/
def createRollout (app : AppState) (id : String) (policy : PolicyConfig) (createdBy : String)
    (now : ℚ) : AppState × Response :=
  let (reg, rollout) := app.rolloutRegistry.create id policy createdBy now
  ({ app with rolloutRegistry := reg }, .ok rollout)

def simulationResultOf (bundle : PolicyBundle) : PyVal :=
  .dict [("policy_hash", .str bundle.policyHash),
    ("distributed_at", .float (.finite bundle.distributedAt)),
    ("version", .int bundle.version)]

def simulateRollout (rt : Runtime) (app : AppState) (rolloutId : String) (now : ℚ) :
    AppState × Response :=
  match app.rolloutRegistry.get rolloutId with
  | none => (app, .error (notFound rolloutId))
  | some rollout =>
    match app.registry.distributor.distribute rt rollout.policyConfig now with
    | (distributor, .error _) =>
      ({ app with registry := { app.registry with distributor } },
        .error (.http 422 "Simulation failed"))
    | (distributor, .ok bundle) =>
      let (reg, result) := app.rolloutRegistry.simulate rt rolloutId
        (simulationResultOf bundle) "system" now
      ({ registry := { app.registry with distributor }, rolloutRegistry := reg },
        result.mapError (ofRegistryError rolloutId))

def approveRollout (app : AppState) (rolloutId actor : String) (now : ℚ) :
    AppState × Response :=
  doTransition app rolloutId .approved actor now

def promoteRollout (app : AppState) (rolloutId actor : String) (now : ℚ) :
    AppState × Response :=
  doTransition app rolloutId .promoted actor now

/-- The policy is registered first; only then is the lifecycle checked. -/
def activateRollout (rt : Runtime) (app : AppState) (rolloutId actor : String) (now : ℚ) :
    AppState × Response :=
  match app.rolloutRegistry.get rolloutId with
  | none => (app, .error (notFound rolloutId))
  | some rollout =>
    match app.registry.register rt rollout.policyConfig now with
    | (registry, .error _) =>
      ({ app with registry },
        .error (.http 409 "Policy registration failed; rollout state unchanged"))
    | (registry, .ok _) =>
      match doTransition { app with registry } rolloutId .active actor now with
      | (app', .error (.http status detail)) =>
        if status = 404 ∨ status = 409 then (app', .error (.http status detail))
        else (app', .ok rollout)
      | (app', response) => (app', response)

def revokeRollout (app : AppState) (rolloutId actor : String) (now : ℚ) :
    AppState × Response :=
  doTransition app rolloutId .revoked actor now

inductive Request where
  | create (id : String) (policy : PolicyConfig) (createdBy : String) (now : ℚ)
  | simulate (rolloutId : String) (now : ℚ)
  | approve (rolloutId actor : String) (now : ℚ)
  | promote (rolloutId actor : String) (now : ℚ)
  | activate (rolloutId actor : String) (now : ℚ)
  | revoke (rolloutId actor : String) (now : ℚ)

def respond (rt : Runtime) (app : AppState) : Request → AppState × Response
  | .create id policy createdBy now => createRollout app id policy createdBy now
  | .simulate rolloutId now => simulateRollout rt app rolloutId now
  | .approve rolloutId actor now => approveRollout app rolloutId actor now
  | .promote rolloutId actor now => promoteRollout app rolloutId actor now
  | .activate rolloutId actor now => activateRollout rt app rolloutId actor now
  | .revoke rolloutId actor now => revokeRollout app rolloutId actor now

def handle (rt : Runtime) (app : AppState) (request : Request) : AppState :=
  (respond rt app request).1

/-- A freshly started application over a given distributor. -/
def startup (distributor : PolicyDistributor) : AppState :=
  { registry := { distributor, store := ∅ }, rolloutRegistry := { rollouts := ∅ } }

/-- The application states the rollout endpoints can lead to, in any order of requests. -/
def ReachableApp (rt : Runtime) (distributor : PolicyDistributor) (app : AppState) : Prop :=
  Runs.Reachable (handle rt) (fun _ _ => True) (startup distributor) app

end VeronicaRollouts
