import Veronica.Rollouts

/- The activation endpoint writes the policy registry before it consults the lifecycle. These
   results say what each call can do to both stores and exactly which calls are gated. -/
namespace VeronicaActivation
open VeronicaDistribution VeronicaRollouts RolloutRegistry

def BundlesUnchanged (before after : AppState) : Prop :=
  ∀ chainId, after.registry.getPolicy chainId = before.registry.getPolicy chainId

def MovedToActive (before after : AppState) (rolloutId : String) : Prop :=
  ∃ rollout rollout', before.rolloutRegistry.get rolloutId = some rollout ∧
    rollout.state = .promoted ∧ after.rolloutRegistry.get rolloutId = some rollout' ∧
    rollout'.state = .active

/-- Stored bundles change only in a call that moves its rollout from PROMOTED to ACTIVE; a
    call answered 404 or 409 changes none. -/
def Gated (rt : Runtime) (app : AppState) (rolloutId actor : String) (now : ℚ) : Prop :=
  let (after, response) := activateRollout rt app rolloutId actor now
  (¬ BundlesUnchanged app after → MovedToActive app after rolloutId) ∧
  ∀ status detail, response = .error (.http status detail) → status = 404 ∨ status = 409 →
    BundlesUnchanged app after

def Activatable (rollout : Rollout) : Prop :=
  rollout.state = .promoted ∧ rollout.history.length < maxHistoryLength

/-- A known rollout whose policy the distributor accepts can make the transition. -/
def MeetsGate (app : AppState) (rolloutId : String) : Prop :=
  ∀ rollout, app.rolloutRegistry.get rolloutId = some rollout →
    app.registry.distributor.Accepts rollout.policyConfig → Activatable rollout

theorem may_become_active_iff (state : RolloutState) :
    .active ∈ validTransitions state ↔ state = .promoted := by
  cases state <;> simp [validTransitions]

/-- Every way an activation call can end. -/
theorem activate_cases (rt : Runtime) (app : AppState) (rolloutId actor : String) (now : ℚ) :
    (app.rolloutRegistry.get rolloutId = none ∧
      activateRollout rt app rolloutId actor now = (app, .error (notFound rolloutId))) ∨
    (∃ rollout detail, app.rolloutRegistry.get rolloutId = some rollout ∧
      ¬ app.registry.distributor.Accepts rollout.policyConfig ∧
      activateRollout rt app rolloutId actor now = (app, .error (.http 409 detail))) ∨
    (∃ rollout detail, app.rolloutRegistry.get rolloutId = some rollout ∧
      app.registry.distributor.Accepts rollout.policyConfig ∧ ¬ Activatable rollout ∧
      activateRollout rt app rolloutId actor now =
        ({ app with registry := (app.registry.register rt rollout.policyConfig now).1 },
          .error (.http 409 detail))) ∨
    (∃ rollout, app.rolloutRegistry.get rolloutId = some rollout ∧
      app.registry.distributor.Accepts rollout.policyConfig ∧ Activatable rollout ∧
      activateRollout rt app rolloutId actor now =
        ({ registry := (app.registry.register rt rollout.policyConfig now).1
           rolloutRegistry := app.rolloutRegistry.put rolloutId
             (rollout.transitioned .active actor now) },
          .ok (rollout.transitioned .active actor now))) := by
  cases found : app.rolloutRegistry.get rolloutId with
  | none => simp [activateRollout, found]
  | some rollout =>
    rcases register_cases rt app.registry rollout.policyConfig now with
      ⟨accepted, bundle, registered, _⟩ | ⟨rejected, e, refused⟩
    · rcases app.rolloutRegistry.transition_cases rolloutId .active actor now with
        ⟨missing, _⟩ | ⟨r, message, foundAgain, forbidden, eq⟩ | ⟨r, foundAgain, allowed, room, eq⟩
      · simp [found] at missing
      · cases found.symm.trans foundAgain
        have blocked : ¬ Activatable rollout := by
          simpa only [Activatable, may_become_active_iff] using forbidden
        simp [activateRollout, doTransition, found, registered, eq, accepted, blocked,
          Except.mapError, ofRegistryError]
      · cases found.symm.trans foundAgain
        have ready : Activatable rollout := ⟨(may_become_active_iff _).mp allowed, room⟩
        simp [activateRollout, doTransition, found, registered, eq, accepted, ready,
          Except.mapError]
    · simp [activateRollout, found, refused, rejected]

/-- Only `activate` writes the policy registry; `simulate` may draw a version from the
    distributor, which keeps the stored versions below its counter. -/
theorem handle_versioned (rt : Runtime) (app : AppState) (request : Request)
    (versioned : app.registry.Versioned) : (handle rt app request).registry.Versioned := by
  cases request with
  | create id policy createdBy now => exact versioned
  | approve rolloutId actor now => exact versioned
  | promote rolloutId actor now => exact versioned
  | revoke rolloutId actor now => exact versioned
  | simulate rolloutId now =>
    simp only [handle, respond, simulateRollout]
    cases found : app.rolloutRegistry.get rolloutId with
    | none => exact versioned
    | some rollout =>
      rcases distribute_cases rt app.registry.distributor rollout.policyConfig now with
        ⟨_, bundle, eq, _⟩ | ⟨_, e, eq⟩
      · simp only [eq]
        intro chainId stored kept
        have := versioned chainId stored kept
        show stored.version ≤ app.registry.distributor.version + 1
        omega
      · simp only [eq]
        exact versioned
  | activate rolloutId actor now =>
    simp only [handle, respond]
    rcases activate_cases rt app rolloutId actor now with
      ⟨_, eq⟩ | ⟨_, _, _, _, eq⟩ | ⟨rollout, _, _, _, _, eq⟩ | ⟨rollout, _, _, _, eq⟩
    · rw [eq]; exact versioned
    · rw [eq]; exact versioned
    · rw [eq]; exact register_versioned rt rollout.policyConfig now versioned
    · rw [eq]; exact register_versioned rt rollout.policyConfig now versioned

theorem reachable_versioned {rt : Runtime} {distributor : PolicyDistributor} {app : AppState}
    (reached : ReachableApp rt distributor app) : app.registry.Versioned := by
  refine Runs.reachable_invariant (fun s a versioned _ => handle_versioned rt s a versioned) ?_
    reached
  intro chainId bundle found
  simp [startup, PolicyRegistry.getPolicy] at found

/-- The gate holds of an activation call, in any reachable state, exactly when the rollout is
    unknown, or its policy is refused by the distributor, or it is PROMOTED with room in its
    history. -/
theorem activation_gated_iff {rt : Runtime} {distributor : PolicyDistributor} {app : AppState}
    (reached : ReachableApp rt distributor app) (rolloutId actor : String) (now : ℚ) :
    Gated rt app rolloutId actor now ↔ MeetsGate app rolloutId := by
  have versioned := reachable_versioned reached
  unfold Gated MeetsGate
  rcases activate_cases rt app rolloutId actor now with
    ⟨missing, eq⟩ | ⟨rollout, detail, found, rejected, eq⟩ |
    ⟨rollout, detail, found, accepted, blocked, eq⟩ | ⟨rollout, found, accepted, ready, eq⟩
  · simp [eq, missing, BundlesUnchanged]
  · simp [eq, found, rejected, BundlesUnchanged]
  · have changed := register_changes rt now versioned accepted
    simp only [eq, found, Option.some.injEq, forall_eq', accepted, blocked, forall_const,
      iff_false]
    intro gated
    obtain ⟨_, answered⟩ := gated
    exact changed (answered 409 detail rfl (Or.inr rfl) rollout.policyConfig.chainId)
  · simp only [eq, found, Option.some.injEq, forall_eq', ready, iff_true, implies_true]
    refine ⟨fun _ => ⟨rollout, _, found, ready.1, get_put_self _ _ _, transitioned_state _ _ _ _⟩,
      ?_⟩
    intro status detail answered
    simp at answered

section PaymentAgent

def paymentPolicy : PolicyConfig where
  chainId := "payment-agent"
  ceilingUsd := .float (.finite 2)
  onExceed := .str "halt"
  issuedAt := .float (.finite 1740000000)
  ceilingSteps := .int 50

def paymentHash : String := "6f8c503c5c2a4d2c547396fb0be7fa6f83c5fca0e48b1fa16573b6d5439500b4"

/-- The library functions on the one policy and the one simulation result they meet here. -/
def paymentRuntime : Runtime where
  computePolicyHash := fun _ => paymentHash
  hmacSha256 := fun _ message => message
  jsonDumps := fun _ => .ok ("\x7b\"policy_hash\": \"" ++ paymentHash ++
    "\", \"distributed_at\": 1740000002.0, \"version\": 1\x7d")

def paymentDistributor : PolicyDistributor := { strict := false, version := 0, signingKey := none }

def draftRequests : List Request := [.create "rollout-1" paymentPolicy "operator" 1740000001]

def promotionRequests : List Request :=
  draftRequests ++ [.simulate "rollout-1" 1740000002, .approve "rollout-1" "operator" 1740000003,
    .promote "rollout-1" "operator" 1740000004]

def appAfter (requests : List Request) : AppState :=
  Runs.run (handle paymentRuntime) (startup paymentDistributor) requests

theorem appAfter_reachable (requests : List Request) :
    ReachableApp paymentRuntime paymentDistributor (appAfter requests) :=
  Runs.reachable_run requests

/-- A rollout that was only created is answered 409, and its policy is installed. -/
theorem draft_activation_installs :
    ReachableApp paymentRuntime paymentDistributor (appAfter draftRequests) ∧
    (∃ rollout, (appAfter draftRequests).rolloutRegistry.get "rollout-1" = some rollout ∧
      rollout.state = .draft) ∧
    ¬ Gated paymentRuntime (appAfter draftRequests) "rollout-1" "operator" 1740000002 := by
  refine ⟨appAfter_reachable _, ⟨_, rfl, rfl⟩, ?_⟩
  intro gated
  obtain ⟨_, answered⟩ := gated
  have installed := answered 409 _ rfl (Or.inr rfl) "payment-agent"
  have before : (appAfter draftRequests).registry.getPolicy "payment-agent" = none := rfl
  rw [before] at installed
  exact Option.some_ne_none _ installed

set_option maxRecDepth 8000 in
theorem promoted_activatable : ∃ rollout,
    (appAfter promotionRequests).rolloutRegistry.get "rollout-1" = some rollout ∧
    Activatable rollout :=
  ⟨_, rfl, rfl, by decide⟩

set_option maxRecDepth 8000 in
/-- After simulation, approval and promotion the same call passes the gate. -/
theorem promoted_activation_gated :
    Gated paymentRuntime (appAfter promotionRequests) "rollout-1" "operator" 1740000005 := by
  obtain ⟨promoted, known, activatable⟩ := promoted_activatable
  refine (activation_gated_iff (appAfter_reachable promotionRequests) "rollout-1" "operator"
    1740000005).mpr ?_
  unfold MeetsGate
  rw [known]
  rintro rollout ⟨⟩ _
  exact activatable

end PaymentAgent

end VeronicaActivation
