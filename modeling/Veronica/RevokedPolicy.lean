import Veronica.Lifecycle

/- Which policy a chain is served while its rollouts are activated and revoked. Activation
   writes the policy registry; revocation only moves the rollout. -/
namespace VeronicaRevokedPolicy
open VeronicaDistribution VeronicaRollouts RolloutRegistry VeronicaActivation

/-- A new id is a UUID, and `activate` is called on PROMOTED rollouts. -/
def Legal (app : AppState) : Request → Prop
  | .create id _ _ _ => app.rolloutRegistry.get id = none
  | .activate rolloutId _ _ =>
    ∀ rollout, app.rolloutRegistry.get rolloutId = some rollout → rollout.state = .promoted
  | _ => True

/-- Every policy served is the policy of an ACTIVE rollout of that chain. -/
def ServedLive (app : AppState) : Prop :=
  ∀ chainId bundle, app.registry.getPolicy chainId = some bundle →
    ∃ id rollout, app.rolloutRegistry.get id = some rollout ∧ rollout.state = .active ∧
      rollout.policyConfig.chainId = chainId ∧ bundle.policy = rollout.policyConfig

def Serves (app : AppState) (policy : PolicyConfig) : Prop :=
  ∃ bundle, app.registry.getPolicy policy.chainId = some bundle ∧ bundle.policy = policy

/-- A revocation that takes an ACTIVE rollout whose policy is served leaves another ACTIVE
    rollout with the same policy. -/
def KeepsLive (app : AppState) : Request → Prop
  | .revoke rolloutId _ _ =>
    ∀ rollout, app.rolloutRegistry.get rolloutId = some rollout → rollout.state = .active →
      rollout.history.length < maxHistoryLength → Serves app rollout.policyConfig →
      ∃ other twin, other ≠ rolloutId ∧ app.rolloutRegistry.get other = some twin ∧
        twin.state = .active ∧ twin.policyConfig = rollout.policyConfig
  | _ => True

/-- The endpoints never go back to DRAFT, so the two-step loop between APPROVED and PROMOTED
    fixes the parity of the history. -/
def Paced (rollout : Rollout) : Prop :=
  match rollout.state with
  | .draft => rollout.history.length = 0
  | .simulated => rollout.history.length = 1
  | .approved => rollout.history.length % 2 = 0
  | .promoted => rollout.history.length % 2 = 1 ∧ rollout.history.length < maxHistoryLength
  | .active | .revoked => True

def AllPaced (app : AppState) : Prop :=
  ∀ id rollout, app.rolloutRegistry.get id = some rollout → Paced rollout

theorem paced_draft {rollout : Rollout} (draft : rollout.state = .draft) :
    Paced rollout ↔ rollout.history.length = 0 := by
  simp [Paced, draft]

theorem doTransition_cases (app : AppState) (rolloutId : String) (target : RolloutState)
    (actor : String) (now : ℚ) :
    ((∀ rollout, app.rolloutRegistry.get rolloutId = some rollout →
        ¬ (target ∈ validTransitions rollout.state ∧ rollout.history.length < maxHistoryLength)) ∧
      (doTransition app rolloutId target actor now).1 = app) ∨
    (∃ rollout, app.rolloutRegistry.get rolloutId = some rollout ∧
      target ∈ validTransitions rollout.state ∧ rollout.history.length < maxHistoryLength ∧
      (doTransition app rolloutId target actor now).1 = { app with
        rolloutRegistry := app.rolloutRegistry.put rolloutId
          (rollout.transitioned target actor now) }) := by
  rcases app.rolloutRegistry.transition_cases rolloutId target actor now with
    ⟨missing, eq⟩ | ⟨rollout, _, found, refused, eq⟩ | ⟨rollout, found, allowed, room, eq⟩
  · simp [doTransition, eq, missing]
  · left
    refine ⟨?_, by simp [doTransition, eq]⟩
    intro other known
    rw [found] at known
    cases known
    exact refused
  · exact Or.inr ⟨rollout, found, allowed, room, by simp [doTransition, eq]⟩

theorem paced_transitioned {rollout : Rollout} {target : RolloutState}
    (allowed : target ∈ validTransitions rollout.state) (forward : target ≠ .draft)
    (simulation : target ≠ .simulated) (room : rollout.history.length < maxHistoryLength)
    (paced : Paced rollout) (actor : String) (now : ℚ) :
    Paced (rollout.transitioned target actor now) := by
  simp only [Paced, transitioned_state, VeronicaLifecycle.transitioned_history,
    List.length_append, List.length_singleton]
  unfold Paced at paced
  simp only [maxHistoryLength] at *
  cases target <;> cases state : rollout.state <;> simp_all [validTransitions] <;> omega

theorem allPaced_put {app : AppState} (paced : AllPaced app) {rolloutId : String}
    {moved : Rollout} (movedPaced : Paced moved) (registry : PolicyRegistry) :
    AllPaced { registry, rolloutRegistry := app.rolloutRegistry.put rolloutId moved } := by
  intro id rollout known
  simp only [get_put] at known
  split at known
  · cases known
    exact movedPaced
  · exact paced id rollout known

theorem doTransition_paced {app : AppState} (paced : AllPaced app) (rolloutId : String)
    {target : RolloutState} (forward : target ≠ .draft) (simulation : target ≠ .simulated)
    (actor : String) (now : ℚ) :
    AllPaced (doTransition app rolloutId target actor now).1 := by
  rcases doTransition_cases app rolloutId target actor now with
    ⟨_, eq⟩ | ⟨rollout, found, allowed, room, eq⟩
  · rw [eq]
    exact paced
  · rw [eq]
    exact allPaced_put paced (paced_transitioned allowed forward simulation room
      (paced rolloutId rollout found) actor now) app.registry

theorem handle_paced (rt : Runtime) {app : AppState} (paced : AllPaced app)
    (request : Request) : AllPaced (handle rt app request) := by
  cases request with
  | create id policy createdBy now =>
    have new : Paced (newRollout id policy createdBy now) := (paced_draft rfl).mpr rfl
    exact allPaced_put paced new app.registry
  | approve rolloutId actor now =>
    exact doTransition_paced paced rolloutId (by simp) (by simp) actor now
  | promote rolloutId actor now =>
    exact doTransition_paced paced rolloutId (by simp) (by simp) actor now
  | revoke rolloutId actor now =>
    exact doTransition_paced paced rolloutId (by simp) (by simp) actor now
  | simulate rolloutId now =>
    simp only [handle, respond, simulateRollout]
    cases found : app.rolloutRegistry.get rolloutId with
    | none => exact paced
    | some rollout =>
      rcases distribute_cases rt app.registry.distributor rollout.policyConfig now with
        ⟨_, bundle, eq, _⟩ | ⟨_, e, eq⟩
      · simp only [eq]
        rcases app.rolloutRegistry.simulate_cases rt rolloutId (simulationResultOf bundle)
            "system" now with
          ⟨_, _, done⟩ | ⟨before, known, draft, _, full, _⟩ | ⟨before, known, draft, _, _, done⟩
        · rw [done]
          exact paced
        · have empty := (paced_draft draft).mp (paced rolloutId before known)
          rw [empty] at full
          simp [maxHistoryLength] at full
        · rw [done]
          have empty := (paced_draft draft).mp (paced rolloutId before known)
          refine allPaced_put paced ?_ _
          simp [Paced, VeronicaLifecycle.simulated_state, VeronicaLifecycle.simulated_history,
            empty]
      · simp only [eq]
        exact paced
  | activate rolloutId actor now =>
    simp only [handle, respond]
    rcases activate_cases rt app rolloutId actor now with
      ⟨_, eq⟩ | ⟨_, _, _, _, eq⟩ | ⟨rollout, _, found, _, _, eq⟩ | ⟨rollout, found, _, ready, eq⟩
    · rw [eq]
      exact paced
    · rw [eq]
      exact paced
    · rw [eq]
      exact paced
    · rw [eq]
      refine allPaced_put paced ?_ _
      simp [Paced]

theorem servedLive_put {app after : AppState} (live : ServedLive app) (rolloutId : String)
    {moved : Rollout} (idle : ∀ rollout, app.rolloutRegistry.get rolloutId = some rollout →
      rollout.state ≠ .active)
    (same : after.registry.store = app.registry.store)
    (put : after.rolloutRegistry = app.rolloutRegistry.put rolloutId moved) :
    ServedLive after := by
  intro chainId bundle served
  have servedBefore : app.registry.getPolicy chainId = some bundle := by
    rw [PolicyRegistry.getPolicy, ← same]
    exact served
  obtain ⟨id, rollout, known, active, chain, policy⟩ := live chainId bundle servedBefore
  have other : id ≠ rolloutId := by
    intro eq
    rw [eq] at known
    exact idle rollout known active
  refine ⟨id, rollout, ?_, active, chain, policy⟩
  rw [put, get_put, if_neg other]
  exact known

theorem doTransition_live {app : AppState} (live : ServedLive app) (rolloutId : String)
    {target : RolloutState} (onward : target ∉ validTransitions .active) (actor : String)
    (now : ℚ) : ServedLive (doTransition app rolloutId target actor now).1 := by
  rcases doTransition_cases app rolloutId target actor now with
    ⟨_, eq⟩ | ⟨rollout, found, allowed, _, eq⟩
  · rw [eq]
    exact live
  · rw [eq]
    refine servedLive_put live rolloutId ?_ rfl rfl
    intro other known active
    cases found.symm.trans known
    rw [active] at allowed
    exact onward allowed

theorem simulate_live (rt : Runtime) {app : AppState} (live : ServedLive app)
    (rolloutId : String) (now : ℚ) : ServedLive (simulateRollout rt app rolloutId now).1 := by
  unfold simulateRollout
  cases found : app.rolloutRegistry.get rolloutId with
  | none => exact live
  | some rollout =>
    rcases distribute_cases rt app.registry.distributor rollout.policyConfig now with
      ⟨_, bundle, eq, _⟩ | ⟨_, e, eq⟩
    · simp only [eq]
      have idle : ∀ before : Rollout, app.rolloutRegistry.get rolloutId = some before →
          before.state = .draft → ∀ other, app.rolloutRegistry.get rolloutId = some other →
            other.state ≠ .active := by
        intro before known draft other again
        cases known.symm.trans again
        simp [draft]
      rcases app.rolloutRegistry.simulate_cases rt rolloutId (simulationResultOf bundle)
          "system" now with
        ⟨_, _, done⟩ | ⟨before, known, draft, _, _, done⟩ | ⟨before, known, draft, _, _, done⟩
      · rw [done]
        exact live
      · rw [done]
        exact servedLive_put live rolloutId (idle before known draft) rfl rfl
      · rw [done]
        exact servedLive_put live rolloutId (idle before known draft) rfl rfl
    · simp only [eq]
      exact live

/-- Activating a PROMOTED rollout always succeeds once its policy is accepted. -/
theorem activate_live (rt : Runtime) {app : AppState} (paced : AllPaced app)
    (live : ServedLive app) {rolloutId : String}
    (promoted : ∀ rollout, app.rolloutRegistry.get rolloutId = some rollout →
      rollout.state = .promoted) (actor : String) (now : ℚ) :
    ServedLive (activateRollout rt app rolloutId actor now).1 := by
  rcases activate_cases rt app rolloutId actor now with
    ⟨_, eq⟩ | ⟨_, _, _, _, eq⟩ | ⟨rollout, _, found, _, blocked, _⟩ |
    ⟨rollout, found, accepted, _, eq⟩
  · rw [eq]
    exact live
  · rw [eq]
    exact live
  · have here := promoted rollout found
    have room := paced rolloutId rollout found
    simp only [Paced, here] at room
    exact absurd ⟨here, room.2⟩ blocked
  · rw [eq]
    rcases register_cases rt app.registry rollout.policyConfig now with
      ⟨_, bundle, registered, policy, _⟩ | ⟨rejected, _⟩
    · rw [registered]
      intro chainId served known
      simp only [PolicyRegistry.getPolicy, Dict.get?_set] at known
      split at known
      · rename_i chain
        cases known
        refine ⟨rolloutId, rollout.transitioned .active actor now, get_put_self _ _ _,
          transitioned_state _ _ _ _, ?_, ?_⟩
        · rw [chain]
          rfl
        · exact policy
      · obtain ⟨id, other, known', active, chain, policy'⟩ := live chainId served known
        have different : id ≠ rolloutId := by
          intro same
          rw [same] at known'
          have here := promoted other known'
          rw [active] at here
          cases here
        refine ⟨id, other, ?_, active, chain, policy'⟩
        rw [get_put, if_neg different]
        exact known'
    · exact absurd accepted rejected

theorem revoke_live_iff {app : AppState} (live : ServedLive app) (rolloutId actor : String)
    (now : ℚ) : ServedLive (revokeRollout app rolloutId actor now).1 ↔
      KeepsLive app (.revoke rolloutId actor now) := by
  unfold revokeRollout KeepsLive
  rcases doTransition_cases app rolloutId .revoked actor now with
    ⟨refused, eq⟩ | ⟨rollout, found, _, room, eq⟩
  · rw [eq]
    refine ⟨?_, fun _ => live⟩
    intro _ rollout found active room
    have allowed : .revoked ∈ validTransitions rollout.state := by
      rw [active]
      simp [validTransitions]
    exact absurd ⟨allowed, room⟩ (refused rollout found)
  · rw [eq]
    simp only [found, Option.some.injEq, forall_eq', room, forall_const]
    constructor
    · intro stillLive active serves
      obtain ⟨bundle, served, policy⟩ := serves
      obtain ⟨id, twin, known, twinActive, _, twinPolicy⟩ := stillLive _ bundle served
      rw [get_put] at known
      split at known
      · cases known
        rw [transitioned_state] at twinActive
        cases twinActive
      · rename_i other
        exact ⟨id, twin, other, known, twinActive, by rw [← twinPolicy, policy]⟩
    · intro spare chainId bundle served
      obtain ⟨id, owner, known, active, chain, policy⟩ := live chainId bundle served
      by_cases same : id = rolloutId
      · rw [same, found] at known
        cases known
        have serves : Serves app rollout.policyConfig :=
          ⟨bundle, by rw [chain]; exact served, policy⟩
        obtain ⟨other, twin, different, there, twinActive, twinPolicy⟩ := spare active serves
        refine ⟨other, twin, ?_, twinActive, ?_, ?_⟩
        · rw [get_put, if_neg different]
          exact there
        · rw [twinPolicy, chain]
        · rw [twinPolicy, policy]
      · refine ⟨id, owner, ?_, active, chain, policy⟩
        rw [get_put, if_neg same]
        exact known

theorem handle_live_iff (rt : Runtime) {app : AppState} {request : Request}
    (legal : Legal app request) (paced : AllPaced app) (live : ServedLive app) :
    ServedLive (handle rt app request) ↔ KeepsLive app request := by
  cases request with
  | create id policy createdBy now =>
    refine ⟨fun _ => trivial, fun _ => servedLive_put live id ?_ rfl rfl⟩
    intro rollout known
    have fresh : app.rolloutRegistry.get id = none := legal
    rw [fresh] at known
    cases known
  | simulate rolloutId now => exact ⟨fun _ => trivial, fun _ => simulate_live rt live rolloutId now⟩
  | approve rolloutId actor now =>
    exact ⟨fun _ => trivial,
      fun _ => doTransition_live live rolloutId (by simp [validTransitions]) actor now⟩
  | promote rolloutId actor now =>
    exact ⟨fun _ => trivial,
      fun _ => doTransition_live live rolloutId (by simp [validTransitions]) actor now⟩
  | activate rolloutId actor now =>
    exact ⟨fun _ => trivial, fun _ => activate_live rt paced live legal actor now⟩
  | revoke rolloutId actor now => exact revoke_live_iff live rolloutId actor now

/-- In a run where only PROMOTED rollouts are activated, what is served belongs to an ACTIVE
    rollout throughout, exactly when no revocation takes the last ACTIVE rollout of a policy
    that is being served. -/
theorem served_live_iff {rt : Runtime} {distributor : PolicyDistributor}
    {requests : List Request}
    (legal : Runs.EachStep (handle rt) Legal (startup distributor) requests) :
    Runs.EachState (handle rt) ServedLive (startup distributor) requests ↔
      Runs.EachStep (handle rt) KeepsLive (startup distributor) requests := by
  have paced : AllPaced (startup distributor) := by
    intro id rollout known
    simp [startup, RolloutRegistry.get] at known
  have live : ServedLive (startup distributor) := by
    intro chainId bundle served
    simp [startup, PolicyRegistry.getPolicy] at served
  rw [Runs.eachState_iff_eachStep, and_iff_right live]
  exact Runs.eachStep_exact (I := fun app => AllPaced app ∧ ServedLive app)
    (fun app request holds _ good => ⟨handle_paced rt holds.1 request, good⟩)
    (fun app request holds legalHere => handle_live_iff rt legalHere holds.1 holds.2)
    ⟨paced, live⟩ legal

section PaymentAgent

def activationRequests : List Request :=
  promotionRequests ++ [.activate "rollout-1" "operator" 1740000005]

theorem activation_legal :
    Runs.EachStep (handle paymentRuntime) Legal (startup paymentDistributor)
      activationRequests := by
  refine Runs.eachStep_append.mpr ⟨⟨rfl, trivial, trivial, trivial, trivial⟩, ?_, trivial⟩
  obtain ⟨promoted, known, activatable⟩ := promoted_activatable
  intro rollout found
  cases known.symm.trans found
  exact activatable.1

/-- Up to its activation the rollout is the one the chain is served. -/
theorem activation_served_live : Runs.EachState (handle paymentRuntime) ServedLive
      (startup paymentDistributor) activationRequests ↔
    Runs.EachStep (handle paymentRuntime) KeepsLive (startup paymentDistributor)
      activationRequests :=
  served_live_iff activation_legal

def rollbackRequests : List Request :=
  activationRequests ++ [.revoke "rollout-1" "operator" 1740000006]

/-- The rollback of the runbook: the rollout is revoked and its policy is still served. -/
theorem revoked_policy_served :
    Runs.EachStep (handle paymentRuntime) Legal (startup paymentDistributor)
      rollbackRequests ∧
    (∃ bundle, (appAfter rollbackRequests).registry.getPolicy "payment-agent" = some bundle) ∧
    (∀ id rollout, (appAfter rollbackRequests).rolloutRegistry.get id = some rollout →
      rollout.state = .revoked) ∧
    ¬ Runs.EachState (handle paymentRuntime) ServedLive (startup paymentDistributor)
      rollbackRequests := by
  have computed : ((appAfter rollbackRequests).registry.getPolicy "payment-agent").isSome ∧
      (appAfter rollbackRequests).rolloutRegistry.rollouts.entries.map
        (fun entry => entry.2.state) = [.revoked] := by
    decide +kernel
  obtain ⟨served, states⟩ := computed
  obtain ⟨bundle, served⟩ := Option.isSome_iff_exists.mp served
  have revoked : ∀ id rollout, (appAfter rollbackRequests).rolloutRegistry.get id =
      some rollout → rollout.state = .revoked := by
    intro id rollout known
    have member : rollout.state ∈ (appAfter rollbackRequests).rolloutRegistry.rollouts.entries.map
        (fun entry => entry.2.state) :=
      List.mem_map.mpr ⟨(id, rollout), Dict.get?_eq_some_iff.mp known, rfl⟩
    rw [states] at member
    exact List.mem_singleton.mp member
  have legal : Runs.EachStep (handle paymentRuntime) Legal (startup paymentDistributor)
      rollbackRequests :=
    Runs.eachStep_append.mpr ⟨activation_legal, trivial, trivial⟩
  refine ⟨legal, ⟨bundle, served⟩, revoked, ?_⟩
  intro live
  obtain ⟨id, rollout, known, active, _⟩ := Runs.eachState_last live "payment-agent" bundle served
  rw [revoked id rollout known] at active
  cases active

end PaymentAgent

end VeronicaRevokedPolicy
