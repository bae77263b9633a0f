import Veronica.PolicyUpdates

/- Optimistic concurrency of PolicyRegistry. The versions a distributor gives out are never used
   twice, so a version names one stored policy for good. -/
namespace VeronicaOptimisticUpdates
open VeronicaDistribution VeronicaPolicyUpdates

def Published (s : Clients) (version : Int) : Prop := ∃ v ∈ s.published, (v : Int) = version

/-- The updated policy was built from the bundle its version names, should that bundle still
    be the one stored. -/
def BuiltFrom (s : Clients) (chainId : String) (currentVersion : Int)
    (fields : Dict String PyVal) (issuedAt : ℚ) (updated : PolicyConfig) : Prop :=
  Published s currentVersion ∧ ∀ base, s.registry.store.get? chainId = some base →
    base.version = currentVersion → Replaced base.policy fields issuedAt updated

def Built (s : Clients) : Pending → Prop
  | .registering _ _ => True
  | .updating chainId currentVersion fields issuedAt updated =>
    BuiltFrom s chainId currentVersion fields issuedAt updated
  | .distributed chainId currentVersion fields issuedAt newBundle =>
    BuiltFrom s chainId currentVersion fields issuedAt newBundle.policy

/-- The shared counter is ahead of every version handed out; a bundle in flight carries a
    version that was never stored and that no other bundle in flight carries. -/
structure Inv (s : Clients) : Prop where
  stored : ∀ chainId bundle, s.registry.store.get? chainId = some bundle →
    bundle.version ∈ s.published
  counted : ∀ v ∈ s.published, v ≤ s.registry.distributor.version
  ahead : ∀ ticket call bundle, s.calls.get? ticket = some call → call.bundle? = some bundle →
    bundle.version ≤ s.registry.distributor.version ∧ bundle.version ∉ s.published
  apart : ∀ ticket ticket' call call' bundle bundle', s.calls.get? ticket = some call →
    s.calls.get? ticket' = some call' → call.bundle? = some bundle →
    call'.bundle? = some bundle' → bundle.version = bundle'.version → ticket = ticket'
  built : ∀ ticket call, s.calls.get? ticket = some call → Built s call
  spent : ∀ chainId version, (chainId, version) ∈ s.succeeded → Published s version ∧
    ∀ bundle, s.registry.store.get? chainId = some bundle → (bundle.version : Int) ≠ version
  once : s.succeeded.Nodup

theorem inv_opened (distributor : PolicyDistributor) : Inv (opened distributor) := by
  constructor <;> simp [opened]

theorem inv_withDistributor {s : Clients} (inv : Inv s) {distributor : PolicyDistributor}
    (later : s.registry.distributor.version ≤ distributor.version) :
    Inv (s.withDistributor distributor) := by
  constructor
  case stored => exact inv.stored
  case counted => exact fun v published => (inv.counted v published).trans later
  case ahead =>
    intro ticket call bundle waiting carried
    obtain ⟨below, unpublished⟩ := inv.ahead ticket call bundle waiting carried
    exact ⟨below.trans later, unpublished⟩
  case apart => exact inv.apart
  case built =>
    intro ticket call waiting
    have before := inv.built ticket call waiting
    cases call <;> exact before
  case spent => exact inv.spent
  case once => exact inv.once

theorem get?_drop {s : Clients} {ticket other : Nat} {call : Pending}
    (waiting : (s.drop ticket).calls.get? other = some call) :
    other ≠ ticket ∧ s.calls.get? other = some call :=
  Dict.get?_of_erase waiting

theorem inv_drop {s : Clients} (inv : Inv s) (ticket : Nat) : Inv (s.drop ticket) := by
  constructor
  case stored => exact inv.stored
  case counted => exact inv.counted
  case ahead =>
    intro other call bundle waiting carried
    exact inv.ahead other call bundle (get?_drop waiting).2 carried
  case apart =>
    intro t t' call call' bundle bundle' waiting waiting' carried carried' same
    exact inv.apart t t' call call' bundle bundle' (get?_drop waiting).2 (get?_drop waiting').2
      carried carried' same
  case built =>
    intro other call waiting
    have before := inv.built other call (get?_drop waiting).2
    cases call <;> exact before
  case spent => exact inv.spent
  case once => exact inv.once

theorem inv_suspend {s : Clients} (inv : Inv s) (ticket : Nat) {call : Pending}
    (built : Built s call)
    (fresh : ∀ bundle, call.bundle? = some bundle →
      bundle.version ≤ s.registry.distributor.version ∧ bundle.version ∉ s.published ∧
      ∀ other call' bundle', s.calls.get? other = some call' → call'.bundle? = some bundle' →
        bundle.version ≠ bundle'.version) :
    Inv (s.suspend ticket call) := by
  constructor
  case stored => exact inv.stored
  case counted => exact inv.counted
  case ahead =>
    intro other call' bundle waiting carried
    simp only [Clients.suspend, Dict.get?_set] at waiting
    split at waiting
    · cases waiting
      exact ⟨(fresh bundle carried).1, (fresh bundle carried).2.1⟩
    · exact inv.ahead other call' bundle waiting carried
  case apart =>
    intro t t' call₁ call₂ bundle₁ bundle₂ waiting waiting' carried carried' same
    simp only [Clients.suspend, Dict.get?_set] at waiting waiting'
    split at waiting <;> split at waiting'
    · rename_i first second
      rw [first, second]
    · cases waiting
      exact absurd same ((fresh bundle₁ carried).2.2 t' call₂ bundle₂ waiting' carried')
    · cases waiting'
      exact absurd same.symm ((fresh bundle₂ carried').2.2 t call₁ bundle₁ waiting carried)
    · exact inv.apart t t' call₁ call₂ bundle₁ bundle₂ waiting waiting' carried carried' same
  case built =>
    intro other call' waiting
    simp only [Clients.suspend, Dict.get?_set] at waiting
    split at waiting
    · cases waiting
      cases call <;> exact built
    · have before := inv.built other call' waiting
      cases call' <;> exact before
  case spent => exact inv.spent
  case once => exact inv.once

theorem published_install {s : Clients} {version : Int} (published : Published s version)
    (ticket : Nat) (chainId : String) (bundle : PolicyBundle) (noted : List (String × Int)) :
    Published (s.install ticket chainId bundle noted) version := by
  obtain ⟨v, member, eq⟩ := published
  exact ⟨v, List.mem_append_left _ member, eq⟩

theorem unlike_published {s : Clients} {bundle : PolicyBundle}
    (unpublished : bundle.version ∉ s.published) {version : Int}
    (published : Published s version) : (bundle.version : Int) ≠ version := by
  intro same
  obtain ⟨v, member, eq⟩ := published
  have : v = bundle.version := by omega
  exact unpublished (this ▸ member)

/-- A version published before the write is stored nowhere it was not stored before. -/
theorem gone_install {s : Clients} {bundle : PolicyBundle}
    (unpublished : bundle.version ∉ s.published) {ticket : Nat} {chainId : String}
    {noted : List (String × Int)} {chain : String} {version : Int}
    (published : Published s version)
    (others : ∀ stored, s.registry.store.get? chain = some stored → chain ≠ chainId →
      (stored.version : Int) ≠ version) :
    ∀ stored, (s.install ticket chainId bundle noted).registry.store.get? chain = some stored →
      (stored.version : Int) ≠ version := by
  intro stored found
  simp only [Clients.install, Dict.get?_set] at found
  split at found
  · cases found
    exact unlike_published unpublished published
  · rename_i other
    exact others stored found other

theorem builtFrom_install {s : Clients} {bundle : PolicyBundle}
    (unpublished : bundle.version ∉ s.published) {ticket : Nat} {chainId : String}
    {noted : List (String × Int)} {chain : String} {version : Int}
    {fields : Dict String PyVal} {issuedAt : ℚ} {updated : PolicyConfig}
    (from_ : BuiltFrom s chain version fields issuedAt updated) :
    BuiltFrom (s.install ticket chainId bundle noted) chain version fields issuedAt updated := by
  refine ⟨published_install from_.1 _ _ _ _, ?_⟩
  intro base found named
  simp only [Clients.install, Dict.get?_set] at found
  split at found
  · cases found
    exact absurd named (unlike_published unpublished from_.1)
  · exact from_.2 base found named

theorem inv_install {s : Clients} (inv : Inv s) {ticket : Nat} {call : Pending}
    {bundle : PolicyBundle} (waiting : s.calls.get? ticket = some call)
    (carried : call.bundle? = some bundle) (chainId : String) (noted : List (String × Int))
    (notedOnce : noted.Nodup) (notedHere : ∀ entry ∈ noted, entry.1 = chainId ∧
      Published s entry.2 ∧ entry ∉ s.succeeded) :
    Inv (s.install ticket chainId bundle noted) := by
  obtain ⟨below, unpublished⟩ := inv.ahead ticket call bundle waiting carried
  constructor
  case stored =>
    intro chain stored found
    simp only [Clients.install, Dict.get?_set] at found ⊢
    split at found
    · cases found
      simp
    · exact List.mem_append_left _ (inv.stored chain stored found)
  case counted =>
    intro v member
    rcases List.mem_append.mp member with earlier | last
    · exact inv.counted v earlier
    · obtain rfl := List.mem_singleton.mp last
      exact below
  case ahead =>
    intro other call' bundle' waiting' carried'
    obtain ⟨ne, waitingBefore⟩ := get?_drop waiting'
    obtain ⟨below', unpublished'⟩ := inv.ahead other call' bundle' waitingBefore carried'
    refine ⟨below', ?_⟩
    intro member
    rcases List.mem_append.mp member with earlier | last
    · exact unpublished' earlier
    · exact ne (inv.apart other ticket call' call bundle' bundle waitingBefore waiting carried'
        carried (List.mem_singleton.mp last))
  case apart =>
    intro t t' call₁ call₂ bundle₁ bundle₂ waiting₁ waiting₂ carried₁ carried₂ same
    exact inv.apart t t' call₁ call₂ bundle₁ bundle₂ (get?_drop waiting₁).2 (get?_drop waiting₂).2
      carried₁ carried₂ same
  case built =>
    intro other call' waiting'
    have before := inv.built other call' (get?_drop waiting').2
    cases call' with
    | registering policy bundle' => trivial
    | updating chain version fields issuedAt updated =>
      exact builtFrom_install unpublished before
    | distributed chain version fields issuedAt newBundle =>
      exact builtFrom_install unpublished before
  case spent =>
    intro chain version member
    rcases List.mem_append.mp member with earlier | last
    · obtain ⟨published, gone⟩ := inv.spent chain version earlier
      exact ⟨published_install published _ _ _ _,
        gone_install unpublished published fun stored found _ => gone stored found⟩
    · obtain ⟨here, published, _⟩ := notedHere (chain, version) last
      exact ⟨published_install published _ _ _ _,
        gone_install unpublished published fun stored found other => absurd here other⟩
  case once =>
    refine List.nodup_append.mpr ⟨inv.once, notedOnce, ?_⟩
    intro entry earlier entry' last same
    rw [same] at earlier
    exact (notedHere entry' last).2.2 earlier

theorem distributed_call {rt : Runtime} {s : Clients} (inv : Inv s) {policy : PolicyConfig}
    {now : ℚ} {distributor : PolicyDistributor} {bundle : PolicyBundle}
    (distributed : s.registry.distributor.distribute rt policy now = (distributor, .ok bundle)) :
    Inv (s.withDistributor distributor) ∧ bundle.policy = policy ∧
      bundle.version ≤ distributor.version ∧ bundle.version ∉ s.published ∧
      ∀ other call' bundle', s.calls.get? other = some call' → call'.bundle? = some bundle' →
        bundle.version ≠ bundle'.version := by
  rcases distribute_cases rt s.registry.distributor policy now with
    ⟨_, made, eq, policyEq, version⟩ | ⟨_, e, eq⟩
  · rw [eq] at distributed
    cases distributed
    refine ⟨inv_withDistributor inv (Nat.le_succ _), policyEq, by rw [version], ?_, ?_⟩
    · intro published
      have := inv.counted _ published
      omega
    · intro other call' bundle' waiting carried same
      have := (inv.ahead other call' bundle' waiting carried).1
      omega
  · rw [eq] at distributed
    cases distributed

theorem failed_call {rt : Runtime} {s : Clients} (inv : Inv s) {policy : PolicyConfig} {now : ℚ}
    {distributor : PolicyDistributor} {e : DistributeError}
    (failed : s.registry.distributor.distribute rt policy now = (distributor, .error e)) :
    Inv (s.withDistributor distributor) := by
  rcases distribute_cases rt s.registry.distributor policy now with ⟨_, _, eq, _⟩ | ⟨_, _, eq⟩
  · rw [eq] at failed
    cases failed
  · rw [eq] at failed
    cases failed
    exact inv_withDistributor inv (Nat.le_refl _)

theorem inv_updateDistribute (rt : Runtime) {s : Clients} (inv : Inv s) (ticket : Nat) (now : ℚ) :
    Inv (act rt s (.updateDistribute ticket now)) := by
  simp only [act]
  split
  · rename_i chainId currentVersion fields issuedAt updated waiting
    have built : BuiltFrom s chainId currentVersion fields issuedAt updated :=
      inv.built ticket _ waiting
    split
    · rename_i distributor e failed
      exact inv_drop (failed_call inv failed) ticket
    · rename_i distributor newBundle distributed
      obtain ⟨invHere, policy, below, unpublished, alone⟩ := distributed_call inv distributed
      refine inv_suspend invHere ticket ?_ ?_
      · show BuiltFrom s chainId currentVersion fields issuedAt newBundle.policy
        rw [policy]
        exact built
      · intro carried same
        cases same
        exact ⟨below, unpublished, alone⟩
  · exact inv

/-- A write phase installs its bundle over the version its client named, which none has
    replaced. -/
theorem inv_updateWrite (rt : Runtime) {s : Clients} (inv : Inv s) (ticket : Nat) :
    Inv (act rt s (.updateWrite ticket)) := by
  simp only [act]
  split
  · rename_i chainId currentVersion fields issuedAt newBundle waiting
    rcases updateWrite_cases s.registry chainId currentVersion newBundle with
      ⟨e, eq⟩ | ⟨current, found, same, eq⟩
    · rw [eq]
      exact inv_drop inv ticket
    · rw [eq]
      refine inv_install inv waiting rfl chainId [(chainId, currentVersion)]
        (List.nodup_singleton _) ?_
      intro entry member
      obtain rfl := List.mem_singleton.mp member
      refine ⟨rfl, ⟨_, inv.stored chainId current found, same⟩, ?_⟩
      intro already
      exact (inv.spent chainId currentVersion already).2 current found same
  · exact inv

theorem act_inv (rt : Runtime) {s : Clients} (inv : Inv s) (a : Action) : Inv (act rt s a) := by
  cases a with
  | registerDistribute ticket policy now =>
    simp only [act]
    split
    · rename_i distributor e failed
      exact failed_call inv failed
    · rename_i distributor bundle distributed
      obtain ⟨invHere, _, below, unpublished, alone⟩ := distributed_call inv distributed
      refine inv_suspend invHere ticket trivial ?_
      intro carried same
      cases same
      exact ⟨below, unpublished, alone⟩
  | registerStore ticket =>
    simp only [act]
    split
    · rename_i policy bundle waiting
      have stored := inv_install inv waiting rfl policy.chainId [] List.nodup_nil
        (by simp)
      simpa [Clients.install, Clients.drop, Clients.publish] using stored
    · exact inv
  | updateRead ticket chainId currentVersion fields now =>
    simp only [act]
    split
    · exact inv
    · rename_i updated ok
      obtain ⟨existing, found, same, replaced⟩ := updateRead_ok ok
      refine inv_suspend inv ticket ⟨⟨_, inv.stored chainId existing found, same⟩, ?_⟩
        (by simp [Pending.bundle?])
      intro base stored _
      rw [found] at stored
      cases stored
      exact replaced
  | updateDistribute ticket now => exact inv_updateDistribute rt inv ticket now
  | updateWrite ticket => exact inv_updateWrite rt inv ticket
  | distribute policy now =>
    simp only [act]
    rcases distribute_cases rt s.registry.distributor policy now with ⟨_, _, eq, _⟩ | ⟨_, _, eq⟩
    · rw [eq]
      exact inv_withDistributor inv (Nat.le_succ _)
    · rw [eq]
      exact inv_withDistributor inv (Nat.le_refl _)

/-- What a step of an update does to the stored bundles: nothing, unless it is a write phase
    that succeeds, and that one replaces the bundle the client named. -/
def UpdateStep (rt : Runtime) (s : Clients) (a : Action) : Prop :=
  let after := act rt s a
  match a with
  | .updateRead _ _ _ _ _ | .updateDistribute _ _ => after.registry.store = s.registry.store
  | .updateWrite ticket =>
    match s.calls.get? ticket with
    | some (.distributed chainId currentVersion fields issuedAt newBundle) =>
      match (updateWrite s.registry chainId currentVersion newBundle).2 with
      | .error _ => after.registry.store = s.registry.store
      | .ok bundle =>
        after.registry.store = s.registry.store.set chainId bundle ∧
        after.succeeded = s.succeeded ++ [(chainId, currentVersion)] ∧
        ∃ named, s.registry.store.get? chainId = some named ∧ named.version = currentVersion ∧
          Replaced named.policy fields issuedAt bundle.policy
    | _ => after.registry.store = s.registry.store
  | _ => True

theorem update_step (rt : Runtime) {s : Clients} (inv : Inv s) (a : Action) :
    UpdateStep rt s a := by
  cases a with
  | registerDistribute ticket policy now => trivial
  | registerStore ticket => trivial
  | distribute policy now => trivial
  | updateRead ticket chainId currentVersion fields now =>
    simp only [UpdateStep, act]
    split <;> rfl
  | updateDistribute ticket now =>
    simp only [UpdateStep, act]
    split
    · split <;> rfl
    · rfl
  | updateWrite ticket =>
    simp only [UpdateStep, act]
    cases waiting : s.calls.get? ticket with
    | none => rfl
    | some call =>
      cases call with
      | registering policy bundle => rfl
      | updating chainId currentVersion fields issuedAt updated => rfl
      | distributed chainId currentVersion fields issuedAt newBundle =>
        rcases updateWrite_cases s.registry chainId currentVersion newBundle with
          ⟨e, eq⟩ | ⟨current, found, same, eq⟩
        · simp [eq, Clients.drop]
        · have built : BuiltFrom s chainId currentVersion fields issuedAt newBundle.policy :=
            inv.built ticket _ waiting
          simp only [eq]
          exact ⟨trivial, trivial, current, found, same, built.2 current found same⟩

/-- Optimistic concurrency, for any interleaving: no version is updated twice, each update that
    succeeds replaces what its client saw, and one that raises stores nothing. -/
theorem optimistic_updates (rt : Runtime) (distributor : PolicyDistributor)
    (actions : List Action) :
    Runs.EachStep (act rt) (UpdateStep rt) (opened distributor) actions ∧
      (Runs.run (act rt) (opened distributor) actions).succeeded.Nodup := by
  have everyStep : Runs.EachStep (act rt) (fun _ _ => True) (opened distributor) actions :=
    Runs.eachStep_true _ _
  have keep : ∀ s a, Inv s → True → Inv (act rt s a) := fun _ a inv _ => act_inv rt inv a
  constructor
  · exact Runs.eachStep_invariant keep (fun _ a inv _ => update_step rt inv a)
      (inv_opened distributor) everyStep
  · exact (Runs.run_invariant keep (inv_opened distributor) everyStep).once

section TwoUpdates

def haltPolicy : PolicyConfig where
  chainId := "agent"
  ceilingUsd := .float (.finite 5)
  onExceed := .str "halt"
  issuedAt := .float (.finite 1740000000)

def stepCeiling (steps : Int) : Dict String PyVal :=
  (∅ : Dict String PyVal).set "ceiling_steps" (.int steps)

/-- Two clients update the same version; the one that read it first writes last. -/
def twoUpdates : List Action :=
  [.registerDistribute 1 haltPolicy 1740000001, .registerStore 1,
    .updateRead 2 "agent" 1 (stepCeiling 10) 1740000002,
    .updateRead 3 "agent" 1 (stepCeiling 20) 1740000003, .updateDistribute 3 1740000004,
    .updateDistribute 2 1740000005, .updateWrite 3, .updateWrite 2]

theorem first_write_succeeds :
    let s := Runs.run (act plainRuntime) (opened lenient) twoUpdates
    (Runs.EachStep (act plainRuntime) (UpdateStep plainRuntime) (opened lenient) twoUpdates ∧
      s.succeeded.Nodup) ∧
    s.succeeded = [("agent", 1)] ∧
    (s.registry.getPolicy "agent").map (fun b => (b.version, b.policy.ceilingSteps)) =
      some (2, .int 20) :=
  ⟨optimistic_updates plainRuntime lenient twoUpdates, rfl, rfl⟩

end TwoUpdates

end VeronicaOptimisticUpdates
