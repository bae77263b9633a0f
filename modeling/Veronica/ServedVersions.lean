import Veronica.PolicyUpdates

/- The version a chain is served. A write phase of `update` compares versions before it stores;
   `register` stores whatever its `distribute` made, however long ago that was. -/
namespace VeronicaServedVersions
open VeronicaDistribution VeronicaPolicyUpdates

/-- No chain loses its policy or is served an older version of it. -/
def NotBackwards (before after : Clients) : Prop :=
  ∀ chainId served, before.registry.getPolicy chainId = some served →
    ∃ later, after.registry.getPolicy chainId = some later ∧ served.version ≤ later.version

/-- A registration stores its bundle over one that was distributed before it. -/
def StoresNewer (s : Clients) : Action → Prop
  | .registerStore ticket =>
    match s.calls.get? ticket with
    | some (.registering policy bundle) =>
      ∀ served, s.registry.getPolicy policy.chainId = some served →
        served.version ≤ bundle.version
    | _ => True
  | _ => True

/-- The counter has passed every version a waiting call names or carries, and an update carries
    a later version than the one it names. -/
def Drawn (counter : Nat) : Pending → Prop
  | .registering _ bundle => bundle.version ≤ counter
  | .updating _ currentVersion _ _ _ => currentVersion ≤ counter
  | .distributed _ currentVersion _ _ newBundle =>
    currentVersion < newBundle.version ∧ newBundle.version ≤ counter

structure Inv (s : Clients) : Prop where
  stored : s.registry.Versioned
  drawn : ∀ ticket call, s.calls.get? ticket = some call →
    Drawn s.registry.distributor.version call

theorem notBackwards_refl (s : Clients) : NotBackwards s s :=
  fun _ served found => ⟨served, found, Nat.le_refl _⟩

theorem notBackwards_trans (s t u : Clients) (first : NotBackwards s t)
    (second : NotBackwards t u) : NotBackwards s u := by
  intro chainId served found
  obtain ⟨middle, foundMiddle, le⟩ := first chainId served found
  obtain ⟨last, foundLast, le'⟩ := second chainId middle foundMiddle
  exact ⟨last, foundLast, le.trans le'⟩

theorem notBackwards_of_store {s t : Clients} (same : t.registry.store = s.registry.store) :
    NotBackwards s t := by
  intro chainId served found
  refine ⟨served, ?_, Nat.le_refl _⟩
  rw [PolicyRegistry.getPolicy, same]
  exact found

/-- Storing one bundle takes a chain backwards exactly when it is older than the one there. -/
theorem notBackwards_set_iff {s t : Clients} {chainId : String} {bundle : PolicyBundle}
    (written : t.registry.store = s.registry.store.set chainId bundle) :
    NotBackwards s t ↔ ∀ served, s.registry.getPolicy chainId = some served →
      served.version ≤ bundle.version := by
  constructor
  · intro forward served found
    obtain ⟨later, foundLater, le⟩ := forward chainId served found
    rw [PolicyRegistry.getPolicy, written, Dict.get?_set_self] at foundLater
    cases foundLater
    exact le
  · intro newer other served found
    rw [PolicyRegistry.getPolicy, written, Dict.get?_set]
    split
    · rename_i same
      rw [same] at found
      exact ⟨bundle, rfl, newer served found⟩
    · exact ⟨served, found, Nat.le_refl _⟩

theorem drawn_later {counter counter' : Nat} (le : counter ≤ counter') {call : Pending}
    (drawn : Drawn counter call) : Drawn counter' call := by
  cases call with
  | registering policy bundle => exact drawn.trans le
  | updating chainId currentVersion fields issuedAt updated =>
    have : currentVersion ≤ counter := drawn
    show currentVersion ≤ counter'
    omega
  | distributed chainId currentVersion fields issuedAt newBundle =>
    exact ⟨drawn.1, drawn.2.trans le⟩

theorem inv_withDistributor {s : Clients} (inv : Inv s) {distributor : PolicyDistributor}
    (later : s.registry.distributor.version ≤ distributor.version) :
    Inv (s.withDistributor distributor) where
  stored := fun chainId bundle found => (inv.stored chainId bundle found).trans later
  drawn := fun ticket call waiting => drawn_later later (inv.drawn ticket call waiting)

theorem inv_drop {s : Clients} (inv : Inv s) (ticket : Nat) : Inv (s.drop ticket) where
  stored := inv.stored
  drawn := Dict.forall_erase ticket inv.drawn

theorem inv_suspend {s : Clients} (inv : Inv s) (ticket : Nat) {call : Pending}
    (drawn : Drawn s.registry.distributor.version call) : Inv (s.suspend ticket call) where
  stored := inv.stored
  drawn := Dict.forall_set drawn inv.drawn

theorem inv_publish {s : Clients} (inv : Inv s) (chainId : String) {bundle : PolicyBundle}
    (drawn : bundle.version ≤ s.registry.distributor.version) :
    Inv (s.publish chainId bundle) where
  stored := Dict.forall_set drawn inv.stored
  drawn := inv.drawn

/-- A successful `distribute` draws the next version, a failed one draws none. -/
theorem distribute_drawn (rt : Runtime) {s : Clients} (inv : Inv s) (policy : PolicyConfig)
    (now : ℚ) : Inv (s.withDistributor (s.registry.distributor.distribute rt policy now).1) ∧
      ∀ bundle, (s.registry.distributor.distribute rt policy now).2 = .ok bundle →
        bundle.version = s.registry.distributor.version + 1 ∧
        (s.registry.distributor.distribute rt policy now).1.version = bundle.version := by
  rcases distribute_cases rt s.registry.distributor policy now with
    ⟨_, made, eq, _, version⟩ | ⟨_, e, eq⟩
  · rw [eq]
    refine ⟨inv_withDistributor inv (Nat.le_succ _), ?_⟩
    intro bundle same
    cases same
    exact ⟨version, version.symm⟩
  · rw [eq]
    exact ⟨inv_withDistributor inv (Nat.le_refl _), fun bundle same => by cases same⟩

theorem act_inv (rt : Runtime) {s : Clients} (inv : Inv s) (a : Action) : Inv (act rt s a) := by
  cases a with
  | registerDistribute ticket policy now =>
    obtain ⟨kept, versions⟩ := distribute_drawn rt inv policy now
    simp only [act]
    split
    · rename_i distributor e failed
      rw [failed] at kept
      exact kept
    · rename_i distributor bundle distributed
      rw [distributed] at kept versions
      exact inv_suspend kept ticket (versions bundle rfl).2.ge
  | registerStore ticket =>
    simp only [act]
    split
    · rename_i policy bundle waiting
      exact inv_publish (inv_drop inv ticket) policy.chainId (inv.drawn ticket _ waiting)
    · exact inv
  | updateRead ticket chainId currentVersion fields now =>
    simp only [act]
    split
    · exact inv
    · rename_i updated ok
      obtain ⟨existing, found, same, _⟩ := updateRead_ok ok
      have counted := inv.stored chainId existing found
      refine inv_suspend inv ticket ?_
      show currentVersion ≤ s.registry.distributor.version
      omega
  | updateDistribute ticket now =>
    simp only [act]
    split
    · rename_i chainId currentVersion fields issuedAt updated waiting
      have named : currentVersion ≤ s.registry.distributor.version := inv.drawn ticket _ waiting
      obtain ⟨kept, versions⟩ := distribute_drawn rt inv updated now
      split
      · rename_i distributor e failed
        rw [failed] at kept
        exact inv_drop kept ticket
      · rename_i distributor newBundle distributed
        rw [distributed] at kept versions
        obtain ⟨next, last⟩ := versions newBundle rfl
        refine inv_suspend kept ticket ⟨?_, last.ge⟩
        omega
    · exact inv
  | updateWrite ticket =>
    simp only [act]
    split
    · rename_i chainId currentVersion fields issuedAt newBundle waiting
      have drawn : Drawn _ _ := inv.drawn ticket _ waiting
      rcases updateWrite_cases s.registry chainId currentVersion newBundle with
        ⟨e, eq⟩ | ⟨current, _, _, eq⟩
      · rw [eq]
        exact inv_drop inv ticket
      · rw [eq]
        have written := inv_publish (inv_drop inv ticket) chainId drawn.2
        exact ⟨written.stored, written.drawn⟩
    · exact inv
  | distribute policy now =>
    exact (distribute_drawn rt inv policy now).1

/-- A step takes no chain backwards exactly when it is not a late registration. -/
theorem act_notBackwards_iff (rt : Runtime) {s : Clients} (inv : Inv s) (a : Action) :
    NotBackwards s (act rt s a) ↔ StoresNewer s a := by
  cases a with
  | registerDistribute ticket policy now =>
    refine iff_of_true (notBackwards_of_store ?_) trivial
    simp only [act]
    split <;> rfl
  | registerStore ticket =>
    simp only [act, StoresNewer]
    cases waiting : s.calls.get? ticket with
    | none => exact iff_of_true (notBackwards_refl s) trivial
    | some call =>
      cases call with
      | registering policy bundle => exact notBackwards_set_iff rfl
      | updating => exact iff_of_true (notBackwards_refl s) trivial
      | distributed => exact iff_of_true (notBackwards_refl s) trivial
  | updateRead ticket chainId currentVersion fields now =>
    refine iff_of_true (notBackwards_of_store ?_) trivial
    simp only [act]
    split <;> rfl
  | updateDistribute ticket now =>
    refine iff_of_true (notBackwards_of_store ?_) trivial
    simp only [act]
    split
    · split <;> rfl
    · rfl
  | updateWrite ticket =>
    refine iff_of_true ?_ trivial
    simp only [act]
    split
    · rename_i chainId currentVersion fields issuedAt newBundle waiting
      have drawn : Drawn _ _ := inv.drawn ticket _ waiting
      rcases updateWrite_cases s.registry chainId currentVersion newBundle with
        ⟨e, eq⟩ | ⟨current, found, same, eq⟩
      · rw [eq]
        exact notBackwards_of_store rfl
      · rw [eq]
        refine (notBackwards_set_iff rfl).mpr ?_
        intro served foundServed
        rw [PolicyRegistry.getPolicy, found] at foundServed
        cases foundServed
        have newer := drawn.1
        omega
    · exact notBackwards_refl s
  | distribute policy now =>
    exact iff_of_true (notBackwards_of_store rfl) trivial

/-- Over a whole run no chain is ever served an older version than before exactly when every
    registration stores its bundle over an older one. -/
theorem served_version_monotone_iff (rt : Runtime) (distributor : PolicyDistributor)
    (actions : List Action) :
    Runs.Ordered (act rt) NotBackwards (opened distributor) actions ↔
      Runs.EachStep (act rt) StoresNewer (opened distributor) actions := by
  have opening : Inv (opened distributor) := by constructor <;> simp [opened,
    PolicyRegistry.Versioned, PolicyRegistry.getPolicy]
  rw [Runs.ordered_iff_eachStep notBackwards_refl notBackwards_trans]
  exact Runs.eachStep_exact (fun _ a inv _ _ => act_inv rt inv a)
    (fun _ a inv _ => act_notBackwards_iff rt inv a) opening (Runs.eachStep_true _ actions)

section OverlappingRegistrations

def agentPolicy (ceilingUsd : ℚ) : PolicyConfig where
  chainId := "agent"
  ceilingUsd := .float (.finite ceilingUsd)
  onExceed := .str "halt"
  issuedAt := .float (.finite 1740000000)

/-- Two registrations for one chain; the one that distributed first stores last. -/
theorem late_registration_served_again :
    ¬ Runs.Ordered (act plainRuntime) NotBackwards
      (opened lenient)
      [.registerDistribute 1 (agentPolicy 5) 1740000001,
        .registerDistribute 2 (agentPolicy 1) 1740000002, .registerStore 2, .registerStore 1] := by
  intro ordered
  have last := ordered [.registerDistribute 1 (agentPolicy 5) 1740000001,
    .registerDistribute 2 (agentPolicy 1) 1740000002, .registerStore 2] [.registerStore 1] [] rfl
  obtain ⟨later, found, le⟩ := last "agent" _ rfl
  cases found
  exact absurd le (by decide)

end OverlappingRegistrations

end VeronicaServedVersions
