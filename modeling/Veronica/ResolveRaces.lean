import Veronica.Resolver

/- `resolve` among the calls of other clients. It reads the tenant and its ancestors in two
   critical sections of the registry, and whole calls can run between them. -/
namespace VeronicaResolveRaces
open VeronicaDistribution VeronicaTenants VeronicaResolver

/-- A `resolve` between its two reads. `seen` only observes: the states the registry has been in
    since the first read. -/
structure Reading where
  tenantId : String
  basePolicy : PolicyConfig
  tenant : TenantNode
  seen : List TenantRegistry

structure Clients where
  registry : TenantRegistry
  reads : Dict Nat Reading

inductive Action where
  | call (call : Call)
  | resolveGet (ticket : Nat) (tenantId : String) (basePolicy : PolicyConfig)
  | resolveAncestors (ticket : Nat)

def Reading.observe (registry : TenantRegistry) (reading : Reading) : Reading :=
  { reading with seen := reading.seen ++ [registry] }

/-- The second read, and the rest of `resolve` with the tenant as it was first read. -/
def Reading.finish (reading : Reading) (registry : TenantRegistry) : Except PyExc PolicyConfig :=
  match registry.getAncestors reading.tenantId with
  | .error e => .error e
  | .ok ancestors => applyChain reading.basePolicy (ancestors ++ [reading.tenant])

def step (s : Clients) : Action → Clients
  | .call call =>
    let registry := act s.registry call
    { registry, reads := s.reads.mapValues (Reading.observe registry) }
  | .resolveGet ticket tenantId basePolicy =>
    match s.registry.get tenantId with
    | none => s
    | some tenant =>
      let reading : Reading := { tenantId, basePolicy, tenant, seen := [s.registry] }
      { s with reads := s.reads.set ticket reading }
  | .resolveAncestors ticket => { s with reads := s.reads.erase ticket }

def opened : Clients := { registry := TenantRegistry.empty, reads := ∅ }

/-- A `resolve` that returned, with the states of the registry from its start to its end. -/
structure Returned where
  tenantId : String
  basePolicy : PolicyConfig
  policy : PolicyConfig
  seen : List TenantRegistry

def returned? (s : Clients) : Action → Option Returned
  | .call _ => none
  | .resolveGet _ tenantId basePolicy =>
    match s.registry.get tenantId with
    | none => some { tenantId, basePolicy, policy := basePolicy, seen := [s.registry] }
    | some _ => none
  | .resolveAncestors ticket =>
    match s.reads.get? ticket with
    | none => none
    | some reading =>
      match reading.finish s.registry with
      | .error _ => none
      | .ok policy => some {
          tenantId := reading.tenantId
          basePolicy := reading.basePolicy
          policy
          seen := reading.seen }

/-- What a call to `resolve` returns, one state of the registry in that time would have given. -/
def OneState (s : Clients) (a : Action) : Prop :=
  ∀ ret, returned? s a = some ret →
    ∃ r ∈ ret.seen, resolve r ret.tenantId ret.basePolicy = .ok ret.policy

def ancestorOverrides (r : TenantRegistry) (tenantId : String) :
    Except PyExc (List (Dict String PyVal)) :=
  (r.getAncestors tenantId).map (List.map TenantNode.policyOverrides)

/-- The tenant still has the overrides that were read. -/
def OwnAsRead (r : TenantRegistry) (reading : Reading) : Prop :=
  (r.get reading.tenantId).map TenantNode.policyOverrides = some reading.tenant.policyOverrides

/-- No call changes what the ancestors of a tenant being resolved override while, or by the same
    step that, the tenant itself no longer has the overrides that were read. -/
def TenantChangesLast (s : Clients) : Action → Prop
  | .call call => ∀ ticket reading, s.reads.get? ticket = some reading →
    OwnAsRead (act s.registry call) reading ∨
      ancestorOverrides (act s.registry call) reading.tenantId =
        ancestorOverrides s.registry reading.tenantId
  | _ => True

/-- Some state seen had both the tenant as it was read and the ancestors as they are now. -/
def Consistent (registry : TenantRegistry) (reading : Reading) : Prop :=
  ∃ r ∈ reading.seen, OwnAsRead r reading ∧
    ancestorOverrides r reading.tenantId = ancestorOverrides registry reading.tenantId

def Inv (s : Clients) : Prop :=
  ∀ ticket reading, s.reads.get? ticket = some reading → Consistent s.registry reading

/-- Uninterrupted, the two reads are `resolve`. -/
theorem finish_eq_resolve {r : TenantRegistry} {tenantId : String} {tenant : TenantNode}
    (found : r.get tenantId = some tenant) (basePolicy : PolicyConfig)
    (seen : List TenantRegistry) :
    Reading.finish { tenantId, basePolicy, tenant, seen } r = resolve r tenantId basePolicy := by
  rw [resolve, found]
  rfl

theorem applyNode_congr {node other : TenantNode}
    (same : node.policyOverrides = other.policyOverrides) (policy : PolicyConfig) :
    applyNode policy node = applyNode policy other := by
  rw [applyNode, applyNode, same]

theorem applyChain_congr {chain other : List TenantNode}
    (same : chain.map TenantNode.policyOverrides = other.map TenantNode.policyOverrides)
    (basePolicy : PolicyConfig) : applyChain basePolicy chain = applyChain basePolicy other := by
  induction chain generalizing other basePolicy with
  | nil =>
    rw [List.map_nil, eq_comm, List.map_eq_nil_iff] at same
    rw [same]
  | cons node rest ih =>
    cases other with
    | nil => cases same
    | cons node' rest' =>
      rw [List.map_cons, List.map_cons, List.cons.injEq] at same
      rw [applyChain, applyChain, List.foldlM_cons, List.foldlM_cons,
        applyNode_congr same.1 basePolicy]
      cases applyNode basePolicy node' with
      | error e => rfl
      | ok next => exact ih same.2 next

theorem resolve_of_consistent {registry : TenantRegistry} {reading : Reading}
    (consistent : Consistent registry reading) {policy : PolicyConfig}
    (finished : reading.finish registry = .ok policy) :
    ∃ r ∈ reading.seen, resolve r reading.tenantId reading.basePolicy = .ok policy := by
  obtain ⟨r, member, own, above⟩ := consistent
  refine ⟨r, member, ?_⟩
  obtain ⟨tenant, found, sameOwn⟩ := Option.map_eq_some_iff.mp own
  unfold Reading.finish at finished
  cases second : registry.getAncestors reading.tenantId with
  | error e =>
    rw [second] at finished
    cases finished
  | ok ancestors =>
    rw [second] at finished
    rw [ancestorOverrides, ancestorOverrides, second] at above
    obtain ⟨ancestors', first, sameAbove⟩ := except_map_ok.mp above
    rw [resolve, found]
    dsimp only
    rw [first]
    dsimp only
    rw [← finished]
    apply applyChain_congr
    rw [List.map_append, List.map_append, sameAbove]
    exact congrArg _ (congrArg (fun overrides => [overrides]) sameOwn)

theorem step_inv {s : Clients} (inv : Inv s) (a : Action) (last : TenantChangesLast s a) :
    Inv (step s a) := by
  cases a with
  | call call =>
    intro ticket reading found
    obtain ⟨earlier, foundEarlier, rfl⟩ :=
      Option.map_eq_some_iff.mp ((Dict.get?_mapValues _ s.reads ticket).symm.trans found)
    rcases last ticket earlier foundEarlier with own | above
    · exact ⟨act s.registry call, by simp [Reading.observe], own, rfl⟩
    · obtain ⟨r, member, own, same⟩ := inv ticket earlier foundEarlier
      exact ⟨r, List.mem_append_left _ member, own, same.trans above.symm⟩
  | resolveGet ticket tenantId basePolicy =>
    simp only [step]
    cases found : s.registry.get tenantId with
    | none => exact inv
    | some tenant =>
      refine Dict.forall_set ?_ inv
      exact ⟨s.registry, List.mem_cons_self, congrArg _ found, rfl⟩
  | resolveAncestors ticket =>
    intro other reading found
    exact inv other reading (Dict.get?_of_erase found).2

theorem step_oneState {s : Clients} (inv : Inv s) (a : Action) : OneState s a := by
  intro ret returned
  cases a with
  | call call => cases returned
  | resolveGet ticket tenantId basePolicy =>
    simp only [returned?] at returned
    cases found : s.registry.get tenantId with
    | none =>
      rw [found] at returned
      cases returned
      exact ⟨s.registry, List.mem_cons_self, by rw [resolve, found]⟩
    | some tenant =>
      rw [found] at returned
      cases returned
  | resolveAncestors ticket =>
    simp only [returned?] at returned
    cases found : s.reads.get? ticket with
    | none =>
      rw [found] at returned
      cases returned
    | some reading =>
      rw [found] at returned
      cases finished : reading.finish s.registry with
      | error e =>
        simp only [finished] at returned
        cases returned
      | ok policy =>
        simp only [finished] at returned
        cases returned
        exact resolve_of_consistent (inv ticket reading found) finished

/-- In every run in which a tenant being resolved changes no sooner than the last change to its
    ancestors, every `resolve` returns the effective policy of one state of the registry. -/
theorem resolve_reads_one_state (actions : List Action)
    (ordered : Runs.EachStep step TenantChangesLast opened actions) :
    Runs.EachStep step OneState opened actions := by
  have opening : Inv opened := fun ticket reading found => by cases found
  exact Runs.eachStep_invariant (fun _ a inv last => step_inv inv a last)
    (fun _ a inv _ => step_oneState inv a) opening ordered

section TeamThenOrg

def raceBase : PolicyConfig where
  chainId := "team"
  ceilingUsd := .float (.finite 10)
  onExceed := .str "halt"
  issuedAt := .float (.finite 1740000000)

def raceNode (id : String) (parentId : Option String) (key : String) (limit : Int) :
    TenantNode where
  id := id
  name := id
  parentId := parentId
  policyOverrides := (∅ : Dict String PyVal).set key (.int limit)
  createdAt := 1740000000

def overriding (tenantId key : String) (limit : Int) : Action :=
  .call (.update tenantId ((∅ : Dict String PyVal).set "policy_overrides"
    (.dict [(key, .int limit)])))

def registered : List Action :=
  [.call (.register (raceNode "org" none "ceiling_steps" 20)),
    .call (.register (raceNode "team" (some "org") "ceiling_tokens_out" 1000)),
    .resolveGet 1 "team" raceBase]

/-- The team is changed and then its organisation, between the two reads. -/
def teamThenOrg : List Action :=
  registered ++ [overriding "team" "ceiling_tokens_out" 2000, overriding "org" "ceiling_steps" 30]

theorem single_reading {ticket : Nat} {reading : Reading} {holds : Reading → Prop}
    (here : holds reading) : ∀ other found,
      ((∅ : Dict Nat Reading).set ticket reading).get? other = some found → holds found := by
  intro other found member
  rw [Dict.get?_set] at member
  split at member
  · cases member
    exact here
  · cases member

/-- The other way round the result is that of the state between the two changes. -/
theorem org_then_team_ordered : Runs.EachStep step OneState opened
    (registered ++ [overriding "org" "ceiling_steps" 30,
      overriding "team" "ceiling_tokens_out" 2000,
      .resolveAncestors 1]) := by
  apply resolve_reads_one_state
  have early : ∀ ticket reading, (∅ : Dict Nat Reading).get? ticket = some reading → False :=
    fun ticket reading found => by cases found
  refine ⟨?_, ?_, trivial, ?_, ?_, trivial, trivial⟩
  · exact fun ticket reading found => (early ticket reading found).elim
  · exact fun ticket reading found => (early ticket reading found).elim
  · exact single_reading (Or.inl rfl)
  · exact single_reading (Or.inr rfl)

/-- The result has the team's old limit and the organisation's new one. -/
theorem mixed_states_returned :
    ¬ Runs.EachStep step OneState opened (teamThenOrg ++ [.resolveAncestors 1]) := by
  intro each
  obtain ⟨_, _, _, _, _, last, _⟩ := each
  obtain ⟨r, member, resolved⟩ := last _ rfl
  have limits : ∀ policy, resolve r "team" raceBase = .ok policy →
      policy.ceilingSteps = .int 20 ∨ policy.ceilingTokensOut = .int 2000 := by
    intro policy ok
    rcases List.mem_cons.mp member with rfl | later
    · cases ok
      exact Or.inl rfl
    · rcases List.mem_cons.mp later with rfl | later
      · cases ok
        exact Or.inl rfl
      · rcases List.mem_cons.mp later with rfl | none
        · cases ok
          exact Or.inr rfl
        · cases none
  rcases limits _ resolved with steps | tokens
  · cases steps
  · cases tokens

end TeamThenOrg

end VeronicaResolveRaces
