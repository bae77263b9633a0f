import Veronica.Library.Dict
import Veronica.Library.Forests
import Veronica.Library.PyValue
import Veronica.Library.Runs

/- TenantRegistry: tenants under a lock, each naming its parent. Nodes are copied in and out, so
   the registry's own calls are all that changes them. -/
namespace VeronicaTenants

structure TenantNode where
  id : String
  name : String
  parentId : Option String
  policyOverrides : Dict String PyVal
  createdAt : ℚ

structure TenantRegistry where
  tenants : Dict String TenantNode

def maxDepth : Nat := 100

namespace TenantRegistry

def empty : TenantRegistry := ⟨∅⟩

/-- The keys from `startId` upward. -/
def walkAncestorsUnsafe (r : TenantRegistry) (startId : String) : Except PyExc (List String) :=
  (Forests.climb r.tenants.get? TenantNode.parentId
    (.runtimeError ("Circular parent reference detected while walking ancestors of '" ++
      startId ++ "'")) maxDepth (some startId)).map (List.map Prod.fst)

def get (r : TenantRegistry) (tenantId : String) : Option TenantNode := r.tenants.get? tenantId

def getChildren (r : TenantRegistry) (tenantId : String) : List TenantNode :=
  r.tenants.values.filter fun t => t.parentId = some tenantId

def getAncestors (r : TenantRegistry) (tenantId : String) : Except PyExc (List TenantNode) :=
  match r.tenants.get? tenantId with
  | none => .ok []
  | some current =>
    (Forests.climb r.tenants.get? TenantNode.parentId
      (.runtimeError ("Circular parent reference detected while resolving ancestors of '" ++
        tenantId ++ "'")) maxDepth current.parentId).map fun above =>
      (above.map Prod.snd).reverse

/-- The three checks of `register`. -/
def checkNew (r : TenantRegistry) (tenant : TenantNode) : Except PyExc Unit :=
  if (r.tenants.get? tenant.id).isSome then
    .error (.valueError ("Tenant '" ++ tenant.id ++ "' already exists"))
  else
    match tenant.parentId with
    | none => .ok ()
    | some parentId =>
      if (r.tenants.get? parentId).isNone then
        .error (.valueError ("Parent tenant '" ++ parentId ++ "' not found"))
      else (r.walkAncestorsUnsafe parentId).map fun _ => ()

def register (r : TenantRegistry) (tenant : TenantNode) :
    TenantRegistry × Except PyExc TenantNode :=
  match r.checkNew tenant with
  | .error e => (r, .error e)
  | .ok () => (⟨r.tenants.set tenant.id tenant⟩, .ok tenant)

def updateName (updates : Dict String PyVal) (tenant : TenantNode) :
    Except PyExc TenantNode :=
  match updates.get? "name" with
  | none => .ok tenant
  | some (.str name) => .ok { tenant with name }
  | some _ => .error (.typeError "name must be a str")

def updateOverrides (updates : Dict String PyVal) (tenant : TenantNode) :
    Except PyExc TenantNode :=
  match updates.get? "policy_overrides" with
  | none => .ok tenant
  | some (.dict entries) => .ok { tenant with policyOverrides := Dict.ofEntries entries }
  | some _ => .error (.typeError "policy_overrides must be a dict")

/-- The node is changed in place: a new name stays when the overrides are refused after it. -/
def update (r : TenantRegistry) (tenantId : String) (updates : Dict String PyVal) :
    TenantRegistry × Except PyExc TenantNode :=
  match r.tenants.get? tenantId with
  | none => (r, .error (.keyError ("Tenant '" ++ tenantId ++ "' not found")))
  | some tenant =>
    match updateName updates tenant with
    | .error e => (r, .error e)
    | .ok named =>
      match updateOverrides updates named with
      | .error e => (⟨r.tenants.set tenantId named⟩, .error e)
      | .ok updated => (⟨r.tenants.set tenantId updated⟩, .ok updated)

def delete (r : TenantRegistry) (tenantId : String) : TenantRegistry × Except PyExc Unit :=
  if (r.tenants.get? tenantId).isNone then
    (r, .error (.keyError ("Tenant '" ++ tenantId ++ "' not found")))
  else if (r.getChildren tenantId).isEmpty then (⟨r.tenants.erase tenantId⟩, .ok ())
  else
    (r, .error (.valueError ("Cannot delete tenant '" ++ tenantId ++ "': has " ++
      toString (r.getChildren tenantId).length ++ " child tenant(s)")))

end TenantRegistry

inductive Call where
  | register (tenant : TenantNode)
  | update (tenantId : String) (updates : Dict String PyVal)
  | delete (tenantId : String)

/-- What a call leaves behind, whether it returned or raised. -/
def act (r : TenantRegistry) : Call → TenantRegistry
  | .register tenant => (r.register tenant).1
  | .update tenantId updates => (r.update tenantId updates).1
  | .delete tenantId => (r.delete tenantId).1

/-- `j` is the parent of `k`. -/
def ParentOf (r : TenantRegistry) : String → String → Prop :=
  Forests.ParentOf r.tenants.get? TenantNode.parentId

/-- The nodes from a parent up to its root, nearest first. -/
def Path (r : TenantRegistry) : Option String → List (String × TenantNode) → Prop :=
  Forests.Path r.tenants.get? TenantNode.parentId

structure Inv (r : TenantRegistry) : Prop where
  keyed : ∀ k tenant, r.tenants.get? k = some tenant → tenant.id = k
  forest : Forests.Forest r.tenants.get? TenantNode.parentId maxDepth

/-- Everything a call can do to the tenants. -/
inductive Effect (r : TenantRegistry) : TenantRegistry → Prop where
  | unchanged : Effect r r
  | added (tenant : TenantNode) (absent : r.tenants.get? tenant.id = none)
      (admitted : r.checkNew tenant = .ok ()) : Effect r ⟨r.tenants.set tenant.id tenant⟩
  | changed (k : String) (before after : TenantNode) (found : r.tenants.get? k = some before)
      (sameId : after.id = before.id) (sameParent : after.parentId = before.parentId) :
      Effect r ⟨r.tenants.set k after⟩
  | removed (k : String) (childless : r.getChildren k = []) : Effect r ⟨r.tenants.erase k⟩

theorem updateName_ok {updates : Dict String PyVal} {tenant named : TenantNode}
    (ok : TenantRegistry.updateName updates tenant = .ok named) :
    named.id = tenant.id ∧ named.parentId = tenant.parentId := by
  unfold TenantRegistry.updateName at ok
  split at ok
  · cases ok
    exact ⟨rfl, rfl⟩
  · cases ok
    exact ⟨rfl, rfl⟩
  · cases ok

theorem updateOverrides_ok {updates : Dict String PyVal} {tenant updated : TenantNode}
    (ok : TenantRegistry.updateOverrides updates tenant = .ok updated) :
    updated.id = tenant.id ∧ updated.parentId = tenant.parentId := by
  unfold TenantRegistry.updateOverrides at ok
  split at ok
  · cases ok
    exact ⟨rfl, rfl⟩
  · cases ok
    exact ⟨rfl, rfl⟩
  · cases ok

theorem admitted_absent {r : TenantRegistry} {tenant : TenantNode}
    (admitted : r.checkNew tenant = .ok ()) : r.tenants.get? tenant.id = none := by
  unfold TenantRegistry.checkNew at admitted
  split at admitted
  · cases admitted
  · rename_i absent
    simpa using absent

theorem act_effect (r : TenantRegistry) (call : Call) : Effect r (act r call) := by
  cases call with
  | register tenant =>
    simp only [act, TenantRegistry.register]
    cases admitted : r.checkNew tenant with
    | error e => exact Effect.unchanged
    | ok u => exact Effect.added tenant (admitted_absent admitted) admitted
  | update tenantId updates =>
    simp only [act, TenantRegistry.update]
    cases found : r.tenants.get? tenantId with
    | none => exact Effect.unchanged
    | some tenant =>
      cases renamed : TenantRegistry.updateName updates tenant with
      | error e => simpa [renamed] using Effect.unchanged
      | ok named =>
        obtain ⟨sameId, sameParent⟩ := updateName_ok renamed
        cases overridden : TenantRegistry.updateOverrides updates named with
        | error e =>
          simpa [renamed, overridden] using
            Effect.changed tenantId tenant named found sameId sameParent
        | ok updated =>
          obtain ⟨sameId', sameParent'⟩ := updateOverrides_ok overridden
          simpa [renamed, overridden] using Effect.changed tenantId tenant updated found
            (sameId'.trans sameId) (sameParent'.trans sameParent)
  | delete tenantId =>
    simp only [act, TenantRegistry.delete]
    split
    · exact Effect.unchanged
    · split
      · rename_i childless
        exact Effect.removed tenantId (List.isEmpty_iff.mp childless)
      · exact Effect.unchanged

/-- The walk at registration leaves room for one more node below the path it followed. -/
theorem admitted_path {r : TenantRegistry} (inv : Inv r) {tenant : TenantNode}
    (admitted : r.checkNew tenant = .ok ()) :
    ∃ path, Path r tenant.parentId path ∧ path.length ≤ maxDepth := by
  unfold TenantRegistry.checkNew at admitted
  split at admitted
  · cases admitted
  · cases named : tenant.parentId with
    | none => exact ⟨[], Forests.Path.root, Nat.zero_le _⟩
    | some parentId =>
      simp only [named] at admitted
      split at admitted
      · cases admitted
      · rename_i known
        rw [Option.isNone_iff_eq_none, ← ne_eq, Option.ne_none_iff_exists'] at known
        obtain ⟨parent, found⟩ := known
        obtain ⟨above, complete, _⟩ := inv.forest parentId parent found
        have whole : Path r (some parentId) ((parentId, parent) :: above) :=
          Forests.Path.up found complete
        cases walked : r.walkAncestorsUnsafe parentId with
        | error e =>
          rw [walked] at admitted
          cases admitted
        | ok visited =>
          unfold TenantRegistry.walkAncestorsUnsafe at walked
          obtain ⟨climbed, ended, _⟩ := except_map_ok.mp walked
          exact ⟨_, whole, Forests.length_le_of_climb whole ended⟩

theorem inv_empty : Inv TenantRegistry.empty where
  keyed := fun k tenant found => by cases found
  forest := fun k tenant found => by cases found

theorem effect_inv {r r' : TenantRegistry} (inv : Inv r) (effect : Effect r r') : Inv r' := by
  cases effect with
  | unchanged => exact inv
  | added tenant absent admitted =>
    obtain ⟨path, complete, short⟩ := admitted_path inv admitted
    constructor
    case keyed => exact Dict.forall_set rfl inv.keyed
    case forest =>
      refine Forests.forest_insert inv.forest (k := tenant.id) ?_ ?_ complete short
      · intro j other found
        have ne : j ≠ tenant.id := by
          rintro rfl
          rw [absent] at found
          cases found
        exact (Dict.get?_set_of_ne tenant ne).trans found
      · intro j other found
        rw [Dict.get?_set] at found
        split at found
        · rename_i same
          cases found
          exact Or.inr ⟨same, rfl⟩
        · exact Or.inl found
  | changed k before after found sameId sameParent =>
    constructor
    case keyed => exact Dict.forall_set (sameId.trans (inv.keyed k before found)) inv.keyed
    case forest =>
      refine Forests.forest_relabel inv.forest ?_
      intro j
      show ((r.tenants.set k after).get? j).map _ = _
      rw [Dict.get?_set]
      split
      · rename_i same
        rw [same, found]
        exact congrArg some sameParent
      · rfl
  | removed k childless =>
    constructor
    case keyed => exact Dict.forall_erase k inv.keyed
    case forest =>
      refine Forests.forest_erase inv.forest (k := k) ?_ ?_ ?_
      · intro j tenant found up
        have child : tenant ∈ r.getChildren k := by
          refine List.mem_filter.mpr ⟨?_, by simpa using up⟩
          exact List.mem_map.mpr ⟨(j, tenant), Dict.get?_eq_some_iff.mp found, rfl⟩
        rw [childless] at child
        cases child
      · intro j tenant ne found
        exact (Dict.get?_erase r.tenants k j).trans ((if_neg ne).trans found)
      · intro j tenant found
        exact (Dict.get?_of_erase found).2

theorem act_inv {r : TenantRegistry} (inv : Inv r) (call : Call) : Inv (act r call) :=
  effect_inv inv (act_effect r call)

theorem run_inv (calls : List Call) : Inv (Runs.run act TenantRegistry.empty calls) := by
  have keep : ∀ r call, Inv r → True → Inv (act r call) := fun r call inv _ => act_inv inv call
  exact Runs.run_invariant keep inv_empty (Runs.eachStep_true _ calls)

theorem getAncestors_eq {r : TenantRegistry} (inv : Inv r) {k : String} {tenant : TenantNode}
    (found : r.tenants.get? k = some tenant) :
    ∃ path, Path r tenant.parentId path ∧ path.length ≤ maxDepth ∧
      r.getAncestors k = .ok (path.map Prod.snd).reverse := by
  obtain ⟨path, complete, short⟩ := inv.forest k tenant found
  refine ⟨path, complete, short, ?_⟩
  unfold TenantRegistry.getAncestors
  rw [found]
  dsimp only
  rw [Forests.climb_of_path complete short]
  rfl

theorem path_ids {r : TenantRegistry} (inv : Inv r) {start : Option String}
    {path : List (String × TenantNode)} (complete : Path r start path) :
    (path.map Prod.snd).map TenantNode.id = path.map Prod.fst := by
  rw [List.map_map]
  apply List.map_congr_left
  intro entry member
  exact inv.keyed entry.1 entry.2 (Forests.known_of_path complete member)

/-- What `get_ancestors` promises for one tenant: the nodes above it, root first. -/
structure AncestorPath (r : TenantRegistry) (tenant : TenantNode) (ancestors : List TenantNode) :
    Prop where
  linked : Path r tenant.parentId (ancestors.reverse.map fun node => (node.id, node))
  complete : ∀ j, j ∈ ancestors.map TenantNode.id ↔
    Relation.TransGen (ParentOf r) tenant.id j
  distinct : (ancestors.map TenantNode.id).Nodup
  short : ancestors.length ≤ maxDepth

structure BoundedForest (r : TenantRegistry) : Prop where
  registered : ∀ k tenant parentId, r.get k = some tenant → tenant.parentId = some parentId →
    ∃ parent, r.get parentId = some parent
  acyclic : ∀ k, ¬ Relation.TransGen (ParentOf r) k k
  ancestors : ∀ k tenant, r.get k = some tenant → tenant.id = k ∧
    ∃ ancestors, r.getAncestors k = .ok ancestors ∧ AncestorPath r tenant ancestors

theorem ancestorPath_of_path {r : TenantRegistry} (inv : Inv r) {k : String}
    {tenant : TenantNode} (found : r.tenants.get? k = some tenant)
    {path : List (String × TenantNode)} (complete : Path r tenant.parentId path)
    (short : path.length ≤ maxDepth) :
    AncestorPath r tenant (path.map Prod.snd).reverse := by
  have ids := path_ids inv complete
  have entries : (path.map Prod.snd).map (fun node => (node.id, node)) = path := by
    rw [List.map_map]
    conv_rhs => rw [← List.map_id path]
    apply List.map_congr_left
    intro entry member
    have known := inv.keyed entry.1 entry.2 (Forests.known_of_path complete member)
    exact Prod.ext known rfl
  constructor
  case linked =>
    rw [List.reverse_reverse, entries]
    exact complete
  case complete =>
    intro j
    rw [List.map_reverse, List.mem_reverse, ids, inv.keyed k tenant found]
    exact Forests.mem_path_iff found complete
  case distinct =>
    rw [List.map_reverse, List.nodup_reverse, ids]
    exact Forests.keys_nodup complete
  case short => simpa using short

theorem registry_is_bounded_forest (calls : List Call) :
    BoundedForest (Runs.run act TenantRegistry.empty calls) := by
  have inv := run_inv calls
  constructor
  case registered =>
    intro k tenant parentId found up
    exact Forests.parent_known inv.forest ⟨tenant, found, up⟩
  case acyclic => exact Forests.forest_acyclic inv.forest
  case ancestors =>
    intro k tenant found
    obtain ⟨path, complete, short, eq⟩ := getAncestors_eq inv found
    exact ⟨inv.keyed k tenant found, _, eq, ancestorPath_of_path inv found complete short⟩

section ThreeLevels

def plainNode (id : String) (parentId : Option String) : TenantNode where
  id
  name := id
  parentId
  policyOverrides := ∅
  createdAt := 1740000000

/-- A service is refused before its team is there, and the organisation keeps its team. -/
def threeLevels : List Call :=
  [.register (plainNode "org" none), .register (plainNode "service" (some "team")),
    .register (plainNode "team" (some "org")), .register (plainNode "service" (some "team")),
    .delete "org"]

theorem three_levels_form_forest :
    let r := Runs.run act TenantRegistry.empty threeLevels
    BoundedForest r ∧ (r.getAncestors "service").map (List.map TenantNode.id) =
      .ok ["org", "team"] :=
  ⟨registry_is_bounded_forest threeLevels, by decide +kernel⟩

end ThreeLevels

end VeronicaTenants
