import Veronica.Resolver

/- A child and its parent. A child's own override replaces the parent's value whether it is
   narrower or not; what the child does not set, it takes from the parent. -/
namespace VeronicaNarrowing
open VeronicaDistribution VeronicaPolicyUpdates VeronicaTenants VeronicaResolver

/-- The fields that bound spending and time; None is no bound. -/
def limits : List PolicyField := [.ceilingUsd, .ceilingSteps, .ceilingTokensOut, .timeoutMs]

def NotLooser (value parentValue : PyVal) : Prop :=
  parentValue = .none ∨ value = parentValue ∨
    ∃ x y, value.number? = some x ∧ parentValue.number? = some y ∧ x.le y = true

/-- No tenant's effective limit is looser than its parent's. -/
def NeverLooser (r : TenantRegistry) (basePolicy : PolicyConfig) : Prop :=
  ∀ tenantId tenant parentId policy parentPolicy, r.get tenantId = some tenant →
    tenant.parentId = some parentId → resolve r tenantId basePolicy = .ok policy →
      resolve r parentId basePolicy = .ok parentPolicy →
        ∀ field ∈ limits, NotLooser (field.get policy) (field.get parentPolicy)

/-- What a tenant sets itself, over its parent's effective policy. -/
structure ChildWins (tenant : TenantNode) (policy parentPolicy : PolicyConfig) : Prop where
  fields : ∀ field : PolicyField, field.get policy =
    (tenant.policyOverrides.get? field.name).getD (field.get parentPolicy)
  narrower_iff : ∀ field ∈ limits, NotLooser (field.get policy) (field.get parentPolicy) ↔
    ∀ own, tenant.policyOverrides.get? field.name = some own →
      NotLooser own (field.get parentPolicy)

theorem notLooser_refl (value : PyVal) : NotLooser value value := Or.inr (Or.inl rfl)

theorem notLooser_getD_iff (own : Option PyVal) (parentValue : PyVal) :
    NotLooser (own.getD parentValue) parentValue ↔
      ∀ value, own = some value → NotLooser value parentValue := by
  cases own with
  | none => simpa using notLooser_refl parentValue
  | some value => simp

/-- The chain of a child is its parent's chain with the child itself at the end. -/
theorem child_fields {r : TenantRegistry} (inv : Inv r) {tenantId parentId : String}
    {tenant : TenantNode} (found : r.get tenantId = some tenant)
    (up : tenant.parentId = some parentId) {basePolicy policy parentPolicy : PolicyConfig}
    (ok : resolve r tenantId basePolicy = .ok policy)
    (parentOk : resolve r parentId basePolicy = .ok parentPolicy) (field : PolicyField) :
    field.get policy =
      (tenant.policyOverrides.get? field.name).getD (field.get parentPolicy) := by
  obtain ⟨parent, foundParent⟩ := Forests.parent_known inv.forest ⟨tenant, found, up⟩
  obtain ⟨above, whole, applied⟩ := resolve_eq inv found basePolicy
  obtain ⟨aboveParent, wholeParent, appliedParent⟩ := resolve_eq inv foundParent basePolicy
  have same : above = (parentId, parent) :: aboveParent := by
    cases whole with
    | up _ rest =>
      rw [up] at rest
      exact Forests.path_unique rest wholeParent
  rw [applied] at ok
  rw [appliedParent] at parentOk
  have own := applyChain_fields ok field
  have inherited := applyChain_fields parentOk field
  rw [List.reverse_reverse] at own inherited
  rw [own, inherited, same]
  simp only [nearest, List.map_cons, List.findSome?_cons]
  cases tenant.policyOverrides.get? field.name <;> rfl

/-- After any calls on the registry, a tenant's effective value of a field is its own override or
    else its parent's effective value; a limit is then not looser than the parent's exactly when
    the tenant's own override of it is not. -/
theorem child_override_wins (calls : List Call) (basePolicy : PolicyConfig)
    (tenantId parentId : String) (tenant : TenantNode) (policy parentPolicy : PolicyConfig)
    (found : (Runs.run act TenantRegistry.empty calls).get tenantId = some tenant)
    (up : tenant.parentId = some parentId)
    (ok : resolve (Runs.run act TenantRegistry.empty calls) tenantId basePolicy = .ok policy)
    (parentOk : resolve (Runs.run act TenantRegistry.empty calls) parentId basePolicy =
      .ok parentPolicy) : ChildWins tenant policy parentPolicy := by
  have fields := child_fields (run_inv calls) found up ok parentOk
  constructor
  case fields => exact fields
  case narrower_iff =>
    intro field _
    rw [fields field]
    exact notLooser_getD_iff _ _

section OrgAndTeam

def orgBase : PolicyConfig where
  chainId := "team"
  ceilingUsd := .float (.finite 10)
  onExceed := .str "halt"
  issuedAt := .float (.finite 1740000000)

def cappedNode (id : String) (parentId : Option String) (ceilingUsd : ℚ) : TenantNode where
  id := id
  name := id
  parentId := parentId
  policyOverrides := (∅ : Dict String PyVal).set "ceiling_usd" (.float (.finite ceilingUsd))
  createdAt := 1740000000

def orgAndTeam (teamCeiling : ℚ) : List Call :=
  [.register (cappedNode "org" none 20), .register (cappedNode "team" (some "org") teamCeiling)]

theorem team_narrows : ChildWins (cappedNode "team" (some "org") 15)
    { orgBase with ceilingUsd := .float (.finite 15) }
    { orgBase with ceilingUsd := .float (.finite 20) } :=
  child_override_wins (orgAndTeam 15) orgBase "team" "org" _ _ _ rfl rfl rfl rfl

/-- A team may raise its organisation's ceiling of 20 to 30. -/
theorem team_widens :
    ¬ NeverLooser (Runs.run act TenantRegistry.empty (orgAndTeam 30)) orgBase := by
  intro never
  have limited := never "team" (cappedNode "team" (some "org") 30) "org"
    { orgBase with ceilingUsd := .float (.finite 30) }
    { orgBase with ceilingUsd := .float (.finite 20) } rfl rfl rfl rfl .ceilingUsd
    List.mem_cons_self
  rcases limited with none | same | ⟨x, y, eqX, eqY, le⟩
  · cases none
  · simp [PolicyField.get] at same
  · cases eqX
    cases eqY
    simp [PyFloat.le] at le
    norm_num at le

end OrgAndTeam

end VeronicaNarrowing
