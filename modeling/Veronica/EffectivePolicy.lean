import Veronica.Resolver
import Veronica.Validation

/- What the effective policy of a tenant is: for each field the nearest override. The resolver and
   the distributor check fields by different rules; a token ceiling too large for a float passes
   the first and makes the second raise. -/
namespace VeronicaEffectivePolicy
open VeronicaDistribution VeronicaPolicyUpdates VeronicaTenants VeronicaResolver
  VeronicaValidation

theorem passes_of_finite {value : PyVal} (finite : FiniteNonNegative value) :
    value.isfinite = .ok true ∧ value.isNegative = .ok false := by
  rcases finite with ⟨n, rfl, nonneg, below⟩ | ⟨q, rfl, nonneg⟩
  · have limit := PyVal.floatLimit_pos
    have above : -PyVal.floatLimit < n := by omega
    simp [PyVal.isfinite, below, above, PyVal.isNegative, nonneg]
  · simp [PyVal.isfinite, PyFloat.isfinite, PyVal.isNegative, nonneg]

/-- What the resolver lets through passes the distributor, token ceilings beyond floats apart. -/
theorem passes_of_allowed {field : PolicyField} {value : PyVal} (allowed : Allowed value field)
    (fits : field = .ceilingTokensOut → ∀ n : Int, value = .int n → n < PyVal.floatLimit) :
    Passes value field := by
  cases field with
  | ceilingUsd => exact passes_of_finite allowed
  | onExceed =>
    obtain ⟨s, member, rfl⟩ := allowed
    exact congrArg Except.ok (decide_eq_true member)
  | ceilingSteps =>
    rcases allowed with rfl | ⟨n, rfl, nonneg⟩
    · exact Or.inl rfl
    · exact Or.inr (congrArg Except.ok (decide_eq_false (not_lt.mpr nonneg)))
  | ceilingTokensOut =>
    rcases allowed with rfl | ⟨n, rfl, nonneg⟩
    · exact Or.inl rfl
    · exact Or.inr (passes_of_finite (Or.inl ⟨n, rfl, nonneg, fits rfl n rfl⟩))
  | timeoutMs =>
    rcases allowed with rfl | finite
    · exact Or.inl rfl
    · exact Or.inr (passes_of_finite finite)
  | priority =>
    obtain ⟨n, rfl, _⟩ := allowed
    rfl
  | issuedAt | fallbackModel | rateWindowSeconds | rateCeilingCalls | deadlineTs | expiresAt
  | plannerVersion => trivial

theorem fits_of_passes {n : Int} (passes : Passes (.int n) .ceilingTokensOut) :
    n < PyVal.floatLimit := by
  rcases passes with none | ⟨finite, _⟩
  · cases none
  · by_contra large
    simp [PyVal.isfinite, large] at finite

/-- What `resolve` does for a tenant whose own node and ancestors are `path`, nearest first. -/
structure NearestOverrides (r : TenantRegistry) (tenantId : String) (basePolicy : PolicyConfig)
    (path : List TenantNode) : Prop where
  fields : ∀ policy, resolve r tenantId basePolicy = .ok policy →
    nearest "chain_id" path = none ∧ policy.chainId = basePolicy.chainId ∧
      ∀ field : PolicyField, field.get policy =
        (nearest field.name path).getD (field.get basePolicy)
  raises : (∃ e, resolve r tenantId basePolicy = .error e) ↔
    ∃ node ∈ path, ∃ key value, node.policyOverrides.get? key = some value ∧
      key ∈ policyFields ∧ ∃ e, validateOverrideValue key value = .error e
  validated : ∀ d : PolicyDistributor, d.strict = false → d.Accepts basePolicy →
    ∀ policy, resolve r tenantId basePolicy = .ok policy → d.Accepts policy

/-- The nearest token ceiling set on the path is one a float can hold, unless the base policy or
    an override is rejected anyway. -/
def TokenCeilingFits (basePolicy : PolicyConfig) (path : List TenantNode) : Prop :=
  (∃ d : PolicyDistributor, d.strict = false ∧ d.Accepts basePolicy) →
    (∀ node ∈ path, Sound node) →
      ∀ n : Int, nearest "ceiling_tokens_out" path = some (.int n) → n < PyVal.floatLimit

theorem unsound_iff {node : TenantNode} : ¬ Sound node ↔
    ∃ key value, node.policyOverrides.get? key = some value ∧ key ∈ policyFields ∧
      ∃ e, validateOverrideValue key value = .error e := by
  constructor
  · intro unsound
    unfold Sound at unsound
    push Not at unsound
    obtain ⟨key, value, found, known, rejected⟩ := unsound
    refine ⟨key, value, found, known, ?_⟩
    cases checked : validateOverrideValue key value with
    | error e => exact ⟨e, rfl⟩
    | ok u => exact absurd checked rejected
  · intro bad sound
    obtain ⟨key, value, found, known, e, failed⟩ := bad
    have checked : validateOverrideValue key value = .ok () := sound key value found known
    rw [failed] at checked
    cases checked

theorem nearest_sound {path : List TenantNode} (sound : ∀ node ∈ path, Sound node)
    {key : String} (known : key ∈ policyFields) {value : PyVal}
    (found : nearest key path = some value) : Accepts key value := by
  obtain ⟨node, member, setHere⟩ := List.exists_of_findSome?_eq_some found
  exact sound node member key value setHere known

theorem nearest_chain_id {path : List TenantNode} (sound : ∀ node ∈ path, Sound node) :
    nearest "chain_id" path = none := by
  cases found : nearest "chain_id" path with
  | none => rfl
  | some value =>
    exact absurd (nearest_sound sound List.mem_cons_self found) (chain_id_rejected value)

section Path
variable {r : TenantRegistry} {tenantId : String} {basePolicy : PolicyConfig}
  {path : List TenantNode}
  (applied : resolve r tenantId basePolicy = applyChain basePolicy path.reverse)
include applied

/-- The chain of a tenant is applied from the root; its path is read from the tenant up. -/
theorem resolve_sound (sound : ∀ node ∈ path, Sound node) : ∃ policy,
    resolve r tenantId basePolicy = .ok policy ∧ policy.chainId = basePolicy.chainId ∧
      ∀ field : PolicyField, field.get policy =
        (nearest field.name path).getD (field.get basePolicy) := by
  have soundChain : ∀ node ∈ path.reverse, Sound node :=
    fun node member => sound node (List.mem_reverse.mp member)
  obtain ⟨policy, ok, chain, fields⟩ := applyChain_ok soundChain basePolicy
  rw [List.reverse_reverse] at fields
  exact ⟨policy, applied.trans ok, chain, fields⟩

theorem resolve_error_iff :
    (∃ e, resolve r tenantId basePolicy = .error e) ↔ ∃ node ∈ path, ¬ Sound node := by
  rw [applied, applyChain_error_iff]
  simp only [List.mem_reverse]

theorem sound_of_resolved {policy : PolicyConfig}
    (ok : resolve r tenantId basePolicy = .ok policy) : ∀ node ∈ path, Sound node := by
  intro node member
  by_contra unsound
  obtain ⟨e, raised⟩ := (resolve_error_iff applied).mpr ⟨node, member, unsound⟩
  rw [ok] at raised
  cases raised

theorem resolved_fields {policy : PolicyConfig}
    (ok : resolve r tenantId basePolicy = .ok policy) : policy.chainId = basePolicy.chainId ∧
      ∀ field : PolicyField, field.get policy =
        (nearest field.name path).getD (field.get basePolicy) := by
  obtain ⟨policy', ok', chain, fields⟩ := resolve_sound applied (sound_of_resolved applied ok)
  rw [ok] at ok'
  cases ok'
  exact ⟨chain, fields⟩

/-- Where the token ceiling fits a float, every field passes: it is the base policy's, or an
    override the resolver has checked. -/
theorem resolved_accepted (fits : TokenCeilingFits basePolicy path) {d : PolicyDistributor}
    (lenient : d.strict = false) (accepted : d.Accepts basePolicy) {policy : PolicyConfig}
    (ok : resolve r tenantId basePolicy = .ok policy) : d.Accepts policy := by
  have sound := sound_of_resolved applied ok
  rw [accepts_iff_passes lenient]
  intro field
  rw [(resolved_fields applied ok).2 field]
  cases found : nearest field.name path with
  | none => exact (accepts_iff_passes lenient basePolicy).mp accepted field
  | some value =>
    have allowed := (accepts_iff_allowed field value).mp
      (nearest_sound sound (name_mem_policyFields field) found)
    apply passes_of_allowed allowed
    intro tokens n isInt
    rw [tokens, isInt] at found
    exact fits ⟨d, lenient, accepted⟩ sound n found

theorem nearestOverrides_iff :
    NearestOverrides r tenantId basePolicy path ↔ TokenCeilingFits basePolicy path := by
  constructor
  · intro claimed accepted sound n found
    obtain ⟨d, lenient, acceptsBase⟩ := accepted
    obtain ⟨policy, ok, _, fields⟩ := resolve_sound applied sound
    have passes := (accepts_iff_passes lenient policy).mp
      (claimed.validated d lenient acceptsBase policy ok) .ceilingTokensOut
    rw [fields .ceilingTokensOut, PolicyField.name, found] at passes
    exact fits_of_passes passes
  · intro fits
    constructor
    case fields =>
      intro policy ok
      exact ⟨nearest_chain_id (sound_of_resolved applied ok), resolved_fields applied ok⟩
    case raises =>
      rw [resolve_error_iff applied]
      simp only [unsound_iff]
    case validated =>
      intro d lenient accepted policy ok
      exact resolved_accepted applied fits lenient accepted ok

end Path

/-- After any calls on the registry, a tenant's effective policy is the nearest override of each
    field, refused exactly for a refused override on its path, and still valid exactly when the
    token ceiling it takes from the path fits a float. -/
theorem effective_policy_iff (calls : List Call) (tenantId : String) (tenant : TenantNode)
    (found : (Runs.run act TenantRegistry.empty calls).get tenantId = some tenant)
    (basePolicy : PolicyConfig) :
    ∃ above, Path (Runs.run act TenantRegistry.empty calls) (some tenantId)
        ((tenantId, tenant) :: above) ∧
      (NearestOverrides (Runs.run act TenantRegistry.empty calls) tenantId basePolicy
          (tenant :: above.map Prod.snd) ↔
        TokenCeilingFits basePolicy (tenant :: above.map Prod.snd)) := by
  obtain ⟨above, complete, applied⟩ := resolve_eq (run_inv calls) found basePolicy
  exact ⟨above, complete, nearestOverrides_iff applied⟩

section OrgAndTeam

def defaultBase : PolicyConfig where
  chainId := "team"
  ceilingUsd := .float (.finite 10)
  onExceed := .str "halt"
  issuedAt := .float (.finite 1740000000)

def orgNode (tokens : Int) : TenantNode where
  id := "org"
  name := "Org"
  parentId := none
  policyOverrides := (∅ : Dict String PyVal).set "ceiling_tokens_out" (.int tokens)
  createdAt := 1740000000

def teamNode : TenantNode where
  id := "team"
  name := "Team"
  parentId := some "org"
  policyOverrides := (∅ : Dict String PyVal).set "ceiling_steps" (.int 50)
  createdAt := 1740000000

/-- The team sets its own step ceiling and takes the token ceiling of the organisation. -/
def orgAndTeam : List Call := [.register (orgNode 4096), .register teamNode]

theorem team_effective_policy : ∃ above,
    Path (Runs.run act TenantRegistry.empty orgAndTeam) (some "team")
        (("team", teamNode) :: above) ∧
      (NearestOverrides (Runs.run act TenantRegistry.empty orgAndTeam) "team" defaultBase
          (teamNode :: above.map Prod.snd) ↔
        TokenCeilingFits defaultBase (teamNode :: above.map Prod.snd)) :=
  effective_policy_iff orgAndTeam "team" teamNode rfl defaultBase

theorem orgNode_sound {tokens : Int} (nonneg : 0 ≤ tokens) : Sound (orgNode tokens) := by
  intro key value found known
  rw [orgNode, Dict.get?_set] at found
  split at found
  · rename_i same
    cases found
    rw [same]
    exact (accepts_iff_allowed .ceilingTokensOut (.int tokens)).mpr (Or.inr ⟨tokens, rfl, nonneg⟩)
  · cases found

/-- A tenant may cap its tokens at the least int no float holds; its effective policy then fails
    the validation its base passes. -/
theorem huge_token_ceiling_fails_validation :
    ¬ NearestOverrides (Runs.run act TenantRegistry.empty [.register (orgNode PyVal.floatLimit)])
      "org" defaultBase [orgNode PyVal.floatLimit] := by
  have applied : ∀ tokens : Int,
      resolve (Runs.run act TenantRegistry.empty [.register (orgNode tokens)]) "org" defaultBase =
        applyChain defaultBase [orgNode tokens].reverse := fun tokens => rfl
  have set : ∀ tokens : Int, nearest "ceiling_tokens_out" [orgNode tokens] = some (.int tokens) :=
    fun tokens => rfl
  rw [nearestOverrides_iff (applied _)]
  intro fits
  have below := fits ⟨lenient, rfl, rfl⟩
    (by simpa using orgNode_sound PyVal.floatLimit_pos.le) PyVal.floatLimit (set _)
  exact lt_irrefl _ below

end OrgAndTeam

end VeronicaEffectivePolicy
