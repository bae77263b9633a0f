import Veronica.EffectivePolicy
import Veronica.Library.Checks
import Veronica.Library.Doubles
import Veronica.Library.Patterns

/- The tenant endpoints: what each request does to the registry, and with which status it is
   answered. Bodies have the types their models declare. Of a float in place of an int the
   framework decides which it takes. -/
namespace VeronicaTenantApi
open VeronicaDistribution VeronicaPolicyUpdates VeronicaTenants VeronicaResolver
  VeronicaEffectivePolicy

def isTenantChar (c : Char) : Bool := c.isAlphanum || c = '_' || c = '-'

/-- The pattern and the lengths declared for a tenant id. -/
def SafeTenantId (id : String) : Prop := Patterns.OfClass isTenantChar 1 128 id.toList

instance (id : String) : Decidable (SafeTenantId id) :=
  inferInstanceAs (Decidable (Patterns.OfClass ..))

def NameLength (name : String) : Prop := 1 ≤ name.length ∧ name.length ≤ 256

instance (name : String) : Decidable (NameLength name) := inferInstanceAs (Decidable (_ ∧ _))

def knownOverrideKeys : List String :=
  ["ceiling_usd", "on_exceed", "ceiling_tokens_out", "ceiling_steps", "fallback_model",
    "timeout_ms", "rate_window_seconds", "rate_ceiling_calls", "priority", "deadline_ts",
    "expires_at", "planner_version"]

def maxOverrideKeyLen : Nat := 128

structure TenantCreateRequest where
  id : String
  name : String
  parentId : Option String := none
  policyOverrides : Dict String PyVal := ∅

structure TenantUpdateRequest where
  name : Option String := none
  policyOverrides : Option (Dict String PyVal) := none

def TenantCreateRequest.Valid (body : TenantCreateRequest) : Prop :=
  SafeTenantId body.id ∧ NameLength body.name ∧ ∀ parentId ∈ body.parentId, SafeTenantId parentId

instance (body : TenantCreateRequest) : Decidable body.Valid :=
  inferInstanceAs (Decidable (_ ∧ _ ∧ _))

def TenantUpdateRequest.Valid (body : TenantUpdateRequest) : Prop :=
  ∀ name ∈ body.name, NameLength name

instance (body : TenantUpdateRequest) : Decidable body.Valid :=
  inferInstanceAs (Decidable (∀ name ∈ body.name, NameLength name))

/-- Times are those the handler reads from the clock. -/
inductive Request where
  | list
  | read (tenantId : String)
  | create (body : TenantCreateRequest) (now : ℚ)
  | update (tenantId : String) (body : TenantUpdateRequest)
  | delete (tenantId : String)
  | effectivePolicy (tenantId : String) (now : ℚ)

structure EffectivePolicyResponse where
  tenantId : String
  policy : PolicyConfig

/-- `unprocessable` is the framework's answer to a path or body that is not as declared, `crashed`
    its answer to an exception nobody caught. -/
inductive Reply where
  | tenants (nodes : List TenantNode)
  | tenant (status : Nat) (node : TenantNode)
  | deleted
  | policy (response : EffectivePolicyResponse)
  | unprocessable
  | refused (status : Nat) (detail : String)
  | crashed

def Reply.status : Reply → Nat
  | .tenants _ | .policy _ => 200
  | .tenant status _ => status
  | .deleted => 204
  | .unprocessable => 422
  | .refused status _ => status
  | .crashed => 500

/-- The detail of the 422 that `_validate_overrides` raises. -/
def validateOverrides (overrides : Dict String PyVal) : Except String Unit :=
  let unknown := overrides.keys.filter fun key => key ∉ knownOverrideKeys
  if 20 < overrides.size then .error "policy_overrides limited to 20 keys"
  else if overrides.keys.any fun key => decide (maxOverrideKeyLen < key.length) then
    .error ("policy_overrides key too long (max " ++ toString maxOverrideKeyLen ++ " chars)")
  else if unknown ≠ [] then
    .error ("Unknown policy_overrides keys: " ++ toString unknown.length ++
      " unrecognized key(s)")
  else .ok ()

section Responses
variable (floatAsInt : ℚ → Option Int)

inductive FieldType where
  | number
  | text
  | integer
  | optional (type : FieldType)

/-- The types that EffectivePolicyResponse declares. -/
def responseType : PolicyField → FieldType
  | .ceilingUsd | .issuedAt => .number
  | .onExceed => .text
  | .priority => .integer
  | .ceilingTokensOut | .ceilingSteps | .timeoutMs | .rateCeilingCalls => .optional .integer
  | .fallbackModel | .plannerVersion => .optional .text
  | .rateWindowSeconds | .deadlineTs | .expiresAt => .optional .number

/-- A value taken for a field of the type. Of the values that are not of it the resolver lets only
    numbers of the other kind through. -/
def readAs : FieldType → PyVal → Option PyVal
  | .number, .int n => some (.float (.finite (Doubles.nearest n)))
  | .number, .float x => some (.float x)
  | .text, .str s => some (.str s)
  | .integer, .int n => some (.int n)
  | .integer, .float (.finite q) => (floatAsInt q).map .int
  | .optional _, .none => some .none
  | .optional type, value => readAs type value
  | _, _ => none

def policyToResponse (tenantId : String) (policy : PolicyConfig) :
    Option EffectivePolicyResponse :=
  let read (field : PolicyField) := readAs floatAsInt (responseType field) (field.get policy)
  let value (field : PolicyField) := (read field).getD .none
  if PolicyField.all.all fun field => (read field).isSome then
    some { tenantId, policy := {
      chainId := policy.chainId
      ceilingUsd := value .ceilingUsd
      onExceed := value .onExceed
      issuedAt := value .issuedAt
      ceilingTokensOut := value .ceilingTokensOut
      ceilingSteps := value .ceilingSteps
      fallbackModel := value .fallbackModel
      timeoutMs := value .timeoutMs
      rateWindowSeconds := value .rateWindowSeconds
      rateCeilingCalls := value .rateCeilingCalls
      priority := value .priority
      deadlineTs := value .deadlineTs
      expiresAt := value .expiresAt
      plannerVersion := value .plannerVersion } }
  else none

end Responses

def basePolicy (tenantId : String) (now : ℚ) : PolicyConfig where
  chainId := tenantId
  ceilingUsd := .float (.finite 10)
  onExceed := .str "halt"
  issuedAt := .float (.finite now)

def notFound (tenantId : String) : Reply := .refused 404 ("Tenant '" ++ tenantId ++ "' not found")

def createTenant (r : TenantRegistry) (body : TenantCreateRequest) (now : ℚ) :
    TenantRegistry × Reply :=
  match validateOverrides body.policyOverrides with
  | .error detail => (r, .refused 422 detail)
  | .ok () =>
    let node : TenantNode := { body with createdAt := now }
    match r.register node with
    | (after, .ok _) => (after, .tenant 201 node)
    | (after, .error (.valueError _)) => (after, .refused 422 "Tenant registration failed")
    | (after, .error _) => (after, .crashed)

/-- The fields of the body that are not None. -/
def updatesOf (body : TenantUpdateRequest) : Dict String PyVal :=
  let updates : Dict String PyVal :=
    body.name.elim ∅ fun name => (∅ : Dict String PyVal).set "name" (.str name)
  body.policyOverrides.elim updates fun overrides =>
    updates.set "policy_overrides" (.dict overrides.entries)

def updateTenant (r : TenantRegistry) (tenantId : String) (body : TenantUpdateRequest) :
    TenantRegistry × Reply :=
  match (body.policyOverrides.map validateOverrides).getD (.ok ()) with
  | .error detail => (r, .refused 422 detail)
  | .ok () =>
    match r.update tenantId (updatesOf body) with
    | (after, .ok node) => (after, .tenant 200 node)
    | (after, .error (.keyError _)) => (after, notFound tenantId)
    | (after, .error _) => (after, .crashed)

def deleteTenant (r : TenantRegistry) (tenantId : String) : TenantRegistry × Reply :=
  match r.delete tenantId with
  | (after, .ok ()) => (after, .deleted)
  | (after, .error (.keyError _)) => (after, notFound tenantId)
  | (after, .error (.valueError _)) => (after, .refused 409 "Tenant deletion conflict")
  | (after, .error _) => (after, .crashed)

def getEffectivePolicy (floatAsInt : ℚ → Option Int) (r : TenantRegistry) (tenantId : String)
    (now : ℚ) : Reply :=
  match r.get tenantId with
  | none => notFound tenantId
  | some _ =>
    match resolve r tenantId (basePolicy tenantId now) with
    | .error (.valueError _) | .error (.typeError _) => .refused 422 "Policy resolution failed"
    | .error _ => .crashed
    | .ok effective => (policyToResponse floatAsInt tenantId effective).elim .crashed .policy

/-- Path and body are checked before the handler is called. -/
def handle (floatAsInt : ℚ → Option Int) (r : TenantRegistry) : Request → TenantRegistry × Reply
  | .list => (r, .tenants r.tenants.values)
  | .read tenantId =>
    if SafeTenantId tenantId then (r, (r.get tenantId).elim (notFound tenantId) (.tenant 200))
    else (r, .unprocessable)
  | .create body now => if body.Valid then createTenant r body now else (r, .unprocessable)
  | .update tenantId body =>
    if SafeTenantId tenantId ∧ body.Valid then updateTenant r tenantId body
    else (r, .unprocessable)
  | .delete tenantId =>
    if SafeTenantId tenantId then deleteTenant r tenantId else (r, .unprocessable)
  | .effectivePolicy tenantId now =>
    if SafeTenantId tenantId then (r, getEffectivePolicy floatAsInt r tenantId now)
    else (r, .unprocessable)

section Registering
variable {r : TenantRegistry}

/-- How many tenants are above a registered one. -/
def depthOf (r : TenantRegistry) (tenantId : String) : Nat :=
  ((r.getAncestors tenantId).toOption.map List.length).getD 0

theorem depthOf_le (inv : Inv r) {k : String} {tenant : TenantNode}
    (found : r.get k = some tenant) : ∃ path, Path r (some k) path ∧
      path.length = depthOf r k + 1 ∧ depthOf r k ≤ maxDepth := by
  obtain ⟨path, complete, short, eq⟩ := getAncestors_eq inv found
  have depth : depthOf r k = path.length := by
    rw [depthOf, eq]
    simp [Except.toOption]
  exact ⟨_, .up found complete, by rw [List.length_cons, depth], depth ▸ short⟩

/-- The parent has no room for one more tenant below it. -/
def NoRoom (r : TenantRegistry) (parentId : Option String) : Prop :=
  ∃ k ∈ parentId, (r.get k).isSome ∧ depthOf r k = maxDepth

/-- Registration fails with a ValueError, apart from the one below a tenant that is as deep as the
    walk goes. -/
theorem register_cases (inv : Inv r) (tenant : TenantNode) :
    ((∃ message, r.register tenant = (r, .error (.valueError message))) ∧
      ((r.get tenant.id).isSome ∨ ∃ k ∈ tenant.parentId, r.get k = none)) ∨
    ((∃ message, r.register tenant = (r, .error (.runtimeError message))) ∧
      r.get tenant.id = none ∧ NoRoom r tenant.parentId) ∨
    (r.register tenant = (⟨r.tenants.set tenant.id tenant⟩, .ok tenant) ∧
      r.get tenant.id = none ∧ (∀ k ∈ tenant.parentId, (r.get k).isSome) ∧
      ¬ NoRoom r tenant.parentId) := by
  by_cases taken : (r.tenants.get? tenant.id).isSome
  · refine .inl ⟨⟨"Tenant '" ++ tenant.id ++ "' already exists", ?_⟩, .inl taken⟩
    simp only [TenantRegistry.register, TenantRegistry.checkNew, taken, if_true]
  have fresh : r.get tenant.id = none := by simpa [TenantRegistry.get] using taken
  cases named : tenant.parentId with
  | none =>
    refine .inr (.inr ⟨?_, fresh, by simp, by simp [NoRoom]⟩)
    simp only [TenantRegistry.register, TenantRegistry.checkNew, taken, named]
    rfl
  | some parentId =>
    cases found : r.tenants.get? parentId with
    | none =>
      refine .inl ⟨⟨"Parent tenant '" ++ parentId ++ "' not found", ?_⟩,
        .inr ⟨parentId, rfl, found⟩⟩
      simp only [TenantRegistry.register, TenantRegistry.checkNew, taken, named, found]
      rfl
    | some parent =>
      obtain ⟨path, complete, length, short⟩ := depthOf_le inv found
      have known : (r.get parentId).isSome := Option.isSome_iff_exists.mpr ⟨parent, found⟩
      have checked : r.checkNew tenant = (r.walkAncestorsUnsafe parentId).map fun _ => () := by
        simp only [TenantRegistry.checkNew, taken, named, found]
        rfl
      by_cases full : depthOf r parentId = maxDepth
      · have long : maxDepth < path.length := by omega
        refine .inr (.inl ⟨⟨"Circular parent reference detected while walking ancestors of '" ++
          parentId ++ "'", ?_⟩, fresh, parentId, rfl, known, full⟩)
        rw [TenantRegistry.register, checked, TenantRegistry.walkAncestorsUnsafe,
          Forests.climb_too_deep complete long]
        rfl
      · have fits : path.length ≤ maxDepth := by omega
        have walked : r.walkAncestorsUnsafe parentId = .ok (path.map Prod.fst) := by
          rw [TenantRegistry.walkAncestorsUnsafe, Forests.climb_of_path complete fits]
          rfl
        refine .inr (.inr ⟨?_, fresh, ?_, ?_⟩)
        · rw [TenantRegistry.register, checked, walked]
          rfl
        · rintro k same
          cases same
          exact known
        · rintro ⟨k, same, _, deep⟩
          cases same
          exact full deep

/-- The node after an update of the endpoint's types. -/
def changed (tenant : TenantNode) (body : TenantUpdateRequest) : TenantNode :=
  { tenant with
    name := body.name.getD tenant.name
    policyOverrides := body.policyOverrides.getD tenant.policyOverrides }

theorem updatesOf_name (body : TenantUpdateRequest) :
    (updatesOf body).get? "name" = body.name.map .str := by
  have ne : "name" ≠ "policy_overrides" := by decide
  rcases body with ⟨_ | name, _ | overrides⟩ <;>
    simp [updatesOf, Dict.get?_set_of_ne _ ne]

theorem updatesOf_overrides (body : TenantUpdateRequest) :
    (updatesOf body).get? "policy_overrides" =
      body.policyOverrides.map fun overrides => .dict overrides.entries := by
  have ne : "policy_overrides" ≠ "name" := by decide
  rcases body with ⟨_ | name, _ | overrides⟩ <;>
    simp [updatesOf, Dict.get?_set_of_ne _ ne]

theorem update_typed {tenantId : String} (body : TenantUpdateRequest) {tenant : TenantNode}
    (found : r.get tenantId = some tenant) :
    r.update tenantId (updatesOf body) =
      (⟨r.tenants.set tenantId (changed tenant body)⟩, .ok (changed tenant body)) := by
  have renamed : TenantRegistry.updateName (updatesOf body) tenant =
      .ok { tenant with name := body.name.getD tenant.name } := by
    rw [TenantRegistry.updateName, updatesOf_name]
    cases body.name <;> rfl
  have overridden : TenantRegistry.updateOverrides (updatesOf body)
      { tenant with name := body.name.getD tenant.name } = .ok (changed tenant body) := by
    rw [TenantRegistry.updateOverrides, updatesOf_overrides, changed]
    cases given : body.policyOverrides with
    | none => rfl
    | some overrides =>
      have same : Dict.ofEntries overrides.entries = overrides :=
        Dict.ext_entries (Dict.ofEntries_entries overrides.distinct)
      simp only [Option.map_some, same, Option.getD_some]
  have found : r.tenants.get? tenantId = some tenant := found
  simp only [TenantRegistry.update, found, renamed, overridden]

end Registering

section Keeping
variable {r : TenantRegistry}

/-- What the endpoints keep of a registry. -/
structure Kept (r : TenantRegistry) : Prop where
  inv : Inv r
  safe : ∀ k tenant, r.get k = some tenant → SafeTenantId k ∧ NameLength tenant.name
  overrides : ∀ k tenant, r.get k = some tenant →
    ∀ key ∈ tenant.policyOverrides.keys, key ∈ knownOverrideKeys

theorem validateOverrides_ok {overrides : Dict String PyVal}
    (fine : validateOverrides overrides = .ok ()) :
    ∀ key ∈ overrides.keys, key ∈ knownOverrideKeys := by
  rw [validateOverrides] at fine
  split at fine
  · cases fine
  split at fine
  · cases fine
  split at fine
  · cases fine
  · rename_i none_unknown
    intro key member
    by_contra unknown
    have listed : key ∈ overrides.keys.filter fun key => key ∉ knownOverrideKeys :=
      List.mem_filter.mpr ⟨member, by simpa using unknown⟩
    rw [not_not.mp none_unknown] at listed
    cases listed

theorem kept_empty : Kept .empty where
  inv := inv_empty
  safe _ _ found := by cases found
  overrides _ _ found := by cases found

theorem kept_set (kept : Kept r) {k : String} {tenant : TenantNode}
    (inv : Inv ⟨r.tenants.set k tenant⟩) (safe : SafeTenantId k) (name : NameLength tenant.name)
    (known : ∀ key ∈ tenant.policyOverrides.keys, key ∈ knownOverrideKeys) :
    Kept ⟨r.tenants.set k tenant⟩ where
  inv := inv
  safe := Dict.forall_set ⟨safe, name⟩ kept.safe
  overrides := Dict.forall_set known kept.overrides

/-- The answers of `create_tenant`. -/
theorem createTenant_cases (kept : Kept r) {body : TenantCreateRequest} (valid : body.Valid)
    (now : ℚ) :
    (∃ detail, ¬ (validateOverrides body.policyOverrides = .ok () ∧ r.get body.id = none ∧
        NoRoom r body.parentId) ∧ createTenant r body now = (r, .refused 422 detail)) ∨
    (createTenant r body now = (r, .crashed) ∧ validateOverrides body.policyOverrides = .ok () ∧
      r.get body.id = none ∧ NoRoom r body.parentId) ∨
    (∃ node after, createTenant r body now = (after, .tenant 201 node) ∧ Kept after ∧
      ¬ NoRoom r body.parentId) := by
  cases checked : validateOverrides body.policyOverrides with
  | error detail =>
    refine .inl ⟨detail, (fun crash => by cases crash.1), ?_⟩
    simp only [createTenant, checked]
  | ok u =>
    let node : TenantNode := { body with createdAt := now }
    rcases register_cases kept.inv node with
      ⟨⟨message, eq⟩, bad⟩ | ⟨⟨message, eq⟩, fresh, full⟩ | ⟨eq, _, _, room⟩
    · refine .inl ⟨"Tenant registration failed", ?_, ?_⟩
      · rintro ⟨_, fresh, k, named, known, _⟩
        rcases bad with taken | ⟨j, same, missing⟩
        · rw [fresh] at taken
          cases taken
        · cases Option.some.inj (Option.mem_def.mp same |>.symm.trans named)
          rw [missing] at known
          cases known
      simp only [createTenant, checked, node] at eq ⊢
      rw [eq]
    · refine .inr (.inl ⟨?_, rfl, fresh, full⟩)
      simp only [createTenant, checked, node] at eq ⊢
      rw [eq]
    · have after := act_inv kept.inv (.register node)
      rw [VeronicaTenants.act, eq] at after
      refine .inr (.inr ⟨node, _, ?_, kept_set kept after valid.1 valid.2.1
        (validateOverrides_ok checked), room⟩)
      simp only [createTenant, checked, node] at eq ⊢
      rw [eq]

theorem updateTenant_cases (kept : Kept r) {tenantId : String} {body : TenantUpdateRequest}
    (safe : SafeTenantId tenantId) (valid : body.Valid) :
    (∃ status detail, 400 ≤ status ∧ updateTenant r tenantId body = (r, .refused status detail)) ∨
    ∃ node after, updateTenant r tenantId body = (after, .tenant 200 node) ∧ Kept after := by
  cases checked : (body.policyOverrides.map validateOverrides).getD (.ok ()) with
  | error detail =>
    refine .inl ⟨422, detail, by norm_num, ?_⟩
    simp only [updateTenant, checked]
  | ok u =>
    cases found : r.get tenantId with
    | none =>
      have missing : r.tenants.get? tenantId = none := found
      refine .inl ⟨404, "Tenant '" ++ tenantId ++ "' not found", by norm_num, ?_⟩
      simp only [updateTenant, checked, TenantRegistry.update, missing]
      rfl
    | some tenant =>
      have eq := update_typed body found
      have after := act_inv kept.inv (.update tenantId (updatesOf body))
      rw [VeronicaTenants.act, eq] at after
      refine .inr ⟨changed tenant body, _, ?_, kept_set kept after safe ?_ ?_⟩
      · simp only [updateTenant, checked, eq]
      · rw [changed]
        cases given : body.name with
        | none => exact (kept.safe tenantId tenant found).2
        | some name => exact valid name given
      · rw [changed]
        cases given : body.policyOverrides with
        | none => exact kept.overrides tenantId tenant found
        | some overrides =>
          rw [given] at checked
          exact validateOverrides_ok checked

theorem deleteTenant_cases (kept : Kept r) (tenantId : String) :
    (∃ status detail, 400 ≤ status ∧ deleteTenant r tenantId = (r, .refused status detail)) ∨
    ∃ after, deleteTenant r tenantId = (after, .deleted) ∧ Kept after := by
  by_cases missing : (r.tenants.get? tenantId).isNone
  · refine .inl ⟨404, "Tenant '" ++ tenantId ++ "' not found", by norm_num, ?_⟩
    simp only [deleteTenant, TenantRegistry.delete, missing, if_true]
    rfl
  · by_cases childless : (r.getChildren tenantId).isEmpty
    · have eq : r.delete tenantId = (⟨r.tenants.erase tenantId⟩, .ok ()) := by
        simp only [TenantRegistry.delete, missing, childless]
        rfl
      have after := act_inv kept.inv (.delete tenantId)
      rw [VeronicaTenants.act, eq] at after
      refine .inr ⟨_, ?_, after, Dict.forall_erase tenantId kept.safe,
        Dict.forall_erase tenantId kept.overrides⟩
      simp only [deleteTenant, eq]
    · refine .inl ⟨409, "Tenant deletion conflict", by norm_num, ?_⟩
      simp only [deleteTenant, TenantRegistry.delete, missing, childless]
      rfl

end Keeping

end VeronicaTenantApi
