import Veronica.Tenants
import Veronica.Library.Atomic

/- What a call of the tenant registry that raises leaves behind. The overrides of a call may hold
   any objects. `copy.deepcopy` raises on some of them, and may do so the second time only, as it
   runs code of the objects. -/
namespace VeronicaTenantAtomicity
open VeronicaTenants TenantRegistry Atomic

-- `deepcopy n` is what the copy of overrides gives after n others in the same call
variable (deepcopy : Nat → Dict String PyVal → Except PyExc (Dict String PyVal))

/-- `deepcopy(tenant)` -/
def copyOf (n : Nat) (tenant : TenantNode) : Except PyExc TenantNode :=
  (deepcopy n tenant.policyOverrides).map fun policyOverrides => { tenant with policyOverrides }

/-- What is returned is a second copy. -/
def registerCopy (r : TenantRegistry) (tenant : TenantNode) :
    TenantRegistry × Except PyExc TenantNode :=
  match r.checkNew tenant with
  | .error e => (r, .error e)
  | .ok () =>
    match copyOf deepcopy 0 tenant with
    | .error e => (r, .error e)
    | .ok stored => (⟨r.tenants.set tenant.id stored⟩, copyOf deepcopy 1 tenant)

def newOverrides (updates : Dict String PyVal) : Except PyExc (Option (Dict String PyVal)) :=
  match updates.get? "policy_overrides" with
  | none => .ok none
  | some (.dict entries) => (deepcopy 0 (Dict.ofEntries entries)).map some
  | some _ => .error (.typeError "policy_overrides must be a dict")

/-- The name is assigned to the stored node before the overrides are looked at, and both before
    the node is copied. -/
def updateCopy (r : TenantRegistry) (tenantId : String) (updates : Dict String PyVal) :
    TenantRegistry × Except PyExc TenantNode :=
  match r.tenants.get? tenantId with
  | none => (r, .error (.keyError ("Tenant '" ++ tenantId ++ "' not found")))
  | some tenant =>
    match updateName updates tenant with
    | .error e => (r, .error e)
    | .ok named =>
      match newOverrides deepcopy updates with
      | .error e => (⟨r.tenants.set tenantId named⟩, .error e)
      | .ok overrides =>
        let updated := { named with policyOverrides := overrides.getD named.policyOverrides }
        (⟨r.tenants.set tenantId updated⟩, copyOf deepcopy 1 updated)

def answered (r : TenantRegistry) : Call → TenantRegistry × Except PyExc (Option TenantNode)
  | .register tenant =>
    let (after, result) := registerCopy deepcopy r tenant
    (after, result.map some)
  | .update tenantId updates =>
    let (after, result) := updateCopy deepcopy r tenantId updates
    (after, result.map some)
  | .delete tenantId =>
    let (after, result) := r.delete tenantId
    (after, result.map fun _ => none)

def stored (r : TenantRegistry) (tenantId : String) : Option TenantNode := r.get tenantId

/-- The update has a string as name, which is not the stored one. -/
def Renames (updates : Dict String PyVal) (tenant : TenantNode) : Prop :=
  ∃ name, updates.get? "name" = some (.str name) ∧ name ≠ tenant.name

/-- The update has a string as name, or none. -/
def Nameable (updates : Dict String PyVal) : Prop :=
  ∀ value, updates.get? "name" = some value → ∃ name, value = .str name

/-- The overrides are refused, being no dict or none that can be copied, after another name has
    been stored; or the node cannot be copied once another name or other overrides are. -/
def UpdatesHalfway (updates : Dict String PyVal) (tenant : TenantNode) : Prop :=
  match newOverrides deepcopy updates with
  | .error _ => Renames updates tenant
  | .ok overrides => Nameable updates ∧
    (∃ e, deepcopy 1 (overrides.getD tenant.policyOverrides) = .error e) ∧
    (Renames updates tenant ∨ overrides.getD tenant.policyOverrides ≠ tenant.policyOverrides)

/-- The call raises after it has changed what is stored. -/
def Halfway (r : TenantRegistry) : Call → Prop
  | .register tenant => r.checkNew tenant = .ok () ∧
    (∃ copied, deepcopy 0 tenant.policyOverrides = .ok copied) ∧
    ∃ e, deepcopy 1 tenant.policyOverrides = .error e
  | .update tenantId updates => ∃ tenant, r.tenants.get? tenantId = some tenant ∧
    UpdatesHalfway deepcopy updates tenant
  | .delete _ => False

theorem updateName_cases (updates : Dict String PyVal) (tenant : TenantNode) :
    (∃ e, updateName updates tenant = .error e ∧ ¬ Nameable updates ∧
      ¬ Renames updates tenant) ∨
    ∃ name, updateName updates tenant = .ok { tenant with name } ∧ Nameable updates ∧
      (Renames updates tenant ↔ name ≠ tenant.name) := by
  unfold updateName Nameable Renames
  cases given : updates.get? "name" with
  | none => exact .inr ⟨tenant.name, rfl, by simp, by simp⟩
  | some value =>
    cases value with
    | str name => exact .inr ⟨name, rfl, by simp, by simp⟩
    | none | bool | int | float | list | dict => exact .inl ⟨_, rfl, by simp, by simp⟩

theorem stored_set_iff {r : TenantRegistry} {tenantId : String} {tenant node : TenantNode}
    (found : r.tenants.get? tenantId = some tenant) :
    stored ⟨r.tenants.set tenantId node⟩ = stored r ↔ node = tenant := by
  constructor
  · intro same
    have here := congrFun same tenantId
    simpa only [stored, TenantRegistry.get, Dict.get?_set_self, found, Option.some.injEq]
      using here
  · intro same
    subst same
    funext k
    simp only [stored, TenantRegistry.get, Dict.get?_set]
    split
    · rename_i here
      rw [here, found]
    · rfl

theorem copyOf_error_iff {n : Nat} {tenant : TenantNode} :
    (∃ e, copyOf deepcopy n tenant = .error e) ↔
      ∃ e, deepcopy n tenant.policyOverrides = .error e := by
  unfold copyOf
  cases deepcopy n tenant.policyOverrides <;> simp [Except.map]

/-- A call that ends with an answer of its own is atomic when that is no error or nothing has
    changed. -/
theorem atomicAt_answer_iff {r after : TenantRegistry} {answer : Except PyExc TenantNode} :
    AtomicAt stored r (after, answer) ↔ (∃ e, answer = .error e) → stored after = stored r := by
  cases answer with
  | error e => exact atomicAt_error_iff.trans ⟨fun same _ => same, fun same => same ⟨e, rfl⟩⟩
  | ok tenant =>
    refine iff_of_true (atomicAt_ok _) ?_
    rintro ⟨e, absurd⟩
    cases absurd

theorem checkNew_unknown {r : TenantRegistry} {tenant : TenantNode}
    (new : r.checkNew tenant = .ok ()) : r.tenants.get? tenant.id = none := by
  unfold TenantRegistry.checkNew at new
  split at new
  · cases new
  · rename_i unknown
    simpa using unknown

theorem registerCopy_atomic_iff (r : TenantRegistry) (tenant : TenantNode) :
    AtomicAt stored r (registerCopy deepcopy r tenant) ↔
      ¬ Halfway deepcopy r (.register tenant) := by
  unfold registerCopy Halfway
  cases new : r.checkNew tenant with
  | error e =>
    refine iff_of_true (atomicAt_unchanged _) ?_
    rintro ⟨passed, _⟩
    rw [new] at passed
    cases passed
  | ok _ =>
    dsimp only
    rw [copyOf]
    cases copied : deepcopy 0 tenant.policyOverrides with
    | error e => exact iff_of_true (atomicAt_unchanged _) (by simp)
    | ok overrides =>
      have added : stored ⟨r.tenants.set tenant.id { tenant with policyOverrides := overrides }⟩ ≠
          stored r := by
        intro same
        have here := congrFun same tenant.id
        simp [stored, TenantRegistry.get, checkNew_unknown new] at here
      simp only [Except.map, atomicAt_answer_iff, copyOf_error_iff, added, imp_false, new,
        Except.ok.injEq, exists_eq', true_and]

theorem delete_atomic (r : TenantRegistry) (tenantId : String) :
    AtomicAt stored r (r.delete tenantId) := by
  unfold TenantRegistry.delete
  split
  · exact atomicAt_unchanged _
  · split
    · exact atomicAt_ok _
    · exact atomicAt_unchanged _

theorem updateCopy_atomic_iff (r : TenantRegistry) (tenantId : String)
    (updates : Dict String PyVal) :
    AtomicAt stored r (updateCopy deepcopy r tenantId updates) ↔
      ¬ Halfway deepcopy r (.update tenantId updates) := by
  unfold updateCopy
  cases found : r.tenants.get? tenantId with
  | none =>
    refine iff_of_true (atomicAt_unchanged _) ?_
    rintro ⟨tenant, known, _⟩
    rw [found] at known
    cases known
  | some tenant =>
    have halfway : Halfway deepcopy r (.update tenantId updates) ↔
        UpdatesHalfway deepcopy updates tenant := by
      constructor
      · rintro ⟨other, known, half⟩
        rw [found] at known
        cases known
        exact half
      · exact fun half => ⟨tenant, found, half⟩
    rw [halfway, UpdatesHalfway]
    dsimp only
    rcases updateName_cases updates tenant with
      ⟨e, eq, unnamed, same⟩ | ⟨name, eq, nameable, renames⟩
    · rw [eq]
      refine iff_of_true (atomicAt_unchanged _) ?_
      cases newOverrides deepcopy updates with
      | error raised => exact same
      | ok overrides => exact fun half => unnamed half.1
    · rw [eq]
      cases newOverrides deepcopy updates with
      | error raised =>
        rw [atomicAt_error_iff, stored_set_iff found, renames, not_not]
        exact ⟨congrArg TenantNode.name, fun same => by rw [same]⟩
      | ok overrides =>
        have kept : ∀ policyOverrides, ({ tenant with name, policyOverrides } : TenantNode) =
            tenant ↔ name = tenant.name ∧ policyOverrides = tenant.policyOverrides := by
          intro policyOverrides
          constructor
          · intro same
            exact ⟨congrArg TenantNode.name same, congrArg TenantNode.policyOverrides same⟩
          · rintro ⟨rfl, rfl⟩
            rfl
        simp only [atomicAt_answer_iff, copyOf_error_iff, stored_set_iff found, kept, renames,
          nameable, true_and]
        tauto

/-- A call that raises leaves every tenant as it was, unless it has changed what is stored before
    the overrides are refused or what is to be returned cannot be copied. -/
theorem raising_call_keeps_tenants_iff (r : TenantRegistry) (call : Call) :
    AtomicAt stored r (answered deepcopy r call) ↔ ¬ Halfway deepcopy r call := by
  cases call with
  | register tenant =>
    exact (atomicAt_map_iff some).trans (registerCopy_atomic_iff deepcopy r tenant)
  | update tenantId updates =>
    exact (atomicAt_map_iff some).trans (updateCopy_atomic_iff deepcopy r tenantId updates)
  | delete tenantId =>
    exact (atomicAt_map_iff _).trans (iff_of_true (delete_atomic r tenantId) not_false)

def orgTenant : TenantNode where
  id := "org"
  name := "Org"
  parentId := none
  policyOverrides := ∅
  createdAt := 1740000000

def renameWithList : Dict String PyVal :=
  ((∅ : Dict String PyVal).set "name" (.str "Renamed")).set "policy_overrides" (.list [])

/-- An update with a new name and a list for overrides raises, and the new name stays. -/
theorem refused_update_renames :
    ¬ AtomicAt stored (act empty (.register orgTenant))
      (answered (fun _ => .ok) (act empty (.register orgTenant))
        (.update "org" renameWithList)) := by
  intro atomic
  have updated : AtomicAt stored (act empty (.register orgTenant))
      (updateCopy (fun _ => .ok) (act empty (.register orgTenant)) "org" renameWithList) :=
    (atomicAt_map_iff some).mp atomic
  have renames : Renames renameWithList orgTenant := ⟨"Renamed", rfl, by decide⟩
  exact (updateCopy_atomic_iff _ _ "org" renameWithList).mp updated ⟨orgTenant, rfl, renames⟩

end VeronicaTenantAtomicity
