import Veronica.PolicyUpdates
import Veronica.Tenants

/- PolicyResolver: a tenant's policy is the base policy with the overrides of its ancestors and
   then its own applied, each override checked before it is applied. -/
namespace VeronicaResolver
open VeronicaDistribution VeronicaPolicyUpdates VeronicaTenants

/-- `_POLICY_FIELDS`, the names of all fields of PolicyConfig. -/
def policyFields : List String := "chain_id" :: PolicyField.all.map PolicyField.name

def onExceedValues : List String := ["halt", "degrade", "queue"]

/-- ValueError, its message up to the value it quotes. -/
def refuse (key problem : String) : Except PyExc Unit :=
  .error (.valueError ("policy_overrides['" ++ key ++ "'] " ++ problem))

def refuseType (key wanted : String) (value : PyVal) : Except PyExc Unit :=
  refuse key ("must be " ++ wanted ++ ", got '" ++ value.typeName ++ "'")

def checkFiniteNumber (key wanted : String) (value : PyVal) : Except PyExc Unit :=
  if value.isNumber then
    match value.isFiniteNonNegative with
    | .error e => .error e
    | .ok false => refuse key "must be a finite non-negative number, got "
    | .ok true => .ok ()
  else refuseType key wanted value

def checkPriority (key : String) : PyVal → Except PyExc Unit
  | .int n => if 0 ≤ n ∧ n ≤ 100 then .ok () else refuse key "must be in range 0-100, got "
  | value => refuseType key "an int" value

def checkCount (key : String) : PyVal → Except PyExc Unit
  | .int n => if n < 0 then refuse key "must be >= 0, got " else .ok ()
  | value => refuseType key "an int or None" value

def checkOnExceed (key : String) : PyVal → Except PyExc Unit
  | .str s =>
    if s ∈ onExceedValues then .ok ()
    else refuse key "must be one of ['degrade', 'halt', 'queue'], got "
  | value => refuseType key "a str" value

def checkText (key : String) : PyVal → Except PyExc Unit
  | .str s =>
    if 1024 < s.length then refuse key ("must be <= 1024 chars, got " ++ toString s.length)
    else .ok ()
  | value => refuseType key "a str or None" value

/-- `if value is not None:` around a check -/
def unlessNone (value : PyVal) (check : PyVal → Except PyExc Unit) : Except PyExc Unit :=
  if value.isNone then .ok () else check value

def validateOverrideValue (key : String) (value : PyVal) : Except PyExc Unit :=
  if key = "ceiling_usd" then checkFiniteNumber key "a number" value
  else if key = "priority" then checkPriority key value
  else if key = "timeout_ms" then unlessNone value (checkFiniteNumber key "a number or None")
  else if key ∈ ["ceiling_tokens_out", "ceiling_steps", "rate_ceiling_calls"] then
    unlessNone value (checkCount key)
  else if key = "rate_window_seconds" then
    unlessNone value (checkFiniteNumber key "a number or None")
  else if key = "on_exceed" then checkOnExceed key value
  else if key ∈ ["fallback_model", "planner_version"] then unlessNone value (checkText key)
  else if key ∈ ["deadline_ts", "expires_at", "issued_at"] then
    unlessNone value (checkFiniteNumber key "a number or None")
  else refuse key "has no validation rule"

/-- One item of `policy_overrides`: unknown keys are skipped, the others checked and collected. -/
def collectOverride (overrides : Dict String PyVal) (item : String × PyVal) :
    Except PyExc (Dict String PyVal) :=
  if item.1 ∈ policyFields then
    (validateOverrideValue item.1 item.2).map fun _ => overrides.set item.1 item.2
  else .ok overrides

def applyNode (policy : PolicyConfig) (node : TenantNode) : Except PyExc PolicyConfig :=
  match node.policyOverrides.entries.foldlM collectOverride ∅ with
  | .error e => .error e
  | .ok overrides =>
    if overrides.entries.isEmpty then .ok policy else replace policy overrides

/-- The overrides of each node in turn, from the root to the tenant. -/
def applyChain (basePolicy : PolicyConfig) (chain : List TenantNode) :
    Except PyExc PolicyConfig :=
  chain.foldlM applyNode basePolicy

def resolve (r : TenantRegistry) (tenantId : String) (basePolicy : PolicyConfig) :
    Except PyExc PolicyConfig :=
  match r.get tenantId with
  | none => .ok basePolicy
  | some tenant =>
    match r.getAncestors tenantId with
    | .error e => .error e
    | .ok ancestors => applyChain basePolicy (ancestors ++ [tenant])

def Accepts (key : String) (value : PyVal) : Prop := validateOverrideValue key value = .ok ()

/-- A number that is finite and not negative, and no larger than a float can be. -/
def FiniteNonNegative (value : PyVal) : Prop :=
  (∃ n : Int, value = .int n ∧ 0 ≤ n ∧ n < PyVal.floatLimit) ∨
    ∃ q : ℚ, value = .float (.finite q) ∧ 0 ≤ q

/-- The values a field can be overridden with. -/
def Allowed (value : PyVal) : PolicyField → Prop
  | .ceilingUsd => FiniteNonNegative value
  | .priority => ∃ n : Int, value = .int n ∧ 0 ≤ n ∧ n ≤ 100
  | .onExceed => ∃ s ∈ onExceedValues, value = .str s
  | .ceilingTokensOut | .ceilingSteps | .rateCeilingCalls =>
    value = .none ∨ ∃ n : Int, value = .int n ∧ 0 ≤ n
  | .timeoutMs | .rateWindowSeconds | .deadlineTs | .expiresAt | .issuedAt =>
    value = .none ∨ FiniteNonNegative value
  | .fallbackModel | .plannerVersion => value = .none ∨ ∃ s, value = .str s ∧ s.length ≤ 1024

/-- Every override of a known field passes its check. -/
def Sound (node : TenantNode) : Prop :=
  ∀ key value, node.policyOverrides.get? key = some value → key ∈ policyFields →
    Accepts key value

/-- What the first of these nodes that sets a field sets it to, if any does. -/
def nearest (key : String) (nodes : List TenantNode) : Option PyVal :=
  nodes.findSome? fun node => node.policyOverrides.get? key

theorem finiteNonNegative_iff (value : PyVal) :
    value.isNumber = true ∧ value.isFiniteNonNegative = .ok true ↔ FiniteNonNegative value := by
  cases value with
  | int n =>
    by_cases fits : n < PyVal.floatLimit ∧ -PyVal.floatLimit < n
    · simp [PyVal.isNumber, PyVal.isFiniteNonNegative, PyVal.isfinite, fits, PyVal.isNegative,
        Except.map, FiniteNonNegative]
    · have limit := PyVal.floatLimit_pos
      simp only [PyVal.isFiniteNonNegative, PyVal.isfinite, fits, FiniteNonNegative]
      simp only [if_false, PyVal.int.injEq, reduceCtorEq, and_false, false_and, exists_false,
        or_false, false_iff]
      rintro ⟨m, rfl, nonneg, below⟩
      exact fits ⟨below, by omega⟩
  | float x =>
    cases x <;> simp [PyVal.isNumber, PyVal.isFiniteNonNegative, PyVal.isfinite,
      PyFloat.isfinite, PyVal.isNegative, Except.map, FiniteNonNegative]
  | none => simp [PyVal.isNumber, FiniteNonNegative]
  | bool b => simp [PyVal.isNumber, FiniteNonNegative]
  | str s => simp [PyVal.isNumber, FiniteNonNegative]
  | list xs => simp [PyVal.isNumber, FiniteNonNegative]
  | dict entries => simp [PyVal.isNumber, FiniteNonNegative]

theorem checkFiniteNumber_ok (key wanted : String) (value : PyVal) :
    checkFiniteNumber key wanted value = .ok () ↔ FiniteNonNegative value := by
  rw [← finiteNonNegative_iff]
  unfold checkFiniteNumber
  by_cases number : value.isNumber = true
  · rw [if_pos number]
    cases tested : value.isFiniteNonNegative with
    | error e => simp
    | ok passed => cases passed <;> simp [refuse, number]
  · simp [number, refuseType, refuse]

theorem checkPriority_ok (key : String) (value : PyVal) :
    checkPriority key value = .ok () ↔ ∃ n : Int, value = .int n ∧ 0 ≤ n ∧ n ≤ 100 := by
  cases value <;> simp [checkPriority, refuseType, refuse]

theorem checkCount_ok (key : String) (value : PyVal) :
    checkCount key value = .ok () ↔ ∃ n : Int, value = .int n ∧ 0 ≤ n := by
  cases value <;> simp [checkCount, refuseType, refuse]

theorem checkOnExceed_ok (key : String) (value : PyVal) :
    checkOnExceed key value = .ok () ↔ ∃ s ∈ onExceedValues, value = .str s := by
  cases value <;> simp [checkOnExceed, refuseType, refuse]

theorem checkText_ok (key : String) (value : PyVal) :
    checkText key value = .ok () ↔ ∃ s, value = .str s ∧ s.length ≤ 1024 := by
  cases value <;> simp [checkText, refuseType, refuse]

theorem unlessNone_ok (value : PyVal) (check : PyVal → Except PyExc Unit) :
    unlessNone value check = .ok () ↔ value = .none ∨ check value = .ok () := by
  cases value <;> simp [unlessNone, PyVal.isNone]

theorem accepts_iff_allowed (field : PolicyField) (value : PyVal) :
    Accepts field.name value ↔ Allowed value field := by
  cases field <;> simp [Accepts, validateOverrideValue, PolicyField.name, Allowed, unlessNone_ok,
    checkFiniteNumber_ok, checkPriority_ok, checkCount_ok, checkOnExceed_ok, checkText_ok]

theorem chain_id_rejected (value : PyVal) : ¬ Accepts "chain_id" value := by
  intro accepted
  cases accepted

theorem name_mem_policyFields (field : PolicyField) : field.name ∈ policyFields := by
  cases field <;> decide

theorem field_of_accepted {key : String} {value : PyVal} (known : key ∈ policyFields)
    (accepted : Accepts key value) : key ∈ PolicyField.all.map PolicyField.name := by
  rcases List.mem_cons.mp known with same | field
  · rw [same] at accepted
    exact absurd accepted (chain_id_rejected value)
  · exact field

theorem collect_ok {items : List (String × PyVal)} (start : Dict String PyVal)
    (sound : ∀ item ∈ items, item.1 ∈ policyFields → Accepts item.1 item.2) :
    items.foldlM collectOverride start =
      .ok ((items.filter (·.1 ∈ policyFields)).foldl (fun d e => d.set e.1 e.2) start) := by
  induction items generalizing start with
  | nil => rfl
  | cons item rest ih =>
    have later := fun other member => sound other (List.mem_cons_of_mem _ member)
    rw [List.foldlM_cons]
    by_cases known : item.1 ∈ policyFields
    · have checked : validateOverrideValue item.1 item.2 = .ok () :=
        sound item List.mem_cons_self known
      have stored : collectOverride start item = .ok (start.set item.1 item.2) := by
        simp only [collectOverride, known, checked]
        rfl
      rw [stored, List.filter_cons_of_pos (by simpa using known), List.foldl_cons]
      exact ih (start.set item.1 item.2) later
    · have skipped : collectOverride start item = .ok start := by simp [collectOverride, known]
      rw [skipped, List.filter_cons_of_neg (by simpa using known)]
      exact ih start later

theorem collect_error {items : List (String × PyVal)} (start : Dict String PyVal)
    {item : String × PyVal} (member : item ∈ items) (known : item.1 ∈ policyFields)
    (rejected : ¬ Accepts item.1 item.2) :
    ∃ e, items.foldlM collectOverride start = .error e := by
  induction items generalizing start with
  | nil => cases member
  | cons first rest ih =>
    rw [List.foldlM_cons]
    cases collected : collectOverride start first with
    | error e => exact ⟨e, rfl⟩
    | ok overrides =>
      rcases List.mem_cons.mp member with same | later
      · rw [← same, collectOverride, if_pos known] at collected
        obtain ⟨_, checked, _⟩ := except_map_ok.mp collected
        exact absurd checked rejected
      · exact ih overrides later

theorem replace_ok {changes : Dict String PyVal}
    (known : ∀ key ∈ changes.keys, key ∈ PolicyField.all.map PolicyField.name)
    (policy : PolicyConfig) : ∃ updated, replace policy changes = .ok updated := by
  have none_unknown : changes.keys.find? (fun key => key ∉ PolicyField.all.map PolicyField.name) =
      none := by
    rw [List.find?_eq_none]
    intro key member
    simpa using known key member
  unfold replace
  rw [none_unknown]
  exact ⟨_, rfl⟩

theorem sound_items {node : TenantNode} (sound : Sound node) :
    ∀ item ∈ node.policyOverrides.entries, item.1 ∈ policyFields → Accepts item.1 item.2 :=
  fun item member known => sound item.1 item.2 (Dict.get?_eq_some_iff.mpr member) known

/-- A sound node sets the fields it has overrides for and keeps the others. -/
theorem applyNode_ok {node : TenantNode} (sound : Sound node) (policy : PolicyConfig) :
    ∃ next, applyNode policy node = .ok next ∧ next.chainId = policy.chainId ∧
      ∀ field : PolicyField, field.get next =
        (node.policyOverrides.get? field.name).getD (field.get policy) := by
  let overrides := Dict.ofEntries
    (node.policyOverrides.entries.filter (·.1 ∈ policyFields))
  have collected : node.policyOverrides.entries.foldlM collectOverride ∅ = .ok overrides :=
    collect_ok ∅ (sound_items sound)
  have entries : overrides.entries =
      node.policyOverrides.entries.filter (·.1 ∈ policyFields) :=
    Dict.ofEntries_entries (node.policyOverrides.distinct.sublist (List.filter_sublist.map _))
  have lookups : ∀ field : PolicyField,
      overrides.get? field.name = node.policyOverrides.get? field.name := by
    intro field
    apply Option.ext
    intro value
    rw [Dict.get?_eq_some_iff, entries, List.mem_filter, Dict.get?_eq_some_iff]
    simp [name_mem_policyFields field]
  unfold applyNode
  rw [collected]
  dsimp only
  split
  · rename_i nothing
    rw [List.isEmpty_iff] at nothing
    refine ⟨policy, rfl, rfl, ?_⟩
    intro field
    rw [← lookups field, Dict.get?, nothing]
    rfl
  · have known : ∀ key ∈ overrides.keys, key ∈ PolicyField.all.map PolicyField.name := by
      intro key member
      obtain ⟨item, among, rfl⟩ := List.mem_map.mp member
      rw [entries, List.mem_filter, decide_eq_true_eq] at among
      exact field_of_accepted among.2 (sound_items sound item among.1 among.2)
    obtain ⟨next, replaced⟩ := replace_ok known policy
    obtain ⟨chain, each⟩ := replace_get replaced
    refine ⟨next, replaced, chain, ?_⟩
    intro field
    rw [each field, lookups field]

theorem applyNode_error {node : TenantNode} (unsound : ¬ Sound node) (policy : PolicyConfig) :
    ∃ e, applyNode policy node = .error e := by
  unfold Sound at unsound
  push Not at unsound
  obtain ⟨key, value, found, known, rejected⟩ := unsound
  obtain ⟨e, failed⟩ :=
    collect_error ∅ (Dict.get?_eq_some_iff.mp found) known rejected
  exact ⟨e, by rw [applyNode, failed]⟩

theorem nearest_append (key : String) (nodes : List TenantNode) (node : TenantNode) :
    nearest key (nodes ++ [node]) =
      (nearest key nodes).or (node.policyOverrides.get? key) := by
  simp [nearest, List.findSome?_append]

/-- Applied from the root down, overrides leave each field as the last node to set it did. -/
theorem applyChain_ok {chain : List TenantNode} (sound : ∀ node ∈ chain, Sound node)
    (basePolicy : PolicyConfig) :
    ∃ policy, applyChain basePolicy chain = .ok policy ∧ policy.chainId = basePolicy.chainId ∧
      ∀ field : PolicyField, field.get policy =
        (nearest field.name chain.reverse).getD (field.get basePolicy) := by
  induction chain generalizing basePolicy with
  | nil => exact ⟨basePolicy, rfl, rfl, fun field => rfl⟩
  | cons node rest ih =>
    obtain ⟨next, applied, chainKept, fields⟩ :=
      applyNode_ok (sound node List.mem_cons_self) basePolicy
    obtain ⟨policy, rested, chainKept', fields'⟩ :=
      ih (fun other member => sound other (List.mem_cons_of_mem _ member)) next
    refine ⟨policy, ?_, chainKept'.trans chainKept, ?_⟩
    · rw [applyChain, List.foldlM_cons, applied]
      exact rested
    · intro field
      rw [fields' field, fields field, List.reverse_cons, nearest_append]
      cases nearest field.name rest.reverse <;> rfl

theorem applyChain_error {chain : List TenantNode} {node : TenantNode} (member : node ∈ chain)
    (unsound : ¬ Sound node) (basePolicy : PolicyConfig) :
    ∃ e, applyChain basePolicy chain = .error e := by
  induction chain generalizing basePolicy with
  | nil => cases member
  | cons first rest ih =>
    rw [applyChain, List.foldlM_cons]
    cases applied : applyNode basePolicy first with
    | error e => exact ⟨e, rfl⟩
    | ok next =>
      rcases List.mem_cons.mp member with same | later
      · obtain ⟨e, failed⟩ := applyNode_error unsound basePolicy
        rw [same, applied] at failed
        cases failed
      · exact ih later next

/-- A chain resolves exactly when every override of a known field on it passes its check. -/
theorem applyChain_error_iff (basePolicy : PolicyConfig) (chain : List TenantNode) :
    (∃ e, applyChain basePolicy chain = .error e) ↔ ∃ node ∈ chain, ¬ Sound node := by
  constructor
  · intro failed
    by_contra none_unsound
    push Not at none_unsound
    obtain ⟨policy, ok, _⟩ := applyChain_ok none_unsound basePolicy
    obtain ⟨e, failed⟩ := failed
    rw [ok] at failed
    cases failed
  · intro bad
    obtain ⟨node, member, unsound⟩ := bad
    exact applyChain_error member unsound basePolicy

theorem applyChain_fields {basePolicy policy : PolicyConfig} {chain : List TenantNode}
    (ok : applyChain basePolicy chain = .ok policy) (field : PolicyField) :
    field.get policy = (nearest field.name chain.reverse).getD (field.get basePolicy) := by
  have sound : ∀ node ∈ chain, Sound node := by
    intro node member
    by_contra unsound
    obtain ⟨e, failed⟩ := applyChain_error member unsound basePolicy
    rw [ok] at failed
    cases failed
  obtain ⟨policy', ok', _, fields⟩ := applyChain_ok sound basePolicy
  rw [ok] at ok'
  cases ok'
  exact fields field

theorem resolve_eq {r : TenantRegistry} (inv : Inv r) {tenantId : String} {tenant : TenantNode}
    (found : r.get tenantId = some tenant) (basePolicy : PolicyConfig) :
    ∃ above, Path r (some tenantId) ((tenantId, tenant) :: above) ∧
      resolve r tenantId basePolicy =
        applyChain basePolicy ((tenant :: above.map Prod.snd).reverse) := by
  obtain ⟨above, complete, _, eq⟩ := getAncestors_eq inv found
  refine ⟨above, Forests.Path.up found complete, ?_⟩
  rw [resolve, found]
  dsimp only
  rw [eq, List.reverse_cons]

end VeronicaResolver
