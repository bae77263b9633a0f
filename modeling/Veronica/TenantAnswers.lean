import Veronica.TenantApi

/- How the tenant endpoints answer on any registry that requests have built: which requests nobody
   catches the exception of, and what GET effective-policy serves. -/
namespace VeronicaTenantApi
open VeronicaDistribution VeronicaPolicyUpdates VeronicaTenants VeronicaResolver
  VeronicaEffectivePolicy Checks

section Refusals

/-- What `resolve` checks of one item of `policy_overrides`. -/
def checkItem (item : String × PyVal) : Except PyExc Unit :=
  if item.1 ∈ policyFields then validateOverrideValue item.1 item.2 else .ok ()

def checkNode (node : TenantNode) : Except PyExc Unit :=
  (node.policyOverrides.entries.foldlM collectOverride ∅).map fun _ => ()

/-- The first override that is refused on the way from the root down, and why. -/
def FirstBad (chain : List TenantNode) (item : String × PyVal) (e : PyExc) : Prop :=
  ∃ node, FirstRefused checkNode chain node e ∧
    FirstRefused checkItem node.policyOverrides.entries item e

def numberFields : List String :=
  ["ceiling_usd", "timeout_ms", "rate_window_seconds", "deadline_ts", "expires_at", "issued_at"]

/-- An int too large for a float where a number is asked for. -/
def Huge (item : String × PyVal) : Prop :=
  item.1 ∈ numberFields ∧
    ∃ n : Int, item.2 = .int n ∧ ¬ (n < PyVal.floatLimit ∧ -PyVal.floatLimit < n)

def Overflow (e : PyExc) : Prop := ∃ message, e = .overflowError message
def IsValueError (e : PyExc) : Prop := ∃ message, e = .valueError message

theorem checkNode_error_iff {node : TenantNode} {e : PyExc} : checkNode node = .error e ↔
    ∃ item, FirstRefused checkItem node.policyOverrides.entries item e := by
  have agree : ∀ (s : Dict String PyVal) (item : String × PyVal),
      (collectOverride s item).map (fun _ => ()) = checkItem item := by
    intro s item
    by_cases known : item.1 ∈ policyFields
    · rw [collectOverride, checkItem, if_pos known, if_pos known]
      cases validateOverrideValue item.1 item.2 <;> rfl
    · rw [collectOverride, checkItem, if_neg known, if_neg known]
      rfl
  have first : node.policyOverrides.entries.foldlM collectOverride ∅ = .error e ↔
      ∃ item, FirstRefused checkItem node.policyOverrides.entries item e :=
    foldlM_error_iff agree
  rw [← first, checkNode]
  cases node.policyOverrides.entries.foldlM collectOverride ∅ <;> simp [Except.map]

theorem checkNode_ok_iff {node : TenantNode} : checkNode node = .ok () ↔ Sound node := by
  constructor
  · intro fine
    by_contra unsound
    obtain ⟨key, value, found, known, e, failed⟩ := unsound_iff.mp unsound
    have rejected : ¬ Accepts key value := by
      rw [Accepts, failed]
      simp
    obtain ⟨failure, collected⟩ :=
      collect_error ∅ (Dict.get?_eq_some_iff.mp found) known rejected
    rw [checkNode, collected] at fine
    cases fine
  · intro sound
    rw [checkNode, collect_ok ∅ (sound_items sound)]
    rfl

/-- The overrides of a node apply or fail whatever the policy they are applied to. -/
theorem applyNode_agree (policy : PolicyConfig) (node : TenantNode) :
    (applyNode policy node).map (fun _ => ()) = checkNode node := by
  by_cases sound : Sound node
  · obtain ⟨next, applied, _⟩ := applyNode_ok sound policy
    rw [applied, checkNode_ok_iff.mpr sound]
    rfl
  · cases collected : node.policyOverrides.entries.foldlM collectOverride ∅ with
    | ok overrides =>
      have fine : checkNode node = .ok () := by
        rw [checkNode, collected]
        rfl
      exact absurd (checkNode_ok_iff.mp fine) sound
    | error e =>
      rw [applyNode, checkNode, collected]
      rfl

theorem applyChain_first_bad {base : PolicyConfig} {chain : List TenantNode} {e : PyExc} :
    applyChain base chain = .error e ↔ ∃ item, FirstBad chain item e := by
  rw [applyChain, foldlM_error_iff applyNode_agree]
  constructor
  · rintro ⟨node, refused⟩
    have bad : checkNode node = .error e := by
      obtain ⟨_, _, _, _, bad⟩ := refused
      exact bad
    obtain ⟨item, first⟩ := checkNode_error_iff.mp bad
    exact ⟨item, node, refused, first⟩
  · rintro ⟨item, node, refused, _⟩
    exact ⟨node, refused⟩

theorem checkFiniteNumber_error {key wanted : String} {value : PyVal} {e : PyExc}
    (failed : checkFiniteNumber key wanted value = .error e) :
    (IsValueError e ∧
        ¬ ∃ n : Int, value = .int n ∧ ¬ (n < PyVal.floatLimit ∧ -PyVal.floatLimit < n)) ∨
      (Overflow e ∧
        ∃ n : Int, value = .int n ∧ ¬ (n < PyVal.floatLimit ∧ -PyVal.floatLimit < n)) := by
  cases value with
  | int n =>
    by_cases fits : n < PyVal.floatLimit ∧ -PyVal.floatLimit < n
    · left
      simp only [checkFiniteNumber, PyVal.isNumber, PyVal.isFiniteNonNegative, PyVal.isfinite, fits,
        PyVal.isNegative, and_self, if_true, Except.map] at failed
      cases negative : decide (n < 0) with
      | true =>
        rw [negative] at failed
        cases failed
        refine ⟨⟨_, rfl⟩, ?_⟩
        rintro ⟨m, same, huge⟩
        cases same
        exact huge fits
      | false =>
        rw [negative] at failed
        cases failed
    · right
      simp only [checkFiniteNumber, PyVal.isNumber, PyVal.isFiniteNonNegative, PyVal.isfinite, fits,
        if_true, if_false] at failed
      cases failed
      exact ⟨⟨_, rfl⟩, n, rfl, fits⟩
  | float x =>
    left
    refine ⟨?_, by rintro ⟨n, same, _⟩; cases same⟩
    cases finite : (PyVal.float x).isFiniteNonNegative with
    | error failure => cases x <;> cases finite
    | ok passed =>
      simp only [checkFiniteNumber, PyVal.isNumber, finite, if_true] at failed
      cases passed with
      | true => cases failed
      | false =>
        cases failed
        exact ⟨_, rfl⟩
  | none | bool _ | str _ | list _ | dict _ =>
    left
    refine ⟨?_, by rintro ⟨n, same, _⟩; cases same⟩
    cases failed
    exact ⟨_, rfl⟩

theorem valueError_of_refuse {key problem : String} {e : PyExc}
    (failed : refuse key problem = .error e) : IsValueError e := by
  cases failed
  exact ⟨_, rfl⟩

theorem checkPriority_error {key : String} {value : PyVal} {e : PyExc}
    (failed : checkPriority key value = .error e) : IsValueError e := by
  cases value with
  | int n =>
    rw [checkPriority] at failed
    split at failed
    · cases failed
    · exact valueError_of_refuse failed
  | none | bool _ | float _ | str _ | list _ | dict _ => exact valueError_of_refuse failed

theorem checkCount_error {key : String} {value : PyVal} {e : PyExc}
    (failed : checkCount key value = .error e) : IsValueError e := by
  cases value with
  | int n =>
    rw [checkCount] at failed
    split at failed
    · exact valueError_of_refuse failed
    · cases failed
  | none | bool _ | float _ | str _ | list _ | dict _ => exact valueError_of_refuse failed

theorem checkOnExceed_error {key : String} {value : PyVal} {e : PyExc}
    (failed : checkOnExceed key value = .error e) : IsValueError e := by
  cases value with
  | str s =>
    rw [checkOnExceed] at failed
    split at failed
    · cases failed
    · exact valueError_of_refuse failed
  | none | bool _ | float _ | int _ | list _ | dict _ => exact valueError_of_refuse failed

theorem checkText_error {key : String} {value : PyVal} {e : PyExc}
    (failed : checkText key value = .error e) : IsValueError e := by
  cases value with
  | str s =>
    rw [checkText] at failed
    split at failed
    · exact valueError_of_refuse failed
    · cases failed
  | none | bool _ | float _ | int _ | list _ | dict _ => exact valueError_of_refuse failed

theorem error_of_unlessNone {value : PyVal} {check : PyVal → Except PyExc Unit} {e : PyExc}
    (failed : VeronicaResolver.unlessNone value check = .error e) : check value = .error e := by
  rw [VeronicaResolver.unlessNone] at failed
  split at failed
  · cases failed
  · exact failed

/-- An override is refused with a ValueError, or with the OverflowError of a huge int. -/
theorem validate_error (field : PolicyField) {value : PyVal} {e : PyExc}
    (failed : validateOverrideValue field.name value = .error e) :
    (IsValueError e ∧ ¬ Huge (field.name, value)) ∨ (Overflow e ∧ Huge (field.name, value)) := by
  have number : ∀ wanted, field.name ∈ numberFields →
      checkFiniteNumber field.name wanted value = .error e →
      (IsValueError e ∧ ¬ Huge (field.name, value)) ∨ (Overflow e ∧ Huge (field.name, value)) := by
    intro wanted member failed
    rcases checkFiniteNumber_error failed with ⟨refused, small⟩ | ⟨overflow, huge⟩
    · exact .inl ⟨refused, fun huge => small huge.2⟩
    · exact .inr ⟨overflow, member, huge⟩
  have other : field.name ∉ numberFields → IsValueError e →
      (IsValueError e ∧ ¬ Huge (field.name, value)) ∨ (Overflow e ∧ Huge (field.name, value)) :=
    fun absent refused => .inl ⟨refused, fun huge => absent huge.1⟩
  cases field with
  | ceilingUsd => exact number _ (by decide) failed
  | timeoutMs | rateWindowSeconds | deadlineTs | expiresAt | issuedAt =>
    exact number _ (by decide) (error_of_unlessNone failed)
  | priority => exact other (by decide) (checkPriority_error failed)
  | onExceed => exact other (by decide) (checkOnExceed_error failed)
  | ceilingTokensOut | ceilingSteps | rateCeilingCalls =>
    exact other (by decide) (checkCount_error (error_of_unlessNone failed))
  | fallbackModel | plannerVersion =>
    exact other (by decide) (checkText_error (error_of_unlessNone failed))

theorem checkItem_error {item : String × PyVal} {e : PyExc} (failed : checkItem item = .error e) :
    (IsValueError e ∧ ¬ Huge item) ∨ (Overflow e ∧ Huge item) := by
  obtain ⟨key, value⟩ := item
  rw [checkItem] at failed
  split at failed
  · rename_i known
    rcases List.mem_cons.mp known with rfl | known
    · have absent : "chain_id" ∉ numberFields := by decide
      exact .inl ⟨valueError_of_refuse failed, fun huge => absent huge.1⟩
    · obtain ⟨field, _, rfl⟩ := List.mem_map.mp known
      exact validate_error field failed
  · cases failed

theorem firstBad_error {chain : List TenantNode} {item : String × PyVal} {e : PyExc}
    (first : FirstBad chain item e) :
    (IsValueError e ∧ ¬ Huge item) ∨ (Overflow e ∧ Huge item) := by
  obtain ⟨node, _, _, _, _, _, failed⟩ := first
  exact checkItem_error failed

end Refusals

section Responses
variable {floatAsInt : ℚ → Option Int} {tenantId : String} {policy : PolicyConfig}

theorem policyToResponse_some {response : EffectivePolicyResponse}
    (served : policyToResponse floatAsInt tenantId policy = some response) :
    response.tenantId = tenantId ∧ response.policy.chainId = policy.chainId ∧
      ∀ field : PolicyField, readAs floatAsInt (responseType field) (field.get policy) =
        some (field.get response.policy) := by
  simp only [policyToResponse] at served
  split at served
  · rename_i readable
    cases served
    refine ⟨rfl, rfl, ?_⟩
    intro field
    have here := List.all_eq_true.mp readable field (PolicyField.mem_all field)
    obtain ⟨value, read⟩ := Option.isSome_iff_exists.mp here
    rw [read]
    have filled : ∀ value, readAs floatAsInt (responseType field) (field.get policy) = some value →
        some value =
          some ((readAs floatAsInt (responseType field) (field.get policy)).getD .none) := by
      intro value read
      rw [read]
      rfl
    cases field <;> exact filled value read
  · cases served

theorem policyToResponse_isSome : (policyToResponse floatAsInt tenantId policy).isSome ↔
    ∀ field, (readAs floatAsInt (responseType field) (field.get policy)).isSome := by
  have readable : (PolicyField.all.all fun field =>
      (readAs floatAsInt (responseType field) (field.get policy)).isSome) = true ↔
        ∀ field, (readAs floatAsInt (responseType field) (field.get policy)).isSome := by
    rw [List.all_eq_true]
    exact ⟨fun each field => each field (PolicyField.mem_all field), fun each field _ => each field⟩
  rw [← readable, policyToResponse]
  split
  · rename_i fine
    exact iff_of_true rfl fine
  · rename_i bad
    exact iff_of_false (fun some => by cases some) bad

/-- A timeout that is a float and not taken for an int. -/
def UnreadableTimeout (floatAsInt : ℚ → Option Int) (path : List TenantNode) : Prop :=
  ∃ q : ℚ, nearest "timeout_ms" path = some (.float (.finite q)) ∧ floatAsInt q = none

/-- What the resolver allows is of the type the response declares, but for a timeout. -/
theorem readable_of_allowed {field : PolicyField} {value : PyVal} (notIssued : field ≠ .issuedAt)
    (allowed : Allowed value field) :
    (readAs floatAsInt (responseType field) value).isSome ∨
      field = .timeoutMs ∧ ∃ q : ℚ, value = .float (.finite q) ∧ floatAsInt q = none := by
  cases field with
  | ceilingUsd =>
    left
    rcases allowed with ⟨n, rfl, _⟩ | ⟨q, rfl, _⟩ <;> rfl
  | onExceed =>
    left
    obtain ⟨s, _, rfl⟩ := allowed
    rfl
  | priority =>
    left
    obtain ⟨n, rfl, _⟩ := allowed
    rfl
  | issuedAt => exact absurd rfl notIssued
  | ceilingTokensOut | ceilingSteps | rateCeilingCalls =>
    left
    rcases allowed with rfl | ⟨n, rfl, _⟩ <;> rfl
  | fallbackModel | plannerVersion =>
    left
    rcases allowed with rfl | ⟨s, rfl, _⟩ <;> rfl
  | rateWindowSeconds | deadlineTs | expiresAt =>
    left
    rcases allowed with rfl | ⟨n, rfl, _⟩ | ⟨q, rfl, _⟩ <;> rfl
  | timeoutMs =>
    rcases allowed with rfl | ⟨n, rfl, _⟩ | ⟨q, rfl, _⟩
    · exact .inl rfl
    · exact .inl rfl
    · cases read : floatAsInt q with
      | none => exact .inr ⟨rfl, q, rfl, read⟩
      | some n =>
        left
        simp [responseType, readAs, read]

end Responses

section Effective
variable {floatAsInt : ℚ → Option Int} {r : TenantRegistry} {tenantId : String}
  {tenant : TenantNode} {above : List (String × TenantNode)}

def pathOf (tenant : TenantNode) (above : List (String × TenantNode)) : List TenantNode :=
  tenant :: above.map Prod.snd

/-- The overrides of these nodes make the endpoint fail. -/
def CrashesOn (floatAsInt : ℚ → Option Int) (path : List TenantNode) : Prop :=
  (∃ item e, FirstBad path.reverse item e ∧ Huge item) ∨
    ((∀ node ∈ path, Sound node) ∧ UnreadableTimeout floatAsInt path)

theorem nearest_issued_at (kept : Kept r)
    (complete : Path r (some tenantId) ((tenantId, tenant) :: above)) :
    nearest "issued_at" (pathOf tenant above) = none := by
  rw [nearest, List.findSome?_eq_none_iff]
  intro node member
  have member : node ∈ ((tenantId, tenant) :: above).map Prod.snd := member
  obtain ⟨entry, among, rfl⟩ := List.mem_map.mp member
  have known := Forests.known_of_path complete among
  rw [Dict.get?_eq_none_iff]
  intro listed
  exact absurd (kept.overrides entry.1 entry.2 known _ listed) (by decide)

/-- A policy resolved without a refusal can be served unless its timeout is unreadable. -/
theorem served_iff (kept : Kept r) (complete : Path r (some tenantId) ((tenantId, tenant) :: above))
    {now : ℚ} (sound : ∀ node ∈ pathOf tenant above, Sound node) {policy : PolicyConfig}
    (fields : ∀ field : PolicyField, field.get policy =
      (nearest field.name (pathOf tenant above)).getD (field.get (basePolicy tenantId now))) :
    (policyToResponse floatAsInt tenantId policy).isSome ↔
      ¬ UnreadableTimeout floatAsInt (pathOf tenant above) := by
  rw [policyToResponse_isSome]
  constructor
  · rintro readable ⟨q, found, none⟩
    have here := readable .timeoutMs
    rw [fields, PolicyField.name, found] at here
    simp [responseType, readAs, none] at here
  · intro timeout field
    rw [fields]
    cases found : nearest field.name (pathOf tenant above) with
    | none => cases field <;> rfl
    | some value =>
      have notIssued : field ≠ .issuedAt := by
        rintro rfl
        rw [PolicyField.name, nearest_issued_at kept complete] at found
        cases found
      have allowed := (accepts_iff_allowed field value).mp
        (nearest_sound sound (name_mem_policyFields field) found)
      rcases readable_of_allowed notIssued allowed with readable | ⟨rfl, q, rfl, unread⟩
      · exact readable
      · exact absurd ⟨q, found, unread⟩ timeout

/-- What GET effective-policy answers for a registered tenant, from its nodes up to the root. -/
structure ServesEffective (floatAsInt : ℚ → Option Int) (tenantId : String) (now : ℚ)
    (path : List TenantNode) (reply : Reply) : Prop where
  refused : reply = .refused 422 "Policy resolution failed" ↔
    ∃ item e, FirstBad path.reverse item e ∧ ¬ Huge item
  crashed : reply = .crashed ↔ CrashesOn floatAsInt path
  served : (∃ response, reply = .policy response) ↔
    (∀ node ∈ path, Sound node) ∧ ¬ UnreadableTimeout floatAsInt path
  fields : ∀ response, reply = .policy response → response.tenantId = tenantId ∧
    response.policy.chainId = tenantId ∧ response.policy.issuedAt = .float (.finite now) ∧
      ∀ field : PolicyField, readAs floatAsInt (responseType field)
        ((nearest field.name path).getD (field.get (basePolicy tenantId now))) =
          some (field.get response.policy)

theorem getEffectivePolicy_serves (kept : Kept r) (found : r.get tenantId = some tenant)
    (complete : Path r tenant.parentId above) (now : ℚ) :
    ServesEffective floatAsInt tenantId now (pathOf tenant above)
      (getEffectivePolicy floatAsInt r tenantId now) := by
  have whole : Path r (some tenantId) ((tenantId, tenant) :: above) := .up found complete
  obtain ⟨above', whole', applied⟩ := resolve_eq kept.inv found (basePolicy tenantId now)
  obtain rfl : above = above' := (List.cons.inj (Forests.path_unique whole whole')).2
  have errors : ∀ e, resolve r tenantId (basePolicy tenantId now) = .error e ↔
      ∃ item, FirstBad (pathOf tenant above).reverse item e := by
    intro e
    rw [applied]
    exact applyChain_first_bad
  cases resolved : resolve r tenantId (basePolicy tenantId now) with
  | error e =>
    obtain ⟨item, first⟩ := (errors e).mp resolved
    have unsound : ¬ ∀ node ∈ pathOf tenant above, Sound node := by
      intro sound
      obtain ⟨node, member, bad⟩ := (resolve_error_iff applied).mp ⟨e, resolved⟩
      exact bad (sound node member)
    -- the first refusal is the only one that counts
    have only : ∀ item' e', FirstBad (pathOf tenant above).reverse item' e' → e' = e := by
      intro item' e' first'
      have again := (errors e').mpr ⟨item', first'⟩
      rw [resolved] at again
      cases again
      rfl
    rcases firstBad_error first with ⟨⟨message, rfl⟩, small⟩ | ⟨⟨message, rfl⟩, huge⟩
    · have reply : getEffectivePolicy floatAsInt r tenantId now =
          .refused 422 "Policy resolution failed" := by
        simp only [getEffectivePolicy, found, resolved]
      have noHuge : ¬ CrashesOn floatAsInt (pathOf tenant above) := by
        rintro (⟨item', e', first', huge⟩ | ⟨sound, _⟩)
        · rcases firstBad_error first' with ⟨_, small⟩ | ⟨⟨other, overflow⟩, _⟩
          · exact small huge
          · rw [only item' e' first'] at overflow
            cases overflow
        · exact unsound sound
      rw [reply]
      exact {
        refused := iff_of_true rfl ⟨item, _, first, small⟩
        crashed := iff_of_false (fun same => by cases same) noHuge
        served := iff_of_false (fun ⟨response, same⟩ => by cases same)
          (fun both => unsound both.1)
        fields := fun response same => by cases same }
    · have reply : getEffectivePolicy floatAsInt r tenantId now = .crashed := by
        simp only [getEffectivePolicy, found, resolved]
      have noSmall : ¬ ∃ item e, FirstBad (pathOf tenant above).reverse item e ∧ ¬ Huge item := by
        rintro ⟨item', e', first', small⟩
        rcases firstBad_error first' with ⟨⟨other, refused⟩, _⟩ | ⟨_, huge⟩
        · rw [only item' e' first'] at refused
          cases refused
        · exact small huge
      rw [reply]
      exact {
        refused := iff_of_false (fun same => by cases same) noSmall
        crashed := iff_of_true rfl (.inl ⟨item, _, first, huge⟩)
        served := iff_of_false (fun ⟨response, same⟩ => by cases same)
          (fun both => unsound both.1)
        fields := fun response same => by cases same }
  | ok policy =>
    have sound : ∀ node ∈ pathOf tenant above, Sound node := sound_of_resolved applied resolved
    obtain ⟨chain, fields⟩ : policy.chainId = tenantId ∧ ∀ field : PolicyField, field.get policy =
        (nearest field.name (pathOf tenant above)).getD (field.get (basePolicy tenantId now)) :=
      resolved_fields applied resolved
    have noFirst : ∀ item e, ¬ FirstBad (pathOf tenant above).reverse item e := by
      intro item e first
      have failed := (errors e).mpr ⟨item, first⟩
      rw [resolved] at failed
      cases failed
    have noRefusal : ¬ ∃ item e, FirstBad (pathOf tenant above).reverse item e ∧ ¬ Huge item :=
      fun ⟨item, e, first, _⟩ => noFirst item e first
    have readable : (policyToResponse floatAsInt tenantId policy).isSome ↔
        ¬ UnreadableTimeout floatAsInt (pathOf tenant above) := served_iff kept whole sound fields
    have reply : getEffectivePolicy floatAsInt r tenantId now =
        (policyToResponse floatAsInt tenantId policy).elim .crashed .policy := by
      simp only [getEffectivePolicy, found, resolved]
    cases served : policyToResponse floatAsInt tenantId policy with
    | none =>
      rw [served] at readable reply
      have timeout : UnreadableTimeout floatAsInt (pathOf tenant above) := by
        by_contra fine
        cases readable.mpr fine
      rw [reply]
      exact {
        refused := iff_of_false (fun same => by cases same) noRefusal
        crashed := iff_of_true rfl (.inr ⟨sound, timeout⟩)
        served := iff_of_false (fun ⟨response, same⟩ => by cases same) (fun both => both.2 timeout)
        fields := fun response same => by cases same }
    | some response =>
      rw [served] at readable reply
      have timeout := readable.mp rfl
      obtain ⟨owner, chainId, read⟩ := policyToResponse_some served
      have issued := read .issuedAt
      rw [fields, PolicyField.name, nearest_issued_at kept whole] at issued
      rw [reply]
      refine {
        refused := iff_of_false (fun same => by cases same) noRefusal
        crashed := iff_of_false (fun same => by cases same) ?_
        served := iff_of_true ⟨response, rfl⟩ ⟨sound, timeout⟩
        fields := ?_ }
      · rintro (⟨item, e, first, _⟩ | ⟨_, unread⟩)
        · exact noFirst item e first
        · exact timeout unread
      · intro other same
        cases same
        refine ⟨owner, chainId.trans chain, (Option.some.inj issued).symm, ?_⟩
        intro field
        rw [← fields, read]

end Effective

section Requests
variable (floatAsInt : ℚ → Option Int)

/-- The requests that are answered with 500: a tenant below one that is as deep as can be, and an
    effective policy with an int too large for a float or a timeout that is no int. -/
def Crashes (r : TenantRegistry) : Request → Prop
  | .create body _ => body.Valid ∧ validateOverrides body.policyOverrides = .ok () ∧
      r.get body.id = none ∧ NoRoom r body.parentId
  | .effectivePolicy tenantId _ => SafeTenantId tenantId ∧ ∃ tenant above,
      r.get tenantId = some tenant ∧ Path r tenant.parentId above ∧
        CrashesOn floatAsInt (pathOf tenant above)
  | _ => False

def serve (r : TenantRegistry) (request : Request) : TenantRegistry :=
  (handle floatAsInt r request).1

/-- What every request does to a registry: a request that is not answered with success changes
    nothing, and the others keep what the endpoints promise. -/
structure Handled (r : TenantRegistry) (request : Request) : Prop where
  kept : Kept (handle floatAsInt r request).1
  unchanged : 400 ≤ (handle floatAsInt r request).2.status → (handle floatAsInt r request).1 = r
  crashed : (handle floatAsInt r request).2 = .crashed ↔ Crashes floatAsInt r request

variable {floatAsInt} {r : TenantRegistry}

theorem handled_same (kept : Kept r) {request : Request} {reply : Reply}
    (handled : handle floatAsInt r request = (r, reply))
    (crashed : reply = .crashed ↔ Crashes floatAsInt r request) : Handled floatAsInt r request := by
  constructor
  case kept => rw [handled]; exact kept
  case unchanged => rw [handled]; exact fun _ => rfl
  case crashed => rw [handled]; exact crashed

theorem handled_done {after : TenantRegistry} (kept : Kept after) {request : Request}
    {reply : Reply} (handled : handle floatAsInt r request = (after, reply))
    (success : reply.status < 400) (fine : ¬ Crashes floatAsInt r request) :
    Handled floatAsInt r request := by
  constructor
  case kept => rw [handled]; exact kept
  case unchanged => rw [handled]; exact fun large => absurd success (not_lt.mpr large)
  case crashed =>
    rw [handled]
    refine iff_of_false ?_ fine
    rintro rfl
    exact absurd success (by norm_num [Reply.status])

theorem handled_create (kept : Kept r) (body : TenantCreateRequest) (now : ℚ) :
    Handled floatAsInt r (.create body now) := by
  by_cases valid : body.Valid
  · have handled : handle floatAsInt r (.create body now) = createTenant r body now := if_pos valid
    rcases createTenant_cases kept valid now with
      ⟨detail, room, eq⟩ | ⟨eq, fine, fresh, full⟩ | ⟨node, after, eq, keptAfter, room⟩
    · refine handled_same kept (handled.trans eq) (iff_of_false (fun same => by cases same) ?_)
      exact fun crash => room ⟨crash.2.1, crash.2.2.1, crash.2.2.2⟩
    · exact handled_same kept (handled.trans eq) (iff_of_true rfl ⟨valid, fine, fresh, full⟩)
    · exact handled_done keptAfter (handled.trans eq) (by norm_num [Reply.status])
        (fun crash => room crash.2.2.2)
  · exact handled_same kept (if_neg valid)
      (iff_of_false (fun same => by cases same) (fun crash => valid crash.1))

theorem handled_update (kept : Kept r) (tenantId : String) (body : TenantUpdateRequest) :
    Handled floatAsInt r (.update tenantId body) := by
  by_cases valid : SafeTenantId tenantId ∧ body.Valid
  · have handled : handle floatAsInt r (.update tenantId body) = updateTenant r tenantId body :=
      if_pos valid
    rcases updateTenant_cases kept valid.1 valid.2 with
      ⟨status, detail, _, eq⟩ | ⟨node, after, eq, keptAfter⟩
    · exact handled_same kept (handled.trans eq) (iff_of_false (fun same => by cases same) id)
    · exact handled_done keptAfter (handled.trans eq) (by norm_num [Reply.status]) id
  · exact handled_same kept (if_neg valid) (iff_of_false (fun same => by cases same) id)

theorem handled_delete (kept : Kept r) (tenantId : String) :
    Handled floatAsInt r (.delete tenantId) := by
  by_cases safe : SafeTenantId tenantId
  · have handled : handle floatAsInt r (.delete tenantId) = deleteTenant r tenantId := if_pos safe
    rcases deleteTenant_cases kept tenantId with ⟨status, detail, _, eq⟩ | ⟨after, eq, keptAfter⟩
    · exact handled_same kept (handled.trans eq) (iff_of_false (fun same => by cases same) id)
    · exact handled_done keptAfter (handled.trans eq) (by norm_num [Reply.status]) id
  · exact handled_same kept (if_neg safe) (iff_of_false (fun same => by cases same) id)

theorem handled_effectivePolicy (kept : Kept r) (tenantId : String) (now : ℚ) :
    Handled floatAsInt r (.effectivePolicy tenantId now) := by
  by_cases safe : SafeTenantId tenantId
  · refine handled_same kept (if_pos safe) ?_
    cases found : r.get tenantId with
    | none =>
      have missing : getEffectivePolicy floatAsInt r tenantId now = notFound tenantId := by
        simp only [getEffectivePolicy, found]
      rw [missing]
      refine iff_of_false (fun same => by cases same) ?_
      rintro ⟨_, tenant, above, registered, _⟩
      rw [found] at registered
      cases registered
    | some tenant =>
      obtain ⟨above, complete, _⟩ := kept.inv.forest tenantId tenant found
      have serves : ServesEffective floatAsInt tenantId now (pathOf tenant above)
          (getEffectivePolicy floatAsInt r tenantId now) :=
        getEffectivePolicy_serves kept found complete now
      rw [serves.crashed]
      constructor
      · exact fun crash => ⟨safe, tenant, above, found, complete, crash⟩
      · rintro ⟨_, tenant', above', found', complete', crash⟩
        rw [found] at found'
        cases found'
        rwa [Forests.path_unique complete complete']
  · exact handled_same kept (if_neg safe)
      (iff_of_false (fun same => by cases same) (fun crash => safe crash.1))

theorem handled (kept : Kept r) (request : Request) : Handled floatAsInt r request := by
  cases request with
  | list => exact handled_same kept rfl (iff_of_false (fun same => by cases same) id)
  | read tenantId =>
    by_cases safe : SafeTenantId tenantId
    · refine handled_same kept (if_pos safe) (iff_of_false ?_ id)
      cases r.get tenantId <;> exact fun same => by cases same
    · exact handled_same kept (if_neg safe) (iff_of_false (fun same => by cases same) id)
  | create body now => exact handled_create kept body now
  | update tenantId body => exact handled_update kept tenantId body
  | delete tenantId => exact handled_delete kept tenantId
  | effectivePolicy tenantId now => exact handled_effectivePolicy kept tenantId now

theorem kept_run (requests : List Request) :
    Kept (Runs.run (serve floatAsInt) TenantRegistry.empty requests) := by
  have keep : ∀ r request, Kept r → True → Kept (serve floatAsInt r request) :=
    fun r request kept _ => (handled kept request).kept
  exact Runs.run_invariant keep kept_empty (Runs.eachStep_true _ requests)

/-- Whatever requests have been answered, tenants have ids and names as declared, override only
    known fields and form a forest of bounded depth; a request answered with an error leaves them
    as they are, and exactly the requests above are answered with 500. -/
theorem requests_keep_tenants (floatAsInt : ℚ → Option Int) (requests : List Request)
    (request : Request) :
    let r := Runs.run (serve floatAsInt) TenantRegistry.empty requests
    Kept r ∧ Handled floatAsInt r request :=
  ⟨kept_run requests, handled (kept_run requests) request⟩

/-- After any requests, GET effective-policy serves a tenant the nearest override of each field
    above the default policy, under its own id and with the time of the request. -/
theorem effective_policy_served (floatAsInt : ℚ → Option Int) (requests : List Request)
    {tenantId : String} (safe : SafeTenantId tenantId) {tenant : TenantNode}
    (found : (Runs.run (serve floatAsInt) TenantRegistry.empty requests).get tenantId =
      some tenant) (now : ℚ) :
    let r := Runs.run (serve floatAsInt) TenantRegistry.empty requests
    ∃ above, Path r tenant.parentId above ∧
      ServesEffective floatAsInt tenantId now (pathOf tenant above)
        (handle floatAsInt r (.effectivePolicy tenantId now)).2 := by
  intro r
  have kept : Kept r := kept_run requests
  obtain ⟨above, complete, _⟩ := kept.inv.forest tenantId tenant found
  refine ⟨above, complete, ?_⟩
  rw [handle, if_pos safe]
  exact getEffectivePolicy_serves kept found complete now

/-- Floats without a fraction are taken for ints. -/
def wholeFloats (q : ℚ) : Option Int := if q.den = 1 then some q.num else none

/-- A timeout of 1500.5 ms passes every check, and then the response cannot be built. -/
def orgCreated : List Request :=
  [.create { id := "org", name := "Org",
             policyOverrides := (∅ : Dict String PyVal).set "timeout_ms" (.float (.finite 1500.5)) }
    1740000000]

example : (handle wholeFloats (Runs.run (serve wholeFloats) .empty orgCreated)
    (.effectivePolicy "org" 1740000001)).2.status = 500 := by
  decide +kernel

/-- With a whole number of milliseconds the policy of a team below is served. -/
def teamCreated : List Request :=
  [.create { id := "org", name := "Org",
             policyOverrides := (∅ : Dict String PyVal).set "timeout_ms" (.float (.finite 1500)) }
    1740000000,
   .create { id := "team", name := "Team", parentId := some "org",
             policyOverrides := (∅ : Dict String PyVal).set "ceiling_steps" (.int 50) }
    1740000000]

theorem team_policy_served : ∃ tenant,
    (Runs.run (serve wholeFloats) TenantRegistry.empty teamCreated).get "team" = some tenant ∧
    let r := Runs.run (serve wholeFloats) TenantRegistry.empty teamCreated
    let reply := (handle wholeFloats r (.effectivePolicy "team" 1740000001)).2
    (∃ above, Path r tenant.parentId above ∧
      ServesEffective wholeFloats "team" 1740000001 (pathOf tenant above) reply) ∧
    reply.status = 200 :=
  ⟨_, rfl, effective_policy_served wholeFloats teamCreated (by decide) rfl 1740000001,
    by decide +kernel⟩

end Requests

end VeronicaTenantApi
