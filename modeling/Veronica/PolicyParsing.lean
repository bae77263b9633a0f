import Veronica.Distribution
import Veronica.Library.PyConversions

/- The two ways a policy is read from a request: `_build_policy` of the simulate and rollout
   endpoints and `_build_override_policy` of replay. -/
namespace VeronicaPolicyParsing
open VeronicaDistribution

/-- An HTTPException, or an exception the parser lets through. -/
inductive ParseError where
  | http (statusCode : Nat) (detail : String)
  | python (e : PyExc)

def unprocessable {A : Type} (detail : String) : Except ParseError A := .error (.http 422 detail)

def invalidConfiguration : String := "Invalid policy configuration"

/-- `if not test: raise HTTPException(422, detail)`, where the test may itself raise. -/
def demand (test : Except PyExc Bool) (detail : String) : Except ParseError Unit :=
  match test with
  | .ok true => .ok ()
  | .ok false => unprocessable detail
  | .error e => .error (.python e)

/-- `except (TypeError, ValueError): raise HTTPException(422, ...)` -/
def guarded {A : Type} (x : Except PyExc A) : Except ParseError A :=
  match x with
  | .ok a => .ok a
  | .error (.typeError _) | .error (.valueError _) => unprocessable invalidConfiguration
  | .error e => .error (.python e)

/-- `_REQUIRED_POLICY_FIELDS`, sorted. -/
def requiredPolicyFields : List String := ["ceiling_usd", "chain_id", "on_exceed"]
def validOnExceed : List String := ["halt", "degrade", "queue"]

/-- The optional fields in which a bool is refused. -/
def optionalNumbers : List String :=
  ["ceiling_tokens_out", "ceiling_steps", "timeout_ms", "rate_ceiling_calls",
    "rate_window_seconds"]

def getOrNone (policyDict : Dict String PyVal) (key : String) : PyVal :=
  policyDict.getD key .none

def missingFields (policyDict : Dict String PyVal) : List String :=
  requiredPolicyFields.filter fun key => key ∉ policyDict.keys

def quotedNames (names : List String) : String :=
  "[" ++ ", ".intercalate (names.map fun name => "'" ++ name ++ "'") ++ "]"

section
variable (numerals : Numerals)

/-- A timestamp that may be absent or null. -/
def timestamp (policyDict : Dict String PyVal) (key : String) : Except ParseError PyVal :=
  let value := getOrNone policyDict key
  if value.isNone then .ok .none
  else do
    demand (.ok (!value.isBool)) invalidConfiguration
    let number ← guarded (value.toFloat numerals)
    demand (.ok number.isFiniteNonNegative) (key ++ " must be a finite non-negative number")
    return .float number

def chainIdOf : PyVal → Except ParseError String
  | .str raw =>
    if pyPrefix 256 raw = "" then unprocessable "chain_id must be non-empty"
    else .ok (pyPrefix 256 raw)
  | _ => unprocessable "chain_id must be a string"

def ceilingIsValid (ceilingUsd : PyVal) : Except PyExc Bool :=
  if ceilingUsd.isNumber then ceilingUsd.isFiniteNonNegative else .ok false

/-- `now` is what `time.time()` gives a policy without its own `issued_at`. -/
def buildPolicy (now : ℚ) (policyDict : Dict String PyVal) : Except ParseError PolicyConfig := do
  demand (.ok (missingFields policyDict).isEmpty)
    ("Missing required policy fields: " ++ quotedNames (missingFields policyDict))
  let onExceed := getOrNone policyDict "on_exceed"
  demand (onExceed.inNames validOnExceed)
    "Invalid on_exceed value. Must be one of: ['degrade', 'halt', 'queue']"
  let ceilingUsd := getOrNone policyDict "ceiling_usd"
  demand (ceilingIsValid ceilingUsd) "ceiling_usd must be a non-negative number"
  let deadlineTs ← timestamp numerals policyDict "deadline_ts"
  let expiresAt ← timestamp numerals policyDict "expires_at"
  let chainId ← chainIdOf (getOrNone policyDict "chain_id")
  let issuedAt ← timestamp numerals policyDict "issued_at"
  let priorityRaw := policyDict.getD "priority" (.int 50)
  demand (.ok (!priorityRaw.isBool)) invalidConfiguration
  demand (.ok (optionalNumbers.all fun key => !(getOrNone policyDict key).isBool))
    invalidConfiguration
  let ceiling ← guarded (ceilingUsd.toFloat numerals)
  let priority ← guarded (priorityRaw.toInt numerals)
  return {
    chainId
    ceilingUsd := .float ceiling
    onExceed
    issuedAt := issuedAt.orElse (.float (.finite now))
    ceilingTokensOut := getOrNone policyDict "ceiling_tokens_out"
    ceilingSteps := getOrNone policyDict "ceiling_steps"
    fallbackModel := getOrNone policyDict "fallback_model"
    timeoutMs := getOrNone policyDict "timeout_ms"
    rateWindowSeconds := getOrNone policyDict "rate_window_seconds"
    rateCeilingCalls := getOrNone policyDict "rate_ceiling_calls"
    priority := .int priority
    deadlineTs
    expiresAt
    plannerVersion := getOrNone policyDict "planner_version" }

def overrideError {A : Type} (problem : String) : Except PyExc A :=
  .error (.valueError ("override_policy." ++ problem))

/-- `if not test: raise ValueError(...)` -/
def require (test : Bool) (problem : String) : Except PyExc Unit :=
  if test then .ok () else overrideError problem

/-- `float(value)` with its errors named, then the range check. -/
def finiteNumber (key : String) (value : PyVal) : Except PyExc PyFloat :=
  match value.toFloat numerals with
  | .error (.typeError _) | .error (.valueError _) => overrideError (key ++ " must be numeric")
  | .error e => .error e
  | .ok number =>
    if number.isFiniteNonNegative then .ok number
    else overrideError (key ++ " must be a finite non-negative number")

def wholeNumber (key : String) : PyVal → Except PyExc PyVal
  | .none => .ok .none
  | .int n => if n < 0 then overrideError (key ++ " must be >= 0") else .ok (.int n)
  | _ => overrideError (key ++ " must be an integer")

def overrideChainId : PyVal → Except PyExc String
  | .str s =>
    if pyStrip s = "" then overrideError "chain_id must be a non-empty string"
    else .ok (pyStrip s)
  | _ => overrideError "chain_id must be a non-empty string"

def overrideTimeout (value : PyVal) : Except PyExc PyVal :=
  if value.isNone then .ok .none
  else do
    require (!value.isBool) "timeout_ms must be a number"
    let timeoutMs ← finiteNumber numerals "timeout_ms" value
    return .float timeoutMs

def overridePriority : PyVal → Except PyExc PyVal
  | .int n =>
    if 0 ≤ n ∧ n ≤ 100 then .ok (.int n)
    else overrideError ("priority must be 0-100, got " ++ toString n)
  | _ => overrideError "priority must be an integer"

def buildOverridePolicy (now : ℚ) (override : Dict String PyVal) : Except PyExc PolicyConfig := do
  let chainId ← overrideChainId (getOrNone override "chain_id")
  let ceilingUsd := getOrNone override "ceiling_usd"
  require (!ceilingUsd.isNone) "ceiling_usd is required"
  require (!ceilingUsd.isBool) "ceiling_usd must be numeric"
  let onExceed := override.getD "on_exceed" (.str "halt")
  let known ← onExceed.inNames validOnExceed
  require known "on_exceed must be halt/degrade/queue"
  let ceiling ← finiteNumber numerals "ceiling_usd" ceilingUsd
  let ceilingSteps ← wholeNumber "ceiling_steps" (getOrNone override "ceiling_steps")
  let ceilingTokensOut ←
    wholeNumber "ceiling_tokens_out" (getOrNone override "ceiling_tokens_out")
  let timeoutMs ← overrideTimeout numerals (getOrNone override "timeout_ms")
  let priority ← overridePriority (override.getD "priority" (.int 50))
  let issuedAtRaw := override.getD "issued_at" (.float (.finite now))
  require (!issuedAtRaw.isBool) "issued_at must be a number"
  let issuedAt ← finiteNumber numerals "issued_at" issuedAtRaw
  return {
    chainId
    ceilingUsd := .float ceiling
    onExceed
    issuedAt := .float issuedAt
    ceilingSteps
    ceilingTokensOut
    fallbackModel := getOrNone override "fallback_model"
    timeoutMs
    priority }

/-- What `_build_policy` has checked of a body it accepts, and where the fields come from. -/
structure Parsed (now : ℚ) (policyDict : Dict String PyVal) (p : PolicyConfig) : Prop where
  chain : chainIdOf (getOrNone policyDict "chain_id") = .ok p.chainId
  numberCeiling : (getOrNone policyDict "ceiling_usd").isNumber = true
  onExceed : p.onExceed = getOrNone policyDict "on_exceed"
  known : (getOrNone policyDict "on_exceed").inNames validOnExceed = .ok true
  present : "on_exceed" ∈ policyDict.keys
  ceiling : ∃ q : ℚ, (getOrNone policyDict "ceiling_usd").toFloat numerals = .ok (.finite q) ∧
    0 ≤ q ∧ p.ceilingUsd = .float (.finite q)
  deadline : timestamp numerals policyDict "deadline_ts" = .ok p.deadlineTs
  expiry : timestamp numerals policyDict "expires_at" = .ok p.expiresAt
  issued : ∃ issuedAt, timestamp numerals policyDict "issued_at" = .ok issuedAt ∧
    p.issuedAt = issuedAt.orElse (.float (.finite now))
  noBool : ∀ key ∈ optionalNumbers, (getOrNone policyDict key).isBool = false
  priority : ∃ n, (policyDict.getD "priority" (.int 50)).toInt numerals = .ok n ∧
    p.priority = .int n
  tokens : p.ceilingTokensOut = getOrNone policyDict "ceiling_tokens_out"
  steps : p.ceilingSteps = getOrNone policyDict "ceiling_steps"
  fallback : p.fallbackModel = getOrNone policyDict "fallback_model"
  timeout : p.timeoutMs = getOrNone policyDict "timeout_ms"
  window : p.rateWindowSeconds = getOrNone policyDict "rate_window_seconds"
  calls : p.rateCeilingCalls = getOrNone policyDict "rate_ceiling_calls"
  planner : p.plannerVersion = getOrNone policyDict "planner_version"

/-- The same of `_build_override_policy`, as far as replay reads the policy. -/
structure OverrideParsed (override : Dict String PyVal) (p : PolicyConfig) : Prop where
  chain : overrideChainId (getOrNone override "chain_id") = .ok p.chainId
  onExceed : p.onExceed = override.getD "on_exceed" (.str "halt")
  known : (override.getD "on_exceed" (.str "halt")).inNames validOnExceed = .ok true
  ceiling : ∃ q : ℚ, (getOrNone override "ceiling_usd").toFloat numerals = .ok (.finite q) ∧
    0 ≤ q ∧ p.ceilingUsd = .float (.finite q)
  steps : p.ceilingSteps = getOrNone override "ceiling_steps" ∧
    (p.ceilingSteps = .none ∨ ∃ n : Int, p.ceilingSteps = .int n ∧ 0 ≤ n)
  tokens : p.ceilingTokensOut = getOrNone override "ceiling_tokens_out" ∧
    (p.ceilingTokensOut = .none ∨ ∃ n : Int, p.ceilingTokensOut = .int n ∧ 0 ≤ n)
  fallback : p.fallbackModel = getOrNone override "fallback_model"
  timeout : overrideTimeout numerals (getOrNone override "timeout_ms") = .ok p.timeoutMs
  priority : ∃ n : Int, override.getD "priority" (.int 50) = .int n ∧ p.priority = .int n
  issued : getOrNone override "issued_at" = .none ∨
    ((getOrNone override "issued_at").isBool = false ∧
      ∃ q : ℚ, (getOrNone override "issued_at").toFloat numerals = .ok (.finite q) ∧ 0 ≤ q)
  timeless : p.deadlineTs = .none ∧ p.expiresAt = .none

end

@[simp] theorem demand_ok_iff {test : Except PyExc Bool} {detail : String} :
    demand test detail = .ok () ↔ test = .ok true := by
  unfold demand
  split <;> simp_all [unprocessable]

theorem guarded_ok_iff {A : Type} {x : Except PyExc A} {a : A} :
    guarded x = .ok a ↔ x = .ok a := by
  unfold guarded
  split <;> simp_all [unprocessable]

/-- A timestamp is None exactly where the body has none, and else finite and not negative. -/
theorem timestamp_ok {numerals : Numerals} {policyDict : Dict String PyVal} {key : String}
    {value : PyVal} (ok : timestamp numerals policyDict key = .ok value) :
    ((getOrNone policyDict key).isNone = true ∧ value = .none) ∨
      ∃ q : ℚ, 0 ≤ q ∧ value = .float (.finite q) := by
  unfold timestamp at ok
  dsimp only at ok
  split at ok
  · rename_i none
    cases ok
    exact Or.inl ⟨none, rfl⟩
  · obtain ⟨_, _, ok⟩ := except_bind_ok.mp ok
    obtain ⟨number, _, ok⟩ := except_bind_ok.mp ok
    obtain ⟨_, finite, ok⟩ := except_bind_ok.mp ok
    obtain ⟨q, rfl, nonneg⟩ :=
      PyFloat.isFiniteNonNegative_iff.mp (Except.ok.inj (demand_ok_iff.mp finite))
    cases ok
    exact Or.inr ⟨q, nonneg, rfl⟩

theorem getD_of_present {d : Dict String PyVal} {key : String} (present : key ∈ d.keys)
    (fallback : PyVal) : d.getD key fallback = getOrNone d key := by
  cases found : d.get? key with
  | none => exact absurd present (Dict.get?_eq_none_iff.mp found)
  | some value => simp [Dict.getD, getOrNone, found]

theorem present_of_required {policyDict : Dict String PyVal} {key : String}
    (required : key ∈ requiredPolicyFields) (complete : (missingFields policyDict).isEmpty = true) :
    key ∈ policyDict.keys := by
  rw [missingFields, List.isEmpty_iff, List.filter_eq_nil_iff] at complete
  simpa using complete key required

theorem buildPolicy_ok {numerals : Numerals} {now : ℚ} {policyDict : Dict String PyVal}
    {p : PolicyConfig} (ok : buildPolicy numerals now policyDict = .ok p) :
    Parsed numerals now policyDict p := by
  unfold buildPolicy at ok
  obtain ⟨_, complete, ok⟩ := except_bind_ok.mp ok
  obtain ⟨_, known, ok⟩ := except_bind_ok.mp ok
  obtain ⟨_, ceilingChecked, ok⟩ := except_bind_ok.mp ok
  obtain ⟨deadlineTs, deadline, ok⟩ := except_bind_ok.mp ok
  obtain ⟨expiresAt, expiry, ok⟩ := except_bind_ok.mp ok
  obtain ⟨chainId, chain, ok⟩ := except_bind_ok.mp ok
  obtain ⟨issuedAt, issued, ok⟩ := except_bind_ok.mp ok
  obtain ⟨_, _, ok⟩ := except_bind_ok.mp ok
  obtain ⟨_, noBool, ok⟩ := except_bind_ok.mp ok
  obtain ⟨ceiling, converted, ok⟩ := except_bind_ok.mp ok
  obtain ⟨priority, convertedPriority, ok⟩ := except_bind_ok.mp ok
  cases ok
  constructor <;> try rfl
  case chain => exact chain
  case numberCeiling =>
    have valid := demand_ok_iff.mp ceilingChecked
    unfold ceilingIsValid at valid
    split at valid
    · assumption
    · cases valid
  case known => exact demand_ok_iff.mp known
  case present =>
    exact present_of_required (by decide) (Except.ok.inj (demand_ok_iff.mp complete))
  case ceiling =>
    have valid := demand_ok_iff.mp ceilingChecked
    unfold ceilingIsValid at valid
    split at valid
    · rename_i number
      obtain ⟨q, eq, nonneg⟩ := (PyVal.toFloat_number numerals number).mp valid
      have same := guarded_ok_iff.mp converted
      rw [eq] at same
      cases same
      exact ⟨q, eq, nonneg, rfl⟩
    · cases valid
  case deadline => exact deadline
  case expiry => exact expiry
  case issued => exact ⟨issuedAt, issued, rfl⟩
  case noBool =>
    have none := Except.ok.inj (demand_ok_iff.mp noBool)
    simpa [List.all_eq_true] using none
  case priority => exact ⟨priority, guarded_ok_iff.mp convertedPriority, rfl⟩

theorem require_ok {test : Bool} {problem : String} (ok : require test problem = .ok ()) :
    test = true := by
  unfold require at ok
  split at ok
  · assumption
  · cases ok

theorem finiteNumber_ok {numerals : Numerals} {key : String} {value : PyVal} {x : PyFloat}
    (ok : finiteNumber numerals key value = .ok x) :
    ∃ q : ℚ, value.toFloat numerals = .ok (.finite q) ∧ 0 ≤ q ∧ x = .finite q := by
  unfold finiteNumber at ok
  split at ok
  · cases ok
  · cases ok
  · cases ok
  · rename_i number converted
    split at ok
    · rename_i finite
      obtain ⟨q, rfl, nonneg⟩ := PyFloat.isFiniteNonNegative_iff.mp finite
      cases ok
      exact ⟨q, converted, nonneg, rfl⟩
    · cases ok

theorem wholeNumber_ok {key : String} {value whole : PyVal}
    (ok : wholeNumber key value = .ok whole) :
    whole = value ∧ (whole = .none ∨ ∃ n : Int, whole = .int n ∧ 0 ≤ n) := by
  cases value with
  | none =>
    cases ok
    exact ⟨rfl, Or.inl rfl⟩
  | int n =>
    simp only [wholeNumber] at ok
    split at ok
    · cases ok
    · rename_i nonneg
      cases ok
      exact ⟨rfl, Or.inr ⟨n, rfl, not_lt.mp nonneg⟩⟩
  | bool | float | str | list | dict => cases ok

theorem overridePriority_ok {value priority : PyVal} (ok : overridePriority value = .ok priority) :
    ∃ n : Int, value = .int n ∧ priority = .int n := by
  cases value with
  | int n =>
    simp only [overridePriority] at ok
    split at ok
    · cases ok
      exact ⟨n, rfl, rfl⟩
    · cases ok
  | none | bool | float | str | list | dict => cases ok

theorem buildOverridePolicy_ok {numerals : Numerals} {now : ℚ} {override : Dict String PyVal}
    {p : PolicyConfig} (ok : buildOverridePolicy numerals now override = .ok p) :
    OverrideParsed numerals override p := by
  unfold buildOverridePolicy at ok
  obtain ⟨chainId, chain, ok⟩ := except_bind_ok.mp ok
  obtain ⟨_, _, ok⟩ := except_bind_ok.mp ok
  obtain ⟨_, _, ok⟩ := except_bind_ok.mp ok
  obtain ⟨known, named, ok⟩ := except_bind_ok.mp ok
  obtain ⟨_, isKnown, ok⟩ := except_bind_ok.mp ok
  obtain ⟨ceiling, converted, ok⟩ := except_bind_ok.mp ok
  obtain ⟨ceilingSteps, steps, ok⟩ := except_bind_ok.mp ok
  obtain ⟨ceilingTokensOut, tokens, ok⟩ := except_bind_ok.mp ok
  obtain ⟨timeoutMs, timeout, ok⟩ := except_bind_ok.mp ok
  obtain ⟨priority, ranged, ok⟩ := except_bind_ok.mp ok
  obtain ⟨_, noBool, ok⟩ := except_bind_ok.mp ok
  obtain ⟨issuedAt, issued, ok⟩ := except_bind_ok.mp ok
  cases ok
  constructor
  case chain => exact chain
  case onExceed => rfl
  case known => rw [named, require_ok isKnown]
  case fallback => rfl
  case issued =>
    obtain ⟨q, eq, nonneg, _⟩ := finiteNumber_ok issued
    cases given : override.get? "issued_at" with
    | none => exact Or.inl (by rw [getOrNone, Dict.getD, given]; rfl)
    | some raw =>
      have notBool := require_ok noBool
      simp only [Dict.getD, given, Option.getD_some, Bool.not_eq_true'] at notBool eq
      refine Or.inr ⟨?_, q, ?_, nonneg⟩
      · rw [getOrNone, Dict.getD, given]
        exact notBool
      · rw [getOrNone, Dict.getD, given]
        exact eq
  case ceiling =>
    obtain ⟨q, eq, nonneg, rfl⟩ := finiteNumber_ok converted
    exact ⟨q, eq, nonneg, rfl⟩
  case steps => exact wholeNumber_ok steps
  case tokens => exact wholeNumber_ok tokens
  case timeout => exact timeout
  case priority => exact overridePriority_ok ranged
  case timeless => exact ⟨rfl, rfl⟩

end VeronicaPolicyParsing
