import Veronica.Stages
import Veronica.Library.Patterns
import Veronica.Library.PyConversions

/- How the ingestor makes an outcome of a kernel event, whose metadata may hold any object. The
   built-ins that look at such an object are left open. -/
namespace VeronicaConversion
open VeronicaStages
open VeronicaTypes (SafetyEvent)

/-- What the built-ins say of an object, which may have methods of its own for them to call. -/
structure Objects (V : Type) where
  str : V → Except PyExc String
  float : V → Except PyExc PyFloat
  int : V → Except PyExc Int
  bool : V → Except PyExc Bool
  /-- the characters of an instance of `str` -/
  text? : V → Option String
  hash : V → Except PyExc Unit
  equals : V → String → Bool

/-- Members of the kernel's Decision enum. -/
inductive Decision where
  | allow
  | halt
  | degrade
  | retry
  | quarantine
  | queue
  deriving DecidableEq

def isHexDigit (c : Char) : Bool := c.isDigit || ('a' ≤ c && c ≤ 'f')

/-- A digest of so many hexadecimal digits. -/
def HexText (digits : Nat) : Type :=
  { s : String // Patterns.OfClass isHexDigit digits digits s.toList }

/-- The kernel's and the library's part: the members' values, SHA-256 of a text, and the UUIDs
    and the time that one conversion would draw. -/
structure Surroundings where
  value : Decision → String
  sha256 : String → HexText 64
  stepUuid : HexText 32
  auditUuid : HexText 32
  now : PyFloat

structure StepOutcome where
  stepId : String
  chainId : String
  operationName : String
  decision : String
  costUsd : PyFloat
  tokens : Int
  durationMs : PyFloat
  policyHash : String
  auditId : String
  timestamp : PyFloat
  schemaVersion : String := "1.0"
  reasonCode : Option String := none

def validDecisions : List String :=
  ["allow", "halt", "degrade", "retry", "quarantine", "queue", "unknown"]

def decisionMap (value : Decision → String) : Dict String String :=
  Dict.ofEntries [(value .allow, "allow"), (value .halt, "halt"), (value .degrade, "degrade"),
    (value .retry, "retry"), (value .quarantine, "quarantine"), (value .queue, "queue")]

def defaultDecision : String := "unknown"
def maxNameLength : Nat := 256
def maxAuditIdLength : Nat := 128

/-- `re.sub(r"[^a-zA-Z0-9_:@.\-]", "_", s)[:256]` -/
def sanitize (s : String) : String :=
  String.ofList ((Patterns.replaced isChainChar '_' s.toList).take maxNameLength)

/-- `max(0.0, x) if math.isfinite(x) else 0.0` -/
def clampFloat : PyFloat → PyFloat
  | .finite q => .finite (max 0 q)
  | _ => .finite 0

section Converting
variable {V : Type} (objects : Objects V) (event : SafetyEvent V)

/-- `dict.get` with an object for the key -/
def lookupObject (d : Dict String String) (key : V) : Except PyExc (Option String) := do
  objects.hash key
  .ok ((d.entries.find? fun entry => objects.equals key entry.1).map Prod.snd)

def mapDecision (env : Surroundings) : Except PyExc String :=
  match event.decision with
  | none => .ok defaultDecision
  | some value =>
    (lookupObject objects (decisionMap env.value) value).map fun found =>
      found.getD defaultDecision

/-- `meta.get(key)`, if it is a string -/
def metaText (key : String) : Option String := (event.metadata.get? key).bind objects.text?

def derivePolicyHash (env : Surroundings) : String :=
  let fallback := (env.sha256 (event.hook ++ ":" ++ event.eventType)).val
  (metaText objects event "policy_hash").elim fallback fun candidate =>
    if Patterns.Matches isHexDigit 64 64 candidate.toList then candidate else fallback

def deriveAuditId (env : Surroundings) : String :=
  (metaText objects event "audit_id").elim env.auditUuid.val fun candidate =>
    if Patterns.Matches isChainChar 1 maxAuditIdLength candidate.toList then candidate
    else env.auditUuid.val

/-- `str(meta.get(key, default))` -/
def metaStr (key default : String) : Except PyExc String :=
  match event.metadata.get? key with
  | none => .ok default
  | some value => objects.str value

/-- `convert(value or 0)`, with 0 for an absent value -/
def orZero {A : Type} (convert : V → Except PyExc A) (zero : A) : Option V → Except PyExc A
  | none => .ok zero
  | some value => do
    if ← objects.bool value then convert value else .ok zero

/-- `x or fallback` for a string that may be None -/
def textOr (x : Option String) (fallback : String) : String :=
  if x.getD "" = "" then fallback else x.getD ""

/-- `str(operation_name or meta.get("operation_name", event.hook))` -/
def rawOperationName (operationName : Option String) : Except PyExc String :=
  if operationName.getD "" = "" then metaStr objects event "operation_name" event.hook
  else .ok (operationName.getD "")

def rawCost : Except PyExc PyFloat :=
  match event.metadata.get? "cost_usd" with
  | none => .ok (.finite 0)
  | some value => objects.float value

/-- The sanitised reason of an event that has a text for one. -/
def reasonCode : Option String :=
  ((event.reason.bind objects.text?).filter fun reason => reason ≠ "").map sanitize

/-- `_convert_event` -/
def convertEvent (env : Surroundings) (operationName : Option String) :
    Except PyExc StepOutcome := do
  let stepId ← metaStr objects event "step_id" (textOr event.requestId env.stepUuid.val)
  let chainId ← metaStr objects event "chain_id" "unknown"
  let opName ← rawOperationName objects event operationName
  let cost ← rawCost objects event
  let tokensIn ← orZero objects objects.int 0
    ((event.metadata.get? "tokens").or (event.metadata.get? "tokens_in"))
  let tokensOut ← orZero objects objects.int 0 (event.metadata.get? "tokens_out")
  let duration ← orZero objects objects.float (.finite 0)
    ((event.metadata.get? "duration_ms").or (event.metadata.get? "elapsed_ms"))
  let timestamp ← event.timestamp.getD (.ok env.now)
  let decision ← mapDecision objects event env
  .ok {
    stepId := sanitize stepId
    chainId := sanitize chainId
    operationName := sanitize opName
    decision
    costUsd := clampFloat cost
    tokens := max 0 tokensIn + max 0 tokensOut
    durationMs := clampFloat duration
    policyHash := derivePolicyHash objects event env
    auditId := deriveAuditId objects event env
    timestamp
    reasonCode := reasonCode objects event }

end Converting

/-- At most 256 characters, all of them safe. -/
def SafeName (s : String) : Prop := Patterns.OfClass isChainChar 0 maxNameLength s.toList

structure Sanitised (outcome : StepOutcome) : Prop where
  stepId : SafeName outcome.stepId
  chainId : SafeName outcome.chainId
  operationName : SafeName outcome.operationName
  reasonCode : ∀ reason, outcome.reasonCode = some reason → SafeName reason
  auditId : Patterns.OfClass isChainChar 1 maxAuditIdLength outcome.auditId.toList
  policyHash : Patterns.OfClass isHexDigit 64 64 outcome.policyHash.toList
  costUsd : outcome.costUsd.isFiniteNonNegative = true
  durationMs : outcome.durationMs.isFiniteNonNegative = true
  tokens : 0 ≤ outcome.tokens
  decision : outcome.decision ∈ validDecisions

/-- The text under the key is of the class but for a newline at its end. -/
def NewlineAfter {V : Type} (objects : Objects V) (event : SafetyEvent V) (key : String)
    (accepts : Char → Bool) (least most : Nat) : Prop :=
  ∃ candidate, metaText objects event key = some candidate ∧
    Patterns.ThenNewline accepts least most candidate.toList

section Sanitising
variable {V : Type} (objects : Objects V) (event : SafetyEvent V) (env : Surroundings)

theorem sanitize_safe (s : String) : SafeName (sanitize s) := by
  rw [SafeName, sanitize, String.toList_ofList]
  exact Patterns.replaced_ofClass (by decide) _ _

theorem clampFloat_nonneg (x : PyFloat) : (clampFloat x).isFiniteNonNegative = true := by
  rw [PyFloat.isFiniteNonNegative_iff]
  cases x with
  | finite q => exact ⟨_, rfl, le_max_left 0 q⟩
  | inf => exact ⟨0, rfl, le_refl 0⟩
  | negInf => exact ⟨0, rfl, le_refl 0⟩
  | nan => exact ⟨0, rfl, le_refl 0⟩

theorem reasonCode_safe {reason : String} (made : reasonCode objects event = some reason) :
    SafeName reason := by
  obtain ⟨raw, _, rfl⟩ := Option.map_eq_some_iff.mp made
  exact sanitize_safe raw

theorem decisionMap_valid (value : Decision → String) : ∀ key decision,
    (decisionMap value).get? key = some decision → decision ∈ validDecisions := by
  refine Dict.forall_ofEntries ?_
  intro e member
  simp only [List.mem_cons, List.not_mem_nil, or_false] at member
  rcases member with rfl | rfl | rfl | rfl | rfl | rfl <;> simp [validDecisions]

theorem defaultDecision_valid : defaultDecision ∈ validDecisions := by decide

/-- Whatever object the decision is, what it is mapped to is one of the schema's. -/
theorem mapDecision_valid {decision : String}
    (mapped : mapDecision objects event env = .ok decision) : decision ∈ validDecisions := by
  unfold mapDecision at mapped
  split at mapped
  · cases mapped
    exact defaultDecision_valid
  · rename_i value named
    obtain ⟨found, looked, rfl⟩ := except_map_ok.mp mapped
    obtain ⟨_, _, same⟩ := except_bind_ok.mp looked
    cases found with
    | none => exact defaultDecision_valid
    | some name =>
      obtain ⟨entry, member, rfl⟩ := Option.map_eq_some_iff.mp (Except.ok.inj same)
      have held := List.mem_of_find?_eq_some member
      exact decisionMap_valid env.value _ _ (Dict.get?_eq_some_iff.mpr held)

/-- A candidate that is matched, and what else there is, is of the class exactly if no newline
    comes after the candidate. -/
theorem derived_iff {accepts : Char → Bool} {least most : Nat} {key fallback : String}
    (refused : accepts '\n' = false) (fine : Patterns.OfClass accepts least most fallback.toList) :
    Patterns.OfClass accepts least most ((metaText objects event key).elim fallback
      fun candidate => if Patterns.Matches accepts least most candidate.toList then candidate
        else fallback).toList ↔ ¬ NewlineAfter objects event key accepts least most := by
  unfold NewlineAfter
  cases metaText objects event key with
  | none => simpa using fine
  | some candidate =>
    simp only [Option.elim_some, Option.some.injEq, exists_eq_left']
    split
    · rename_i matched
      constructor
      · intro inClass newline
        exact Patterns.not_ofClass_of_thenNewline refused newline inClass
      · intro none
        exact (Patterns.matches_iff.mp matched).resolve_right none
    · rename_i unmatched
      refine iff_of_true fine ?_
      intro newline
      exact unmatched (Patterns.matches_iff.mpr (.inr newline))

theorem hexDigit_safe {c : Char} (digit : isHexDigit c = true) : isChainChar c = true := by
  have alphanumeric : c.isAlphanum = true := by
    rw [isHexDigit, Bool.or_eq_true, Bool.and_eq_true, decide_eq_true_eq,
      decide_eq_true_eq] at digit
    show (c.isUpper || (decide ('a' ≤ c) && decide (c ≤ 'z')) || c.isDigit) = true
    rw [Bool.or_eq_true, Bool.or_eq_true, Bool.and_eq_true, decide_eq_true_eq, decide_eq_true_eq]
    rcases digit with decimal | ⟨low, high⟩
    · exact .inr decimal
    · have last : 'f' ≤ 'z' := by decide
      exact .inl (.inr ⟨low, UInt32.le_trans high last⟩)
  simp [isChainChar, alphanumeric]

theorem uuid_safe (uuid : HexText 32) :
    Patterns.OfClass isChainChar 1 maxAuditIdLength uuid.val.toList := by
  obtain ⟨_, least, most, digits⟩ := uuid
  exact ⟨Nat.le_trans (by decide) least, most.trans (by decide),
    fun c member => hexDigit_safe (digits c member)⟩

/-- What ingest accepts it sanitises, unless a newline ends the policy hash or the audit id in
    the metadata. -/
theorem converted_sanitised_iff (operationName : Option String) {outcome : StepOutcome}
    (ok : convertEvent objects event env operationName = .ok outcome) :
    Sanitised outcome ↔ ¬ NewlineAfter objects event "policy_hash" isHexDigit 64 64 ∧
      ¬ NewlineAfter objects event "audit_id" isChainChar 1 maxAuditIdLength := by
  have hash : _ ↔ ¬ NewlineAfter objects event "policy_hash" isHexDigit 64 64 :=
    derived_iff objects event (by decide)
      (env.sha256 (event.hook ++ ":" ++ event.eventType)).property
  have audit : _ ↔ ¬ NewlineAfter objects event "audit_id" isChainChar 1 maxAuditIdLength :=
    derived_iff objects event (by decide) (uuid_safe env.auditUuid)
  rw [← hash, ← audit]
  unfold convertEvent at ok
  obtain ⟨stepId, _, ok⟩ := except_bind_ok.mp ok
  obtain ⟨chainId, _, ok⟩ := except_bind_ok.mp ok
  obtain ⟨opName, _, ok⟩ := except_bind_ok.mp ok
  obtain ⟨cost, _, ok⟩ := except_bind_ok.mp ok
  obtain ⟨tokensIn, _, ok⟩ := except_bind_ok.mp ok
  obtain ⟨tokensOut, _, ok⟩ := except_bind_ok.mp ok
  obtain ⟨duration, _, ok⟩ := except_bind_ok.mp ok
  obtain ⟨timestamp, _, ok⟩ := except_bind_ok.mp ok
  obtain ⟨decision, mapped, ok⟩ := except_bind_ok.mp ok
  cases ok
  constructor
  · intro clean
    exact ⟨clean.policyHash, clean.auditId⟩
  · rintro ⟨policyHash, auditId⟩
    constructor
    case stepId => exact sanitize_safe stepId
    case chainId => exact sanitize_safe chainId
    case operationName => exact sanitize_safe opName
    case reasonCode => exact fun reason made => reasonCode_safe objects event made
    case auditId => exact auditId
    case policyHash => exact policyHash
    case costUsd => exact clampFloat_nonneg cost
    case durationMs => exact clampFloat_nonneg duration
    case tokens => exact add_nonneg (le_max_left 0 tokensIn) (le_max_left 0 tokensOut)
    case decision => exact mapDecision_valid objects event env mapped

end Sanitising

section Plain

/-- The objects JSON can give; `repr` is what `str` shows of the others than strings. -/
def jsonObjects (numerals : Numerals) (repr : PyVal → String) : Objects PyVal where
  str
    | .str s => .ok s
    | value => .ok (repr value)
  float := PyVal.toFloat numerals
  int := PyVal.toInt numerals
  bool
    | .none => .ok false
    | .bool b => .ok b
    | .int n => .ok (n ≠ 0)
    | .float x => .ok (x ≠ .finite 0)
    | .str s => .ok (s ≠ "")
    | .list items => .ok (!items.isEmpty)
    | .dict entries => .ok (!entries.isEmpty)
  text?
    | .str s => some s
    | _ => none
  hash
    | .list _ | .dict _ => .error (.typeError "unhashable type")
    | _ => .ok ()
  equals
    | .str s, key => s = key
    | _, _ => false

def plainObjects : Objects PyVal := jsonObjects ⟨fun _ => none, fun _ => none⟩ fun _ => ""

/-- The digest of the hook and type of the event below. -/
def plainSurroundings : Surroundings where
  value
    | .allow => "allow"
    | .halt => "halt"
    | .degrade => "degrade"
    | .retry => "retry"
    | .quarantine => "quarantine"
    | .queue => "queue"
  sha256 _ :=
    ⟨"638c6f0d8c34fa33c160c743a70aaadaec420f37a993378c3400899b3ca18f69", by decide +kernel⟩
  stepUuid := ⟨"0123456789abcdef0123456789abcdef", by decide +kernel⟩
  auditUuid := ⟨"fedcba9876543210fedcba9876543210", by decide +kernel⟩
  now := .finite 1740000000

def stepEvent (metadata : Dict String PyVal) : SafetyEvent PyVal where
  eventType := "step_completed"
  hook := "budget"
  decision := some (.str "halt")
  requestId := some "request"
  metadata := metadata

/-- The outcome of an event that says nothing but what it costs. -/
def costOutcome : StepOutcome where
  stepId := "request"
  chainId := "unknown"
  operationName := "budget"
  decision := "halt"
  costUsd := .finite 1
  tokens := 0
  durationMs := .finite 0
  policyHash := "638c6f0d8c34fa33c160c743a70aaadaec420f37a993378c3400899b3ca18f69"
  auditId := "fedcba9876543210fedcba9876543210"
  timestamp := .finite 1740000000

theorem cost_event_converted : Sanitised costOutcome ↔
    ¬ NewlineAfter plainObjects (stepEvent (Dict.ofEntries [("cost_usd", .float (.finite 1))]))
        "policy_hash" isHexDigit 64 64 ∧
      ¬ NewlineAfter plainObjects (stepEvent (Dict.ofEntries [("cost_usd", .float (.finite 1))]))
        "audit_id" isChainChar 1 maxAuditIdLength :=
  converted_sanitised_iff plainObjects
    (stepEvent (Dict.ofEntries [("cost_usd", .float (.finite 1))])) plainSurroundings none
    (by rfl)

/-- A policy hash with a newline after it is accepted as it is. -/
theorem newline_after_hash_accepted :
    let hash := "0123456789abcdef0123456789abcdef0123456789abcdef0123456789abcdef\n"
    let event := stepEvent (Dict.ofEntries [("policy_hash", .str hash)])
    ∃ outcome, convertEvent plainObjects event plainSurroundings none = .ok outcome ∧
      outcome.policyHash = hash ∧ ¬ Sanitised outcome := by
  intro hash event
  refine ⟨_, rfl, ?_, ?_⟩
  · decide +kernel
  · intro clean
    have length := clean.policyHash.2.1
    revert length
    decide +kernel

end Plain

end VeronicaConversion
