import Veronica.EventConversion

/- The records of the event schema as plain dicts, and the reader of such dicts. How a numeral in a
   string is read, what `repr` shows of a value and what time it is are left open. -/
namespace VeronicaSchema
open VeronicaConversion
open VeronicaTypes (SafetyEvent)

section Reading
variable (numerals : Numerals) (repr : PyVal → String) (now : PyFloat)

/-- `str(x)` -/
def pyStr : PyVal → String
  | .str s => s
  | value => repr value

/-- `data[key]` -/
def item (data : Dict String PyVal) (key : String) : Except PyExc PyVal :=
  match data.get? key with
  | none => .error (.keyError key)
  | some value => .ok value

/-- `data.get(key)` -/
def optional (data : Dict String PyVal) (key : String) : PyVal := (data.get? key).getD .none

def textItem (data : Dict String PyVal) (key : String) : Except PyExc String :=
  (item data key).map (pyStr repr)

def floatItem (data : Dict String PyVal) (key : String) : Except PyExc PyFloat := do
  PyVal.toFloat numerals (← item data key)

def intItem (data : Dict String PyVal) (key : String) : Except PyExc Int := do
  PyVal.toInt numerals (← item data key)

def refuseUnless (fine : Bool) (message : String) : Except PyExc Unit :=
  if fine then .ok () else .error (.valueError message)

def refuseUnlisted (valid : List String) (name text : String) : Except PyExc Unit :=
  refuseUnless (decide (text ∈ valid)) ("Invalid " ++ name ++ ": " ++ repr (.str text))

def refuseNonFinite (name : String) (x : PyFloat) : Except PyExc Unit :=
  refuseUnless x.isfinite ("Non-finite " ++ name ++ ": " ++ repr (.float x))

def readTimestamp (data : Dict String PyVal) : Except PyExc PyFloat :=
  let ts := optional data "timestamp"
  if ts.isNone then .ok now else PyVal.toFloat numerals ts

/-- `StepOutcome.to_dict` -/
def outcomeToDict (o : StepOutcome) : Dict String PyVal where
  entries := [
    ("step_id", .str o.stepId),
    ("chain_id", .str o.chainId),
    ("operation_name", .str o.operationName),
    ("decision", .str o.decision),
    ("cost_usd", .float o.costUsd),
    ("tokens", .int o.tokens),
    ("duration_ms", .float o.durationMs),
    ("policy_hash", .str o.policyHash),
    ("audit_id", .str o.auditId),
    ("timestamp", .float o.timestamp),
    ("schema_version", .str o.schemaVersion),
    ("reason_code", o.reasonCode.elim .none .str)]
  distinct := by simp

/-- `StepOutcome.from_dict` -/
def outcomeFromDict (data : Dict String PyVal) : Except PyExc StepOutcome := do
  let decision ← textItem repr data "decision"
  refuseUnlisted repr validDecisions "decision" decision
  let costUsd ← floatItem numerals data "cost_usd"
  let durationMs ← floatItem numerals data "duration_ms"
  let timestamp ← readTimestamp numerals now data
  refuseNonFinite repr "cost_usd" costUsd
  refuseNonFinite repr "duration_ms" durationMs
  refuseNonFinite repr "timestamp" timestamp
  let rawReason := optional data "reason_code"
  let reasonCode := if rawReason.isNone then none else some (pyStr repr rawReason)
  let stepId ← textItem repr data "step_id"
  let chainId ← textItem repr data "chain_id"
  let operationName ← textItem repr data "operation_name"
  let tokens ← intItem numerals data "tokens"
  let policyHash ← textItem repr data "policy_hash"
  let auditId ← textItem repr data "audit_id"
  let schemaVersion := ((data.get? "schema_version").map (pyStr repr)).getD "1.0"
  .ok {
    stepId
    chainId
    operationName
    decision
    costUsd
    tokens := max 0 tokens
    durationMs
    policyHash
    auditId
    timestamp
    schemaVersion
    reasonCode }

/-- The audit record of one policy decision. -/
structure PolicyDecision where
  decisionId : String
  policyId : String
  policyHash : String
  ruleMatched : String
  verdict : String
  reason : String
  context : Dict String PyVal
  timestamp : PyFloat

def validVerdicts : List String := ["ALLOW", "HALT", "DEGRADE"]

/-- `_safe_context` -/
def safeContext : PyVal → Except PyExc (Dict String PyVal)
  | .none => .ok ∅
  | .dict entries => .ok (Dict.ofEntries entries)
  | raw => .error (.valueError ("context must be a Mapping, got '" ++ raw.typeName ++ "'"))

/-- `PolicyDecision.to_dict` -/
def decisionToDict (d : PolicyDecision) : Dict String PyVal where
  entries := [
    ("decision_id", .str d.decisionId),
    ("policy_id", .str d.policyId),
    ("policy_hash", .str d.policyHash),
    ("rule_matched", .str d.ruleMatched),
    ("verdict", .str d.verdict),
    ("reason", .str d.reason),
    ("context", .dict d.context.entries),
    ("timestamp", .float d.timestamp)]
  distinct := by simp

/-- `PolicyDecision.from_dict` -/
def decisionFromDict (data : Dict String PyVal) : Except PyExc PolicyDecision := do
  let verdict ← textItem repr data "verdict"
  refuseUnlisted repr validVerdicts "verdict" verdict
  let timestamp ← readTimestamp numerals now data
  refuseNonFinite repr "timestamp" timestamp
  let decisionId ← textItem repr data "decision_id"
  let policyId ← textItem repr data "policy_id"
  let policyHash ← textItem repr data "policy_hash"
  let ruleMatched ← textItem repr data "rule_matched"
  let reason ← textItem repr data "reason"
  let context ← safeContext (optional data "context")
  .ok { decisionId, policyId, policyHash, ruleMatched, verdict, reason, context, timestamp }

end Reading

structure OutcomeWellFormed (o : StepOutcome) : Prop where
  decision : o.decision ∈ validDecisions
  costUsd : o.costUsd.isfinite = true
  durationMs : o.durationMs.isfinite = true
  timestamp : o.timestamp.isfinite = true
  tokens : 0 ≤ o.tokens

structure DecisionWellFormed (d : PolicyDecision) : Prop where
  verdict : d.verdict ∈ validVerdicts
  timestamp : d.timestamp.isfinite = true

theorem refuseUnless_ok {fine : Bool} {message : String} {u : Unit} :
    refuseUnless fine message = .ok u ↔ fine = true := by
  cases fine <;> simp [refuseUnless]

section RoundTrip
variable (numerals : Numerals) (repr : PyVal → String) (now : PyFloat)

theorem ofEntries_of_dict (d : Dict String PyVal) : Dict.ofEntries d.entries = d :=
  Dict.ext_entries (Dict.ofEntries_entries d.distinct)

theorem reasonCode_read (reason : Option String) :
    (if (reason.elim PyVal.none PyVal.str).isNone then none
      else some (pyStr repr (reason.elim PyVal.none PyVal.str))) = reason := by
  cases reason <;> rfl

theorem outcomeFromDict_toDict {o : StepOutcome} (well : OutcomeWellFormed o) :
    outcomeFromDict numerals repr now (outcomeToDict o) = .ok o := by
  have decision : decide (o.decision ∈ validDecisions) = true := decide_eq_true well.decision
  have tokens : max 0 o.tokens = o.tokens := max_eq_right well.tokens
  have reason := reasonCode_read repr o.reasonCode
  show (refuseUnless (decide (o.decision ∈ validDecisions)) _ >>= fun _ => _) = _
  rw [decision]
  show (refuseUnless o.costUsd.isfinite _ >>= fun _ => _) = _
  rw [well.costUsd]
  show (refuseUnless o.durationMs.isfinite _ >>= fun _ => _) = _
  rw [well.durationMs]
  show (refuseUnless o.timestamp.isfinite _ >>= fun _ => _) = _
  rw [well.timestamp]
  show Except.ok { o with
    tokens := max 0 o.tokens
    reasonCode := if (o.reasonCode.elim PyVal.none PyVal.str).isNone then none
      else some (pyStr repr (o.reasonCode.elim PyVal.none PyVal.str)) } = Except.ok o
  rw [tokens, reason]

theorem outcomeFromDict_wellFormed {data : Dict String PyVal} {o : StepOutcome}
    (ok : outcomeFromDict numerals repr now data = .ok o) : OutcomeWellFormed o := by
  unfold outcomeFromDict at ok
  obtain ⟨decision, _, ok⟩ := except_bind_ok.mp ok
  obtain ⟨_, listed, ok⟩ := except_bind_ok.mp ok
  obtain ⟨costUsd, _, ok⟩ := except_bind_ok.mp ok
  obtain ⟨durationMs, _, ok⟩ := except_bind_ok.mp ok
  obtain ⟨timestamp, _, ok⟩ := except_bind_ok.mp ok
  obtain ⟨_, finiteCost, ok⟩ := except_bind_ok.mp ok
  obtain ⟨_, finiteDuration, ok⟩ := except_bind_ok.mp ok
  obtain ⟨_, finiteTimestamp, ok⟩ := except_bind_ok.mp ok
  obtain ⟨stepId, _, ok⟩ := except_bind_ok.mp ok
  obtain ⟨chainId, _, ok⟩ := except_bind_ok.mp ok
  obtain ⟨operationName, _, ok⟩ := except_bind_ok.mp ok
  obtain ⟨tokens, _, ok⟩ := except_bind_ok.mp ok
  obtain ⟨policyHash, _, ok⟩ := except_bind_ok.mp ok
  obtain ⟨auditId, _, ok⟩ := except_bind_ok.mp ok
  cases ok
  exact {
    decision := of_decide_eq_true (refuseUnless_ok.mp listed)
    costUsd := refuseUnless_ok.mp finiteCost
    durationMs := refuseUnless_ok.mp finiteDuration
    timestamp := refuseUnless_ok.mp finiteTimestamp
    tokens := le_max_left 0 tokens }

theorem decisionFromDict_toDict {d : PolicyDecision} (well : DecisionWellFormed d) :
    decisionFromDict numerals repr now (decisionToDict d) = .ok d := by
  have verdict : decide (d.verdict ∈ validVerdicts) = true := decide_eq_true well.verdict
  show (refuseUnless (decide (d.verdict ∈ validVerdicts)) _ >>= fun _ => _) = _
  rw [verdict]
  show (refuseUnless d.timestamp.isfinite _ >>= fun _ => _) = _
  rw [well.timestamp]
  show Except.ok { d with context := Dict.ofEntries d.context.entries } = Except.ok d
  rw [ofEntries_of_dict]

theorem decisionFromDict_wellFormed {data : Dict String PyVal} {d : PolicyDecision}
    (ok : decisionFromDict numerals repr now data = .ok d) : DecisionWellFormed d := by
  unfold decisionFromDict at ok
  obtain ⟨verdict, _, ok⟩ := except_bind_ok.mp ok
  obtain ⟨_, listed, ok⟩ := except_bind_ok.mp ok
  obtain ⟨timestamp, _, ok⟩ := except_bind_ok.mp ok
  obtain ⟨_, finite, ok⟩ := except_bind_ok.mp ok
  obtain ⟨decisionId, _, ok⟩ := except_bind_ok.mp ok
  obtain ⟨policyId, _, ok⟩ := except_bind_ok.mp ok
  obtain ⟨policyHash, _, ok⟩ := except_bind_ok.mp ok
  obtain ⟨ruleMatched, _, ok⟩ := except_bind_ok.mp ok
  obtain ⟨reason, _, ok⟩ := except_bind_ok.mp ok
  obtain ⟨context, _, ok⟩ := except_bind_ok.mp ok
  cases ok
  exact {
    verdict := of_decide_eq_true (refuseUnless_ok.mp listed)
    timestamp := refuseUnless_ok.mp finite }

/-- The outcomes some dict is read as are those that are read back from their own dict; so are
    the decisions. -/
theorem records_read_back (o : StepOutcome) (d : PolicyDecision) :
    (outcomeFromDict numerals repr now (outcomeToDict o) = .ok o ↔ OutcomeWellFormed o) ∧
    ((∃ data, outcomeFromDict numerals repr now data = .ok o) ↔ OutcomeWellFormed o) ∧
    (decisionFromDict numerals repr now (decisionToDict d) = .ok d ↔ DecisionWellFormed d) ∧
    ((∃ data, decisionFromDict numerals repr now data = .ok d) ↔ DecisionWellFormed d) := by
  refine ⟨⟨?_, ?_⟩, ⟨?_, ?_⟩, ⟨?_, ?_⟩, ⟨?_, ?_⟩⟩
  · exact outcomeFromDict_wellFormed numerals repr now
  · exact outcomeFromDict_toDict numerals repr now
  · rintro ⟨data, ok⟩
    exact outcomeFromDict_wellFormed numerals repr now ok
  · intro well
    exact ⟨outcomeToDict o, outcomeFromDict_toDict numerals repr now well⟩
  · exact decisionFromDict_wellFormed numerals repr now
  · exact decisionFromDict_toDict numerals repr now
  · rintro ⟨data, ok⟩
    exact decisionFromDict_wellFormed numerals repr now ok
  · intro well
    exact ⟨decisionToDict d, decisionFromDict_toDict numerals repr now well⟩

end RoundTrip

section Converted
variable {V : Type} (objects : Objects V) (event : SafetyEvent V) (env : Surroundings)

theorem clampFloat_finite (x : PyFloat) : (clampFloat x).isfinite = true := by
  cases x <;> rfl

/-- An event's outcome is well formed as soon as the event's time is a number. -/
theorem converted_wellFormed_iff (operationName : Option String) {outcome : StepOutcome}
    (ok : convertEvent objects event env operationName = .ok outcome) :
    OutcomeWellFormed outcome ↔ outcome.timestamp.isfinite = true := by
  unfold convertEvent at ok
  obtain ⟨stepId, _, ok⟩ := except_bind_ok.mp ok
  obtain ⟨chainId, _, ok⟩ := except_bind_ok.mp ok
  obtain ⟨opName, _, ok⟩ := except_bind_ok.mp ok
  obtain ⟨cost, _, ok⟩ := except_bind_ok.mp ok
  obtain ⟨tokensIn, _, ok⟩ := except_bind_ok.mp ok
  obtain ⟨tokensOut, _, ok⟩ := except_bind_ok.mp ok
  obtain ⟨duration, _, ok⟩ := except_bind_ok.mp ok
  obtain ⟨timestamp, _, ok⟩ := except_bind_ok.mp ok
  obtain ⟨decision, mapped, ok⟩ := except_bind_ok.mp ok
  cases ok
  constructor
  · intro well
    exact well.timestamp
  · intro finite
    exact {
      decision := mapDecision_valid objects event env mapped
      costUsd := clampFloat_finite cost
      durationMs := clampFloat_finite duration
      timestamp := finite
      tokens := add_nonneg (le_max_left 0 tokensIn) (le_max_left 0 tokensOut) }

end Converted

end VeronicaSchema
