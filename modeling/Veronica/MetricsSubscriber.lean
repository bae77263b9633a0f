import Veronica.AuditTrail
import Veronica.PgStore
import Veronica.PrometheusSubscriber

/- The two metrics subscribers fed by a VeronicaOS: what PrometheusSubscriber counts and what
   MetricsSubscriber books, against the steps that the store has taken. -/
namespace VeronicaMetrics
open VeronicaTypes VeronicaPipeline VeronicaRuns VeronicaSchema VeronicaPrometheus
open VeronicaAuditTrail (CommittedRow Recording completedPayload afterStep_records)

def knownStages : List String :=
  ["collector", "analyzer", "cost_model", "planner", "arbiter", "store", "emit", "org_policy"]

def micro : ℚ := 1000000

/-- A call of MetricsSubscriber on one of its collectors. Labels are what the payload has. -/
inductive Reading where
  | steps (status kind recommendation riskLevel : PyVal)
  | stepElapsed (kind : PyVal) (ms : PyFloat)
  | stageElapsed (stage : String) (ms : PyFloat)
  | cost (microUsd : Int)
  | degraded (reason : PyVal)
  | denied (kind : PyVal)

/-- The calls a callback has made, and whether an exception has ended it. -/
structure Calls where
  readings : List Reading := []
  raised : Bool := false

namespace Calls

def one (reading : Reading) : Calls := { readings := [reading] }

def andThen (first second : Calls) : Calls :=
  if first.raised then first
  else { readings := first.readings ++ second.readings, raised := second.raised }

/-- `try: ... except (KeyError, TypeError, ValueError): pass` -/
def attempt {T : Type} (value : Except PyExc T) (use : T → Reading) : Calls :=
  match value with
  | .ok x => one (use x)
  | .error (.keyError _) | .error (.typeError _) | .error (.valueError _) => {}
  | .error _ => { raised := true }

end Calls

/-- `round(x)` of a float -/
def roundFloat : PyFloat → Except PyExc Int
  | .finite q => .ok (pyRound q)
  | .nan => .error (.valueError "cannot convert float NaN to integer")
  | .inf | .negInf => .error (.overflowError "cannot convert float infinity to integer")

/-- `x * _MICRO` -/
def inMicros (cost : PyFloat) : PyFloat := Doubles.scaled micro cost

section Callback
variable (numerals : Numerals)

/-- The loop over the stage times; anything but a dict has no `items`. -/
def stageCalls (payload : Payload) : Calls :=
  match (payload.get? "stage_time_ms").getD (.dict []) with
  | .dict entries => entries.foldl (fun calls (stage, ms) =>
      if stage ∈ knownStages then
        calls.andThen (.attempt (ms.toFloat numerals) (.stageElapsed stage))
      else calls) {}
  | _ => { raised := true }

def costCalls (payload : Payload) : Calls :=
  .attempt (do roundFloat (inMicros (← floatItem numerals payload "cost_usd"))) .cost

def degradedCalls (payload : Payload) : Calls :=
  if truthy (optional payload "degraded") then
    let reason := (payload.get? "degrade_reason").getD (.str "other")
    if truthy reason then .one (.degraded reason) else {}
  else {}

def handleStepCompleted (payload : Payload) : Calls :=
  let labelled (key : String) := (payload.get? key).getD (.str "unknown")
  (((Calls.one (.steps (labelled "status") (labelled "kind") (labelled "recommendation")
      (labelled "risk_level"))).andThen
    (.attempt (floatItem numerals payload "elapsed_ms") (.stepElapsed (labelled "kind")))).andThen
    (stageCalls numerals payload)).andThen (costCalls numerals payload) |>.andThen
    (degradedCalls payload)

def handleStepDenied (payload : Payload) : Calls :=
  .one (.denied ((payload.get? "kind").getD (.str "unknown")))

/-- `MetricsSubscriber.__call__` -/
def callback (e : Emission) : Calls :=
  if e.eventType = "step_completed" then handleStepCompleted numerals e.payload
  else if e.eventType = "step_denied" then handleStepDenied e.payload
  else {}

end Callback

def severityName : Severity → String
  | .info => "info"
  | .warning => "warning"
  | .critical => "critical"

def optionalText (text : Option String) : PyVal := text.elim .none .str

/-- The payload of a `step_completed` event as a dict. -/
def completedDict (p : VeronicaAuditTrail.Payload) (stageTimeMs : List (String × ℚ)) : Payload where
  entries := [
    ("schema_version", .int p.schemaVersion),
    ("request_id", .str p.requestId),
    ("step_id", .str p.stepId),
    ("chain_id", .str p.chainId),
    ("kind", .str (VeronicaStages.stepKindName p.kind)),
    ("status", .str (VeronicaHistory.statusName p.status)),
    ("cost_usd", .float p.costUsd),
    ("tokens_in", .int p.tokensIn),
    ("tokens_out", .int p.tokensOut),
    ("elapsed_ms", .float p.elapsedMs),
    ("risk_level", .str (VeronicaPg.riskName p.riskLevel)),
    ("recommendation", .str (VeronicaPg.recommendationName p.recommendation)),
    ("degraded", .bool p.degraded),
    ("degrade_reason", optionalText p.degradeReason),
    ("signals", .list (p.signals.map fun (kind, severity) =>
      .dict [("kind", .str kind), ("severity", .str (severityName severity))])),
    ("stage_time_ms", .dict (stageTimeMs.map fun (stage, ms) => (stage, .float (.finite ms)))),
    ("policy_hash", .str p.policyHash),
    ("audit_id", .str p.auditId)]
  distinct := by simp

/-- The payload of a `step_denied` event. It has no status. -/
def deniedDict (intent : StepIntent) (reason : String) : Payload where
  entries := [
    ("schema_version", .int 1),
    ("request_id", .str intent.requestId),
    ("step_id", .str intent.stepId),
    ("chain_id", .str intent.chainId),
    ("kind", .str (VeronicaStages.stepKindName intent.kind)),
    ("reason", .str reason),
    ("model", optionalText intent.model),
    ("tool_name", optionalText intent.toolName)]
  distinct := by simp

/-- What the emitter is handed for an event. The UUID and the stage times are drawn then. -/
inductive Reports (computePolicyHash : PolicyConfig → String) (setup : Setup) :
    Event → Emission → Prop where
  | completed (outcome : StepOutcome) (analysis : AnalysisResult) (handle : StepHandle)
      (auditId : String) (stageTimeMs : List (String × ℚ)) :
      Reports computePolicyHash setup (.stepCompleted outcome analysis handle)
        { eventType := "step_completed"
          payload := completedDict
            (completedPayload computePolicyHash setup auditId outcome analysis handle) stageTimeMs }
  | denied (intent : StepIntent) (reason : String) :
      Reports computePolicyHash setup (.stepDenied intent reason)
        { eventType := "step_denied", payload := deniedDict intent reason }

/-- The label of a chain of the pipeline. -/
def labelFor (seen : List String) (chainId : String) : String :=
  label seen (pyPrefix chainIdMaxLen (if chainId = "" then labelUnknown else chainId))

/-- A timeout is not among the decisions listed. -/
def decisionOf : StepStatus → String
  | .timeout => labelUnknown
  | status => VeronicaHistory.statusName status

def deniedIntent (setup : Setup) : Call → Option StepIntent
  | .before _ intent _ => if (setup.denial intent).isSome then some intent else none
  | .after _ _ _ => none

/-- What PrometheusSubscriber is to make of a step stored. -/
def rowSamples (seen : List String) (row : CommittedRow) : List Sample :=
  let chainId := labelFor seen row.outcome.chainId
  [.completed chainId (decisionOf row.outcome.status)] ++
    (if row.outcome.status = .halted then [.halted chainId] else []) ++
    (if row.decisionMeta.degraded = true then [.degraded chainId] else []) ++
    [.duration chainId (seconds row.outcome.elapsedMs)]

/-- What it is to make of a step denied. -/
def deniedSample (seen : List String) (intent : StepIntent) : Sample :=
  .denied (labelFor seen intent.chainId) labelUnknown

section Records
variable {P A S : Type} [PlannerProtocol P] [ArbiterProtocol A] [StoreProtocol S]

def completedRow : Event → Option CommittedRow
  | .stepCompleted outcome _ handle =>
    some { outcome, policy := handle.policy, decisionMeta := handle.decisionMeta }
  | .stepDenied _ _ => none

def refusedIntent : Event → Option StepIntent
  | .stepCompleted _ _ _ => none
  | .stepDenied intent _ => some intent

theorem beforeStep_emitted (setup : Setup) (os : VeronicaOS P A S) (intent : StepIntent)
    (t : BeforeTimes) : (os.beforeStep setup intent t).1.emitted =
      os.emitted ++ ((setup.denial intent).map (Event.stepDenied intent)).toList := by
  unfold VeronicaOS.beforeStep VeronicaOS.beforeStepAt
  cases denial : setup.denial intent with
  | some reason => rfl
  | none =>
    dsimp only
    split <;> simp

/-- One call adds the same to the rows and to the completions, and a denial for a denied call. -/
theorem callStep_records (setup : Setup) (s : Running P A (Recording S)) (call : Call) :
    (∃ new, (callStep setup s call).os.store.rows = s.os.store.rows ++ new ∧
      (callStep setup s call).os.emitted.filterMap completedRow =
        s.os.emitted.filterMap completedRow ++ new) ∧
    (callStep setup s call).os.emitted.filterMap refusedIntent =
      s.os.emitted.filterMap refusedIntent ++ (deniedIntent setup call).toList := by
  cases call with
  | before ticket intent t =>
    rw [callStep_before_os, beforeStep_store, beforeStep_emitted]
    cases denial : setup.denial intent with
    | some reason =>
      exact ⟨⟨[], by simp [completedRow]⟩, by simp [deniedIntent, denial, refusedIntent]⟩
    | none => exact ⟨⟨[], by simp⟩, by simp [deniedIntent, denial]⟩
  | after ticket snapshot t =>
    cases found : s.handles.get? ticket with
    | none =>
      simp only [callStep, found]
      exact ⟨⟨[], by simp⟩, by simp [deniedIntent]⟩
    | some handle =>
      simp only [callStep, found]
      rcases afterStep_records setup s.os handle snapshot t with
        ⟨rows, emitted⟩ | ⟨outcome, analysis, rows, emitted⟩
      · rw [rows, emitted]
        exact ⟨⟨[], by simp⟩, by simp [deniedIntent]⟩
      · rw [rows, emitted]
        exact ⟨⟨_, rfl, by simp [completedRow]⟩, by simp [deniedIntent, refusedIntent]⟩

/-- The completions of a run are the rows stored, the denials the calls denied. -/
theorem run_records (setup : Setup) (calls : List Call) (s : Running P A (Recording S))
    (start : s.os.emitted.filterMap completedRow = s.os.store.rows) :
    let after := (Runs.run (callStep setup) s calls).os
    after.emitted.filterMap completedRow = after.store.rows ∧
      after.emitted.filterMap refusedIntent =
        s.os.emitted.filterMap refusedIntent ++ calls.filterMap (deniedIntent setup) := by
  induction calls generalizing s with
  | nil => exact ⟨start, by simp [Runs.run]⟩
  | cons call rest ih =>
    obtain ⟨⟨new, rows, completions⟩, denials⟩ := callStep_records setup s call
    obtain ⟨stored, refused⟩ := ih (callStep setup s call) (by rw [rows, completions, start])
    refine ⟨stored, ?_⟩
    show (Runs.run (callStep setup) (callStep setup s call) rest).os.emitted.filterMap
      refusedIntent = _
    rw [refused, denials, List.append_assoc]
    cases denied : deniedIntent setup call <;> simp [denied]

end Records

section Counting
variable {numerals : Numerals} {repr : PyVal → String} {computePolicyHash : PolicyConfig → String}
  {setup : Setup} {seen : List String}

theorem statusName_decision (status : StepStatus) :
    normalizeDecision (VeronicaHistory.statusName status) = decisionOf status := by
  cases status <;> decide

theorem statusName_halted_iff (status : StepStatus) :
    VeronicaHistory.statusName status = "halted" ↔ status = .halted := by
  cases status <;> decide

theorem statusName_ne_empty (status : StepStatus) : VeronicaHistory.statusName status ≠ "" := by
  cases status <;> decide

theorem safeGet_status (p : VeronicaAuditTrail.Payload) (stageTimeMs : List (String × ℚ)) :
    safeGet repr (completedDict p stageTimeMs) "status" = VeronicaHistory.statusName p.status :=
  if_neg (statusName_ne_empty p.status)

theorem attributed_reported {event : Event} {e : Emission}
    (report : Reports computePolicyHash setup event e) :
    attributed numerals repr seen e = (completedRow event).toList.flatMap (rowSamples seen) ++
      (refusedIntent event).toList.map (deniedSample seen) := by
  cases report with
  | completed outcome analysis handle auditId stageTimeMs =>
    show completedSamples numerals repr (completedDict _ stageTimeMs)
      (labelFor seen outcome.chainId) = _
    simp only [completedSamples, safeGet_status, statusName_decision, statusName_halted_iff]
    simp only [completedRow, refusedIntent, Option.toList_some, Option.toList_none,
      List.flatMap_singleton, List.map_nil, List.append_nil]
    rfl
  | denied intent reason => rfl

theorem attributed_perm {events : List Event} {es : List Emission}
    (reported : List.Forall₂ (Reports computePolicyHash setup) events es) :
    (es.flatMap (attributed numerals repr seen)).Perm
      ((events.filterMap completedRow).flatMap (rowSamples seen) ++
        (events.filterMap refusedIntent).map (deniedSample seen)) := by
  induction reported with
  | nil => exact List.Perm.nil
  | @cons event e events es report _ ih =>
    have rows : ((event :: events).filterMap completedRow).flatMap (rowSamples seen) =
        (completedRow event).toList.flatMap (rowSamples seen) ++
          (events.filterMap completedRow).flatMap (rowSamples seen) := by
      cases stored : completedRow event <;> simp [stored]
    have intents : ((event :: events).filterMap refusedIntent).map (deniedSample seen) =
        (refusedIntent event).toList.map (deniedSample seen) ++
          (events.filterMap refusedIntent).map (deniedSample seen) := by
      cases refused : refusedIntent event <;> simp [refused]
    rw [List.flatMap_cons, attributed_reported report, rows, intents]
    refine (ih.append_left _).trans ?_
    rw [List.append_assoc, List.append_assoc]
    refine List.Perm.append_left _ ?_
    rw [← List.append_assoc, ← List.append_assoc]
    exact List.perm_append_comm.append_right _

end Counting

section Counters
variable {P A S : Type} [PlannerProtocol P] [ArbiterProtocol A] [StoreProtocol S]

def recorded (planner : P) (arbiter : A) (store : S) : Running P A (Recording S) :=
  started (created planner arbiter { store, rows := [] })

/-- Whatever order the threads deliver the events of a run in, once they are done
    PrometheusSubscriber has counted each step that was stored and each call that was denied, once
    and under the label that its chain has now. -/
theorem counters_follow_store (numerals : Numerals) (repr : PyVal → String)
    {computePolicyHash : PolicyConfig → String} {setup : Setup} {planner : P} {arbiter : A}
    {store : S} {calls : List Call} {es : List Emission} {actions : List VeronicaPrometheus.Action}
    (reported : List.Forall₂ (Reports computePolicyHash setup)
      (Runs.run (callStep setup) (recorded planner arbiter store) calls).os.emitted es)
    (delivered : (Runs.shown (VeronicaPrometheus.act numerals repr) (handedIn repr) {}
      actions).Perm es)
    (idle : (Runs.run (VeronicaPrometheus.act numerals repr) {} actions).pending = 0) :
    let rows := (Runs.run (callStep setup) (recorded planner arbiter store) calls).os.store.rows
    let s := Runs.run (VeronicaPrometheus.act numerals repr) {} actions
    let made := Runs.shown (VeronicaPrometheus.act numerals repr) (callsMade repr) {} actions
    made.Perm (List.replicate s.seen.length .newChain ++ rows.flatMap (rowSamples s.seen) ++
      (calls.filterMap (deniedIntent setup)).map (deniedSample s.seen)) := by
  intro rows s made
  let handled := Runs.shown (VeronicaPrometheus.act numerals repr) (handedIn repr) {} actions
  have inv := VeronicaPrometheus.inv_run numerals repr actions
  obtain ⟨stored, refused⟩ := run_records setup calls (recorded planner arbiter store) rfl
  have exactly : (made : Multiset Sample) = Multiset.replicate s.seen.length .newChain +
      (handled.flatMap (attributed numerals repr s.seen) : Multiset Sample) := by
    rw [← inv.samples, idle, add_zero]
  have events : (handled.flatMap (attributed numerals repr s.seen)).Perm
      (rows.flatMap (rowSamples s.seen) ++
        (calls.filterMap (deniedIntent setup)).map (deniedSample s.seen)) := by
    refine (delivered.flatMap_right _).trans ((attributed_perm reported).trans ?_)
    rw [stored, refused]
    exact List.Perm.refl _
  rw [← Multiset.coe_replicate, Multiset.coe_add, Multiset.coe_eq_coe] at exactly
  rw [List.append_assoc]
  exact exactly.trans (events.append_left _)

end Counters

section Examples

def emissionOf (computePolicyHash : PolicyConfig → String) (setup : Setup) (auditId : String) :
    Event → Emission
  | .stepCompleted outcome analysis handle => {
      eventType := "step_completed"
      payload := completedDict
        (completedPayload computePolicyHash setup auditId outcome analysis handle) [] }
  | .stepDenied intent reason =>
    { eventType := "step_denied", payload := deniedDict intent reason }

theorem emissionOf_reports (computePolicyHash : PolicyConfig → String) (setup : Setup)
    (auditId : String) (events : List Event) : List.Forall₂ (Reports computePolicyHash setup) events
      (events.map (emissionOf computePolicyHash setup auditId)) := by
  induction events with
  | nil => exact .nil
  | cons event rest ih =>
    refine .cons ?_ ih
    cases event with
    | stepCompleted outcome analysis handle => exact .completed outcome analysis handle auditId []
    | stepDenied intent reason => exact .denied intent reason

/-- One step that costs half a dollar. -/
def oneStep : List Call :=
  [.before 1 (llmIntent "1") inTime, .after 1 (snapshotOf (1 / 2)) collectedInTime]

def defaultRun : Running VeronicaIssue.AnyPlanner VeronicaIssue.LocalArbiter
    (Recording VeronicaStages.MemoryStore) :=
  recorded (.inl {}) (.inl {}) {}

def oneStepEvents : List Emission :=
  (Runs.run (callStep (defaultSetup 1 none)) defaultRun oneStep).os.emitted.map
    (emissionOf (fun _ => VeronicaAuditTrail.issuedHash) (defaultSetup 1 none)
      VeronicaAuditTrail.stepUuid)

def oneDelivery : List VeronicaPrometheus.Action :=
  oneStepEvents.flatMap fun e => [.enter 0 e, .sample 0, .sample 0]

theorem one_step_counted :
    (Runs.shown (VeronicaPrometheus.act noNumerals fun _ => "") (callsMade fun _ => "") {}
      oneDelivery).Perm
      ([.newChain] ++ ((Runs.run (callStep (defaultSetup 1 none)) defaultRun oneStep).os.store.rows
        ).flatMap (rowSamples ["chain"]) ++ []) :=
  counters_follow_store noNumerals (fun _ => "")
    (emissionOf_reports _ _ _ _) (List.Perm.refl oneStepEvents) rfl

end Examples

def Reading.amount? : Reading → Option Int
  | .cost microUsd => some microUsd
  | _ => none

/-- What the callback asks the cost counter to add. -/
def Calls.amounts (calls : Calls) : List Int := calls.readings.filterMap Reading.amount?

/-- What is added for a step of this cost. NaN cannot be rounded, and is skipped; an infinite
    product raises what the callback does not catch. -/
def bookedMicros (cost : PyFloat) : List Int :=
  match inMicros cost with
  | .finite q => [pyRound q]
  | _ => []

def raises (cost : PyFloat) : Bool :=
  match inMicros cost with
  | .inf | .negInf => true
  | _ => false

/-- No `after_step` call raises. -/
def Quiet {P A S : Type} [ArbiterProtocol A] [StoreProtocol S] (setup : Setup)
    (s : Running P A S) : Call → Prop
  | .before _ _ _ => True
  | .after ticket snapshot t => ∀ handle, s.handles.get? ticket = some handle →
    (s.os.afterStep setup handle snapshot t).2 = .ok ()

/-- What the rows have cost, zero for a cost that is no number. -/
def storedCosts (rows : List CommittedRow) : List ℚ :=
  rows.map fun row => row.outcome.costUsd.finiteOrZero

section Costs
variable (numerals : Numerals) {computePolicyHash : PolicyConfig → String} {setup : Setup}

/-- A call that ends normally and leaves the cost counter alone. -/
def Harmless (calls : Calls) : Prop := calls.raised = false ∧ calls.amounts = []

theorem harmless_one {reading : Reading} (other : reading.amount? = none) :
    Harmless (.one reading) :=
  ⟨rfl, by simp [Calls.amounts, Calls.one, other]⟩

theorem andThen_of_harmless {first : Calls} (harmless : Harmless first) (second : Calls) :
    (first.andThen second).amounts = second.amounts ∧
      (first.andThen second).raised = second.raised := by
  have quiet : ¬ first.raised = true := by
    rw [harmless.1]
    exact Bool.false_ne_true
  have none := harmless.2
  unfold Calls.amounts at none
  simp [Calls.andThen, quiet, Calls.amounts, none]

theorem harmless_andThen {first second : Calls} (harmless : Harmless first)
    (next : Harmless second) : Harmless (first.andThen second) := by
  obtain ⟨amounts, raised⟩ := andThen_of_harmless harmless second
  exact ⟨raised.trans next.1, amounts.trans next.2⟩

theorem andThen_harmless (first : Calls) {second : Calls} (harmless : Harmless second) :
    (first.andThen second).amounts = first.amounts ∧
      (first.andThen second).raised = first.raised := by
  have none := harmless.2
  unfold Calls.amounts at none
  cases raised : first.raised <;>
    simp [Calls.andThen, raised, Calls.amounts, none, harmless.1]

theorem stages_harmless (stageTimeMs : List (String × ℚ)) {calls : Calls}
    (harmless : Harmless calls) :
    Harmless ((stageTimeMs.map fun (stage, ms) => (stage, PyVal.float (.finite ms))).foldl
      (fun calls (stage, ms) =>
        if stage ∈ knownStages then
          calls.andThen (.attempt (ms.toFloat numerals) (.stageElapsed stage))
        else calls) calls) := by
  induction stageTimeMs generalizing calls with
  | nil => exact harmless
  | cons entry rest ih =>
    rw [List.map_cons, List.foldl_cons]
    refine ih ?_
    dsimp only
    split
    · exact harmless_andThen harmless (harmless_one rfl)
    · exact harmless

theorem degradedCalls_harmless (payload : Payload) : Harmless (degradedCalls payload) := by
  unfold degradedCalls
  dsimp only
  split
  · split
    · exact harmless_one rfl
    · exact ⟨rfl, rfl⟩
  · exact ⟨rfl, rfl⟩

theorem callback_completed (p : VeronicaAuditTrail.Payload) (stageTimeMs : List (String × ℚ)) :
    let calls := handleStepCompleted numerals (completedDict p stageTimeMs)
    calls.amounts = bookedMicros p.costUsd ∧ calls.raised = raises p.costUsd := by
  intro calls
  have stages : Harmless (stageCalls numerals (completedDict p stageTimeMs)) :=
    stages_harmless numerals stageTimeMs ⟨rfl, rfl⟩
  have labelled (status kind recommendation riskLevel : PyVal) :
      Harmless (.one (.steps status kind recommendation riskLevel)) := harmless_one rfl
  have elapsed (kind : PyVal) : Harmless (.attempt (floatItem numerals
      (completedDict p stageTimeMs) "elapsed_ms") (.stepElapsed kind)) := harmless_one rfl
  obtain ⟨amounts, raised⟩ := andThen_harmless
    ((((Calls.one _).andThen (.attempt (floatItem numerals (completedDict p stageTimeMs)
      "elapsed_ms") (.stepElapsed _))).andThen (stageCalls numerals (completedDict p stageTimeMs))
      ).andThen (costCalls numerals (completedDict p stageTimeMs)))
    (degradedCalls_harmless (completedDict p stageTimeMs))
  obtain ⟨costAmounts, costRaised⟩ := andThen_of_harmless
    (harmless_andThen (harmless_andThen (labelled _ _ _ _) (elapsed _)) stages)
    (costCalls numerals (completedDict p stageTimeMs))
  have cost : (costCalls numerals (completedDict p stageTimeMs)).amounts = bookedMicros p.costUsd ∧
      (costCalls numerals (completedDict p stageTimeMs)).raised = raises p.costUsd := by
    have read : costCalls numerals (completedDict p stageTimeMs) =
        .attempt (roundFloat (inMicros p.costUsd)) .cost := rfl
    rw [read, bookedMicros, raises]
    cases inMicros p.costUsd <;> exact ⟨rfl, rfl⟩
  exact ⟨amounts.trans (costAmounts.trans cost.1), raised.trans (costRaised.trans cost.2)⟩

end Costs

section Spend
variable {P A S : Type} [ArbiterProtocol A] [StoreProtocol S] (numerals : Numerals)
  {computePolicyHash : PolicyConfig → String} {setup : Setup}

/-- The budget has been charged the running total of what the rows have cost. -/
def Charged (setup : Setup) (os : VeronicaOS P A (Recording S)) : Prop :=
  os.totalSpentUsd = setup.arithmetic.total 0 (storedCosts os.store.rows)

/-- An `after_step` that does not raise accounts for what it stores. -/
theorem afterStep_charged {os : VeronicaOS P A (Recording S)} (charged : Charged setup os)
    (handle : StepHandle) (snapshot : ContextSnapshot) (t : AfterTimes)
    (quiet : (os.afterStep setup handle snapshot t).2 = .ok ()) :
    Charged setup (os.afterStep setup handle snapshot t).1 := by
  rcases afterStep_cases setup os snapshot t handle with ⟨_, eq⟩ | ⟨_, analysis, eq⟩
  · rw [eq]
    exact charged
  · rw [eq] at quiet ⊢
    unfold VeronicaOS.commitStep at quiet ⊢
    dsimp only at quiet ⊢
    rcases VeronicaAuditTrail.recording_commit_cases (StoreProtocol.setBudgetContext
        (os.account setup (setup.collect snapshot t.nowMs) analysis).store setup.requestBudgetUsd
        ((os.account setup (setup.collect snapshot t.nowMs) analysis).remaining setup))
        (setup.collect snapshot t.nowMs) analysis handle.cost handle.desired handle.policy
        handle.decisionMeta with ⟨store, e, committed⟩ | ⟨store, committed⟩
    · rw [committed] at quiet
      cases quiet
    · rw [committed]
      show setup.arithmetic.fl (os.totalSpentUsd +
        (setup.collect snapshot t.nowMs).costUsd.finiteOrZero) =
          setup.arithmetic.total 0 (storedCosts (os.store.rows ++ [_]))
      rw [charged, storedCosts, storedCosts, List.map_append, List.map_singleton,
        Arithmetic.total_concat]

variable [PlannerProtocol P]

theorem callStep_charged (s : Running P A (Recording S)) (call : Call)
    (charged : Charged setup s.os)
    (quiet : Quiet setup s call) : Charged setup (callStep setup s call).os := by
  cases call with
  | before ticket intent t =>
    rw [Charged, callStep_before_os, (beforeStep_counters setup s.os intent t).1, beforeStep_store]
    exact charged
  | after ticket snapshot t =>
    cases found : s.handles.get? ticket with
    | none =>
      simp only [callStep, found]
      exact charged
    | some handle =>
      simp only [callStep, found]
      exact afterStep_charged charged handle snapshot t (quiet handle found)

/-- What the cost counter is asked to add, event by event. -/
def booked (es : List Emission) : List Int :=
  es.flatMap fun e => (callback numerals e).amounts

theorem callback_reported {event : Event} {e : Emission}
    (report : Reports computePolicyHash setup event e) :
    (callback numerals e).amounts =
        (completedRow event).toList.flatMap (fun row => bookedMicros row.outcome.costUsd) ∧
      (callback numerals e).raised =
        (completedRow event).any fun row => raises row.outcome.costUsd := by
  cases report with
  | completed outcome analysis handle auditId stageTimeMs =>
    obtain ⟨amounts, raised⟩ := callback_completed numerals
      (completedPayload computePolicyHash setup auditId outcome analysis handle) stageTimeMs
    refine ⟨amounts.trans ?_, raised⟩
    rw [completedRow, Option.toList_some, List.flatMap_singleton]
    rfl
  | denied intent reason => exact ⟨rfl, rfl⟩

theorem booked_reported {events : List Event} {es : List Emission}
    (reported : List.Forall₂ (Reports computePolicyHash setup) events es) :
    booked numerals es = (events.filterMap completedRow).flatMap
        (fun row => bookedMicros row.outcome.costUsd) ∧
      es.countP (fun e => (callback numerals e).raised) =
        (events.filterMap completedRow).countP fun row => raises row.outcome.costUsd := by
  induction reported with
  | nil => exact ⟨rfl, rfl⟩
  | @cons event e events es report _ ih =>
    obtain ⟨amounts, raised⟩ := callback_reported numerals report
    obtain ⟨bookedLater, raisedLater⟩ := ih
    unfold booked at bookedLater ⊢
    constructor
    · rw [List.flatMap_cons, amounts, bookedLater]
      cases stored : completedRow event <;> simp [stored]
    · rw [List.countP_cons, raised, raisedLater]
      cases stored : completedRow event with
      | none => simp [stored]
      | some row => simp [stored, List.countP_cons]

/-- In every run in which no `after_step` call raises, the cost counter is asked for the micro
    dollars of each row, and the budget is charged the running total of the same costs; the
    callback raises once for each row with too large a cost, and else never. -/
theorem cost_counter_follows_spend {planner : P} {arbiter : A} {store : S}
    {calls : List Call} {es : List Emission}
    (quiet : Runs.EachStep (callStep setup) (Quiet setup) (recorded planner arbiter store) calls)
    (reported : List.Forall₂ (Reports computePolicyHash setup)
      (Runs.run (callStep setup) (recorded planner arbiter store) calls).os.emitted es) :
    let os := (Runs.run (callStep setup) (recorded planner arbiter store) calls).os
    booked numerals es = os.store.rows.flatMap (fun row => bookedMicros row.outcome.costUsd) ∧
      os.totalSpentUsd = setup.arithmetic.total 0 (storedCosts os.store.rows) ∧
      es.countP (fun e => (callback numerals e).raised) =
        os.store.rows.countP fun row => raises row.outcome.costUsd := by
  intro os
  have start : Charged setup (recorded planner arbiter store).os := rfl
  have charged : Charged setup os := Runs.run_invariant (I := fun s => Charged setup s.os)
    (fun s call charged quiet => callStep_charged s call charged quiet) start quiet
  obtain ⟨stored, _⟩ := run_records setup calls (recorded planner arbiter store) rfl
  obtain ⟨amounts, raised⟩ := booked_reported numerals reported
  rw [stored] at amounts raised
  exact ⟨amounts, charged, raised⟩

theorem one_step_booked :
    let os := (Runs.run (callStep (defaultSetup 1 none)) defaultRun oneStep).os
    booked noNumerals oneStepEvents =
        os.store.rows.flatMap (fun row => bookedMicros row.outcome.costUsd) ∧
      os.totalSpentUsd = Arithmetic.exact.total 0 (storedCosts os.store.rows) ∧
      oneStepEvents.countP (fun e => (callback noNumerals e).raised) =
        os.store.rows.countP fun row => raises row.outcome.costUsd :=
  cost_counter_follows_spend noNumerals
    ⟨trivial, fun handle found => by
      cases found
      rfl, trivial⟩ (emissionOf_reports _ _ _ _)

end Spend

end VeronicaMetrics
