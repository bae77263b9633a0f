import Veronica.PipelineRuns

/- The two halves of the audit record: the meta data a store is handed with a step, and the
   event emitted for it. -/
namespace VeronicaAuditTrail
open VeronicaTypes VeronicaPipeline VeronicaRuns

/-- The payload of a `step_completed` event, but for its stage times. -/
structure Payload where
  schemaVersion : Nat
  requestId : String
  stepId : String
  chainId : String
  kind : StepKind
  status : StepStatus
  costUsd : PyFloat
  tokensIn : Int
  tokensOut : Int
  elapsedMs : PyFloat
  riskLevel : RiskLevel
  recommendation : Recommendation
  degraded : Bool
  degradeReason : Option String
  signals : List (String × Severity)
  policyHash : String
  auditId : String

def degradeReason (setup : Setup) (handle : StepHandle) : Option String :=
  if handle.decisionMeta.degraded = false then none
  else if handle.policy.fallbackModel.isSome then some "fallback_model"
  else if handle.decisionMeta.stageTimeMs.any fun (stage, elapsed) =>
      let budget := setup.stageBudgetsMs.getD stage 0
      decide (0 < budget) && decide (budget < elapsed) then some "time_budget"
  else some "other"

/-- `auditId` is the UUID drawn while the payload is built. -/
def completedPayload (computePolicyHash : PolicyConfig → String) (setup : Setup)
    (auditId : String) (outcome : StepOutcome) (analysis : AnalysisResult)
    (handle : StepHandle) : Payload where
  schemaVersion := 1
  requestId := outcome.requestId
  stepId := outcome.stepId
  chainId := outcome.chainId
  kind := outcome.kind
  status := outcome.status
  costUsd := outcome.costUsd
  tokensIn := outcome.tokensIn
  tokensOut := outcome.tokensOut
  elapsedMs := outcome.elapsedMs
  riskLevel := analysis.riskLevel
  recommendation := analysis.recommendation
  degraded := handle.decisionMeta.degraded
  degradeReason := degradeReason setup handle
  signals := analysis.signals.map fun signal => (signal.kind, signal.severity)
  policyHash := computePolicyHash handle.policy
  auditId := auditId

def payloadOf (computePolicyHash : PolicyConfig → String) (setup : Setup) (auditId : String) :
    Event → Option Payload
  | .stepDenied _ _ => none
  | .stepCompleted outcome analysis handle =>
    some (completedPayload computePolicyHash setup auditId outcome analysis handle)

structure CommittedRow where
  outcome : StepOutcome
  policy : PolicyConfig
  decisionMeta : DecisionMeta

structure Recording (S : Type) where
  store : S
  rows : List CommittedRow

instance {S : Type} [StoreProtocol S] : StoreProtocol (Recording S) where
  buildHistory r chainId := StoreProtocol.buildHistory r.store chainId
  commit r outcome analysis cost desired policy decisionMeta :=
    match StoreProtocol.commit r.store outcome analysis cost desired policy decisionMeta with
    | (store, .ok ()) =>
      ({ store, rows := r.rows ++ [{ outcome, policy, decisionMeta }] }, .ok ())
    | (store, .error e) => ({ r with store }, .error e)
  setBudgetContext r ceilingUsd remainingUsd :=
    { r with store := StoreProtocol.setBudgetContext r.store ceilingUsd remainingUsd }

variable {P A S : Type} [PlannerProtocol P] [ArbiterProtocol A] [StoreProtocol S]

/-- A run of the pipeline over such a store, and the payloads handed to the emitter. -/
structure Audited (P A S : Type) where
  running : Running P A (Recording S)
  payloads : List Payload

def Audited.rows (s : Audited P A S) : List CommittedRow := s.running.os.store.rows

structure AuditedCall where
  call : Call
  auditId : String

def audit (computePolicyHash : PolicyConfig → String) (setup : Setup) (s : Audited P A S)
    (a : AuditedCall) : Audited P A S :=
  let running := callStep setup s.running a.call
  let emitted := running.os.emitted.drop s.running.os.emitted.length
  { running
    payloads := s.payloads ++ emitted.filterMap (payloadOf computePolicyHash setup a.auditId) }

/-- `uuid4().hex` has 32 digits. -/
def DrawsUuid (_ : Audited P A S) (a : AuditedCall) : Prop := a.auditId.length = 32

def auditStart (planner : P) (arbiter : A) (store : S) : Audited P A S :=
  { running := started (created planner arbiter { store, rows := [] }), payloads := [] }

/-- The record of one committed step in the store and among the events. -/
structure Mismatched (computePolicyHash : PolicyConfig → String) (row : CommittedRow)
    (payload : Payload) : Prop where
  step : payload.stepId = row.outcome.stepId
  hash : payload.policyHash = computePolicyHash row.policy
  rowHash : row.decisionMeta.policyHash ≠ computePolicyHash row.policy
  auditId : row.decisionMeta.auditId ≠ payload.auditId

def Unfilled (decisionMeta : DecisionMeta) : Prop :=
  decisionMeta.policyHash = "" ∧ decisionMeta.auditId = ""

/-- Neither `before_step` path fills the audit fields. -/
theorem beforeStep_unfilled {setup : Setup} {os os' : VeronicaOS P A S} {intent : StepIntent}
    {t : BeforeTimes} {handle : StepHandle}
    (issued : os.beforeStep setup intent t = (os', .ok handle)) :
    Unfilled handle.decisionMeta := by
  unfold VeronicaOS.beforeStep VeronicaOS.beforeStepAt at issued
  split at issued
  · cases issued
    exact ⟨rfl, rfl⟩
  · split at issued
    · cases issued
    · cases issued
      exact ⟨rfl, rfl⟩

theorem beforeStep_records (setup : Setup) (os : VeronicaOS P A S) (intent : StepIntent)
    (t : BeforeTimes) : (os.beforeStep setup intent t).1.store = os.store ∧
      ((os.beforeStep setup intent t).1.emitted = os.emitted ∨
        ∃ reason, (os.beforeStep setup intent t).1.emitted =
          os.emitted ++ [.stepDenied intent reason]) := by
  refine ⟨beforeStep_store setup os intent t, ?_⟩
  unfold VeronicaOS.beforeStep VeronicaOS.beforeStepAt
  split
  · rename_i reason _
    exact Or.inr ⟨reason, rfl⟩
  · split <;> exact Or.inl rfl

theorem recording_commit_cases (r : Recording S) (outcome : StepOutcome)
    (analysis : AnalysisResult) (cost : CostEstimate) (desired : DesiredPolicy)
    (policy : PolicyConfig) (decisionMeta : DecisionMeta) :
    (∃ store e, StoreProtocol.commit r outcome analysis cost desired policy decisionMeta =
      ({ r with store }, .error e)) ∨
    (∃ store, StoreProtocol.commit r outcome analysis cost desired policy decisionMeta =
      ({ store, rows := r.rows ++ [{ outcome, policy, decisionMeta }] }, .ok ())) := by
  cases committed : StoreProtocol.commit r.store outcome analysis cost desired policy
      decisionMeta with
  | mk store result =>
    cases result with
    | error e => exact Or.inl ⟨store, e, by simp only [StoreProtocol.commit, committed]⟩
    | ok _ => exact Or.inr ⟨store, by simp only [StoreProtocol.commit, committed]⟩

omit [PlannerProtocol P] in
/-- `after_step` stores a row and emits a completion, or neither. -/
theorem afterStep_records (setup : Setup) (os : VeronicaOS P A (Recording S))
    (handle : StepHandle) (snapshot : ContextSnapshot) (t : AfterTimes) :
    let after := (os.afterStep setup handle snapshot t).1
    (after.store.rows = os.store.rows ∧ after.emitted = os.emitted) ∨
    ∃ outcome analysis,
      after.store.rows = os.store.rows ++
        [{ outcome, policy := handle.policy, decisionMeta := handle.decisionMeta }] ∧
      after.emitted = os.emitted ++ [.stepCompleted outcome analysis handle] := by
  intro after
  rcases afterStep_cases setup os snapshot t handle with ⟨_, eq⟩ | ⟨_, analysis, eq⟩
  · left
    simp only [after, eq, and_self]
  · have afterEq : after = _ := congrArg Prod.fst eq
    unfold VeronicaOS.commitStep at afterEq
    dsimp only at afterEq
    rcases recording_commit_cases (StoreProtocol.setBudgetContext
        (os.account setup (setup.collect snapshot t.nowMs) analysis).store setup.requestBudgetUsd
        ((os.account setup (setup.collect snapshot t.nowMs) analysis).remaining setup))
        (setup.collect snapshot t.nowMs) analysis handle.cost handle.desired handle.policy
        handle.decisionMeta with ⟨store, e, committed⟩ | ⟨store, committed⟩
    · rw [committed] at afterEq
      rw [afterEq]
      exact Or.inl ⟨rfl, rfl⟩
    · rw [committed] at afterEq
      rw [afterEq]
      exact Or.inr ⟨setup.collect snapshot t.nowMs, analysis, rfl, rfl⟩

/-- Open handles and stored rows have empty audit fields, events have not. -/
structure Inv (computePolicyHash : PolicyConfig → String) (s : Audited P A S) : Prop where
  handles : ∀ ticket handle, s.running.handles.get? ticket = some handle →
    Unfilled handle.decisionMeta
  rows : ∀ row ∈ s.rows, Unfilled row.decisionMeta
  payloads : ∀ payload ∈ s.payloads, payload.auditId ≠ ""
  paired : List.Forall₂ (Mismatched computePolicyHash) s.rows s.payloads

omit [PlannerProtocol P] [ArbiterProtocol A] [StoreProtocol S] in
theorem inv_unchanged {computePolicyHash : PolicyConfig → String} {s s' : Audited P A S}
    (inv : Inv computePolicyHash s)
    (handles : ∀ ticket handle, s'.running.handles.get? ticket = some handle →
      Unfilled handle.decisionMeta)
    (rows : s'.rows = s.rows) (payloads : s'.payloads = s.payloads) :
    Inv computePolicyHash s' := by
  constructor
  case handles => exact handles
  case rows => rw [rows]; exact inv.rows
  case payloads => rw [payloads]; exact inv.payloads
  case paired => rw [rows, payloads]; exact inv.paired

omit [PlannerProtocol P] [ArbiterProtocol A] [StoreProtocol S] in
theorem inv_appended {computePolicyHash : PolicyConfig → String} {s s' : Audited P A S}
    (inv : Inv computePolicyHash s)
    (handles : ∀ ticket handle, s'.running.handles.get? ticket = some handle →
      Unfilled handle.decisionMeta)
    {row : CommittedRow} {payload : Payload} (rows : s'.rows = s.rows ++ [row])
    (payloads : s'.payloads = s.payloads ++ [payload]) (unfilled : Unfilled row.decisionMeta)
    (drawn : payload.auditId ≠ "") (mismatched : Mismatched computePolicyHash row payload) :
    Inv computePolicyHash s' := by
  constructor
  case handles => exact handles
  case rows =>
    rw [rows]
    intro known member
    rcases List.mem_append.mp member with earlier | last
    · exact inv.rows known earlier
    · obtain rfl := List.mem_singleton.mp last
      exact unfilled
  case payloads =>
    rw [payloads]
    intro known member
    rcases List.mem_append.mp member with earlier | last
    · exact inv.payloads known earlier
    · obtain rfl := List.mem_singleton.mp last
      exact drawn
  case paired =>
    rw [rows, payloads]
    exact List.rel_append inv.paired (.cons mismatched .nil)

theorem mismatched_of_unfilled {computePolicyHash : PolicyConfig → String}
    (hexDigest : ∀ policy, (computePolicyHash policy).length = 64) (setup : Setup)
    {auditId : String} (drawn : auditId ≠ "") (outcome : StepOutcome) (analysis : AnalysisResult)
    {handle : StepHandle} (unfilled : Unfilled handle.decisionMeta) :
    Mismatched computePolicyHash
      { outcome, policy := handle.policy, decisionMeta := handle.decisionMeta }
      (completedPayload computePolicyHash setup auditId outcome analysis handle) := by
  refine ⟨rfl, rfl, ?_, ?_⟩
  · intro filled
    have digest := hexDigest handle.policy
    rw [← filled, unfilled.1] at digest
    cases digest
  · intro filled
    exact drawn (filled.symm.trans unfilled.2)

theorem audit_before_inv {computePolicyHash : PolicyConfig → String} (setup : Setup)
    {s : Audited P A S} (inv : Inv computePolicyHash s) (ticket : Nat) (intent : StepIntent)
    (t : BeforeTimes) (auditId : String) :
    Inv computePolicyHash
      (audit computePolicyHash setup s ⟨.before ticket intent t, auditId⟩) := by
  obtain ⟨store, emitted⟩ := beforeStep_records setup s.running.os intent t
  cases called : s.running.os.beforeStep setup intent t with
  | mk os result =>
    simp only [called] at store emitted
    have silent : (os.emitted.drop s.running.os.emitted.length).filterMap
        (payloadOf computePolicyHash setup auditId) = [] := by
      rcases emitted with same | ⟨reason, denied⟩
      · simp [same]
      · simp [denied, payloadOf]
    cases result with
    | error e =>
      refine inv_unchanged inv ?_ ?_ ?_ <;> simp only [audit, callStep, called]
      · exact inv.handles
      · exact congrArg Recording.rows store
      · rw [silent, List.append_nil]
    | ok handle =>
      refine inv_unchanged inv ?_ ?_ ?_ <;> simp only [audit, callStep, called]
      · exact Dict.forall_set (beforeStep_unfilled called) inv.handles
      · exact congrArg Recording.rows store
      · rw [silent, List.append_nil]

theorem audit_after_inv {computePolicyHash : PolicyConfig → String}
    (hexDigest : ∀ policy, (computePolicyHash policy).length = 64) (setup : Setup)
    {s : Audited P A S} (inv : Inv computePolicyHash s) (ticket : Nat)
    (snapshot : ContextSnapshot) (t : AfterTimes) {auditId : String} (drawn : auditId ≠ "") :
    Inv computePolicyHash
      (audit computePolicyHash setup s ⟨.after ticket snapshot t, auditId⟩) := by
  cases found : s.running.handles.get? ticket with
  | none =>
    refine inv_unchanged inv ?_ ?_ ?_ <;> simp only [audit, callStep, found]
    · exact inv.handles
    · rfl
    · simp
  | some handle =>
    have kept : ∀ other known, (s.running.handles.erase ticket).get? other = some known →
        Unfilled known.decisionMeta := Dict.forall_erase ticket inv.handles
    have unfilled := inv.handles ticket handle found
    rcases afterStep_records setup s.running.os handle snapshot t with
      ⟨rows, emitted⟩ | ⟨outcome, analysis, rows, emitted⟩
    · refine inv_unchanged inv ?_ ?_ ?_ <;> simp only [audit, callStep, found]
      · exact kept
      · exact rows
      · simp [emitted]
    · refine inv_appended inv ?_ ?_ ?_ unfilled drawn
        (mismatched_of_unfilled hexDigest setup drawn outcome analysis unfilled)
      · simp only [audit, callStep, found]
        exact kept
      · simp only [Audited.rows, audit, callStep, found]
        exact rows
      · simp [audit, callStep, found, emitted, payloadOf]

theorem audit_inv {computePolicyHash : PolicyConfig → String}
    (hexDigest : ∀ policy, (computePolicyHash policy).length = 64) (setup : Setup)
    {s : Audited P A S} {a : AuditedCall} (inv : Inv computePolicyHash s)
    (uuid : DrawsUuid s a) : Inv computePolicyHash (audit computePolicyHash setup s a) := by
  obtain ⟨call, auditId⟩ := a
  cases call with
  | before ticket intent t => exact audit_before_inv setup inv ticket intent t auditId
  | after ticket snapshot t =>
    have drawn : auditId ≠ "" := by
      intro empty
      rw [DrawsUuid, empty] at uuid
      cases uuid
    exact audit_after_inv hexDigest setup inv ticket snapshot t drawn

/-- In every run, each committed step has a row and an event that disagree in both audit
    fields, and no row of the run carries the audit id of any event. -/
theorem audit_trail_never_joins {computePolicyHash : PolicyConfig → String}
    (hexDigest : ∀ policy, (computePolicyHash policy).length = 64) (setup : Setup)
    (planner : P) (arbiter : A) (store : S) {calls : List AuditedCall}
    (uuids : Runs.EachStep (audit computePolicyHash setup) DrawsUuid
      (auditStart planner arbiter store) calls) :
    let reached := Runs.run (audit computePolicyHash setup) (auditStart planner arbiter store)
      calls
    List.Forall₂ (Mismatched computePolicyHash) reached.rows reached.payloads ∧
      ∀ row ∈ reached.rows, ∀ payload ∈ reached.payloads,
        row.decisionMeta.auditId ≠ payload.auditId := by
  have first : Inv computePolicyHash (auditStart planner arbiter store) := by
    constructor
    case handles => intro ticket handle found; simp [auditStart, started] at found
    case rows => intro row member; simp [auditStart, Audited.rows, started, created] at member
    case payloads => intro payload member; simp [auditStart] at member
    case paired => exact .nil
  have inv := Runs.run_invariant (fun s a inv uuid => audit_inv hexDigest setup inv uuid) first
    uuids
  refine ⟨inv.paired, ?_⟩
  intro row stored payload emitted same
  rw [(inv.rows row stored).2] at same
  exact inv.payloads payload emitted same.symm

section Defaults

def issuedHash : String := "20c0f9d8061ec3408282071d965904c2a9d5122661d2752ef7b6a3b48bb371a0"

def stepUuid : String := "7d0f2b1c9a5e4c3f8b6a1d2e3f405162"

def oneStep : List AuditedCall :=
  [⟨.before 1 (llmIntent "1") inTime, stepUuid⟩,
    ⟨.after 1 (snapshotOf (1 / 2)) collectedInTime, stepUuid⟩]

def afterOneStep : Audited VeronicaIssue.AnyPlanner VeronicaIssue.LocalArbiter
    VeronicaStages.MemoryStore :=
  Runs.run (audit (fun _ => issuedHash) (defaultSetup 1 none))
    (auditStart (.inl {}) (.inl {}) {}) oneStep

theorem one_step_never_joins :
    List.Forall₂ (Mismatched fun _ => issuedHash) afterOneStep.rows afterOneStep.payloads ∧
      ∀ row ∈ afterOneStep.rows, ∀ payload ∈ afterOneStep.payloads,
        row.decisionMeta.auditId ≠ payload.auditId := by
  have digest : issuedHash.length = 64 := by decide +kernel
  have uuid : stepUuid.length = 32 := by decide +kernel
  exact audit_trail_never_joins (fun _ => digest) (defaultSetup 1 none) _ _ _
    ⟨uuid, uuid, trivial⟩

/-- The row of the step has empty audit fields; its event has both. -/
theorem one_step_row_unfilled :
    afterOneStep.rows.map (fun row => (row.decisionMeta.policyHash, row.decisionMeta.auditId)) =
      [("", "")] ∧
    afterOneStep.payloads.map (fun payload => (payload.policyHash, payload.auditId)) =
      [(issuedHash, stepUuid)] := by
  decide +kernel

end Defaults

end VeronicaAuditTrail
