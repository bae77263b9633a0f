import Veronica.StepContext
import Veronica.PipelineRuns

/- Steps of one VeronicaOS over a RedisArbiter, cut where other steps, or other processes with
   the same ledger, can come in between. -/
namespace VeronicaSessions
open VeronicaTypes VeronicaLedger VeronicaRedis VeronicaPipeline VeronicaStages VeronicaIssue
open VeronicaRuns VeronicaStep

structure Settle where
  requestId : String
  stepId : String
  actualCostUsd : PyFloat

/-- A RedisArbiter and the calls of its `settle`. -/
structure Watched where
  client : RedisClient
  settles : List Settle := []

instance : ArbiterProtocol Watched where
  setArbitrationContext w requestId stepId :=
    { w with client := w.client.setArbitrationContext requestId stepId }
  arbitrate w desires remaining now :=
    let (client, configs) := w.client.arbitrate desires remaining now
    ({ w with client }, configs)
  settle w requestId stepId actualCostUsd := {
    client := w.client.settle requestId stepId actualCostUsd
    settles := w.settles ++ [{ requestId, stepId, actualCostUsd }] }

instance : SingleArbiter Watched where
  grant w := redisGrant w.client
  arbitrate_single w := redis_grant w.client

/-- A step before the locked section of its `before_step`. -/
structure ReadingStep (P S : Type) where
  intent : StepIntent
  early : VeronicaOS P Watched S

structure RunningStep where
  intent : StepIntent
  reserved : Bool
  settles : List Settle
  handle : StepHandle

/-- A step whose snapshot is taken; its `after_step` reads the history at `early`. -/
structure FinishingStep (P S : Type) extends RunningStep where
  snapshot : ContextSnapshot
  times : AfterTimes
  early : VeronicaOS P Watched S
  result : Except PyExc Unit

inductive EnteredStep (P S : Type) where
  | reading (step : ReadingStep P S)
  | running (step : RunningStep)
  | finishing (step : FinishingStep P S)

/-- A step that `step()` has been left by, with what the caller got. -/
structure LeftStep where
  intent : StepIntent
  reserved : Bool
  collected : Option StepOutcome
  settles : List Settle
  result : Except PyExc Unit

structure Session (P S : Type) where
  os : VeronicaOS P Watched S
  steps : Dict Nat (EnteredStep P S) := ∅
  left : List LeftStep := []

/-- An intent that comes with the UUID of `_normalize_intent` was handed to `run_step`. -/
inductive Action where
  | enter (ticket : Nat) (intent : StepIntent) (uuidHex : Option String)
  | issue (ticket : Nat) (t : BeforeTimes)
  | observe (ticket : Nat) (result : Except PyExc Unit) (snapshot : Except PyExc ContextSnapshot)
      (t : AfterTimes)
  | finish (ticket : Nat)
  | elsewhere (op : LedgerOp)

section Steps
variable {P S Ctx R : Type} [PlannerProtocol P] [StoreProtocol S]

/-- The step has left no record before `before_step`, and has one after it. -/
def reserves (before after : VeronicaOS P Watched S) (intent : StepIntent) : Bool :=
  let client := before.arbiter.client
  let key := client.arbiter.allocKey intent.requestId intent.stepId
  (client.ledger.alloc.get? key).isNone && (after.arbiter.client.ledger.alloc.get? key).isSome

def settledBetween (before after : VeronicaOS P Watched S) : List Settle :=
  after.arbiter.settles.drop before.arbiter.settles.length

namespace Session

def readingAt (s : Session P S) (ticket : Nat) : Option (ReadingStep P S) :=
  match s.steps.get? ticket with
  | some (.reading step) => some step
  | _ => none

def runningAt (s : Session P S) (ticket : Nat) : Option RunningStep :=
  match s.steps.get? ticket with
  | some (.running step) => some step
  | _ => none

def finishingAt (s : Session P S) (ticket : Nat) : Option (FinishingStep P S) :=
  match s.steps.get? ticket with
  | some (.finishing step) => some step
  | _ => none

def leave (s : Session P S) (ticket : Nat) (step : LeftStep) : Session P S :=
  { s with steps := s.steps.erase ticket, left := s.left ++ [step] }

def enter (s : Session P S) (ticket : Nat) (intent : StepIntent) (uuidHex : Option String) :
    Session P S :=
  match s.steps.get? ticket with
  | some _ => s
  | none =>
    let (os, intent) := match uuidHex with
      | some uuidHex => normalizeIntent uuidHex s.os intent
      | none => (s.os, intent)
    { s with os, steps := s.steps.set ticket (.reading { intent, early := os }) }

/-- The locked section of `before_step`, and the execution context. -/
def issue (setup : Setup) (kernel : Kernel Ctx R) (s : Session P S) (ticket : Nat)
    (t : BeforeTimes) : Session P S :=
  match s.readingAt ticket with
  | none => s
  | some { intent, early } =>
    let (os, returned) := VeronicaOS.beforeStepAt setup early s.os intent t
    let reserved := reserves s.os os intent
    let settles := settledBetween s.os os
    let left (e : PyExc) : LeftStep :=
      { intent, reserved, collected := none, settles, result := .error e }
    match returned with
    | .error e => { s with os }.leave ticket (left e)
    | .ok handle =>
      match openContext kernel intent handle with
      | .error e => { s with os }.leave ticket (left e)
      | .ok _ =>
        let step : RunningStep := { intent, reserved, settles, handle }
        { s with os, steps := s.steps.set ticket (.running step) }

/-- The end of the body, whatever it returned or raised, and `get_snapshot`. -/
def observe (s : Session P S) (ticket : Nat) (result : Except PyExc Unit)
    (snapshot : Except PyExc ContextSnapshot) (t : AfterTimes) : Session P S :=
  match s.runningAt ticket with
  | none => s
  | some step =>
    match snapshotOrFallback step.intent snapshot with
    | .error e => s.leave ticket {
        intent := step.intent
        reserved := step.reserved
        collected := none
        settles := step.settles
        result := .error e }
    | .ok snapshot =>
      let step : FinishingStep P S := { step with snapshot, times := t, early := s.os, result }
      { s with steps := s.steps.set ticket (.finishing step) }

def finish (setup : Setup) (s : Session P S) (ticket : Nat) : Session P S :=
  match s.finishingAt ticket with
  | none => s
  | some step =>
    let (os, finished) :=
      VeronicaOS.afterStepAt setup step.early s.os step.handle step.snapshot step.times
    { s with os }.leave ticket {
      intent := step.intent
      reserved := step.reserved
      collected := some (setup.collect step.snapshot step.times.nowMs)
      settles := step.settles ++ settledBetween s.os os
      result := match finished with
        | .error e => .error e
        | .ok () => step.result }

/-- Another process reserves or settles, or a reservation expires. -/
def elsewhere (s : Session P S) (op : LedgerOp) : Session P S :=
  let client := s.os.arbiter.client
  let ledger := ledgerStep client.arbiter.totalBudgetMicro client.ledger op
  { s with os := { s.os with
    arbiter := { s.os.arbiter with client := { client with ledger } } } }

end Session

def act (setup : Setup) (kernel : Kernel Ctx R) (s : Session P S) : Action → Session P S
  | .enter ticket intent uuidHex => s.enter ticket intent uuidHex
  | .issue ticket t => s.issue setup kernel ticket t
  | .observe ticket result snapshot t => s.observe ticket result snapshot t
  | .finish ticket => s.finish setup ticket
  | .elsewhere op => s.elsewhere op

/-- A VeronicaOS with a RedisArbiter that reaches its Redis. -/
def opening (planner : P) (arbiter : RedisArbiter) (store : S) : Session P S :=
  { os := created planner { client := { arbiter } } store }

end Steps

/-- `step` with no other call in between is the four actions in a row. -/
theorem step_eq_run {P S Ctx : Type} [PlannerProtocol P] [StoreProtocol S] (setup : Setup)
    (kernel : Kernel Ctx Unit) (os : VeronicaOS P Watched S) (intent : StepIntent)
    (body : StepContext Ctx → Except PyExc Unit) (before : BeforeTimes) (after : AfterTimes)
    (snapshot : Except PyExc ContextSnapshot) (uuidHex : String) :
    let left := step setup kernel { before, after, snapshot, uuidHex } os intent body
    ∃ result,
      let reached := Runs.run (act setup kernel) ({ os } : Session P S)
        [.enter 0 intent none, .issue 0 before, .observe 0 result snapshot after, .finish 0]
      reached.os = left.os ∧ reached.left.map LeftStep.result = [left.result] := by
  intro left
  simp only [left, step, id_eq, Runs.run, List.foldl_cons, List.foldl_nil, act, Session.enter,
    Session.issue, Session.readingAt, Dict.get?_empty, Dict.get?_set_self]
  cases returned : VeronicaOS.beforeStepAt setup os os intent before with
  | mk issued outcome =>
    cases outcome with
    | error e =>
      refine ⟨.ok (), ?_⟩
      simp only [Session.leave, Session.observe, Session.runningAt, Session.finish,
        Session.finishingAt, Dict.get?_erase, if_true]
      exact ⟨trivial, rfl⟩
    | ok handle =>
      cases opened : openContext kernel intent handle with
      | error e =>
        refine ⟨.ok (), ?_⟩
        simp only [opened, Session.leave, Session.observe, Session.runningAt, Session.finish,
          Session.finishingAt, Dict.get?_erase, if_true]
        exact ⟨trivial, rfl⟩
      | ok execCtx =>
        refine ⟨body { handle, execCtx }, ?_⟩
        cases taken : snapshotOrFallback intent snapshot with
        | error e =>
          simp only [opened, taken, Session.leave, Session.observe, Session.runningAt,
            Session.finish, Session.finishingAt, Dict.get?_set_self, Dict.get?_erase, if_true]
          exact ⟨trivial, rfl⟩
        | ok view =>
          simp only [opened, taken, Session.leave, Session.observe, Session.runningAt,
            Session.finish, Session.finishingAt, Dict.get?_set_self]
          exact ⟨trivial, rfl⟩

end VeronicaSessions
