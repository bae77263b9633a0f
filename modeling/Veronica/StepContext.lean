import Veronica.Pipeline

/- `VeronicaOS.step` and `run_step`: one step around a body that runs under the kernel's
   execution context. The kernel is a parameter. What the body and the snapshot return or
   raise, and what other threads do to the pipeline meanwhile, is the environment's choice. -/
namespace VeronicaStep
open VeronicaTypes VeronicaPipeline

structure ChainMetadata where
  requestId : String
  chainId : String

/-- The kernel's contexts, and what their two wrappers make of the outcome of a function. -/
structure Kernel (Ctx R : Type) where
  executionContext : ExecutionConfig → ChainMetadata → Except PyExc Ctx
  wrapToolCall : Ctx → Except PyExc R → Except PyExc R
  wrapLlmCall : Ctx → Except PyExc R → Except PyExc R

structure StepContext (Ctx : Type) where
  handle : StepHandle
  execCtx : Ctx

namespace StepContext
variable {Ctx R : Type}

def checkDenial (s : StepContext Ctx) : Except PyExc Unit :=
  match s.handle.decisionMeta.orgDenial with
  | some denial => .error (.orgPolicyDenied denial)
  | none => .ok ()

def run (kernel : Kernel Ctx R) (s : StepContext Ctx) (fn : Except PyExc R) : Except PyExc R :=
  match s.checkDenial with
  | .error e => .error e
  | .ok () =>
    if s.handle.intent.kind = .tool then kernel.wrapToolCall s.execCtx fn
    else kernel.wrapLlmCall s.execCtx fn

end StepContext

def fallbackSnapshot (intent : StepIntent) (reason : String) : ContextSnapshot where
  chainId := intent.chainId
  requestId := intent.requestId
  stepCount := 0
  costUsdAccumulated := .finite 0
  aborted := true
  abortReason := some reason
  elapsedMs := .finite 0
  nodes := []

/-- `except Exception` around `get_snapshot` lets BaseException through. -/
def snapshotOrFallback (intent : StepIntent) :
    Except PyExc ContextSnapshot → Except PyExc ContextSnapshot
  | .ok snapshot => .ok snapshot
  | .error e =>
    if e.isException then .ok (fallbackSnapshot intent "snapshot_retrieval_failed")
    else .error e

structure StepEnv (P A S : Type) where
  before : BeforeTimes
  after : AfterTimes
  snapshot : Except PyExc ContextSnapshot
  uuidHex : String
  duringBefore : VeronicaOS P A S → VeronicaOS P A S := id
  duringBody : VeronicaOS P A S → VeronicaOS P A S := id
  duringAfter : VeronicaOS P A S → VeronicaOS P A S := id

/-- What a step leaves: the pipeline, the handle if there was one, the calls of `after_step`
    and what the caller gets. -/
structure StepRun (P A S R : Type) where
  os : VeronicaOS P A S
  issued : Option StepHandle
  afterCalls : List (StepHandle × ContextSnapshot)
  result : Except PyExc R

/-- What stands between `before_step` and the `try`. -/
def openContext {Ctx R : Type} (kernel : Kernel Ctx R) (intent : StepIntent)
    (handle : StepHandle) : Except PyExc Ctx :=
  let metadata : ChainMetadata := { requestId := intent.requestId, chainId := intent.chainId }
  match handle.policy.toExecConfig with
  | .error e => .error e
  | .ok config => kernel.executionContext config metadata

section Step
variable {P A S Ctx R : Type} [PlannerProtocol P] [ArbiterProtocol A] [StoreProtocol S]

def step (setup : Setup) (kernel : Kernel Ctx R) (env : StepEnv P A S) (os : VeronicaOS P A S)
    (intent : StepIntent) (body : StepContext Ctx → Except PyExc R) : StepRun P A S R :=
  match VeronicaOS.beforeStepAt setup os (env.duringBefore os) intent env.before with
  | (os, .error e) => { os, issued := none, afterCalls := [], result := .error e }
  | (os, .ok handle) =>
    match openContext kernel intent handle with
    | .error e => { os, issued := some handle, afterCalls := [], result := .error e }
    | .ok execCtx =>
      let result := body { handle, execCtx }
      let os := env.duringBody os
      match snapshotOrFallback intent env.snapshot with
      | .error e => { os, issued := some handle, afterCalls := [], result := .error e }
      | .ok snapshot =>
        let (os, finished) :=
          VeronicaOS.afterStepAt setup os (env.duringAfter os) handle snapshot env.after
        { os
          issued := some handle
          afterCalls := [(handle, snapshot)]
          result := match finished with
            | .error e => .error e
            | .ok () => result }

/-- `_normalize_intent` -/
def normalizeIntent (uuidHex : String) (os : VeronicaOS P A S) (intent : StepIntent) :
    VeronicaOS P A S × StepIntent :=
  let named := { intent with
    requestId := if intent.requestId = "" then uuidHex else intent.requestId
    chainId := if intent.chainId = "" then "default" else intent.chainId }
  if intent.stepId = "" then
    ({ os with stepCounter := os.stepCounter + 1 },
      { named with stepId := "step-" ++ toString os.stepCounter })
  else (os, named)

def runStep (setup : Setup) (kernel : Kernel Ctx R) (env : StepEnv P A S) (os : VeronicaOS P A S)
    (intent : StepIntent) (fn : Except PyExc R) : StepRun P A S R :=
  let (os, intent) := normalizeIntent env.uuidHex os intent
  step setup kernel env os intent fun s => s.run kernel fn

end Step

end VeronicaStep
