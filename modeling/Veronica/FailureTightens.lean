import Veronica.DeniedSteps

/- What a failed step does to the ceiling of the next one, in the default pipeline: the analyzer
   asks the planner to tighten, unless the chain is already so deep that it asks for a halt. -/
namespace VeronicaFailures
open VeronicaTypes VeronicaPlanners VeronicaArbiters VeronicaPipeline VeronicaStages
open VeronicaIssue VeronicaRuns VeronicaMemory VeronicaPassthrough VeronicaDenied

/-- A ceiling issued by `before_step`, and what the request had left then. -/
structure IssuedCeiling where
  ceilingUsd : ℚ
  remainingUsd : ℚ
  deriving DecidableEq

/-- A step whose outcome got to the analyzer, and how many outcomes the history of its chain
    had. -/
structure FinishedStep where
  status : StepStatus
  depth : Nat
  deriving DecidableEq

/-- The pipeline with the ceiling it issued last and the step it finished last. -/
structure Watched where
  running : Running SimplePlanner PassthroughArbiter MemoryStore
  issued : Option IssuedCeiling := none
  finished : Option FinishedStep := none

/-- The default stages without an org policy. -/
structure DefaultPipeline (setup : Setup) : Prop extends DefaultStages setup where
  unrestricted : setup.orgPolicy = none

section Watching
variable (setup : Setup)

def watch (s : Watched) (call : Call) : Watched :=
  let os := s.running.os
  let running := callStep setup s.running call
  match call with
  | .before _ intent t =>
    match issuedCeiling (os.beforeStep setup intent t).2 with
    | none => { s with running }
    | some ceilingUsd =>
      { s with running, issued := some { ceilingUsd, remainingUsd := os.remaining setup } }
  | .after ticket snapshot t =>
    if (s.running.handles.get? ticket).isSome ∧ Accounts setup os snapshot t then
      let outcome := setup.collect snapshot t.nowMs
      let depth := (recent os.store outcome.chainId).length
      { s with running, finished := some { status := outcome.status, depth } }
    else { s with running }

def InTime (_ : Watched) : Call → Prop
  | .before _ _ t => beforeInTime setup t
  | .after _ _ t => afterInTime setup t

instance (s : Watched) : ∀ call, Decidable (InTime setup s call)
  | .before _ _ t => inferInstanceAs (Decidable (beforeInTime setup t))
  | .after _ _ t => inferInstanceAs (Decidable (afterInTime setup t))

/-- Request and chains have more left than any ceiling, and the planner is above its least
    ceiling. -/
structure Roomy (os : DefaultOS) : Prop where
  request : os.planner.band.maxCeilingUsd < os.remaining setup
  chains : ∀ c, os.planner.band.maxCeilingUsd < os.chainRemaining setup c
  planner : os.planner.band.minCeilingUsd < os.planner.effectiveCeiling

end Watching

def watchedFresh : Watched := { running := started freshOS }

section Steps
variable {setup : Setup} {s : Watched}

/-- What the analyzer asks for after a failed step. -/
def answerTo (failed : FinishedStep) : Recommendation :=
  if depthThreshold ≤ failed.depth then .halt else .tighten

structure Tracked (setup : Setup) (s : Watched) : Prop where
  band : s.running.os.planner.band = {}
  below : s.running.os.planner.effectiveCeiling ≤ s.running.os.planner.band.maxCeilingUsd
  issued : ∀ last ∈ s.issued, last.ceilingUsd =
    passthroughCeiling s.running.os.planner.effectiveCeiling last.remainingUsd
  answered : ∀ last ∈ s.finished, last.status ≠ .ok →
    s.running.os.lastAnalysis.map AnalysisResult.recommendation = some (answerTo last)

/-- A step on a valid chain gets what the planner settles on, cut to what the request has
    left. -/
theorem beforeStep_issues (pipeline : DefaultPipeline setup) (os : DefaultOS)
    {intent : StepIntent} {t : BeforeTimes} (inTime : beforeInTime setup t)
    (safe : isSafeChainId intent.chainId = true) :
    let ceiling := min (nextCeiling os) (os.chainRemaining setup intent.chainId)
    let after := os.beforeStep setup intent t
    issuedCeiling after.2 = some (passthroughCeiling ceiling (os.remaining setup)) ∧
      after.1.planner = { os.planner with effectiveCeiling := ceiling } ∧
      after.1.lastAnalysis = os.lastAnalysis := by
  have admitted : setup.denial intent = none := by rw [Setup.denial, pipeline.unrestricted]; rfl
  have prompt : ¬ plannerOverran setup t := not_lt.mpr inTime.2.1
  have answered : ¬ arbiterOverran setup t := not_lt.mpr inTime.2.2
  have outer : outerLimit setup os intent = os.chainRemaining setup intent.chainId := by
    rw [outerLimit, orgCapped, pipeline.unrestricted]
    rfl
  have read : StoreProtocol.buildHistory os.store intent.chainId = _ :=
    buildHistory_safe os.store intent.chainId safe
  refine ⟨?_, ?_, ?_⟩
  · rw [planned_ceiling os ⟨admitted, safe, prompt⟩, outer, plannerCeiling_eq, granted,
      if_neg answered]
  · simp only [VeronicaOS.beforeStep, VeronicaOS.beforeStepAt, admitted, read]
    simp only [VeronicaOS.planStage, PlannerProtocol.plan, SimplePlanner.plan, drift_eq,
      VeronicaOS.budgetState]
    rfl
  · simp only [VeronicaOS.beforeStep, VeronicaOS.beforeStepAt, admitted, read]

theorem beforeStep_refused (pipeline : DefaultPipeline setup) (os : DefaultOS)
    {intent : StepIntent} (t : BeforeTimes) (refused : isSafeChainId intent.chainId = false) :
    os.beforeStep setup intent t = (os, .error invalidChain) := by
  have admitted : setup.denial intent = none := by rw [Setup.denial, pipeline.unrestricted]; rfl
  have read : StoreProtocol.buildHistory os.store intent.chainId = _ :=
    buildHistory_refused os.store intent.chainId refused
  simp only [VeronicaOS.beforeStep, VeronicaOS.beforeStepAt, admitted, read]

theorem watch_before_issued {ticket : Nat} {intent : StepIntent} {t : BeforeTimes} {ceiling : ℚ}
    (issued : issuedCeiling (s.running.os.beforeStep setup intent t).2 = some ceiling) :
    watch setup s (.before ticket intent t) = {
      running := callStep setup s.running (.before ticket intent t)
      issued := some { ceilingUsd := ceiling, remainingUsd := s.running.os.remaining setup }
      finished := s.finished } := by
  simp only [watch, issued]

theorem analyzed_failed (pipeline : DefaultPipeline setup) {intent : StepIntent}
    {outcome : StepOutcome} {t : AfterTimes} (inTime : afterInTime setup t)
    (failed : outcome.status ≠ .ok) (lastN : List StepOutcome) :
    (analyzeStage setup intent outcome (viewOf outcome.chainId lastN) t).recommendation =
      answerTo { status := outcome.status, depth := lastN.length } := by
  simp only [analyzeStage, runWithBudget, not_lt.mpr inTime.2, if_false, pipeline.analyze,
    ruleAnalyze, viewOf, answerTo]
  split
  · rfl
  · rfl

theorem before_tracked (pipeline : DefaultPipeline setup) (tracked : Tracked setup s)
    (ticket : Nat) {intent : StepIntent} {t : BeforeTimes} (inTime : beforeInTime setup t) :
    Tracked setup (watch setup s (.before ticket intent t)) := by
  cases safe : isSafeChainId intent.chainId with
  | false =>
    have refused := beforeStep_refused pipeline s.running.os t safe
    simp only [watch, refused, issuedCeiling, callStep]
    exact ⟨tracked.band, tracked.below, tracked.issued, tracked.answered⟩
  | true =>
    obtain ⟨issued, planner, analysis⟩ :=
      beforeStep_issues pipeline s.running.os inTime safe
    rw [watch_before_issued issued]
    constructor
    case band =>
      rw [callStep_before_os, planner]
      exact tracked.band
    case below =>
      rw [callStep_before_os, planner]
      refine (min_le_left _ _).trans (max_le ?_ (min_le_left _ _))
      rw [tracked.band]
      norm_num
    case issued =>
      rintro last ⟨⟩
      rw [callStep_before_os, planner]
    case answered =>
      rw [callStep_before_os, analysis]
      exact tracked.answered

theorem after_tracked (pipeline : DefaultPipeline setup) (tracked : Tracked setup s)
    (ticket : Nat) (snapshot : ContextSnapshot) {t : AfterTimes} (inTime : afterInTime setup t) :
    Tracked setup (watch setup s (.after ticket snapshot t)) := by
  cases found : s.running.handles.get? ticket with
  | none =>
    simp only [watch, callStep, found, Option.isSome_none, Bool.false_eq_true, false_and, if_false]
    exact ⟨tracked.band, tracked.below, tracked.issued, tracked.answered⟩
  | some handle =>
    have planner := afterStep_planner setup s.running.os snapshot t handle
    by_cases accounts : Accounts setup s.running.os snapshot t
    · have safe : isSafeChainId (setup.collect snapshot t.nowMs).chainId = true := by
        rw [← buildHistory_isOk s.running.os.store]
        exact accounts.2
      have path := afterStep_accounts s.running.os handle snapshot accounts.1 safe
      simp only [watch, callStep, found, accounts, Option.isSome_some, and_self, if_true]
      constructor
      case band =>
        rw [planner]
        exact tracked.band
      case below =>
        rw [planner]
        exact tracked.below
      case issued =>
        rw [planner]
        exact tracked.issued
      case answered =>
        rintro last ⟨⟩ failed
        rw [path, (commitStep_fields _ _ _ _).2.1]
        exact congrArg some (analyzed_failed pipeline inTime failed _)
    · have idle := (afterStep_cases setup s.running.os snapshot t handle).resolve_right
        fun counted => accounts counted.1
      simp only [watch, callStep, found, accounts, and_false, if_false, idle.2]
      exact ⟨tracked.band, tracked.below, tracked.issued, tracked.answered⟩

theorem watch_tracked (pipeline : DefaultPipeline setup) (tracked : Tracked setup s) {call : Call}
    (inTime : InTime setup s call) : Tracked setup (watch setup s call) := by
  cases call with
  | before ticket intent t => exact before_tracked pipeline tracked ticket inTime
  | after ticket snapshot t => exact after_tracked pipeline tracked ticket snapshot inTime

theorem fresh_tracked (setup : Setup) : Tracked setup watchedFresh where
  band := rfl
  below := by decide
  issued := by rintro last ⟨⟩
  answered := by rintro last ⟨⟩

end Steps

theorem roomy_chains {setup : Setup} {os : DefaultOS} {limit : ℚ}
    (fresh : limit < setup.arithmetic.fl setup.requestBudgetUsd)
    (spent : ∀ entry ∈ os.chainSpentUsd.entries,
      limit < setup.arithmetic.fl (setup.requestBudgetUsd - entry.2))
    (c : String) : limit < os.chainRemaining setup c := by
  rw [VeronicaOS.chainRemaining, Dict.getD]
  cases found : os.chainSpentUsd.get? c with
  | none => simpa using fresh
  | some amount => exact spent (c, amount) (Dict.mem_of_lookup found)

def snapshotWith (status : String) (costUsd : ℚ) : ContextSnapshot :=
  { snapshotOf costUsd with
    nodes := (snapshotOf costUsd).nodes.map fun node => { node with status } }

def stepCalls (ticket : Nat) (status : String) : List Call :=
  [.before ticket (llmIntent "step") inTime, .after ticket (snapshotWith status 1) collectedInTime]

/-- In every reachable state with room: after a failed step the next ceiling is strictly below
    the previous one exactly when the chain of the failed step was not yet too deep. -/
theorem failure_tightens_iff {setup : Setup} (pipeline : DefaultPipeline setup) {s : Watched}
    (reached : Runs.Reachable (watch setup) (InTime setup) watchedFresh s)
    (roomy : Roomy setup s.running.os) {failed : FinishedStep} (last : s.finished = some failed)
    (failing : failed.status ≠ .ok) {previous : IssuedCeiling} (issued : s.issued = some previous)
    (affordable : s.running.os.planner.band.maxCeilingUsd < previous.remainingUsd)
    {intent : StepIntent} {t : BeforeTimes} (inTime : beforeInTime setup t) {next : ℚ}
    (answers : issuedCeiling (s.running.os.beforeStep setup intent t).2 = some next) :
    next < previous.ceilingUsd ↔ failed.depth < depthThreshold := by
  have tracked : Tracked setup s := Runs.reachable_invariant (I := Tracked setup)
    (fun _ _ tracked inTime => watch_tracked pipeline tracked inTime) (fresh_tracked setup) reached
  have safe : isSafeChainId intent.chainId = true := by
    by_contra refused
    rw [beforeStep_refused pipeline _ t (Bool.not_eq_true _ ▸ refused)] at answers
    cases answers
  have below := tracked.below
  have above := roomy.planner
  have drifted : nextCeiling s.running.os = s.running.os.planner.band.cut
      (s.running.os.planner.effectiveCeiling * driftFactor (some (answerTo failed))) := by
    rw [nextCeiling, factorNow, tracked.answered failed last failing, adjusted,
      Arithmetic.exact_scale, Arithmetic.exact_fl]
  have planned : next = nextCeiling s.running.os := by
    rw [(beforeStep_issues pipeline s.running.os inTime safe).1] at answers
    have cut : nextCeiling s.running.os ≤ s.running.os.planner.band.maxCeilingUsd := by
      refine max_le ?_ (min_le_left _ _)
      exact above.le.trans below
    rw [min_eq_left (cut.trans (roomy.chains intent.chainId).le),
      passthrough_affordable .exact (cut.trans roomy.request.le)] at answers
    exact (Option.some.inj answers).symm
  have before : previous.ceilingUsd = s.running.os.planner.effectiveCeiling := by
    rw [tracked.issued previous issued]
    exact passthrough_affordable .exact (below.trans affordable.le)
  rw [planned, before, drifted]
  by_cases shallow : failed.depth < depthThreshold
  · refine iff_of_true ?_ shallow
    have factor : driftFactor (some (answerTo failed)) = tightenFactor := by
      rw [answerTo, if_neg (not_le.mpr shallow)]
      rfl
    rw [factor, CeilingBand.cut, max_lt_iff]
    refine ⟨above, (min_le_right _ _).trans_lt ?_⟩
    have floor : (0 : ℚ) < s.running.os.planner.band.minCeilingUsd := by
      rw [tracked.band]
      norm_num
    have positive := floor.trans above
    rw [tightenFactor]
    linarith
  · refine iff_of_false (not_lt.mpr ?_) shallow
    have factor : driftFactor (some (answerTo failed)) = 1 := by
      rw [answerTo, if_pos (not_lt.mp shallow)]
      rfl
    rw [factor, mul_one, CeilingBand.cut, min_eq_right below]
    exact le_max_right _ _

/-- A first step that is halted. -/
theorem first_failure_tightens :
    let s := Runs.run (watch (defaultSetup 100 none)) watchedFresh (stepCalls 0 "halted")
    issuedCeiling (s.running.os.beforeStep (defaultSetup 100 none) (llmIntent "step") inTime).2 =
      some tightenFactor ∧ (tightenFactor < 1 ↔ 0 < depthThreshold) := by
  intro s
  have answers : issuedCeiling (s.running.os.beforeStep (defaultSetup 100 none)
      (llmIntent "step") inTime).2 = some tightenFactor := by decide +kernel
  have reached : Runs.Reachable (watch (defaultSetup 100 none)) (InTime (defaultSetup 100 none))
      watchedFresh s := ⟨_, by decide +kernel, rfl⟩
  have roomy : Roomy (defaultSetup 100 none) s.running.os :=
    ⟨by decide +kernel, roomy_chains (by decide +kernel) (by decide +kernel), by decide +kernel⟩
  have finished : s.finished = some { status := .halted, depth := 0 } := by decide +kernel
  have issued : s.issued = some { ceilingUsd := 1, remainingUsd := 100 } := by decide +kernel
  exact ⟨answers, failure_tightens_iff ⟨⟨rfl, rfl⟩, rfl⟩ reached roomy finished (by decide) issued
    (by decide +kernel) (by decide +kernel) answers⟩

/-- Every failure tightens the next ceiling. -/
def FailureTightens (setup : Setup) : Prop :=
  ∀ s failed previous intent t next, Runs.Reachable (watch setup) (InTime setup) watchedFresh s →
    Roomy setup s.running.os → s.finished = some failed → failed.status ≠ .ok →
    s.issued = some previous → beforeInTime setup t →
    issuedCeiling (s.running.os.beforeStep setup intent t).2 = some next →
    next < previous.ceilingUsd

/-- The ninth step of a chain is halted, and the next ceiling is that of the ninth step. -/
theorem deep_failure_keeps : ¬ FailureTightens (defaultSetup 100 none) := by
  intro tightens
  let calls := (List.range 8).flatMap (stepCalls · "ok") ++ stepCalls 8 "halted"
  let s := Runs.run (watch (defaultSetup 100 none)) watchedFresh calls
  have reached : Runs.Reachable (watch (defaultSetup 100 none)) (InTime (defaultSetup 100 none))
      watchedFresh s := ⟨calls, by decide +kernel, rfl⟩
  have roomy : Roomy (defaultSetup 100 none) s.running.os :=
    ⟨by decide +kernel, roomy_chains (by decide +kernel) (by decide +kernel), by decide +kernel⟩
  have smaller := tightens s { status := .halted, depth := 8 }
    { ceilingUsd := loosenFactor ^ 8, remainingUsd := 92 } (llmIntent "step") inTime
    (loosenFactor ^ 8) reached roomy (by decide +kernel) (by decide) (by decide +kernel)
    (by decide +kernel) (by decide +kernel)
  exact lt_irrefl _ smaller

/-- A ceiling cut to the little the request had left is passed by the tightened one after a
    failed step that pays back. -/
theorem refunded_failure_raises :
    let calls : List Call :=
      [.before 0 (llmIntent "0") inTime, .before 1 (llmIntent "1") inTime,
        .after 0 (snapshotWith "ok" 10.5) collectedInTime,
        .before 2 { llmIntent "2" with chainId := "other" } inTime,
        .after 1 (snapshotWith "halted" (-10.5)) collectedInTime]
    let s := Runs.run (watch (defaultSetup 11 none)) watchedFresh calls
    Runs.EachStep (watch (defaultSetup 11 none)) (InTime (defaultSetup 11 none)) watchedFresh
      calls ∧ Roomy (defaultSetup 11 none) s.running.os ∧
    s.finished = some { status := .halted, depth := 1 } ∧
    ∃ previous ∈ s.issued, ∃ next ∈ issuedCeiling (s.running.os.beforeStep
      (defaultSetup 11 none) (llmIntent "3") inTime).2, previous.ceilingUsd < next := by
  intro calls s
  have roomy : Roomy (defaultSetup 11 none) s.running.os :=
    ⟨by decide +kernel, roomy_chains (by decide +kernel) (by decide +kernel), by decide +kernel⟩
  exact ⟨by decide +kernel, roomy, by decide +kernel, by decide +kernel⟩

end VeronicaFailures
