import Veronica.StepGuarantee
import Veronica.PassthroughIssue

/- Steps that the org policy denies. The kernel runs nothing for one, the collector makes a
   finished step of its empty snapshot, and the next `before_step` plans with what the analyzer
   says about that step. -/
namespace VeronicaDenied
open VeronicaTypes VeronicaPlanners VeronicaArbiters VeronicaPipeline VeronicaStages
open VeronicaIssue VeronicaRuns VeronicaStep VeronicaGuarantee VeronicaMemory VeronicaPassthrough

abbrev DefaultOS (r : Arithmetic := .exact) :=
  VeronicaOS (SimplePlanner r) (PassthroughArbiter r) MemoryStore

def freshOS (r : Arithmetic := .exact) : DefaultOS r := created {} {} {}

/-- The collector and the analyzer are the default ones; cost model, stage budgets, request
    budget and org policy are not restricted. -/
structure DefaultStages (setup : Setup) : Prop where
  collect : setup.collect = simpleCollect
  analyze : setup.analyze = ruleAnalyze

/-- A snapshot of a kernel context on which nothing ran. -/
structure Untouched (chainId : String) (snapshot : ContextSnapshot) : Prop where
  chain : snapshot.chainId = chainId
  cost : snapshot.costUsdAccumulated = .finite 0
  nodes : snapshot.nodes = []

/-- The environment of a step during which no other call runs. -/
def alone {r : Arithmetic} (before : BeforeTimes) (after : AfterTimes)
    (snapshot : Except PyExc ContextSnapshot) (uuidHex : String) :
    StepEnv (SimplePlanner r) (PassthroughArbiter r) MemoryStore :=
  { before, after, snapshot, uuidHex }

section Statement
variable {r : Arithmetic} (setup : Setup) (os later : DefaultOS r) (other : StepIntent)
  (t : BeforeTimes)

/-- The ceiling issued to the other step `later` is not above the one issued at `os`. -/
def CeilingKept : Prop :=
  ∀ handle after, (os.beforeStep setup other t).2 = .ok handle →
    (later.beforeStep setup other t).2 = .ok after →
    after.policy.ceilingUsd ≤ handle.policy.ceilingUsd

/-- No chain's failure streak is reported lower `later` than at `os`. -/
def StreaksKept : Prop :=
  ∀ chainId view, os.store.buildHistory chainId = .ok view →
    ∃ after, later.store.buildHistory chainId = .ok after ∧
      view.failureStreak ≤ after.failureStreak

def NeverLoosens : Prop := CeilingKept setup os later other t ∧ StreaksKept os later

end Statement

section Condition
variable {r : Arithmetic} (setup : Setup) (os : DefaultOS r) (chainId : String)
  (snapshot : Except PyExc ContextSnapshot) (after : AfterTimes) (other : StepIntent)
  (t : BeforeTimes)

/-- A denied step is accounted when its `after_step` gets to the analyzer. -/
def Accounted : Prop :=
  SnapshotCaught snapshot ∧ after.collectorMs ≤ setup.collectorBudget ∧
    isSafeChainId chainId = true

/-- What the analyzer recommends after a step of a chain with this history, which the
    collector reports as finished. -/
def recommendationAfter (lastN : List StepOutcome) : Recommendation :=
  if setup.analyzerBudget < after.analyzerMs then .continue
  else if depthThreshold ≤ lastN.length then .halt
  else if MemoryStore.failureStreak lastN = 0 then .loosen
  else .continue

/-- How `SimplePlanner` scales its ceiling. -/
def driftFactor (recommendation : Option Recommendation) : ℚ :=
  if recommendation = some .tighten then tightenFactor
  else if recommendation = some .loosen then loosenFactor
  else 1

def factorNow : ℚ := driftFactor (os.lastAnalysis.map AnalysisResult.recommendation)

def factorAfter : ℚ :=
  driftFactor (some (recommendationAfter setup after (recent os.store chainId)))

/-- The planner's ceiling after an adjustment by this factor. -/
def adjusted (factor : ℚ) : ℚ := r.scale os.planner.effectiveCeiling (r.fl factor)

/-- The planner's ceiling for the next step, before it is cut to what the chain has left. -/
def nextCeiling : ℚ := os.planner.band.cut (adjusted os (factorNow os))

def ceilingAfter : ℚ := os.planner.band.cut (adjusted os (factorAfter setup os chainId after))

/-- By how much rounding misses what the request has left where a limit above it is scaled down
    to it. -/
def missed (r : Arithmetic) (remaining limit : ℚ) : ℚ :=
  r.scale limit (r.fl (remaining / limit)) - remaining

/-- Two limits, of which those above what the request has left are scaled down to it, do not get
    out of order by what rounding misses. -/
def ScaledInOrder (r : Arithmetic) (remaining now later : ℚ) : Prop :=
  if remaining < later ∧ 0 < later then
    if remaining < now ∧ 0 < now then missed r remaining later ≤ missed r remaining now
    else missed r remaining later ≤ now - remaining
  else if remaining < now ∧ 0 < now then later - remaining ≤ missed r remaining now
  else later ≤ now

/-- The drift does not go up, the band cuts it off, or another limit is below the planner's
    ceiling anyway. Where the request has less left than one of the two ceilings, the arbiter
    scales down to it. -/
def DriftHidden : Prop :=
  let outer := outerLimit setup os other
  let now := min (nextCeiling os) outer
  let later := min (ceilingAfter setup os chainId after) outer
  if ¬ arbiterOverran setup t ∧ os.remaining setup < max now later then
    ScaledInOrder r (os.remaining setup) now later
  else
    adjusted os (factorAfter setup os chainId after) ≤ adjusted os (factorNow os) ∨
    adjusted os (factorAfter setup os chainId after) ≤ os.planner.band.minCeilingUsd ∨
    os.planner.band.maxCeilingUsd ≤ adjusted os (factorNow os) ∨
    outer ≤ nextCeiling os

/-- What keeps an accounted denied step from loosening anything. -/
def NothingToLoosen : Prop :=
  Accounted setup chainId snapshot after →
    MemoryStore.failureStreak (recent os.store chainId) = 0 ∧
    (Planned setup other t → DriftHidden setup os chainId after other t)

end Condition

/-- What a denied step leaves of the pipeline: the planner and the counters as they were, and,
    if it is accounted, one finished outcome on its chain and the analysis of it. -/
structure Effect {r : Arithmetic} (setup : Setup) (chainId : String)
    (snapshot : Except PyExc ContextSnapshot) (after : AfterTimes) (os later : DefaultOS r) :
    Prop where
  planner : later.planner = os.planner
  remaining : later.remaining setup = os.remaining setup
  chains : ∀ c, later.chainRemaining setup c = os.chainRemaining setup c
  skipped : ¬ Accounted setup chainId snapshot after →
    later.lastAnalysis = os.lastAnalysis ∧ later.store = os.store
  accounted : Accounted setup chainId snapshot after →
    later.lastAnalysis.map AnalysisResult.recommendation =
      some (recommendationAfter setup after (recent os.store chainId)) ∧
    ∃ outcome, outcome.status = .ok ∧ outcome.chainId = chainId ∧
      later.store = (os.store.commit outcome).1

section Streaks
variable {r : Arithmetic} {setup : Setup} {chainId : String}
  {snapshot : Except PyExc ContextSnapshot} {after : AfterTimes} {os later : DefaultOS r}

theorem streaksKept_iff_recent : StreaksKept os later ↔
    ∀ c, isSafeChainId c = true → MemoryStore.failureStreak (recent os.store c) ≤
      MemoryStore.failureStreak (recent later.store c) := by
  constructor
  · intro kept c safe
    obtain ⟨view, read, le⟩ := kept c _ (buildHistory_safe os.store c safe)
    obtain ⟨_, rfl⟩ := (buildHistory_ok_iff later.store c).mp read
    exact le
  · intro streaks c view read
    obtain ⟨safe, rfl⟩ := (buildHistory_ok_iff os.store c).mp read
    exact ⟨_, buildHistory_safe later.store c safe, streaks c safe⟩

theorem streak_commit (store : MemoryStore) {outcome : StepOutcome}
    (finished : outcome.status = .ok) (safe : isSafeChainId outcome.chainId = true) (c : String) :
    MemoryStore.failureStreak (recent (store.commit outcome).1 c) =
      if c = outcome.chainId then 0 else MemoryStore.failureStreak (recent store c) := by
  split
  · rename_i same
    subst same
    by_cases full : ChainsFull store outcome.chainId
    · rcases commit_cases store outcome with ⟨_, e, eq⟩ | ⟨_, room, _⟩
      · rw [eq, recent_of_full store _ full]
        rfl
      · exact absurd full room
    · have limit : 0 < MemoryStore.historyLimit := by decide
      rw [recent_commit store safe full, keepLast_concat limit, failureStreak_concat,
        if_pos finished]
  · rename_i other
    rw [recent_commit_of_ne store c (Ne.symm other)]

theorem streaksKept_iff (effect : Effect setup chainId snapshot after os later) :
    StreaksKept os later ↔ (Accounted setup chainId snapshot after →
      MemoryStore.failureStreak (recent os.store chainId) = 0) := by
  rw [streaksKept_iff_recent]
  by_cases accounted : Accounted setup chainId snapshot after
  · obtain ⟨_, outcome, finished, rfl, store⟩ := effect.accounted accounted
    have safe : isSafeChainId outcome.chainId = true := accounted.2.2
    rw [store]
    constructor
    · intro streaks _
      have le := streaks outcome.chainId safe
      rw [streak_commit os.store finished safe, if_pos rfl] at le
      exact Nat.le_zero.mp le
    · intro none c _
      rw [streak_commit os.store finished safe]
      split
      · rename_i same
        rw [same, none accounted]
      · exact le_rfl
  · rw [(effect.skipped accounted).2]
    exact iff_of_true (fun _ _ => le_rfl) fun counted => absurd counted accounted

end Streaks

section Ceilings
variable {r : Arithmetic} {setup : Setup} {os later : DefaultOS r} {other : StepIntent}
  {t : BeforeTimes}

theorem drift_eq (p : SimplePlanner r) (analysis : Option AnalysisResult) :
    p.drift analysis = r.scale p.effectiveCeiling
      (r.fl (driftFactor (analysis.map AnalysisResult.recommendation))) := by
  simp only [SimplePlanner.drift, driftFactor, recommends, decide_eq_true_eq]
  split
  · rfl
  · split
    · rfl
    · rw [r.one, r.scale_one]

theorem plannerCeiling_eq : plannerCeiling setup os os other t = nextCeiling os :=
  congrArg os.planner.band.cut (drift_eq os.planner os.lastAnalysis)

theorem cut_le_iff {band : CeilingBand} (proper : band.minCeilingUsd < band.maxCeilingUsd)
    (low high : ℚ) : band.cut high ≤ band.cut low ↔
      high ≤ low ∨ high ≤ band.minCeilingUsd ∨ band.maxCeilingUsd ≤ low := by
  rw [CeilingBand.cut, CeilingBand.cut, max_le_iff, and_iff_right (le_max_left _ _), le_max_iff,
    min_le_iff, le_min_iff, and_iff_right (min_le_left _ _), min_le_iff,
    or_iff_right (not_le.mpr proper)]
  tauto

theorem ceilingKept_iff_issued : CeilingKept setup os later other t ↔
    ∀ ceiling after, issuedCeiling (os.beforeStep setup other t).2 = some ceiling →
      issuedCeiling (later.beforeStep setup other t).2 = some after → after ≤ ceiling := by
  constructor
  · intro kept ceiling after issued reissued
    cases first : (os.beforeStep setup other t).2 with
    | error e => simp [first, issuedCeiling] at issued
    | ok handle =>
      cases second : (later.beforeStep setup other t).2 with
      | error e => simp [second, issuedCeiling] at reissued
      | ok handle' =>
        simp only [first, second, issuedCeiling, Option.some.injEq] at issued reissued
        rw [← issued, ← reissued]
        exact kept handle handle' first second
  · intro le handle after issued reissued
    exact le _ _ (by rw [issued]; rfl) (by rw [reissued]; rfl)

variable {chainId : String} {snapshot : Except PyExc ContextSnapshot} {after : AfterTimes}

theorem nextCeiling_accounted (effect : Effect setup chainId snapshot after os later)
    (accounted : Accounted setup chainId snapshot after) :
    nextCeiling later = ceilingAfter setup os chainId after := by
  rw [nextCeiling, adjusted, effect.planner, factorNow, (effect.accounted accounted).1]
  rfl

theorem nextCeiling_skipped (effect : Effect setup chainId snapshot after os later)
    (skipped : ¬ Accounted setup chainId snapshot after) : nextCeiling later = nextCeiling os := by
  rw [nextCeiling, adjusted, effect.planner, factorNow, (effect.skipped skipped).1]
  rfl

/-- Where the other step gets no ceiling from the planner, nothing changes for it. -/
theorem ceilingKept_of_unplanned (effect : Effect setup chainId snapshot after os later)
    (unplanned : ¬ Planned setup other t) : CeilingKept setup os later other t := by
  rw [ceilingKept_iff_issued, unplanned_ceiling os unplanned, unplanned_ceiling later unplanned,
    effect.remaining]
  intro ceiling again issued reissued
  rw [issued, Option.some.injEq] at reissued
  exact reissued.ge

theorem ceilingKept_of_planned (effect : Effect setup chainId snapshot after os later)
    (planned : Planned setup other t) : CeilingKept setup os later other t ↔
      granted setup t (os.remaining setup)
        (min (nextCeiling later) (outerLimit setup os other)) r ≤
      granted setup t (os.remaining setup)
        (min (nextCeiling os) (outerLimit setup os other)) r := by
  have outer : outerLimit setup later other = outerLimit setup os other := by
    rw [outerLimit, outerLimit, effect.chains]
  rw [ceilingKept_iff_issued, planned_ceiling os planned, planned_ceiling later planned,
    plannerCeiling_eq, plannerCeiling_eq, effect.remaining, outer]
  simp only [Option.some.injEq]
  exact ⟨fun le => le _ _ rfl rfl, fun le _ _ first second => first ▸ second ▸ le⟩

theorem scaledInOrder_iff {remaining now later : ℚ} : ScaledInOrder r remaining now later ↔
    passthroughCeiling later remaining r ≤ passthroughCeiling now remaining r := by
  unfold ScaledInOrder passthroughCeiling missed
  by_cases first : remaining < later ∧ 0 < later <;> by_cases second : remaining < now ∧ 0 < now
  · simp only [first, second, and_self, if_true, sub_le_sub_iff_right]
  · simp only [first, second, and_self, if_true, if_false, sub_le_sub_iff_right]
  · simp only [first, second, and_self, if_true, if_false, sub_le_sub_iff_right]
  · simp only [first, second, if_false]

theorem granted_le_iff {remaining now later : ℚ} :
    granted setup t remaining later r ≤ granted setup t remaining now r ↔
      if ¬ arbiterOverran setup t ∧ remaining < max now later then
        ScaledInOrder r remaining now later
      else later ≤ now := by
  unfold granted
  by_cases overran : arbiterOverran setup t
  · simp only [overran, if_true, not_true, false_and, if_false]
  · simp only [overran, if_false, not_false_eq_true, true_and]
    split
    · exact scaledInOrder_iff.symm
    · rename_i affordable
      obtain ⟨paidNow, paidLater⟩ := max_le_iff.mp (not_lt.mp affordable)
      rw [passthrough_affordable r paidNow, passthrough_affordable r paidLater]

theorem ceilingKept_iff (band : os.planner.band = defaultBand r)
    (effect : Effect setup chainId snapshot after os later) :
    CeilingKept setup os later other t ↔ (Accounted setup chainId snapshot after →
      Planned setup other t → DriftHidden setup os chainId after other t) := by
  by_cases planned : Planned setup other t
  swap
  · exact iff_of_true (ceilingKept_of_unplanned effect planned) fun _ now => absurd now planned
  rw [ceilingKept_of_planned effect planned]
  by_cases accounted : Accounted setup chainId snapshot after
  swap
  · rw [nextCeiling_skipped effect accounted]
    exact iff_of_true le_rfl fun counted => absurd counted accounted
  have proper : os.planner.band.minCeilingUsd < os.planner.band.maxCeilingUsd := by
    have small : r.fl (1 / 10) ≤ 1 := r.fl_le r.one (by norm_num)
    rw [band]
    exact small.trans_lt (by norm_num [defaultBand])
  have outer : ∀ low high limit : ℚ, min high limit ≤ min low limit ↔ high ≤ low ∨ limit ≤ low := by
    intro low high limit
    rw [le_min_iff, min_le_iff, and_iff_left (min_le_right _ _)]
  rw [nextCeiling_accounted effect accounted, granted_le_iff, DriftHidden]
  simp only [accounted, planned, true_imp_iff, outer]
  rw [nextCeiling, ceilingAfter, cut_le_iff proper]
  simp only [or_assoc]

end Ceilings

section Steps
variable {r : Arithmetic} {setup : Setup} {os : DefaultOS r} {intent : StepIntent} {reason : String}
  {snapshot : Except PyExc ContextSnapshot} {after : AfterTimes}

theorem untouched_fallback (reason : String) :
    Untouched intent.chainId (fallbackSnapshot intent reason) := ⟨rfl, rfl, rfl⟩

/-- The collector takes an empty snapshot for a finished step without cost. -/
theorem collect_untouched {taken : ContextSnapshot} (untouched : Untouched intent.chainId taken)
    (nowMs : Int) : (simpleCollect taken nowMs).status = .ok ∧
      (simpleCollect taken nowMs).chainId = intent.chainId ∧
      (simpleCollect taken nowMs).costUsd.finiteOrZero = 0 := by
  unfold simpleCollect
  rw [untouched.nodes]
  exact ⟨rfl, untouched.chain, by rw [untouched.cost]; rfl⟩

theorem analysis_recommendation (stages : DefaultStages setup) {outcome : StepOutcome}
    (finished : outcome.status = .ok) (lastN : List StepOutcome) :
    (analyzeStage setup intent outcome (viewOf outcome.chainId lastN) after).recommendation =
      recommendationAfter setup after lastN := by
  unfold analyzeStage runWithBudget recommendationAfter
  by_cases overran : setup.analyzerBudget < after.analyzerMs
  · simp only [overran, if_true]
    rfl
  · simp only [overran, if_false, stages.analyze, ruleAnalyze, finished, viewOf]
    split
    · rfl
    · simp only [ne_eq, not_true, if_false]
      split <;> rfl

/-- The pipeline `after_step` of a denied step is called on: the denial has been announced. -/
def announced (os : DefaultOS r) (intent : StepIntent) (reason : String) : DefaultOS r :=
  { os with emitted := os.emitted ++ [.stepDenied intent reason] }

/-- Accounting a step without cost leaves what request and chains have left. -/
theorem account_free (held : HeldCounters setup os) {outcome : StepOutcome}
    (analysis : AnalysisResult) (free : outcome.costUsd.finiteOrZero = 0) :
    (os.account setup outcome analysis).totalSpentUsd = os.totalSpentUsd ∧
    ∀ c, (os.account setup outcome analysis).chainSpentUsd.getD c 0 =
      os.chainSpentUsd.getD c 0 := by
  simp only [VeronicaOS.account, free, add_zero, held.total, held.chains, true_and]
  intro c
  rw [Dict.getD, Dict.get?_set]
  split
  · rename_i same
    rw [same, Option.getD_some]
  · rfl

theorem afterStep_effect (stages : DefaultStages setup) (held : HeldCounters setup os)
    {taken : ContextSnapshot}
    (untouched : Untouched intent.chainId taken) (caught : SnapshotCaught snapshot)
    (now : ℚ) : Effect setup intent.chainId snapshot after os
      ((announced os intent reason).afterStep setup (deniedHandle intent reason now) taken
        after).1 := by
  obtain ⟨finished, chain, free⟩ := collect_untouched untouched after.nowMs
  rw [← stages.collect] at finished chain free
  by_cases accounted : Accounted setup intent.chainId snapshot after
  · have safe : isSafeChainId (setup.collect taken after.nowMs).chainId = true := by
      rw [chain]
      exact accounted.2.2
    rw [afterStep_accounts _ _ _ accounted.2.1 safe]
    obtain ⟨planner, analysis, total, chains, store⟩ := commitStep_fields
      ((announced os intent reason).account setup (setup.collect taken after.nowMs) _) _ _ _
    have announcedHeld : HeldCounters setup (announced os intent reason) :=
      ⟨held.total, held.chains⟩
    obtain ⟨spent, chainSpent⟩ := account_free announcedHeld _ free
    refine ⟨planner, ?_, ?_, fun skipped => absurd accounted skipped, fun _ => ⟨?_, ?_⟩⟩
    · rw [VeronicaOS.remaining, total, spent]
      rfl
    · intro c
      rw [VeronicaOS.chainRemaining, chains, chainSpent]
      rfl
    · rw [analysis, ← chain]
      exact congrArg some (analysis_recommendation stages finished _)
    · exact ⟨_, finished, chain, store⟩
  · have stopped : ¬ Accounts setup (announced os intent reason) taken after := by
      intro accounts
      have read : (os.store.buildHistory (setup.collect taken after.nowMs).chainId).isOk :=
        accounts.2
      rw [buildHistory_isOk, chain] at read
      exact accounted ⟨caught, accounts.1, read⟩
    have unchanged := (afterStep_cases setup (announced os intent reason) taken after
      (deniedHandle intent reason now)).resolve_right fun accounts => stopped accounts.1
    rw [unchanged.2]
    exact ⟨rfl, rfl, fun _ => rfl, fun _ => ⟨rfl, rfl⟩, fun now => absurd now accounted⟩

variable {Ctx R : Type} {kernel : Kernel Ctx R}

theorem step_effect (stages : DefaultStages setup) (held : HeldCounters setup os)
    (accepts : AcceptsNonneg kernel) (denied : setup.denial intent = some reason)
    (untouched : ∀ taken, snapshot = .ok taken → Untouched intent.chainId taken)
    (before : BeforeTimes) (uuidHex : String) (body : StepContext Ctx → Except PyExc R) :
    Effect setup intent.chainId snapshot after os
      (step setup kernel (alone before after snapshot uuidHex) os intent body).os := by
  have before_eq : VeronicaOS.beforeStepAt setup os os intent before =
      (announced os intent reason, .ok (deniedHandle intent reason before.now)) := by
    simp only [VeronicaOS.beforeStepAt, denied]
    rfl
  obtain ⟨execCtx, opened⟩ : ∃ execCtx,
      openContext kernel intent (deniedHandle intent reason before.now) = .ok execCtx :=
    (openContext_ok_iff accepts).mpr le_rfl
  cases taken : snapshotOrFallback intent snapshot with
  | error e =>
    have stopped : ¬ Accounted setup intent.chainId snapshot after := by
      intro accounted
      obtain ⟨_, ok⟩ := (snapshot_ok_iff snapshot).mpr accounted.1
      rw [taken] at ok
      cases ok
    simp only [step, alone, id, before_eq, opened, taken]
    exact ⟨rfl, rfl, fun _ => rfl, fun _ => ⟨rfl, rfl⟩, fun now => absurd now stopped⟩
  | ok found =>
    have empty : Untouched intent.chainId found := by
      cases snapshot with
      | ok original =>
        cases taken
        exact untouched _ rfl
      | error e =>
        simp only [snapshotOrFallback] at taken
        split at taken
        · cases taken
          exact untouched_fallback _
        · cases taken
    simp only [step, alone, id, before_eq, opened, taken]
    exact afterStep_effect stages held empty ((snapshot_ok_iff snapshot).mp ⟨found, taken⟩) _

theorem normalize_denial (uuidHex : String) :
    setup.denial (normalizeIntent uuidHex os intent).2 = setup.denial intent := by
  unfold normalizeIntent
  dsimp only
  split <;> rfl

/-- `run_step` may take a number from the step counter, which nothing here reads. -/
theorem effect_of_normalized {chainId uuidHex : String} {later : DefaultOS r}
    (effect : Effect setup chainId snapshot after (normalizeIntent uuidHex os intent).1 later) :
    Effect setup chainId snapshot after os later := by
  unfold normalizeIntent at effect
  dsimp only at effect
  split at effect
  · exact ⟨effect.planner, effect.remaining, effect.chains, effect.skipped, effect.accounted⟩
  · exact effect

end Steps

section Reachable
variable {r : Arithmetic} {setup : Setup} {os : DefaultOS r}

theorem reachable_band (reachable : ReachableOS setup (freshOS r) os) :
    os.planner.band = defaultBand r := by
  obtain ⟨handles, reached⟩ := reachable
  have keep : ∀ (s : Running (SimplePlanner r) (PassthroughArbiter r) MemoryStore) call,
      s.os.planner.band = defaultBand r → True →
        (callStep setup s call).os.planner.band = defaultBand r := by
    intro s call band _
    rw [callStep_planner SimplePlanner.band (fun _ _ _ _ => rfl), band]
  have first : (started (freshOS r)).os.planner.band = defaultBand r := rfl
  exact Runs.reachable_invariant keep first reached

theorem reachable_held (reachable : ReachableOS setup (freshOS r) os) :
    HeldCounters setup os := by
  obtain ⟨handles, reached⟩ := reachable
  have first : HeldCounters setup (freshOS r) :=
    created_held setup ({} : SimplePlanner r) ({} : PassthroughArbiter r) ({} : MemoryStore)
  exact Runs.reachable_invariant
    (I := fun s : Running (SimplePlanner r) (PassthroughArbiter r) MemoryStore =>
      HeldCounters setup s.os)
    (fun _ call held _ => callStep_held held call) first reached

end Reachable

section Examples

/-- One blocked model, and a cap on all ceilings. -/
def blocking (maxCeilingUsd : Option ℚ) : Setup :=
  defaultSetup 10 (some { blockedModels := ["model"], maxCeilingUsd })

def toolIntent (stepId : String) : StepIntent :=
  { llmIntent stepId with kind := .tool, model := none, toolName := some "search" }

/-- The kernel's snapshot of a step it ran nothing for. -/
def emptySnapshot : ContextSnapshot where
  chainId := "chain"
  requestId := "request"
  stepCount := 0
  costUsdAccumulated := .finite 0
  aborted := false
  abortReason := none
  elapsedMs := .finite 1
  nodes := []

def failedSnapshot : ContextSnapshot :=
  { emptySnapshot with nodes := [{
    nodeId := "node"
    kind := .tool
    status := "error"
    costUsd := .finite 0 }] }

def failedOnce : DefaultOS :=
  (Runs.run (callStep (blocking none)) (started freshOS)
    [.before 1 (toolIntent "1") inTime, .after 1 failedSnapshot collectedInTime]).os

def deniedRun (setup : Setup) (os : DefaultOS) : DefaultOS :=
  (runStep setup (plainKernel Unit) (alone inTime collectedInTime (.ok emptySnapshot) "uuid") os
    (llmIntent "2") (.ok ())).os

/-- The pipeline in doubles, with a dollar for the request. -/
def tight : Setup :=
  { defaultSetup 1 (some { blockedModels := ["model"] }) with arithmetic := .double }

def seventySpent : DefaultOS tight.arithmetic :=
  (Runs.run (callStep tight) (started (freshOS .double))
    [.before 1 { toolIntent "1" with chainId := "other" } inTime,
      .after 1 { snapshotOf (Doubles.round (7 / 10)) with chainId := "other" }
        collectedInTime]).os

end Examples

end VeronicaDenied
