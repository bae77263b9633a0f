import Veronica.PassthroughIssue
import Veronica.HistoryAnalyzer
import Veronica.PipelineRuns
import Veronica.Library.Unwinding

/- Two runs of one pipeline with AdaptivePlanner that do the same on one chain, and anything on
   the others. What a chain has spent is its own, the planner's ceiling, its cooldown and the
   last analysis are shared by all chains. -/
namespace VeronicaIndependence
open VeronicaTypes VeronicaPlanners VeronicaArbiters VeronicaPipeline VeronicaStages
open VeronicaIssue VeronicaRuns VeronicaMemory VeronicaPassthrough VeronicaHistory

abbrev AdaptiveOS := VeronicaOS AdaptivePlanner PassthroughArbiter MemoryStore
abbrev Session := Running AdaptivePlanner PassthroughArbiter MemoryStore

/-- HistoryAnalyzer among the default stages; stage budgets, request budget, org policy and the
    kernel's price table are not restricted. -/
structure AdaptiveStages (price : String → Option ℚ) (setup : Setup) : Prop where
  collect : setup.collect = simpleCollect
  analyze : setup.analyze = historyAnalyze
  estimate : setup.estimate = tableEstimate price

/-- What a chain sees of a call: neither the ticket nor the clock, only which of the stages before
    the arbiter, or around the outcome, were too slow. -/
inductive ChainCall where
  | before (intent : StepIntent) (costModelSlow plannerSlow : Bool)
  | after (snapshot : ContextSnapshot) (collectorSlow analyzerSlow : Bool)

def seenBy (setup : Setup) (chainId : String) : Call → Option ChainCall
  | .before _ intent t =>
    if intent.chainId = chainId then
      some (.before intent (setup.costModelBudget < t.costModelMs)
        (setup.plannerBudget < t.plannerMs))
    else none
  | .after _ snapshot t =>
    if snapshot.chainId = chainId then
      some (.after snapshot (setup.collectorBudget < t.collectorMs)
        (setup.analyzerBudget < t.analyzerMs))
    else none

/-- The request budget is not what limits the next ceiling. -/
def Ample (setup : Setup) (os : AdaptiveOS) : Prop :=
  1 ≤ os.remaining setup ∧ os.planner.band.minCeilingUsd ≤ os.remaining setup ∧
    os.planner.band.maxCeilingUsd ≤ os.remaining setup

/-- A step is finished with a handle it was given, and one on the chain is begun with an ample
    request budget. -/
def Legal (setup : Setup) (chainId : String) (s : Session) : Call → Prop
  | .before _ intent _ => intent.chainId = chainId → Ample setup s.os
  | .after ticket _ _ => (s.handles.get? ticket).isSome

def ceilingOf (setup : Setup) : Session × Call → Option ℚ
  | (s, .before _ intent t) => issuedCeiling (s.os.beforeStep setup intent t).2
  | (_, .after _ _ _) => none

def ceilings (setup : Setup) (chainId : String) (s : Session) (calls : List Call) :
    List (Option ℚ) :=
  (Unwinding.visits (callStep setup) (seenBy setup chainId) s calls).map (ceilingOf setup)

/-- The planner's ceiling, scaled by what the last analysis asks for unless a cooldown runs. -/
def scaledCeiling (os : AdaptiveOS) : ℚ :=
  os.planner.effectiveCeiling * (os.planner.adjustment os.lastAnalysis).getD 1

def estimateOf (price : String → Option ℚ) (setup : Setup) (intent : StepIntent)
    (t : BeforeTimes) : CostEstimate :=
  if setup.costModelBudget < t.costModelMs then fallbackCost
  else tableEstimate price intent (viewOf intent.chainId []) none

section Planning
variable (price : String → Option ℚ) (setup : Setup) (os : AdaptiveOS) (intent : StepIntent)
  (t : BeforeTimes)

/-- The ceiling a step gets however low the planner's ceiling is. -/
def floorFor : ℚ :=
  min (os.planner.band.cut ((estimateOf price setup intent t).estimatedUsd * costHeadroom))
    (outerLimit setup os intent)

/-- The ceiling a step gets however high the planner's ceiling is, above its floor. -/
def capFor : ℚ := min os.planner.band.maxCeilingUsd (outerLimit setup os intent)

/-- Two planners' ceilings give a step the same: they are equal, or the step's own bounds leave
    nothing of the difference. -/
def SameCut (scaled scaled' : ℚ) : Prop :=
  let floor := floorFor price setup os intent t
  let cap := capFor setup os intent
  scaled = scaled' ∨ cap ≤ floor ∨ (scaled ≤ floor ∧ scaled' ≤ floor) ∨
    (cap ≤ scaled ∧ cap ≤ scaled')

end Planning

/-- Where a step of the chain is begun, the planner's ceilings of the two runs come to the same
    for it. -/
def PlansAlike (price : String → Option ℚ) (setup : Setup) :
    Session × Call → Session × Call → Prop
  | (s, .before _ intent t), (s', _) => Planned setup intent t →
    SameCut price setup s.os intent t (scaledCeiling s.os) (scaledCeiling s'.os)
  | (_, .after _ _ _), _ => True

def SameSteps (setup : Setup) (chainId : String) (calls others : List Call) : Prop :=
  calls.filterMap (seenBy setup chainId) = others.filterMap (seenBy setup chainId)

section Spend
variable {setup : Setup} {chainId : String}

def spentAfter (setup : Setup) (spent : ℚ) : ChainCall → ℚ
  | .before .. => spent
  | .after snapshot collectorSlow _ =>
    if collectorSlow = false ∧ isSafeChainId snapshot.chainId = true then
      setup.arithmetic.fl (spent + (simpleCollect snapshot 0).costUsd.finiteOrZero)
    else spent

theorem simpleCollect_chainId (snapshot : ContextSnapshot) (nowMs : Int) :
    (simpleCollect snapshot nowMs).chainId = snapshot.chainId := by
  unfold simpleCollect
  split <;> rfl

theorem simpleCollect_costUsd (snapshot : ContextSnapshot) (nowMs nowMs' : Int) :
    (simpleCollect snapshot nowMs).costUsd = (simpleCollect snapshot nowMs').costUsd := by
  unfold simpleCollect
  split <;> rfl

theorem accounts_iff (collect : setup.collect = simpleCollect) (os : AdaptiveOS)
    (snapshot : ContextSnapshot) (t : AfterTimes) : Accounts setup os snapshot t ↔
      ¬ setup.collectorBudget < t.collectorMs ∧ isSafeChainId snapshot.chainId = true := by
  show _ ∧ (os.store.buildHistory (setup.collect snapshot t.nowMs).chainId).isOk ↔ _
  rw [collect, simpleCollect_chainId, buildHistory_isOk, not_lt]

theorem callStep_spent (collect : setup.collect = simpleCollect) {s : Session} {call : Call}
    (legal : Legal setup chainId s call) :
    (callStep setup s call).os.chainSpentUsd.getD chainId 0 =
      ((seenBy setup chainId call).map (spentAfter setup (s.os.chainSpentUsd.getD chainId 0))).getD
        (s.os.chainSpentUsd.getD chainId 0) := by
  cases call with
  | before ticket intent t =>
    rw [callStep_before_os, (beforeStep_counters setup s.os intent t).2]
    simp only [seenBy]
    split
    · rfl
    · rfl
  | after ticket snapshot t =>
    obtain ⟨handle, found⟩ := Option.isSome_iff_exists.mp legal
    have cost : collectedCost setup snapshot t =
        (simpleCollect snapshot 0).costUsd.finiteOrZero := by
      rw [collectedCost, collect, simpleCollect_costUsd snapshot t.nowMs 0]
    have counters := afterStep_counters setup s.os snapshot t handle
    rw [accounts_iff collect, cost, collect, simpleCollect_chainId] at counters
    simp only [callStep, found, seenBy]
    rcases counters with ⟨skipped, _, chains⟩ | ⟨⟨inTime, safe⟩, _, chains⟩
    · have free : ¬ (decide (setup.collectorBudget < t.collectorMs) = false ∧
          isSafeChainId snapshot.chainId = true) := by
        rwa [decide_eq_false_iff_not]
      rw [chains]
      split
      · simp only [Option.map_some, Option.getD_some, spentAfter, if_neg free]
      · rfl
    · rw [chains, Dict.getD, Dict.get?_set]
      by_cases own : snapshot.chainId = chainId
      · subst own
        simp [spentAfter, inTime, safe]
      · rw [if_neg own, if_neg (Ne.symm own)]
        rfl

structure Alike (chainId : String) (s s' : Session) : Prop where
  band : s.os.planner.band = s'.os.planner.band
  spent : s.os.chainSpentUsd.getD chainId 0 = s'.os.chainSpentUsd.getD chainId 0

theorem callStep_band (s : Session) (call : Call) :
    (callStep setup s call).os.planner.band = s.os.planner.band :=
  callStep_planner AdaptivePlanner.band (fun _ _ _ _ => rfl) s call

theorem alike_unwinds (collect : setup.collect = simpleCollect) :
    Unwinding.Unwinds (callStep setup) (seenBy setup chainId) (Legal setup chainId)
      (Alike chainId) where
  symm := fun _ _ alike => ⟨alike.band.symm, alike.spent.symm⟩
  unseen := by
    intro s s' call alike legal hidden
    refine ⟨(callStep_band s call).trans alike.band, ?_⟩
    rw [callStep_spent collect legal, hidden]
    exact alike.spent
  seen := by
    intro s s' call call' alike legal legal' same _
    refine ⟨by rw [callStep_band, callStep_band, alike.band], ?_⟩
    rw [callStep_spent collect legal, callStep_spent collect legal', same, alike.spent]

end Spend

section Ceilings
variable {price : String → Option ℚ} {setup : Setup} {intent : StepIntent}

theorem cut_clamp (band : CeilingBand) (scaled headroom outer : ℚ) :
    min (band.cut (max scaled headroom)) outer =
      max (min (band.cut headroom) outer) (min (min band.maxCeilingUsd outer) scaled) := by
  rw [CeilingBand.cut, CeilingBand.cut, min_max_distrib_left,
    max_comm (min band.maxCeilingUsd scaled), ← max_assoc, min_max_distrib_right, min_right_comm]

theorem clamp_eq_iff (floor cap x y : ℚ) : max floor (min cap x) = max floor (min cap y) ↔
    x = y ∨ cap ≤ floor ∨ (x ≤ floor ∧ y ≤ floor) ∨ (cap ≤ x ∧ cap ≤ y) := by
  simp only [max_def, min_def]
  grind

theorem cut_le (band : CeilingBand) (ceiling : ℚ) :
    band.cut ceiling ≤ max band.minCeilingUsd band.maxCeilingUsd :=
  max_le_max_left _ (min_le_left _ _)

theorem costAt_eq (estimate : setup.estimate = tableEstimate price) (os : AdaptiveOS)
    (t : BeforeTimes) (safe : isSafeChainId intent.chainId = true) :
    costAt setup os intent t = estimateOf price setup intent t := by
  have read : StoreProtocol.buildHistory os.store intent.chainId = _ :=
    buildHistory_safe os.store intent.chainId safe
  simp only [costAt, read, costStage, runWithBudget, estimateOf]
  by_cases slow : setup.costModelBudget < t.costModelMs
  · simp only [slow, if_true]
  · simp only [slow, if_false, estimate]
    rfl

theorem planned_clamp (estimate : setup.estimate = tableEstimate price) {os : AdaptiveOS}
    {t : BeforeTimes} (ample : Ample setup os) (planned : Planned setup intent t) :
    issuedCeiling (os.beforeStep setup intent t).2 = some (max (floorFor price setup os intent t)
      (min (capFor setup os intent) (scaledCeiling os))) := by
  have ceiling : plannerCeiling setup os os intent t = os.planner.band.cut (max (scaledCeiling os)
      ((estimateOf price setup intent t).estimatedUsd * costHeadroom)) := by
    show os.planner.band.cut (os.planner.drift os.lastAnalysis (costAt setup os intent t)) = _
    rw [AdaptivePlanner.drift, costAt_eq estimate os t planned.2.1, scaledCeiling,
      Arithmetic.exact_scale, Arithmetic.exact_fl, Arithmetic.exact_fl]
  have affordable : min (plannerCeiling setup os os intent t) (outerLimit setup os intent) ≤
      os.remaining setup := by
    rw [ceiling]
    exact (min_le_left _ _).trans ((cut_le _ _).trans (max_le ample.2.1 ample.2.2))
  rw [planned_ceiling os planned, granted_affordable .exact affordable, ceiling, cut_clamp]
  rfl

theorem unplanned_fixed {os : AdaptiveOS} {t : BeforeTimes} (ample : Ample setup os)
    (unplanned : ¬ Planned setup intent t) : issuedCeiling (os.beforeStep setup intent t).2 =
      if (setup.denial intent).isSome then some 0
      else if isSafeChainId intent.chainId then some (orgCapped setup 1) else none := by
  have affordable : orgCapped setup 1 ≤ os.remaining setup := (orgCapped_le setup 1).trans ample.1
  rw [unplanned_ceiling os unplanned, min_eq_left ample.1, granted_affordable .exact affordable]

theorem seen_before {chainId : String} {ticket : Nat} {t : BeforeTimes} {call : Call}
    (same : seenBy setup chainId (.before ticket intent t) = seenBy setup chainId call)
    (seen : (seenBy setup chainId (.before ticket intent t)).isSome) :
    intent.chainId = chainId ∧ ∃ ticket' t', call = .before ticket' intent t' ∧
      (setup.costModelBudget < t.costModelMs ↔ setup.costModelBudget < t'.costModelMs) ∧
      (plannerOverran setup t ↔ plannerOverran setup t') := by
  by_cases own : intent.chainId = chainId
  · refine ⟨own, ?_⟩
    simp only [seenBy, own, if_true] at same
    cases call with
    | before ticket' intent' t' =>
      simp only at same
      split at same
      · simp only [Option.some.injEq, ChainCall.before.injEq, decide_eq_decide] at same
        obtain ⟨rfl, cost, slow⟩ := same
        exact ⟨ticket', t', rfl, cost, slow⟩
      · cases same
    | after ticket' snapshot t' =>
      simp only at same
      split at same
      · simp at same
      · cases same
  · simp [seenBy, own] at seen

theorem seen_after {chainId : String} {ticket : Nat} {snapshot : ContextSnapshot}
    {t : AfterTimes} {call : Call}
    (same : seenBy setup chainId (.after ticket snapshot t) = seenBy setup chainId call)
    (seen : (seenBy setup chainId (.after ticket snapshot t)).isSome) :
    snapshot.chainId = chainId ∧ ∃ ticket' t', call = .after ticket' snapshot t' ∧
      (setup.collectorBudget < t.collectorMs ↔ setup.collectorBudget < t'.collectorMs) ∧
      (setup.analyzerBudget < t.analyzerMs ↔ setup.analyzerBudget < t'.analyzerMs) := by
  by_cases own : snapshot.chainId = chainId
  · refine ⟨own, ?_⟩
    simp only [seenBy, own, if_true] at same
    cases call with
    | before ticket' intent t' =>
      simp only at same
      split at same
      · simp at same
      · cases same
    | after ticket' snapshot' t' =>
      simp only at same
      split at same
      · simp only [Option.some.injEq, ChainCall.after.injEq, decide_eq_decide] at same
        obtain ⟨rfl, collector, analyzer⟩ := same
        exact ⟨ticket', t', rfl, collector, analyzer⟩
      · cases same
  · simp [seenBy, own] at seen

theorem ceilingOf_eq_iff (stages : AdaptiveStages price setup) {chainId : String}
    {x y : Session × Call}
    (paired : Unwinding.Paired (seenBy setup chainId) (Legal setup chainId) (Alike chainId) x y) :
    ceilingOf setup x = ceilingOf setup y ↔ PlansAlike price setup x y := by
  obtain ⟨s, call⟩ := x
  obtain ⟨s', call'⟩ := y
  obtain ⟨alike, legal, legal', same, seen⟩ := paired
  cases call with
  | after ticket snapshot t =>
    obtain ⟨_, ticket', t', rfl, _⟩ := seen_after same seen
    exact iff_of_true rfl trivial
  | before ticket intent t =>
    obtain ⟨rfl, ticket', t', rfl, cost, slow⟩ := seen_before same seen
    have ample : Ample setup s.os := legal rfl
    have ample' : Ample setup s'.os := legal' rfl
    by_cases planned : Planned setup intent t
    · have planned' : Planned setup intent t' :=
        ⟨planned.1, planned.2.1, fun now => planned.2.2 (slow.mpr now)⟩
      have outer : outerLimit setup s'.os intent = outerLimit setup s.os intent := by
        rw [outerLimit, outerLimit, VeronicaOS.chainRemaining, VeronicaOS.chainRemaining,
          alike.spent]
      have estimate : estimateOf price setup intent t' = estimateOf price setup intent t := by
        simp only [estimateOf, cost]
      have floor : floorFor price setup s'.os intent t' = floorFor price setup s.os intent t := by
        rw [floorFor, floorFor, outer, estimate, alike.band]
      have cap : capFor setup s'.os intent = capFor setup s.os intent := by
        rw [capFor, capFor, outer, alike.band]
      rw [ceilingOf, ceilingOf, planned_clamp stages.estimate ample planned,
        planned_clamp stages.estimate ample' planned', floor, cap, Option.some.injEq,
        clamp_eq_iff]
      exact ⟨fun cut _ => cut, fun alike => alike planned⟩
    · have unplanned : ¬ Planned setup intent t' := fun now =>
        planned ⟨now.1, now.2.1, fun overran => now.2.2 (slow.mp overran)⟩
      rw [ceilingOf, ceilingOf, unplanned_fixed ample planned, unplanned_fixed ample' unplanned]
      exact iff_of_true rfl fun now => absurd now planned

end Ceilings

/-- Two runs that do the same on one chain issue it the same ceilings exactly when, at each of its
    steps, the planner's scaled ceilings come to the same for the step. -/
theorem chain_independent_iff {price : String → Option ℚ} {setup : Setup}
    (stages : AdaptiveStages price setup) (chainId : String) (planner : AdaptivePlanner)
    {calls others : List Call}
    (legal : Runs.EachStep (callStep setup) (Legal setup chainId)
      (started (created planner {} {})) calls)
    (legal' : Runs.EachStep (callStep setup) (Legal setup chainId)
      (started (created planner {} {})) others)
    (same : SameSteps setup chainId calls others) :
    ceilings setup chainId (started (created planner {} {})) calls =
      ceilings setup chainId (started (created planner {} {})) others ↔
    List.Forall₂ (PlansAlike price setup)
      (Unwinding.visits (callStep setup) (seenBy setup chainId) (started (created planner {} {}))
        calls)
      (Unwinding.visits (callStep setup) (seenBy setup chainId) (started (created planner {} {}))
        others) := by
  have start : Alike chainId (started (created planner {} {})) (started (created planner {} {})) :=
    ⟨rfl, rfl⟩
  have paired := Unwinding.visits_paired (alike_unwinds stages.collect) start legal legal' same
  exact Unwinding.map_eq_iff_forall₂ paired fun _ _ => ceilingOf_eq_iff stages

section LeftAlone
variable {price : String → Option ℚ} {setup : Setup} {chainId : String}

def shared (s : Session) : AdaptivePlanner × Option AnalysisResult :=
  (s.os.planner, s.os.lastAnalysis)

/-- Between two calls of the chain, the others leave what is shared as they found it. -/
def LeftAlone (setup : Setup) : AdaptivePlanner × Option AnalysisResult →
    List (Session × Call) → Prop
  | _, [] => True
  | left, (s, call) :: rest =>
    shared s = left ∧ LeftAlone setup (shared (callStep setup s call)) rest

def Room (chainId : String) (s : Session) : Call → Prop
  | .before .. => True
  | .after _ snapshot _ => snapshot.chainId = chainId → ¬ ChainsFull s.os.store chainId

def AlikeHistory (chainId : String) (s s' : Session) : Prop :=
  Alike chainId s s' ∧
    (outcomesOf s.os.store chainId).length = (outcomesOf s'.os.store chainId).length

def depthAfter (depth : Nat) : ChainCall → Nat
  | .before .. => depth
  | .after snapshot collectorSlow _ =>
    if collectorSlow = false ∧ isSafeChainId snapshot.chainId = true then
      min (depth + 1) maxOutcomesPerChain
    else depth

/-- What a finished step leaves of the parts that a chain can see: nothing new, or its outcome in
    the store and its analysis. -/
theorem callStep_after (collect : setup.collect = simpleCollect) {s : Session} {ticket : Nat}
    {handle : StepHandle} (found : s.handles.get? ticket = some handle)
    (snapshot : ContextSnapshot) (t : AfterTimes) :
    let outcome := simpleCollect snapshot t.nowMs
    let view := viewOf snapshot.chainId (recent s.os.store snapshot.chainId)
    let later := (callStep setup s (.after ticket snapshot t)).os
    later.planner = s.os.planner ∧
    ((¬ (¬ setup.collectorBudget < t.collectorMs ∧ isSafeChainId snapshot.chainId = true) ∧
        later.lastAnalysis = s.os.lastAnalysis ∧ later.store = s.os.store) ∨
      (¬ setup.collectorBudget < t.collectorMs ∧ isSafeChainId snapshot.chainId = true ∧
        later.lastAnalysis = some (analyzeStage setup handle.intent outcome view t) ∧
        later.store = (s.os.store.commit outcome).1)) := by
  simp only [callStep, found]
  refine ⟨afterStep_planner setup s.os snapshot t handle, ?_⟩
  by_cases accounted :
      ¬ setup.collectorBudget < t.collectorMs ∧ isSafeChainId snapshot.chainId = true
  · obtain ⟨inTime, safe⟩ := accounted
    have own : isSafeChainId (setup.collect snapshot t.nowMs).chainId = true := by
      rw [collect, simpleCollect_chainId, safe]
    rw [afterStep_accounts s.os handle snapshot (not_lt.mp inTime) own]
    obtain ⟨_, analysis, _, _, store⟩ := commitStep_fields
      (s.os.account setup (setup.collect snapshot t.nowMs) _) handle _ _
    refine Or.inr ⟨inTime, safe, ?_, ?_⟩
    · rw [analysis, collect, simpleCollect_chainId]
      rfl
    · rw [store, collect]
      rfl
  · have stopped : ¬ Accounts setup s.os snapshot t := by
      rwa [accounts_iff collect]
    have unchanged := (afterStep_cases setup s.os snapshot t handle).resolve_right
      fun accounts => stopped accounts.1
    rw [unchanged.2]
    exact Or.inl ⟨accounted, rfl, rfl⟩

theorem callStep_depth (collect : setup.collect = simpleCollect) {s : Session} {call : Call}
    (legal : Legal setup chainId s call) (room : Room chainId s call) :
    (outcomesOf (callStep setup s call).os.store chainId).length =
      ((seenBy setup chainId call).map
        (depthAfter (outcomesOf s.os.store chainId).length)).getD
          (outcomesOf s.os.store chainId).length := by
  cases call with
  | before ticket intent t =>
    have same := beforeStep_store setup s.os intent t
    have kept : ((seenBy setup chainId (.before ticket intent t)).map
        (depthAfter (outcomesOf s.os.store chainId).length)).getD
          (outcomesOf s.os.store chainId).length = (outcomesOf s.os.store chainId).length := by
      simp only [seenBy]
      split <;> rfl
    rw [kept, callStep_before_os, same]
  | after ticket snapshot t =>
    obtain ⟨handle, found⟩ := Option.isSome_iff_exists.mp legal
    have chain := simpleCollect_chainId snapshot t.nowMs
    rcases (callStep_after collect found snapshot t).2 with
      ⟨skipped, _, store⟩ | ⟨inTime, safe, _, store⟩
    · have free : ¬ (decide (setup.collectorBudget < t.collectorMs) = false ∧
          isSafeChainId snapshot.chainId = true) := by
        rwa [decide_eq_false_iff_not]
      rw [store]
      simp only [seenBy]
      split
      · simp only [Option.map_some, Option.getD_some, depthAfter, if_neg free]
      · rfl
    · rw [store]
      by_cases own : snapshot.chainId = chainId
      · subst own
        have taken : ¬ ChainsFull s.os.store (simpleCollect snapshot t.nowMs).chainId := by
          rw [chain]
          exact room rfl
        have kept := outcomesOf_commit s.os.store (by rw [chain, safe]) taken
        rw [chain] at kept
        rw [kept, keepLast, List.length_drop, List.length_append, List.length_singleton]
        simp only [seenBy, if_true, Option.map_some, Option.getD_some, depthAfter, inTime, safe,
          decide_false, and_self]
        omega
      · rw [outcomesOf_commit_of_ne _ _ (by rwa [chain])]
        simp only [seenBy, if_neg own, Option.map_none, Option.getD_none]

theorem history_unwinds (collect : setup.collect = simpleCollect) :
    Unwinding.Unwinds (callStep setup) (seenBy setup chainId)
      (fun s call => Legal setup chainId s call ∧ Room chainId s call) (AlikeHistory chainId) where
  symm := fun _ _ alike => ⟨⟨alike.1.band.symm, alike.1.spent.symm⟩, alike.2.symm⟩
  unseen := by
    intro s s' call alike legal hidden
    refine ⟨(alike_unwinds collect).unseen s s' call alike.1 legal.1 hidden, ?_⟩
    rw [callStep_depth collect legal.1 legal.2, hidden]
    exact alike.2
  seen := by
    intro s s' call call' alike legal legal' same seen
    refine ⟨(alike_unwinds collect).seen s s' call call' alike.1 legal.1 legal'.1 same seen, ?_⟩
    rw [callStep_depth collect legal.1 legal.2, callStep_depth collect legal'.1 legal'.2, same,
      alike.2]

theorem plan_congr (planner : AdaptivePlanner) (analysis : Option AnalysisResult)
    (cost : CostEstimate) {budget budget' : BudgetState}
    (chain : budget.chainRemainingUsd = budget'.chainRemainingUsd) :
    (planner.plan analysis cost budget).1 = (planner.plan analysis cost budget').1 := by
  simp only [AdaptivePlanner.plan, chain]

theorem beforeStep_shared (estimate : setup.estimate = tableEstimate price) (os : AdaptiveOS)
    (intent : StepIntent) (t : BeforeTimes) :
    (os.beforeStep setup intent t).1.lastAnalysis = os.lastAnalysis ∧
    (os.beforeStep setup intent t).1.planner =
      if setup.denial intent = none ∧ isSafeChainId intent.chainId = true then
        (os.planner.plan os.lastAnalysis (estimateOf price setup intent t)
          (os.budgetState setup intent.chainId)).1
      else os.planner := by
  cases denied : setup.denial intent with
  | some reason =>
    simp only [VeronicaOS.beforeStep, VeronicaOS.beforeStepAt, denied]
    exact ⟨trivial, rfl⟩
  | none =>
    cases safe : isSafeChainId intent.chainId with
    | false =>
      have read : StoreProtocol.buildHistory os.store intent.chainId = _ :=
        buildHistory_refused os.store intent.chainId safe
      simp only [VeronicaOS.beforeStep, VeronicaOS.beforeStepAt, denied, read]
      exact ⟨trivial, rfl⟩
    | true =>
      have read : StoreProtocol.buildHistory os.store intent.chainId = _ :=
        buildHistory_safe os.store intent.chainId safe
      have cost := costAt_eq estimate os t safe
      simp only [costAt, read] at cost
      simp only [VeronicaOS.beforeStep, VeronicaOS.beforeStepAt, denied, read, cost]
      exact ⟨trivial, rfl⟩

theorem analyzeStage_congr (analyze : setup.analyze = historyAnalyze) (intent intent' : StepIntent)
    {outcome outcome' : StepOutcome} {lastN lastN' : List StepOutcome} {t t' : AfterTimes}
    (status : outcome.status = outcome'.status) (depth : lastN.length = lastN'.length)
    (slow : setup.analyzerBudget < t.analyzerMs ↔ setup.analyzerBudget < t'.analyzerMs) :
    analyzeStage setup intent outcome (viewOf chainId lastN) t =
      analyzeStage setup intent' outcome' (viewOf chainId lastN') t' := by
  have alike : historyAnalyze intent outcome (viewOf chainId lastN) =
      historyAnalyze intent' outcome' (viewOf chainId lastN') :=
    historyAnalyze_congr intent intent' status depth
  unfold analyzeStage runWithBudget
  by_cases overran : setup.analyzerBudget < t.analyzerMs
  · simp only [overran, slow.mp overran, if_true]
  · have inTime : ¬ setup.analyzerBudget < t'.analyzerMs := fun now => overran (slow.mpr now)
    simp only [overran, inTime, if_false, analyze, alike]

/-- Where the shared state agrees, a call of the chain leaves it agreeing: the plan is made from
    it and from what is the chain's own, and so is the analysis. -/
theorem shared_callStep (stages : AdaptiveStages price setup) {s s' : Session} {call call' : Call}
    (alike : AlikeHistory chainId s s') (agree : shared s = shared s')
    (legal : Legal setup chainId s call) (legal' : Legal setup chainId s' call')
    (same : seenBy setup chainId call = seenBy setup chainId call')
    (seen : (seenBy setup chainId call).isSome) :
    shared (callStep setup s call) = shared (callStep setup s' call') := by
  simp only [shared, Prod.mk.injEq] at agree
  obtain ⟨planner, analysis⟩ := agree
  cases call with
  | before ticket intent t =>
    obtain ⟨rfl, ticket', t', rfl, cost, slow⟩ := seen_before same seen
    have estimate : estimateOf price setup intent t = estimateOf price setup intent t' := by
      simp only [estimateOf, cost]
    have budget : (s.os.budgetState setup intent.chainId).chainRemainingUsd =
        (s'.os.budgetState setup intent.chainId).chainRemainingUsd := by
      simp only [VeronicaOS.budgetState, VeronicaOS.chainRemaining, alike.1.spent]
    obtain ⟨last, plan⟩ := beforeStep_shared stages.estimate s.os intent t
    obtain ⟨last', plan'⟩ := beforeStep_shared stages.estimate s'.os intent t'
    rw [shared, shared, callStep_before_os, callStep_before_os, last, last', plan, plan', analysis,
      planner, estimate, plan_congr _ _ _ budget]
  | after ticket snapshot t =>
    obtain ⟨rfl, ticket', t', rfl, collector, analyzer⟩ := seen_after same seen
    obtain ⟨handle, found⟩ := Option.isSome_iff_exists.mp legal
    obtain ⟨handle', found'⟩ := Option.isSome_iff_exists.mp legal'
    obtain ⟨kept, effect⟩ := callStep_after stages.collect found snapshot t
    obtain ⟨kept', effect'⟩ := callStep_after stages.collect found' snapshot t'
    rw [shared, shared, kept, kept', planner]
    rw [← collector] at effect'
    rcases effect with ⟨skipped, last, _⟩ | ⟨inTime, safe, last, _⟩
    · rcases effect' with ⟨_, last', _⟩ | ⟨inTime, safe, _⟩
      · rw [last, last', analysis]
      · exact absurd ⟨inTime, safe⟩ skipped
    · rcases effect' with ⟨skipped, _⟩ | ⟨_, _, last', _⟩
      · exact absurd ⟨inTime, safe⟩ skipped
      · have depth : (recent s.os.store snapshot.chainId).length =
            (recent s'.os.store snapshot.chainId).length := by
          simp only [recent, keepLast, List.length_drop, alike.2]
        have status : (simpleCollect snapshot t.nowMs).status =
            (simpleCollect snapshot t'.nowMs).status := by
          unfold simpleCollect
          split <;> rfl
        rw [last, last', analyzeStage_congr stages.analyze handle.intent handle'.intent status depth
          analyzer]

/-- From one state of the shared parts, two runs that leave the chain alone agree at all of its
    steps: each call of the chain starts from what the one before left. -/
theorem plansAlike_of_leftAlone (stages : AdaptiveStages price setup)
    {first second : List (Session × Call)}
    (paired : List.Forall₂ (Unwinding.Paired (seenBy setup chainId)
      (fun s call => Legal setup chainId s call ∧ Room chainId s call) (AlikeHistory chainId))
      first second) {left : AdaptivePlanner × Option AnalysisResult}
    (alone : LeftAlone setup left first) (alone' : LeftAlone setup left second) :
    List.Forall₂ (PlansAlike price setup) first second := by
  induction paired generalizing left with
  | nil => exact List.Forall₂.nil
  | @cons x y _ _ pair _ ih =>
    obtain ⟨s, call⟩ := x
    obtain ⟨s', call'⟩ := y
    obtain ⟨here, later⟩ := alone
    obtain ⟨here', later'⟩ := alone'
    obtain ⟨alike, legal, legal', same, seen⟩ := pair
    have agree : shared s = shared s' := here.trans here'.symm
    have next := shared_callStep stages alike agree legal.1 legal'.1 same seen
    refine List.Forall₂.cons ?_ (ih later (by rw [next]; exact later'))
    simp only [shared, Prod.mk.injEq] at agree
    cases call with
    | after ticket snapshot t => trivial
    | before ticket intent t =>
      intro _
      left
      rw [scaledCeiling, scaledCeiling, agree.1, agree.2]

/-- Two runs that do the same on one chain and leave it alone otherwise issue it the same
    ceilings: its history, its spend and its analyses are its own. -/
theorem left_alone_independent (stages : AdaptiveStages price setup) (planner : AdaptivePlanner)
    {calls others : List Call}
    (legal : Runs.EachStep (callStep setup)
      (fun s call => Legal setup chainId s call ∧ Room chainId s call)
      (started (created planner {} {})) calls)
    (legal' : Runs.EachStep (callStep setup)
      (fun s call => Legal setup chainId s call ∧ Room chainId s call)
      (started (created planner {} {})) others)
    (same : SameSteps setup chainId calls others)
    (alone : LeftAlone setup (planner, none) (Unwinding.visits (callStep setup)
      (seenBy setup chainId) (started (created planner {} {})) calls))
    (alone' : LeftAlone setup (planner, none) (Unwinding.visits (callStep setup)
      (seenBy setup chainId) (started (created planner {} {})) others)) :
    ceilings setup chainId (started (created planner {} {})) calls =
      ceilings setup chainId (started (created planner {} {})) others := by
  have start : AlikeHistory chainId (started (created planner {} {}))
      (started (created planner {} {})) := ⟨⟨rfl, rfl⟩, rfl⟩
  have paired := Unwinding.visits_paired (history_unwinds stages.collect) start legal legal' same
  refine (Unwinding.map_eq_iff_forall₂ paired ?_).mpr
    (plansAlike_of_leftAlone stages paired alone alone')
  intro x y pair
  obtain ⟨alike, legal, legal', seen⟩ := pair
  exact ceilingOf_eq_iff stages ⟨alike.1, legal.1, legal'.1, seen⟩

end LeftAlone

section Examples

def adaptive : Setup := { defaultSetup 100 none with analyze := historyAnalyze }

def stepOn (chainId : String) (ticket : Nat) : Call :=
  .before ticket { llmIntent (toString ticket) with chainId } inTime

def finished (chainId status : String) (ticket : Nat) : Call :=
  .after ticket { snapshotOf 0 with
    chainId
    nodes := [{
      nodeId := "node"
      kind := .llm
      status
      costUsd := .finite 0 }] } collectedInTime

def haltedChain : List Call :=
  [stepOn "chain" 1, finished "chain" "halted" 1, stepOn "chain" 2]

def failedElsewhere : List Call :=
  [stepOn "other" 3, finished "other" "error" 3, stepOn "other" 4, finished "other" "ok" 4]

def finishedElsewhere : List Call := [stepOn "other" 3, finished "other" "ok" 3]

def opened : Session := started (created {} {} {})

instance (setup : Setup) (os : AdaptiveOS) : Decidable (Ample setup os) :=
  inferInstanceAs (Decidable (_ ∧ _ ∧ _))

instance (setup : Setup) (chainId : String) (s : Session) (call : Call) :
    Decidable (Legal setup chainId s call) :=
  match call with
  | .before _ intent _ => inferInstanceAs (Decidable (intent.chainId = chainId → Ample setup s.os))
  | .after ticket _ _ => inferInstanceAs (Decidable ((s.handles.get? ticket).isSome))

theorem adaptive_stages : AdaptiveStages (fun _ => none) adaptive := ⟨rfl, rfl, rfl⟩

theorem sameSteps_append {setup : Setup} {chainId : String} {elsewhere : List Call}
    (unseen : elsewhere.filterMap (seenBy setup chainId) = []) (calls : List Call) :
    SameSteps setup chainId calls (elsewhere ++ calls) := by
  rw [SameSteps, List.filterMap_append, unseen, List.nil_append]

/-- The error of another chain is still cooling down when the halted step of this one asks for a
    lower ceiling: it gets 0.85 twice where it would get 1 and then 0.5. -/
theorem failed_elsewhere_disturbs :
    AdaptiveStages (fun _ => none) adaptive ∧
    Runs.EachStep (callStep adaptive) (Legal adaptive "chain") opened haltedChain ∧
    Runs.EachStep (callStep adaptive) (Legal adaptive "chain") opened
      (failedElsewhere ++ haltedChain) ∧
    SameSteps adaptive "chain" haltedChain (failedElsewhere ++ haltedChain) ∧
    ceilings adaptive "chain" opened haltedChain = [some 1, none, some (1 / 2)] ∧
    ceilings adaptive "chain" opened (failedElsewhere ++ haltedChain) =
      [some (85 / 100), none, some (85 / 100)] := by
  refine ⟨adaptive_stages, ?_, ?_, sameSteps_append ?_ _, ?_, ?_⟩
  · decide +kernel
  · decide +kernel
  · simp [failedElsewhere, stepOn, finished, seenBy]
  · decide +kernel
  · decide +kernel

theorem finished_elsewhere_alike :
    ceilings adaptive "chain" opened haltedChain =
      ceilings adaptive "chain" opened (finishedElsewhere ++ haltedChain) := by
  have legal : Runs.EachStep (callStep adaptive) (Legal adaptive "chain") opened haltedChain := by
    decide +kernel
  have legal' : Runs.EachStep (callStep adaptive) (Legal adaptive "chain") opened
      (finishedElsewhere ++ haltedChain) := by
    decide +kernel
  have same : SameSteps adaptive "chain" haltedChain (finishedElsewhere ++ haltedChain) := by
    apply sameSteps_append
    simp [finishedElsewhere, stepOn, finished, seenBy]
  refine (chain_independent_iff adaptive_stages "chain" {} legal legal' same).mpr ?_
  refine List.Forall₂.cons (fun _ => Or.inl ?_) (List.Forall₂.cons trivial
    (List.Forall₂.cons (fun _ => Or.inl ?_) List.Forall₂.nil))
  · decide +kernel
  · decide +kernel

end Examples

end VeronicaIndependence
