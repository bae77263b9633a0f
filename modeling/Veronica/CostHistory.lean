import Veronica.BudgetContext
import Veronica.ChainStatistics
import Veronica.Library.PyConversions

/- How the costs of a chain come back as estimates, with SimpleCollector, FileStore and
   RegressionCostModel. The store averages costs under the model of the outcome, the cost model
   looks an average up under the model of the intent. The averages are rounded by `fl`. -/
namespace VeronicaCosts
open VeronicaTypes VeronicaPipeline VeronicaStages VeronicaFileStore VeronicaRuns
open VeronicaBudgetContext

def graduatedConfidence (depth : Nat) : ℚ :=
  if depth < 5 then 3 / 5 else if depth < 20 then 3 / 4 else 17 / 20

/-- `intent.model or "unknown"` -/
def intentModelKey (intent : StepIntent) : String :=
  if intent.model.getD "" = "" then "unknown" else intent.model.getD ""

/-- RegressionCostModel.estimate over the kernel's pricing table: `price model` is the estimate
    for the fallback token counts, if the table has the model. -/
def regressionEstimate (price : String → Option ℚ) (intent : StepIntent) (history : HistoryView)
    (_lastAnalysis : Option AnalysisResult) (fl : ℚ → ℚ := id) : CostEstimate :=
  if intent.kind = .tool then
    { estimatedUsd := 0
      confidence := 1
      modelUsed := if intent.toolName.getD "" = "" then "tool" else intent.toolName.getD ""
      basis := .pricingTable }
  else
    let modelKey := intentModelKey intent
    let fallback : CostEstimate := {
      estimatedUsd := (price modelKey).getD (fl (1 / 100))
      confidence := fl (1 / 5)
      modelUsed := modelKey
      basis := .pricingTable }
    match history.costPerStepEmaByModel.get? modelKey with
    | none => fallback
    | some ema =>
      if fl eps < ema then
        { estimatedUsd := ema
          confidence := fl (graduatedConfidence history.depth)
          modelUsed := modelKey
          basis := .historical }
      else fallback

/-- SimpleCollector.collect with the model, which is None in both its branches. -/
def collectOutcome (snapshot : ContextSnapshot) (nowMs : Int) : FileOutcome :=
  { simpleCollect snapshot nowMs with model := none }

/-- Collector and cost model are these; analyzer, stage budgets, request budget and org policy
    are not restricted. -/
structure HistoryStages (price : String → Option ℚ) (fl : ℚ → ℚ) (setup : Setup) : Prop where
  collect : setup.collect = simpleCollect
  estimate : setup.estimate = fun intent history lastAnalysis =>
    regressionEstimate price intent history lastAnalysis fl

/-- A step whose outcome the store has taken, with the intent it was begun with. -/
structure CommittedStep where
  intent : StepIntent
  outcome : FileOutcome

structure Watched (P A : Type) (fl : ℚ → ℚ := id) where
  running : Running P A (FileStore fl)
  committed : List CommittedStep := []

/-- An outcome costs this much or less. -/
def AtMost (cost : PyFloat) (x : ℚ) : Prop := cost = .finite x ∨ cost.lt (.finite x) = true

def AtLeast (cost : PyFloat) (x : ℚ) : Prop := cost = .finite x ∨ (PyFloat.finite x).lt cost = true

instance (cost : PyFloat) (x : ℚ) : Decidable (AtMost cost x) := inferInstanceAs (Decidable (_ ∨ _))
instance (cost : PyFloat) (x : ℚ) : Decidable (AtLeast cost x) :=
  inferInstanceAs (Decidable (_ ∨ _))

/-- From the smallest to the largest of the costs. -/
def Between (costs : List PyFloat) (x : ℚ) : Prop :=
  (∃ cost ∈ costs, AtMost cost x) ∧ ∃ cost ∈ costs, AtLeast cost x

instance (costs : List PyFloat) (x : ℚ) : Decidable (Between costs x) :=
  inferInstanceAs (Decidable (_ ∧ _))

section Watching
variable {P A : Type} {fl : ℚ → ℚ} [PlannerProtocol P] [ArbiterProtocol A] (setup : Setup)

/-- The step an `after_step` call commits: its collector is in time, the history of its chain can
    be read, and the store has room for the chain. -/
def committedBy (s : Running P A (FileStore fl)) : Call → Option CommittedStep
  | .before _ _ _ => none
  | .after ticket snapshot t =>
    (s.handles.get? ticket).bind fun handle =>
      let outcome := collectOutcome snapshot t.nowMs
      if Accounts setup s.os snapshot t ∧ (s.os.store.refusal outcome.chainId).isNone then
        some { intent := handle.intent, outcome }
      else none

def watch (s : Watched P A fl) (call : Call) : Watched P A fl where
  running := callStep setup s.running call
  committed := s.committed ++ (committedBy setup s.running call).toList

def watchedNew (planner : P) (arbiter : A) (flushInterval : Nat) (maxLines : Int) :
    Watched P A fl :=
  { running := started (created planner arbiter { flushInterval, maxLines }) }

/-- All that a chain's steps have cost, in order. -/
def costsOn (s : Watched P A fl) (chainId : String) : List ℚ :=
  (s.committed.filter fun step => step.outcome.chainId = chainId).map
    fun step => step.outcome.costUsd.finiteOrZero

/-- What the llm steps of the chain have cost whose intents named the same model. -/
def modelCosts (s : Watched P A fl) (intent : StepIntent) : List PyFloat :=
  (s.committed.filter fun step => step.outcome.chainId = intent.chainId ∧
    step.intent.kind = .llm ∧ step.intent.model = intent.model).map
      fun step => step.outcome.costUsd

/-- The estimate of a `before_step` that reads the history now is one of the model's earlier
    costs, or between them, whatever other calls do before its locked section. -/
def EstimatedFromHistory (s : Watched P A fl) (late : VeronicaOS P A (FileStore fl))
    (intent : StepIntent)
    (t : BeforeTimes) : Prop :=
  ∃ handle, (VeronicaOS.beforeStepAt setup s.running.os late intent t).2 = .ok handle ∧
    handle.cost.basis = .historical ∧ Between (modelCosts s intent) handle.cost.estimatedUsd

/-- A cost is further from the average before it than rounding errors reach; without rounding
    every cost is. -/
def FarApart (relative absolute average cost : ℚ) : Prop :=
  20 * (relative * max average cost + absolute) ≤ |cost - average|

instance (relative absolute average cost : ℚ) :
    Decidable (FarApart relative absolute average cost) :=
  inferInstanceAs (Decidable (_ ≤ _))

/-- What the call commits on the chain of the intent, if anything, is an llm step of the same model
    with a cost that counts and that is far from the average the store has for the chain. -/
def SameModel (relative absolute : ℚ) (intent : StepIntent) (s : Watched P A fl) (call : Call) :
    Prop :=
  ∀ step ∈ committedBy setup s.running call, step.outcome.chainId = intent.chainId →
    step.intent.kind = .llm ∧ step.intent.model = intent.model ∧
    step.outcome.costUsd.isfinite = true ∧ fl eps < step.outcome.costUsd.finiteOrZero ∧
    ∀ average ∈ (s.running.os.store.statsOf intent.chainId).costEmaByModel.get? "unknown",
      FarApart relative absolute average step.outcome.costUsd.finiteOrZero

instance (relative absolute : ℚ) (intent : StepIntent) (s : Watched P A fl) (call : Call) :
    Decidable (SameModel setup relative absolute intent s call) :=
  inferInstanceAs (Decidable (∀ step ∈ committedBy setup s.running call, _ → _ ∧ _ ∧ _ ∧ _ ∧ _))

/-- The step gets its estimate from the cost model, under the name that outcomes without a model
    are averaged by. -/
structure Estimable (intent : StepIntent) (t : BeforeTimes) : Prop where
  admitted : setup.denial intent = none
  inTime : t.costModelMs ≤ setup.costModelBudget
  unknown : intentModelKey intent = "unknown"

end Watching

section Averaging
variable {fl : ℚ → ℚ}

def averageOf (fl : ℚ → ℚ) (costs : List ℚ) : ℚ :=
  costs.foldl (fun average cost => ema average cost fl) 0

theorem averageOf_concat (costs : List ℚ) (cost : ℚ) :
    averageOf fl (costs ++ [cost]) = ema (averageOf fl costs) cost fl := by
  rw [averageOf, List.foldl_append]
  rfl

/-- The averages of a chain with these costs. -/
def averages (fl : ℚ → ℚ) (costs : List ℚ) : Dict String ℚ :=
  if costs = [] then ∅ else (∅ : Dict String ℚ).set "unknown" (averageOf fl costs)

theorem modelKey_none (outcome : StepOutcome) :
    modelKey { outcome with model := none } = "unknown" := by
  show String.ofList ("unknown".toList.take 128) = "unknown"
  rw [List.take_of_length_le (by decide), String.ofList_toList]

theorem averages_get? (costs : List ℚ) (key : String) : (averages fl costs).get? key =
    if key = "unknown" ∧ costs ≠ [] then some (averageOf fl costs) else none := by
  unfold averages
  by_cases none : costs = []
  · simp [none]
  · simp [none, Dict.get?_set]

theorem observe_averages {stats : ChainStats} {costs : List ℚ}
    (recorded : stats.costEmaByModel = averages fl costs) (outcome : StepOutcome) :
    (stats.observe { outcome with model := none } fl).costEmaByModel =
      averages fl (costs ++ [outcome.costUsd.finiteOrZero]) := by
  have tracked : (averages fl costs).size < maxModelsPerChain ∨
      "unknown" ∈ (averages fl costs).keys := by
    unfold averages
    split
    · exact Or.inl (by decide)
    · exact Or.inr List.mem_cons_self
  have before : (averages fl costs).getD "unknown" 0 = averageOf fl costs := by
    rw [Dict.getD, averages_get?]
    by_cases none : costs = []
    · simp [none, averageOf]
    · simp [none]
  have one : ∀ value, (averages fl costs).set "unknown" value =
      (∅ : Dict String ℚ).set "unknown" value := by
    intro value
    unfold averages
    split
    · rfl
    · rfl
  simp only [ChainStats.observe, recorded, modelKey_none, tracked, if_true, before, one]
  rw [averages, if_neg (by simp), averageOf_concat]

theorem accept_costEmaByModel (fs : FileStore fl) (o : FileOutcome) (c : String) :
    ((fs.accept o).statsOf c).costEmaByModel =
      if c = o.chainId then ((fs.statsOf o.chainId).observe o fl).costEmaByModel
      else (fs.statsOf c).costEmaByModel := by
  split
  · rename_i own
    rw [own]
    simp only [FileStore.accept, FileStore.statsOf, Dict.getD, Dict.get?_set_self,
      Option.getD_some]
    rw [FileStore.updatedStats, consume_eq]
    rfl
  · rename_i other
    rw [accept_statsOf_other fs o other]

/-- The store has averaged the costs of the committed steps, and of nothing else. -/
structure Averaged {P A : Type} (s : Watched P A fl) : Prop where
  averages : ∀ c, (s.running.os.store.statsOf c).costEmaByModel = averages fl (costsOn s c)
  safe : ∀ step ∈ s.committed, isSafeChainId step.outcome.chainId = true

end Averaging

section Steps
variable {P A : Type} {fl : ℚ → ℚ} {s : Watched P A fl}

theorem averaged_of_store (averaged : Averaged s) {t : Watched P A fl}
    (stats : ∀ c, t.running.os.store.statsOf c = s.running.os.store.statsOf c)
    (committed : t.committed = s.committed) : Averaged t := by
  constructor
  case averages =>
    intro c
    rw [stats, averaged.averages, costsOn, costsOn, committed]
  case safe =>
    rw [committed]
    exact averaged.safe

theorem averaged_committed (averaged : Averaged s) {t : Watched P A fl} (intent : StepIntent)
    (o : StepOutcome) (fs : FileStore fl) (stats : ∀ c, fs.statsOf c = s.running.os.store.statsOf c)
    (store : t.running.os.store = fs.accept { o with model := none })
    (committed : t.committed = s.committed ++ [{ intent, outcome := { o with model := none } }])
    (safe : isSafeChainId o.chainId = true) : Averaged t := by
  constructor
  case averages =>
    intro c
    have costs : costsOn t c =
        costsOn s c ++ if o.chainId = c then [o.costUsd.finiteOrZero] else [] := by
      rw [costsOn, costsOn, committed, List.filter_append, List.map_append]
      by_cases own : o.chainId = c <;> simp [own]
    rw [store, accept_costEmaByModel, costs]
    split
    · rename_i own
      have same : o.chainId = c := own.symm
      rw [if_pos same, stats]
      subst same
      exact observe_averages (averaged.averages o.chainId) o
    · rename_i other
      rw [if_neg (Ne.symm other), List.append_nil, stats, averaged.averages]
  case safe =>
    rw [committed]
    intro other member
    rcases List.mem_append.mp member with earlier | last
    · exact averaged.safe other earlier
    · rw [List.mem_singleton.mp last]
      exact safe

theorem modelCosts_safe (averaged : Averaged s) {intent : StepIntent} {cost : PyFloat}
    (member : cost ∈ modelCosts s intent) : isSafeChainId intent.chainId = true := by
  obtain ⟨step, among, _⟩ := List.mem_map.mp member
  obtain ⟨committed, own⟩ := List.mem_filter.mp among
  have chain : step.outcome.chainId = intent.chainId := (of_decide_eq_true own).1
  rw [← chain]
  exact averaged.safe step committed

variable [PlannerProtocol P] [ArbiterProtocol A] {price : String → Option ℚ} {setup : Setup}

/-- An `after_step` that gets to its commit. -/
theorem averaged_accounted (stages : HistoryStages price fl setup) (averaged : Averaged s)
    {ticket : Nat} {handle : StepHandle} (found : s.running.handles.get? ticket = some handle)
    {snapshot : ContextSnapshot} {t : AfterTimes}
    (accounts : Accounts setup s.running.os snapshot t)
    {analysis : AnalysisResult} (path : s.running.os.afterStep setup handle snapshot t =
      (s.running.os.account setup (setup.collect snapshot t.nowMs) analysis).commitStep setup handle
        (setup.collect snapshot t.nowMs) analysis) :
    Averaged (watch setup s (.after ticket snapshot t)) := by
  let os := s.running.os.account setup (setup.collect snapshot t.nowMs) analysis
  let fs := s.running.os.store.setBudgetContext setup.requestBudgetUsd (os.remaining setup)
  have collected : { setup.collect snapshot t.nowMs with model := none } =
      collectOutcome snapshot t.nowMs := by
    rw [stages.collect, collectOutcome]
  have store : (watch setup s (.after ticket snapshot t)).running.os.store =
      (fs.commit (collectOutcome snapshot t.nowMs)).1 := by
    simp only [watch, callStep, found]
    rw [path, commitStep_store, collected]
    rfl
  have same : fs.refusal (collectOutcome snapshot t.nowMs).chainId =
    s.running.os.store.refusal (collectOutcome snapshot t.nowMs).chainId := rfl
  cases refusal : s.running.os.store.refusal (collectOutcome snapshot t.nowMs).chainId with
  | some e =>
    have idle : committedBy setup s.running (.after ticket snapshot t) = none := by
      rw [committedBy, found, Option.bind_some, if_neg]
      intro both
      rw [refusal] at both
      cases both.2
    refine averaged_of_store averaged (fun c => ?_) ?_
    · rw [store, commit_refused (by rw [same, refusal]; exact Option.some_ne_none e)]
      rfl
    · rw [watch, idle, Option.toList_none, List.append_nil]
  | none =>
    have step : committedBy setup s.running (.after ticket snapshot t) =
        some { intent := handle.intent, outcome := collectOutcome snapshot t.nowMs } := by
      rw [committedBy, found, Option.bind_some, if_pos ⟨accounts, by rw [refusal]; rfl⟩]
    refine averaged_committed averaged handle.intent (simpleCollect snapshot t.nowMs) fs
      (fun c => rfl) ?_ ?_ (refusal_none_safe refusal)
    · rw [store, commit_accepted (same.trans refusal), collectOutcome]
    · rw [watch, step, Option.toList_some, collectOutcome]

theorem averaged_watch (stages : HistoryStages price fl setup) (averaged : Averaged s)
    (call : Call) :
    Averaged (watch setup s call) := by
  cases call with
  | before ticket intent t =>
    refine averaged_of_store averaged (fun c => ?_) (List.append_nil _)
    rw [watch, callStep_before_os, beforeStep_store]
  | after ticket snapshot t =>
    cases found : s.running.handles.get? ticket with
    | none =>
      have idle : committedBy setup s.running (.after ticket snapshot t) = none := by
        rw [committedBy, found, Option.bind_none]
      refine averaged_of_store averaged (fun c => ?_) ?_
      · simp only [watch, callStep, found]
      · rw [watch, idle, Option.toList_none, List.append_nil]
    | some handle =>
      have called : (watch setup s (.after ticket snapshot t)).running.os =
          (s.running.os.afterStep setup handle snapshot t).1 := by
        simp only [watch, callStep, found]
      rcases afterStep_cases setup s.running.os snapshot t handle with
        ⟨skipped, eq⟩ | ⟨accounts, analysis, eq⟩
      · have idle : committedBy setup s.running (.after ticket snapshot t) = none := by
          rw [committedBy, found, Option.bind_some, if_neg fun both => skipped both.1]
        refine averaged_of_store averaged (fun c => ?_) ?_
        · rw [called, eq]
        · rw [watch, idle, Option.toList_none, List.append_nil]
      · exact averaged_accounted stages averaged found accounts eq

theorem averaged_run (stages : HistoryStages price fl setup) (planner : P) (arbiter : A)
    (flushInterval : Nat) (maxLines : Int) (calls : List Call) :
    let fresh : Watched P A fl := watchedNew planner arbiter flushInterval maxLines
    Averaged (Runs.run (watch setup) fresh calls) := by
  intro fresh
  have start : Averaged fresh := by
    constructor
    case averages => exact fun _ => rfl
    case safe =>
      intro step member
      cases member
  have keep : ∀ (s : Watched P A fl) call, Averaged s → True → Averaged (watch setup s call) :=
    fun s call averaged _ => averaged_watch stages averaged call
  exact Runs.run_invariant keep start (Runs.eachStep_true _ calls)

end Steps

section Estimates
variable {P A : Type} {fl : ℚ → ℚ} [PlannerProtocol P] [ArbiterProtocol A]
  {price : String → Option ℚ}
  {setup : Setup} {s : Watched P A fl} {intent : StepIntent} {t : BeforeTimes}

/-- An estimate from history is the average of everything the chain has cost, and only for the
    model that stands for none. -/
theorem regressionEstimate_cases (llm : intent.kind = .llm) {history : HistoryView}
    {costs : List ℚ} (recorded : history.costPerStepEmaByModel = averages fl costs)
    (lastAnalysis : Option AnalysisResult) :
    let estimate := regressionEstimate price intent history lastAnalysis fl
    (estimate.basis = .historical ∧ estimate.estimatedUsd = averageOf fl costs ∧
      intentModelKey intent = "unknown") ∨
    (estimate.basis = .pricingTable ∧
      ¬ (intentModelKey intent = "unknown" ∧ costs ≠ [] ∧ fl eps < averageOf fl costs)) := by
  have notTool : intent.kind ≠ .tool := by
    rw [llm]
    decide
  simp only [regressionEstimate, notTool, if_false, recorded, averages_get?]
  by_cases found : intentModelKey intent = "unknown" ∧ costs ≠ []
  · rw [if_pos found]
    dsimp only
    split
    · exact Or.inl ⟨rfl, rfl, found.1⟩
    · rename_i small
      exact Or.inr ⟨rfl, fun both => small both.2.2⟩
  · rw [if_neg found]
    exact Or.inr ⟨rfl, fun both => found ⟨both.1, both.2.1⟩⟩

theorem history_averages {fs : FileStore fl} {chainId : String} {history : HistoryView}
    (read : StoreProtocol.buildHistory fs chainId = .ok history) :
    history.costPerStepEmaByModel = (fs.statsOf chainId).costEmaByModel := by
  obtain ⟨view, built, rfl⟩ := except_map_ok.mp read
  unfold FileStore.buildHistory at built
  split at built
  · cases built
    rfl
  · cases built

theorem history_read (fs : FileStore fl) {chainId : String} (safe : isSafeChainId chainId = true) :
    ∃ history, StoreProtocol.buildHistory fs chainId = .ok history :=
  ⟨_, by simp only [StoreProtocol.buildHistory, FileStore.buildHistory, safe, if_true]; rfl⟩

/-- A step begun with a history has the estimate the cost model makes of it, or the fallback. -/
theorem issued_cost (stages : HistoryStages price fl setup)
    {early : VeronicaOS P A (FileStore fl)} (late : VeronicaOS P A (FileStore fl)) (t : BeforeTimes)
    (admitted : setup.denial intent = none) {history : HistoryView}
    (read : StoreProtocol.buildHistory early.store intent.chainId = .ok history) :
    ∃ handle, (VeronicaOS.beforeStepAt setup early late intent t).2 = .ok handle ∧
      handle.cost = if setup.costModelBudget < t.costModelMs then fallbackCost
        else regressionEstimate price intent history early.lastAnalysis fl := by
  simp only [VeronicaOS.beforeStepAt, admitted, read]
  refine ⟨_, rfl, ?_⟩
  unfold costStage runWithBudget
  rw [stages.estimate]
  split_ifs <;> rfl

theorem estimable_of_estimated (stages : HistoryStages price fl setup) (averaged : Averaged s)
    (llm : intent.kind = .llm) (late : VeronicaOS P A (FileStore fl))
    (estimated : EstimatedFromHistory setup s late intent t) : Estimable setup intent t := by
  obtain ⟨handle, issued, historical, between⟩ := estimated
  obtain ⟨cost, member, _⟩ := between.1
  obtain ⟨history, read⟩ := history_read s.running.os.store (modelCosts_safe averaged member)
  cases admitted : setup.denial intent with
  | some reason =>
    simp only [VeronicaOS.beforeStepAt, admitted] at issued
    cases issued
    cases historical
  | none =>
    obtain ⟨other, same, costs⟩ := issued_cost stages late t admitted read
    rw [issued] at same
    cases same
    split at costs
    · rw [costs] at historical
      cases historical
    · rename_i inTime
      rw [costs] at historical
      have recorded := (history_averages read).trans (averaged.averages intent.chainId)
      rcases regressionEstimate_cases llm recorded _ with ⟨_, _, unknown⟩ | ⟨priced, _⟩
      · exact ⟨admitted, not_lt.mp inTime, unknown⟩
      · rw [priced] at historical
        cases historical

theorem estimated_of_average (stages : HistoryStages price fl setup) (averaged : Averaged s)
    (llm : intent.kind = .llm) (late : VeronicaOS P A (FileStore fl))
    (estimable : Estimable setup intent t) (begun : costsOn s intent.chainId ≠ [])
    (counts : fl eps < averageOf fl (costsOn s intent.chainId))
    (between : Between (modelCosts s intent) (averageOf fl (costsOn s intent.chainId))) :
    EstimatedFromHistory setup s late intent t := by
  obtain ⟨cost, member, _⟩ := between.1
  obtain ⟨history, read⟩ := history_read s.running.os.store (modelCosts_safe averaged member)
  obtain ⟨handle, issued, costs⟩ := issued_cost stages late t estimable.admitted read
  rw [if_neg (not_lt.mpr estimable.inTime)] at costs
  refine ⟨handle, issued, ?_⟩
  rw [costs]
  have recorded := (history_averages read).trans (averaged.averages intent.chainId)
  rcases regressionEstimate_cases llm recorded _ with ⟨historical, estimate, _⟩ | ⟨_, other⟩
  · rw [estimate]
    exact ⟨historical, between⟩
  · exact absurd ⟨estimable.unknown, begun, counts⟩ other

end Estimates

section SameModel
variable {fl : ℚ → ℚ} {relative absolute : ℚ}

theorem ema_between (fine : VeronicaStatistics.Fine relative absolute)
    (rounds : Doubles.Rounds relative absolute fl) {average cost : ℚ} (averageNonneg : 0 ≤ average)
    (costNonneg : 0 ≤ cost) (apart : FarApart relative absolute average cost) :
    min average cost ≤ ema average cost fl ∧ ema average cost fl ≤ max average cost := by
  unfold ema
  split
  · exact ⟨min_le_right _ _, le_max_right _ _⟩
  obtain ⟨⟨ownLeast, _⟩, ⟨restLeast, _⟩, off⟩ := VeronicaStatistics.weights_near fine rounds
  have scaleNonneg : 0 ≤ max average cost := averageNonneg.trans (le_max_left _ _)
  have costSize : |cost| ≤ max average cost := by
    rw [abs_of_nonneg costNonneg]
    exact le_max_right _ _
  have averageSize : |average| ≤ max average cost := by
    rw [abs_of_nonneg averageNonneg]
    exact le_max_left _ _
  have product := mul_nonneg fine.relative_nonneg scaleNonneg
  have nonneg := fine.nonneg
  have close := VeronicaStatistics.mixture_close fine rounds costSize (by linarith)
  have lost := mul_le_mul_of_nonneg_right off scaleNonneg
  unfold FarApart at apart
  have room : |fl emaAlpha + fl (1 - fl emaAlpha) - 1| * max average cost +
      (21 / 10 * (relative * max average cost) +
        16 * (relative * max average cost + absolute) / 100 + 31 / 10 * absolute) ≤
      1 / 4 * |cost - average| := by linarith
  exact ⟨MovingAverage.min_le_mixed ownLeast restLeast close costSize averageSize room,
    MovingAverage.mixed_le_max ownLeast restLeast close costSize averageSize room⟩

/-- An average that counts, from the smallest to the largest of the costs. -/
structure Within (fl : ℚ → ℚ) (costs : List ℚ) (average : ℚ) : Prop where
  counts : fl eps < average
  least : ∃ cost ∈ costs, cost ≤ average
  most : ∃ cost ∈ costs, average ≤ cost

theorem within_first (counted : 0 < fl eps) {cost : ℚ} (counts : fl eps < cost) :
    Within fl [cost] (averageOf fl [cost]) := by
  have own : averageOf fl [cost] = cost := if_pos counted
  rw [own]
  exact ⟨counts, ⟨cost, by simp, le_rfl⟩, cost, by simp, le_rfl⟩

theorem within_concat (fine : VeronicaStatistics.Fine relative absolute)
    (rounds : Doubles.Rounds relative absolute fl) {costs : List ℚ}
    (within : Within fl costs (averageOf fl costs)) {cost : ℚ} (counts : fl eps < cost)
    (apart : FarApart relative absolute (averageOf fl costs) cost) :
    Within fl (costs ++ [cost]) (averageOf fl (costs ++ [cost])) := by
  have counted := VeronicaStatistics.eps_kept fine rounds
  have inward := ema_between fine rounds (counted.trans within.counts).le (counted.trans counts).le
    apart
  rw [averageOf_concat]
  constructor
  case counts => exact (lt_min within.counts counts).trans_le inward.1
  case least =>
    rcases min_le_iff.mp inward.1 with before | own
    · obtain ⟨earlier, member, le⟩ := within.least
      exact ⟨earlier, by simp [member], le.trans before⟩
    · exact ⟨cost, by simp, own⟩
  case most =>
    rcases le_max_iff.mp inward.2 with before | own
    · obtain ⟨earlier, member, le⟩ := within.most
      exact ⟨earlier, by simp [member], before.trans le⟩
    · exact ⟨cost, by simp, own⟩

theorem between_of_within {costs : List PyFloat} (finite : ∀ cost ∈ costs, cost.isfinite = true)
    {average : ℚ} (within : Within fl (costs.map PyFloat.finiteOrZero) average) :
    Between costs average := by
  obtain ⟨least, among, below⟩ := within.least
  obtain ⟨lowest, member, rfl⟩ := List.mem_map.mp among
  obtain ⟨most, amongTop, above⟩ := within.most
  obtain ⟨highest, top, rfl⟩ := List.mem_map.mp amongTop
  refine ⟨⟨lowest, member, ?_⟩, highest, top, ?_⟩
  · cases lowest with
    | finite q => exact below.eq_or_lt.imp (congrArg PyFloat.finite) decide_eq_true
    | _ => cases finite _ member
  · cases highest with
    | finite q =>
      exact above.eq_or_lt.imp (fun same => congrArg PyFloat.finite same.symm) decide_eq_true
    | _ => cases finite _ top

variable {P A : Type} [PlannerProtocol P] [ArbiterProtocol A] {price : String → Option ℚ}
  {setup : Setup} {s : Watched P A fl} {intent : StepIntent}

/-- The chain's costs are those of the one model, and their average is among them. -/
structure OneModel (intent : StepIntent) (s : Watched P A fl) : Prop where
  averaged : Averaged s
  costs : costsOn s intent.chainId = (modelCosts s intent).map PyFloat.finiteOrZero
  finite : ∀ cost ∈ modelCosts s intent, cost.isfinite = true
  within : costsOn s intent.chainId ≠ [] →
    Within fl (costsOn s intent.chainId) (averageOf fl (costsOn s intent.chainId))

theorem costsOn_watch (s : Watched P A fl) (call : Call) (chainId : String) :
    costsOn (watch setup s call) chainId = costsOn s chainId ++
      (((committedBy setup s.running call).filter fun step => step.outcome.chainId = chainId).map
        fun step => step.outcome.costUsd.finiteOrZero).toList := by
  cases found : committedBy setup s.running call with
  | none => simp [costsOn, watch, found]
  | some step =>
    by_cases own : step.outcome.chainId = chainId <;>
      simp [costsOn, watch, found, own, Option.filter_some]

theorem modelCosts_watch (s : Watched P A fl) (call : Call) (intent : StepIntent) :
    modelCosts (watch setup s call) intent = modelCosts s intent ++
      (((committedBy setup s.running call).filter fun step =>
        step.outcome.chainId = intent.chainId ∧ step.intent.kind = .llm ∧
          step.intent.model = intent.model).map fun step => step.outcome.costUsd).toList := by
  cases found : committedBy setup s.running call with
  | none => simp [modelCosts, watch, found]
  | some step =>
    by_cases own : step.outcome.chainId = intent.chainId ∧ step.intent.kind = .llm ∧
        step.intent.model = intent.model
    · simp [modelCosts, watch, found, own, Option.filter_some]
    · simp only [modelCosts, watch, found, Option.toList_some, List.filter_append, List.map_append,
        List.filter_singleton, own, decide_false, Option.filter_some]
      simp

theorem oneModel_watch (stages : HistoryStages price fl setup)
    (fine : VeronicaStatistics.Fine relative absolute)
    (rounds : Doubles.Rounds relative absolute fl) (one : OneModel intent s) {call : Call}
    (same : SameModel setup relative absolute intent s call) :
    OneModel intent (watch setup s call) := by
  have averaged := averaged_watch stages one.averaged call
  have costs : costsOn (watch setup s call) intent.chainId = _ :=
    costsOn_watch s call intent.chainId
  have model : modelCosts (watch setup s call) intent = _ := modelCosts_watch s call intent
  by_cases own : ∃ step ∈ committedBy setup s.running call,
      step.outcome.chainId = intent.chainId
  · obtain ⟨step, found, chain⟩ := own
    obtain ⟨llm, named, finite, counts, apart⟩ := same step found chain
    rw [Option.mem_def.mp found, Option.filter_some_pos (by simp [chain])] at costs
    rw [Option.mem_def.mp found, Option.filter_some_pos (by simp [chain, llm, named])] at model
    refine ⟨averaged, ?_, ?_, fun _ => ?_⟩
    · rw [costs, model, one.costs]
      simp
    · rw [model]
      intro cost member
      rcases List.mem_append.mp member with earlier | last
      · exact one.finite cost earlier
      · rw [List.mem_singleton.mp last]
        exact finite
    · rw [costs]
      by_cases none : costsOn s intent.chainId = []
      · rw [none]
        exact within_first (VeronicaStatistics.eps_kept fine rounds) counts
      · refine within_concat fine rounds (one.within none) counts (apart _ ?_)
        rw [one.averaged.averages, averages_get?, if_pos ⟨rfl, none⟩]
        rfl
  · have apart : ∀ step ∈ committedBy setup s.running call,
        step.outcome.chainId ≠ intent.chainId := fun step found chain => own ⟨step, found, chain⟩
    have costsKept : costsOn (watch setup s call) intent.chainId = costsOn s intent.chainId := by
      rw [costs, Option.filter_eq_none_iff.mpr fun step found => by simp [apart step found]]
      exact List.append_nil _
    have modelKept : modelCosts (watch setup s call) intent = modelCosts s intent := by
      rw [model, Option.filter_eq_none_iff.mpr fun step found => by simp [apart step found]]
      exact List.append_nil _
    refine ⟨averaged, ?_, ?_, ?_⟩
    · rw [costsKept, modelKept, one.costs]
    · rw [modelKept]
      exact one.finite
    · rw [costsKept]
      exact one.within

end SameModel

/-- Over every run: an estimate comes from the costs of a model's earlier steps only if the model
    is the one that stands for none; and then it does, on a chain whose steps were all of that
    model, with costs that count and that rounding tells from the average before them. -/
theorem estimated_from_history {P A : Type} [PlannerProtocol P] [ArbiterProtocol A]
    {price : String → Option ℚ} {fl : ℚ → ℚ} {setup : Setup} {relative absolute : ℚ}
    (fine : VeronicaStatistics.Fine relative absolute)
    (rounds : Doubles.Rounds relative absolute fl)
    (stages : HistoryStages price fl setup) (planner : P) (arbiter : A) (flushInterval : Nat)
    (maxLines : Int) (calls : List Call) {intent : StepIntent} (llm : intent.kind = .llm)
    (late : VeronicaOS P A (FileStore fl)) (t : BeforeTimes) :
    let fresh : Watched P A fl := watchedNew planner arbiter flushInterval maxLines
    let s := Runs.run (watch setup) fresh calls
    (EstimatedFromHistory setup s late intent t → Estimable setup intent t) ∧
    (Runs.EachStep (watch setup) (SameModel setup relative absolute intent) fresh calls →
      modelCosts s intent ≠ [] → Estimable setup intent t →
      EstimatedFromHistory setup s late intent t) := by
  intro fresh s
  refine ⟨estimable_of_estimated stages
    (averaged_run stages planner arbiter flushInterval maxLines calls) llm late, ?_⟩
  intro alone begun estimable
  have start : OneModel intent fresh := {
    averaged := averaged_run stages planner arbiter flushInterval maxLines []
    costs := rfl
    finite := fun _ member => absurd member List.not_mem_nil
    within := fun nonempty => absurd rfl nonempty }
  have one : OneModel intent s := Runs.run_invariant (I := OneModel intent)
    (fun _ _ one same => oneModel_watch stages fine rounds one same) start alone
  have nonempty : costsOn s intent.chainId ≠ [] := by
    rw [one.costs]
    exact fun empty => begun (List.map_eq_nil_iff.mp empty)
  have within : Within fl ((modelCosts s intent).map PyFloat.finiteOrZero)
      (averageOf fl (costsOn s intent.chainId)) := by
    rw [← one.costs]
    exact one.within nonempty
  exact estimated_of_average stages one.averaged llm late estimable nonempty within.counts
    (between_of_within one.finite within)

def regressionSetup (fl : ℚ → ℚ) : Setup :=
  { defaultSetup 10 none with
    estimate := fun intent history lastAnalysis =>
      regressionEstimate (fun _ => none) intent history lastAnalysis fl }

theorem regressionSetup_stages (fl : ℚ → ℚ) :
    HistoryStages (fun _ => none) fl (regressionSetup fl) := ⟨rfl, rfl⟩

abbrev Plain (fl : ℚ → ℚ) := Watched VeronicaPlanners.SimplePlanner PassthroughArbiter fl

def watchedPlain (fl : ℚ → ℚ) : Plain fl := watchedNew {} {} 10 10000

def unnamedIntent (stepId : String) : StepIntent := { llmIntent stepId with model := none }

def unnamedSteps : List Call :=
  [.before 0 (unnamedIntent "first") inTime, .after 0 (snapshotOf (1 / 2)) collectedInTime,
    .before 1 (unnamedIntent "second") inTime, .after 1 (snapshotOf (1 / 4)) collectedInTime]

/-- Two steps without a model, averaged in doubles, and the estimate for a third. -/
theorem unnamed_steps_averaged :
    let setup := regressionSetup Doubles.round
    let s := Runs.run (watch setup) (watchedPlain Doubles.round) unnamedSteps
    EstimatedFromHistory setup s s.running.os (unnamedIntent "third") inTime := by
  intro setup s
  have estimable : Estimable setup (unnamedIntent "third") inTime := ⟨rfl, by decide, by decide⟩
  have alone : Runs.EachStep (watch setup)
      (SameModel setup (2 ^ (-53 : Int)) (2 ^ (-1075 : Int)) (unnamedIntent "third"))
      (watchedPlain Doubles.round) unnamedSteps := by decide +kernel
  have begun : modelCosts s (unnamedIntent "third") ≠ [] := by decide +kernel
  exact (estimated_from_history VeronicaStatistics.doubles_fine Doubles.round_rounds
    (regressionSetup_stages Doubles.round) _ _ 10 10000 unnamedSteps rfl s.running.os inTime).2
    alone begun estimable

/-- A step of "model" has cost half a dollar, and the next one gets the fallback price. -/
theorem named_step_forgotten :
    let setup := regressionSetup Doubles.round
    let s := Runs.run (watch setup) (watchedPlain Doubles.round)
      [.before 0 (llmIntent "first") inTime, .after 0 (snapshotOf (1 / 2)) collectedInTime]
    modelCosts s (llmIntent "second") = [.finite (1 / 2)] ∧
      ¬ EstimatedFromHistory setup s s.running.os (llmIntent "second") inTime := by
  intro setup s
  refine ⟨by decide +kernel, fun estimated => ?_⟩
  have averaged : Averaged s := averaged_run (regressionSetup_stages _) _ _ 10 10000 _
  have unknown :=
    (estimable_of_estimated (regressionSetup_stages _) averaged rfl _ estimated).unknown
  revert unknown
  decide

end VeronicaCosts
