import Veronica.PgStore
import Veronica.PipelineRuns

/- A deployment on PgStore beside the same deployment on MemoryStore. -/
namespace VeronicaReplacement
open VeronicaTypes VeronicaPipeline VeronicaStages VeronicaMemory VeronicaHistory VeronicaRuns
open VeronicaCosts VeronicaIssue VeronicaPg

/-- One of the analyzers and one of the cost models the package ships. -/
structure ShippedStages (price : String → Option ℚ) (setup : Setup) : Prop where
  analyze : setup.analyze = ruleAnalyze ∨ setup.analyze = historyAnalyze
  estimate : setup.estimate = tableEstimate price ∨
    setup.estimate = fun intent history lastAnalysis =>
      regressionEstimate price intent history lastAnalysis

/-- The database takes every row of this outcome. -/
def Takes (engine : Engine) (outcome : StepOutcome) : Prop :=
  ∀ analysis cost decision, engine.refuses (rowOf outcome analysis cost decision) = none

section Stores
variable {m : MemoryStore} {p : PgStore}

theorem keepLast_snoc {A : Type} {n : Nat} (positive : 0 < n) (items : List A) (item : A) :
    keepLast n (keepLast n items ++ [item]) = keepLast n (items ++ [item]) := by
  rw [keepLast_concat positive, keepLast_concat positive, keepLast_keepLast (Nat.sub_le n 1)]

theorem sameStore_commit (same : SameStore m p) {outcome : StepOutcome}
    (safe : isSafeChainId outcome.chainId = true) (room : ¬ ChainsFull m outcome.chainId)
    (takes : Takes p.engine outcome) (analysis : AnalysisResult) (cost : CostEstimate)
    (decision : DecisionMeta) : ∃ m' p', m.commit outcome = (m', .ok ()) ∧
      p.commit outcome analysis cost decision = (p', .ok ()) ∧ SameStore m' p' ∧
      p'.engine = p.engine := by
  have positive : 0 < maxOutcomesPerChain := by norm_num [maxOutcomesPerChain]
  rcases VeronicaMemory.commit_cases m outcome with ⟨refused | full, _⟩ | ⟨_, _, m', eq, _⟩
  · rw [safe] at refused
    cases refused
  · exact absurd full room
  rcases VeronicaPg.commit_cases p outcome analysis cost decision with
    ⟨e, refused, _⟩ | ⟨_, row, _, chain, sameRow, eq'⟩
  · rw [takes] at refused
    cases refused
  refine ⟨m', _, eq, eq', ⟨?_, ?_⟩, rfl⟩
  · have numbered := commit_numbered same.numbered outcome analysis cost decision
    rwa [eq'] at numbered
  · intro c
    by_cases own : outcome.chainId = c
    · subst own
      have memory := outcomesOf_commit m safe room
      rw [eq] at memory
      have rows : rowsOf { p with nextId := p.nextId + 1, rows := p.rows ++ [row] }
          outcome.chainId = rowsOf p outcome.chainId ++ [row] := by
        rw [rowsOf, List.filter_append, List.filter_cons_of_pos (by simp [chain])]
        rfl
      rw [memory, rows, map_keepLast, List.map_append, same.chains, List.map_append,
        List.map_singleton, List.map_singleton, sameRow, keepLast_snoc positive]
    · have memory := outcomesOf_commit_of_ne m c own
      rw [eq] at memory
      have rows : rowsOf { p with nextId := p.nextId + 1, rows := p.rows ++ [row] } c =
          rowsOf p c := by
        rw [rowsOf, List.filter_append, List.filter_cons_of_neg (by simp [chain, own])]
        exact List.append_nil _
      rw [memory, rows, same.chains]

end Stores

section Deployments
variable {P A : Type} [PlannerProtocol P] [ArbiterProtocol A] {price : String → Option ℚ}
  {setup : Setup}

/-- The two deployments, which get the same calls. -/
structure Deployments (P A : Type) where
  memory : Running P A MemoryStore
  pg : Running P A PgStore

def callBoth (setup : Setup) (s : Deployments P A) (call : Call) : Deployments P A where
  memory := callStep setup s.memory call
  pg := callStep setup s.pg call

/-- Chain ids are safe, MemoryStore has room for the chain, and the database takes the row. -/
def Legal (setup : Setup) (s : Deployments P A) : Call → Prop
  | .before _ intent _ => isSafeChainId intent.chainId = true
  | .after _ snapshot t =>
    let outcome := setup.collect snapshot t.nowMs
    isSafeChainId outcome.chainId = true ∧ ¬ ChainsFull s.memory.os.store outcome.chainId ∧
      Takes s.pg.os.store.engine outcome

/-- Two pipelines that are the same but for the store. -/
structure SameOs {S T : Type} (a : VeronicaOS P A S) (b : VeronicaOS P A T) : Prop where
  planner : b.planner = a.planner
  arbiter : b.arbiter = a.arbiter
  lastAnalysis : b.lastAnalysis = a.lastAnalysis
  totalSpentUsd : b.totalSpentUsd = a.totalSpentUsd
  chainSpentUsd : b.chainSpentUsd = a.chainSpentUsd
  stepCounter : b.stepCounter = a.stepCounter
  emitted : b.emitted = a.emitted

structure SameRunning (s : Deployments P A) : Prop where
  handles : s.pg.handles = s.memory.handles
  os : SameOs s.memory.os s.pg.os
  stores : SameStore s.memory.os.store s.pg.os.store

theorem analyze_alike (shipped : ShippedStages price setup) {v w : HistoryView} (alike : Alike v w)
    (intent : StepIntent) (outcome : StepOutcome) :
    setup.analyze intent outcome w = setup.analyze intent outcome v := by
  rw [alike.rest]
  rcases shipped.analyze with eq | eq <;> rw [eq] <;> rfl

theorem estimate_alike (shipped : ShippedStages price setup) {v w : HistoryView}
    (alike : Alike v w) (intent : StepIntent) (analysis : Option AnalysisResult) :
    setup.estimate intent w analysis = setup.estimate intent v analysis := by
  rw [alike.rest]
  rcases shipped.estimate with eq | eq <;> rw [eq] <;> rfl

section Calls
variable {S T : Type} [StoreProtocol S] [StoreProtocol T] {a : VeronicaOS P A S}
  {b : VeronicaOS P A T} {v w : HistoryView}

/-- What `before_step` reads of the history is the estimate. -/
theorem beforeStep_same (same : SameOs a b) {intent : StepIntent}
    (readA : StoreProtocol.buildHistory a.store intent.chainId = .ok v)
    (readB : StoreProtocol.buildHistory b.store intent.chainId = .ok w)
    (estimate : ∀ analysis, setup.estimate intent w analysis = setup.estimate intent v analysis)
    (t : BeforeTimes) :
    (b.beforeStep setup intent t).2 = (a.beforeStep setup intent t).2 ∧
      SameOs (a.beforeStep setup intent t).1 (b.beforeStep setup intent t).1 := by
  unfold VeronicaOS.beforeStep VeronicaOS.beforeStepAt
  cases setup.denial intent with
  | some reason =>
    refine ⟨rfl, same.planner, same.arbiter, same.lastAnalysis, same.totalSpentUsd,
      same.chainSpentUsd, same.stepCounter, ?_⟩
    exact congrArg (fun events => events ++ [Event.stepDenied intent reason]) same.emitted
  | none =>
    have planned : ∀ cost, b.planStage setup intent a.lastAnalysis cost t =
        a.planStage setup intent a.lastAnalysis cost t := by
      intro cost
      simp only [VeronicaOS.planStage, VeronicaOS.budgetState, VeronicaOS.chainRemaining,
        VeronicaOS.remaining, same.planner, same.totalSpentUsd, same.chainSpentUsd]
    have arbitrated : ∀ desired, b.arbitrateStage setup intent desired t =
        a.arbitrateStage setup intent desired t := by
      intro desired
      simp only [VeronicaOS.arbitrateStage, VeronicaOS.remaining, same.arbiter,
        same.totalSpentUsd]
    have cost : ∀ analysis, costStage setup intent w analysis t =
        costStage setup intent v analysis t := by
      intro analysis
      simp only [costStage, estimate]
    simp only [readA, readB, same.lastAnalysis, cost, planned, arbitrated]
    exact ⟨trivial, rfl, rfl, rfl, same.totalSpentUsd, same.chainSpentUsd, same.stepCounter,
      same.emitted⟩

omit [PlannerProtocol P] in
/-- What `after_step` reads of the history is the analysis. -/
theorem afterStep_same (same : SameOs a b) {handle : StepHandle} {snapshot : ContextSnapshot}
    {t : AfterTimes} {outcome : StepOutcome} (collected : setup.collect snapshot t.nowMs = outcome)
    (readA : StoreProtocol.buildHistory a.store outcome.chainId = .ok v)
    (readB : StoreProtocol.buildHistory b.store outcome.chainId = .ok w)
    (analyze : setup.analyze handle.intent outcome w = setup.analyze handle.intent outcome v)
    (contextA : ∀ x y, StoreProtocol.setBudgetContext a.store x y = a.store)
    (contextB : ∀ x y, StoreProtocol.setBudgetContext b.store x y = b.store)
    {storeA : AnalysisResult → S} {storeB : AnalysisResult → T}
    (commitA : ∀ analysis, StoreProtocol.commit a.store outcome analysis handle.cost
      handle.desired handle.policy handle.decisionMeta = (storeA analysis, .ok ()))
    (commitB : ∀ analysis, StoreProtocol.commit b.store outcome analysis handle.cost
      handle.desired handle.policy handle.decisionMeta = (storeB analysis, .ok ())) :
    SameOs (a.afterStep setup handle snapshot t).1 (b.afterStep setup handle snapshot t).1 ∧
      ((a.afterStep setup handle snapshot t).1.store = a.store ∧
          (b.afterStep setup handle snapshot t).1.store = b.store ∨
        ∃ analysis, (a.afterStep setup handle snapshot t).1.store = storeA analysis ∧
          (b.afterStep setup handle snapshot t).1.store = storeB analysis) := by
  unfold VeronicaOS.afterStep VeronicaOS.afterStepAt runWithBudget
  rw [collected]
  by_cases overran : setup.collectorBudget < t.collectorMs
  · simp only [overran, if_true]
    exact ⟨same, .inl ⟨trivial, trivial⟩⟩
  · have analysis : analyzeStage setup handle.intent outcome w t =
        analyzeStage setup handle.intent outcome v t := by
      simp only [analyzeStage, analyze]
    simp only [overran, if_false, readA, readB, analysis, VeronicaOS.commitStep,
      VeronicaOS.account, contextA, contextB, commitA, commitB]
    refine ⟨⟨same.planner, ?_, rfl, ?_, ?_, same.stepCounter, ?_⟩, .inr ⟨_, rfl, rfl⟩⟩
    · rw [same.arbiter]
    · rw [same.totalSpentUsd]
    · rw [same.chainSpentUsd]
    · rw [same.emitted]

end Calls

theorem sameRunning_before (shipped : ShippedStages price setup) {s : Deployments P A}
    (same : SameRunning s) (ticket : Nat) (intent : StepIntent) (t : BeforeTimes)
    (legal : Legal setup s (.before ticket intent t)) :
    SameRunning (callBoth setup s (.before ticket intent t)) := by
  obtain ⟨view, read, alike⟩ := histories_alike same.stores legal
  obtain ⟨answer, os⟩ := beforeStep_same same.os read rfl
    (fun analysis => estimate_alike shipped alike intent analysis) t
  have storeA := beforeStep_store setup s.memory.os intent t
  have storeB := beforeStep_store setup s.pg.os intent t
  have stores : SameStore (s.memory.os.beforeStep setup intent t).1.store
      (s.pg.os.beforeStep setup intent t).1.store := by
    rw [storeA, storeB]
    exact same.stores
  rcases issued : s.memory.os.beforeStep setup intent t with ⟨osA, raised | handle⟩
  · rcases issued' : s.pg.os.beforeStep setup intent t with ⟨osB, raised' | handle'⟩
    · rw [issued, issued'] at os stores
      have memory : callStep setup s.memory (.before ticket intent t) =
          { s.memory with os := osA } := by simp only [callStep, issued]
      have pg : callStep setup s.pg (.before ticket intent t) = { s.pg with os := osB } := by
        simp only [callStep, issued']
      rw [callBoth, memory, pg]
      exact ⟨same.handles, os, stores⟩
    · rw [issued, issued'] at answer
      cases answer
  · rcases issued' : s.pg.os.beforeStep setup intent t with ⟨osB, raised' | handle'⟩
    · rw [issued, issued'] at answer
      cases answer
    · rw [issued, issued'] at answer os stores
      cases answer
      have memory : callStep setup s.memory (.before ticket intent t) =
          ⟨osA, s.memory.handles.set ticket handle⟩ := by simp only [callStep, issued]
      have pg : callStep setup s.pg (.before ticket intent t) =
          ⟨osB, s.pg.handles.set ticket handle⟩ := by simp only [callStep, issued']
      rw [callBoth, memory, pg]
      exact ⟨congrArg (fun handles => handles.set ticket handle) same.handles, os, stores⟩

theorem sameRunning_after (shipped : ShippedStages price setup) {s : Deployments P A}
    (same : SameRunning s) (ticket : Nat) (snapshot : ContextSnapshot) (t : AfterTimes)
    (legal : Legal setup s (.after ticket snapshot t)) :
    SameRunning (callBoth setup s (.after ticket snapshot t)) := by
  cases found : s.memory.handles.get? ticket with
  | none =>
    have found' : s.pg.handles.get? ticket = none := by rw [same.handles, found]
    have skipped : callBoth setup s (.after ticket snapshot t) = s := by
      simp only [callBoth, callStep, found, found']
    rw [skipped]
    exact same
  | some handle =>
    have found' : s.pg.handles.get? ticket = some handle := by rw [same.handles, found]
    have finished : callBoth setup s (.after ticket snapshot t) =
        ⟨⟨(s.memory.os.afterStep setup handle snapshot t).1, s.memory.handles.erase ticket⟩,
          ⟨(s.pg.os.afterStep setup handle snapshot t).1, s.pg.handles.erase ticket⟩⟩ := by
      simp only [callBoth, callStep, found, found']
    have handles := congrArg (fun handles => handles.erase ticket) same.handles
    obtain ⟨safe, room, takes⟩ := legal
    obtain ⟨view, read, alike⟩ := histories_alike same.stores safe
    have committed := fun analysis =>
      sameStore_commit same.stores safe room takes analysis handle.cost handle.decisionMeta
    have commitA : ∀ analysis, StoreProtocol.commit s.memory.os.store
        (setup.collect snapshot t.nowMs) analysis handle.cost handle.desired handle.policy
        handle.decisionMeta =
          ((s.memory.os.store.commit (setup.collect snapshot t.nowMs)).1, .ok ()) := by
      intro analysis
      obtain ⟨m, p, memory, _⟩ := committed analysis
      exact memory.trans (by rw [memory])
    have commitB : ∀ analysis, StoreProtocol.commit s.pg.os.store
        (setup.collect snapshot t.nowMs) analysis handle.cost handle.desired handle.policy
        handle.decisionMeta = ((s.pg.os.store.commit (setup.collect snapshot t.nowMs) analysis
          handle.cost handle.decisionMeta).1, .ok ()) := by
      intro analysis
      obtain ⟨m, p, _, pg, _⟩ := committed analysis
      exact pg.trans (by rw [pg])
    obtain ⟨os, unread | ⟨analysis, storeA, storeB⟩⟩ := afterStep_same same.os rfl read rfl
      (analyze_alike shipped alike handle.intent _) (fun _ _ => rfl) (fun _ _ => rfl) commitA
      commitB
    · rw [finished]
      refine ⟨handles, os, ?_⟩
      rw [unread.1, unread.2]
      exact same.stores
    · obtain ⟨m, p, memory, pg, stores, _⟩ := committed analysis
      rw [finished]
      refine ⟨handles, os, ?_⟩
      rw [storeA, storeB, memory, pg]
      exact stores

theorem sameRunning_call (shipped : ShippedStages price setup) {s : Deployments P A}
    (same : SameRunning s) (call : Call) (legal : Legal setup s call) :
    SameRunning (callBoth setup s call) := by
  cases call with
  | before ticket intent t => exact sameRunning_before shipped same ticket intent t legal
  | after ticket snapshot t => exact sameRunning_after shipped same ticket snapshot t legal

def deployed (planner : P) (arbiter : A) (engine : Engine) : Deployments P A where
  memory := started (created planner arbiter {})
  pg := started (created planner arbiter { engine })

omit [PlannerProtocol P] [ArbiterProtocol A] in
theorem sameRunning_deployed (planner : P) (arbiter : A) (engine : Engine) :
    SameRunning (deployed planner arbiter engine) where
  handles := rfl
  os := ⟨rfl, rfl, rfl, rfl, rfl, rfl, rfl⟩
  stores := sameStore_opened engine

theorem run_callBoth (s : Deployments P A) (calls : List Call) :
    Runs.run (callBoth setup) s calls = { memory := Runs.run (callStep setup) s.memory calls,
                                          pg := Runs.run (callStep setup) s.pg calls } := by
  induction calls generalizing s with
  | nil => rfl
  | cons call rest ih => exact ih (callBoth setup s call)

/-- Moved from MemoryStore to PgStore a pipeline issues the same policies, emits the same events and
    accounts the same costs, with any planner and arbiter; its histories stay alike. -/
theorem pg_replaces_memory (shipped : ShippedStages price setup) (planner : P) (arbiter : A)
    (engine : Engine) {calls : List Call}
    (legal : Runs.EachStep (callBoth setup) (Legal setup) (deployed planner arbiter engine) calls) :
    let memory := Runs.run (callStep setup) (started (created planner arbiter ({} : MemoryStore)))
      calls
    let pg := Runs.run (callStep setup) (started (created planner arbiter ({ engine } : PgStore)))
      calls
    pg.handles = memory.handles ∧ SameOs memory.os pg.os ∧
    ∀ chainId, isSafeChainId chainId = true → ∃ view,
      memory.os.store.buildHistory chainId = .ok view ∧
        Alike view (pg.os.store.buildHistory chainId) := by
  have keep : ∀ s call, SameRunning s → Legal setup s call →
      SameRunning (callBoth setup s call) := fun (s : Deployments P A) call same legal =>
    sameRunning_call shipped same call legal
  have same : SameRunning (Runs.run (callBoth setup) (deployed planner arbiter engine) calls) :=
    Runs.run_invariant keep (sameRunning_deployed planner arbiter engine) legal
  rw [run_callBoth] at same
  exact ⟨same.handles, same.os, fun chainId safe => histories_alike same.stores safe⟩

end Deployments

section Witness

def willing : Engine := { refuses := fun _ => none, now := fun n => 1740000000 + n }

def oneStep : List Call :=
  [.before 1 (llmIntent "1") inTime, .after 1 (snapshotOf 5) collectedInTime]

theorem one_step_moved :
    Runs.EachStep (callBoth (defaultSetup 10 none)) (Legal (defaultSetup 10 none))
      (deployed (.inl {} : AnyPlanner) (.inl {} : LocalArbiter) willing) oneStep ∧
    let memory := Runs.run (callStep (defaultSetup 10 none)) (started defaultOS) oneStep
    let pg := Runs.run (callStep (defaultSetup 10 none)) (started (created (.inl {} : AnyPlanner)
      (.inl {} : LocalArbiter) ({ engine := willing } : PgStore))) oneStep
    pg.os.totalSpentUsd = 5 ∧ pg.handles = memory.handles ∧ SameOs memory.os pg.os ∧
    ∀ chainId, isSafeChainId chainId = true → ∃ view,
      memory.os.store.buildHistory chainId = .ok view ∧
        Alike view (pg.os.store.buildHistory chainId) := by
  have safe : isSafeChainId "chain" = true := by decide
  have legal : Runs.EachStep (callBoth (defaultSetup 10 none)) (Legal (defaultSetup 10 none))
      (deployed (.inl {} : AnyPlanner) (.inl {} : LocalArbiter) willing) oneStep :=
    ⟨safe, ⟨safe, by decide, fun _ _ _ => rfl⟩, trivial⟩
  have shipped : ShippedStages (fun _ => none) (defaultSetup 10 none) := ⟨.inl rfl, .inl rfl⟩
  refine ⟨legal, ?_, pg_replaces_memory shipped (.inl {} : AnyPlanner)
    (.inl {} : LocalArbiter) willing legal⟩
  decide +kernel

end Witness

end VeronicaReplacement
