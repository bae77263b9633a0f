import Veronica.Stages

/- What MemoryStore holds of a chain. `build_history` reads the last outcomes of the chain it is
   asked for, and a commit appends to the chain of its outcome or does nothing. -/
namespace VeronicaMemory
open VeronicaTypes VeronicaPipeline VeronicaStages

/-- `items[-n:]` -/
def keepLast {A : Type} (n : Nat) (items : List A) : List A := items.drop (items.length - n)

def outcomesOf (store : MemoryStore) (chainId : String) : List StepOutcome :=
  store.chains.getD chainId []

def recent (store : MemoryStore) (chainId : String) : List StepOutcome :=
  keepLast MemoryStore.historyLimit (outcomesOf store chainId)

def viewOf (chainId : String) (lastN : List StepOutcome) : HistoryView where
  chainId
  lastN
  rollingCostUsd := .finite (MemoryStore.rollingCost lastN)
  failureStreak := MemoryStore.failureStreak lastN
  depth := lastN.length
  loopScore := .finite 0

/-- A chain the store does not have yet, once it has as many as it takes. -/
def ChainsFull (store : MemoryStore) (chainId : String) : Prop :=
  store.chains.get? chainId = none ∧ maxChains ≤ store.chains.size

instance (store : MemoryStore) (chainId : String) : Decidable (ChainsFull store chainId) :=
  inferInstanceAs (Decidable (_ ∧ _))

theorem keepLast_concat {A : Type} {n : Nat} (positive : 0 < n) (items : List A) (item : A) :
    keepLast n (items ++ [item]) = keepLast (n - 1) items ++ [item] := by
  have cut : (items ++ [item]).length - n = items.length - (n - 1) := by
    rw [List.length_append, List.length_singleton]
    omega
  rw [keepLast, keepLast, cut, List.drop_append_of_le_length (Nat.sub_le _ _)]

theorem keepLast_keepLast {A : Type} {n m : Nat} (le : n ≤ m) (items : List A) :
    keepLast n (keepLast m items) = keepLast n items := by
  rw [keepLast, keepLast, keepLast, List.drop_drop, List.length_drop]
  congr 1
  omega

theorem failureStreak_concat (outcomes : List StepOutcome) (outcome : StepOutcome) :
    MemoryStore.failureStreak (outcomes ++ [outcome]) =
      if outcome.status = .ok then 0 else MemoryStore.failureStreak outcomes + 1 := by
  unfold MemoryStore.failureStreak
  rw [List.reverse_append, List.reverse_singleton, List.singleton_append, List.takeWhile_cons]
  by_cases finished : outcome.status = .ok <;> simp [finished]

section Store
variable (store : MemoryStore) (chainId : String)

theorem buildHistory_safe (safe : isSafeChainId chainId = true) :
    store.buildHistory chainId = .ok (viewOf chainId (recent store chainId)) :=
  if_pos safe

theorem buildHistory_refused (refused : isSafeChainId chainId = false) :
    store.buildHistory chainId = .error invalidChain := by
  unfold MemoryStore.buildHistory
  rw [if_neg (by simp [refused])]

theorem buildHistory_isOk : (store.buildHistory chainId).isOk = isSafeChainId chainId := by
  cases safe : isSafeChainId chainId with
  | true => rw [buildHistory_safe store chainId safe]; rfl
  | false => rw [buildHistory_refused store chainId safe]; rfl

theorem buildHistory_ok_iff {view : HistoryView} : store.buildHistory chainId = .ok view ↔
    isSafeChainId chainId = true ∧ view = viewOf chainId (recent store chainId) := by
  cases safe : isSafeChainId chainId with
  | true =>
    rw [buildHistory_safe store chainId safe, Except.ok.injEq, eq_comm]
    exact (and_iff_right rfl).symm
  | false => simp [buildHistory_refused store chainId safe]

/-- What a commit does: nothing, or it appends to the one chain of its outcome. -/
theorem commit_cases (outcome : StepOutcome) :
    ((isSafeChainId outcome.chainId = false ∨ ChainsFull store outcome.chainId) ∧
      ∃ e, store.commit outcome = (store, .error e)) ∨
    (isSafeChainId outcome.chainId = true ∧ ¬ ChainsFull store outcome.chainId ∧
      ∃ after : MemoryStore, store.commit outcome = (after, .ok ()) ∧
        after.chains = store.chains.set outcome.chainId
          (keepLast maxOutcomesPerChain (outcomesOf store outcome.chainId ++ [outcome]))) := by
  unfold MemoryStore.commit
  cases safe : isSafeChainId outcome.chainId with
  | false => exact Or.inl ⟨Or.inl rfl, invalidChain, rfl⟩
  | true =>
    cases found : store.chains.get? outcome.chainId with
    | none =>
      by_cases full : maxChains ≤ store.chains.size
      · exact Or.inl ⟨Or.inr ⟨found, full⟩, _, by simp only [if_true, full]; rfl⟩
      · refine Or.inr ⟨rfl, fun chains => full chains.2, ⟨store.chains.set outcome.chainId
          [outcome]⟩, by simp only [if_true, full, if_false], ?_⟩
        simp [outcomesOf, Dict.getD, found, keepLast, maxOutcomesPerChain]
    | some chain =>
      refine Or.inr ⟨rfl, fun chains => ?_, _, by simp only [if_true]; rfl, ?_⟩
      · rw [chains.1] at found
        cases found
      · simp [outcomesOf, Dict.getD, found, keepLast]

theorem outcomesOf_commit_of_ne {outcome : StepOutcome} (other : outcome.chainId ≠ chainId) :
    outcomesOf (store.commit outcome).1 chainId = outcomesOf store chainId := by
  rcases commit_cases store outcome with ⟨_, e, eq⟩ | ⟨_, _, after, eq, chains⟩
  · rw [eq]
  · rw [eq, outcomesOf, chains, Dict.getD, Dict.get?_set_of_ne _ other.symm]
    rfl

theorem outcomesOf_commit {outcome : StepOutcome} (safe : isSafeChainId outcome.chainId = true)
    (room : ¬ ChainsFull store outcome.chainId) :
    outcomesOf (store.commit outcome).1 outcome.chainId =
      keepLast maxOutcomesPerChain (outcomesOf store outcome.chainId ++ [outcome]) := by
  rcases commit_cases store outcome with ⟨refused | full, _⟩ | ⟨_, _, after, eq, chains⟩
  · rw [safe] at refused
    cases refused
  · exact absurd full room
  · rw [eq, outcomesOf, chains, Dict.getD, Dict.get?_set_self, Option.getD_some]

theorem recent_of_full (full : ChainsFull store chainId) : recent store chainId = [] := by
  rw [recent, outcomesOf, Dict.getD, full.1]
  rfl

theorem recent_commit {outcome : StepOutcome} (safe : isSafeChainId outcome.chainId = true)
    (room : ¬ ChainsFull store outcome.chainId) :
    recent (store.commit outcome).1 outcome.chainId =
      keepLast MemoryStore.historyLimit (outcomesOf store outcome.chainId ++ [outcome]) := by
  have limits : MemoryStore.historyLimit ≤ maxOutcomesPerChain := by
    norm_num [MemoryStore.historyLimit, maxOutcomesPerChain]
  rw [recent, outcomesOf_commit store safe room, keepLast_keepLast limits]

theorem recent_commit_of_ne {outcome : StepOutcome} (other : outcome.chainId ≠ chainId) :
    recent (store.commit outcome).1 chainId = recent store chainId := by
  rw [recent, outcomesOf_commit_of_ne store chainId other, recent]

end Store

section AfterStep
variable {P A : Type} [ArbiterProtocol A] {setup : Setup} (os : VeronicaOS P A MemoryStore)
  (handle : StepHandle)

theorem commitStep_fields (outcome : StepOutcome) (analysis : AnalysisResult) :
    let committed := (os.commitStep setup handle outcome analysis).1
    committed.planner = os.planner ∧ committed.lastAnalysis = os.lastAnalysis ∧
      committed.totalSpentUsd = os.totalSpentUsd ∧ committed.chainSpentUsd = os.chainSpentUsd ∧
      committed.store = (os.store.commit outcome).1 := by
  unfold VeronicaOS.commitStep
  dsimp only
  split <;> exact ⟨rfl, rfl, rfl, rfl, rfl⟩

/-- The path of an `after_step` call that gets to the analyzer. -/
theorem afterStep_accounts (taken : ContextSnapshot) {t : AfterTimes}
    (inTime : t.collectorMs ≤ setup.collectorBudget)
    (safe : isSafeChainId (setup.collect taken t.nowMs).chainId = true) :
    let outcome := setup.collect taken t.nowMs
    let view := viewOf outcome.chainId (recent os.store outcome.chainId)
    let analysis := analyzeStage setup handle.intent outcome view t
    os.afterStep setup handle taken t =
      (os.account setup outcome analysis).commitStep setup handle outcome analysis := by
  have read : StoreProtocol.buildHistory os.store (setup.collect taken t.nowMs).chainId = _ :=
    buildHistory_safe os.store _ safe
  simp only [VeronicaOS.afterStep, VeronicaOS.afterStepAt, runWithBudget, not_lt.mpr inTime,
    if_false, read]

end AfterStep

end VeronicaMemory
