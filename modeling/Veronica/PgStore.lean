import Veronica.CostHistory
import Veronica.HistoryAnalyzer
import Veronica.RecordStore
import Veronica.Library.KeyedSort

/- PgStore: commits as rows of a table of the database, histories read back from it by a query. -/
namespace VeronicaPg
open VeronicaTypes VeronicaPipeline VeronicaStages VeronicaMemory VeronicaHistory

def riskName : RiskLevel → String
  | .nominal => "nominal"
  | .elevated => "elevated"
  | .critical => "critical"

def recommendationName : Recommendation → String
  | .continue => "continue"
  | .tighten => "tighten"
  | .loosen => "loosen"
  | .halt => "halt"

/-- The columns a commit fills. `metadata` is what `metadata_json` was made of. -/
structure EventRow where
  chainId : String
  stepId : String
  decision : String
  reason : String
  costUsd : ℚ
  tokensIn : Int
  tokensOut : Int
  durationMs : PyFloat
  policyHash : String
  auditId : String
  metadata : Dict String PyVal

/-- The columns the database fills. -/
structure StoredRow extends EventRow where
  id : Nat
  createdAt : ℚ

/-- The database: what is raised for a row that it does not take, and `NOW()` for the n-th it is
    given. -/
structure Engine where
  refuses : EventRow → Option PyExc
  now : Nat → ℚ

structure PgStore where
  engine : Engine
  rows : List StoredRow := []
  nextId : Nat := 1

/-- `_outcome_to_meta`; the outcomes of the pipeline name no model. -/
def outcomeToMeta (outcome : StepOutcome) (analysis : AnalysisResult) (cost : CostEstimate)
    (decision : DecisionMeta) : Dict String PyVal where
  entries := [
    ("kind", .str (stepKindName outcome.kind)),
    ("status", .str (statusName outcome.status)),
    ("model", .none),
    ("elapsed_ms", .float outcome.elapsedMs),
    ("risk_level", .str (riskName analysis.riskLevel)),
    ("recommendation", .str (recommendationName analysis.recommendation)),
    ("estimated_usd", .float (.finite cost.estimatedUsd)),
    ("confidence", .float (.finite cost.confidence)),
    ("degraded", .bool decision.degraded),
    ("org_denial", decision.orgDenial.elim .none .str)]
  distinct := by simp

def rowOf (outcome : StepOutcome) (analysis : AnalysisResult) (cost : CostEstimate)
    (decision : DecisionMeta) : EventRow where
  chainId := outcome.chainId
  stepId := outcome.stepId
  decision := recommendationName analysis.recommendation
  reason := if decision.orgDenial.getD "" = "" then recommendationName analysis.recommendation
    else decision.orgDenial.getD ""
  costUsd := outcome.costUsd.finiteOrZero
  tokensIn := outcome.tokensIn
  tokensOut := outcome.tokensOut
  durationMs := outcome.elapsedMs
  policyHash := decision.policyHash
  auditId := decision.auditId
  metadata := outcomeToMeta outcome analysis cost decision

def kindOf : String → StepKind
  | "llm" => .llm
  | "tool" => .tool
  | _ => .system

/-- `meta_data.get("status", "ok")`, or "error" for what is no status -/
def readStatus (metadata : Dict String PyVal) : StepStatus :=
  match metadata.get? "status" with
  | none => .ok
  | some (.str s) => statusOf s
  | some _ => .error

def readKind (metadata : Dict String PyVal) : StepKind :=
  match metadata.get? "kind" with
  | some (.str s) => kindOf s
  | _ => .system

/-- What `build_history` makes of a row. -/
def StoredRow.outcome (r : StoredRow) : StepOutcome where
  stepId := r.stepId
  requestId := ""
  chainId := r.chainId
  kind := readKind r.metadata
  status := readStatus r.metadata
  costUsd := .finite r.costUsd
  tokensIn := r.tokensIn
  tokensOut := r.tokensOut
  elapsedMs := r.durationMs
  events := []
  timestampMs := VeronicaRecords.truncate (r.createdAt * 1000)

namespace PgStore

def maxOutcomesPerChain : Nat := 50000
def historyLimit : Nat := 50

/-- `INSERT INTO veronica_events ...`; the id of a row that is refused is not given out again. -/
def commit (store : PgStore) (outcome : StepOutcome) (analysis : AnalysisResult)
    (cost : CostEstimate) (decision : DecisionMeta) : PgStore × Except PyExc Unit :=
  let row := rowOf outcome analysis cost decision
  let given := { store with nextId := store.nextId + 1 }
  match store.engine.refuses row with
  | some e => (given, .error e)
  | none => ({ given with rows := store.rows ++
      [{ row with id := store.nextId, createdAt := store.engine.now store.nextId }] }, .ok ())

/-- `SELECT ... WHERE chain_id = %s ORDER BY id DESC LIMIT %s` -/
def select (store : PgStore) (chainId : String) (limit : Nat) : List StoredRow :=
  (KeyedSort.sorted (fun r => OrderDual.toDual r.id)
    (store.rows.filter fun r => r.chainId = chainId)).take limit

def buildHistoryOf (store : PgStore) (chainId : String) (limit : Int) : HistoryView :=
  let limit := (max 1 (min limit maxOutcomesPerChain)).toNat
  viewOf chainId ((store.select chainId limit).reverse.map StoredRow.outcome)

def buildHistory (store : PgStore) (chainId : String) : HistoryView :=
  store.buildHistoryOf chainId historyLimit

end PgStore

instance : StoreProtocol PgStore where
  buildHistory := fun store chainId => .ok (store.buildHistory chainId)
  commit := fun store outcome analysis cost _ _ decision =>
    store.commit outcome analysis cost decision

/-- What a history keeps of an outcome in either store. -/
structure Kept where
  stepId : String
  chainId : String
  kind : StepKind
  status : StepStatus
  cost : ℚ
  tokensIn : Int
  tokensOut : Int
  elapsedMs : PyFloat

def kept (o : StepOutcome) : Kept where
  stepId := o.stepId
  chainId := o.chainId
  kind := o.kind
  status := o.status
  cost := o.costUsd.finiteOrZero
  tokensIn := o.tokensIn
  tokensOut := o.tokensOut
  elapsedMs := o.elapsedMs

section Rows
variable {store : PgStore}

/-- Ids are given out in order, and those in the table have been given out. -/
structure Numbered (store : PgStore) : Prop where
  ordered : store.rows.Pairwise fun a b => a.id < b.id
  given : ∀ r ∈ store.rows, r.id < store.nextId

theorem statusOf_name (status : StepStatus) : statusOf (statusName status) = status := by
  cases status <;> rfl

theorem kindOf_name (kind : StepKind) : kindOf (stepKindName kind) = kind := by
  cases kind <;> rfl

/-- What is read back from a row is what was committed, but for the request id, the time, the
    events and a cost that is no number. -/
theorem kept_row (outcome : StepOutcome) (analysis : AnalysisResult) (cost : CostEstimate)
    (decision : DecisionMeta) (id : Nat) (createdAt : ℚ) :
    kept (StoredRow.outcome { rowOf outcome analysis cost decision with id, createdAt }) =
      kept outcome := by
  have status : readStatus (outcomeToMeta outcome analysis cost decision) =
      statusOf (statusName outcome.status) := rfl
  have kind : readKind (outcomeToMeta outcome analysis cost decision) =
      kindOf (stepKindName outcome.kind) := rfl
  simp only [kept, StoredRow.outcome, rowOf, status, kind, statusOf_name, kindOf_name,
    PyFloat.finiteOrZero_finite]

theorem commit_cases (store : PgStore) (outcome : StepOutcome) (analysis : AnalysisResult)
    (cost : CostEstimate) (decision : DecisionMeta) :
    (∃ e, store.engine.refuses (rowOf outcome analysis cost decision) = some e ∧
      store.commit outcome analysis cost decision =
        ({ store with nextId := store.nextId + 1 }, .error e)) ∨
    (store.engine.refuses (rowOf outcome analysis cost decision) = none ∧
      ∃ row : StoredRow, row.id = store.nextId ∧ row.chainId = outcome.chainId ∧
        kept row.outcome = kept outcome ∧ store.commit outcome analysis cost decision =
          ({ store with nextId := store.nextId + 1, rows := store.rows ++ [row] }, .ok ())) := by
  cases refused : store.engine.refuses (rowOf outcome analysis cost decision) with
  | some e =>
    refine .inl ⟨e, rfl, ?_⟩
    simp only [PgStore.commit, refused]
  | none =>
    refine .inr ⟨rfl, _, rfl, rfl, kept_row outcome analysis cost decision store.nextId
      (store.engine.now store.nextId), ?_⟩
    simp only [PgStore.commit, refused]

theorem commit_numbered (numbered : Numbered store) (outcome : StepOutcome)
    (analysis : AnalysisResult) (cost : CostEstimate) (decision : DecisionMeta) :
    Numbered (store.commit outcome analysis cost decision).1 := by
  rcases commit_cases store outcome analysis cost decision with
    ⟨e, _, eq⟩ | ⟨_, row, id, _, _, eq⟩
  · rw [eq]
    exact ⟨numbered.ordered, fun r member => Nat.lt_succ_of_lt (numbered.given r member)⟩
  · rw [eq]
    constructor
    · refine List.pairwise_append.mpr ⟨numbered.ordered, List.pairwise_singleton _ _, ?_⟩
      intro a member b last
      rw [List.mem_singleton.mp last, id]
      exact numbered.given a member
    · intro r member
      rcases List.mem_append.mp member with earlier | last
      · exact Nat.lt_succ_of_lt (numbered.given r earlier)
      · rw [List.mem_singleton.mp last, id]
        exact Nat.lt_succ_self _

def rowsOf (store : PgStore) (chainId : String) : List StoredRow :=
  store.rows.filter fun r => r.chainId = chainId

theorem select_eq (numbered : Numbered store) (chainId : String) (limit : Nat) :
    (store.select chainId limit).reverse = keepLast limit (rowsOf store chainId) := by
  have ordered : (rowsOf store chainId).Pairwise fun a b => a.id < b.id :=
    numbered.ordered.filter _
  have sorted : KeyedSort.sorted (fun r : StoredRow => OrderDual.toDual r.id)
      (rowsOf store chainId) = (rowsOf store chainId).reverse := by
    refine KeyedSort.sorted_of_strict _ (List.reverse_perm _).symm ?_
    rw [List.pairwise_reverse]
    exact ordered
  rw [PgStore.select, ← rowsOf, sorted, List.take_reverse, List.reverse_reverse, keepLast]

end Rows

section Histories

/-- Two histories that differ at most in what only one of the stores keeps of an outcome. -/
structure Alike (v w : HistoryView) : Prop where
  lastN : v.lastN.map kept = w.lastN.map kept
  rest : w = { v with lastN := w.lastN }

theorem rollingCost_kept (outcomes : List StepOutcome) :
    MemoryStore.rollingCost outcomes = ((outcomes.map kept).map Kept.cost).sum := by
  rw [MemoryStore.rollingCost, List.map_map]
  rfl

theorem failureStreak_kept (outcomes : List StepOutcome) :
    MemoryStore.failureStreak outcomes =
      ((outcomes.map kept).reverse.takeWhile fun k => k.status ≠ .ok).length := by
  rw [MemoryStore.failureStreak, ← List.map_reverse, List.takeWhile_map, List.length_map]
  rfl

theorem viewOf_alike (chainId : String) {first second : List StepOutcome}
    (same : first.map kept = second.map kept) :
    Alike (viewOf chainId first) (viewOf chainId second) where
  lastN := same
  rest := by
    have sizes := congrArg List.length same
    rw [List.length_map, List.length_map] at sizes
    rw [viewOf, viewOf, rollingCost_kept, rollingCost_kept, failureStreak_kept, failureStreak_kept,
      same, sizes]

theorem map_keepLast {A B : Type} (f : A → B) (n : Nat) (items : List A) :
    (keepLast n items).map f = keepLast n (items.map f) := by
  rw [keepLast, keepLast, List.map_drop, List.length_map]

/-- The rows of every chain are what MemoryStore holds of it, and what it has let go. -/
structure SameStore (m : MemoryStore) (p : PgStore) : Prop where
  numbered : Numbered p
  chains : ∀ c, (outcomesOf m c).map kept =
    keepLast maxOutcomesPerChain ((rowsOf p c).map fun r => kept r.outcome)

variable {m : MemoryStore} {p : PgStore}

theorem sameStore_opened (engine : Engine) : SameStore {} { engine } where
  numbered := ⟨List.Pairwise.nil, fun _ member => absurd member List.not_mem_nil⟩
  chains _ := List.drop_nil.symm

theorem histories_alike (same : SameStore m p) {chainId : String}
    (safe : isSafeChainId chainId = true) :
    ∃ view, m.buildHistory chainId = .ok view ∧ Alike view (p.buildHistory chainId) := by
  refine ⟨_, buildHistory_safe m chainId safe, viewOf_alike chainId ?_⟩
  have limits : (max 1 (min (PgStore.historyLimit : Int) PgStore.maxOutcomesPerChain)).toNat =
      MemoryStore.historyLimit := by decide
  have window : MemoryStore.historyLimit ≤ maxOutcomesPerChain := by
    norm_num [MemoryStore.historyLimit, maxOutcomesPerChain]
  rw [recent, map_keepLast, same.chains, keepLast_keepLast window, limits,
    select_eq same.numbered, List.map_map]
  exact (map_keepLast _ _ _).symm

end Histories

end VeronicaPg
