import Veronica.Stages

/- FileStore: one JSONL file for each chain, with one rotated generation, and statistics in
   memory, their averages and ratios rounded by `fl`. I/O does not fail here. A line of a file is
   the outcome that was written to it. -/
namespace VeronicaFileStore
open VeronicaTypes VeronicaStages

/-- An outcome with the model field the other stages never read. -/
structure FileOutcome extends StepOutcome where
  model : Option String := none

structure FileHistoryView where
  chainId : String
  lastN : List FileOutcome
  rollingCostUsd : ℚ
  failureStreak : Nat
  depth : Nat
  loopScore : ℚ
  successStreak : Nat
  costPerStepEma : ℚ
  costPerStepEmaByModel : Dict String ℚ
  latencyEmaMs : Dict String ℚ
  budgetHeadroomRatio : ℚ

structure ChainStats where
  costEma : ℚ := 0
  costEmaByModel : Dict String ℚ := ∅
  latencyEmaByModel : Dict String ℚ := ∅
  successStreak : Nat := 0
  failureStreak : Nat := 0
  totalCommits : Nat := 0
  budgetHeadroomRatio : ℚ := 1
  commitsSinceRotate : Nat := 0

/-- `files` is the data directory by file name; `statsFiles` holds its stats files by the chain
    id in their names. -/
structure FileStore (fl : ℚ → ℚ := id) where
  flushInterval : Nat := 10
  maxLines : Int := 10000
  files : Dict String (List FileOutcome) := ∅
  statsFiles : Dict String ChainStats := ∅
  chainStats : Dict String ChainStats := ∅
  budgetCeiling : Option ℚ := none
  budgetRemaining : Option ℚ := none

def emaAlpha : ℚ := 3 / 10
def eps : ℚ := 1 / 1000000000000
def maxModelsPerChain : Nat := 1000
def maxHistoryLimit : Nat := 50000

/-- `_ema`, with its literals and the result of each operation rounded. -/
def ema (prev current : ℚ) (fl : ℚ → ℚ := id) : ℚ :=
  if prev < fl eps then current
  else fl (fl (fl emaAlpha * current) + fl (fl (1 - fl emaAlpha) * prev))

def activePath (chainId : String) : String := chainId ++ ".jsonl"
def rotatedPath (chainId : String) : String := chainId ++ ".1.jsonl"

/-- `outcome.model or "unknown"`, cut to 128 characters -/
def modelKey (o : FileOutcome) : String :=
  let name := if o.model.getD "" = "" then "unknown" else o.model.getD ""
  String.ofList (name.toList.take 128)

namespace ChainStats

/-- Steps 2 and 3 of `commit`: averages and streaks. -/
def observe (stats : ChainStats) (o : FileOutcome) (fl : ℚ → ℚ := id) : ChainStats :=
  let cost := o.costUsd.finiteOrZero
  let key := modelKey o
  let tracked := stats.costEmaByModel.size < maxModelsPerChain ∨
    key ∈ stats.costEmaByModel.keys
  { stats with
    costEma := ema stats.costEma cost fl
    costEmaByModel := if tracked then
        stats.costEmaByModel.set key (ema (stats.costEmaByModel.getD key 0) cost fl)
      else stats.costEmaByModel
    latencyEmaByModel := if tracked then
        stats.latencyEmaByModel.set key
          (ema (stats.latencyEmaByModel.getD key 0) o.elapsedMs.finiteOrZero fl)
      else stats.latencyEmaByModel
    successStreak := if o.status = .ok then stats.successStreak + 1 else 0
    failureStreak := if o.status = .ok then 0 else stats.failureStreak + 1
    totalCommits := stats.totalCommits + 1 }

/-- The budget context is applied when both halves are there and the ceiling is positive. -/
def consume (stats : ChainStats) (ceiling remaining : Option ℚ) (fl : ℚ → ℚ := id) : ChainStats :=
  match ceiling, remaining with
  | some ceiling, some remaining =>
    if fl eps < ceiling then { stats with budgetHeadroomRatio := fl (remaining / ceiling) }
    else stats
  | _, _ => stats

end ChainStats

namespace FileStore
variable {fl : ℚ → ℚ}

def setBudgetContext (fs : FileStore fl) (ceilingUsd remainingUsd : ℚ) : FileStore fl :=
  { fs with budgetCeiling := some ceilingUsd, budgetRemaining := some remainingUsd }

def statsOf (fs : FileStore fl) (chainId : String) : ChainStats := fs.chainStats.getD chainId {}

/-- `commit` refuses an id outside the grammar, and a new chain beyond the cap. -/
def refusal (fs : FileStore fl) (chainId : String) : Option PyExc :=
  if isSafeChainId chainId = false then some invalidChain
  else if fs.chainStats.get? chainId = none ∧ maxChains ≤ fs.chainStats.size then
    some (.valueError ("Chain limit (" ++ toString maxChains ++
      ") reached; cannot create chain '" ++ chainId ++ "'"))
  else none

def append (files : Dict String (List FileOutcome)) (path : String) (o : FileOutcome) :
    Dict String (List FileOutcome) :=
  files.set path (files.getD path [] ++ [o])

/-- `_rotate`: the old rotated file goes, the active file takes its name. -/
def rotate (files : Dict String (List FileOutcome)) (chainId : String) :
    Dict String (List FileOutcome) :=
  match files.get? (activePath chainId) with
  | none => files.erase (rotatedPath chainId)
  | some lines =>
    ((files.erase (rotatedPath chainId)).erase (activePath chainId)).set (rotatedPath chainId)
      lines

/-- The statistics after a commit, before its rotation check. -/
def updatedStats (fs : FileStore fl) (o : FileOutcome) : ChainStats :=
  ((fs.statsOf o.chainId).observe o fl).consume fs.budgetCeiling fs.budgetRemaining fl

def Rotates (fs : FileStore fl) (chainId : String) : Prop :=
  fs.maxLines ≤ ((fs.statsOf chainId).commitsSinceRotate + 1 : Nat)

instance (fs : FileStore fl) (chainId : String) : Decidable (fs.Rotates chainId) :=
  inferInstanceAs (Decidable (_ ≤ _))

def accept (fs : FileStore fl) (o : FileOutcome) : FileStore fl :=
  let files := append fs.files (activePath o.chainId) o
  let stats := fs.updatedStats o
  let statsFiles := if stats.totalCommits % max 1 fs.flushInterval = 0 then
      fs.statsFiles.set o.chainId stats
    else fs.statsFiles
  let counted := stats.commitsSinceRotate + 1
  let rotates := fs.maxLines ≤ (counted : Nat)
  { fs with
    files := if rotates then rotate files o.chainId else files
    statsFiles
    chainStats := fs.chainStats.set o.chainId
      { stats with commitsSinceRotate := if rotates then 0 else counted }
    budgetCeiling := none
    budgetRemaining := none }

def commit (fs : FileStore fl) (o : FileOutcome) : FileStore fl × Except PyExc Unit :=
  match fs.refusal o.chainId with
  | some e => (fs, .error e)
  | none => (fs.accept o, .ok ())

/-- A line as `_read_jsonl_outcomes` gives it back. -/
def readBack (o : FileOutcome) : FileOutcome :=
  { o with
    costUsd := .finite (max 0 o.costUsd.finiteOrZero)
    tokensIn := max 0 o.tokensIn
    tokensOut := max 0 o.tokensOut
    elapsedMs := .finite (max 0 o.elapsedMs.finiteOrZero)
    events := [] }

def readOutcomes (fs : FileStore fl) (path : String) : List FileOutcome :=
  (fs.files.getD path []).map readBack

/-- `outcomes[-limit:]` -/
def lastOf {T : Type} (limit : Nat) (outcomes : List T) : List T :=
  outcomes.drop (outcomes.length - limit)

def loadRecentOutcomes (fs : FileStore fl) (chainId : String) (limit : Nat) : List FileOutcome :=
  let outcomes := fs.readOutcomes (activePath chainId)
  let outcomes := if outcomes.length < limit then
      fs.readOutcomes (rotatedPath chainId) ++ outcomes
    else outcomes
  lastOf limit outcomes

def kindName : StepKind → String
  | .llm => "llm"
  | .tool => "tool"
  | .system => "system"

/-- The share of the most frequent kind, model and status among the last ten outcomes. -/
def loopScore (outcomes : List FileOutcome) (fl : ℚ → ℚ := id) : ℚ :=
  if outcomes.length < 3 then 0
  else
    let keys := (lastOf 10 outcomes).map fun o =>
      (o.kind, if o.model.getD "" = "" then kindName o.kind else o.model.getD "", o.status)
    let mostCommonCount := (keys.map fun key => keys.count key).foldl max 0
    fl (mostCommonCount / keys.length)

def buildHistory (fs : FileStore fl) (chainId : String) (limit : Int) :
    Except PyExc FileHistoryView :=
  if isSafeChainId chainId then
    let stats := fs.statsOf chainId
    let lastN := fs.loadRecentOutcomes chainId (max 1 (min limit maxHistoryLimit)).toNat
    .ok {
      chainId
      lastN
      rollingCostUsd := (lastN.map fun o => o.costUsd.finiteOrZero).sum
      failureStreak := stats.failureStreak
      depth := lastN.length
      loopScore := loopScore lastN fl
      successStreak := stats.successStreak
      costPerStepEma := stats.costEma
      costPerStepEmaByModel := stats.costEmaByModel
      latencyEmaMs := stats.latencyEmaByModel
      budgetHeadroomRatio := stats.budgetHeadroomRatio }
  else .error invalidChain

/-- Writes every chain's statistics to its file. -/
def close (fs : FileStore fl) : FileStore fl :=
  let write (files : Dict String ChainStats) (entry : String × ChainStats) :=
    files.set entry.1 entry.2
  { fs with statsFiles := fs.chainStats.entries.foldl write fs.statsFiles }

/-- A new FileStore on the same directory. -/
def reopen (fs : FileStore fl) (flushInterval : Nat) (maxLines : Int) : FileStore fl :=
  { flushInterval, maxLines, files := fs.files, statsFiles := fs.statsFiles,
    chainStats := fs.statsFiles }

end FileStore

variable {fl : ℚ → ℚ}

/-- Active and rotated files coincide for an id and the same id with ".1" at its end. -/
theorem activePath_eq_rotatedPath_iff (c d : String) :
    activePath d = rotatedPath c ↔ d = c ++ ".1" := by
  have split : rotatedPath c = (c ++ ".1") ++ ".jsonl" := by
    rw [rotatedPath, String.append_assoc]
    rfl
  rw [split, activePath]
  exact String.append_left_inj ".jsonl"

theorem activePath_inj {c d : String} : activePath c = activePath d ↔ c = d :=
  String.append_left_inj ".jsonl"

theorem rotatedPath_inj {c d : String} : rotatedPath c = rotatedPath d ↔ c = d :=
  String.append_left_inj ".1.jsonl"

theorem ne_append_dot_one (c : String) : c ≠ c ++ ".1" := by
  intro same
  have lengths : c.length = c.length + ".1".length := by
    rw [← String.length_append, ← same]
  have : ".1".length = 2 := rfl
  omega

theorem activePath_ne_rotatedPath (c : String) : activePath c ≠ rotatedPath c := by
  rw [Ne, activePath_eq_rotatedPath_iff]
  exact ne_append_dot_one c

theorem consume_eq (stats : ChainStats) (ceiling remaining : Option ℚ) :
    stats.consume ceiling remaining fl =
      { stats with budgetHeadroomRatio :=
          (stats.consume ceiling remaining fl).budgetHeadroomRatio } := by
  unfold ChainStats.consume
  split
  · split <;> rfl
  · rfl

theorem updatedStats_commitsSinceRotate (fs : FileStore fl) (o : FileOutcome) :
    (fs.updatedStats o).commitsSinceRotate = (fs.statsOf o.chainId).commitsSinceRotate := by
  rw [FileStore.updatedStats, consume_eq]
  rfl

theorem accept_files (fs : FileStore fl) (o : FileOutcome) :
    (fs.accept o).files = if fs.Rotates o.chainId then
        FileStore.rotate (FileStore.append fs.files (activePath o.chainId) o) o.chainId
      else FileStore.append fs.files (activePath o.chainId) o := by
  simp only [FileStore.accept, updatedStats_commitsSinceRotate]
  by_cases rotates : fs.Rotates o.chainId
  · rw [if_pos rotates]
    exact if_pos rotates
  · rw [if_neg rotates]
    exact if_neg rotates

theorem accept_statsOf_other (fs : FileStore fl) (o : FileOutcome) {c : String}
    (other : c ≠ o.chainId) : (fs.accept o).statsOf c = fs.statsOf c := by
  simp only [FileStore.accept, FileStore.statsOf, Dict.getD]
  rw [Dict.get?_set_of_ne _ other]

theorem readOutcomes_append (fs : FileStore fl) (o : FileOutcome) (path other : String) :
    ((FileStore.append fs.files path o).getD other []).map FileStore.readBack =
      if other = path then fs.readOutcomes path ++ [FileStore.readBack o]
      else fs.readOutcomes other := by
  simp only [FileStore.append, Dict.getD, Dict.get?_set, FileStore.readOutcomes]
  split <;> simp

theorem accept_kept {fs : FileStore fl} {o : FileOutcome} (kept : ¬ fs.Rotates o.chainId)
    (path : String) : (fs.accept o).readOutcomes path =
      if path = activePath o.chainId then
        fs.readOutcomes (activePath o.chainId) ++ [FileStore.readBack o]
      else fs.readOutcomes path := by
  rw [FileStore.readOutcomes, accept_files, if_neg kept]
  exact readOutcomes_append fs o (activePath o.chainId) path

theorem accept_rotated {fs : FileStore fl} {o : FileOutcome} (rotates : fs.Rotates o.chainId)
    (path : String) : (fs.accept o).readOutcomes path =
      if path = rotatedPath o.chainId then
        fs.readOutcomes (activePath o.chainId) ++ [FileStore.readBack o]
      else if path = activePath o.chainId then [] else fs.readOutcomes path := by
  have written := readOutcomes_append fs o (activePath o.chainId)
  have lines : (FileStore.append fs.files (activePath o.chainId) o).get? (activePath o.chainId) =
      some (fs.files.getD (activePath o.chainId) [] ++ [o]) := Dict.get?_set_self _ _ _
  rw [FileStore.readOutcomes, accept_files, if_pos rotates, FileStore.rotate, lines]
  simp only [Dict.getD, Dict.get?_set, Dict.get?_erase]
  split
  · simp [FileStore.readOutcomes, Dict.getD]
  · split
    · rfl
    · rename_i ne
      have elsewhere := written path
      rw [if_neg ne] at elsewhere
      exact elsewhere

theorem refusal_none_safe {fs : FileStore fl} {chainId : String}
    (accepted : fs.refusal chainId = none) : isSafeChainId chainId := by
  unfold FileStore.refusal at accepted
  split at accepted
  · cases accepted
  · rename_i safe
    simpa using safe

theorem commit_accepted {fs : FileStore fl} {o : FileOutcome}
    (accepted : fs.refusal o.chainId = none) : (fs.commit o).1 = fs.accept o := by
  simp only [FileStore.commit, accepted]

theorem commit_refused {fs : FileStore fl} {o : FileOutcome}
    (refused : fs.refusal o.chainId ≠ none) : (fs.commit o).1 = fs := by
  unfold FileStore.commit
  cases refusal : fs.refusal o.chainId with
  | none => exact absurd refusal refused
  | some e => rfl

end VeronicaFileStore
