import Veronica.FileStore
import Veronica.Library.RotatedLog
import Veronica.Library.PyConversions

/- FileStore down to what stands in its files: outcomes as JSON records, statistics as JSON
   documents under names made of the chain id. `json.loads` gives back what `json.dumps` was
   given, so a file is a list of records, or a document. I/O does not fail here. -/
namespace VeronicaRecords
open VeronicaTypes VeronicaStages VeronicaFileStore

/-- A number as callers hand it on: an int of any size, or a float. -/
inductive PyNumber where
  | int (n : Int)
  | float (x : PyFloat)

/-- What may stand in a field declared a float: the number it stands for, and `float(x)`, which
    `math.isfinite(x)` begins with. -/
class FloatField (N : Type) where
  value : N → PyFloat
  toFloat : N → Except PyExc PyFloat

instance : FloatField PyFloat where
  value := fun x => x
  toFloat := .ok

instance : FloatField PyNumber where
  value
    | .int n => .finite n
    | .float x => x
  toFloat
    | .int n => (Doubles.ofInt n).map fun nearest : Int => .finite nearest
    | .float x => .ok x

/-- The "outcome" object of a line. The timestamp, an int or a float, is given by its value. -/
structure OutcomeRecord (N : Type := PyFloat) where
  stepId : String
  requestId : String
  chainId : String
  kind : StepKind
  status : StepStatus
  costUsd : N
  tokensIn : Int
  tokensOut : Int
  elapsedMs : N
  model : Option String
  timestampMs : PyFloat

/-- A StepOutcome with its numbers as they come: nothing checks them before they are written. -/
structure RawOutcome (N : Type := PyFloat) extends OutcomeRecord N where
  events : List PyVal

structure RawHistoryView where
  chainId : String
  lastN : List RawOutcome
  rollingCostUsd : ℚ
  failureStreak : Nat
  depth : Nat
  loopScore : ℚ
  successStreak : Nat
  costPerStepEma : ℚ
  costPerStepEmaByModel : Dict String ℚ
  latencyEmaMs : Dict String ℚ
  budgetHeadroomRatio : ℚ

/-- `int(x)` -/
def truncate (x : ℚ) : Int := x.num.tdiv x.den

/-- `float(x)` -/
def floatOf : PyFloat → Except PyExc PyFloat
  | .finite q =>
    if q.den = 1 then (Doubles.ofInt q.num).map fun n : Int => .finite n else .ok (.finite q)
  | x => .ok x

namespace OutcomeRecord
variable {N : Type} [FloatField N]

/-- The fields the statistics and the loop score are made of. -/
def plain (r : OutcomeRecord N) : FileOutcome where
  stepId := r.stepId
  requestId := r.requestId
  chainId := r.chainId
  kind := r.kind
  status := r.status
  costUsd := FloatField.value r.costUsd
  tokensIn := r.tokensIn
  tokensOut := r.tokensOut
  elapsedMs := FloatField.value r.elapsedMs
  timestampMs := truncate r.timestampMs.finiteOrZero
  model := r.model

/-- One line of `_read_jsonl_outcomes`. Only a number too large for a double raises. -/
def read (r : OutcomeRecord N) : Except PyExc RawOutcome := do
  let costUsd ← FloatField.toFloat r.costUsd
  let elapsedMs ← FloatField.toFloat r.elapsedMs
  let timestampMs ← floatOf r.timestampMs
  .ok {
    stepId := r.stepId
    requestId := r.requestId
    chainId := r.chainId
    kind := r.kind
    status := r.status
    costUsd := .finite (max 0 costUsd.finiteOrZero)
    tokensIn := max 0 r.tokensIn
    tokensOut := max 0 r.tokensOut
    elapsedMs := .finite (max 0 elapsedMs.finiteOrZero)
    model := r.model
    events := []
    timestampMs := .finite (truncate timestampMs.finiteOrZero) }

/-- `math.isfinite` of cost and elapsed time, once the line is written. -/
def checkNumbers (r : OutcomeRecord N) : Except PyExc Unit := do
  let _ ← FloatField.toFloat r.costUsd
  let _ ← FloatField.toFloat r.elapsedMs
  .ok ()

end OutcomeRecord

def readLines {N : Type} [FloatField N] (lines : List (OutcomeRecord N)) :
    Except PyExc (List RawOutcome) :=
  lines.mapM OutcomeRecord.read

abbrev StatsDoc := List (String × PyVal)

def statsPath (chainId : String) : String := chainId ++ "_stats.json"

def floatsDoc (values : Dict String ℚ) : PyVal :=
  .dict (values.entries.map fun entry => (entry.1, .float (.finite entry.2)))

/-- `_safe_float(value, default)` -/
def safeFloat (numerals : Numerals) (value : PyVal) (default : ℚ) : Except PyExc ℚ :=
  match value.toFloat numerals with
  | .ok (.finite q) => .ok q
  | .ok _ | .error (.typeError _) | .error (.valueError _) => .ok default
  | .error e => .error e

/-- `{str(k): _safe_float(v, 0.0) for k, v in dict(value).items()}`; `dict` is given an object,
    as the keys it is called for always hold one. -/
def floatsOf (numerals : Numerals) : PyVal → Except PyExc (Dict String ℚ)
  | .dict entries => do
    let values ← entries.mapM fun entry =>
      (safeFloat numerals entry.2 0).map fun q => (entry.1, q)
    .ok (Dict.ofEntries values)
  | _ => .error (.typeError "object is not iterable")

/-- `int(value)` of a counter, which is never negative. -/
def natOf (numerals : Numerals) (value : PyVal) : Except PyExc Nat :=
  (value.toInt numerals).map Int.toNat

end VeronicaRecords

namespace VeronicaFileStore.ChainStats
open VeronicaRecords

def toDict (stats : ChainStats) : StatsDoc :=
  [("cost_ema", .float (.finite stats.costEma)),
    ("cost_ema_by_model", floatsDoc stats.costEmaByModel),
    ("latency_ema_by_model", floatsDoc stats.latencyEmaByModel),
    ("success_streak", .int stats.successStreak),
    ("failure_streak", .int stats.failureStreak),
    ("total_commits", .int stats.totalCommits),
    ("budget_headroom_ratio", .float (.finite stats.budgetHeadroomRatio)),
    ("commits_since_rotate", .int stats.commitsSinceRotate)]

def fromDict (numerals : Numerals) (data : StatsDoc) : Except PyExc ChainStats := do
  let get (key : String) (default : PyVal) : PyVal := (data.lookup key).getD default
  let costEma ← safeFloat numerals (get "cost_ema" (.float (.finite 0))) 0
  let costEmaByModel ← floatsOf numerals (get "cost_ema_by_model" (.dict []))
  let latencyEmaByModel ← floatsOf numerals (get "latency_ema_by_model" (.dict []))
  let successStreak ← natOf numerals (get "success_streak" (.int 0))
  let failureStreak ← natOf numerals (get "failure_streak" (.int 0))
  let totalCommits ← natOf numerals (get "total_commits" (.int 0))
  let budgetHeadroomRatio ← safeFloat numerals (get "budget_headroom_ratio" (.float (.finite 1))) 1
  let commitsSinceRotate ← natOf numerals (get "commits_since_rotate" (.int 0))
  .ok { costEma, costEmaByModel, latencyEmaByModel, successStreak, failureStreak, totalCommits,
        budgetHeadroomRatio, commitsSinceRotate }

end VeronicaFileStore.ChainStats

namespace VeronicaRecords
open VeronicaTypes VeronicaStages VeronicaFileStore

/-- A FileStore over `lines`, the JSONL files, and `statsDocs`, the stats files, each by file
    name. -/
structure RecordStore (N : Type := PyFloat) where
  flushInterval : Nat := 10
  maxLines : Int := 10000
  lines : Dict String (List (OutcomeRecord N)) := ∅
  statsDocs : Dict String StatsDoc := ∅
  chainStats : Dict String ChainStats := ∅
  budgetCeiling : Option ℚ := none
  budgetRemaining : Option ℚ := none

/-- What a commit has taken under the lock to write when it has left it: a file and its text. -/
abbrev FlushData := String × StatsDoc

namespace RecordStore
variable {N : Type} [FloatField N]

def setBudgetContext (s : RecordStore N) (ceilingUsd remainingUsd : ℚ) : RecordStore N :=
  { s with budgetCeiling := some ceilingUsd, budgetRemaining := some remainingUsd }

def statsOf (s : RecordStore N) (chainId : String) : ChainStats := s.chainStats.getD chainId {}

def refusal (s : RecordStore N) (chainId : String) : Option PyExc :=
  if isSafeChainId chainId = false then some invalidChain
  else if s.chainStats.get? chainId = none ∧ maxChains ≤ s.chainStats.size then
    some (.valueError ("Chain limit (" ++ toString maxChains ++
      ") reached; cannot create chain '" ++ chainId ++ "'"))
  else none

def updatedStats (s : RecordStore N) (o : OutcomeRecord N) : ChainStats :=
  ((s.statsOf o.chainId).observe o.plain).consume s.budgetCeiling s.budgetRemaining

def fills (s : RecordStore N) (chainId : String) : Bool :=
  decide (s.maxLines ≤ ((s.statsOf chainId).commitsSinceRotate + 1 : Nat))

def locked (s : RecordStore N) (o : RawOutcome N) : RecordStore N :=
  let stats := s.updatedStats o.toOutcomeRecord
  let full := s.fills o.chainId
  { s with
    lines := RotatedLog.write s.lines (activePath o.chainId) (rotatedPath o.chainId)
      o.toOutcomeRecord full
    chainStats := s.chainStats.set o.chainId
      { stats with commitsSinceRotate := if full then 0 else stats.commitsSinceRotate + 1 }
    budgetCeiling := none
    budgetRemaining := none }

/-- The snapshot is taken before the rotation check counts the commit. -/
def flushData (s : RecordStore N) (o : RawOutcome N) : Option FlushData :=
  let stats := s.updatedStats o.toOutcomeRecord
  if stats.totalCommits % max 1 s.flushInterval = 0 then
    some (statsPath o.chainId, stats.toDict)
  else none

def writeStats (s : RecordStore N) (flush : FlushData) : RecordStore N :=
  { s with statsDocs := s.statsDocs.set flush.1 flush.2 }

def accept (s : RecordStore N) (o : RawOutcome N) : RecordStore N :=
  match s.flushData o with
  | some flush => (s.locked o).writeStats flush
  | none => s.locked o

/-- The line is written and the chain is known, but nothing is counted. -/
def interrupted (s : RecordStore N) (o : RawOutcome N) : RecordStore N :=
  { s with
    lines := RotatedLog.write s.lines (activePath o.chainId) (rotatedPath o.chainId)
      o.toOutcomeRecord false
    chainStats := s.chainStats.set o.chainId (s.statsOf o.chainId) }

def commit (s : RecordStore N) (o : RawOutcome N) : RecordStore N × Except PyExc Unit :=
  match s.refusal o.chainId with
  | some e => (s, .error e)
  | none =>
    match o.checkNumbers with
    | .error e => (s.interrupted o, .error e)
    | .ok () => (s.accept o, .ok ())

def readOutcomes (s : RecordStore N) (path : String) : Except PyExc (List RawOutcome) :=
  readLines (s.lines.getD path [])

def loadRecentOutcomes (s : RecordStore N) (chainId : String) (limit : Nat) :
    Except PyExc (List RawOutcome) := do
  let outcomes ← s.readOutcomes (activePath chainId)
  if outcomes.length < limit then
    let older ← s.readOutcomes (rotatedPath chainId)
    .ok ((older ++ outcomes).rtake limit)
  else .ok (outcomes.rtake limit)

def buildHistory (s : RecordStore N) (chainId : String) (limit : Int) :
    Except PyExc RawHistoryView :=
  if isSafeChainId chainId then
    let stats := s.statsOf chainId
    (s.loadRecentOutcomes chainId (max 1 (min limit maxHistoryLimit)).toNat).map fun lastN => {
      chainId
      lastN
      rollingCostUsd := (lastN.map fun o => o.costUsd.finiteOrZero).sum
      failureStreak := stats.failureStreak
      depth := lastN.length
      loopScore := FileStore.loopScore (lastN.map fun o => o.plain)
      successStreak := stats.successStreak
      costPerStepEma := stats.costEma
      costPerStepEmaByModel := stats.costEmaByModel
      latencyEmaMs := stats.latencyEmaByModel
      budgetHeadroomRatio := stats.budgetHeadroomRatio }
  else .error invalidChain

/-- The snapshots `close` takes under the lock. -/
def snapshots (s : RecordStore N) : List FlushData :=
  s.chainStats.entries.map fun entry => (statsPath entry.1, entry.2.toDict)

def close (s : RecordStore N) : RecordStore N := s.snapshots.foldl writeStats s

end RecordStore

/-- `Path(name).stem` -/
def pyStem (name : String) : String :=
  let cut := name.toList.rdropWhile fun c => c ≠ '.'
  if cut.length ≤ 1 ∨ cut.length = name.length then name else String.ofList cut.dropLast

/-- `name.removesuffix(suffix)` -/
def removeSuffix (suffix name : String) : String :=
  if suffix.toList <:+ name.toList then
    String.ofList (name.toList.take (name.length - suffix.length))
  else name

/-- The chain a file found by the glob `*_stats.json` is taken for. -/
def chainOfFile (name : String) : Option String :=
  if "_stats.json".toList <:+ name.toList then some (removeSuffix "_stats" (pyStem name)) else none

/-- One file of `_load_existing_stats`; a document that cannot be read is skipped. -/
def loadEntry (numerals : Numerals) (chainStats : Dict String ChainStats)
    (entry : String × StatsDoc) : Except PyExc (Dict String ChainStats) :=
  match chainOfFile entry.1 with
  | none => .ok chainStats
  | some chainId =>
    if isSafeChainId chainId then
      match ChainStats.fromDict numerals entry.2 with
      | .ok stats => .ok (chainStats.set chainId stats)
      | .error (.valueError _) | .error (.keyError _) => .ok chainStats
      | .error e => .error e
    else .ok chainStats

def loadStats (numerals : Numerals) (statsDocs : Dict String StatsDoc) :
    Except PyExc (Dict String ChainStats) :=
  statsDocs.entries.foldlM (loadEntry numerals) ∅

def RecordStore.reopen (numerals : Numerals) (s : RecordStore) (flushInterval : Nat)
    (maxLines : Int) : Except PyExc RecordStore :=
  (loadStats numerals s.statsDocs).map fun chainStats =>
    { flushInterval, maxLines, lines := s.lines, statsDocs := s.statsDocs, chainStats }

end VeronicaRecords
