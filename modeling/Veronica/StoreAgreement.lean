import Veronica.RecordRefinement
import Veronica.MemoryHistory
import Veronica.Library.Runs

/- MemoryStore and FileStore given the same commits. One counts over the window of a history,
   the other keeps statistics and reads its window back from files. -/
namespace VeronicaAgreement
open VeronicaTypes VeronicaStages VeronicaFileStore VeronicaMemory VeronicaRecords

/-- `MemoryStore.build_history` with the window it is asked for. -/
def buildHistoryOf (store : MemoryStore) (chainId : String) (limit : Int) :
    Except PyExc HistoryView :=
  if isSafeChainId chainId then
    .ok (viewOf chainId
      (keepLast (max 1 (min limit maxOutcomesPerChain)).toNat (outcomesOf store chainId)))
  else .error invalidChain

structure Both where
  memory : MemoryStore := {}
  files : RecordStore

def RawOutcome.step (o : RawOutcome) : StepOutcome := o.plain.toStepOutcome

def commitBoth (s : Both) (o : RawOutcome) : Both where
  memory := (s.memory.commit (RawOutcome.step o)).1
  files := (s.files.commit o).1

def openedBoth (flushInterval : Nat) (maxLines : Int) : Both :=
  { files := { flushInterval, maxLines } }

/-- What the two histories are compared by, outcome for outcome. -/
abbrev Shown := String × StepStatus × PyFloat

def shownStep (o : StepOutcome) : Shown := (o.stepId, o.status, o.costUsd)
def shownRaw (o : RawOutcome) : Shown := (o.stepId, o.status, o.costUsd)

/-- Cost and timestamp are finite and not negative, and the timestamp fits into a double. -/
def Plain (o : RawOutcome) : Prop :=
  o.costUsd.isFiniteNonNegative = true ∧ o.timestampMs.isFiniteNonNegative = true ∧
    o.timestampMs.finiteOrZero < PyVal.floatLimit

instance (o : RawOutcome) : Decidable (Plain o) := inferInstanceAs (Decidable (_ ∧ _ ∧ _))

def commitsOf (outcomes : List RawOutcome) (chainId : String) : Nat :=
  (outcomes.filter fun o => o.chainId = chainId).length

/-- No chain gets as many commits as a file has lines, or a chain of MemoryStore takes. -/
def Few (maxLines : Int) (outcomes : List RawOutcome) : Prop :=
  ∀ o ∈ outcomes, (commitsOf outcomes o.chainId : Int) < maxLines ∧
    commitsOf outcomes o.chainId < maxOutcomesPerChain

instance (maxLines : Int) (outcomes : List RawOutcome) : Decidable (Few maxLines outcomes) :=
  inferInstanceAs (Decidable (∀ o ∈ outcomes, _))

structure Agrees (maxLines : Int) (committed : List RawOutcome) (s : Both) : Prop where
  maxLines : s.files.maxLines = maxLines
  keys : s.memory.chains.keys = s.files.chainStats.keys
  lines : ∀ c, outcomesOf s.memory c =
    (s.files.lines.getD (activePath c) []).map fun r => r.plain.toStepOutcome
  streak : ∀ c, (s.files.statsOf c).failureStreak =
    MemoryStore.failureStreak (outcomesOf s.memory c)
  counted : ∀ c, (s.files.statsOf c).commitsSinceRotate = (outcomesOf s.memory c).length
  few : ∀ c, (outcomesOf s.memory c).length ≤ commitsOf committed c
  written : ∀ c, ∀ r ∈ s.files.lines.getD (activePath c) [],
    ∃ o ∈ committed, o.chainId = c ∧ o.toOutcomeRecord = r

section Steps
variable {s : Both} {maxLines : Int} {committed : List RawOutcome}

theorem opened_agrees (flushInterval : Nat) (maxLines : Int) :
    Agrees maxLines [] (openedBoth flushInterval maxLines) where
  maxLines := rfl
  keys := rfl
  lines _ := rfl
  streak _ := rfl
  counted _ := rfl
  few _ := Nat.le_refl _
  written := by
    intro c r member
    cases member

theorem Agrees.full_iff (agrees : Agrees maxLines committed s) (c : String) :
    ChainsFull s.memory c ↔
      s.files.chainStats.get? c = none ∧ maxChains ≤ s.files.chainStats.size := by
  rw [ChainsFull, Dict.get?_eq_none_iff, Dict.get?_eq_none_iff, Dict.size_eq_keys,
    Dict.size_eq_keys, agrees.keys]

theorem Agrees.refused (agrees : Agrees maxLines committed s) (o : RawOutcome)
    (refused : isSafeChainId o.chainId = false ∨ ChainsFull s.memory o.chainId) :
    ∃ e, s.files.commit o = (s.files, .error e) := by
  rw [agrees.full_iff] at refused
  rw [commit_floats, RecordStore.refusal]
  rcases refused with unsafeId | full
  · exact ⟨invalidChain, by rw [if_pos unsafeId]⟩
  · by_cases unsafeId : isSafeChainId o.chainId = false
    · exact ⟨invalidChain, by rw [if_pos unsafeId]⟩
    · exact ⟨_, by rw [if_neg unsafeId, if_pos full]⟩

theorem Agrees.accepted (agrees : Agrees maxLines committed s) {o : RawOutcome}
    (safe : isSafeChainId o.chainId = true) (room : ¬ ChainsFull s.memory o.chainId) :
    s.files.commit o = (s.files.accept o, .ok ()) := by
  rw [agrees.full_iff] at room
  rw [commit_floats, RecordStore.refusal, if_neg (by simp [safe]), if_neg room]

theorem commitsOf_concat (committed : List RawOutcome) (o : RawOutcome) (c : String) :
    commitsOf (committed ++ [o]) c =
      commitsOf committed c + if c = o.chainId then 1 else 0 := by
  rw [commitsOf, List.filter_append, List.length_append]
  by_cases own : c = o.chainId
  · simp [commitsOf, own]
  · simp [commitsOf, own, Ne.symm own]

theorem memory_grown (store : MemoryStore) {o : StepOutcome}
    (safe : isSafeChainId o.chainId = true) (room : ¬ ChainsFull store o.chainId)
    (short : (outcomesOf store o.chainId).length < maxOutcomesPerChain) (c : String) :
    outcomesOf (store.commit o).1 c =
      outcomesOf store c ++ if c = o.chainId then [o] else [] := by
  split
  · rename_i own
    subst own
    rw [outcomesOf_commit store safe room, keepLast, Nat.sub_eq_zero_of_le, List.drop_zero]
    rwa [List.length_append, List.length_singleton]
  · rename_i other
    rw [outcomesOf_commit_of_ne store c (Ne.symm other), List.append_nil]

theorem files_grown (s : RecordStore) {o : RawOutcome} (kept : s.fills o.chainId = false)
    (c : String) : (s.accept o).lines.getD (activePath c) [] =
      s.lines.getD (activePath c) [] ++ if c = o.chainId then [o.toOutcomeRecord] else [] := by
  rw [accept_lines, kept]
  split
  · rename_i own
    subst own
    rw [RotatedLog.write_active _ _ _ (activePath_ne_rotatedPath _), if_neg (by decide)]
  · rename_i other
    have apart : activePath c ≠ activePath o.chainId := fun same =>
      other (activePath_inj.mp same)
    rw [Dict.getD, RotatedLog.write_get?, if_neg (fun both => Bool.false_ne_true both.1),
      if_neg apart, List.append_nil, Dict.getD]

theorem updatedStats_streak (s : RecordStore) (r : OutcomeRecord) :
    (s.updatedStats r).failureStreak =
      if r.status = .ok then 0 else (s.statsOf r.chainId).failureStreak + 1 := by
  rw [RecordStore.updatedStats, consume_eq]
  rfl

theorem accept_streak (s : RecordStore) (o : RawOutcome) (c : String) :
    ((s.accept o).statsOf c).failureStreak =
      if c = o.chainId then (s.updatedStats o.toOutcomeRecord).failureStreak
      else (s.statsOf c).failureStreak := by
  rw [accept_statsOf]
  split <;> rfl

theorem accept_count (s : RecordStore) {o : RawOutcome} (kept : s.fills o.chainId = false)
    (c : String) : ((s.accept o).statsOf c).commitsSinceRotate =
      (s.statsOf c).commitsSinceRotate + if c = o.chainId then 1 else 0 := by
  rw [accept_statsOf, kept, updatedStats_counted]
  split
  · rename_i own
    rw [own]
    rfl
  · rfl

theorem Agrees.keys_grown (agrees : Agrees maxLines committed s) {o : RawOutcome}
    (safe : isSafeChainId o.chainId = true) (room : ¬ ChainsFull s.memory o.chainId) :
    (s.memory.commit (RawOutcome.step o)).1.chains.keys = (s.files.accept o).chainStats.keys := by
  rcases commit_cases s.memory (RawOutcome.step o) with
    ⟨refused | full, _⟩ | ⟨_, _, after, eq, chains⟩
  · exact absurd (safe.symm.trans refused) (by decide)
  · exact absurd full room
  · rw [eq, chains, accept_chainStats, RecordStore.locked, Dict.keys_set, Dict.keys_set,
      agrees.keys]
    rfl

theorem Agrees.passed_over (agrees : Agrees maxLines committed s) (o : RawOutcome) :
    Agrees maxLines (committed ++ [o]) s := by
  constructor
  case maxLines => exact agrees.maxLines
  case keys => exact agrees.keys
  case lines => exact agrees.lines
  case streak => exact agrees.streak
  case counted => exact agrees.counted
  case few =>
    intro c
    rw [commitsOf_concat]
    exact (agrees.few c).trans (Nat.le_add_right _ _)
  case written =>
    intro c r member
    obtain ⟨p, among, own, same⟩ := agrees.written c r member
    exact ⟨p, List.mem_append_left _ among, own, same⟩

theorem agrees_accept (agrees : Agrees maxLines committed s) {o : RawOutcome}
    (safe : isSafeChainId o.chainId = true) (room : ¬ ChainsFull s.memory o.chainId)
    (fits : (commitsOf (committed ++ [o]) o.chainId : Int) < maxLines ∧
      commitsOf (committed ++ [o]) o.chainId < maxOutcomesPerChain) :
    Agrees maxLines (committed ++ [o]) (commitBoth s o) := by
  have few := agrees.few o.chainId
  have counted := agrees.counted o.chainId
  rw [commitsOf_concat, if_pos rfl] at fits
  have kept : s.files.fills o.chainId = false := by
    rw [RecordStore.fills, decide_eq_false_iff_not, agrees.maxLines]
    omega
  have short : (outcomesOf s.memory o.chainId).length < maxOutcomesPerChain := by omega
  have grown : ∀ c, outcomesOf (s.memory.commit (RawOutcome.step o)).1 c =
      outcomesOf s.memory c ++ if c = o.chainId then [RawOutcome.step o] else [] :=
    memory_grown s.memory safe room short
  have filed := files_grown s.files kept
  have streak := accept_streak s.files o
  have count := accept_count s.files kept
  rw [commitBoth, agrees.accepted safe room]
  constructor
  case maxLines => exact (accept_settings s.files o).2.1.trans agrees.maxLines
  case keys => exact agrees.keys_grown safe room
  case lines =>
    intro c
    rw [grown, filed, agrees.lines, List.map_append]
    congr 1
    split <;> rfl
  case streak =>
    intro c
    rw [grown, streak]
    split
    · rename_i own
      subst own
      rw [failureStreak_concat, ← agrees.streak]
      exact updatedStats_streak s.files o.toOutcomeRecord
    · rw [List.append_nil, agrees.streak]
  case counted =>
    intro c
    rw [grown, count, agrees.counted, List.length_append]
    congr 1
    split <;> rfl
  case few =>
    intro c
    rw [grown, commitsOf_concat, List.length_append]
    refine Nat.add_le_add (agrees.few c) (le_of_eq ?_)
    split <;> rfl
  case written =>
    intro c r member
    rw [filed] at member
    rcases List.mem_append.mp member with earlier | last
    · exact (agrees.passed_over o).written c r earlier
    · split at last
      · rename_i own
        exact ⟨o, by simp, own.symm, (List.mem_singleton.mp last).symm⟩
      · cases last

theorem agrees_commit (agrees : Agrees maxLines committed s) {o : RawOutcome}
    (fits : (commitsOf (committed ++ [o]) o.chainId : Int) < maxLines ∧
      commitsOf (committed ++ [o]) o.chainId < maxOutcomesPerChain) :
    Agrees maxLines (committed ++ [o]) (commitBoth s o) := by
  by_cases refused : isSafeChainId o.chainId = false ∨ ChainsFull s.memory o.chainId
  · obtain ⟨e, unchanged⟩ := agrees.refused o refused
    have same : commitBoth s o = s := by
      rcases commit_cases s.memory (RawOutcome.step o) with ⟨_, e, eq⟩ | ⟨safe, room, _⟩
      · rw [commitBoth, unchanged, eq]
      · rcases refused with unsafeId | full
        · exact absurd (safe.symm.trans unsafeId) (by decide)
        · exact absurd full room
    rw [same]
    exact agrees.passed_over o
  · rw [not_or, Bool.not_eq_false] at refused
    exact agrees_accept agrees refused.1 refused.2 fits

end Steps

theorem commitsOf_le_of_prefix {earlier outcomes : List RawOutcome} (first : earlier <+: outcomes)
    (c : String) : commitsOf earlier c ≤ commitsOf outcomes c :=
  (first.sublist.filter _).length_le

theorem agrees_run (flushInterval : Nat) {maxLines : Int} {outcomes : List RawOutcome}
    (few : Few maxLines outcomes) :
    Agrees maxLines outcomes
      (Runs.run commitBoth (openedBoth flushInterval maxLines) outcomes) := by
  induction outcomes using List.reverseRecOn with
  | nil => exact opened_agrees flushInterval maxLines
  | append_singleton earlier o ih =>
    have fewer : Few maxLines earlier := by
      intro p member
      have bound := few p (List.mem_append_left _ member)
      have le := commitsOf_le_of_prefix (List.prefix_append earlier [o]) p.chainId
      omega
    rw [Runs.run_append]
    exact agrees_commit (ih fewer) (few o (by simp))

section Reading

theorem shown_read {r : OutcomeRecord} (cost : r.costUsd.isFiniteNonNegative = true)
    (time : r.timestampMs.isFiniteNonNegative = true)
    (fits : r.timestampMs.finiteOrZero < PyVal.floatLimit) :
    ∃ o, r.read = .ok o ∧ shownRaw o = (r.stepId, r.status, r.costUsd) := by
  obtain ⟨q, costUsd, nonneg⟩ := PyFloat.isFiniteNonNegative_iff.mp cost
  obtain ⟨t, timestampMs, positive⟩ := PyFloat.isFiniteNonNegative_iff.mp time
  have float : ∃ y, floatOf r.timestampMs = .ok y := by
    rw [timestampMs] at fits ⊢
    unfold floatOf
    dsimp only
    split
    · rename_i whole
      have value := eq_num_of_den whole
      have inRange : t.num < PyVal.floatLimit ∧ -PyVal.floatLimit < t.num := by
        rw [PyFloat.finiteOrZero_finite, value] at fits
        have below : t.num < PyVal.floatLimit := by exact_mod_cast fits
        have least : 0 ≤ t.num := Rat.num_nonneg.mpr positive
        have limit := PyVal.floatLimit_pos
        exact ⟨below, by omega⟩
      rw [Doubles.ofInt, if_pos inRange]
      exact ⟨_, rfl⟩
    · exact ⟨_, rfl⟩
  obtain ⟨y, read⟩ := float
  refine ⟨_, by rw [OutcomeRecord.read, read]; rfl, ?_⟩
  simp only [shownRaw, costUsd, PyFloat.finiteOrZero_finite, max_eq_right nonneg]

theorem shown_lines {lines : List OutcomeRecord} (each : ∀ r ∈ lines,
    ∃ o, r.read = .ok o ∧ shownRaw o = (r.stepId, r.status, r.costUsd)) :
    ∃ outcomes, readLines lines = .ok outcomes ∧ outcomes.map shownRaw =
      lines.map fun r => (r.stepId, r.status, r.costUsd) := by
  induction lines with
  | nil => exact ⟨[], rfl, rfl⟩
  | cons r rest ih =>
    obtain ⟨o, read, shown⟩ := each r List.mem_cons_self
    obtain ⟨later, ok, same⟩ := ih fun r member => each r (List.mem_cons_of_mem _ member)
    refine ⟨o :: later, ?_, by rw [List.map_cons, List.map_cons, shown, same]⟩
    rw [readLines] at ok ⊢
    rw [List.mapM_cons, read, ok]
    rfl

end Reading

section Windows

/-- The failures at the end of a window are those at the end of all, up to the window's size. -/
theorem failureStreak_keepLast (outcomes : List StepOutcome) (limit : Nat) :
    MemoryStore.failureStreak (keepLast limit outcomes) =
      min limit (MemoryStore.failureStreak outcomes) := by
  have window : (keepLast limit outcomes).reverse = outcomes.reverse.take limit := by
    rw [keepLast, ← List.rtake, List.rtake_eq_reverse_take_reverse, List.reverse_reverse]
  rw [MemoryStore.failureStreak, window, ← List.take_takeWhile, List.length_take]
  rfl

/-- Two histories with the same outcomes in their windows. -/
structure SameWindow (memory : HistoryView) (files : RawHistoryView) : Prop where
  depth : memory.depth = files.depth
  rollingCostUsd : memory.rollingCostUsd = .finite files.rollingCostUsd
  lastN : memory.lastN.map shownStep = files.lastN.map shownRaw

variable {s : Both} {maxLines : Int} {outcomes : List RawOutcome} {chainId : String}

/-- While no file has been rotated there is a rotated file only where another chain has it for
    its active one. -/
theorem Agrees.unrotated (agrees : Agrees maxLines outcomes s)
    (apart : ∀ o ∈ outcomes, o.chainId ≠ chainId ++ ".1") :
    s.files.lines.getD (rotatedPath chainId) [] = [] := by
  rw [← (activePath_eq_rotatedPath_iff chainId (chainId ++ ".1")).mpr rfl]
  apply List.eq_nil_iff_forall_not_mem.mpr
  intro r member
  obtain ⟨o, among, own, _⟩ := agrees.written (chainId ++ ".1") r member
  exact apart o among own

theorem Agrees.linesRead (agrees : Agrees maxLines outcomes s)
    (apart : ∀ o ∈ outcomes, o.chainId ≠ chainId ++ ".1") (limit : Nat) :
    linesRead s.files chainId limit = s.files.lines.getD (activePath chainId) [] := by
  rw [VeronicaRecords.linesRead, agrees.unrotated apart]
  exact ite_self _

theorem Agrees.shown_loaded (agrees : Agrees maxLines outcomes s) (plain : ∀ o ∈ outcomes, Plain o)
    (apart : ∀ o ∈ outcomes, o.chainId ≠ chainId ++ ".1") (limit : Nat) :
    ∃ recent, s.files.loadRecentOutcomes chainId limit = .ok recent ∧
      recent.map shownRaw =
        (keepLast limit (outcomesOf s.memory chainId)).map shownStep := by
  have each : ∀ r ∈ s.files.lines.getD (activePath chainId) [],
      ∃ o, r.read = .ok o ∧ shownRaw o = (r.stepId, r.status, r.costUsd) := by
    intro r member
    obtain ⟨o, among, _, rfl⟩ := agrees.written chainId r member
    obtain ⟨cost, time, fits⟩ := plain o among
    exact shown_read cost time fits
  obtain ⟨all, read, shown⟩ := shown_lines each
  refine ⟨all.rtake limit, load_ok_iff.mpr ⟨all, ?_, rfl⟩, ?_⟩
  · rw [agrees.linesRead apart, read]
  · rw [keepLast, ← List.rtake, agrees.lines, List.rtake, List.rtake, List.map_drop, shown,
      readLines_length read, List.map_drop, List.map_map, List.length_map]
    rfl

theorem rollingCost_eq_of_shown {first : List StepOutcome} {second : List RawOutcome}
    (same : first.map shownStep = second.map shownRaw) :
    MemoryStore.rollingCost first = (second.map fun o => o.costUsd.finiteOrZero).sum := by
  have costs := congrArg (List.map fun shown : Shown => shown.2.2.finiteOrZero) same
  rw [List.map_map, List.map_map] at costs
  exact congrArg List.sum costs

theorem memory_view (store : MemoryStore) (safe : isSafeChainId chainId = true) {limit : Nat}
    (least : 1 ≤ limit) (most : limit ≤ maxHistoryLimit) :
    buildHistoryOf store chainId limit =
      .ok (viewOf chainId (keepLast limit (outcomesOf store chainId))) := by
  have clamped : (max 1 (min (limit : Int) maxOutcomesPerChain)).toNat = limit := by
    have same : maxOutcomesPerChain = maxHistoryLimit := rfl
    omega
  rw [buildHistoryOf, if_pos safe, clamped]

theorem files_view (files : RecordStore) (safe : isSafeChainId chainId = true) {limit : Nat}
    (least : 1 ≤ limit) (most : limit ≤ maxHistoryLimit) {recent : List RawOutcome}
    (loaded : files.loadRecentOutcomes chainId limit = .ok recent) :
    ∃ view, files.buildHistory chainId limit = .ok view ∧ view.lastN = recent ∧
      view.depth = recent.length ∧
      view.rollingCostUsd = (recent.map fun o => o.costUsd.finiteOrZero).sum ∧
      view.failureStreak = (files.statsOf chainId).failureStreak := by
  have clamped : (max 1 (min (limit : Int) maxHistoryLimit)).toNat = limit := by omega
  simp only [RecordStore.buildHistory, safe, if_true, clamped, loaded]
  exact ⟨_, rfl, rfl, rfl, rfl, rfl⟩

end Windows

/-- With fewer commits on a chain than its file has lines both stores show the same outcomes for
    every window. FileStore counts all failures in a row, MemoryStore those in the window. -/
theorem stores_agree (flushInterval : Nat) {maxLines : Int} {outcomes : List RawOutcome}
    (plain : ∀ o ∈ outcomes, Plain o) (few : Few maxLines outcomes) {chainId : String}
    (safe : isSafeChainId chainId = true)
    (apart : ∀ o ∈ outcomes, o.chainId ≠ chainId ++ ".1") {limit : Nat} (least : 1 ≤ limit)
    (most : limit ≤ maxHistoryLimit) :
    let s := Runs.run commitBoth (openedBoth flushInterval maxLines) outcomes
    ∃ memory files, buildHistoryOf s.memory chainId limit = .ok memory ∧
      s.files.buildHistory chainId limit = .ok files ∧ SameWindow memory files ∧
      memory.failureStreak = min limit files.failureStreak := by
  intro s
  have agrees : Agrees maxLines outcomes s := agrees_run flushInterval few
  obtain ⟨recent, loaded, shown⟩ := agrees.shown_loaded plain apart limit
  obtain ⟨files, built, lastN, depth, rolling, streak⟩ :=
    files_view s.files safe least most loaded
  refine ⟨_, files, memory_view s.memory safe least most, built, ⟨?_, ?_, ?_⟩, ?_⟩
  · rw [depth]
    have sizes := congrArg List.length shown
    rw [List.length_map, List.length_map] at sizes
    exact sizes.symm
  · rw [rolling]
    exact congrArg PyFloat.finite (rollingCost_eq_of_shown shown.symm)
  · rw [lastN]
    exact shown.symm
  · rw [streak, agrees.streak]
    exact failureStreak_keepLast _ limit

def failed (stepId : String) : RawOutcome where
  stepId := stepId
  requestId := "request"
  chainId := "chain"
  kind := .llm
  status := .error
  costUsd := .finite (1 / 2)
  tokensIn := 10
  tokensOut := 10
  elapsedMs := .finite 10
  model := none
  events := []
  timestampMs := .finite 1740000000000

theorem two_failures_agree :
    let s := Runs.run commitBoth (openedBoth 10 10000) [failed "first", failed "second"]
    ∃ memory files, buildHistoryOf s.memory "chain" (1 : Nat) = .ok memory ∧
      s.files.buildHistory "chain" (1 : Nat) = .ok files ∧ SameWindow memory files ∧
      memory.failureStreak = min 1 files.failureStreak :=
  stores_agree 10 (by decide +kernel) (by decide) (by decide) (by decide) (by decide) (by decide)

/-- Two failures seen through a window of one: MemoryStore counts one, FileStore two. -/
theorem short_window_streaks_differ :
    let outcomes := [failed "first", failed "second"]
    let s := Runs.run commitBoth (openedBoth 10 10000) outcomes
    (∀ o ∈ outcomes, Plain o) ∧ Few 10000 outcomes ∧
      (∀ o ∈ outcomes, o.chainId ≠ "chain" ++ ".1") ∧
      ¬ ∃ memory files, buildHistoryOf s.memory "chain" (1 : Nat) = .ok memory ∧
        s.files.buildHistory "chain" (1 : Nat) = .ok files ∧
        memory.failureStreak = files.failureStreak := by
  intro outcomes s
  refine ⟨by decide +kernel, by decide, by decide, ?_⟩
  rintro ⟨memory, files, shownMemory, shownFiles, same⟩
  have one : memory.failureStreak = 1 := by
    cases shownMemory
    rfl
  have two : (s.files.buildHistory "chain" (1 : Nat)).toOption.map
      (fun view => view.failureStreak) =
      some 2 := by decide +kernel
  rw [shownFiles] at two
  have counted : files.failureStreak = 2 := Option.some.inj two
  rw [one, counted] at same
  cases same

end VeronicaAgreement
