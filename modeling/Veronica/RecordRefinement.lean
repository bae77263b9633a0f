import Veronica.RecordStore
import Veronica.Library.Runs

/- FileStore with its files taken as lists of outcomes is what the store of JSON records does,
   as long as a double holds every timestamp. -/
namespace VeronicaRecords
open VeronicaTypes VeronicaStages VeronicaFileStore

section Reading
variable {N : Type} [FloatField N] {r : OutcomeRecord N} {o : RawOutcome N}

/-- What the reader should give back of an outcome. -/
def RawOutcome.cleaned (o : RawOutcome N) : RawOutcome where
  stepId := o.stepId
  requestId := o.requestId
  chainId := o.chainId
  kind := o.kind
  status := o.status
  costUsd := .finite (max 0 (FloatField.value o.costUsd).finiteOrZero)
  tokensIn := max 0 o.tokensIn
  tokensOut := max 0 o.tokensOut
  elapsedMs := .finite (max 0 (FloatField.value o.elapsedMs).finiteOrZero)
  model := o.model
  timestampMs := .finite o.timestampMs.finiteOrZero
  events := []

/-- `float(x)` has the value of x, but for what is cut off at 0. -/
def GivenBack (x : N) : Prop :=
  ∃ y, FloatField.toFloat x = .ok y ∧
    max 0 y.finiteOrZero = max 0 (FloatField.value x).finiteOrZero

theorem givenBack_float (x : PyFloat) : GivenBack x := ⟨x, rfl, rfl⟩

/-- A number that is not finite, or a whole one of which a double has the value. -/
def HeldWhole : PyFloat → Prop
  | .finite q => q.den = 1 ∧ Doubles.Held q.num
  | _ => True

instance : ∀ x, Decidable (HeldWhole x)
  | .finite _ => inferInstanceAs (Decidable (_ ∧ _))
  | .inf | .negInf | .nan => inferInstanceAs (Decidable True)

theorem truncate_intCast (n : Int) : truncate n = n := by
  simp [truncate]

theorem eq_num_of_den {q : ℚ} (whole : q.den = 1) : q = (q.num : Int) :=
  ((Rat.den_eq_one_iff q).mp whole).symm

theorem truncated_float_iff (x : PyFloat) :
    (∃ y, floatOf x = .ok y ∧ (truncate y.finiteOrZero : ℚ) = x.finiteOrZero) ↔ HeldWhole x := by
  cases x with
  | finite q =>
    simp only [floatOf, HeldWhole, PyFloat.finiteOrZero_finite]
    by_cases whole : q.den = 1
    · rw [if_pos whole, and_iff_right whole, ← Doubles.ofInt_eq_self_iff]
      have value := eq_num_of_den whole
      constructor
      · rintro ⟨y, read, same⟩
        obtain ⟨n, rounded, rfl⟩ := except_map_ok.mp read
        rw [PyFloat.finiteOrZero_finite, truncate_intCast, value] at same
        rw [rounded, Int.cast_inj.mp same]
      · intro rounded
        refine ⟨_, by rw [rounded]; rfl, ?_⟩
        rw [PyFloat.finiteOrZero_finite, truncate_intCast]
        exact value.symm
    · rw [if_neg whole]
      refine iff_of_false ?_ fun held => whole held.1
      rintro ⟨y, read, same⟩
      cases read
      rw [PyFloat.finiteOrZero_finite] at same
      apply whole
      rw [← same]
      exact Rat.den_intCast _
  | inf => exact iff_of_true ⟨.inf, rfl, by norm_num [truncate, PyFloat.finiteOrZero]⟩ trivial
  | negInf => exact iff_of_true ⟨.negInf, rfl, by norm_num [truncate, PyFloat.finiteOrZero]⟩ trivial
  | nan => exact iff_of_true ⟨.nan, rfl, by norm_num [truncate, PyFloat.finiteOrZero]⟩ trivial

/-- A line gives the cleaned outcome back exactly when its three numbers are given back. -/
theorem read_cleaned_iff (o : RawOutcome N) : o.toOutcomeRecord.read = .ok o.cleaned ↔
    GivenBack o.costUsd ∧ GivenBack o.elapsedMs ∧ HeldWhole o.timestampMs := by
  simp only [← truncated_float_iff, OutcomeRecord.read, except_bind_ok]
  constructor
  · rintro ⟨cost, costOk, elapsed, elapsedOk, time, timeOk, same⟩
    simp only [RawOutcome.cleaned, Except.ok.injEq, RawOutcome.mk.injEq, OutcomeRecord.mk.injEq,
      PyFloat.finite.injEq, true_and, and_true] at same
    exact ⟨⟨cost, costOk, same.1⟩, ⟨elapsed, elapsedOk, same.2.1⟩, time, timeOk, same.2.2⟩
  · rintro ⟨⟨cost, costOk, sameCost⟩, ⟨elapsed, elapsedOk, sameElapsed⟩, time, timeOk, sameTime⟩
    refine ⟨cost, costOk, elapsed, elapsedOk, time, timeOk, ?_⟩
    rw [RawOutcome.cleaned, sameCost, sameElapsed, sameTime]

theorem readLines_ok {f : OutcomeRecord N → RawOutcome} {lines : List (OutcomeRecord N)}
    (each : ∀ r ∈ lines, r.read = .ok (f r)) : readLines lines = .ok (lines.map f) := by
  induction lines with
  | nil => rfl
  | cons r rest ih =>
    have first := each r List.mem_cons_self
    have later := ih fun r member => each r (List.mem_cons_of_mem _ member)
    rw [readLines] at later ⊢
    rw [List.mapM_cons, first, later]
    rfl

theorem readLines_append {first second : List (OutcomeRecord N)} {outcomes : List RawOutcome} :
    readLines (first ++ second) = .ok outcomes ↔ ∃ earlier later,
      readLines first = .ok earlier ∧ readLines second = .ok later ∧
        outcomes = earlier ++ later := by
  simp only [readLines, List.mapM_append, except_bind_ok]
  constructor
  · rintro ⟨earlier, ok, later, ok', same⟩
    exact ⟨earlier, later, ok, ok', (Except.ok.inj same).symm⟩
  · rintro ⟨earlier, later, ok, ok', rfl⟩
    exact ⟨earlier, ok, later, ok', rfl⟩

theorem readLines_length {lines : List (OutcomeRecord N)} {outcomes : List RawOutcome}
    (read : readLines lines = .ok outcomes) : outcomes.length = lines.length := by
  induction lines generalizing outcomes with
  | nil =>
    cases read
    rfl
  | cons r rest ih =>
    rw [readLines, List.mapM_cons, except_bind_ok] at read
    obtain ⟨first, _, read⟩ := read
    obtain ⟨later, ok, same⟩ := except_bind_ok.mp read
    cases same
    rw [List.length_cons, List.length_cons, ih ok]

theorem last_read {lines : List (OutcomeRecord N)} {outcomes : List RawOutcome}
    {r : OutcomeRecord N} (read : readLines lines = .ok outcomes) (last : lines.rtake 1 = [r]) :
    ∃ o, r.read = .ok o ∧ outcomes.rtake 1 = [o] := by
  have split : lines = lines.take (lines.length - 1) ++ [r] := by
    rw [← last, List.rtake, List.take_append_drop]
  rw [split, readLines_append] at read
  obtain ⟨earlier, later, _, single, rfl⟩ := read
  rw [readLines, List.mapM_cons, except_bind_ok] at single
  obtain ⟨o, readO, same⟩ := single
  cases same
  exact ⟨o, readO, by simp [List.rtake_concat_succ]⟩

/-- A line with nothing but what the reader keeps of it. -/
def OutcomeRecord.cleaned (r : OutcomeRecord N) : RawOutcome :=
  ({ r with events := [] } : RawOutcome N).cleaned

end Reading

section Loading
variable {N : Type} [FloatField N] {s : RecordStore N} {chainId : String} {limit : Nat}

/-- The lines `_load_recent_outcomes` reads. -/
def linesRead (s : RecordStore N) (chainId : String) (limit : Nat) : List (OutcomeRecord N) :=
  let active := s.lines.getD (activePath chainId) []
  if active.length < limit then s.lines.getD (rotatedPath chainId) [] ++ active else active

theorem load_ok_iff {outcomes : List RawOutcome} :
    s.loadRecentOutcomes chainId limit = .ok outcomes ↔
      ∃ all, readLines (linesRead s chainId limit) = .ok all ∧ outcomes = all.rtake limit := by
  unfold RecordStore.loadRecentOutcomes linesRead RecordStore.readOutcomes
  rw [except_bind_ok]
  by_cases short : (s.lines.getD (activePath chainId) []).length < limit
  · simp only [short, if_true, readLines_append]
    constructor
    · rintro ⟨active, read, rest⟩
      rw [if_pos (by rwa [readLines_length read]), except_bind_ok] at rest
      obtain ⟨older, read', same⟩ := rest
      exact ⟨_, ⟨older, active, read', read, rfl⟩, (Except.ok.inj same).symm⟩
    · rintro ⟨_, ⟨older, active, read', read, rfl⟩, rfl⟩
      refine ⟨active, read, ?_⟩
      rw [if_pos (by rwa [readLines_length read]), except_bind_ok]
      exact ⟨older, read', rfl⟩
  · simp only [short, if_false]
    refine exists_congr fun active => and_congr_right fun read => ?_
    rw [if_neg (by rwa [readLines_length read]), Except.ok.injEq, eq_comm]

/-- With numbers that are given back the reader gives back the cleaned lines. -/
theorem load_held (held : ∀ r ∈ linesRead s chainId limit,
      GivenBack r.costUsd ∧ GivenBack r.elapsedMs ∧ HeldWhole r.timestampMs) :
    s.loadRecentOutcomes chainId limit =
      .ok (((linesRead s chainId limit).rtake limit).map OutcomeRecord.cleaned) := by
  have each : ∀ r ∈ linesRead s chainId limit, r.read = .ok r.cleaned := fun r member =>
    (read_cleaned_iff { r with events := [] }).mpr (held r member)
  refine load_ok_iff.mpr ⟨_, readLines_ok each, ?_⟩
  rw [List.rtake, List.rtake, List.length_map, List.map_drop]

theorem history_loaded {limit : Int} {view : RawHistoryView}
    (built : s.buildHistory chainId limit = .ok view) :
    s.loadRecentOutcomes chainId (max 1 (min limit maxHistoryLimit)).toNat =
      .ok view.lastN := by
  unfold RecordStore.buildHistory at built
  split at built
  · obtain ⟨recent, loaded, rfl⟩ := except_map_ok.mp built
    exact loaded
  · cases built

theorem history_ok (safe : isSafeChainId chainId = true) {recent : List RawOutcome} {limit : Int}
    (loaded : s.loadRecentOutcomes chainId (max 1 (min limit maxHistoryLimit)).toNat =
      .ok recent) : ∃ view, s.buildHistory chainId limit = .ok view ∧ view.lastN = recent := by
  simp only [RecordStore.buildHistory, safe, if_true, loaded]
  exact ⟨_, rfl, rfl⟩

end Loading

section Committing
variable {N : Type} [FloatField N] (s : RecordStore N) (o : RawOutcome N)

theorem accept_lines : (s.accept o).lines = RotatedLog.write s.lines (activePath o.chainId)
    (rotatedPath o.chainId) o.toOutcomeRecord (s.fills o.chainId) := by
  unfold RecordStore.accept
  split <;> rfl

theorem accept_chainStats : (s.accept o).chainStats = (s.locked o).chainStats := by
  unfold RecordStore.accept
  split <;> rfl

theorem accept_statsDocs : (s.accept o).statsDocs = match s.flushData o with
    | some flush => s.statsDocs.set flush.1 flush.2
    | none => s.statsDocs := by
  unfold RecordStore.accept
  cases s.flushData o <;> rfl

theorem accept_settings : (s.accept o).flushInterval = s.flushInterval ∧
    (s.accept o).maxLines = s.maxLines ∧ (s.accept o).budgetCeiling = none ∧
    (s.accept o).budgetRemaining = none := by
  unfold RecordStore.accept
  split <;> exact ⟨rfl, rfl, rfl, rfl⟩

theorem accept_statsOf (c : String) :
    (s.accept o).statsOf c = if c = o.chainId then
        { s.updatedStats o.toOutcomeRecord with
          commitsSinceRotate := if s.fills o.chainId then 0
            else (s.updatedStats o.toOutcomeRecord).commitsSinceRotate + 1 }
      else s.statsOf c := by
  rw [RecordStore.statsOf, accept_chainStats, RecordStore.locked, Dict.getD, Dict.get?_set]
  split <;> rfl

theorem updatedStats_counted (r : OutcomeRecord N) :
    (s.updatedStats r).commitsSinceRotate = (s.statsOf r.chainId).commitsSinceRotate := by
  rw [RecordStore.updatedStats, consume_eq]
  rfl

theorem commit_floats (s : RecordStore) (o : RawOutcome) :
    s.commit o = match s.refusal o.chainId with
      | some e => (s, .error e)
      | none => (s.accept o, .ok ()) := rfl

end Committing

theorem statsPath_inj {c d : String} : statsPath c = statsPath d ↔ c = d :=
  String.append_left_inj "_stats.json"

/-- The store of outcomes a store of records stands for. -/
structure Refines (s : RecordStore) (fs : FileStore) : Prop where
  flushInterval : fs.flushInterval = s.flushInterval
  maxLines : fs.maxLines = s.maxLines
  files : ∀ path, fs.files.get? path = (s.lines.get? path).map (List.map OutcomeRecord.plain)
  statsDocs : ∀ c, s.statsDocs.get? (statsPath c) = (fs.statsFiles.get? c).map ChainStats.toDict
  chainStats : fs.chainStats = s.chainStats
  budgetCeiling : fs.budgetCeiling = s.budgetCeiling
  budgetRemaining : fs.budgetRemaining = s.budgetRemaining

section Refinement
variable {s : RecordStore} {fs : FileStore}

theorem refines_new (flushInterval : Nat) (maxLines : Int) :
    Refines { flushInterval, maxLines } { flushInterval, maxLines } :=
  ⟨rfl, rfl, fun _ => rfl, fun _ => rfl, rfl, rfl, rfl⟩

theorem Refines.refusal (refines : Refines s fs) (chainId : String) :
    fs.refusal chainId = s.refusal chainId := by
  simp only [FileStore.refusal, RecordStore.refusal, refines.chainStats]

theorem Refines.updatedStats (refines : Refines s fs) (r : OutcomeRecord) :
    fs.updatedStats r.plain = s.updatedStats r := by
  simp only [FileStore.updatedStats, RecordStore.updatedStats, FileStore.statsOf,
    RecordStore.statsOf, refines.chainStats, refines.budgetCeiling, refines.budgetRemaining]
  rfl

theorem Refines.fills (refines : Refines s fs) (chainId : String) :
    s.fills chainId = decide (fs.Rotates chainId) := by
  simp only [RecordStore.fills, FileStore.Rotates, FileStore.statsOf, RecordStore.statsOf,
    refines.chainStats, refines.maxLines]
  rfl

theorem rotate_eq (files : Dict String (List FileOutcome)) (chainId : String) :
    FileStore.rotate files chainId =
      RotatedLog.rotate files (activePath chainId) (rotatedPath chainId) := by
  unfold FileStore.rotate RotatedLog.rotate
  cases files.get? (activePath chainId) <;> rfl

theorem Refines.accept_files (refines : Refines s fs) (o : RawOutcome) (path : String) :
    (fs.accept o.plain).files.get? path =
      ((s.accept o).lines.get? path).map (List.map OutcomeRecord.plain) := by
  have written := RotatedLog.write_map refines.files (activePath o.chainId)
    (rotatedPath o.chainId) o.toOutcomeRecord (s.fills o.chainId) path
  rw [accept_lines, ← written, VeronicaFileStore.accept_files, refines.fills]
  show _ = (RotatedLog.write fs.files (activePath o.chainId) (rotatedPath o.chainId) o.plain
    (decide (fs.Rotates o.chainId))).get? path
  by_cases rotates : fs.Rotates o.chainId
  · rw [decide_eq_true rotates, if_pos (show fs.Rotates o.plain.chainId from rotates), rotate_eq]
    rfl
  · rw [decide_eq_false rotates, if_neg (show ¬ fs.Rotates o.plain.chainId from rotates)]
    rfl

theorem Refines.accept_statsDocs (refines : Refines s fs) (o : RawOutcome) (c : String) :
    (s.accept o).statsDocs.get? (statsPath c) =
      ((fs.accept o.plain).statsFiles.get? c).map ChainStats.toDict := by
  have stats := refines.updatedStats o.toOutcomeRecord
  have chain : o.plain.chainId = o.chainId := rfl
  rw [VeronicaRecords.accept_statsDocs]
  simp only [RecordStore.flushData, FileStore.accept, stats, refines.flushInterval, chain]
  split
  · rename_i flush found
    split at found
    · rename_i due
      cases found
      simp only [due, if_true, Dict.get?_set, statsPath_inj]
      split
      · rfl
      · exact refines.statsDocs c
    · cases found
  · rename_i found
    split at found
    · cases found
    · rename_i idle
      rw [if_neg idle]
      exact refines.statsDocs c

theorem Refines.accept (refines : Refines s fs) (o : RawOutcome) :
    Refines (s.accept o) (fs.accept o.plain) := by
  obtain ⟨flushInterval, maxLines, ceiling, remaining⟩ := accept_settings s o
  refine ⟨refines.flushInterval.trans flushInterval.symm, refines.maxLines.trans maxLines.symm,
    refines.accept_files o, refines.accept_statsDocs o, ?_, ceiling.symm, remaining.symm⟩
  have stats := refines.updatedStats o.toOutcomeRecord
  have chain : o.plain.chainId = o.chainId := rfl
  have counted : (s.updatedStats o.toOutcomeRecord).commitsSinceRotate =
      (s.statsOf o.chainId).commitsSinceRotate := updatedStats_counted s o.toOutcomeRecord
  rw [accept_chainStats]
  simp only [FileStore.accept, RecordStore.locked, RecordStore.fills, stats, counted, chain,
    refines.chainStats, refines.maxLines, decide_eq_true_eq]

theorem Refines.commit (refines : Refines s fs) (o : RawOutcome) :
    Refines (s.commit o).1 (fs.commit o.plain).1 ∧ (s.commit o).2 = (fs.commit o.plain).2 := by
  have refusal : fs.refusal o.plain.chainId = s.refusal o.chainId := refines.refusal o.chainId
  simp only [commit_floats, FileStore.commit, refusal]
  cases s.refusal o.chainId with
  | some e => exact ⟨refines, rfl⟩
  | none => exact ⟨refines.accept o, rfl⟩

/-- After any sequence of commits the store of outcomes is the one the records stand for. -/
theorem refines_run (flushInterval : Nat) (maxLines : Int) (outcomes : List RawOutcome) :
    Refines
      (Runs.run (fun s o => (RecordStore.commit s o).1) { flushInterval, maxLines } outcomes)
      (Runs.run (fun fs o => (FileStore.commit fs o).1) { flushInterval, maxLines }
        (outcomes.map fun o => o.plain)) := by
  refine Runs.run_simulated ?_ outcomes (refines_new flushInterval maxLines)
  intro s fs o refines
  exact (refines.commit o).1

/-- The history of the records, with each outcome cut to what FileStore keeps of it. -/
def RawHistoryView.plain (view : RawHistoryView) : FileHistoryView where
  chainId := view.chainId
  lastN := view.lastN.map fun o => o.plain
  rollingCostUsd := view.rollingCostUsd
  failureStreak := view.failureStreak
  depth := view.depth
  loopScore := view.loopScore
  successStreak := view.successStreak
  costPerStepEma := view.costPerStepEma
  costPerStepEmaByModel := view.costPerStepEmaByModel
  latencyEmaMs := view.latencyEmaMs
  budgetHeadroomRatio := view.budgetHeadroomRatio

theorem Refines.loadRecentOutcomes (refines : Refines s fs) (chainId : String) (limit : Nat) :
    fs.loadRecentOutcomes chainId limit =
      (((linesRead s chainId limit).rtake limit).map OutcomeRecord.cleaned).map
        fun o => o.plain := by
  have read : ∀ path, fs.readOutcomes path =
      ((s.lines.getD path []).map OutcomeRecord.cleaned).map fun o => o.plain := by
    intro path
    rw [FileStore.readOutcomes, RotatedLog.getD_map refines.files, List.map_map, List.map_map]
    rfl
  simp only [FileStore.loadRecentOutcomes, read, List.length_map, linesRead, FileStore.lastOf]
  split
  · simp only [List.rtake, List.map_append, List.map_drop, List.length_append, List.length_map]
  · simp only [List.rtake, List.map_drop, List.length_map]

theorem Refines.buildHistory (refines : Refines s fs) {chainId : String} {limit : Int}
    (held : ∀ r ∈ linesRead s chainId (max 1 (min limit maxHistoryLimit)).toNat,
      HeldWhole r.timestampMs) :
    (s.buildHistory chainId limit).map RawHistoryView.plain = fs.buildHistory chainId limit := by
  have stats : fs.statsOf chainId = s.statsOf chainId := by
    rw [FileStore.statsOf, RecordStore.statsOf, refines.chainStats]
  unfold RecordStore.buildHistory FileStore.buildHistory
  have given : ∀ r ∈ linesRead s chainId (max 1 (min limit maxHistoryLimit)).toNat,
      GivenBack r.costUsd ∧ GivenBack r.elapsedMs ∧ HeldWhole r.timestampMs := fun r member =>
    ⟨givenBack_float _, givenBack_float _, held r member⟩
  rw [load_held given, refines.loadRecentOutcomes, stats]
  split
  · simp only [Except.map, RawHistoryView.plain, List.length_map, List.map_map, Except.ok.injEq,
      FileHistoryView.mk.injEq, true_and, and_true]
    rfl
  · rfl

end Refinement

end VeronicaRecords
