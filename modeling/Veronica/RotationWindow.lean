import Veronica.RecordRefinement
import Veronica.Library.Runs

/- What a history shows of one chain while its file is rotated again and again: the outcomes
   committed last, for every window up to the size of a file. -/
namespace VeronicaRotation
open VeronicaTypes VeronicaStages VeronicaFileStore VeronicaRecords

/-- The cost and the time of an outcome are numbers as callers hand them on. -/
abbrev Store := RecordStore PyNumber
abbrev Outcome := RawOutcome PyNumber

def commitStep (s : Store) (o : Outcome) : Store := (s.commit o).1

def opened (flushInterval maxLines : Nat) : Store :=
  { flushInterval, maxLines := maxLines }

/-- The history shows the last committed outcomes, cleaned. -/
def RecentKept (s : Store) (chainId : String) (committed : List Outcome) (limit : Nat) : Prop :=
  ∃ view, s.buildHistory chainId limit = .ok view ∧
    view.lastN = (committed.rtake limit).map RawOutcome.cleaned

/-- A float; or an int of which a double has the value, or one that is cut off at 0 once it is
    a double. -/
def HeldNumber : PyNumber → Prop
  | .int n => -PyVal.floatLimit < n ∧ (0 ≤ n → Doubles.Held n)
  | .float _ => True

instance : ∀ x, Decidable (HeldNumber x)
  | .int _ => inferInstanceAs (Decidable (_ ∧ _))
  | .float _ => inferInstanceAs (Decidable True)

/-- Doubles hold the numbers of an outcome, as far as they are kept. -/
def HeldOutcome (o : Outcome) : Prop :=
  HeldNumber o.costUsd ∧ HeldNumber o.elapsedMs ∧ HeldWhole o.timestampMs

instance (o : Outcome) : Decidable (HeldOutcome o) := inferInstanceAs (Decidable (_ ∧ _ ∧ _))

/-- The files of the chain hold what was committed, and no other chain is known. -/
structure Logged (chainId : String) (size : Nat) (committed : List Outcome) (s : Store) :
    Prop where
  maxLines : s.maxLines = size
  holds : RotatedLog.Holds size (committed.map RawOutcome.toOutcomeRecord)
    (s.lines.getD (activePath chainId) []) (s.lines.getD (rotatedPath chainId) [])
  counted : (s.statsOf chainId).commitsSinceRotate =
    (s.lines.getD (activePath chainId) []).length
  alone : ∀ c stats, s.chainStats.get? c = some stats → c = chainId

section Numbers

theorem max_nearest_iff (n : Int) :
    max 0 (Doubles.nearest n) = max 0 n ↔ (0 ≤ n → Doubles.unit n ∣ n) := by
  have sign := Doubles.nearest_nonneg_iff n
  rw [← Doubles.nearest_eq_self_iff]
  omega

theorem givenBack_iff (x : PyNumber) : GivenBack x ↔ HeldNumber x := by
  cases x with
  | int n =>
    have range : (∃ y, FloatField.toFloat (.int n : PyNumber) = .ok y ∧
        max 0 y.finiteOrZero = max 0 (FloatField.value (.int n : PyNumber)).finiteOrZero) ↔
        (n < PyVal.floatLimit ∧ -PyVal.floatLimit < n) ∧
          max 0 (Doubles.nearest n) = max 0 n := by
      simp only [FloatField.toFloat, FloatField.value, except_map_ok, Doubles.ofInt]
      constructor
      · rintro ⟨y, ⟨m, made, rfl⟩, same⟩
        split at made
        · rename_i fits
          cases made
          rw [PyFloat.finiteOrZero_finite, PyFloat.finiteOrZero_finite] at same
          exact ⟨fits, by exact_mod_cast same⟩
        · cases made
      · rintro ⟨fits, same⟩
        refine ⟨_, ⟨_, if_pos fits, rfl⟩, ?_⟩
        rw [PyFloat.finiteOrZero_finite, PyFloat.finiteOrZero_finite]
        exact_mod_cast same
    rw [GivenBack, range, max_nearest_iff]
    constructor
    · rintro ⟨⟨below, above⟩, divides⟩
      exact ⟨above, fun nonneg => ⟨below, above, divides nonneg⟩⟩
    · rintro ⟨above, held⟩
      refine ⟨⟨?_, above⟩, fun nonneg => (held nonneg).2.2⟩
      rcases le_or_gt 0 n with nonneg | negative
      · exact (held nonneg).1
      · exact negative.trans PyVal.floatLimit_pos
  | float x => exact iff_of_true ⟨x, rfl, rfl⟩ trivial

theorem read_held_iff (o : Outcome) :
    o.toOutcomeRecord.read = .ok o.cleaned ↔ HeldOutcome o := by
  rw [read_cleaned_iff, givenBack_iff, givenBack_iff]
  rfl

theorem checkNumbers_of_read {r : OutcomeRecord PyNumber} {o : RawOutcome}
    (read : r.read = .ok o) : r.checkNumbers = .ok () := by
  rw [OutcomeRecord.read, except_bind_ok] at read
  obtain ⟨cost, costOk, read⟩ := read
  obtain ⟨elapsed, elapsedOk, _⟩ := except_bind_ok.mp read
  rw [OutcomeRecord.checkNumbers, costOk, elapsedOk]
  rfl

end Numbers

section Steps
variable {s : Store} {chainId : String} {size : Nat} {committed : List Outcome}

theorem Logged.unrefused (logged : Logged chainId size committed s)
    (safe : isSafeChainId chainId = true) : s.refusal chainId = none := by
  rw [RecordStore.refusal, if_neg (by simp [safe]), if_neg]
  rintro ⟨unknown, full⟩
  have empty : s.chainStats = ∅ := by
    apply Dict.eq_empty_of_get?
    intro c
    cases found : s.chainStats.get? c with
    | none => rfl
    | some stats =>
      rw [logged.alone c stats found] at found
      rw [found] at unknown
      cases unknown
  rw [empty] at full
  exact absurd full (by decide)

/-- A commit is taken when its numbers are not too large; else only its line is written. -/
theorem Logged.commits (logged : Logged chainId size committed s) {o : Outcome}
    (safe : isSafeChainId chainId = true) (own : o.chainId = chainId) :
    commitStep s o = if o.checkNumbers = .ok () then s.accept o else s.interrupted o := by
  have refusal := logged.unrefused safe
  subst own
  rw [commitStep, RecordStore.commit, refusal]
  cases o.checkNumbers with
  | error e => rfl
  | ok checked => rfl

theorem logged_accept (logged : Logged chainId size committed s) {o : Outcome}
    (own : o.chainId = chainId) : Logged chainId size (committed ++ [o]) (s.accept o) := by
  subst own
  have fills : s.fills o.chainId =
      decide (size ≤ (s.lines.getD (activePath o.chainId) []).length + 1) := by
    rw [RecordStore.fills, logged.counted, logged.maxLines]
    simp only [Nat.cast_le]
  have apart := activePath_ne_rotatedPath o.chainId
  have active := RotatedLog.write_active s.lines o.toOutcomeRecord (s.fills o.chainId) apart
  have rotated := RotatedLog.write_rotated s.lines o.toOutcomeRecord (s.fills o.chainId) apart
  constructor
  case maxLines => exact (accept_settings s o).2.1.trans logged.maxLines
  case holds =>
    rw [accept_lines, active, rotated, fills, List.map_append, List.map_singleton]
    simp only [decide_eq_true_eq]
    split
    · rename_i full
      exact logged.holds.moved _ full
    · rename_i short
      exact logged.holds.appended _ (not_le.mp short)
  case counted =>
    rw [accept_statsOf, if_pos rfl, accept_lines, active, updatedStats_counted, logged.counted]
    split
    · rfl
    · rw [List.length_append, List.length_singleton]
  case alone =>
    rw [accept_chainStats]
    exact Dict.forall_set rfl logged.alone

theorem logged_commit (logged : Logged chainId size committed s) {o : Outcome}
    (safe : isSafeChainId chainId = true) (own : o.chainId = chainId) (held : HeldOutcome o) :
    Logged chainId size (committed ++ [o]) (commitStep s o) := by
  have checked := checkNumbers_of_read ((read_held_iff o).mpr held)
  rw [logged.commits safe own, if_pos checked]
  exact logged_accept logged own

theorem logged_run (safe : isSafeChainId chainId = true) (positive : 1 ≤ size)
    (flushInterval : Nat) (own : ∀ o ∈ committed, o.chainId = chainId)
    (held : ∀ o ∈ committed, HeldOutcome o) :
    Logged chainId size committed
      (Runs.run commitStep (opened flushInterval size) committed) := by
  induction committed using List.reverseRecOn with
  | nil =>
    constructor
    case maxLines => rfl
    case holds => exact RotatedLog.holds_none positive
    case counted => rfl
    case alone =>
      intro c stats found
      cases found
  | append_singleton earlier o ih =>
    have last : o ∈ earlier ++ [o] := List.mem_append_right _ List.mem_cons_self
    have logged := ih (fun o member => own o (List.mem_append_left _ member))
      fun o member => held o (List.mem_append_left _ member)
    rw [Runs.run_append]
    exact logged_commit logged safe (own o last) (held o last)

end Steps

section Windows
variable {s : Store} {chainId : String} {size limit : Nat} {committed : List Outcome}

theorem Logged.window (logged : Logged chainId size committed s) (fits : limit ≤ size) :
    (linesRead s chainId limit).rtake limit =
      (committed.rtake limit).map RawOutcome.toOutcomeRecord := by
  rw [linesRead, logged.holds.window fits, List.rtake, List.rtake, List.length_map, List.map_drop]

theorem Logged.written (logged : Logged chainId size committed s) :
    ∀ r ∈ linesRead s chainId limit, ∃ o ∈ committed, o.toOutcomeRecord = r := by
  intro r member
  have among : r ∈ s.lines.getD (rotatedPath chainId) [] ++
      s.lines.getD (activePath chainId) [] := by
    unfold linesRead at member
    dsimp only at member
    split at member
    · exact member
    · exact List.mem_append_right _ member
  exact List.mem_map.mp (logged.holds.latest.subset among)

theorem limit_eq (positive : 1 ≤ limit) (le : limit ≤ maxHistoryLimit) :
    (max 1 (min (limit : Int) maxHistoryLimit)).toNat = limit := by
  omega

theorem recentKept_of_held (logged : Logged chainId size committed s)
    (safe : isSafeChainId chainId = true) (positive : 1 ≤ limit) (fits : limit ≤ size)
    (le : limit ≤ maxHistoryLimit) (held : ∀ o ∈ committed, HeldOutcome o) :
    RecentKept s chainId committed limit := by
  have heldLines : ∀ r ∈ linesRead s chainId limit,
      GivenBack r.costUsd ∧ GivenBack r.elapsedMs ∧ HeldWhole r.timestampMs := by
    intro r member
    obtain ⟨o, among, rfl⟩ := logged.written r member
    rw [givenBack_iff, givenBack_iff]
    exact held o among
  have loaded := load_held heldLines
  rw [← limit_eq positive le] at loaded
  obtain ⟨view, built, shown⟩ := history_ok safe loaded
  refine ⟨view, built, ?_⟩
  rw [shown, limit_eq positive le, logged.window fits, List.map_map]
  rfl

theorem held_of_recentKept {o : Outcome} (logged : Logged chainId size (committed ++ [o]) s)
    (positive : 1 ≤ size) (kept : RecentKept s chainId (committed ++ [o]) 1) : HeldOutcome o := by
  obtain ⟨view, built, shown⟩ := kept
  have loaded := history_loaded built
  obtain ⟨all, read, recent⟩ := load_ok_iff.mp loaded
  rw [List.rtake_concat_succ, List.rtake_zero, List.nil_append, List.map_singleton] at shown
  have last := logged.window positive
  rw [List.rtake_concat_succ, List.rtake_zero, List.nil_append, List.map_singleton] at last
  obtain ⟨cleaned, readO, same⟩ := last_read read last
  have only : [cleaned] = [o.cleaned] := by
    rw [← same, ← shown, recent]
    rfl
  rw [List.singleton_inj.mp only] at readO
  exact (read_held_iff o).mp readO

theorem interrupted_unreadable {o : Outcome} (own : o.chainId = chainId)
    (interrupted : o.checkNumbers ≠ .ok ()) (committed : List Outcome) :
    ¬ RecentKept (s.interrupted o) chainId committed 1 := by
  rintro ⟨view, built, _⟩
  subst own
  have active := RotatedLog.write_active s.lines o.toOutcomeRecord false
    (activePath_ne_rotatedPath o.chainId)
  have lines : linesRead (s.interrupted o) o.chainId 1 =
      s.lines.getD (activePath o.chainId) [] ++ [o.toOutcomeRecord] := by
    rw [linesRead, RecordStore.interrupted, active]
    simp
  obtain ⟨all, read, _⟩ := load_ok_iff.mp (history_loaded built)
  obtain ⟨earlier, later, _, single, _⟩ := readLines_append.mp (lines ▸ read)
  obtain ⟨cleaned, readO, _⟩ := except_bind_ok.mp (by rwa [readLines, List.mapM_cons] at single)
  exact interrupted (checkNumbers_of_read readO)

/-- When everything before it is held and the last outcome is shown, it is held as well. -/
theorem held_of_shown (safe : isSafeChainId chainId = true) (positive : 1 ≤ size)
    (flushInterval : Nat) {o : Outcome} (own : ∀ p ∈ committed ++ [o], p.chainId = chainId)
    (held : ∀ p ∈ committed, HeldOutcome p)
    (shown : RecentKept (Runs.run commitStep (opened flushInterval size) (committed ++ [o]))
      chainId (committed ++ [o]) 1) : HeldOutcome o := by
  have logged := logged_run safe positive flushInterval
    (fun p member => own p (List.mem_append_left _ member)) held
  have ownLast := own o (List.mem_append_right _ List.mem_cons_self)
  have last : Runs.run commitStep (opened flushInterval size) (committed ++ [o]) =
      commitStep (Runs.run commitStep (opened flushInterval size) committed) o := by
    rw [Runs.run_append]
    rfl
  rw [last, logged.commits safe ownLast] at shown
  split at shown
  · exact held_of_recentKept (logged_accept logged ownLast) positive shown
  · rename_i interrupted
    exact absurd shown (interrupted_unreadable ownLast interrupted _)

end Windows

def outcomeAt (timestampMs : PyFloat) : Outcome where
  stepId := "step"
  requestId := "request"
  chainId := "chain"
  kind := .llm
  status := .ok
  costUsd := .float (.finite (1 / 2))
  tokensIn := 10
  tokensOut := 10
  elapsedMs := .int 10
  model := none
  events := []
  timestampMs := timestampMs

end VeronicaRotation
