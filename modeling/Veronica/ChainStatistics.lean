import Veronica.RecordRefinement
import Veronica.Library.MovingAverage
import Veronica.Library.Ranks
import Veronica.Library.Streaks

/- What the statistics of a chain say of the outcomes committed to it. The averages are taken
   twice: exactly, as the store of records takes them, and with every constant and operation
   rounded to a double. -/
namespace VeronicaStatistics
open VeronicaTypes VeronicaStages VeronicaFileStore VeronicaRecords

def safeCost (r : OutcomeRecord) : ℚ := r.costUsd.finiteOrZero
def safeElapsed (r : OutcomeRecord) : ℚ := r.elapsedMs.finiteOrZero
def keyOf (r : OutcomeRecord) : String := modelKey r.plain

/-- Whether the maps take the outcome: they have room, or its model already. -/
def Tracked (stats : ChainStats) (r : OutcomeRecord) : Prop :=
  stats.costEmaByModel.size < maxModelsPerChain ∨ keyOf r ∈ stats.costEmaByModel.keys

instance (stats : ChainStats) (r : OutcomeRecord) : Decidable (Tracked stats r) :=
  inferInstanceAs (Decidable (_ ∨ _))

/-- An entry of a map averaged with one more value. -/
def mixed (fl : ℚ → ℚ) (averages : Dict String ℚ) (key : String) (value : ℚ) : Dict String ℚ :=
  averages.set key (ema (averages.getD key 0) value fl)

/-- Steps 2 and 3 of `commit` in the arithmetic of `fl`. -/
def observeIn (fl : ℚ → ℚ) (stats : ChainStats) (r : OutcomeRecord) : ChainStats :=
  stats.observe r.plain fl

/-- The statistics of a chain with these outcomes. -/
def statsIn (fl : ℚ → ℚ) (outcomes : List OutcomeRecord) : ChainStats :=
  outcomes.foldl (observeIn fl) {}

theorem observeIn_eq (fl : ℚ → ℚ) (stats : ChainStats) (r : OutcomeRecord) :
    observeIn fl stats r = { stats.observe r.plain with
      costEma := ema stats.costEma (safeCost r) fl
      costEmaByModel := if Tracked stats r then
          mixed fl stats.costEmaByModel (keyOf r) (safeCost r)
        else stats.costEmaByModel
      latencyEmaByModel := if Tracked stats r then
          mixed fl stats.latencyEmaByModel (keyOf r) (safeElapsed r)
        else stats.latencyEmaByModel } := rfl

def largest (values : List ℚ) : ℚ := (values.map abs).foldl max 0

/-- From the smallest to the largest of the values, but for the rounding errors. -/
def Averages (relative absolute : ℚ) (values : List ℚ) (x : ℚ) : Prop :=
  let slack := 16 * (relative * largest values + absolute)
  (∃ v ∈ values, v - slack ≤ x) ∧ ∃ v ∈ values, x ≤ v + slack

/-- The values that were committed for a key. -/
def valuesFor (value : OutcomeRecord → ℚ) (key : String) (outcomes : List OutcomeRecord) : List ℚ :=
  (outcomes.filter fun r => keyOf r = key).map value

structure Summarises (relative absolute : ℚ) (outcomes : List OutcomeRecord)
    (stats : ChainStats) : Prop where
  totalCommits : stats.totalCommits = outcomes.length
  successStreak : stats.successStreak = Streaks.trailing (fun r => r.status = .ok) outcomes
  failureStreak : stats.failureStreak = Streaks.trailing (fun r => r.status ≠ .ok) outcomes
  unused : outcomes = [] → stats.costEma = 0
  costEma : outcomes ≠ [] → Averages relative absolute (outcomes.map safeCost) stats.costEma
  keys : stats.costEmaByModel.keys = stats.latencyEmaByModel.keys
  bounded : stats.costEmaByModel.size ≤ maxModelsPerChain
  costEmaByModel : ∀ key x, stats.costEmaByModel.get? key = some x →
    Averages relative absolute (valuesFor safeCost key outcomes) x
  latencyEmaByModel : ∀ key x, stats.latencyEmaByModel.get? key = some x →
    Averages relative absolute (valuesFor safeElapsed key outcomes) x

/-- Errors as small as this leave the averages between their values. -/
structure Fine (relative absolute : ℚ) : Prop where
  nonneg : 0 ≤ absolute
  smaller : absolute ≤ relative
  small : relative ≤ 1 / 1000
  belowEps : absolute ≤ eps / 2

section Averaging
variable {relative absolute : ℚ} {values : List ℚ} {x v : ℚ}

theorem largest_eq (values : List ℚ) : largest values = Ranks.best id 0 (values.map abs) :=
  Ranks.foldl_max_eq_best _ _

theorem largest_nonneg (values : List ℚ) : 0 ≤ largest values := by
  rw [largest_eq]
  exact Ranks.start_le_best id 0 _

theorem abs_le_largest (member : v ∈ values) : |v| ≤ largest values := by
  rw [largest_eq]
  exact Ranks.le_best id 0 (List.mem_map_of_mem member)

theorem largest_mono {more : List ℚ} (among : ∀ v ∈ values, v ∈ more) :
    largest values ≤ largest more := by
  have reached := Ranks.best_mem id 0 (values.map abs)
  rw [← largest_eq] at reached
  rcases List.mem_cons.mp reached with zero | some
  · rw [zero]
    exact largest_nonneg more
  · obtain ⟨v, member, size⟩ := List.mem_map.mp some
    rw [← size]
    exact abs_le_largest (among v member)

variable (fine : Fine relative absolute)
include fine

theorem Fine.relative_nonneg : 0 ≤ relative := fine.nonneg.trans fine.smaller

theorem Fine.slack_nonneg (values : List ℚ) :
    0 ≤ 16 * (relative * largest values + absolute) := by
  have part := mul_nonneg fine.relative_nonneg (largest_nonneg values)
  linarith [fine.nonneg]

theorem Averages.mono {more : List ℚ} (between : Averages relative absolute values x)
    (among : ∀ v ∈ values, v ∈ more) : Averages relative absolute more x := by
  obtain ⟨⟨least, first, below⟩, most, second, above⟩ := between
  have wider := mul_le_mul_of_nonneg_left (largest_mono among) fine.relative_nonneg
  exact ⟨⟨least, among least first, by linarith⟩, most, among most second, by linarith⟩

theorem averages_of_mem (member : v ∈ values) : Averages relative absolute values v := by
  have slack := fine.slack_nonneg values
  exact ⟨⟨v, member, by linarith⟩, v, member, by linarith⟩

variable {fl : ℚ → ℚ} (rounds : Doubles.Rounds relative absolute fl)
include rounds

theorem eps_kept : 0 < fl eps := by
  have error := abs_le.mp (rounds.error eps)
  have size : |eps| = eps := abs_of_pos (by norm_num [eps])
  have positive : (0 : ℚ) < eps := by norm_num [eps]
  have part := mul_le_mul_of_nonneg_right fine.small positive.le
  rw [size] at error
  linarith [fine.belowEps, error.1]

theorem ema_zero (value : ℚ) : ema 0 value fl = value := if_pos (eps_kept fine rounds)

theorem weights_near : (1 / 4 ≤ fl emaAlpha ∧ fl emaAlpha ≤ 31 / 100) ∧
    (1 / 4 ≤ fl (1 - fl emaAlpha) ∧ fl (1 - fl emaAlpha) ≤ 71 / 100) ∧
    |fl emaAlpha + fl (1 - fl emaAlpha) - 1| ≤ 7 / 4 * relative := by
  have first := abs_le.mp (rounds.error emaAlpha)
  have second := rounds.error (1 - fl emaAlpha)
  have size : |emaAlpha| = 3 / 10 := by norm_num [emaAlpha]
  have alpha : emaAlpha = 3 / 10 := rfl
  have smaller := fine.smaller
  have small := fine.small
  have nonneg := fine.nonneg
  rw [size] at first
  have own : 298 / 1000 ≤ fl emaAlpha ∧ fl emaAlpha ≤ 302 / 1000 := by
    constructor <;> linarith
  have rest : |1 - fl emaAlpha| ≤ 3 / 4 := by
    rw [abs_of_nonneg] <;> linarith
  have part := mul_le_mul_of_nonneg_left rest fine.relative_nonneg
  have off : |fl (1 - fl emaAlpha) - (1 - fl emaAlpha)| ≤ 7 / 4 * relative := by linarith
  have bounds := abs_le.mp off
  refine ⟨⟨by linarith, by linarith⟩, ⟨by linarith, by linarith⟩, ?_⟩
  have same : fl emaAlpha + fl (1 - fl emaAlpha) - 1 =
      fl (1 - fl emaAlpha) - (1 - fl emaAlpha) := by ring
  rwa [same]

/-- Rounding takes off a little of what a mixture and its operands are in size. -/
theorem mixture_close {prev value scale : ℚ} (valueSize : |value| ≤ scale)
    (prevSize : |prev| ≤ scale + 16 * (relative * scale + absolute)) :
    |fl (fl (fl emaAlpha * value) + fl (fl (1 - fl emaAlpha) * prev)) -
        (fl emaAlpha * value + fl (1 - fl emaAlpha) * prev)| ≤
      21 / 10 * (relative * scale) + 16 * (relative * scale + absolute) / 100 +
        31 / 10 * absolute := by
  obtain ⟨⟨ownLow, ownHigh⟩, ⟨restLow, restHigh⟩, _⟩ := weights_near fine rounds
  have nonneg := fine.relative_nonneg
  have small := fine.small
  have scaleNonneg : 0 ≤ scale := (abs_nonneg value).trans valueSize
  have product : 0 ≤ relative * scale := mul_nonneg nonneg scaleNonneg
  have terms : |fl emaAlpha * value| + |fl (1 - fl emaAlpha) * prev| ≤
      102 / 100 * scale + 71 / 100 * (16 * (relative * scale + absolute)) := by
    have own : |fl emaAlpha| = fl emaAlpha := abs_of_nonneg (by linarith)
    have rest : |fl (1 - fl emaAlpha)| = fl (1 - fl emaAlpha) := abs_of_nonneg (by linarith)
    rw [abs_mul, abs_mul, own, rest]
    have first := mul_le_mul ownHigh valueSize (abs_nonneg _) (by norm_num)
    have second := mul_le_mul restHigh prevSize (abs_nonneg _) (by norm_num)
    linarith
  have square : relative * relative ≤ relative / 1000 := by
    have part := mul_le_mul_of_nonneg_left small nonneg
    linarith
  have factor : 2 * relative + relative * relative ≤ 2001 / 1000 * relative := by linarith
  have slack : 0 ≤ 16 * (relative * scale + absolute) := by linarith [fine.nonneg]
  have spread := mul_le_mul_of_nonneg_right small slack
  have constants := mul_le_mul_of_nonneg_right small fine.nonneg
  calc _ ≤ _ := rounds.sum_error nonneg (fl emaAlpha * value) (fl (1 - fl emaAlpha) * prev)
    _ ≤ 2001 / 1000 * relative *
          (102 / 100 * scale + 71 / 100 * (16 * (relative * scale + absolute))) +
        (3 + 2 * relative) * absolute := by
        refine add_le_add_left (mul_le_mul factor terms ?_ ?_) _
        · positivity
        · linarith
    _ ≤ _ := by linarith [fine.nonneg]

/-- The part of the slack that the average keeps leaves room for the errors. -/
theorem mixture_room {bound scale : ℚ} (boundSize : |bound| ≤ scale) :
    |fl emaAlpha + fl (1 - fl emaAlpha) - 1| * |bound| +
        fl (1 - fl emaAlpha) * (16 * (relative * scale + absolute)) +
      (21 / 10 * (relative * scale) + 16 * (relative * scale + absolute) / 100 +
        31 / 10 * absolute) ≤ 16 * (relative * scale + absolute) := by
  obtain ⟨_, ⟨_, restHigh⟩, off⟩ := weights_near fine rounds
  have nonneg := fine.relative_nonneg
  have product := mul_nonneg nonneg ((abs_nonneg bound).trans boundSize)
  have slack : 0 ≤ 16 * (relative * scale + absolute) := by linarith [fine.nonneg]
  have first := mul_le_mul off boundSize (abs_nonneg _) (by linarith)
  have second := mul_le_mul_of_nonneg_right restHigh slack
  linarith [fine.nonneg]

/-- One more value leaves the average between the smallest and the largest. -/
theorem averages_ema {prev : ℚ} (value : ℚ)
    (before : prev = 0 ∨ Averages relative absolute values prev) :
    Averages relative absolute (values ++ [value]) (ema prev value fl) := by
  have last : value ∈ values ++ [value] := List.mem_append_right _ List.mem_cons_self
  rcases before with rfl | between
  · rw [ema_zero fine rounds]
    exact averages_of_mem fine last
  unfold ema
  split
  · exact averages_of_mem fine last
  have wider := between.mono fine fun v member => List.mem_append_left [value] member
  obtain ⟨⟨least, first, below⟩, most, second, above⟩ := wider
  have size {v : ℚ} (member : v ∈ values ++ [value]) : |v| ≤ largest (values ++ [value]) :=
    abs_le_largest member
  have prevSize : |prev| ≤ largest (values ++ [value]) +
      16 * (relative * largest (values ++ [value]) + absolute) := by
    have low := (abs_le.mp (size first)).1
    have high := (abs_le.mp (size second)).2
    rw [abs_le]
    constructor <;> linarith
  obtain ⟨⟨ownLow, _⟩, ⟨restLow, _⟩, _⟩ := weights_near fine rounds
  have close := mixture_close fine rounds (size last) prevSize
  have slack := fine.slack_nonneg (values ++ [value])
  constructor
  · have lower : ∃ v ∈ values ++ [value], v ≤ value ∧ v ≤ least := by
      rcases le_total value least with le | le
      · exact ⟨value, last, le_refl _, le⟩
      · exact ⟨least, first, le, le_refl _⟩
    obtain ⟨v, member, leValue, leLeast⟩ := lower
    have room := mixture_room fine rounds (size member)
    exact ⟨v, member, MovingAverage.le_mixed (by linarith) (by linarith) close room leValue
      (by linarith)⟩
  · have upper : ∃ v ∈ values ++ [value], value ≤ v ∧ most ≤ v := by
      rcases le_total value most with le | le
      · exact ⟨most, second, le, le_refl _⟩
      · exact ⟨value, last, le_refl _, le⟩
    obtain ⟨v, member, valueLe, mostLe⟩ := upper
    have room := mixture_room fine rounds (size member)
    exact ⟨v, member, MovingAverage.mixed_le (by linarith) (by linarith) close room valueLe
      (by linarith)⟩

end Averaging

section Counting

theorem valuesFor_concat (value : OutcomeRecord → ℚ) (key : String) (outcomes : List OutcomeRecord)
    (r : OutcomeRecord) : valuesFor value key (outcomes ++ [r]) =
      valuesFor value key outcomes ++ if keyOf r = key then [value r] else [] := by
  unfold valuesFor
  rw [List.filter_append, List.map_append, List.append_cancel_left_eq]
  by_cases own : keyOf r = key <;> simp [own]

theorem keys_mixed {costs latencies : Dict String ℚ} (same : costs.keys = latencies.keys)
    (fl : ℚ → ℚ) (key : String) (cost elapsed : ℚ) :
    (mixed fl costs key cost).keys = (mixed fl latencies key elapsed).keys := by
  rw [mixed, mixed, Dict.keys_set, Dict.keys_set, same]

theorem size_mixed {averages : Dict String ℚ} {key : String} (bounded : averages.size ≤ 1000)
    (room : averages.size < 1000 ∨ key ∈ averages.keys) (fl : ℚ → ℚ) (value : ℚ) :
    (mixed fl averages key value).size ≤ 1000 := by
  rw [Dict.size_eq_keys] at bounded room ⊢
  rw [mixed, Dict.keys_set]
  split
  · exact bounded
  · rename_i absent
    rw [List.length_append, List.length_singleton]
    exact room.resolve_right absent

end Counting

section Steps
variable {relative absolute : ℚ} {fl : ℚ → ℚ} {outcomes : List OutcomeRecord} {stats : ChainStats}

theorem summarises_nil : Summarises relative absolute [] {} where
  totalCommits := rfl
  successStreak := rfl
  failureStreak := rfl
  unused _ := rfl
  costEma nonempty := absurd rfl nonempty
  keys := rfl
  bounded := Nat.zero_le _
  costEmaByModel := by
    intro key x found
    cases found
  latencyEmaByModel := by
    intro key x found
    cases found

variable (fine : Fine relative absolute) (rounds : Doubles.Rounds relative absolute fl)
include fine rounds

/-- The entries of a map stay between their values, also where the map refuses one. -/
theorem entries_observed {averages : Dict String ℚ} {value : OutcomeRecord → ℚ}
    (between : ∀ key x, averages.get? key = some x →
      Averages relative absolute (valuesFor value key outcomes) x)
    (r : OutcomeRecord) (tracked : Prop) [Decidable tracked] (key : String) (x : ℚ)
    (found : (if tracked then mixed fl averages (keyOf r) (value r) else averages).get? key =
      some x) : Averages relative absolute (valuesFor value key (outcomes ++ [r])) x := by
  have kept : averages.get? key = some x →
      Averages relative absolute (valuesFor value key (outcomes ++ [r])) x := by
    intro held
    rw [valuesFor_concat]
    exact (between key x held).mono fine fun v member => List.mem_append_left _ member
  split at found
  · rw [mixed, Dict.get?_set] at found
    split at found
    · rename_i own
      subst own
      cases found
      rw [valuesFor_concat, if_pos rfl]
      refine averages_ema fine rounds (value r) ?_
      rw [Dict.getD]
      cases held : averages.get? (keyOf r) with
      | none => exact .inl rfl
      | some before => exact .inr (between _ before held)
    · exact kept found
  · exact kept found

theorem summarises_observed (summary : Summarises relative absolute outcomes stats)
    (r : OutcomeRecord) :
    Summarises relative absolute (outcomes ++ [r]) (observeIn fl stats r) := by
  constructor
  case totalCommits =>
    rw [List.length_append, List.length_singleton, ← summary.totalCommits]
    rfl
  case successStreak =>
    rw [Streaks.trailing_concat, ← summary.successStreak]
    show (if r.status = .ok then _ else 0) = _
    simp only [decide_eq_true_eq]
  case failureStreak =>
    rw [Streaks.trailing_concat, ← summary.failureStreak]
    show (if r.status = .ok then 0 else _) = _
    by_cases succeeded : r.status = .ok <;> simp [succeeded]
  case unused =>
    intro empty
    exact absurd empty (List.concat_ne_nil r outcomes)
  case costEma =>
    intro _
    rw [List.map_append]
    refine averages_ema fine rounds (safeCost r) ?_
    by_cases first : outcomes = []
    · exact .inl (summary.unused first)
    · exact .inr (summary.costEma first)
  case keys =>
    rw [observeIn_eq]
    dsimp only
    split
    · exact keys_mixed summary.keys fl _ _ _
    · exact summary.keys
  case bounded =>
    rw [observeIn_eq]
    dsimp only
    split
    · rename_i room
      exact size_mixed summary.bounded room fl _
    · exact summary.bounded
  case costEmaByModel => exact entries_observed fine rounds summary.costEmaByModel r _
  case latencyEmaByModel => exact entries_observed fine rounds summary.latencyEmaByModel r _

theorem summarises_statsIn (outcomes : List OutcomeRecord) :
    Summarises relative absolute outcomes (statsIn fl outcomes) := by
  induction outcomes using List.reverseRecOn with
  | nil => exact summarises_nil
  | append_singleton earlier r ih =>
    rw [statsIn, List.foldl_append]
    exact summarises_observed fine rounds ih r

end Steps

/-- One streak goes on, the other is over. -/
def OneStreak (stats : ChainStats) : Prop :=
  (0 < stats.successStreak ∧ stats.failureStreak = 0) ∨
    (stats.successStreak = 0 ∧ 0 < stats.failureStreak)

instance (stats : ChainStats) : Decidable (OneStreak stats) := inferInstanceAs (Decidable (_ ∨ _))

theorem Summarises.oneStreak {relative absolute : ℚ} {outcomes : List OutcomeRecord}
    {stats : ChainStats} (summary : Summarises relative absolute outcomes stats)
    (nonempty : outcomes ≠ []) : OneStreak stats := by
  obtain ⟨earlier, r, rfl⟩ := (List.eq_nil_or_concat' outcomes).resolve_left nonempty
  rw [OneStreak, summary.successStreak, summary.failureStreak, Streaks.trailing_concat,
    Streaks.trailing_concat]
  by_cases succeeded : r.status = .ok <;> simp [succeeded]

theorem exact_fine : Fine 0 0 :=
  ⟨le_refl _, le_refl _, by norm_num, by norm_num [eps]⟩

theorem doubles_fine : Fine (2 ^ (-53 : Int)) (2 ^ (-1075 : Int)) := by
  have half : (2 : ℚ) ^ (-1075 : Int) ≤ 2 ^ (-53 : Int) :=
    zpow_le_zpow_right₀ one_le_two (by decide)
  have tiny : (2 : ℚ) ^ (-53 : Int) ≤ eps / 2 := by norm_num [eps]
  refine ⟨(zpow_pos two_pos _).le, half, tiny.trans ?_, half.trans tiny⟩
  norm_num [eps]

inductive StoreCall where
  | commit (o : RawOutcome)
  | setBudgetContext (ceilingUsd remainingUsd : ℚ)

/-- A store and the outcomes it has taken. -/
structure Watched where
  store : RecordStore
  committed : List RawOutcome := []

def takenBy (s : RecordStore) (o : RawOutcome) : List RawOutcome :=
  match (s.commit o).2 with
  | .ok () => [o]
  | .error _ => []

def watch (s : Watched) : StoreCall → Watched
  | .commit o => { store := (s.store.commit o).1, committed := s.committed ++ takenBy s.store o }
  | .setBudgetContext ceilingUsd remainingUsd =>
    { s with store := s.store.setBudgetContext ceilingUsd remainingUsd }

def opened (flushInterval : Nat) (maxLines : Int) : Watched :=
  { store := { flushInterval, maxLines } }

def outcomesOn (s : Watched) (chainId : String) : List OutcomeRecord :=
  (s.committed.filter fun o => o.chainId = chainId).map fun o => o.toOutcomeRecord

/-- Statistics without the headroom and the rotation counter, which a commit does not make of
    its outcome. -/
def ofOutcomes (stats : ChainStats) : ChainStats :=
  { stats with budgetHeadroomRatio := 1, commitsSinceRotate := 0 }

section Watching
variable {s : Watched}

theorem accept_observed (store : RecordStore) (o : RawOutcome) (chainId : String) :
    ofOutcomes ((store.accept o).statsOf chainId) = if chainId = o.chainId then
        observeIn id (ofOutcomes (store.statsOf chainId)) o.toOutcomeRecord
      else ofOutcomes (store.statsOf chainId) := by
  rw [accept_statsOf]
  split
  · rename_i own
    subst own
    rw [RecordStore.updatedStats, consume_eq]
    rfl
  · rfl

/-- What the store keeps for a chain is what its outcomes make of new statistics. -/
def Kept (s : Watched) : Prop :=
  ∀ chainId, ofOutcomes (s.store.statsOf chainId) = statsIn id (outcomesOn s chainId)

theorem kept_opened (flushInterval : Nat) (maxLines : Int) : Kept (opened flushInterval maxLines) :=
  fun _ => rfl

theorem kept_watch (kept : Kept s) (call : StoreCall) : Kept (watch s call) := by
  intro chainId
  have before := kept chainId
  cases call with
  | commit o =>
    rw [watch, outcomesOn, takenBy, commit_floats]
    cases s.store.refusal o.chainId with
    | some e =>
      simp only [List.append_nil]
      exact before
    | none =>
      simp only [List.filter_append, List.map_append]
      rw [accept_observed, before]
      split
      · rename_i own
        have singled : [o].filter (fun p => p.chainId = chainId) = [o] := by simp [own]
        rw [singled, statsIn, statsIn, List.foldl_append]
        rfl
      · rename_i other
        have none : [o].filter (fun p => p.chainId = chainId) = [] := by simp [Ne.symm other]
        rw [none, List.map_nil, List.append_nil]
        rfl
  | setBudgetContext ceilingUsd remainingUsd => exact before

theorem kept_run (flushInterval : Nat) (maxLines : Int) (calls : List StoreCall) :
    Kept (Runs.run watch (opened flushInterval maxLines) calls) := by
  have keep : ∀ s call, Kept s → True → Kept (watch s call) := by
    intro s call kept _
    exact kept_watch kept call
  exact Runs.run_invariant keep (kept_opened flushInterval maxLines) (Runs.eachStep_true _ calls)

end Watching

theorem summarises_ofOutcomes {relative absolute : ℚ} {outcomes : List OutcomeRecord}
    {stats : ChainStats} (summary : Summarises relative absolute outcomes (ofOutcomes stats)) :
    Summarises relative absolute outcomes stats where
  totalCommits := summary.totalCommits
  successStreak := summary.successStreak
  failureStreak := summary.failureStreak
  unused := summary.unused
  costEma := summary.costEma
  keys := summary.keys
  bounded := summary.bounded
  costEmaByModel := summary.costEmaByModel
  latencyEmaByModel := summary.latencyEmaByModel

/-- After any commits the statistics of a chain sum up the outcomes the store has taken on it:
    exactly without rounding, and up to the rounding errors in doubles. -/
theorem statistics_summarise (flushInterval : Nat) (maxLines : Int) (calls : List StoreCall)
    (chainId : String) :
    let s := Runs.run watch (opened flushInterval maxLines) calls
    let outcomes := outcomesOn s chainId
    outcomes ≠ [] →
      (OneStreak (s.store.statsOf chainId) ∧
        Summarises 0 0 outcomes (s.store.statsOf chainId)) ∧
      (OneStreak (statsIn Doubles.round outcomes) ∧
        Summarises (2 ^ (-53 : Int)) (2 ^ (-1075 : Int)) outcomes
          (statsIn Doubles.round outcomes)) := by
  intro s outcomes nonempty
  have kept : Kept s := kept_run flushInterval maxLines calls
  have plain : Summarises 0 0 outcomes (s.store.statsOf chainId) := by
    apply summarises_ofOutcomes
    rw [kept chainId]
    exact summarises_statsIn exact_fine Doubles.id_rounds outcomes
  have rounded := summarises_statsIn doubles_fine Doubles.round_rounds outcomes
  exact ⟨⟨plain.oneStreak nonempty, plain⟩, rounded.oneStreak nonempty, rounded⟩

def tenCents : RawOutcome where
  stepId := "step"
  requestId := "request"
  chainId := "chain"
  kind := .llm
  status := .ok
  costUsd := .finite (Doubles.round (1 / 10))
  tokensIn := 10
  tokensOut := 10
  elapsedMs := .finite 10
  model := none
  events := []
  timestampMs := .finite 1740000000000

/-- Three steps of the chain, the second of which fails, and one of another chain. -/
def fourCommits : List StoreCall :=
  [.commit tenCents, .commit { tenCents with status := .error, costUsd := .finite 2 },
    .commit { tenCents with chainId := "other" }, .commit tenCents]

theorem four_commits_summarised :
    let s := Runs.run watch (opened 10 10000) fourCommits
    let outcomes := outcomesOn s "chain"
    (OneStreak (s.store.statsOf "chain") ∧ Summarises 0 0 outcomes (s.store.statsOf "chain")) ∧
      (OneStreak (statsIn Doubles.round outcomes) ∧
        Summarises (2 ^ (-53 : Int)) (2 ^ (-1075 : Int)) outcomes
          (statsIn Doubles.round outcomes)) :=
  statistics_summarise 10 10000 fourCommits "chain" (by decide +kernel)

/-- Two steps of the same cost: in doubles their average is less than it. -/
theorem equal_costs_average_below :
    let outcomes := [tenCents.toOutcomeRecord, tenCents.toOutcomeRecord]
    ¬ ∃ v ∈ outcomes.map safeCost, v ≤ (statsIn Doubles.round outcomes).costEma := by
  decide +kernel

end VeronicaStatistics
