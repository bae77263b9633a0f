import Mathlib.Data.Int.Log
import Mathlib.Data.Nat.Size
import Veronica.Library.PyValue

/- Ints and results of arithmetic as doubles. A double keeps 53 significant bits; a number with
   more is rounded to the nearest multiple of the unit in its last place, a tie to the even one. -/
namespace Doubles

/-- The unit in the last place of an int. -/
def unit (n : Int) : Int := 2 ^ (n.natAbs.size - 53)

def nearest (n : Int) : Int := pyRound ((n : ℚ) / unit n) * unit n

/-- `float(n)` -/
def ofInt (n : Int) : Except PyExc Int :=
  if n < PyVal.floatLimit ∧ -PyVal.floatLimit < n then .ok (nearest n)
  else .error (.overflowError "int too large to convert to float")

/-- A double has the value of the int. -/
def Held (n : Int) : Prop :=
  n < PyVal.floatLimit ∧ -PyVal.floatLimit < n ∧ unit n ∣ n

instance (n : Int) : Decidable (Held n) := inferInstanceAs (Decidable (_ ∧ _ ∧ _))

theorem unit_pos (n : Int) : 0 < unit n := by
  unfold unit
  positivity

theorem nearest_eq_self_iff (n : Int) : nearest n = n ↔ unit n ∣ n := by
  constructor
  · intro same
    exact ⟨pyRound ((n : ℚ) / unit n), by rw [mul_comm]; exact same.symm⟩
  · rintro ⟨k, multiple⟩
    have whole : (n : ℚ) / unit n = (k : Int) := by
      have nonzero : ((unit n : Int) : ℚ) ≠ 0 := by exact_mod_cast (unit_pos n).ne'
      rw [div_eq_iff nonzero, mul_comm]
      exact_mod_cast multiple
    rw [nearest, whole, pyRound_intCast, mul_comm]
    exact multiple.symm

theorem unit_le {n : Int} (nonzero : n ≠ 0) : unit n ≤ |n| := by
  have positive : 0 < n.natAbs.size := Nat.size_pos.mpr (Int.natAbs_pos.mpr nonzero)
  have least : 2 ^ (n.natAbs.size - 53) ≤ n.natAbs := Nat.lt_size.mp (by omega)
  rw [unit, Int.abs_eq_natAbs]
  exact_mod_cast least

theorem nearest_nonneg_iff (n : Int) : 0 ≤ nearest n ↔ 0 ≤ n := by
  have positive : (0 : ℚ) < unit n := by exact_mod_cast unit_pos n
  have bounds := pyRound_bounds ((n : ℚ) / unit n)
  rw [nearest, mul_nonneg_iff_of_pos_right (unit_pos n)]
  constructor
  · intro rounded
    by_contra negative
    rw [not_le] at negative
    have large := unit_le negative.ne
    rw [abs_of_neg negative] at large
    have below : (n : ℚ) / unit n ≤ -1 := by
      rw [div_le_iff₀ positive, neg_one_mul]
      exact_mod_cast (by omega : n ≤ -unit n)
    have above : (0 : ℚ) ≤ pyRound ((n : ℚ) / unit n) := by exact_mod_cast rounded
    linarith
  · intro nonneg
    have share : (0 : ℚ) ≤ (n : ℚ) / unit n := div_nonneg (by exact_mod_cast nonneg) positive.le
    have above : (-1 : ℚ) < pyRound ((n : ℚ) / unit n) := by linarith
    have above : (-1 : Int) < pyRound ((n : ℚ) / unit n) := by exact_mod_cast above
    omega

theorem ofInt_eq_self_iff (n : Int) : ofInt n = .ok n ↔ Held n := by
  unfold ofInt Held
  split
  · rename_i fits
    simp only [Except.ok.injEq, nearest_eq_self_iff, fits.1, fits.2, true_and]
  · rename_i large
    simp only [reduceCtorEq, false_iff]
    exact fun held => large ⟨held.1, held.2.1⟩

section Arithmetic

/-- The unit in the last place of a result, which is never below the smallest double. -/
def ulp (q : ℚ) : ℚ := 2 ^ max (Int.log 2 |q| - 52) (-1074)

/-- The double an exact result is rounded to, as long as it is not too large for one. -/
def round (q : ℚ) : ℚ := pyRound (q / ulp q) * ulp q

/-- A result that is too large for a double becomes infinite. -/
def ofRat (q : ℚ) : PyFloat :=
  if 2 ^ 1024 ≤ round q then .inf else if round q ≤ -2 ^ 1024 then .negInf else .finite (round q)

/-- `x * factor` for a positive factor; a division multiplies by the exact inverse. -/
def scaled (factor : ℚ) : PyFloat → PyFloat
  | .finite q => ofRat (q * factor)
  | other => other

/-- `fl` is off by no more than this part of a result, and this much besides. -/
structure Rounds (relative absolute : ℚ) (fl : ℚ → ℚ) : Prop where
  error : ∀ q, |fl q - q| ≤ relative * |q| + absolute

theorem ulp_pos (q : ℚ) : 0 < ulp q := zpow_pos two_pos _

theorem ulp_le {q : ℚ} (nonzero : q ≠ 0) :
    ulp q ≤ 2 ^ (-52 : Int) * |q| + 2 ^ (-1074 : Int) := by
  have small : (0 : ℚ) < 2 ^ (-1074 : Int) := zpow_pos two_pos _
  have unit : (0 : ℚ) < 2 ^ (-52 : Int) := zpow_pos two_pos _
  have size : (0 : ℚ) ≤ 2 ^ (-52 : Int) * |q| := mul_nonneg unit.le (abs_nonneg q)
  unfold ulp
  rcases le_total (Int.log 2 |q| - 52) (-1074) with low | normal
  · rw [max_eq_right low]
    exact le_add_of_nonneg_left size
  · have leading : (2 : ℚ) ^ Int.log 2 |q| ≤ |q| := by
      exact_mod_cast Int.zpow_log_le_self (by decide : 1 < 2) (abs_pos.mpr nonzero)
    rw [max_eq_left normal, sub_eq_add_neg, add_comm, zpow_add₀ two_ne_zero]
    exact le_add_of_le_of_nonneg (mul_le_mul_of_nonneg_left leading unit.le) small.le

theorem round_zero : round 0 = 0 := by
  rw [round, zero_div]
  exact mul_eq_zero_of_left (by exact_mod_cast pyRound_intCast 0) _

theorem round_rounds : Rounds (2 ^ (-53 : Int)) (2 ^ (-1075 : Int)) round := by
  constructor
  intro q
  by_cases zero : q = 0
  · have small : (0 : ℚ) < 2 ^ (-1075 : Int) := zpow_pos two_pos _
    rw [zero, round_zero, sub_zero, abs_zero, mul_zero, zero_add]
    exact small.le
  · have positive := ulp_pos q
    have bounds := pyRound_bounds (q / ulp q)
    have near : |(pyRound (q / ulp q) : ℚ) - q / ulp q| ≤ 1 / 2 := by
      rw [abs_le]
      constructor <;> linarith
    calc |round q - q| = |(pyRound (q / ulp q) - q / ulp q) * ulp q| := by
          rw [sub_mul, div_mul_cancel₀ q positive.ne', round]
      _ = |(pyRound (q / ulp q) : ℚ) - q / ulp q| * ulp q := by
          rw [abs_mul, abs_of_pos positive]
      _ ≤ 1 / 2 * (2 ^ (-52 : Int) * |q| + 2 ^ (-1074 : Int)) :=
          mul_le_mul near (ulp_le zero) positive.le (by norm_num)
      _ = 2 ^ (-53 : Int) * |q| + 2 ^ (-1075 : Int) := by
          rw [show (-52 : Int) = -53 + 1 from rfl, show (-1074 : Int) = -1075 + 1 from rfl,
            zpow_add₀ two_ne_zero, zpow_add₀ two_ne_zero]
          ring

theorem Rounds.sum_error {relative absolute : ℚ} {fl : ℚ → ℚ} (rounds : Rounds relative absolute fl)
    (nonneg : 0 ≤ relative) (p q : ℚ) : |fl (fl p + fl q) - (p + q)| ≤
      (2 * relative + relative * relative) * (|p| + |q|) + (3 + 2 * relative) * absolute := by
  have first := rounds.error p
  have second := rounds.error q
  have sum := rounds.error (fl p + fl q)
  have terms : |fl p + fl q - (p + q)| ≤ relative * (|p| + |q|) + 2 * absolute := by
    have split : fl p + fl q - (p + q) = (fl p - p) + (fl q - q) := by ring
    rw [split]
    have both := abs_add_le (fl p - p) (fl q - q)
    linarith
  have size : |fl p + fl q| ≤ |p| + |q| + (relative * (|p| + |q|) + 2 * absolute) := by
    have around := abs_sub_abs_le_abs_sub (fl p + fl q) (p + q)
    have both := abs_add_le p q
    linarith
  calc |fl (fl p + fl q) - (p + q)|
      ≤ |fl (fl p + fl q) - (fl p + fl q)| + |fl p + fl q - (p + q)| := abs_sub_le _ _ _
    _ ≤ relative * (|p| + |q| + (relative * (|p| + |q|) + 2 * absolute)) + absolute +
          (relative * (|p| + |q|) + 2 * absolute) := by
        have scaled := mul_le_mul_of_nonneg_left size nonneg
        linarith
    _ = _ := by ring

theorem ulp_neg (q : ℚ) : ulp (-q) = ulp q := by
  rw [ulp, ulp, abs_neg]

theorem round_neg (q : ℚ) : round (-q) = -round q := by
  rw [round, round, ulp_neg, neg_div, pyRound_neg]
  push_cast
  ring

theorem round_eq_self_of_multiple {q : ℚ} {n : ℤ} (multiple : q = n * ulp q) : round q = q := by
  have whole : q / ulp q = n := by
    rw [div_eq_iff (ulp_pos q).ne']
    exact multiple
  rw [round, whole, pyRound_intCast]
  exact multiple.symm

theorem pow_multiple {q : ℚ} {k : ℤ} (large : -1074 ≤ k) (reach : Int.log 2 |q| - 52 ≤ k) :
    ∃ n : ℤ, (2 : ℚ) ^ k = n * ulp q := by
  have exponent : max (Int.log 2 |q| - 52) (-1074) ≤ k := max_le reach large
  refine ⟨2 ^ (k - max (Int.log 2 |q| - 52) (-1074)).toNat, ?_⟩
  rw [ulp]
  push_cast
  rw [← zpow_natCast, Int.toNat_of_nonneg (by omega), ← zpow_add₀ two_ne_zero]
  congr 1
  omega

theorem round_le_pow {q : ℚ} {k : ℤ} (large : -1074 ≤ k) (positive : 0 < q)
    (below : q ≤ 2 ^ k) : round q ≤ 2 ^ k := by
  have reach : Int.log 2 |q| ≤ k := by
    rw [abs_of_pos positive]
    have mono := Int.log_mono_right (b := 2) positive below
    rwa [show ((2 : ℚ) ^ k) = ((2 : ℕ) : ℚ) ^ k by norm_num, Int.log_zpow (by decide)] at mono
  obtain ⟨n, multiple⟩ := pow_multiple large (by omega : Int.log 2 |q| - 52 ≤ k)
  have unit := ulp_pos q
  have parts : q / ulp q ≤ n := by
    rw [div_le_iff₀ unit, ← multiple]
    exact below
  have rounded := pyRound_mono parts
  rw [pyRound_intCast] at rounded
  rw [multiple, round]
  exact mul_le_mul_of_nonneg_right (by exact_mod_cast rounded) unit.le

theorem pow_le_round {q : ℚ} {k : ℤ} (normal : -1022 ≤ k) (above : 2 ^ k ≤ q)
    (log : Int.log 2 |q| = k) : 2 ^ k ≤ round q := by
  obtain ⟨n, multiple⟩ := pow_multiple (by omega : -1074 ≤ k) (by omega : Int.log 2 |q| - 52 ≤ k)
  have unit := ulp_pos q
  have parts : (n : ℚ) ≤ q / ulp q := by
    rw [le_div_iff₀ unit, ← multiple]
    exact above
  have rounded := pyRound_mono parts
  rw [pyRound_intCast] at rounded
  rw [multiple, round]
  exact mul_le_mul_of_nonneg_right (by exact_mod_cast rounded) unit.le

theorem round_mono_pos {p q : ℚ} (positive : 0 < p) (le : p ≤ q) : round p ≤ round q := by
  have positiveQ := positive.trans_le le
  have logs : Int.log 2 |p| ≤ Int.log 2 |q| := by
    rw [abs_of_pos positive, abs_of_pos positiveQ]
    exact Int.log_mono_right positive le
  by_cases same : ulp p = ulp q
  · rw [round, round, same]
    have unit := ulp_pos q
    have parts := pyRound_mono (div_le_div_of_nonneg_right le unit.le)
    exact mul_le_mul_of_nonneg_right (by exact_mod_cast parts) unit.le
  · have apart : Int.log 2 |p| < Int.log 2 |q| ∧ -1022 ≤ Int.log 2 |q| := by
      refine ⟨lt_of_le_of_ne logs fun eq => same (by rw [ulp, ulp, eq]), ?_⟩
      by_contra low
      refine same ?_
      rw [ulp, ulp, max_eq_right (by omega), max_eq_right (by omega)]
    have middle : p ≤ 2 ^ Int.log 2 |q| := by
      have next : p < 2 ^ (Int.log 2 |p| + 1) := by
        have bound := Int.lt_zpow_succ_log_self (b := 2) (by decide) p
        rw [abs_of_pos positive]
        exact_mod_cast bound
      exact next.le.trans (zpow_le_zpow_right₀ one_le_two apart.1)
    have above : 2 ^ Int.log 2 |q| ≤ q := by
      rw [abs_of_pos positiveQ]
      exact_mod_cast Int.zpow_log_le_self (by decide : 1 < 2) positiveQ
    exact (round_le_pow (by omega) positive middle).trans (pow_le_round apart.2 above rfl)

theorem round_nonneg {q : ℚ} (nonneg : 0 ≤ q) : 0 ≤ round q := by
  have unit := ulp_pos q
  have parts := pyRound_mono (div_nonneg nonneg unit.le)
  rw [show (0 : ℚ) = (0 : ℤ) from rfl, pyRound_intCast] at parts
  exact mul_nonneg (by exact_mod_cast parts) unit.le

theorem round_monotone : Monotone round := by
  intro p q le
  rcases lt_or_ge 0 p with positive | nonpositive
  · exact round_mono_pos positive le
  rcases lt_or_ge q 0 with negative | nonneg
  · have flipped := round_mono_pos (neg_pos.mpr negative) (neg_le_neg le)
    rw [round_neg, round_neg] at flipped
    exact neg_le_neg_iff.mp flipped
  · have low := round_nonneg (neg_nonneg.mpr nonpositive)
    rw [round_neg] at low
    exact (neg_nonneg.mp low).trans (round_nonneg nonneg)

theorem round_multiple {q : ℚ} (positive : 0 < q) (nonzero : 0 < round q) :
    ∃ n : ℤ, round q = n * ulp (round q) := by
  let e := max (Int.log 2 |q| - 52) (-1074)
  have low : -1074 ≤ e := le_max_right _ _
  have exponent : Int.log 2 |q| - 52 ≤ e := le_max_left _ _
  rcases le_or_gt (Int.log 2 |round q| - 52) e with within | carried
  · obtain ⟨m, unit⟩ := pow_multiple low within
    refine ⟨pyRound (q / ulp q) * m, ?_⟩
    push_cast
    rw [mul_assoc, ← unit]
    rfl
  · -- the result is the next power of two
    have below : q ≤ 2 ^ (e + 53) := by
      have next : q < 2 ^ (Int.log 2 |q| + 1) := by
        have bound := Int.lt_zpow_succ_log_self (b := 2) (by decide) q
        rw [abs_of_pos positive]
        exact_mod_cast bound
      exact next.le.trans (zpow_le_zpow_right₀ one_le_two (by omega))
    have rounded := round_le_pow (by omega) positive below
    have leading : (2 : ℚ) ^ Int.log 2 |round q| ≤ round q := by
      have bound := Int.zpow_log_le_self (by decide : 1 < 2) nonzero
      rw [abs_of_pos nonzero]
      exact_mod_cast bound
    have power : (2 : ℚ) ^ (e + 53) ≤ 2 ^ Int.log 2 |round q| :=
      zpow_le_zpow_right₀ one_le_two (by omega)
    have whole : round q = 2 ^ (e + 53) := le_antisymm rounded (power.trans leading)
    have reach : Int.log 2 |round q| ≤ e + 53 :=
      (zpow_le_zpow_iff_right₀ one_lt_two).mp (leading.trans rounded)
    obtain ⟨m, unit⟩ := pow_multiple (by omega : -1074 ≤ e + 53)
      (by omega : Int.log 2 |round q| - 52 ≤ e + 53)
    exact ⟨m, whole.trans unit⟩

theorem round_round_pos {q : ℚ} (positive : 0 < q) : round (round q) = round q := by
  rcases (round_nonneg positive.le).eq_or_lt with zero | nonzero
  · rw [← zero, round_zero]
  · obtain ⟨n, multiple⟩ := round_multiple positive nonzero
    exact round_eq_self_of_multiple multiple

theorem round_round (q : ℚ) : round (round q) = round q := by
  rcases lt_trichotomy q 0 with negative | zero | positive
  · have flipped := round_round_pos (neg_pos.mpr negative)
    rwa [round_neg, round_neg, neg_inj] at flipped
  · rw [zero, round_zero, round_zero]
  · exact round_round_pos positive

theorem round_one : round 1 = 1 := by
  refine round_eq_self_of_multiple (n := 2 ^ 52) ?_
  decide +kernel

theorem id_rounds : Rounds 0 0 id := by
  constructor
  intro q
  simp

end Arithmetic

end Doubles
