import Mathlib.Algebra.Order.Round
import Mathlib.Data.Rat.Floor
import Mathlib.Tactic.Linarith
import Mathlib.Tactic.NormNum

/- Python values as data. Finite floats are read as the exact rational they denote, so
   arithmetic on them is exact here; the rounding of a machine double is not modelled. -/
inductive PyFloat where
  | finite : ℚ → PyFloat
  | inf
  | negInf
  | nan
  deriving DecidableEq, Repr

inductive PyVal where
  | none
  | bool : Bool → PyVal
  | int : Int → PyVal
  | float : PyFloat → PyVal
  | str : String → PyVal
  | list : List PyVal → PyVal
  | dict : List (String × PyVal) → PyVal

inductive PyExc where
  | typeError : String → PyExc
  | valueError : String → PyExc
  | keyError : String → PyExc
  | overflowError : String → PyExc
  | runtimeError : String → PyExc
  | orgPolicyDenied : String → PyExc
  | keyboardInterrupt
  | systemExit
  | generatorExit
  deriving DecidableEq, Repr

/-- Caught by `except Exception`: the last three derive from BaseException only. -/
def PyExc.isException : PyExc → Bool
  | .keyboardInterrupt | .systemExit | .generatorExit => false
  | _ => true

namespace PyFloat

def isfinite : PyFloat → Bool
  | .finite _ => true
  | _ => false

/-- `x if math.isfinite(x) else 0.0` -/
def finiteOrZero : PyFloat → ℚ
  | .finite q => q
  | _ => 0

@[simp] theorem finiteOrZero_finite (q : ℚ) : (PyFloat.finite q).finiteOrZero = q := rfl

/-- `x <= bound` -/
def AtMost : PyFloat → ℚ → Prop
  | .finite q, bound => q ≤ bound
  | .negInf, _ => True
  | .inf, _ | .nan, _ => False

instance (x : PyFloat) (bound : ℚ) : Decidable (x.AtMost bound) :=
  match x with
  | .finite _ => inferInstanceAs (Decidable (_ ≤ _))
  | .negInf => inferInstanceAs (Decidable True)
  | .inf | .nan => inferInstanceAs (Decidable False)

/-- `x <= y` -/
def le : PyFloat → PyFloat → Bool
  | .nan, _ | _, .nan => false
  | .negInf, _ | _, .inf => true
  | .finite x, .finite y => decide (x ≤ y)
  | _, _ => false

theorem finiteOrZero_of_atMost {x : PyFloat} {bound : ℚ} (within : x.AtMost bound) :
    x.finiteOrZero ≤ bound ∨ x.finiteOrZero = 0 := by
  cases x with
  | finite q => exact Or.inl within
  | inf => exact Or.inr rfl
  | negInf => exact Or.inr rfl
  | nan => exact Or.inr rfl

end PyFloat

namespace PyVal

def isNone : PyVal → Bool
  | .none => true
  | _ => false

/-- An int this large in absolute value rounds to no double. -/
def floatLimit : Int := 2 ^ 1024 - 2 ^ 970

theorem lt_floatLimit {n : Int} (below : n < 2 ^ 64) : n < floatLimit := by
  have low : (2 : Int) ^ 64 ≤ 2 ^ 970 := pow_le_pow_right₀ (by norm_num) (by norm_num)
  have high : (2 : Int) ^ 970 * 2 ≤ 2 ^ 1024 := by
    rw [← pow_succ]
    exact pow_le_pow_right₀ (by norm_num) (by norm_num)
  unfold floatLimit
  generalize (2 : Int) ^ 970 = small at *
  generalize (2 : Int) ^ 1024 = large at *
  omega

theorem floatLimit_pos : 0 < floatLimit := lt_floatLimit (by norm_num)

/-- `math.isfinite(x)` -/
def isfinite : PyVal → Except PyExc Bool
  | .bool _ => .ok true
  | .int n =>
    if n < floatLimit ∧ -floatLimit < n then .ok true
    else .error (.overflowError "int too large to convert to float")
  | .float x => .ok x.isfinite
  | _ => .error (.typeError "must be real number")

/-- `x < 0` -/
def isNegative : PyVal → Except PyExc Bool
  | .bool _ => .ok false
  | .int n => .ok (decide (n < 0))
  | .float (.finite q) => .ok (decide (q < 0))
  | .float .negInf => .ok true
  | .float _ => .ok false
  | _ => .error (.typeError "'<' not supported with an int")

/-- `x in frozenset(names)`, for a set of strings -/
def inNames (names : List String) : PyVal → Except PyExc Bool
  | .str s => .ok (decide (s ∈ names))
  | .list _ | .dict _ => .error (.typeError "unhashable type")
  | _ => .ok false

/-- `isinstance(x, int) and not isinstance(x, bool)` -/
def isPlainInt : PyVal → Bool
  | .int _ => true
  | _ => false

/-- `isinstance(x, (int, float)) and not isinstance(x, bool)` -/
def isNumber : PyVal → Bool
  | .int _ | .float _ => true
  | _ => false

/-- The number that arithmetic and comparisons read. -/
def number? : PyVal → Option PyFloat
  | .bool b => some (.finite (if b then 1 else 0))
  | .int n => some (.finite n)
  | .float x => some x
  | _ => Option.none

/-- `type(x).__name__` -/
def typeName : PyVal → String
  | .none => "NoneType"
  | .bool _ => "bool"
  | .int _ => "int"
  | .float _ => "float"
  | .str _ => "str"
  | .list _ => "list"
  | .dict _ => "dict"

/-- `math.isfinite(x) and not x < 0` -/
def isFiniteNonNegative (x : PyVal) : Except PyExc Bool :=
  match x.isfinite with
  | .error e => .error e
  | .ok false => .ok false
  | .ok true => x.isNegative.map not

def orElse (x : PyVal) (fallback : PyVal) : PyVal := if x.isNone then fallback else x

end PyVal

theorem except_bind_ok {ε α β : Type} {x : Except ε α} {f : α → Except ε β} {b : β} :
    (x >>= f) = .ok b ↔ ∃ a, x = .ok a ∧ f a = .ok b := by
  cases x with
  | error e => simp [bind, Except.bind]
  | ok a => simp [bind, Except.bind]

theorem except_map_ok {ε α β : Type} {x : Except ε α} {f : α → β} {b : β} :
    x.map f = .ok b ↔ ∃ a, x = .ok a ∧ f a = b := by
  cases x with
  | error e => simp [Except.map]
  | ok a => simp [Except.map]

/-- The built-in `round(x)`: to the nearest integer, a tie to the even one. -/
def pyRound (x : ℚ) : ℤ :=
  if Int.fract x < 1 / 2 then ⌊x⌋
  else if 1 / 2 < Int.fract x then ⌊x⌋ + 1
  else if ⌊x⌋ % 2 = 0 then ⌊x⌋ else ⌊x⌋ + 1

@[simp] theorem pyRound_intCast (n : ℤ) : pyRound (n : ℚ) = n := by
  simp [pyRound]

theorem pyRound_bounds (x : ℚ) : x - 1 / 2 ≤ pyRound x ∧ pyRound x ≤ x + 1 / 2 := by
  have split_floor := Int.floor_add_fract x
  have below := Int.fract_nonneg x
  have above := Int.fract_lt_one x
  unfold pyRound
  split
  · constructor <;> linarith
  · split
    · push_cast
      constructor <;> linarith
    · split
      · constructor <;> linarith
      · push_cast
        constructor <;> linarith

theorem pyRound_le_iff (x : ℚ) (n : ℤ) :
    pyRound x ≤ n ↔ x < n + 1 / 2 ∨ (x = n + 1 / 2 ∧ n % 2 = 0) := by
  have split_floor := Int.floor_add_fract x
  have nonneg := Int.fract_nonneg x
  have below_one := Int.fract_lt_one x
  rcases lt_trichotomy ⌊x⌋ n with below | same | above
  · have room : (⌊x⌋ : ℚ) + 1 ≤ n := by exact_mod_cast below
    refine iff_of_true ?_ (Or.inl (by linarith))
    unfold pyRound
    split
    · exact below.le
    · split
      · exact below
      · split
        · exact below.le
        · exact below
  · subst same
    unfold pyRound
    rcases lt_trichotomy (Int.fract x) (1 / 2) with low | half | high
    · rw [if_pos low]
      exact iff_of_true le_rfl (Or.inl (by linarith))
    · rw [if_neg half.not_lt, if_neg half.not_gt]
      have tie : x = ⌊x⌋ + 1 / 2 := by linarith
      have not_below : ¬ x < ⌊x⌋ + 1 / 2 := tie.not_lt
      split
      · rename_i even
        exact iff_of_true le_rfl (Or.inr ⟨tie, even⟩)
      · rename_i odd
        refine iff_of_false (by omega) ?_
        rintro (low | ⟨_, even⟩)
        · exact not_below low
        · exact odd even
    · rw [if_neg high.not_gt, if_pos high]
      refine iff_of_false (by omega) ?_
      rintro (low | ⟨half, _⟩) <;> linarith
  · have room : (n : ℚ) + 1 ≤ ⌊x⌋ := by exact_mod_cast above
    refine iff_of_false ?_ ?_
    · unfold pyRound
      split
      · omega
      · split
        · omega
        · split <;> omega
    · rintro (low | ⟨half, _⟩) <;> linarith

theorem pyRound_mono {x y : ℚ} (le : x ≤ y) : pyRound x ≤ pyRound y := by
  rw [pyRound_le_iff]
  rcases (pyRound_le_iff y (pyRound y)).mp le_rfl with below | ⟨half, even⟩
  · exact Or.inl (le.trans_lt below)
  · rcases le.lt_or_eq with less | same
    · exact Or.inl (less.trans_eq half)
    · exact Or.inr ⟨same.trans half, even⟩

theorem pyRound_neg (x : ℚ) : pyRound (-x) = -pyRound x := by
  refine eq_of_forall_ge_iff fun n => ?_
  have flipped : -pyRound x ≤ n ↔ ¬ pyRound x ≤ -n - 1 := by omega
  rw [flipped, pyRound_le_iff, pyRound_le_iff]
  push_cast
  rcases lt_trichotomy x (-n - 1 / 2) with below | half | above
  · refine iff_of_false ?_ (not_not.mpr (Or.inl (by linarith)))
    rintro (low | ⟨half, _⟩) <;> linarith
  · have tie : -x = n + 1 / 2 := by linarith
    rw [or_iff_right tie.not_lt, and_iff_right tie]
    constructor
    · rintro even (low | ⟨_, odd⟩)
      · linarith
      · omega
    · intro none
      by_contra odd
      exact none (Or.inr ⟨by linarith, by omega⟩)
  · refine iff_of_true (Or.inl (by linarith)) ?_
    rintro (low | ⟨half, _⟩) <;> linarith
