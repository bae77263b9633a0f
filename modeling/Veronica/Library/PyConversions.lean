import Mathlib.Data.List.DropRight
import Veronica.Library.Doubles

/- The built-in conversions `float(x)` and `int(x)`, and a few string methods. How a numeral in a
   string is read is left open: every result holds for any such reading. -/
structure Numerals where
  float : String → Option PyFloat
  int : String → Option Int

/-- No string is read as a number. -/
def noNumerals : Numerals where
  float := fun _ => none
  int := fun _ => none

/-- An f-string before its values are formatted. -/
abbrev FString := List (String ⊕ PyVal)

namespace PyFloat

def lt : PyFloat → PyFloat → Bool
  | .nan, _ | _, .nan => false
  | .finite x, .finite y => decide (x < y)
  | .negInf, .negInf | .inf, _ => false
  | .negInf, _ | _, .inf => true
  | .finite _, .negInf => false

/-- `math.isfinite(x) and not x < 0` -/
def isFiniteNonNegative : PyFloat → Bool
  | .finite q => decide (0 ≤ q)
  | _ => false

theorem isFiniteNonNegative_iff {x : PyFloat} :
    x.isFiniteNonNegative = true ↔ ∃ q : ℚ, x = .finite q ∧ 0 ≤ q := by
  cases x <;> simp [isFiniteNonNegative]

theorem lt_finite_mono {bound : PyFloat} {x y : ℚ} (le : x ≤ y)
    (exceeded : bound.lt (.finite x) = true) : bound.lt (.finite y) = true := by
  cases bound with
  | finite b =>
    simp only [lt, decide_eq_true_eq] at exceeded ⊢
    exact exceeded.trans_le le
  | inf => cases exceeded
  | negInf => rfl
  | nan => cases exceeded

theorem lt_of_le_bound {low high x : PyFloat} (le : low.le high = true)
    (exceeded : high.lt x = true) : low.lt x = true := by
  cases low <;> cases high <;> cases x <;> simp_all [PyFloat.le, lt]
  exact le.trans_lt exceeded

/-- `f"{q:.nf}"` of a finite float: rounded to n digits, a tie to the even one. -/
def fixedText (digits : Nat) (q : ℚ) : String :=
  let scaled := (pyRound (|q| * 10 ^ digits)).toNat
  let fraction := (toString (scaled % 10 ^ digits)).toList.leftpad digits '0'
  (if q < 0 then "-" else "") ++ toString (scaled / 10 ^ digits) ++
    if digits = 0 then "" else "." ++ String.ofList fraction

def fixed (digits : Nat) : PyFloat → String
  | .finite q => fixedText digits q
  | .inf => "inf"
  | .negInf => "-inf"
  | .nan => "nan"

end PyFloat

namespace PyVal

def isBool : PyVal → Bool
  | .bool _ => true
  | _ => false

/-- `float(x)`; an int becomes the nearest double. -/
def toFloat (numerals : Numerals) : PyVal → Except PyExc PyFloat
  | .bool b => .ok (.finite (if b then 1 else 0))
  | .int n => (Doubles.ofInt n).map fun (nearest : Int) => .finite nearest
  | .float x => .ok x
  | .str s =>
    match numerals.float s with
    | some x => .ok x
    | .none => .error (.valueError "could not convert string to float: ")
  | value => .error (.typeError
      ("float() argument must be a string or a real number, not '" ++ value.typeName ++ "'"))

/-- Floats are truncated toward zero. -/
def toInt (numerals : Numerals) : PyVal → Except PyExc Int
  | .bool b => .ok (if b then 1 else 0)
  | .int n => .ok n
  | .float (.finite q) => .ok (q.num.tdiv q.den)
  | .float .nan => .error (.valueError "cannot convert float NaN to integer")
  | .float _ => .error (.overflowError "cannot convert float infinity to integer")
  | .str s =>
    match numerals.int s with
    | some n => .ok n
    | .none => .error (.valueError "invalid literal for int() with base 10: ")
  | value => .error (.typeError ("int() argument must be a string, a bytes-like object or a " ++
      "real number, not '" ++ value.typeName ++ "'"))

def exceededBy (bound : PyVal) (x : ℚ) : Except PyExc Bool :=
  match bound.number? with
  | some y => .ok (y.lt (.finite x))
  | .none => .error (.typeError "'>' not supported with a number")

theorem toFloat_number (numerals : Numerals) {value : PyVal} (number : value.isNumber = true) :
    value.isFiniteNonNegative = .ok true ↔
      ∃ q : ℚ, value.toFloat numerals = .ok (.finite q) ∧ 0 ≤ q := by
  cases value with
  | int n =>
    by_cases fits : n < floatLimit ∧ -floatLimit < n
    · have sign := Doubles.nearest_nonneg_iff n
      simp only [isFiniteNonNegative, isfinite, fits, and_self, if_true, isNegative, Except.map,
        toFloat, Doubles.ofInt, Except.ok.injEq, Bool.not_eq_true', decide_eq_false_iff_not, not_lt,
        PyFloat.finite.injEq, ← sign, exists_eq_left', Int.cast_nonneg_iff]
    · simp [isFiniteNonNegative, isfinite, fits, toFloat, Doubles.ofInt, Except.map]
  | float x =>
    cases x with
    | finite q =>
      simp [isFiniteNonNegative, isfinite, PyFloat.isfinite, isNegative, Except.map, toFloat]
    | inf => simp [isFiniteNonNegative, isfinite, PyFloat.isfinite, toFloat]
    | negInf => simp [isFiniteNonNegative, isfinite, PyFloat.isfinite, toFloat]
    | nan => simp [isFiniteNonNegative, isfinite, PyFloat.isfinite, toFloat]
  | none | bool | str | list | dict => cases number

end PyVal

/-- The characters `str.isspace` accepts. -/
def isPySpace (c : Char) : Bool :=
  let n := c.toNat
  decide ((0x09 ≤ n ∧ n ≤ 0x0D) ∨ (0x1C ≤ n ∧ n ≤ 0x20) ∨ n = 0x85 ∨ n = 0xA0 ∨ n = 0x1680 ∨
    (0x2000 ≤ n ∧ n ≤ 0x200A) ∨ n = 0x2028 ∨ n = 0x2029 ∨ n = 0x202F ∨ n = 0x205F ∨ n = 0x3000)

/-- `s.strip()` -/
def pyStrip (s : String) : String :=
  String.ofList ((s.toList.dropWhile isPySpace).rdropWhile isPySpace)

/-- `s[:n]` -/
def pyPrefix (n : Nat) (s : String) : String := String.ofList (s.toList.take n)
