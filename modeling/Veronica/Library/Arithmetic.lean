import Veronica.Library.Doubles

/- Computations written once for exact numbers and for doubles: an arithmetic says which number
   stands for the exact result of an operation. -/

structure Arithmetic where
  fl : ℚ → ℚ
  monotone : Monotone fl
  idempotent : ∀ q, fl (fl q) = fl q
  zero : fl 0 = 0
  one : fl 1 = 1

namespace Arithmetic

@[reducible] def exact : Arithmetic where
  fl := fun q => q
  monotone := monotone_id
  idempotent := fun _ => rfl
  zero := rfl
  one := rfl

/-- Results too large for a double are not cut off. -/
def double : Arithmetic where
  fl := Doubles.round
  monotone := Doubles.round_monotone
  idempotent := Doubles.round_round
  zero := Doubles.round_zero
  one := Doubles.round_one

@[simp] theorem exact_fl (q : ℚ) : exact.fl q = q := rfl

variable (r : Arithmetic)

theorem fl_nonneg {q : ℚ} (nonneg : 0 ≤ q) : 0 ≤ r.fl q := by
  rw [← r.zero]
  exact r.monotone nonneg

theorem le_fl {stored q : ℚ} (held : r.fl stored = stored) (le : stored ≤ q) : stored ≤ r.fl q := by
  rw [← held]
  exact r.monotone le

theorem fl_le {stored q : ℚ} (held : r.fl stored = stored) (le : q ≤ stored) : r.fl q ≤ stored := by
  rw [← held]
  exact r.monotone le

/-- A product; times one, a number stays what it is. -/
def scale (q factor : ℚ) : ℚ := if factor = 1 then q else r.fl (q * factor)

@[simp] theorem scale_one (q : ℚ) : r.scale q 1 = q := if_pos rfl

@[simp] theorem exact_scale (q factor : ℚ) : exact.scale q factor = q * factor := by
  unfold scale
  split
  · rename_i one
    rw [one, mul_one]
  · rfl

/-- A running total, stored after each addition. -/
def total (start : ℚ) (amounts : List ℚ) : ℚ :=
  amounts.foldl (fun sum amount => r.fl (sum + amount)) start

@[simp] theorem total_nil (start : ℚ) : r.total start [] = start := rfl

@[simp] theorem total_cons (start amount : ℚ) (amounts : List ℚ) :
    r.total start (amount :: amounts) = r.total (r.fl (start + amount)) amounts := rfl

theorem total_append (start : ℚ) (first rest : List ℚ) :
    r.total start (first ++ rest) = r.total (r.total start first) rest :=
  List.foldl_append

theorem total_concat (start : ℚ) (amounts : List ℚ) (amount : ℚ) :
    r.total start (amounts ++ [amount]) = r.fl (r.total start amounts + amount) := by
  rw [total_append, total_cons, total_nil]

theorem total_exact (start : ℚ) (amounts : List ℚ) :
    exact.total start amounts = start + amounts.sum := by
  induction amounts generalizing start with
  | nil => simp
  | cons amount rest ih =>
    rw [total_cons, ih, List.sum_cons, exact_fl, add_assoc]

theorem total_mono_start {low high : ℚ} (le : low ≤ high) (amounts : List ℚ) :
    r.total low amounts ≤ r.total high amounts := by
  induction amounts generalizing low high with
  | nil => exact le
  | cons amount rest ih => exact ih (r.monotone (add_le_add_left le amount))

theorem total_held {start : ℚ} (held : r.fl start = start) (amounts : List ℚ) :
    r.fl (r.total start amounts) = r.total start amounts := by
  induction amounts generalizing start with
  | nil => exact held
  | cons amount rest ih => exact ih (r.idempotent _)

theorem le_total {start : ℚ} (held : r.fl start = start) {amounts : List ℚ}
    (nonneg : ∀ amount ∈ amounts, 0 ≤ amount) : start ≤ r.total start amounts := by
  induction amounts generalizing start with
  | nil => exact le_rfl
  | cons amount rest ih =>
    have first : start ≤ r.fl (start + amount) :=
      r.le_fl held (le_add_of_nonneg_right (nonneg amount List.mem_cons_self))
    exact first.trans (ih (r.idempotent _) fun later among =>
      nonneg later (List.mem_cons_of_mem _ among))

/-- The built-in `sum`, one addition after the other; the first amount is added to zero. -/
def sum (amounts : List ℚ) : ℚ :=
  match amounts with
  | [] => 0
  | first :: rest => r.total first rest

@[simp] theorem sum_singleton (amount : ℚ) : r.sum [amount] = amount := rfl

@[simp] theorem exact_sum (amounts : List ℚ) : exact.sum amounts = amounts.sum := by
  cases amounts with
  | nil => rfl
  | cons first rest => exact (total_exact first rest).trans List.sum_cons.symm

end Arithmetic
