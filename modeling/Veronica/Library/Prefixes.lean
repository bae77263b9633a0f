import Mathlib.Data.List.Basic
import Mathlib.Data.List.TakeDrop

/- Two loops that judge a list by its prefixes: one stops at the first prefix that fails its
   test, the other goes on to the end. -/
namespace Prefixes
variable {A : Type}

/-- The verdicts of the loop that stops. `pre` is what it has passed already. -/
def stops (breached : List A → Bool) : List A → List A → List Bool
  | _, [] => []
  | pre, x :: rest =>
    if breached (pre ++ [x]) then [true] else false :: stops breached (pre ++ [x]) rest

/-- The verdicts of the loop that goes on. -/
def goesOn (breached : List A → Bool) : List A → List A → List Bool
  | _, [] => []
  | pre, x :: rest => breached (pre ++ [x]) :: goesOn breached (pre ++ [x]) rest

/-- How many elements the loop that stops lets pass. -/
def passedCount (breached : List A → Bool) : List A → List A → Nat
  | _, [] => 0
  | pre, x :: rest =>
    if breached (pre ++ [x]) then 0 else passedCount breached (pre ++ [x]) rest + 1

/-- Once breached, every longer list is. -/
def UpClosed (breached : List A → Bool) : Prop :=
  ∀ pre x, breached pre = true → breached (pre ++ [x]) = true

variable {breached tested : List A → Bool}

theorem upClosed_append (closed : UpClosed breached) {pre : List A} (more : List A)
    (fails : breached pre = true) : breached (pre ++ more) = true := by
  induction more generalizing pre with
  | nil => simpa using fails
  | cons x rest ih =>
    have next := ih (closed pre x fails)
    simpa using next

theorem goesOn_getElem? (pre rest : List A) (j : Nat) : (goesOn breached pre rest)[j]? =
    if j < rest.length then some (breached (pre ++ rest.take (j + 1))) else none := by
  induction rest generalizing pre j with
  | nil => simp [goesOn]
  | cons x rest ih =>
    cases j with
    | zero => simp [goesOn]
    | succ j => simp [goesOn, ih]

theorem goesOn_length (pre rest : List A) : (goesOn breached pre rest).length = rest.length := by
  induction rest generalizing pre with
  | nil => rfl
  | cons x rest ih => exact congrArg Nat.succ (ih (pre ++ [x]))

theorem passedCount_le (pre rest : List A) : passedCount breached pre rest ≤ rest.length := by
  induction rest generalizing pre with
  | nil => exact Nat.le_refl 0
  | cons x rest ih =>
    rw [passedCount]
    split
    · exact Nat.zero_le _
    · exact Nat.succ_le_succ (ih (pre ++ [x]))

theorem passes_before (pre rest : List A) {j : Nat} (before : j < passedCount breached pre rest) :
    breached (pre ++ rest.take (j + 1)) = false := by
  induction rest generalizing pre j with
  | nil => cases before
  | cons x rest ih =>
    rw [passedCount] at before
    split at before
    · cases before
    · rename_i passes
      cases j with
      | zero => simpa using passes
      | succ j =>
        have later := ih (pre ++ [x]) (Nat.lt_of_succ_lt_succ before)
        simpa using later

theorem passes_counted {pre rest : List A} (start : breached pre = false) :
    breached (pre ++ rest.take (passedCount breached pre rest)) = false := by
  rcases Nat.eq_zero_or_pos (passedCount breached pre rest) with none | some
  · rw [none]
    simpa using start
  · have last := passes_before pre rest (Nat.sub_lt some Nat.one_pos)
    rwa [Nat.sub_add_cancel some] at last

theorem fails_at (pre rest : List A) (short : passedCount breached pre rest < rest.length) :
    breached (pre ++ rest.take (passedCount breached pre rest + 1)) = true := by
  induction rest generalizing pre with
  | nil => cases short
  | cons x rest ih =>
    rw [passedCount] at short ⊢
    split
    · rename_i fails
      simpa using fails
    · rename_i passes
      rw [if_neg passes] at short
      have later := ih (pre ++ [x]) (Nat.lt_of_succ_lt_succ short)
      simpa using later

theorem passedCount_mono (weaker : ∀ xs, tested xs = true → breached xs = true)
    (pre rest : List A) : passedCount breached pre rest ≤ passedCount tested pre rest := by
  induction rest generalizing pre with
  | nil => exact Nat.le_refl 0
  | cons x rest ih =>
    rw [passedCount, passedCount]
    by_cases fails : breached (pre ++ [x]) = true
    · rw [if_pos fails]
      exact Nat.zero_le _
    · rw [if_neg fails, if_neg fun tests => fails (weaker _ tests)]
      exact Nat.succ_le_succ (ih (pre ++ [x]))

/-- The verdicts of the loop that stops: the passes, then the first refusal if there is one. -/
theorem stops_eq (pre rest : List A) : stops breached pre rest =
    List.replicate (passedCount breached pre rest) false ++
      if passedCount breached pre rest < rest.length then [true] else [] := by
  induction rest generalizing pre with
  | nil => rfl
  | cons x rest ih =>
    rw [stops, passedCount]
    split
    · rfl
    · rw [ih, List.replicate_succ, List.cons_append, List.length_cons]
      simp only [Nat.add_lt_add_iff_right]

theorem stops_false_iff (pre rest : List A) (j : Nat) :
    (stops breached pre rest)[j]? = some false ↔ j < passedCount breached pre rest := by
  rw [stops_eq, List.getElem?_append, List.length_replicate]
  split
  · rename_i before
    simp [before]
  · rename_i past
    refine iff_of_false ?_ past
    split
    · cases j - passedCount breached pre rest <;> simp
    · simp

theorem contains_true_stops_iff (pre rest : List A) :
    (stops breached pre rest).contains true = true ↔
      passedCount breached pre rest < rest.length := by
  rw [stops_eq, List.contains_iff_mem, List.mem_append]
  split
  · rename_i short
    simp [short]
  · rename_i whole
    simp [whole]

/-- Where the test stays breached, the loop passes exactly the elements whose prefix passes. -/
theorem counted_iff (closed : UpClosed breached) (pre rest : List A) (j : Nat) :
    j < passedCount breached pre rest ↔
      j < rest.length ∧ breached (pre ++ rest.take (j + 1)) = false := by
  constructor
  · intro before
    exact ⟨Nat.lt_of_lt_of_le before (passedCount_le pre rest), passes_before pre rest before⟩
  · rintro ⟨inside, passes⟩
    by_contra past
    have fails := fails_at pre rest (Nat.lt_of_le_of_lt (Nat.not_lt.mp past) inside)
    have shorter : rest.take (passedCount breached pre rest + 1) =
        (rest.take (j + 1)).take (passedCount breached pre rest + 1) := by
      rw [List.take_take, Nat.min_eq_left (by omega)]
    rw [shorter] at fails
    have longer := upClosed_append closed
      ((rest.take (j + 1)).drop (passedCount breached pre rest + 1)) fails
    rw [List.append_assoc, List.take_append_drop, passes] at longer
    cases longer

theorem stops_allowed_iff (closed : UpClosed breached) (pre rest : List A) (j : Nat) :
    (stops breached pre rest)[j]? = some false ↔
      j < rest.length ∧ breached (pre ++ rest.take (j + 1)) = false :=
  (stops_false_iff pre rest j).trans (counted_iff closed pre rest j)

theorem passes_of_no_refusal {pre rest : List A} (none : true ∉ stops breached pre rest) {j : Nat}
    (inside : j < rest.length) : breached (pre ++ rest.take (j + 1)) = false := by
  rw [← List.contains_iff_mem, contains_true_stops_iff, Nat.not_lt] at none
  exact passes_before pre rest (Nat.lt_of_lt_of_le inside none)

/-- The loop that goes on passes exactly the elements before the other's first refusal, if and
    only if the two tests agree on every prefix. -/
theorem agree_iff (closed : UpClosed breached) (xs : List A) :
    (∀ (j : Nat) (verdict : Bool), (goesOn tested [] xs)[j]? = some verdict →
      (verdict = false ↔ (stops breached [] xs)[j]? = some false)) ↔
    ∀ j < xs.length, tested (xs.take (j + 1)) = breached (xs.take (j + 1)) := by
  simp only [stops_allowed_iff closed, goesOn_getElem?, List.nil_append]
  constructor
  · intro agree j inside
    have here := agree j (tested (xs.take (j + 1))) (if_pos inside)
    rw [Bool.eq_iff_iff, ← not_iff_not, Bool.not_eq_true, Bool.not_eq_true, here]
    exact and_iff_right inside
  · intro same j verdict found
    split at found
    · rename_i inside
      cases found
      rw [same j inside]
      exact (and_iff_right inside).symm
    · cases found

end Prefixes
