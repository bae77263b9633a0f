import Mathlib.Data.List.Induction
import Mathlib.Tactic.Linarith
import Veronica.Library.Runs

/- A machine that may mark a step and then has to count down before it may mark another one. -/
namespace Cooldowns
variable {S X : Type}

def Spaced (k : Nat) (marks : List Bool) : Prop :=
  ∀ i j : Nat, i < j → marks[i]? = some true → marks[j]? = some true → i + k ≤ j

theorem Spaced.drop {k : Nat} {marks : List Bool} (spaced : Spaced k marks) (n : Nat) :
    Spaced k (marks.drop n) := by
  intro i j before first second
  rw [List.getElem?_drop] at first second
  have apart := spaced (n + i) (n + j) (by omega) first second
  omega

theorem Spaced.take {k : Nat} {marks : List Bool} (spaced : Spaced k marks) (n : Nat) :
    Spaced k (marks.take n) := by
  intro i j before first second
  have inside : j < n := by
    by_contra outside
    rw [List.getElem?_eq_none (by rw [List.length_take]; omega)] at second
    cases second
  rw [List.getElem?_take_of_lt (by omega)] at first second
  exact spaced i j before first second

/-- Behind a mark the next `k` steps are not marked. -/
theorem Spaced.quiet {k : Nat} {marks : List Bool} (spaced : Spaced (k + 1) (true :: marks)) :
    (marks.take k).count true = 0 := by
  rw [List.count_eq_zero]
  intro member
  obtain ⟨j, found⟩ := List.mem_iff_getElem?.mp member
  have inside : j < k := by
    by_contra outside
    rw [List.getElem?_eq_none (by rw [List.length_take]; omega)] at found
    cases found
  rw [List.getElem?_take_of_lt inside] at found
  have apart := spaced 0 (j + 1) (by omega) rfl (by rw [List.getElem?_cons_succ]; exact found)
  omega

/-- Spaced marks are at most one in `k + 1` steps, rounded up. -/
theorem Spaced.count_le {k : Nat} {marks : List Bool} (spaced : Spaced (k + 1) marks) :
    marks.count true ≤ (marks.length + k) / (k + 1) := by
  have positive : 0 < k + 1 := Nat.succ_pos k
  induction length : marks.length using Nat.strongRecOn generalizing marks with
  | ind n ih =>
    cases marks with
    | nil => simp
    | cons mark marks =>
      rw [List.length_cons] at length
      have whole : (k + 1) * (marks.drop k).count true ≤ (marks.length - k) + k := by
        have later := (spaced.drop (k + 1))
        rw [List.drop_succ_cons] at later
        have counted := ih (marks.drop k).length (by rw [List.length_drop]; omega) later rfl
        rw [Nat.le_div_iff_mul_le positive, List.length_drop, mul_comm] at counted
        exact counted
      rw [Nat.le_div_iff_mul_le positive, mul_comm]
      cases mark with
      | false =>
        have rest : Spaced (k + 1) marks := by
          have later := spaced.drop 1
          rwa [List.drop_succ_cons, List.drop_zero] at later
        have counted := ih marks.length (by omega) rest rfl
        rw [Nat.le_div_iff_mul_le positive, mul_comm] at counted
        rw [List.count_cons_of_ne (by decide)]
        omega
      | true =>
        have split : marks.count true = (marks.drop k).count true := by
          rw [← List.take_append_drop k marks, List.count_append, spaced.quiet, Nat.zero_add,
            List.take_append_drop]
        rw [List.count_cons_self, split, Nat.mul_add, Nat.mul_one]
        by_cases short : marks.length ≤ k
        · rw [List.drop_eq_nil_of_le short, List.count_nil]
          omega
        · omega

theorem Spaced.window {k : Nat} {marks : List Bool} (spaced : Spaced (k + 1) marks)
    (start n : Nat) : ((marks.drop start).take n).count true ≤ (n + k) / (k + 1) := by
  have counted := ((spaced.drop start).take n).count_le
  refine counted.trans (Nat.div_le_div_right (Nat.add_le_add_right ?_ k))
  rw [List.length_take]
  exact min_le_left _ _

structure Machine (S X : Type) where
  next : S → X → S
  marks : S → X → Bool
  remaining : S → ℤ

/-- A mark needs a counter that has run down, and sets it to `k`. -/
structure Machine.Cools (m : Machine S X) (k : Nat) : Prop where
  rested : ∀ s x, m.marks s x = true → m.remaining s ≤ 0
  starts : ∀ s x, m.marks s x = true → m.remaining (m.next s x) = k
  counts : ∀ s x, m.marks s x = false → m.remaining (m.next s x) = max 0 (m.remaining s - 1)

namespace Machine
variable {m : Machine S X} {k : Nat}

def marksOf (m : Machine S X) : S → List X → List Bool
  | _, [] => []
  | s, x :: xs => m.marks s x :: m.marksOf (m.next s x) xs

theorem marksOf_getElem? (m : Machine S X) (s : S) (xs : List X) (i : Nat) :
    (m.marksOf s xs)[i]? = (xs[i]?).map (m.marks (Runs.run m.next s (xs.take i))) := by
  induction xs generalizing s i with
  | nil => simp [marksOf]
  | cons x xs ih =>
    cases i with
    | zero => simp [marksOf, Runs.run]
    | succ i =>
      rw [marksOf, List.getElem?_cons_succ, List.getElem?_cons_succ, List.take_succ_cons, ih]
      rfl

theorem marksOf_take (m : Machine S X) (s : S) (xs : List X) (n : Nat) :
    m.marksOf s (xs.take n) = (m.marksOf s xs).take n := by
  induction xs generalizing s n with
  | nil => simp [marksOf]
  | cons x xs ih =>
    cases n with
    | zero => rfl
    | succ n => rw [List.take_succ_cons, marksOf, marksOf, List.take_succ_cons, ih]

theorem remaining_le {s : S} {xs : List X} (cools : m.Cools k) {j : Nat}
    (marked : (m.marksOf s xs)[j]? = some true) : m.remaining s ≤ j := by
  induction xs generalizing s j with
  | nil => simp [marksOf] at marked
  | cons x xs ih =>
    cases j with
    | zero =>
      rw [marksOf, List.getElem?_cons_zero, Option.some.injEq] at marked
      exact_mod_cast cools.rested s x marked
    | succ j =>
      rw [marksOf, List.getElem?_cons_succ] at marked
      have later := ih marked
      cases mark : m.marks s x with
      | true =>
        have rested := cools.rested s x mark
        omega
      | false =>
        rw [cools.counts s x mark] at later
        have := le_max_right 0 (m.remaining s - 1)
        omega

/-- Two marks have at least `k` steps between them, whatever state the run starts from. -/
theorem spaced (cools : m.Cools k) (s : S) (xs : List X) : Spaced (k + 1) (m.marksOf s xs) := by
  induction xs generalizing s with
  | nil =>
    intro i j _ first
    simp [marksOf] at first
  | cons x xs ih =>
    intro i j before first second
    obtain ⟨j, rfl⟩ := Nat.exists_eq_succ_of_ne_zero (by omega : j ≠ 0)
    rw [marksOf, List.getElem?_cons_succ] at second
    cases i with
    | zero =>
      rw [marksOf, List.getElem?_cons_zero, Option.some.injEq] at first
      have waited := remaining_le cools second
      rw [cools.starts s x first] at waited
      omega
    | succ i =>
      rw [marksOf, List.getElem?_cons_succ] at first
      have apart := ih (m.next s x) i j (by omega) first second
      omega

/-- A counter that is running was set by a mark that many steps short of `k` ago. -/
theorem origin (cools : m.Cools k) {s : S} (rested : m.remaining s ≤ 0) (xs : List X)
    (running : 0 < m.remaining (Runs.run m.next s xs)) :
    ∃ i, i < xs.length ∧ (m.marksOf s xs)[i]? = some true ∧
      (xs.length : ℤ) - i + m.remaining (Runs.run m.next s xs) = k + 1 := by
  induction xs using List.reverseRecOn with
  | nil => exact absurd running (not_lt.mpr rested)
  | append_singleton xs x ih =>
    have last : (m.marksOf s (xs ++ [x]))[xs.length]? =
        some (m.marks (Runs.run m.next s xs) x) := by
      rw [marksOf_getElem?, List.getElem?_concat_length, List.take_left, Option.map_some]
    have step : Runs.run m.next s (xs ++ [x]) = m.next (Runs.run m.next s xs) x := by
      rw [Runs.run_append]
      rfl
    rw [step] at running ⊢
    rw [List.length_append, List.length_singleton]
    cases mark : m.marks (Runs.run m.next s xs) x with
    | true =>
      refine ⟨xs.length, by omega, by rw [last, mark], ?_⟩
      rw [cools.starts _ x mark]
      omega
    | false =>
      rw [cools.counts _ x mark] at running ⊢
      obtain ⟨i, inside, marked, apart⟩ := ih (by omega)
      refine ⟨i, by omega, ?_, by omega⟩
      have earlier := marksOf_take m s (xs ++ [x]) xs.length
      rw [List.take_left] at earlier
      rw [earlier, List.getElem?_take_of_lt inside] at marked
      exact marked

end Machine

end Cooldowns
