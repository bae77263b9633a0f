import Mathlib.Data.List.Basic
import Mathlib.Order.Lattice

/- The first of the elements of greatest rank, as a loop finds it that keeps the best so far. -/
namespace Ranks
variable {A K : Type} [LinearOrder K] (rank : A → K)

def better (kept x : A) : A := if rank kept < rank x then x else kept

def best (start : A) (xs : List A) : A := xs.foldl (better rank) start

theorem kept_le_better (kept x : A) : rank kept ≤ rank (better rank kept x) := by
  unfold better
  split
  · rename_i below
    exact below.le
  · exact le_refl _

theorem le_better (kept x : A) : rank x ≤ rank (better rank kept x) := by
  unfold better
  split
  · exact le_refl _
  · rename_i within
    exact not_lt.mp within

theorem start_le_best (start : A) (xs : List A) : rank start ≤ rank (best rank start xs) := by
  induction xs generalizing start with
  | nil => exact le_refl _
  | cons x xs ih => exact (kept_le_better rank start x).trans (ih _)

theorem le_best (start : A) {xs : List A} {x : A} (member : x ∈ xs) :
    rank x ≤ rank (best rank start xs) := by
  induction xs generalizing start with
  | nil => cases member
  | cons y xs ih =>
    rcases List.mem_cons.mp member with rfl | later
    · exact (le_better rank start x).trans (start_le_best rank _ xs)
    · exact ih _ later

theorem best_mem (start : A) (xs : List A) : best rank start xs ∈ start :: xs := by
  induction xs generalizing start with
  | nil => exact List.mem_cons_self
  | cons x xs ih =>
    rcases List.mem_cons.mp (ih (better rank start x)) with own | later
    · have chosen : best rank start (x :: xs) = better rank start x := own
      rw [chosen, better]
      split <;> simp
    · exact List.mem_cons_of_mem _ (List.mem_cons_of_mem _ later)

theorem foldl_max_eq_best (start : K) (xs : List K) : xs.foldl max start = best id start xs :=
  List.foldl_ext _ _ _ fun greatest x _ => max_def_lt greatest x

end Ranks
