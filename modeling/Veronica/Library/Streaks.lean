import Mathlib.Data.List.Induction

/- How long the last elements of a list have been of one kind, and whether so many have been in a
   row. -/
namespace Streaks
variable {A : Type} (holds : A → Bool)

/-- The elements at the end that are of the kind. -/
def trailing (xs : List A) : Nat := (xs.reverse.takeWhile holds).length

/-- Somewhere in the list there are so many of the kind in a row. -/
def InARow (n : Nat) (xs : List A) : Prop := List.replicate n true <:+: xs.map holds

instance (n : Nat) (xs : List A) : Decidable (InARow holds n xs) :=
  inferInstanceAs (Decidable (_ <:+: _))

theorem trailing_concat (xs : List A) (x : A) :
    trailing holds (xs ++ [x]) = if holds x = true then trailing holds xs + 1 else 0 := by
  unfold trailing
  rw [List.reverse_append, List.reverse_singleton, List.singleton_append, List.takeWhile_cons]
  split
  · exact List.length_cons
  · rfl

theorem suffix_iff_le_trailing (n : Nat) (xs : List A) :
    List.replicate n true <:+ xs.map holds ↔ n ≤ trailing holds xs := by
  induction xs using List.reverseRecOn generalizing n with
  | nil =>
    rw [List.map_nil, List.suffix_nil, List.replicate_eq_nil_iff]
    exact Nat.le_zero.symm
  | append_singleton xs x ih =>
    rw [trailing_concat, List.map_append, List.map_singleton]
    cases n with
    | zero => exact iff_of_true (List.nil_suffix) (Nat.zero_le _)
    | succ n =>
      rw [List.replicate_succ', List.suffix_concat_iff]
      cases last : holds x with
      | true => simp [ih]
      | false => simp

/-- One more element completes a row if those before it, at the end, lack only one. -/
theorem inARow_concat (n : Nat) (xs : List A) (x : A) : InARow holds (n + 1) (xs ++ [x]) ↔
    InARow holds (n + 1) xs ∨ (holds x = true ∧ n ≤ trailing holds xs) := by
  have suffix := suffix_iff_le_trailing holds (n + 1) (xs ++ [x])
  rw [trailing_concat, List.map_append, List.map_singleton] at suffix
  rw [InARow, List.map_append, List.map_singleton, List.infix_concat_iff, suffix, or_comm]
  refine or_congr_right ?_
  cases last : holds x with
  | true => simp
  | false => simp

end Streaks
