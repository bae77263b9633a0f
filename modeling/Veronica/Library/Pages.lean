import Mathlib.Data.List.Basic
import Mathlib.Data.List.TakeDrop

/- A list read page by page while it grows at its end. -/
namespace Pages
variable {A B : Type} {size n : Nat}

/-- Page `n` of a list, counted from 0. -/
def page (size n : Nat) (xs : List A) : List A := (xs.drop (n * size)).take size

theorem map_page (f : A → B) (size n : Nat) (xs : List A) :
    (page size n xs).map f = page size n (xs.map f) := by
  rw [page, page, List.map_take, List.map_drop]

theorem take_append_page (size n : Nat) (xs : List A) :
    xs.take (n * size) ++ page size n xs = xs.take ((n + 1) * size) := by
  rw [page, Nat.succ_mul, List.take_add]

theorem take_of_grown {xs ys : List A} (grown : xs <+: ys) {count : Nat}
    (full : count ≤ xs.length) : ys.take count = xs.take count := by
  obtain ⟨later, rfl⟩ := grown
  exact List.take_append_of_le_length full

variable {xs collected : List A}

/-- What has been collected before a page is read: the full pages of a longer list. -/
def Collected (size n : Nat) (xs collected : List A) : Prop :=
  collected = xs.take (n * size) ∧ (n = 0 ∨ n * size < xs.length)

theorem collected_nil (size : Nat) (xs : List A) : Collected size 0 xs [] := by
  refine ⟨?_, .inl rfl⟩
  rw [Nat.zero_mul, List.take_zero]

theorem Collected.grown {ys : List A} (before : Collected size n xs collected)
    (grown : xs <+: ys) : Collected size n ys collected := by
  obtain ⟨same, first | more⟩ := before
  · subst first
    rw [Nat.zero_mul, List.take_zero] at same
    rw [same]
    exact collected_nil size ys
  · refine ⟨?_, .inr (Nat.lt_of_lt_of_le more grown.length_le)⟩
    rw [same, take_of_grown grown (Nat.le_of_lt more)]

/-- A reader that has as many elements as the list is long has all of them. -/
theorem Collected.all_of_length_le (before : Collected size n xs collected)
    (enough : xs.length ≤ (collected ++ page size n xs).length) :
    collected ++ page size n xs = xs := by
  rw [before.1, take_append_page] at enough ⊢
  rw [List.length_take] at enough
  exact List.take_of_length_le (by omega)

theorem Collected.all_of_page_empty (before : Collected size n xs collected)
    (positive : 0 < size) (empty : page size n xs = []) : collected ++ page size n xs = xs := by
  apply before.all_of_length_le
  have short : xs.length ≤ n * size := by
    rw [page, List.take_eq_nil_iff] at empty
    have none := empty.resolve_left (Nat.ne_of_gt positive)
    rwa [List.drop_eq_nil_iff] at none
  rw [before.1, take_append_page, List.length_take, Nat.succ_mul]
  omega

theorem Collected.next (before : Collected size n xs collected)
    (less : (collected ++ page size n xs).length < xs.length) :
    Collected size (n + 1) xs (collected ++ page size n xs) := by
  rw [before.1, take_append_page] at less ⊢
  refine ⟨rfl, .inr ?_⟩
  rw [List.length_take] at less
  omega

section Offsets
variable {wanted seen ys : List A} {offset : Nat}

/-- The elements a reader wants that are on no page read so far stand further back. -/
def Ahead (wanted seen xs : List A) (offset : Nat) : Prop :=
  ∀ a ∈ wanted, a ∈ seen ∨ a ∈ xs.drop offset

theorem ahead_start (seen xs : List A) : Ahead xs seen xs 0 := by
  intro a member
  exact .inr member

theorem Ahead.grown (before : Ahead wanted seen xs offset) (grown : xs.Sublist ys) :
    Ahead wanted seen ys offset := by
  intro a member
  exact (before a member).imp_right fun later => (grown.drop offset).subset later

/-- Nothing is skipped by a page that starts where another ended, or before. -/
theorem Ahead.read (before : Ahead wanted seen xs offset) {start : Nat} (started : start ≤ offset)
    (size : Nat) :
    Ahead wanted (seen ++ (xs.drop start).take size) xs (max offset (start + size)) := by
  intro a member
  rcases before a member with earlier | later
  · exact .inl (List.mem_append_left _ earlier)
  · by_cases further : start + size ≤ offset
    · rw [Nat.max_eq_left further]
      exact .inr later
    · rw [Nat.max_eq_right (Nat.le_of_not_le further), ← List.drop_drop]
      have inRest := (List.drop_sublist_drop_left xs started).subset later
      rw [← List.take_append_drop size (xs.drop start)] at inRest
      exact (List.mem_append.mp inRest).imp_left (List.mem_append_right _)

theorem Ahead.all (before : Ahead wanted seen xs offset) (short : xs.length ≤ offset) :
    ∀ a ∈ wanted, a ∈ seen := by
  intro a member
  refine (before a member).resolve_right ?_
  rw [List.drop_eq_nil_of_le short]
  exact List.not_mem_nil

end Offsets

theorem flatMap_page (xs : List A) (pages : Nat) :
    (List.range pages).flatMap (fun n => page size n xs) = xs.take (pages * size) := by
  induction pages with
  | zero => rw [List.range_zero, List.flatMap_nil, Nat.zero_mul, List.take_zero]
  | succ pages ih =>
    rw [List.range_succ, List.flatMap_append, ih, List.flatMap_singleton, take_append_page]

end Pages
