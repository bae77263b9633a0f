import Mathlib.Data.List.Induction
import Mathlib.Data.List.Nodup

/- A bounded set of keys that grows as new keys are met and never shrinks. Whether a key is
   admitted is settled when it is first met. -/
namespace Admissions
variable {K : Type} [DecidableEq K] {capacity : Nat}

def enroll (capacity : Nat) (seen : List K) (k : K) : List K :=
  if k ∈ seen then seen else if capacity ≤ seen.length then seen else seen ++ [k]

def admitted (capacity : Nat) (met : List K) : List K := met.foldl (enroll capacity) []

@[simp] theorem admitted_nil : admitted capacity ([] : List K) = [] := rfl

theorem length_le_enroll (seen : List K) (k : K) :
    seen.length ≤ (enroll capacity seen k).length := by
  unfold enroll
  split
  · exact Nat.le_refl _
  · split <;> simp

theorem admitted_concat (met : List K) (k : K) :
    admitted capacity (met ++ [k]) = enroll capacity (admitted capacity met) k := by
  simp [admitted]

theorem eraseDups_concat (met : List K) (k : K) :
    (met ++ [k]).eraseDups = if k ∈ met then met.eraseDups else met.eraseDups ++ [k] := by
  rw [List.eraseDups_append]
  by_cases before : k ∈ met
  · simp [List.removeAll, before]
  · simp [List.removeAll, before, List.eraseDups_cons]

theorem nodup_eraseDups (met : List K) : met.eraseDups.Nodup := by
  induction met using List.reverseRecOn with
  | nil => exact List.nodup_nil
  | append_singleton met k ih =>
    rw [eraseDups_concat]
    split
    · exact ih
    · rename_i new
      refine List.nodup_append.mpr ⟨ih, List.nodup_singleton k, ?_⟩
      intro a before b last same
      rw [List.mem_singleton.mp last] at same
      exact new (same ▸ List.mem_eraseDups.mp before)

/-- The keys admitted are the first distinct ones, in the order in which they were met. -/
theorem admitted_eq (met : List K) : admitted capacity met = met.eraseDups.take capacity := by
  induction met using List.reverseRecOn with
  | nil => simp
  | append_singleton met k ih =>
    rw [admitted_concat, ih, enroll, eraseDups_concat, List.length_take]
    by_cases before : k ∈ met
    · rw [if_pos before]
      have known : k ∈ met.eraseDups := List.mem_eraseDups.mpr before
      by_cases room : met.eraseDups.length < capacity
      · rw [List.take_of_length_le (Nat.le_of_lt room), if_pos known]
      · rw [if_pos (by omega : capacity ≤ min capacity met.eraseDups.length), ite_self]
    · rw [if_neg before]
      have new : k ∉ met.eraseDups.take capacity :=
        fun taken => before (List.mem_eraseDups.mp (List.mem_of_mem_take taken))
      rw [if_neg new, List.take_append]
      by_cases room : met.eraseDups.length < capacity
      · rw [if_neg (by omega), List.take_of_length_le (l := [k]) (by simp; omega)]
      · have full : capacity - met.eraseDups.length = 0 := by omega
        rw [if_pos (by omega), full, List.take_zero, List.append_nil]

theorem admitted_length_le (met : List K) : (admitted capacity met).length ≤ capacity := by
  rw [admitted_eq]
  exact List.length_take_le _ _

theorem mem_admitted_concat {met : List K} {k : K} (before : k ∈ met) (next : K) :
    k ∈ admitted capacity (met ++ [next]) ↔ k ∈ admitted capacity met := by
  rw [admitted_eq, admitted_eq, eraseDups_concat]
  by_cases known : next ∈ met
  · rw [if_pos known]
  · have other : k ≠ next := fun same => known (same ▸ before)
    rw [if_neg known, List.take_append, List.mem_append, or_iff_left]
    exact fun taken => other (List.mem_singleton.mp (List.mem_of_mem_take taken))

end Admissions
