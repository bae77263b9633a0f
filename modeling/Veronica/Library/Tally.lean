import Veronica.Library.Dict
import Mathlib.Data.List.Induction

/- Amounts booked under keys one after the other, and the dictionary that keeps a running sum
   for each key. -/
namespace Tally
variable {K M : Type} [DecidableEq K] [AddCommMonoid M]

def total (bookings : List (K × M)) : M := (bookings.map Prod.snd).sum

def totalOn (k : K) (bookings : List (K × M)) : M :=
  ((bookings.filter fun booking => booking.1 = k).map Prod.snd).sum

def add (sums : Dict K M) (k : K) (amount : M) : Dict K M := sums.set k (sums.getD k 0 + amount)

def sums (bookings : List (K × M)) : Dict K M :=
  bookings.foldl (fun sums booking => add sums booking.1 booking.2) ∅

omit [DecidableEq K] in
@[simp] theorem total_append (earlier later : List (K × M)) :
    total (earlier ++ later) = total earlier + total later := by
  simp [total]

@[simp] theorem totalOn_append (k : K) (earlier later : List (K × M)) :
    totalOn k (earlier ++ later) = totalOn k earlier + totalOn k later := by
  simp [totalOn]

omit [DecidableEq K] in
@[simp] theorem total_singleton (k : K) (amount : M) : total [(k, amount)] = amount := by
  simp [total]

@[simp] theorem totalOn_singleton (j k : K) (amount : M) :
    totalOn j [(k, amount)] = if k = j then amount else 0 := by
  by_cases same : k = j <;> simp [totalOn, same]

theorem getD_add (d : Dict K M) (j k : K) (amount : M) :
    (add d k amount).getD j 0 = d.getD j 0 + if k = j then amount else 0 := by
  by_cases same : k = j
  · subst same
    simp [add, Dict.getD]
  · rw [if_neg same, add_zero, add, Dict.getD, Dict.get?_set_of_ne _ (Ne.symm same), Dict.getD]

theorem sumOf_add (d : Dict K M) (k : K) (amount : M) :
    (add d k amount).sumOf (fun _ sum => sum) = d.sumOf (fun _ sum => sum) + amount := by
  cases found : d.get? k with
  | none => simp [add, Dict.getD, found, Dict.sumOf_set_new found]
  | some sum =>
    rw [add, ← Dict.sumOf_erase (Dict.get?_set_self _ _ _), Dict.erase_set, Dict.getD, found,
      Option.getD_some, ← add_assoc, Dict.sumOf_erase found]

theorem getD_sums (k : K) (bookings : List (K × M)) :
    (sums bookings).getD k 0 = totalOn k bookings := by
  induction bookings using List.reverseRecOn with
  | nil => rfl
  | append_singleton bookings booking ih =>
    have step : sums (bookings ++ [booking]) = add (sums bookings) booking.1 booking.2 := by
      simp [sums]
    rw [step, getD_add, ih, totalOn_append, totalOn_singleton]

theorem sumOf_sums (bookings : List (K × M)) :
    (sums bookings).sumOf (fun _ sum => sum) = total bookings := by
  induction bookings using List.reverseRecOn with
  | nil => rfl
  | append_singleton bookings booking ih =>
    have step : sums (bookings ++ [booking]) = add (sums bookings) booking.1 booking.2 := by
      simp [sums]
    rw [step, sumOf_add, ih, total_append, total_singleton]

theorem totalOn_cons (j : K) (booking : K × M) (bookings : List (K × M)) :
    totalOn j (booking :: bookings) =
      (if booking.1 = j then booking.2 else 0) + totalOn j bookings := by
  by_cases same : booking.1 = j <;> simp [totalOn, same]

theorem sum_ite {k : K} {amount : M} {ks : List K} (distinct : ks.Nodup) (member : k ∈ ks) :
    (ks.map fun j => if k = j then amount else 0).sum = amount := by
  induction ks with
  | nil => cases member
  | cons j rest ih =>
    obtain ⟨fresh, distinct⟩ := List.nodup_cons.mp distinct
    rw [List.map_cons, List.sum_cons]
    by_cases here : k = j
    · have none : (rest.map fun j => if k = j then amount else 0).sum = 0 := by
        refine List.sum_eq_zero ?_
        intro x among
        obtain ⟨i, later, rfl⟩ := List.mem_map.mp among
        refine if_neg ?_
        rintro rfl
        exact fresh (here ▸ later)
      rw [if_pos here, none, add_zero]
    · rw [if_neg here, zero_add]
      exact ih distinct ((List.mem_cons.mp member).resolve_left here)

theorem total_eq_sum_totalOn (bookings : List (K × M)) {ks : List K} (distinct : ks.Nodup)
    (all : ∀ booking ∈ bookings, booking.1 ∈ ks) :
    total bookings = (ks.map fun k => totalOn k bookings).sum := by
  induction bookings with
  | nil => simp [total, totalOn]
  | cons booking rest ih =>
    have later := ih fun b member => all b (List.mem_cons_of_mem _ member)
    simp only [totalOn_cons, List.sum_map_add,
      sum_ite distinct (all booking List.mem_cons_self), ← later]
    simp [total]

theorem total_eq_zero {bookings : List (K × M)} (cancel : ∀ k, totalOn k bookings = 0) :
    total bookings = 0 := by
  rw [← sumOf_sums, Dict.sumOf_congr (g := fun _ _ => 0)]
  · simp [Dict.sumOf]
  · intro k sum found
    have same := getD_sums k bookings
    rwa [Dict.getD, found, Option.getD_some, cancel k] at same

end Tally
