import Mathlib.Algebra.BigOperators.Ring.List
import Mathlib.Algebra.Order.BigOperators.Group.List
import Mathlib.Algebra.Order.Field.Basic
import Mathlib.Tactic.FieldSimp
import Mathlib.Tactic.Linarith
import Mathlib.Tactic.Ring

/- A budget divided by weight among items with caps. What the capped items leave over goes to the
   open ones, again by weight; it is not divided where it or their weight is negligible. -/
namespace WeightedShares
variable {A K : Type} [Field K] [LinearOrder K]

structure Division (A K : Type) where
  items : List A
  weight : A → K
  cap : A → K
  budget : K
  negligible : K

namespace Division
variable (s : Division A K)

def share (x : A) : K := s.weight x / (s.items.map s.weight).sum * s.budget

def isCapped (x : A) : Bool := decide (s.cap x < s.share x)

def capped : List A := s.items.filter s.isCapped
def uncapped : List A := s.items.filter fun x => !s.isCapped x

def surplus : K := (s.capped.map fun x => s.share x - s.cap x).sum
def openWeight : K := (s.uncapped.map s.weight).sum

/-- There is something to redistribute, and somebody to give it to. -/
def redistributes : Bool := decide (s.negligible < s.surplus ∧ s.negligible < s.openWeight)

def extra (x : A) : K := s.weight x / s.openWeight * s.surplus

/-- What an item is entitled to: its cap, or its share and its part of the surplus. -/
def entitlement (x : A) : K :=
  if s.isCapped x then s.cap x
  else if s.redistributes then min (s.share x + s.extra x) (s.cap x)
  else s.share x

/-- What an open item cannot take of its part of the surplus. -/
def overflow (x : A) : K := max 0 (s.share x + s.extra x - s.cap x)

def lost : K := (s.uncapped.map s.overflow).sum

structure Sound (s : Division A K) : Prop where
  weights : ∀ x ∈ s.items, 0 < s.weight x
  caps : ∀ x ∈ s.items, 0 ≤ s.cap x
  budget : 0 ≤ s.budget
  negligible : 0 ≤ s.negligible

end Division

/-- The sum over a list is the sum over the items that pass a test and those that do not. -/
theorem sum_split {M : Type} [AddCommMonoid M] (p : A → Bool) (f : A → M) (xs : List A) :
    (xs.map f).sum = ((xs.filter p).map f).sum + ((xs.filter fun x => !p x).map f).sum := by
  rw [← List.sum_append, ← List.map_append]
  exact ((List.filter_append_perm p xs).map f).sum_eq.symm

omit [LinearOrder K] in
theorem sum_parts (f : A → K) (whole amount : K) (xs : List A) :
    (xs.map fun x => f x / whole * amount).sum = (xs.map f).sum / whole * amount := by
  induction xs with
  | nil => simp
  | cons x xs ih =>
    rw [List.map_cons, List.sum_cons, ih, List.map_cons, List.sum_cons]
    ring

variable {s : Division A K}

theorem Division.entitlement_le_cap (x : A) : s.entitlement x ≤ s.cap x := by
  unfold Division.entitlement
  split
  · exact le_refl _
  · rename_i uncapped
    split
    · exact min_le_right _ _
    · exact not_lt.mp fun capped => uncapped (decide_eq_true capped)

variable [IsStrictOrderedRing K]

theorem Division.surplus_nonneg : 0 ≤ s.surplus := by
  refine List.sum_nonneg ?_
  intro rest member
  obtain ⟨x, among, rfl⟩ := List.mem_map.mp member
  exact sub_nonneg.mpr (of_decide_eq_true (List.mem_filter.mp among).2).le

theorem Division.sum_extra_le : (s.uncapped.map s.extra).sum ≤ s.surplus := by
  have parts : (s.uncapped.map s.extra).sum = s.openWeight / s.openWeight * s.surplus :=
    sum_parts _ _ _ _
  rw [parts]
  exact mul_le_of_le_one_left surplus_nonneg (div_self_le_one _)

omit [IsStrictOrderedRing K] in
theorem Division.sum_capped :
    (s.capped.map s.entitlement).sum + s.surplus = (s.capped.map s.share).sum := by
  have capped_eq : ∀ x ∈ s.capped, s.entitlement x + (s.share x - s.cap x) = s.share x := by
    intro x member
    rw [Division.entitlement, if_pos (List.mem_filter.mp member).2, add_sub_cancel]
  rw [Division.surplus, ← List.sum_map_add, List.map_congr_left capped_eq]

theorem Division.lost_nonneg : 0 ≤ s.lost := by
  refine List.sum_nonneg ?_
  intro part member
  obtain ⟨x, _, rfl⟩ := List.mem_map.mp member
  exact le_max_left _ _

namespace Division.Sound
variable (sound : s.Sound)
include sound

theorem total_nonneg : 0 ≤ (s.items.map s.weight).sum := by
  refine List.sum_nonneg ?_
  intro weight member
  obtain ⟨x, among, rfl⟩ := List.mem_map.mp member
  exact (sound.weights x among).le

theorem weight_le_sum {xs : List A} (among : ∀ y ∈ xs, y ∈ s.items) {x : A} (member : x ∈ xs) :
    s.weight x ≤ (xs.map s.weight).sum := by
  refine List.single_le_sum ?_ _ (List.mem_map_of_mem member)
  intro weight listed
  obtain ⟨y, memberY, rfl⟩ := List.mem_map.mp listed
  exact (sound.weights y (among y memberY)).le

theorem total_pos {x : A} (member : x ∈ s.items) : 0 < (s.items.map s.weight).sum :=
  (sound.weights x member).trans_le (sound.weight_le_sum (fun _ listed => listed) member)

theorem share_nonneg {x : A} (member : x ∈ s.items) : 0 ≤ s.share x :=
  mul_nonneg (div_nonneg (sound.weights x member).le sound.total_nonneg) sound.budget

theorem share_mono {x y : A} (weight_le : s.weight y ≤ s.weight x) : s.share y ≤ s.share x :=
  mul_le_mul_of_nonneg_right (div_le_div_of_nonneg_right weight_le sound.total_nonneg) sound.budget

theorem openWeight_nonneg : 0 ≤ s.openWeight := by
  refine List.sum_nonneg ?_
  intro weight member
  obtain ⟨x, among, rfl⟩ := List.mem_map.mp member
  exact (sound.weights x (List.mem_of_mem_filter among)).le

theorem extra_nonneg {x : A} (member : x ∈ s.items) : 0 ≤ s.extra x :=
  mul_nonneg (div_nonneg (sound.weights x member).le sound.openWeight_nonneg) surplus_nonneg

theorem extra_mono {x y : A} (weight_le : s.weight y ≤ s.weight x) : s.extra y ≤ s.extra x :=
  mul_le_mul_of_nonneg_right (div_le_div_of_nonneg_right weight_le sound.openWeight_nonneg)
    surplus_nonneg

theorem entitlement_nonneg {x : A} (member : x ∈ s.items) : 0 ≤ s.entitlement x := by
  have cap := sound.caps x member
  have share := sound.share_nonneg member
  unfold Division.entitlement
  split
  · exact cap
  · split
    · exact le_min (add_nonneg share (sound.extra_nonneg member)) cap
    · exact share

theorem entitlement_mono {x y : A} (memberX : x ∈ s.items) (weight_le : s.weight y ≤ s.weight x)
    (cap_le : s.cap y ≤ s.cap x) : s.entitlement y ≤ s.entitlement x := by
  have shares := sound.share_mono weight_le
  by_cases cappedX : s.isCapped x = true
  · have own : s.entitlement x = s.cap x := by rw [Division.entitlement, if_pos cappedX]
    rw [own]
    exact (entitlement_le_cap y).trans cap_le
  have roomX : s.share x ≤ s.cap x := not_lt.mp fun capped => cappedX (decide_eq_true capped)
  have share_le : s.share x ≤ s.entitlement x := by
    rw [Division.entitlement, if_neg cappedX]
    split
    · exact le_min (le_add_of_nonneg_right (sound.extra_nonneg memberX)) roomX
    · exact le_refl _
  by_cases cappedY : s.isCapped y = true
  · have own : s.entitlement y = s.cap y := by rw [Division.entitlement, if_pos cappedY]
    rw [own]
    exact ((of_decide_eq_true cappedY).le.trans shares).trans share_le
  rw [Division.entitlement, Division.entitlement, if_neg cappedX, if_neg cappedY]
  split
  · exact min_le_min (add_le_add shares (sound.extra_mono weight_le)) cap_le
  · exact shares

theorem sum_share_le : (s.items.map s.share).sum ≤ s.budget := by
  have parts : (s.items.map s.share).sum =
      (s.items.map s.weight).sum / (s.items.map s.weight).sum * s.budget := sum_parts _ _ _ _
  rw [parts]
  exact mul_le_of_le_one_left sound.budget (div_self_le_one _)

theorem sum_share (some : s.items ≠ []) : (s.items.map s.share).sum = s.budget := by
  obtain ⟨x, member⟩ := List.exists_mem_of_ne_nil s.items some
  have parts : (s.items.map s.share).sum =
      (s.items.map s.weight).sum / (s.items.map s.weight).sum * s.budget := sum_parts _ _ _ _
  rw [parts, div_self (sound.total_pos member).ne', one_mul]

theorem lost_le_surplus : s.lost ≤ s.surplus := by
  refine le_trans ?_ s.sum_extra_le
  refine List.sum_le_sum ?_
  intro x member
  obtain ⟨among, uncapped⟩ := List.mem_filter.mp member
  have room : s.share x ≤ s.cap x := by simpa [Division.isCapped] using uncapped
  exact max_le (sound.extra_nonneg among) (by linarith)

theorem sum_entitlement_redistributed (redistributes : s.redistributes = true) :
    (s.items.map s.entitlement).sum + s.lost = (s.items.map s.share).sum := by
  have weight : s.openWeight ≠ 0 :=
    (sound.negligible.trans_lt (of_decide_eq_true redistributes).2).ne'
  have parts : (s.uncapped.map s.extra).sum = s.openWeight / s.openWeight * s.surplus :=
    sum_parts _ _ _ _
  rw [div_self weight, one_mul] at parts
  have taken : ∀ x ∈ s.uncapped, s.entitlement x + s.overflow x = s.share x + s.extra x := by
    intro x member
    have uncapped := (List.mem_filter.mp member).2
    rw [Division.entitlement, if_neg (by simpa using uncapped), if_pos redistributes,
      Division.overflow]
    rcases le_total (s.share x + s.extra x) (s.cap x) with fits | exceeds
    · rw [min_eq_left fits, max_eq_left (sub_nonpos.mpr fits), add_zero]
    · rw [min_eq_right exceeds, max_eq_right (sub_nonneg.mpr exceeds), add_sub_cancel]
  have open_sum : (s.uncapped.map s.entitlement).sum + s.lost =
      (s.uncapped.map s.share).sum + s.surplus := by
    rw [Division.lost, ← List.sum_map_add, List.map_congr_left taken, List.sum_map_add, parts]
  have cut := s.sum_capped
  rw [sum_split s.isCapped s.entitlement, sum_split s.isCapped s.share]
  change (s.capped.map s.entitlement).sum + (s.uncapped.map s.entitlement).sum + s.lost =
    (s.capped.map s.share).sum + (s.uncapped.map s.share).sum
  linarith

omit sound in
theorem sum_entitlement_kept (kept : s.redistributes = false) :
    (s.items.map s.entitlement).sum + s.surplus = (s.items.map s.share).sum := by
  have own : ∀ x ∈ s.uncapped, s.entitlement x = s.share x := by
    intro x member
    have uncapped := (List.mem_filter.mp member).2
    rw [Division.entitlement, if_neg (by simpa using uncapped), kept]
    rfl
  have cut := s.sum_capped
  rw [sum_split s.isCapped s.entitlement, sum_split s.isCapped s.share]
  change (s.capped.map s.entitlement).sum + (s.uncapped.map s.entitlement).sum + s.surplus =
    (s.capped.map s.share).sum + (s.uncapped.map s.share).sum
  rw [List.map_congr_left own]
  linarith

theorem sum_entitlement_le : (s.items.map s.entitlement).sum ≤ s.budget := by
  have shares := sound.sum_share_le
  cases redistributes : s.redistributes with
  | true =>
    have whole := sound.sum_entitlement_redistributed redistributes
    have lost := s.lost_nonneg
    linarith
  | false =>
    have whole := sum_entitlement_kept redistributes
    have surplus := s.surplus_nonneg
    linarith

/-- Nothing is redistributed only because there is too little surplus or nobody is open. -/
theorem kept_surplus_le (kept : s.redistributes = false)
    (heavy : ∀ x ∈ s.items, s.negligible < s.weight x)
    (enough : s.budget ≤ (s.items.map s.cap).sum) : s.surplus ≤ s.negligible := by
  by_contra more
  have light : s.openWeight ≤ s.negligible := by
    by_contra above
    exact of_decide_eq_false kept ⟨not_le.mp more, not_le.mp above⟩
  have all : s.uncapped = [] := by
    by_contra some
    obtain ⟨x, member⟩ := List.exists_mem_of_ne_nil _ some
    have part : s.weight x ≤ s.openWeight :=
      sound.weight_le_sum (fun _ listed => List.mem_of_mem_filter listed) member
    exact (heavy x (List.mem_of_mem_filter member)).not_ge (part.trans light)
  have caps : (s.items.map s.cap).sum = (s.items.map s.entitlement).sum := by
    refine congrArg List.sum (List.map_congr_left fun x member => ?_)
    have capped : s.isCapped x = true := by
      by_contra uncapped
      have listed : x ∈ s.uncapped := List.mem_filter.mpr ⟨member, by simpa using uncapped⟩
      rw [all] at listed
      cases listed
    rw [Division.entitlement, if_pos capped]
  have whole := sum_entitlement_kept kept
  have shares := sound.sum_share_le
  have positive := sound.negligible
  rw [not_le] at more
  linarith

/-- With caps that hold the budget, only the overflow stays undivided, up to what is negligible. -/
theorem undivided (heavy : ∀ x ∈ s.items, s.negligible < s.weight x)
    (some : s.items ≠ []) (enough : s.budget ≤ (s.items.map s.cap).sum) :
    s.budget - (s.items.map s.entitlement).sum = s.lost ∨
      (s.budget - (s.items.map s.entitlement).sum ≤ s.negligible ∧ s.lost ≤ s.negligible) := by
  have shares := sound.sum_share some
  cases redistributes : s.redistributes with
  | true =>
    have whole := sound.sum_entitlement_redistributed redistributes
    exact Or.inl (by linarith)
  | false =>
    have whole := sum_entitlement_kept redistributes
    have little := sound.kept_surplus_le redistributes heavy enough
    exact Or.inr ⟨by linarith, sound.lost_le_surplus.trans little⟩

end Division.Sound

end WeightedShares
