import Mathlib.Data.List.Forall2
import Mathlib.Data.List.MinMax
import Mathlib.Data.List.Nodup
import Mathlib.Order.Lattice

/- A stable sort by a key. Which keys come out is decided by the elements alone; which of several
   elements with one key comes first is decided by the order they came in. -/
namespace KeyedSort
variable {A K : Type} [LinearOrder K] (key : A → K)

def noLater (a b : A) : Bool := decide (key a ≤ key b)

def sorted (xs : List A) : List A := xs.mergeSort (noLater key)

/-- The elements with a smaller key than this one. -/
def ahead (xs : List A) (x : A) : List A := xs.filter fun y => decide (key y < key x)

theorem sorted_perm (xs : List A) : (sorted key xs).Perm xs := List.mergeSort_perm _ _

theorem pairwise_noLater {xs : List A} :
    xs.Pairwise (fun a b => noLater key a b = true) ↔ xs.Pairwise (fun a b => key a ≤ key b) := by
  simp only [noLater, decide_eq_true_eq]

theorem sorted_pairwise (xs : List A) : (sorted key xs).Pairwise fun a b => key a ≤ key b := by
  have total : ∀ a b, (noLater key a b || noLater key b a) = true := by
    intro a b
    simpa [noLater] using le_total (key a) (key b)
  have trans : ∀ a b c, noLater key a b = true → noLater key b c = true →
      noLater key a c = true := by
    intro a b c first second
    exact decide_eq_true ((of_decide_eq_true first).trans (of_decide_eq_true second))
  exact (pairwise_noLater key).mp (List.pairwise_mergeSort trans total xs)

theorem sorted_of_pairwise {xs : List A} (inOrder : xs.Pairwise fun a b => key a ≤ key b) :
    sorted key xs = xs := List.mergeSort_of_pairwise ((pairwise_noLater key).mpr inOrder)

/-- Where the keys are distinct, the order the elements came in does not matter. -/
theorem sorted_of_strict {xs ys : List A} (perm : xs.Perm ys)
    (strict : ys.Pairwise fun a b => key a < key b) : sorted key xs = ys := by
  refine ((sorted_perm key xs).trans perm).eq_of_pairwise ?_ (sorted_pairwise key xs)
    (strict.imp le_of_lt)
  intro a b memberA memberB first second
  have distinct : (ys.map key).Nodup := List.pairwise_map.mpr (strict.imp fun earlier => earlier.ne)
  exact List.inj_on_of_nodup_map distinct (((sorted_perm key xs).trans perm).subset memberA) memberB
    (le_antisymm first second)

theorem same_keys {xs ys : List A} (perm : xs.Perm ys) :
    List.Forall₂ (fun a b => key a = key b) (sorted key xs) (sorted key ys) := by
  have keys : (sorted key xs).map key = (sorted key ys).map key := by
    refine List.Perm.eq_of_pairwise (fun _ _ _ _ => le_antisymm)
      (List.pairwise_map.mpr (sorted_pairwise key xs))
      (List.pairwise_map.mpr (sorted_pairwise key ys)) ?_
    exact (((sorted_perm key xs).trans perm).trans (sorted_perm key ys).symm).map key
  have equal := List.forall₂_eq_eq_eq.symm ▸ keys
  exact List.forall₂_map_right_iff.mp (List.forall₂_map_left_iff.mp equal)

section Place
variable {key} {xs pre rest : List A} {x : A} (place : sorted key xs = pre ++ x :: rest)
include place

theorem ahead_sublist : ∃ before : List A, before.Sublist pre ∧ (ahead key xs x).Perm before := by
  refine ⟨ahead key pre x, List.filter_sublist, ?_⟩
  have perm : (ahead key xs x).Perm (ahead key (pre ++ x :: rest) x) := by
    rw [← place]
    exact ((sorted_perm key xs).symm.filter _)
  have none : ahead key (x :: rest) x = [] := by
    have inOrder := sorted_pairwise key xs
    rw [place] at inOrder
    have later := (List.pairwise_cons.mp (List.pairwise_append.mp inOrder).2.1).1
    rw [ahead, List.filter_eq_nil_iff]
    intro y member smaller
    rcases List.mem_cons.mp member with rfl | member
    · exact lt_irrefl _ (of_decide_eq_true smaller)
    · exact (later y member).not_gt (of_decide_eq_true smaller)
  refine perm.trans ?_
  rw [ahead, List.filter_append, ← ahead, ← ahead, none, List.append_nil]

theorem ahead_before {y : A} (member : y ∈ ahead key xs x) : y ∈ pre := by
  obtain ⟨before, sub, perm⟩ := ahead_sublist place
  exact sub.subset (perm.mem_iff.mp member)

theorem ahead_length_le : (ahead key xs x).length ≤ pre.length := by
  obtain ⟨before, sub, perm⟩ := ahead_sublist place
  exact perm.length_eq.trans_le sub.length_le

end Place

/-- A new first element comes after those with a smaller key and before all others. -/
theorem sorted_around (x : A) (xs : List A) : ∃ pre rest, sorted key (x :: xs) = pre ++ x :: rest ∧
    sorted key xs = pre ++ rest ∧ (∀ y ∈ pre, key y < key x) ∧ ∀ y ∈ rest, ¬ key y < key x := by
  have total : ∀ a b, (noLater key a b || noLater key b a) = true := by
    intro a b
    simpa [noLater] using le_total (key a) (key b)
  have trans : ∀ a b c, noLater key a b = true → noLater key b c = true →
      noLater key a c = true := by
    intro a b c first second
    exact decide_eq_true ((of_decide_eq_true first).trans (of_decide_eq_true second))
  obtain ⟨pre, rest, whole, without, before⟩ := List.mergeSort_cons trans total x xs
  refine ⟨pre, rest, whole, without, ?_, ?_⟩
  · intro y member
    simpa [noLater] using before y member
  · intro y member
    have inOrder := sorted_pairwise key (x :: xs)
    rw [sorted, whole] at inOrder
    have after := (List.pairwise_cons.mp (List.pairwise_append.mp inOrder).2.1).1
    exact not_lt.mpr (after y member)

theorem sorted_cons (x : A) (xs : List A) : sorted key (x :: xs) =
    ahead key (sorted key xs) x ++
      x :: (sorted key xs).filter fun y => !decide (key y < key x) := by
  obtain ⟨pre, rest, whole, without, smaller, later⟩ := sorted_around key x xs
  have front : ahead key (pre ++ rest) x = pre := by
    rw [ahead, List.filter_append, List.filter_eq_self.mpr, List.filter_eq_nil_iff.mpr,
      List.append_nil]
    · simpa using later
    · simpa using smaller
  have back : ((pre ++ rest).filter fun y => !decide (key y < key x)) = rest := by
    rw [List.filter_append, List.filter_eq_nil_iff.mpr, List.filter_eq_self.mpr, List.nil_append]
    · simpa using later
    · simpa using smaller
  rw [whole, without, front, back]

/-- The sorted order of some of the elements is kept when others come in among them. -/
theorem sorted_sublist {xs ys : List A} (part : xs.Sublist ys) :
    (sorted key xs).Sublist (sorted key ys) := by
  induction part with
  | slnil => exact List.Sublist.refl _
  | @cons xs ys y _ ih =>
    have removed : (sorted key ys).Sublist (sorted key (y :: ys)) := by
      obtain ⟨pre, rest, whole, without, _⟩ := sorted_around key y ys
      rw [whole, without]
      exact (List.sublist_cons_self y rest).append_left pre
    exact ih.trans removed
  | @cons_cons xs ys x _ ih =>
    rw [sorted_cons, sorted_cons]
    exact (ih.filter _).append ((ih.filter _).cons_cons x)

/-- It makes no difference whether some are picked before or after sorting. -/
theorem sorted_filter (keep : A → Bool) (xs : List A) :
    sorted key (xs.filter keep) = (sorted key xs).filter keep := by
  have kept : (sorted key (xs.filter keep)).filter keep = sorted key (xs.filter keep) := by
    rw [List.filter_eq_self]
    intro x member
    exact (List.mem_filter.mp ((sorted_perm key _).mem_iff.mp member)).2
  have part := (sorted_sublist key (List.filter_sublist (p := keep) (l := xs))).filter keep
  rw [kept] at part
  refine part.eq_of_length ?_
  rw [(sorted_perm key _).length_eq, ((sorted_perm key xs).filter keep).length_eq]

theorem sorted_ties (xs : List A) (k : K) :
    (sorted key xs).filter (fun x => key x = k) = xs.filter fun x => key x = k := by
  rw [← sorted_filter]
  refine sorted_of_pairwise key ?_
  refine List.pairwise_of_forall_mem_list ?_
  intro a memberA b memberB
  have keyA : key a = k := by simpa using (List.mem_filter.mp memberA).2
  have keyB : key b = k := by simpa using (List.mem_filter.mp memberB).2
  rw [keyA, keyB]

theorem head?_sorted (xs : List A) : (sorted key xs).head? = xs.argmin key := by
  induction xs with
  | nil => rw [sorted, List.mergeSort_nil, List.head?_nil, List.argmin_nil]
  | cons x rest ih =>
    obtain ⟨pre, later, whole, without, smaller, larger⟩ := sorted_around key x rest
    rw [List.argmin_cons, ← ih, whole, without]
    cases pre with
    | nil =>
      cases later with
      | nil => rfl
      | cons y later =>
        have notSmaller := larger y List.mem_cons_self
        simp [notSmaller]
    | cons y pre =>
      have below := smaller y List.mem_cons_self
      simp [below]

theorem perm_of_two_members {xs : List A} {x y : A} (memberX : x ∈ xs) (memberY : y ∈ xs)
    (distinct : x ≠ y) : ∃ rest, xs.Perm (x :: y :: rest) := by
  obtain ⟨left, right, rfl⟩ := List.append_of_mem memberX
  have among : y ∈ left ++ right := by
    simp only [List.mem_append, List.mem_cons] at memberY ⊢
    rcases memberY with before | same | after
    · exact Or.inl before
    · exact absurd same.symm distinct
    · exact Or.inr after
  obtain ⟨left', right', eq⟩ := List.append_of_mem among
  refine ⟨left' ++ right', List.perm_middle.trans ?_⟩
  rw [eq]
  exact List.perm_middle.cons x

theorem pairwise_around {pre rest : List A} {x y : A} (tied : key x = key y)
    (before : pre.Pairwise fun a b => key a ≤ key b) (smaller : ∀ a ∈ pre, key a < key x)
    (after : rest.Pairwise fun a b => key a ≤ key b) (larger : ∀ b ∈ rest, key x ≤ key b) :
    (pre ++ x :: y :: rest).Pairwise fun a b => key a ≤ key b := by
  refine List.pairwise_append.mpr ⟨before, ?_, ?_⟩
  · refine List.pairwise_cons.mpr ⟨?_, List.pairwise_cons.mpr ⟨?_, after⟩⟩
    · intro b later
      rcases List.mem_cons.mp later with rfl | later
      · exact tied.le
      · exact larger b later
    · intro b later
      exact tied.symm.le.trans (larger b later)
  · intro a member b later
    have least := (smaller a member).le
    simp only [List.mem_cons] at later
    rcases later with rfl | rfl | later
    · exact least
    · exact least.trans tied.le
    · exact least.trans (larger b later)

/-- Two elements with one key can come in such an order that either of them is sorted first of
    all that have this key. -/
theorem sorted_first {xs : List A} {x y : A} (memberX : x ∈ xs) (memberY : y ∈ xs)
    (tied : key x = key y) (distinct : x ≠ y) :
    ∃ pre rest, pre.Perm (ahead key xs x) ∧ (pre ++ x :: y :: rest).Perm xs ∧
      (pre ++ x :: y :: rest).Pairwise (fun a b => key a ≤ key b) ∧
      (pre ++ y :: x :: rest).Pairwise (fun a b => key a ≤ key b) := by
  obtain ⟨others, perm⟩ := perm_of_two_members memberX memberY distinct
  have before := sorted_perm key (ahead key others x)
  have after := sorted_perm key (others.filter fun z => !decide (key z < key x))
  have smaller : ∀ a ∈ sorted key (ahead key others x), key a < key x := by
    intro a member
    exact of_decide_eq_true (List.mem_filter.mp (before.mem_iff.mp member)).2
  have larger : ∀ b ∈ sorted key (others.filter fun z => !decide (key z < key x)),
      key x ≤ key b := by
    intro b member
    simpa using (List.mem_filter.mp (after.mem_iff.mp member)).2
  refine ⟨sorted key (ahead key others x),
    sorted key (others.filter fun z => !decide (key z < key x)), ?_, ?_, ?_, ?_⟩
  · have same := perm.filter fun z => decide (key z < key x)
    simp only [tied, lt_irrefl, decide_false, List.filter_cons, Bool.false_eq_true,
      if_false] at same
    rw [← tied] at same
    exact before.trans same.symm
  · have halves := (before.append after).trans (List.filter_append_perm _ others)
    refine List.perm_middle.trans ?_
    exact ((List.perm_middle.trans (halves.cons y)).cons x).trans perm.symm
  · exact pairwise_around key tied (sorted_pairwise key _) smaller (sorted_pairwise key _) larger
  · exact pairwise_around key tied.symm (sorted_pairwise key _)
      (fun a member => (smaller a member).trans_le tied.le) (sorted_pairwise key _)
      fun b member => tied.symm.le.trans (larger b member)

end KeyedSort
