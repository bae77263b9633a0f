import Mathlib.Data.List.Basic

/- Lists whose items are checked one after the other while something is built from them. What
   has been built so far has no say in what is refused. -/
namespace Checks
variable {A S E : Type}

/-- `item` is the first of the items that is refused, and this is why. -/
def FirstRefused (check : A → Except E Unit) (items : List A) (item : A) (e : E) : Prop :=
  ∃ before after, items = before ++ item :: after ∧ (∀ earlier ∈ before, check earlier = .ok ()) ∧
    check item = .error e

variable {check : A → Except E Unit} {items : List A} {build : S → A → Except E S}

theorem firstRefused_cons_ok {first item : A} {e : E} (fine : check first = .ok ()) :
    FirstRefused check (first :: items) item e ↔ FirstRefused check items item e := by
  constructor
  · rintro ⟨before, after, split, passed, refused⟩
    cases before with
    | nil =>
      cases split
      rw [fine] at refused
      cases refused
    | cons earlier before =>
      cases split
      exact ⟨before, after, rfl, fun x member => passed x (List.mem_cons_of_mem _ member), refused⟩
  · rintro ⟨before, after, rfl, passed, refused⟩
    exact ⟨first :: before, after, rfl, List.forall_mem_cons.mpr ⟨fine, passed⟩, refused⟩

theorem firstRefused_cons_error {first item : A} {e failure : E}
    (bad : check first = .error failure) :
    FirstRefused check (first :: items) item e ↔ item = first ∧ e = failure := by
  constructor
  · rintro ⟨before, after, split, passed, refused⟩
    cases before with
    | nil =>
      cases split
      rw [bad] at refused
      cases refused
      exact ⟨rfl, rfl⟩
    | cons earlier before =>
      cases split
      have passed := passed first List.mem_cons_self
      rw [bad] at passed
      cases passed
  · rintro ⟨rfl, rfl⟩
    exact ⟨[], items, rfl, fun _ member => absurd member List.not_mem_nil, bad⟩

/-- A build that fails on an item exactly as its check does, fails with the first refusal. -/
theorem foldlM_error_iff (agree : ∀ s item, (build s item).map (fun _ => ()) = check item) {s : S}
    {e : E} : items.foldlM build s = .error e ↔ ∃ item, FirstRefused check items item e := by
  induction items generalizing s with
  | nil =>
    refine iff_of_false (fun failed => by cases failed) ?_
    rintro ⟨item, before, after, split, _⟩
    simp at split
  | cons first rest ih =>
    have here := agree s first
    rw [List.foldlM_cons]
    cases built : build s first with
    | error failure =>
      rw [built] at here
      simp only [firstRefused_cons_error here.symm, exists_eq_left]
      exact ⟨fun failed => by cases failed; rfl, fun same => by rw [same]; rfl⟩
    | ok next =>
      rw [built] at here
      simp only [firstRefused_cons_ok here.symm]
      exact ih

end Checks
