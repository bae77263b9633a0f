import Mathlib.Logic.Basic

/- Two words written with a separator between them. The text does not tell where the first
   one ends, unless the separator is in neither. -/
namespace Delimited
variable {α : Type} {sep : α} {a b c d : List α}

/-- The first word of the second pair goes on with the separator and what begins the second
    word of the first. -/
def Shifted (sep : α) (a b c d : List α) : Prop :=
  ∃ x, c = a ++ sep :: x ∧ b = x ++ sep :: d

theorem append_sep_eq_of_shifted (shifted : Shifted sep a b c d) :
    a ++ sep :: b = c ++ sep :: d := by
  obtain ⟨x, rfl, rfl⟩ := shifted
  simp

theorem cut_of_longer {x : List α} (longer : c = a ++ x) (rest : sep :: b = x ++ sep :: d) :
    a = c ∧ b = d ∨ Shifted sep a b c d := by
  cases x with
  | nil =>
    rw [List.append_nil] at longer
    exact Or.inl ⟨longer.symm, (List.cons.inj rest).2⟩
  | cons first x =>
    obtain ⟨rfl, later⟩ := List.cons.inj rest
    exact Or.inr ⟨x, longer, later⟩

/-- Two pairs with one text are the same pair, or one is the other with a separator passed
    over. -/
theorem append_sep_eq_iff : a ++ sep :: b = c ++ sep :: d ↔
    a = c ∧ b = d ∨ Shifted sep a b c d ∨ Shifted sep c d a b := by
  constructor
  · intro same
    rcases List.append_eq_append_iff.mp same with ⟨x, longer, rest⟩ | ⟨x, longer, rest⟩
    · exact (cut_of_longer longer rest).imp_right Or.inl
    · rcases cut_of_longer longer rest with ⟨rfl, rfl⟩ | shifted
      · exact Or.inl ⟨rfl, rfl⟩
      · exact Or.inr (Or.inr shifted)
  · rintro (⟨rfl, rfl⟩ | shifted | shifted)
    · rfl
    · exact append_sep_eq_of_shifted shifted
    · exact (append_sep_eq_of_shifted shifted).symm

/-- With the separator in neither first word the text tells where they end. -/
theorem append_sep_cancel (absent : sep ∉ a) (absent' : sep ∉ c)
    (same : a ++ sep :: b = c ++ sep :: d) : a = c ∧ b = d := by
  rcases append_sep_eq_iff.mp same with equal | shifted | shifted
  · exact equal
  · obtain ⟨x, rfl, _⟩ := shifted
    exact absurd (List.mem_append_right a List.mem_cons_self) absent'
  · obtain ⟨x, rfl, _⟩ := shifted
    exact absurd (List.mem_append_right c List.mem_cons_self) absent

end Delimited
