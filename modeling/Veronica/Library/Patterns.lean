import Mathlib.Data.List.DropRight

/- Regular expressions of one character class, as validators and sanitisers use them. -/
namespace Patterns
variable {accepts : Char → Bool} {least most : Nat} {text : List Char}

def OfClass (accepts : Char → Bool) (least most : Nat) (text : List Char) : Prop :=
  least ≤ text.length ∧ text.length ≤ most ∧ ∀ c ∈ text, accepts c = true

instance : Decidable (OfClass accepts least most text) :=
  decidable_of_iff (least ≤ text.length ∧ text.length ≤ most ∧ text.all accepts = true)
    (by rw [OfClass, List.all_eq_true])

def ThenNewline (accepts : Char → Bool) (least most : Nat) (text : List Char) : Prop :=
  ∃ body, OfClass accepts least most body ∧ text = body ++ ['\n']

/-- `re.match(r"^[...]{least,most}$", text)`: `$` also matches before a final newline. -/
def Matches (accepts : Char → Bool) (least most : Nat) (text : List Char) : Prop :=
  OfClass accepts least most text ∨
    (text.getLast? = some '\n' ∧ OfClass accepts least most text.dropLast)

instance : Decidable (Matches accepts least most text) := inferInstanceAs (Decidable (_ ∨ _))

/-- `re.sub(r"[^...]", replacement, text)` -/
def replaced (accepts : Char → Bool) (replacement : Char) (text : List Char) : List Char :=
  text.map fun c => if accepts c then c else replacement

theorem matches_iff : Matches accepts least most text ↔
    OfClass accepts least most text ∨ ThenNewline accepts least most text := by
  refine or_congr_right ?_
  constructor
  · rintro ⟨last, body⟩
    exact ⟨_, body, (List.dropLast_append_getLast? _ last).symm⟩
  · rintro ⟨body, inClass, rfl⟩
    simpa using inClass

theorem not_ofClass_of_thenNewline (refused : accepts '\n' = false)
    (newline : ThenNewline accepts least most text) : ¬ OfClass accepts least most text := by
  obtain ⟨body, _, rfl⟩ := newline
  intro inClass
  have accepted := inClass.2.2 '\n' (by simp)
  rw [refused] at accepted
  cases accepted

theorem replaced_ofClass {replacement : Char} (accepted : accepts replacement = true)
    (most : Nat) (text : List Char) :
    OfClass accepts 0 most ((replaced accepts replacement text).take most) := by
  refine ⟨Nat.zero_le _, List.length_take_le _ _, ?_⟩
  intro c member
  obtain ⟨d, _, rfl⟩ := List.mem_map.mp (List.mem_of_mem_take member)
  split
  · assumption
  · exact accepted

end Patterns
