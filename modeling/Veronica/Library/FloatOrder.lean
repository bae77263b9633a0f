import Mathlib.Order.WithBot
import Veronica.Library.PyConversions

/- The order of floats, for keys of a sort. -/
namespace PyFloat

/-- The place of a float among the others. NaN has none of its own: a list of keys with NaN among
    them has no order that Python promises. -/
def rank : PyFloat → WithBot (WithTop ℚ)
  | .finite q => ((q : WithTop ℚ) : WithBot (WithTop ℚ))
  | .inf => ((⊤ : WithTop ℚ) : WithBot (WithTop ℚ))
  | .negInf | .nan => ⊥

theorem rank_le_iff {x y : PyFloat} (numberX : x ≠ .nan) (numberY : y ≠ .nan) :
    x.rank ≤ y.rank ↔ x.le y = true := by
  cases x with
  | nan => exact absurd rfl numberX
  | negInf => cases y <;> simp_all [rank, le]
  | inf => cases y <;> simp_all [rank, le]
  | finite p => cases y <;> simp_all [rank, le]

theorem rank_finite_le {p q : ℚ} : (PyFloat.finite p).rank ≤ (PyFloat.finite q).rank ↔ p ≤ q := by
  simp [rank]

def ofRank : WithBot (WithTop ℚ) → PyFloat
  | none => .negInf
  | some none => .inf
  | some (some q) => .finite q

theorem ofRank_rank {x : PyFloat} (number : x ≠ .nan) : ofRank x.rank = x := by
  cases x with
  | nan => exact absurd rfl number
  | negInf | inf | finite => rfl

theorem map_rank_inj {xs ys : List PyFloat} (numbersX : ∀ x ∈ xs, x ≠ .nan)
    (numbersY : ∀ y ∈ ys, y ≠ .nan) (same : xs.map rank = ys.map rank) : xs = ys := by
  have read : ∀ zs : List PyFloat, (∀ z ∈ zs, z ≠ .nan) → (zs.map rank).map ofRank = zs := by
    intro zs numbers
    rw [List.map_map]
    exact (List.map_congr_left fun z member => ofRank_rank (numbers z member)).trans (List.map_id _)
  rw [← read xs numbersX, same, read ys numbersY]

end PyFloat
