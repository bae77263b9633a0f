import Mathlib.Algebra.Order.Field.Basic
import Mathlib.Algebra.Order.Group.MinMax
import Mathlib.Tactic.Linarith
import Mathlib.Tactic.Ring

/- Exponential moving averages: each value is mixed into the average of those before it, with
   weights that add up to one only nearly and a result that is only close to the mixture. -/
namespace MovingAverage
variable {K : Type} [Field K] [LinearOrder K] [IsStrictOrderedRing K]
  {own rest value average mixed bound slack error : K}

/-- What comes out is not above a bound by more than the average before was allowed to be. -/
theorem mixed_le (ownNonneg : 0 ≤ own) (restNonneg : 0 ≤ rest)
    (close : |mixed - (own * value + rest * average)| ≤ error)
    (room : |own + rest - 1| * |bound| + rest * slack + error ≤ slack)
    (valueLe : value ≤ bound) (averageLe : average ≤ bound + slack) : mixed ≤ bound + slack := by
  have off : (own + rest - 1) * bound ≤ |own + rest - 1| * |bound| := by
    rw [← abs_mul]
    exact le_abs_self _
  have above := (abs_le.mp close).2
  have first := mul_le_mul_of_nonneg_left valueLe ownNonneg
  have second := mul_le_mul_of_nonneg_left averageLe restNonneg
  calc mixed
      ≤ own * value + rest * average + error := by linarith
    _ ≤ own * bound + rest * (bound + slack) + error := by linarith
    _ = bound + ((own + rest - 1) * bound + rest * slack + error) := by ring
    _ ≤ bound + slack := by linarith

theorem le_mixed (ownNonneg : 0 ≤ own) (restNonneg : 0 ≤ rest)
    (close : |mixed - (own * value + rest * average)| ≤ error)
    (room : |own + rest - 1| * |bound| + rest * slack + error ≤ slack)
    (leValue : bound ≤ value) (leAverage : bound - slack ≤ average) : bound - slack ≤ mixed := by
  have mirrored : |-mixed - (own * -value + rest * -average)| ≤ error := by
    rw [← abs_neg]
    have same : -(-mixed - (own * -value + rest * -average)) =
        mixed - (own * value + rest * average) := by ring
    rwa [same]
  rw [← abs_neg bound] at room
  have below := mixed_le ownNonneg restNonneg mirrored room (neg_le_neg leValue) (by linarith)
  linarith

variable {lightest scale : K}

/-- Where the smaller weight times the distance of the two makes up for the errors, the mixture
    stays between them. -/
theorem mixed_le_max (ownLeast : lightest ≤ own) (restLeast : lightest ≤ rest)
    (close : |mixed - (own * value + rest * average)| ≤ error)
    (valueSize : |value| ≤ scale) (averageSize : |average| ≤ scale)
    (room : |own + rest - 1| * scale + error ≤ lightest * |value - average|) :
    mixed ≤ max average value := by
  have above := (abs_le.mp close).2
  have off {bound : K} (size : |bound| ≤ scale) :
      (own + rest - 1) * bound ≤ |own + rest - 1| * scale := by
    calc (own + rest - 1) * bound
        ≤ |(own + rest - 1) * bound| := le_abs_self _
      _ = |own + rest - 1| * |bound| := abs_mul _ _
      _ ≤ |own + rest - 1| * scale := mul_le_mul_of_nonneg_left size (abs_nonneg _)
  rcases le_total average value with le | le
  · rw [max_eq_right le]
    rw [abs_of_nonneg (sub_nonneg.mpr le)] at room
    have pulled := mul_le_mul_of_nonneg_right restLeast (sub_nonneg.mpr le)
    linarith [off valueSize]
  · rw [max_eq_left le]
    rw [abs_of_nonpos (sub_nonpos.mpr le)] at room
    have pulled := mul_le_mul_of_nonneg_right ownLeast (sub_nonneg.mpr le)
    linarith [off averageSize]

theorem min_le_mixed (ownLeast : lightest ≤ own) (restLeast : lightest ≤ rest)
    (close : |mixed - (own * value + rest * average)| ≤ error)
    (valueSize : |value| ≤ scale) (averageSize : |average| ≤ scale)
    (room : |own + rest - 1| * scale + error ≤ lightest * |value - average|) :
    min average value ≤ mixed := by
  have mirrored : |-mixed - (own * -value + rest * -average)| ≤ error := by
    rw [← abs_neg]
    have same : -(-mixed - (own * -value + rest * -average)) =
        mixed - (own * value + rest * average) := by ring
    rwa [same]
  have apart : |-value - -average| = |value - average| := by
    rw [← abs_neg]
    ring_nf
  rw [← abs_neg] at valueSize averageSize
  rw [← apart] at room
  have above := mixed_le_max ownLeast restLeast mirrored valueSize averageSize room
  rw [max_neg_neg] at above
  exact neg_le_neg_iff.mp above

end MovingAverage
