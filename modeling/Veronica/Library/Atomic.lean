import Mathlib.Logic.Basic

/- Operations on a state that either complete or leave what is seen of the state as it was. -/
namespace Atomic
variable {S E A V : Type} {view : S → V} {before after : S}

/-- `done` is what an operation on `before` left behind and answered. -/
def AtomicAt (view : S → V) (before : S) (done : S × Except E A) : Prop :=
  ∀ e, done.2 = .error e → view done.1 = view before

theorem atomicAt_unchanged (answer : Except E A) : AtomicAt view before (before, answer) := by
  intro e _
  rfl

theorem atomicAt_ok (a : A) : AtomicAt view before (after, (.ok a : Except E A)) := by
  intro e raised
  cases raised

theorem atomicAt_error_iff {e : E} :
    AtomicAt view before (after, (.error e : Except E A)) ↔ view after = view before := by
  constructor
  · intro atomic
    exact atomic e rfl
  · intro same _ _
    exact same

theorem atomicAt_map_iff {B : Type} {done : S × Except E A} (present : A → B) :
    AtomicAt view before (done.1, done.2.map present) ↔ AtomicAt view before done := by
  obtain ⟨after, answer⟩ := done
  cases answer with
  | error e => exact atomicAt_error_iff.trans atomicAt_error_iff.symm
  | ok a => exact iff_of_true (atomicAt_ok (present a)) (atomicAt_ok a)

end Atomic
