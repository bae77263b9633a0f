import Veronica.PolicyUpdates

/- `PolicyDistributor.validate` field by field. -/
namespace VeronicaValidation
open VeronicaDistribution VeronicaPolicyUpdates

/-- The checks `validate` makes of one field. -/
def Passes (value : PyVal) : PolicyField → Prop
  | .ceilingUsd => value.isfinite = .ok true ∧ value.isNegative = .ok false
  | .onExceed => value.inNames allowedOnExceed = .ok true
  | .ceilingSteps => value.isNone = true ∨ value.isNegative = .ok false
  | .ceilingTokensOut | .timeoutMs =>
    value.isNone = true ∨ (value.isfinite = .ok true ∧ value.isNegative = .ok false)
  | .priority => value.isPlainInt = true
  | _ => True

theorem unlessNone_ok_iff (field : PyVal) (check : Except DistributeError Unit) :
    unlessNone field check = .ok () ↔ field.isNone = true ∨ check = .ok () := by
  unfold unlessNone
  split <;> simp_all

theorem unit_bind_ok {ε : Type} {x y : Except ε Unit} :
    (x >>= fun _ => y) = .ok () ↔ x = .ok () ∧ y = .ok () := by
  rw [except_bind_ok]
  constructor
  · intro steps
    obtain ⟨u, first, second⟩ := steps
    exact ⟨first, second⟩
  · intro steps
    exact ⟨(), steps.1, steps.2⟩

theorem accepts_iff (d : PolicyDistributor) (p : PolicyConfig) :
    d.Accepts p ↔ (∀ field : PolicyField, Passes (field.get p) field) ∧
      (d.strict = true → PolicyDistributor.missingStrict p = []) := by
  have strict : (Except.ok (!d.strict || (PolicyDistributor.missingStrict p).isEmpty) :
      Except PyExc Bool) = .ok true ↔
        (d.strict = true → PolicyDistributor.missingStrict p = []) := by
    cases d.strict <;> simp
  simp only [PolicyDistributor.Accepts, PolicyDistributor.validate, unit_bind_ok,
    unlessNone_ok_iff, PolicyDistributor.requireFinite, PolicyDistributor.requireNonNegative,
    expect_ok_iff, reject_ok_iff, strict]
  constructor
  · intro checks
    obtain ⟨finite, nonneg, action, steps, tokens, tokens', timeout, timeout', priority, given⟩ :=
      checks
    refine ⟨?_, given⟩
    intro field
    cases field with
    | ceilingUsd => exact ⟨finite, nonneg⟩
    | onExceed => exact action
    | ceilingSteps => exact steps
    | ceilingTokensOut =>
      rcases tokens with none | finiteTokens
      · exact Or.inl none
      · exact tokens'.imp_right fun nonnegTokens => ⟨finiteTokens, nonnegTokens⟩
    | timeoutMs =>
      rcases timeout with none | finiteTimeout
      · exact Or.inl none
      · exact timeout'.imp_right fun nonnegTimeout => ⟨finiteTimeout, nonnegTimeout⟩
    | priority => exact Except.ok.inj priority
    | issuedAt | fallbackModel | rateWindowSeconds | rateCeilingCalls | deadlineTs | expiresAt
    | plannerVersion => trivial
  · intro checks
    obtain ⟨passes, given⟩ := checks
    have usd := passes .ceilingUsd
    have tokens := passes .ceilingTokensOut
    have timeout := passes .timeoutMs
    exact ⟨usd.1, usd.2, passes .onExceed, passes .ceilingSteps, tokens.imp_right And.left,
      tokens.imp_right And.right, timeout.imp_right And.left, timeout.imp_right And.right,
      congrArg Except.ok (passes .priority), given⟩

theorem accepts_iff_passes {d : PolicyDistributor} (lenient : d.strict = false)
    (p : PolicyConfig) : d.Accepts p ↔ ∀ field : PolicyField, Passes (field.get p) field := by
  simp [accepts_iff, lenient]

end VeronicaValidation
