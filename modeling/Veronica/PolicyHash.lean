import Mathlib.Data.Rat.Cast.Order
import Mathlib.Tactic.NormNum
import Veronica.Library.Json

/- The hash of a policy, made of its canonical JSON text, held against the equality of policies.
   A field holds None, a string or a number, a finite one where it is a float; SHA-256 and the
   text of a float are left open. -/
namespace VeronicaPolicyHash
open Json

structure PolicyConfig (F : Type) where
  chainId : Scalar F
  ceilingUsd : Scalar F
  onExceed : Scalar F
  issuedAt : Scalar F
  ceilingTokensOut : Scalar F := .none
  ceilingSteps : Scalar F := .none
  fallbackModel : Scalar F := .none
  timeoutMs : Scalar F := .none
  rateWindowSeconds : Scalar F := .none
  rateCeilingCalls : Scalar F := .none
  priority : Scalar F := .int 50
  deadlineTs : Scalar F := .none
  expiresAt : Scalar F := .none
  plannerVersion : Scalar F := .none

section Hashing
variable {F : Type} (floats : Floats F)

/-- The fields under their names, in the order of the names. -/
def fields : List (String × (PolicyConfig F → Scalar F)) :=
  [("ceiling_steps", PolicyConfig.ceilingSteps),
    ("ceiling_tokens_out", PolicyConfig.ceilingTokensOut),
    ("ceiling_usd", PolicyConfig.ceilingUsd), ("chain_id", PolicyConfig.chainId),
    ("deadline_ts", PolicyConfig.deadlineTs), ("expires_at", PolicyConfig.expiresAt),
    ("fallback_model", PolicyConfig.fallbackModel), ("issued_at", PolicyConfig.issuedAt),
    ("on_exceed", PolicyConfig.onExceed), ("planner_version", PolicyConfig.plannerVersion),
    ("priority", PolicyConfig.priority), ("rate_ceiling_calls", PolicyConfig.rateCeilingCalls),
    ("rate_window_seconds", PolicyConfig.rateWindowSeconds),
    ("timeout_ms", PolicyConfig.timeoutMs)]

/-- `_to_canonical`; a scalar is its own JSON form. -/
def toCanonical (p : PolicyConfig F) : List (String × Scalar F) :=
  fields.map fun field => (field.1, field.2 p)

def serialized (p : PolicyConfig F) : String := String.ofList (objectText floats (toCanonical p))

def computePolicyHash (sha256 : String → String) (p : PolicyConfig F) : String :=
  sha256 (serialized floats p)

/-- The number that `==` compares. -/
def number? : Scalar F → Option ℚ
  | .bool b => some (if b then 1 else 0)
  | .int n => some n
  | .float x => some (floats.value x)
  | .none | .str _ => none

/-- `v == w` -/
def Equals (v w : Scalar F) : Prop :=
  v = w ∨ (number? floats v ≠ none ∧ number? floats v = number? floats w)

instance [DecidableEq F] (v w : Scalar F) : Decidable (Equals floats v w) :=
  inferInstanceAs (Decidable (_ ∨ _))

/-- `p == q`, which compares the fields one after another. -/
def PolicyEq (p q : PolicyConfig F) : Prop :=
  ∀ field ∈ fields, Equals floats (field.2 p) (field.2 q)

instance [DecidableEq F] (p q : PolicyConfig F) : Decidable (PolicyEq floats p q) :=
  inferInstanceAs (Decidable (∀ field ∈ fields, _))

/-- Of one type, and of one sign if they are floats. -/
def SameForm : Scalar F → Scalar F → Prop
  | .none, .none | .bool _, .bool _ | .int _, .int _ | .str _, .str _ => True
  | .float x, .float y => floats.negative x = floats.negative y
  | _, _ => False

theorem sameForm_refl (v : Scalar F) : SameForm floats v v := by
  cases v with
  | float x => exact rfl
  | none | bool | int | str => trivial

theorem eq_of_equals {v w : Scalar F} (equal : Equals floats v w) (form : SameForm floats v w) :
    v = w := by
  rcases equal with same | ⟨number, same⟩
  · exact same
  cases v with
  | none | str => exact absurd rfl number
  | bool b =>
    cases w with
    | bool b' => cases b <;> cases b' <;> first | rfl | norm_num [number?] at same
    | none | int | float | str => exact absurd form not_false
  | int n =>
    cases w with
    | int m => rw [Int.cast_inj.mp (Option.some.inj same)]
    | none | bool | float | str => exact absurd form not_false
  | float x =>
    cases w with
    | float y => rw [floats.distinct x y (Option.some.inj same) form]
    | none | bool | int | str => exact absurd form not_false

theorem equals_and_sameForm_iff {v w : Scalar F} :
    Equals floats v w ∧ SameForm floats v w ↔ v = w := by
  constructor
  · rintro ⟨equal, form⟩
    exact eq_of_equals floats equal form
  · rintro rfl
    exact ⟨.inl rfl, sameForm_refl floats v⟩

theorem eq_iff_fields {p q : PolicyConfig F} : p = q ↔ ∀ field ∈ fields, field.2 p = field.2 q := by
  constructor
  · rintro rfl field _
    rfl
  · intro each
    cases p
    cases q
    simp only [fields, List.mem_cons, List.not_mem_nil, or_false, forall_eq_or_imp,
      forall_eq] at each
    simp only [each]

theorem toCanonical_injective {p q : PolicyConfig F} (same : toCanonical p = toCanonical q) :
    p = q := by
  rw [eq_iff_fields]
  intro field member
  exact (Prod.mk.inj (List.map_inj_left.mp same field member)).2

/-- Two policies have one text only if they are one, down to the types of their numbers. -/
theorem serialized_injective {p q : PolicyConfig F}
    (same : serialized floats p = serialized floats q) :
    p = q := by
  have keys : (toCanonical p).map Prod.fst = (toCanonical q).map Prod.fst := by
    rw [toCanonical, toCanonical, List.map_map, List.map_map]
    rfl
  exact toCanonical_injective (objectText_injective floats keys (String.ofList_injective same))

end Hashing

section WholeFloats

/-- The floats that are whole numbers, as long as `repr` writes them without an exponent. -/
structure WholeFloat where
  negative : Bool
  magnitude : Nat
  deriving DecidableEq

def WholeFloat.value (x : WholeFloat) : ℚ := if x.negative then -x.magnitude else x.magnitude

def WholeFloat.repr (x : WholeFloat) : String :=
  (if x.negative then "-" else "") ++ x.magnitude.repr ++ ".0"

theorem WholeFloat.toList_repr (x : WholeFloat) : x.repr.toList =
    (if x.negative then ['-'] else []) ++ (x.magnitude.repr.toList ++ ['.', '0']) := by
  rw [WholeFloat.repr, String.toList_append, String.toList_append, List.append_assoc]
  cases x.negative <;> rfl

theorem sign_not_mem (m : Nat) : '-' ∉ m.repr.toList ++ ['.', '0'] := by
  intro member
  rcases List.mem_append.mp member with digit | last
  · exact absurd (nat_digits m digit) (by decide)
  · exact absurd last (by decide)

theorem WholeFloat.repr_injective {x y : WholeFloat} (same : x.repr = y.repr) : x = y := by
  have texts := congrArg String.toList same
  rw [WholeFloat.toList_repr, WholeFloat.toList_repr] at texts
  obtain ⟨negative, magnitude⟩ := x
  obtain ⟨negative', magnitude'⟩ := y
  cases negative <;> cases negative'
  · have digits : magnitude.repr.toList = magnitude'.repr.toList := List.append_cancel_right texts
    rw [Nat.repr_injective (String.toList_injective digits)]
  · have sign : '-' ∈ magnitude.repr.toList ++ ['.', '0'] :=
      (show _ = _ from texts) ▸ List.mem_cons_self
    exact absurd sign (sign_not_mem magnitude)
  · have sign : '-' ∈ magnitude'.repr.toList ++ ['.', '0'] :=
      (show _ = _ from texts) ▸ List.mem_cons_self
    exact absurd sign (sign_not_mem magnitude')
  · have digits : magnitude.repr.toList = magnitude'.repr.toList :=
      List.append_cancel_right (List.cons.inj texts).2
    rw [Nat.repr_injective (String.toList_injective digits)]

def wholeFloats : Floats WholeFloat where
  value := WholeFloat.value
  negative := WholeFloat.negative
  distinct := by
    intro x y same sign
    obtain ⟨negative, magnitude⟩ := x
    obtain ⟨negative', magnitude'⟩ := y
    obtain rfl : negative = negative' := sign
    have sizes : magnitude = magnitude' := by
      cases negative with
      | true => exact Nat.cast_injective (neg_injective same)
      | false => exact Nat.cast_injective same
    rw [sizes]
  repr := WholeFloat.repr
  readsBack := fun _ _ => WholeFloat.repr_injective
  characters := by
    intro x c member
    rw [WholeFloat.toList_repr] at member
    rcases List.mem_append.mp member with sign | number
    · cases negative : x.negative with
      | true =>
        rw [negative] at sign
        rw [List.mem_singleton.mp sign]
        decide
      | false =>
        rw [negative] at sign
        cases sign
    · rcases List.mem_append.mp number with digit | last
      · rw [isNumeralChar, nat_digits _ digit]
        rfl
      · rcases List.mem_pair.mp last with rfl | rfl <;> decide
  marked := by
    intro x
    rw [WholeFloat.toList_repr]
    exact .inl (by simp)

def agentPolicy (ceilingUsd : Scalar WholeFloat) : PolicyConfig WholeFloat where
  chainId := .str "agent"
  ceilingUsd := ceilingUsd
  onExceed := .str "halt"
  issuedAt := .float ⟨false, 1740000000⟩

def wholeCeiling : PolicyConfig WholeFloat := agentPolicy (.int 5)
def floatCeiling : PolicyConfig WholeFloat := agentPolicy (.float ⟨false, 5⟩)

/-- SHA-256 of the text with the ceiling 5, and of the one with the ceiling 5.0. -/
def digest (text : String) : String :=
  if text = serialized wholeFloats wholeCeiling then
    "550277575ee2c80328b4bca4e0bef8f25d667b8f27d939b7a1ffed0f07c5b942"
  else "5f485e6febb9365cd2ef738c654ec57662323c398dbea973d19718c6abb9c614"

theorem digests_differ : computePolicyHash wholeFloats digest wholeCeiling ≠
    computePolicyHash wholeFloats digest floatCeiling := by
  have other : floatCeiling.ceilingUsd ≠ wholeCeiling.ceilingUsd := by decide
  have texts : serialized wholeFloats floatCeiling ≠ serialized wholeFloats wholeCeiling :=
    fun same => other (congrArg PolicyConfig.ceilingUsd (serialized_injective wholeFloats same))
  rw [computePolicyHash, computePolicyHash, digest, digest, if_pos rfl, if_neg texts]
  decide

end WholeFloats

end VeronicaPolicyHash
