import Veronica.Resolver
import Veronica.Simulation
import Veronica.Validation

/- The policies the simulate and rollout endpoints accept, held against the checks the tenant
   resolver makes of the same fields. Between parser and distributor some fields are not checked,
   and a ceiling of NaN is one no scenario ever breaches. -/
namespace VeronicaFieldGrammar
open VeronicaDistribution VeronicaPolicyUpdates VeronicaPolicyParsing VeronicaResolver
  VeronicaSimulation VeronicaValidation

/-- Every field that is set passes the resolver's check, and every ceiling can be breached. -/
structure FieldGrammar (p : PolicyConfig) : Prop where
  accepted : ∀ field : PolicyField, field.get p ≠ .none → Accepts field.name (field.get p)
  cost : ∃ steps, costExceeded .exact p steps = true
  tokens : p.ceilingTokensOut ≠ .none → ∃ steps, tokensExceeded p steps = true
  steps : p.ceilingSteps ≠ .none → ∃ steps, stepsExceeded p steps = true

/-- What the endpoints do not check of a body they accept. -/
structure UncheckedFields (numerals : Numerals) (body : Dict String PyVal) : Prop where
  ceilings : ∀ key ∈ ["ceiling_steps", "ceiling_tokens_out"],
    getOrNone body key = .none ∨ ∃ n : Int, getOrNone body key = .int n
  calls : getOrNone body "rate_ceiling_calls" = .none ∨
    ∃ n : Int, getOrNone body "rate_ceiling_calls" = .int n ∧ 0 ≤ n
  window : getOrNone body "rate_window_seconds" = .none ∨
    FiniteNonNegative (getOrNone body "rate_window_seconds")
  names : ∀ key ∈ ["fallback_model", "planner_version"], getOrNone body key = .none ∨
    ∃ s, getOrNone body key = .str s ∧ s.length ≤ 1024
  priority : ∀ n, (body.getD "priority" (.int 50)).toInt numerals = .ok n → 0 ≤ n ∧ n ≤ 100

theorem isNone_iff {value : PyVal} : value.isNone = true ↔ value = .none := by
  cases value <;> simp [PyVal.isNone]

theorem isNegative_int {n : Int} : (PyVal.int n).isNegative = .ok false ↔ 0 ≤ n := by
  simp [PyVal.isNegative]

theorem inNames_iff {names : List String} {value : PyVal} :
    value.inNames names = .ok true ↔ ∃ s ∈ names, value = .str s := by
  cases value <;> simp [PyVal.inNames]

theorem timestamp_allowed {numerals : Numerals} {body : Dict String PyVal} {key : String}
    {value : PyVal} (ok : timestamp numerals body key = .ok value) :
    value = .none ∨ FiniteNonNegative value := by
  rcases timestamp_ok ok with ⟨_, none⟩ | ⟨q, nonneg, rfl⟩
  · exact Or.inl none
  · exact Or.inr (Or.inr ⟨q, rfl, nonneg⟩)

theorem finite_of_passes {value : PyVal} (notBool : value.isBool = false)
    (finite : value.isfinite = .ok true) (nonneg : value.isNegative = .ok false) :
    FiniteNonNegative value := by
  rw [← finiteNonNegative_iff]
  have tested : value.isFiniteNonNegative = .ok true := by
    rw [PyVal.isFiniteNonNegative, finite, nonneg]
    rfl
  refine ⟨?_, tested⟩
  cases value with
  | int n | float x => rfl
  | bool b => cases notBool
  | none | str | list | dict => cases finite

section Accepted
variable {numerals : Numerals} {now : ℚ} {body : Dict String PyVal} {p : PolicyConfig}
  {d : PolicyDistributor}

theorem timeout_allowed (parsed : Parsed numerals now body p) (accepted : d.Accepts p) :
    p.timeoutMs = .none ∨ FiniteNonNegative p.timeoutMs := by
  have notBool := parsed.noBool "timeout_ms" (by decide)
  rw [← parsed.timeout] at notBool
  rcases ((accepts_iff d p).mp accepted).1 .timeoutMs with none | ⟨finite, nonneg⟩
  · exact Or.inl (isNone_iff.mp none)
  · exact Or.inr (finite_of_passes notBool finite nonneg)

/-- Whatever the body has there, a ceiling that is an int is one the resolver would accept. -/
theorem whole_ceiling (accepted : d.Accepts p) :
    (∀ n : Int, p.ceilingSteps = .int n → 0 ≤ n) ∧
      ∀ n : Int, p.ceilingTokensOut = .int n → 0 ≤ n := by
  have passes := ((accepts_iff d p).mp accepted).1
  constructor
  · intro n isInt
    have steps := passes .ceilingSteps
    simp only [PolicyField.get, isInt, Passes, PyVal.isNone, Bool.false_eq_true, false_or] at steps
    exact isNegative_int.mp steps
  · intro n isInt
    have tokens := passes .ceilingTokensOut
    simp only [PolicyField.get, isInt, Passes, PyVal.isNone, Bool.false_eq_true, false_or] at tokens
    exact isNegative_int.mp tokens.2

/-- Where the unchecked fields are as the resolver wants them, all fields are. -/
theorem allowed_of_unchecked (clock : 0 ≤ now) (parsed : Parsed numerals now body p)
    (accepted : d.Accepts p) (unchecked : UncheckedFields numerals body) (field : PolicyField)
    (set : field.get p ≠ .none) : Allowed (field.get p) field := by
  have whole := whole_ceiling accepted
  cases field with
  | ceilingUsd =>
    obtain ⟨q, _, nonneg, ceiling⟩ := parsed.ceiling
    exact Or.inr ⟨q, ceiling, nonneg⟩
  | onExceed =>
    have known := parsed.known
    rw [← parsed.onExceed] at known
    exact inNames_iff.mp known
  | issuedAt =>
    obtain ⟨issuedAt, ok, eq⟩ := parsed.issued
    refine Or.inr ?_
    rw [PolicyField.get, eq]
    rcases timestamp_allowed ok with rfl | finite
    · exact Or.inr ⟨now, rfl, clock⟩
    · rcases finite with ⟨n, rfl, bounds⟩ | ⟨q, rfl, nonneg⟩
      · exact Or.inl ⟨n, rfl, bounds⟩
      · exact Or.inr ⟨q, rfl, nonneg⟩
  | ceilingTokensOut =>
    rcases unchecked.ceilings "ceiling_tokens_out" (by decide) with none | ⟨n, isInt⟩
    · exact Or.inl (parsed.tokens.trans none)
    · have here := parsed.tokens.trans isInt
      exact Or.inr ⟨n, here, whole.2 n here⟩
  | ceilingSteps =>
    rcases unchecked.ceilings "ceiling_steps" (by decide) with none | ⟨n, isInt⟩
    · exact Or.inl (parsed.steps.trans none)
    · have here := parsed.steps.trans isInt
      exact Or.inr ⟨n, here, whole.1 n here⟩
  | fallbackModel =>
    have names := unchecked.names "fallback_model" (by decide)
    rw [← parsed.fallback] at names
    exact names
  | plannerVersion =>
    have names := unchecked.names "planner_version" (by decide)
    rw [← parsed.planner] at names
    exact names
  | timeoutMs => exact timeout_allowed parsed accepted
  | rateWindowSeconds =>
    have window := unchecked.window
    rw [← parsed.window] at window
    exact window
  | rateCeilingCalls =>
    have calls := unchecked.calls
    rw [← parsed.calls] at calls
    exact calls
  | priority =>
    obtain ⟨n, ok, eq⟩ := parsed.priority
    exact ⟨n, eq, unchecked.priority n ok⟩
  | deadlineTs => exact timestamp_allowed parsed.deadline
  | expiresAt => exact timestamp_allowed parsed.expiry

theorem unchecked_of_allowed (parsed : Parsed numerals now body p)
    (allowed : ∀ field : PolicyField, field.get p ≠ .none → Allowed (field.get p) field) :
    UncheckedFields numerals body := by
  have optional : ∀ field : PolicyField, Allowed .none field → Allowed (field.get p) field := by
    intro field unset
    by_cases none : field.get p = .none
    · rw [none]
      exact unset
    · exact allowed field none
  constructor
  case ceilings =>
    intro key member
    rcases List.mem_pair.mp member with rfl | rfl
    · rw [← parsed.steps]
      rcases optional .ceilingSteps (Or.inl rfl) with none | ⟨n, isInt, _⟩
      · exact Or.inl none
      · exact Or.inr ⟨n, isInt⟩
    · rw [← parsed.tokens]
      rcases optional .ceilingTokensOut (Or.inl rfl) with none | ⟨n, isInt, _⟩
      · exact Or.inl none
      · exact Or.inr ⟨n, isInt⟩
  case calls =>
    rw [← parsed.calls]
    exact optional .rateCeilingCalls (Or.inl rfl)
  case window =>
    rw [← parsed.window]
    exact optional .rateWindowSeconds (Or.inl rfl)
  case names =>
    intro key member
    rcases List.mem_pair.mp member with rfl | rfl
    · rw [← parsed.fallback]
      exact optional .fallbackModel (Or.inl rfl)
    · rw [← parsed.planner]
      exact optional .plannerVersion (Or.inl rfl)
  case priority =>
    intro n ok
    obtain ⟨m, ok', eq⟩ := parsed.priority
    rw [ok] at ok'
    cases ok'
    have got : PolicyField.get p .priority = .int _ := eq
    have set : PolicyField.get p .priority ≠ .none := by
      rw [got]
      exact nofun
    obtain ⟨k, isInt, range⟩ := allowed .priority set
    rw [got] at isInt
    cases isInt
    exact range

end Accepted

def costlyStep (costUsd : ℚ) (nonneg : 0 ≤ costUsd) : SimulationStep where
  kind := .llm
  costUsd := costUsd
  tokensOut := 0
  elapsedMs := 0
  cost_nonneg := nonneg
  tokens_nonneg := le_refl 0

def wordyStep (tokensOut : Int) (nonneg : 0 ≤ tokensOut) : SimulationStep where
  kind := .llm
  costUsd := 0
  tokensOut := tokensOut
  elapsedMs := 0
  cost_nonneg := le_refl 0
  tokens_nonneg := nonneg

theorem cost_breachable {p : PolicyConfig} {q : ℚ} (nonneg : 0 ≤ q)
    (ceiling : p.ceilingUsd = .float (.finite q)) :
    ∃ steps, costExceeded .exact p steps = true := by
  refine ⟨[costlyStep (q + 1) (by linarith)], ?_⟩
  simp [costExceeded, costOf, costlyStep, exceeds, ceiling, PyVal.number?, PyFloat.lt]

theorem tokens_breachable {p : PolicyConfig} {n : Int} (nonneg : 0 ≤ n)
    (ceiling : p.ceilingTokensOut = .int n) : ∃ steps, tokensExceeded p steps = true := by
  refine ⟨[wordyStep (n + 1) (by omega)], ?_⟩
  simp [tokensExceeded, tokensOf, wordyStep, exceeds, ceiling, PyVal.number?, PyFloat.lt]

theorem steps_breachable {p : PolicyConfig} {n : Int} (nonneg : 0 ≤ n)
    (ceiling : p.ceilingSteps = .int n) : ∃ steps, stepsExceeded p steps = true := by
  refine ⟨List.replicate (n.toNat + 1) (wordyStep 0 (le_refl 0)), ?_⟩
  have longer : n < ((n.toNat + 1 : Nat) : Int) := by omega
  have cast : (n : ℚ) < ((n.toNat + 1 : Nat) : ℚ) := by exact_mod_cast longer
  simpa [stepsExceeded, exceeds, ceiling, PyVal.number?, PyFloat.lt] using cast

theorem fieldGrammar_of_allowed {p : PolicyConfig} {q : ℚ} (nonneg : 0 ≤ q)
    (ceiling : p.ceilingUsd = .float (.finite q))
    (allowed : ∀ field : PolicyField, field.get p ≠ .none → Allowed (field.get p) field) :
    FieldGrammar p := by
  constructor
  case accepted =>
    intro field set
    exact (accepts_iff_allowed field _).mpr (allowed field set)
  case cost => exact cost_breachable nonneg ceiling
  case tokens =>
    intro set
    rcases allowed .ceilingTokensOut set with none | ⟨n, isInt, nonnegTokens⟩
    · exact absurd none set
    · exact tokens_breachable nonnegTokens isInt
  case steps =>
    intro set
    rcases allowed .ceilingSteps set with none | ⟨n, isInt, nonnegSteps⟩
    · exact absurd none set
    · exact steps_breachable nonnegSteps isInt

/-- A policy the endpoints accept obeys the resolver's grammar exactly when the fields they leave
    unchecked do. -/
theorem accepted_grammar_iff {numerals : Numerals} {now : ℚ} {body : Dict String PyVal}
    {p : PolicyConfig} {d : PolicyDistributor} (clock : 0 ≤ now)
    (built : buildPolicy numerals now body = .ok p) (accepted : d.Accepts p) :
    FieldGrammar p ↔ UncheckedFields numerals body := by
  have parsed := buildPolicy_ok built
  constructor
  · intro grammar
    refine unchecked_of_allowed parsed ?_
    intro field set
    exact (accepts_iff_allowed field _).mp (grammar.accepted field set)
  · intro unchecked
    obtain ⟨q, _, nonneg, ceiling⟩ := parsed.ceiling
    exact fieldGrammar_of_allowed nonneg ceiling
      (allowed_of_unchecked clock parsed accepted unchecked)

section StepCeilings

def cappedBody (ceilingSteps : PyVal) : Dict String PyVal :=
  ((((∅ : Dict String PyVal).set "chain_id" (.str "agent")).set "ceiling_usd"
    (.float (.finite 10))).set "on_exceed" (.str "halt")).set "ceiling_steps" ceilingSteps

def cappedPolicy (ceilingSteps : PyVal) : PolicyConfig where
  chainId := "agent"
  ceilingUsd := .float (.finite 10)
  onExceed := .str "halt"
  issuedAt := .float (.finite 0)
  ceilingSteps := ceilingSteps

theorem whole_ceiling_grammar :
    FieldGrammar (cappedPolicy (.int 3)) ↔ UncheckedFields noNumerals (cappedBody (.int 3)) :=
  accepted_grammar_iff (d := lenient) (le_refl 0) rfl rfl

/-- A step ceiling of NaN is accepted, and no list of steps ever breaches it. -/
theorem nan_ceiling_accepted :
    buildPolicy noNumerals 0 (cappedBody (.float .nan)) = .ok (cappedPolicy (.float .nan)) ∧
      lenient.Accepts (cappedPolicy (.float .nan)) ∧
      ¬ FieldGrammar (cappedPolicy (.float .nan)) := by
  refine ⟨rfl, rfl, ?_⟩
  intro grammar
  obtain ⟨steps, breached⟩ := grammar.steps (by simp [cappedPolicy])
  cases breached

end StepCeilings

end VeronicaFieldGrammar
