import Veronica.PolicyParsing

/- One body read by both policy parsers. The parser of replay is the laxer one: it has a default
   for `on_exceed`, reads numerals in strings, strips the chain id where the other one cuts it, and
   does not look at the fields a replay has no use for. -/
namespace VeronicaParserAgreement
open VeronicaDistribution VeronicaPolicyParsing

/-- `x == y`, for what the parsers store. -/
def Equal (x y : PyVal) : Prop :=
  x = y ∨ ∃ q : ℚ, x.number? = some (.finite q) ∧ y.number? = some (.finite q)

/-- The two policies mean the same to a replay. -/
structure SamePolicy (p q : PolicyConfig) : Prop where
  chainId : p.chainId = q.chainId
  ceilingUsd : Equal p.ceilingUsd q.ceilingUsd
  onExceed : Equal p.onExceed q.onExceed
  ceilingSteps : Equal p.ceilingSteps q.ceilingSteps
  ceilingTokensOut : Equal p.ceilingTokensOut q.ceilingTokensOut
  fallbackModel : Equal p.fallbackModel q.fallbackModel
  timeoutMs : Equal p.timeoutMs q.timeoutMs
  priority : Equal p.priority q.priority

/-- The body has the required keys, and the other parser reads the same policy from it. -/
structure ParsersAgree (numerals : Numerals) (now : ℚ) (body : Dict String PyVal)
    (q : PolicyConfig) : Prop where
  present : ∀ key ∈ requiredPolicyFields, key ∈ body.keys
  parsed : ∃ p, buildPolicy numerals now body = .ok p ∧ SamePolicy p q

/-- A timestamp both kinds of endpoint can live with: none, or `float()` makes it finite and not
    negative. -/
def Readable (numerals : Numerals) (value : PyVal) : Prop :=
  value.isNone = true ∨ (value.isBool = false ∧
    ∃ q : ℚ, value.toFloat numerals = .ok (.finite q) ∧ 0 ≤ q)

/-- `float()` keeps the value: None, a float, or an int that a double holds. -/
def KeptByFloat : PyVal → Prop
  | .none | .float _ => True
  | .int n => Doubles.Held n
  | _ => False

/-- The bodies on which the parsers agree, among those that replay accepts. -/
structure Plain (numerals : Numerals) (body : Dict String PyVal) : Prop where
  onExceed : "on_exceed" ∈ body.keys
  chainId : ∀ raw : String, getOrNone body "chain_id" = .str raw → pyStrip raw = pyPrefix 256 raw
  ceiling : (getOrNone body "ceiling_usd").isNumber = true
  timeout : KeptByFloat (getOrNone body "timeout_ms")
  deadline : Readable numerals (getOrNone body "deadline_ts")
  expiry : Readable numerals (getOrNone body "expires_at")
  calls : (getOrNone body "rate_ceiling_calls").isBool = false
  window : (getOrNone body "rate_window_seconds").isBool = false

section Timestamps
variable {numerals : Numerals} {body : Dict String PyVal} {key : String}

theorem guarded_of_ok {A : Type} {x : Except PyExc A} {a : A} (ok : x = .ok a) :
    guarded x = .ok a := by
  rw [ok, guarded]

theorem timestamp_of_readable (readable : Readable numerals (getOrNone body key)) :
    ∃ value, timestamp numerals body key = .ok value := by
  unfold timestamp
  dsimp only
  split
  · exact ⟨_, rfl⟩
  · rename_i given
    obtain ⟨notBool, q, eq, nonneg⟩ := readable.resolve_left given
    refine ⟨.float (.finite q), ?_⟩
    rw [notBool, guarded_of_ok eq]
    simp [demand, PyFloat.isFiniteNonNegative, nonneg, bind, Except.bind, pure, Except.pure]

theorem readable_of_timestamp {value : PyVal} (ok : timestamp numerals body key = .ok value) :
    Readable numerals (getOrNone body key) := by
  unfold timestamp at ok
  dsimp only at ok
  split at ok
  · rename_i none
    exact Or.inl none
  · obtain ⟨_, notBool, ok⟩ := except_bind_ok.mp ok
    obtain ⟨number, converted, ok⟩ := except_bind_ok.mp ok
    obtain ⟨_, finite, _⟩ := except_bind_ok.mp ok
    obtain ⟨q, rfl, nonneg⟩ :=
      PyFloat.isFiniteNonNegative_iff.mp (Except.ok.inj (demand_ok_iff.mp finite))
    have notBool := Except.ok.inj (demand_ok_iff.mp notBool)
    exact Or.inr ⟨by simpa using notBool, q, guarded_ok_iff.mp converted, nonneg⟩

end Timestamps

/-- What a body has to pass for `_build_policy` to accept it. -/
structure Checks (numerals : Numerals) (body : Dict String PyVal) : Prop where
  complete : missingFields body = []
  known : (getOrNone body "on_exceed").inNames validOnExceed = .ok true
  number : (getOrNone body "ceiling_usd").isNumber = true
  ceiling : ∃ q : ℚ, (getOrNone body "ceiling_usd").toFloat numerals = .ok (.finite q) ∧ 0 ≤ q
  deadline : Readable numerals (getOrNone body "deadline_ts")
  expiry : Readable numerals (getOrNone body "expires_at")
  chain : ∃ chainId, chainIdOf (getOrNone body "chain_id") = .ok chainId
  issued : Readable numerals (getOrNone body "issued_at")
  noBool : ∀ key ∈ optionalNumbers, (getOrNone body key).isBool = false
  priority : ∃ n, body.getD "priority" (.int 50) = .int n

theorem buildPolicy_of_checks {numerals : Numerals} {body : Dict String PyVal}
    (checks : Checks numerals body) (now : ℚ) : ∃ p, buildPolicy numerals now body = .ok p := by
  obtain ⟨q, converted, nonneg⟩ := checks.ceiling
  obtain ⟨deadlineTs, deadline⟩ := timestamp_of_readable checks.deadline
  obtain ⟨expiresAt, expiry⟩ := timestamp_of_readable checks.expiry
  obtain ⟨issuedAt, issued⟩ := timestamp_of_readable checks.issued
  obtain ⟨chainId, chain⟩ := checks.chain
  obtain ⟨n, priority⟩ := checks.priority
  have complete : (missingFields body).isEmpty = true := List.isEmpty_iff.mpr checks.complete
  have valid : ceilingIsValid (getOrNone body "ceiling_usd") = .ok true := by
    rw [ceilingIsValid, if_pos checks.number]
    exact (PyVal.toFloat_number numerals checks.number).mpr ⟨q, converted, nonneg⟩
  have noBool : (optionalNumbers.all fun key => !(getOrNone body key).isBool) = true := by
    rw [List.all_eq_true]
    intro key member
    rw [checks.noBool key member]
    rfl
  have plain : (!(PyVal.int n).isBool) = true := rfl
  have whole : guarded ((PyVal.int n).toInt numerals) = .ok n := rfl
  unfold buildPolicy
  dsimp only
  rw [demand_ok_iff.mpr (congrArg Except.ok complete), demand_ok_iff.mpr checks.known,
    demand_ok_iff.mpr valid, deadline, expiry, chain, issued, priority,
    demand_ok_iff.mpr (congrArg Except.ok plain), demand_ok_iff.mpr (congrArg Except.ok noBool),
    guarded_of_ok converted, whole]
  exact ⟨_, rfl⟩

section Agree
variable {numerals : Numerals} {body : Dict String PyVal} {p q : PolicyConfig}

theorem overrideChainId_ok {value : PyVal} {chainId : String}
    (ok : overrideChainId value = .ok chainId) :
    ∃ raw, value = .str raw ∧ pyStrip raw ≠ "" ∧ chainId = pyStrip raw := by
  cases value with
  | str raw =>
    simp only [overrideChainId] at ok
    split at ok
    · cases ok
    · rename_i nonempty
      cases ok
      exact ⟨raw, rfl, nonempty, rfl⟩
  | none | bool | int | float | list | dict => cases ok

theorem overrideTimeout_ok {value timeoutMs : PyVal}
    (ok : overrideTimeout numerals value = .ok timeoutMs) :
    (value = .none ∧ timeoutMs = .none) ∨ (value.isBool = false ∧
      ∃ x : ℚ, value.toFloat numerals = .ok (.finite x) ∧ timeoutMs = .float (.finite x)) := by
  unfold overrideTimeout at ok
  split at ok
  · rename_i none
    cases ok
    cases value <;> first | exact Or.inl ⟨rfl, rfl⟩ | cases none
  · obtain ⟨_, notBool, ok⟩ := except_bind_ok.mp ok
    obtain ⟨number, finite, ok⟩ := except_bind_ok.mp ok
    obtain ⟨x, converted, _, rfl⟩ := finiteNumber_ok finite
    cases ok
    exact Or.inr ⟨by simpa using require_ok notBool, x, converted, rfl⟩

/-- The timeout replay stores equals the given one exactly if `float()` keeps it. -/
theorem timeout_equal_iff {value timeoutMs : PyVal}
    (ok : overrideTimeout numerals value = .ok timeoutMs) :
    Equal value timeoutMs ↔ KeptByFloat value := by
  rcases overrideTimeout_ok ok with ⟨rfl, rfl⟩ | ⟨notBool, x, converted, rfl⟩
  · exact iff_of_true (Or.inl rfl) trivial
  cases value with
  | none => exact iff_of_false (by simp [Equal, PyVal.number?]) (by cases converted)
  | float y =>
    cases converted
    exact iff_of_true (Or.inl rfl) trivial
  | int n =>
    have same : Equal (.int n) (.float (.finite x)) ↔ (n : ℚ) = x := by
      simp [Equal, PyVal.number?, eq_comm]
    rw [same, KeptByFloat, ← Doubles.ofInt_eq_self_iff]
    cases rounded : Doubles.ofInt n with
    | error e => simp [PyVal.toFloat, rounded, Except.map] at converted
    | ok nearest =>
      simp only [PyVal.toFloat, rounded, Except.map, Except.ok.injEq, PyFloat.finite.injEq]
        at converted
      rw [← converted, Except.ok.injEq, Int.cast_inj, eq_comm]
  | bool b => cases notBool
  | str s => exact iff_of_false (by simp [Equal, PyVal.number?]) (by exact fun kept => kept)
  | list xs => cases converted
  | dict xs => cases converted

theorem plain_of_agree {now : ℚ} (override : OverrideParsed numerals body q)
    (agree : ParsersAgree numerals now body q) : Plain numerals body := by
  obtain ⟨p, built, same⟩ := agree.parsed
  have parsed := buildPolicy_ok built
  constructor
  case onExceed => exact agree.present "on_exceed" (by decide)
  case chainId =>
    intro raw given
    obtain ⟨raw', given', _, stripped⟩ := overrideChainId_ok override.chain
    rw [given] at given'
    cases given'
    have cut := parsed.chain
    rw [given, chainIdOf] at cut
    split at cut
    · cases cut
    · rw [← stripped, ← same.chainId]
      exact (Except.ok.inj cut).symm
  case ceiling => exact parsed.numberCeiling
  case timeout =>
    refine (timeout_equal_iff override.timeout).mp ?_
    rw [← parsed.timeout]
    exact same.timeoutMs
  case deadline => exact readable_of_timestamp parsed.deadline
  case expiry => exact readable_of_timestamp parsed.expiry
  case calls => exact parsed.noBool "rate_ceiling_calls" (by decide)
  case window => exact parsed.noBool "rate_window_seconds" (by decide)

theorem present_of_given {key : String} (given : getOrNone body key ≠ .none) : key ∈ body.keys := by
  by_contra absent
  rw [getOrNone, Dict.getD, Dict.get?_eq_none_iff.mpr absent] at given
  exact given rfl

theorem required_present (override : OverrideParsed numerals body q) (plain : Plain numerals body) :
    ∀ key ∈ requiredPolicyFields, key ∈ body.keys := by
  intro key member
  simp only [requiredPolicyFields, List.mem_cons, List.not_mem_nil, or_false] at member
  rcases member with rfl | rfl | rfl
  · refine present_of_given fun none => ?_
    have number := plain.ceiling
    rw [none] at number
    cases number
  · obtain ⟨raw, given, _⟩ := overrideChainId_ok override.chain
    exact present_of_given (by rw [given]; exact PyVal.noConfusion)
  · exact plain.onExceed

theorem noBool_of_whole {value stored : PyVal}
    (whole : stored = value ∧ (stored = .none ∨ ∃ n : Int, stored = .int n ∧ 0 ≤ n)) :
    value.isBool = false := by
  obtain ⟨rfl, none | ⟨n, eq, _⟩⟩ := whole
  · rw [none]
    rfl
  · rw [eq]
    rfl

theorem checks_of_plain (override : OverrideParsed numerals body q)
    (plain : Plain numerals body) : Checks numerals body := by
  have present := required_present override plain
  obtain ⟨raw, given, nonempty, _⟩ := overrideChainId_ok override.chain
  constructor
  case complete =>
    rw [missingFields, List.filter_eq_nil_iff]
    intro key member
    simpa using present key member
  case known =>
    rw [← getD_of_present plain.onExceed (.str "halt")]
    exact override.known
  case number => exact plain.ceiling
  case ceiling =>
    obtain ⟨x, converted, nonneg, _⟩ := override.ceiling
    exact ⟨x, converted, nonneg⟩
  case deadline => exact plain.deadline
  case expiry => exact plain.expiry
  case chain =>
    refine ⟨pyPrefix 256 raw, ?_⟩
    rw [given, chainIdOf, if_neg]
    rw [← plain.chainId raw given]
    exact nonempty
  case issued =>
    rcases override.issued with none | readable
    · exact Or.inl (by rw [none]; rfl)
    · exact Or.inr readable
  case noBool =>
    intro key member
    simp only [optionalNumbers, List.mem_cons, List.not_mem_nil, or_false] at member
    rcases member with rfl | rfl | rfl | rfl | rfl
    · exact noBool_of_whole override.tokens
    · exact noBool_of_whole override.steps
    · rcases overrideTimeout_ok override.timeout with ⟨none, _⟩ | ⟨notBool, _⟩
      · rw [none]
        rfl
      · exact notBool
    · exact plain.calls
    · exact plain.window
  case priority =>
    obtain ⟨n, eq, _⟩ := override.priority
    exact ⟨n, eq⟩

theorem same_of_plain {now : ℚ} (override : OverrideParsed numerals body q)
    (plain : Plain numerals body) (parsed : Parsed numerals now body p) : SamePolicy p q := by
  constructor
  case chainId =>
    obtain ⟨raw, given, nonempty, stripped⟩ := overrideChainId_ok override.chain
    have cut := parsed.chain
    rw [given, chainIdOf, ← plain.chainId raw given, if_neg nonempty] at cut
    rw [stripped]
    exact (Except.ok.inj cut).symm
  case ceilingUsd =>
    obtain ⟨x, eq, _, ceiling⟩ := parsed.ceiling
    obtain ⟨y, eq', _, ceiling'⟩ := override.ceiling
    rw [eq] at eq'
    cases eq'
    exact Or.inl (ceiling.trans ceiling'.symm)
  case onExceed =>
    exact Or.inl (by rw [parsed.onExceed, override.onExceed, getD_of_present plain.onExceed])
  case ceilingSteps => exact Or.inl (parsed.steps.trans override.steps.1.symm)
  case ceilingTokensOut => exact Or.inl (parsed.tokens.trans override.tokens.1.symm)
  case fallbackModel => exact Or.inl (parsed.fallback.trans override.fallback.symm)
  case timeoutMs =>
    rw [parsed.timeout]
    exact (timeout_equal_iff override.timeout).mpr plain.timeout
  case priority =>
    obtain ⟨n, given, stored⟩ := override.priority
    obtain ⟨m, whole, stored'⟩ := parsed.priority
    rw [given] at whole
    cases whole
    exact Or.inl (stored'.trans stored.symm)

end Agree

/-- The parsers agree on a body that replay accepts exactly if it is plain. -/
theorem parsers_agree_iff {numerals : Numerals} {now : ℚ} {body : Dict String PyVal}
    {q : PolicyConfig} (built : buildOverridePolicy numerals now body = .ok q) (now' : ℚ) :
    ParsersAgree numerals now' body q ↔ Plain numerals body := by
  have override := buildOverridePolicy_ok built
  constructor
  · exact plain_of_agree override
  · intro plain
    obtain ⟨p, parsed⟩ := buildPolicy_of_checks (checks_of_plain override plain) now'
    exact ⟨required_present override plain, p, parsed,
      same_of_plain override plain (buildPolicy_ok parsed)⟩

section Bodies

def chainAndCeiling : Dict String PyVal :=
  ((∅ : Dict String PyVal).set "chain_id" (.str "agent")).set "ceiling_usd" (.float (.finite 1))

/-- A body without `on_exceed` is accepted for a replay and refused for a simulation. -/
theorem default_on_exceed_disagrees :
    (∃ q, buildOverridePolicy noNumerals 0 chainAndCeiling = .ok q) ∧
    ∀ q, ¬ ParsersAgree noNumerals 0 chainAndCeiling q := by
  refine ⟨⟨_, rfl⟩, fun q agree => ?_⟩
  have present := agree.present "on_exceed" (by decide)
  exact absurd present (by decide)

def fullBody : Dict String PyVal := chainAndCeiling.set "on_exceed" (.str "queue")

def fullPolicy : PolicyConfig where
  chainId := "agent"
  ceilingUsd := .float (.finite 1)
  onExceed := .str "queue"
  issuedAt := .float (.finite 0)

theorem full_body_agrees : ParsersAgree noNumerals 0 fullBody fullPolicy := by
  have built : buildOverridePolicy noNumerals 0 fullBody = .ok fullPolicy := rfl
  refine (parsers_agree_iff built 0).mpr ?_
  constructor
  case onExceed => decide
  case chainId =>
    intro raw given
    have agent : PyVal.str "agent" = .str raw := given
    cases agent
    decide
  case ceiling => rfl
  case timeout => trivial
  case deadline => exact Or.inl rfl
  case expiry => exact Or.inl rfl
  case calls => rfl
  case window => rfl

end Bodies

end VeronicaParserAgreement
