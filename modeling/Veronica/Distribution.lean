import Veronica.Library.Dict
import Veronica.Library.PyValue

/- Policies as the HTTP layer holds them, PolicyDistributor and PolicyRegistry. Most policy
   fields are filled from request JSON without a type check, so they hold any Python value. -/
namespace VeronicaDistribution

structure PolicyConfig where
  chainId : String
  ceilingUsd : PyVal
  onExceed : PyVal
  issuedAt : PyVal
  ceilingTokensOut : PyVal := .none
  ceilingSteps : PyVal := .none
  fallbackModel : PyVal := .none
  timeoutMs : PyVal := .none
  rateWindowSeconds : PyVal := .none
  rateCeilingCalls : PyVal := .none
  priority : PyVal := .int 50
  deadlineTs : PyVal := .none
  expiresAt : PyVal := .none
  plannerVersion : PyVal := .none

/-- The kernel's configuration record; the control plane only builds it. -/
structure ExecutionConfig where
  maxCostUsd : PyVal
  maxSteps : PyVal
  maxRetriesTotal : Int
  timeoutMs : PyVal

/-- Library functions whose results the control plane stores or measures and never inspects, and
    the hash of a policy, which PolicyHash makes of its JSON text. -/
structure Runtime where
  computePolicyHash : PolicyConfig → String
  hmacSha256 : String → String → String
  jsonDumps : PyVal → Except PyExc String

/-- For runs on given inputs that turn on none of these results. -/
def plainRuntime : Runtime where
  computePolicyHash := fun _ => ""
  hmacSha256 := fun _ message => message
  jsonDumps := fun _ => .ok ""

structure PolicyBundle where
  policy : PolicyConfig
  execConfig : ExecutionConfig
  policyHash : String
  distributedAt : ℚ
  version : Nat
  policySignature : Option String

structure PolicyDistributor where
  strict : Bool
  version : Nat
  signingKey : Option String

def lenient : PolicyDistributor where
  strict := false
  version := 0
  signingKey := none

/-- PolicyValidationError carries the message up to the value it quotes, and that value. -/
inductive DistributeError where
  | policyValidation : String → PyVal → DistributeError
  | missingFields : String → List String → DistributeError
  | python : PyExc → DistributeError

def defaultSteps : Int := 100
def defaultRetries : Int := 10
def allowedOnExceed : List String := ["halt", "degrade", "queue"]

/-- `if not test: raise failure`, where the test may itself raise. -/
def expect (test : Except PyExc Bool) (failure : DistributeError) : Except DistributeError Unit :=
  match test with
  | .ok true => .ok ()
  | .ok false => .error failure
  | .error e => .error (.python e)

/-- `if test: raise failure` -/
def reject (test : Except PyExc Bool) (failure : DistributeError) : Except DistributeError Unit :=
  expect (test.map not) failure

/-- `field is not None and ...` around a check -/
def unlessNone (field : PyVal) (check : Except DistributeError Unit) :
    Except DistributeError Unit :=
  if field.isNone then .ok () else check

/-- The message of the error ends before the value it quotes. -/
def PolicyConfig.toExecConfig (p : PolicyConfig) : Except DistributeError ExecutionConfig := do
  let message := "ceiling_usd must be a non-negative finite float, got "
  expect p.ceilingUsd.isfinite (.python (.valueError message))
  reject p.ceilingUsd.isNegative (.python (.valueError message))
  return {
    maxCostUsd := p.ceilingUsd
    maxSteps := p.ceilingSteps.orElse (.int defaultSteps)
    maxRetriesTotal := defaultRetries
    timeoutMs := p.timeoutMs.orElse (.int 0) }

namespace PolicyDistributor

def requireFinite (message : String) (field : PyVal) : Except DistributeError Unit :=
  expect field.isfinite (.policyValidation message field)

def requireNonNegative (message : String) (field : PyVal) : Except DistributeError Unit :=
  reject field.isNegative (.policyValidation message field)

def missingStrict (p : PolicyConfig) : List String :=
  [("ceiling_steps", p.ceilingSteps), ("ceiling_tokens_out", p.ceilingTokensOut),
    ("timeout_ms", p.timeoutMs)].filterMap fun (name, value) =>
      if value.isNone then some name else none

def validate (d : PolicyDistributor) (p : PolicyConfig) : Except DistributeError Unit := do
  requireFinite "ceiling_usd must be finite, got " p.ceilingUsd
  requireNonNegative "ceiling_usd must be >= 0, got " p.ceilingUsd
  expect (p.onExceed.inNames allowedOnExceed)
    (.policyValidation "on_exceed must be one of ['degrade', 'halt', 'queue'], got " p.onExceed)
  unlessNone p.ceilingSteps
    (requireNonNegative "ceiling_steps must be >= 0, got " p.ceilingSteps)
  unlessNone p.ceilingTokensOut
    (requireFinite "ceiling_tokens_out must be finite, got " p.ceilingTokensOut)
  unlessNone p.ceilingTokensOut
    (requireNonNegative "ceiling_tokens_out must be >= 0, got " p.ceilingTokensOut)
  unlessNone p.timeoutMs (requireFinite "timeout_ms must be finite, got " p.timeoutMs)
  unlessNone p.timeoutMs (requireNonNegative "timeout_ms must be >= 0, got " p.timeoutMs)
  expect (.ok p.priority.isPlainInt)
    (.policyValidation "priority must be an int, got " p.priority)
  expect (.ok (!d.strict || (missingStrict p).isEmpty))
    (.missingFields "strict mode: the following fields must not be None: " (missingStrict p))

/-- The version counter moves only once the policy has passed every check. -/
def distribute (rt : Runtime) (d : PolicyDistributor) (p : PolicyConfig) (now : ℚ) :
    PolicyDistributor × Except DistributeError PolicyBundle :=
  match d.validate p with
  | .error e => (d, .error e)
  | .ok () =>
    let policyHash := rt.computePolicyHash p
    match p.toExecConfig with
    | .error e => (d, .error e)
    | .ok execConfig =>
      let version := d.version + 1
      ({ d with version }, .ok {
        policy := p
        execConfig
        policyHash
        distributedAt := now
        version
        policySignature := d.signingKey.map fun key => rt.hmacSha256 key policyHash })

end PolicyDistributor

/-- The registry shares one distributor with the simulate endpoint. -/
structure PolicyRegistry where
  distributor : PolicyDistributor
  store : Dict String PolicyBundle

namespace PolicyRegistry

def getPolicy (r : PolicyRegistry) (chainId : String) : Option PolicyBundle :=
  r.store.get? chainId

def register (rt : Runtime) (r : PolicyRegistry) (p : PolicyConfig) (now : ℚ) :
    PolicyRegistry × Except DistributeError PolicyBundle :=
  match r.distributor.distribute rt p now with
  | (d, .error e) => ({ r with distributor := d }, .error e)
  | (d, .ok bundle) =>
    ({ distributor := d, store := r.store.set p.chainId bundle }, .ok bundle)

end PolicyRegistry

/-- What `distribute` accepts is decided by the policy alone. -/
def PolicyDistributor.Accepts (d : PolicyDistributor) (p : PolicyConfig) : Prop :=
  d.validate p = .ok ()

@[simp] theorem expect_ok_iff {test : Except PyExc Bool} {failure : DistributeError} :
    expect test failure = .ok () ↔ test = .ok true := by
  unfold expect
  split <;> simp_all

@[simp] theorem reject_ok_iff {test : Except PyExc Bool} {failure : DistributeError} :
    reject test failure = .ok () ↔ test = .ok false := by
  cases test <;> simp [reject, Except.map]

theorem accepted_ceiling {d : PolicyDistributor} {p : PolicyConfig} (accepted : d.Accepts p) :
    p.ceilingUsd.isfinite = .ok true ∧ p.ceilingUsd.isNegative = .ok false := by
  unfold PolicyDistributor.Accepts PolicyDistributor.validate at accepted
  obtain ⟨_, finite, accepted⟩ := except_bind_ok.mp accepted
  obtain ⟨_, negative, _⟩ := except_bind_ok.mp accepted
  exact ⟨expect_ok_iff.mp finite, reject_ok_iff.mp negative⟩

theorem accepted_has_exec_config {d : PolicyDistributor} {p : PolicyConfig}
    (accepted : d.Accepts p) : ∃ config, p.toExecConfig = .ok config := by
  obtain ⟨finite, negative⟩ := accepted_ceiling accepted
  dsimp only [PolicyConfig.toExecConfig]
  rw [expect_ok_iff.mpr finite, reject_ok_iff.mpr negative]
  exact ⟨_, rfl⟩

/-- Every way a `distribute` call can end. -/
theorem distribute_cases (rt : Runtime) (d : PolicyDistributor) (p : PolicyConfig) (now : ℚ) :
    (d.Accepts p ∧ ∃ bundle, d.distribute rt p now = ({ d with version := d.version + 1 },
        .ok bundle) ∧ bundle.policy = p ∧ bundle.version = d.version + 1) ∨
    (¬ d.Accepts p ∧ ∃ e, d.distribute rt p now = (d, .error e)) := by
  cases checked : d.validate p with
  | error e =>
    right
    refine ⟨by simp [PolicyDistributor.Accepts, checked], e, ?_⟩
    simp [PolicyDistributor.distribute, checked]
  | ok u =>
    left
    have accepted : d.Accepts p := checked
    obtain ⟨config, converted⟩ := accepted_has_exec_config accepted
    refine ⟨accepted, ?_⟩
    simp [PolicyDistributor.distribute, checked, converted]

theorem distribute_ok {rt : Runtime} {d d' : PolicyDistributor} {p : PolicyConfig} {now : ℚ}
    {bundle : PolicyBundle} (distributed : d.distribute rt p now = (d', .ok bundle)) :
    bundle.policy = p ∧ bundle.policyHash = rt.computePolicyHash p ∧
      bundle.policySignature = d.signingKey.map fun key => rt.hmacSha256 key bundle.policyHash := by
  unfold PolicyDistributor.distribute at distributed
  split at distributed
  · simp at distributed
  · dsimp only at distributed
    split at distributed
    · simp at distributed
    · simp only [Prod.mk.injEq, Except.ok.injEq] at distributed
      obtain ⟨_, rfl⟩ := distributed
      exact ⟨rfl, rfl, rfl⟩

theorem register_cases (rt : Runtime) (r : PolicyRegistry) (p : PolicyConfig) (now : ℚ) :
    (r.distributor.Accepts p ∧ ∃ bundle, r.register rt p now =
        ({ distributor := { r.distributor with version := r.distributor.version + 1 },
           store := r.store.set p.chainId bundle }, .ok bundle) ∧
        bundle.policy = p ∧ bundle.version = r.distributor.version + 1) ∨
    (¬ r.distributor.Accepts p ∧ ∃ e, r.register rt p now = (r, .error e)) := by
  rcases distribute_cases rt r.distributor p now with
    ⟨accepted, bundle, eq, policy, version⟩ | ⟨rejected, e, eq⟩
  · exact Or.inl ⟨accepted, bundle, by simp [PolicyRegistry.register, eq], policy, version⟩
  · exact Or.inr ⟨rejected, e, by simp [PolicyRegistry.register, eq]⟩

/-- Every stored bundle carries a version the shared counter has already passed. -/
def PolicyRegistry.Versioned (r : PolicyRegistry) : Prop :=
  ∀ chainId bundle, r.getPolicy chainId = some bundle → bundle.version ≤ r.distributor.version

theorem register_versioned (rt : Runtime) {r : PolicyRegistry} (p : PolicyConfig) (now : ℚ)
    (versioned : r.Versioned) : (r.register rt p now).1.Versioned := by
  rcases register_cases rt r p now with ⟨_, bundle, eq, _, version⟩ | ⟨_, e, eq⟩
  · rw [eq]
    intro chainId stored found
    simp only [PolicyRegistry.getPolicy, Dict.get?_set] at found ⊢
    split at found
    · cases found
      omega
    · have := versioned chainId stored found
      omega
  · rw [eq]
    exact versioned

/-- An accepted registration always changes what is stored: the version is new. -/
theorem register_changes (rt : Runtime) {r : PolicyRegistry} {p : PolicyConfig} (now : ℚ)
    (versioned : r.Versioned) (accepted : r.distributor.Accepts p) :
    (r.register rt p now).1.getPolicy p.chainId ≠ r.getPolicy p.chainId := by
  rcases register_cases rt r p now with ⟨_, bundle, eq, _, version⟩ | ⟨rejected, _⟩
  · rw [eq]
    simp only [PolicyRegistry.getPolicy, Dict.get?_set_self]
    intro same
    have := versioned p.chainId bundle same.symm
    omega
  · exact absurd accepted rejected

end VeronicaDistribution
