import Veronica.Distribution
import Veronica.Library.Runs

/- PolicyRegistry.update and register as concurrent calls: `distribute` runs outside the
   registry's lock, between the critical sections that read and write the store. -/
namespace VeronicaPolicyUpdates
open VeronicaDistribution

/-- The fields of PolicyConfig a client of `update` can name. -/
inductive PolicyField where
  | ceilingUsd
  | onExceed
  | issuedAt
  | ceilingTokensOut
  | ceilingSteps
  | fallbackModel
  | timeoutMs
  | rateWindowSeconds
  | rateCeilingCalls
  | priority
  | deadlineTs
  | expiresAt
  | plannerVersion
  deriving DecidableEq, Repr

namespace PolicyField

def name : PolicyField → String
  | .ceilingUsd => "ceiling_usd"
  | .onExceed => "on_exceed"
  | .issuedAt => "issued_at"
  | .ceilingTokensOut => "ceiling_tokens_out"
  | .ceilingSteps => "ceiling_steps"
  | .fallbackModel => "fallback_model"
  | .timeoutMs => "timeout_ms"
  | .rateWindowSeconds => "rate_window_seconds"
  | .rateCeilingCalls => "rate_ceiling_calls"
  | .priority => "priority"
  | .deadlineTs => "deadline_ts"
  | .expiresAt => "expires_at"
  | .plannerVersion => "planner_version"

def all : List PolicyField :=
  [.ceilingUsd, .onExceed, .issuedAt, .ceilingTokensOut, .ceilingSteps, .fallbackModel,
    .timeoutMs, .rateWindowSeconds, .rateCeilingCalls, .priority, .deadlineTs, .expiresAt,
    .plannerVersion]

theorem mem_all (field : PolicyField) : field ∈ all := by
  cases field <;> decide

def get (p : PolicyConfig) : PolicyField → PyVal
  | .ceilingUsd => p.ceilingUsd
  | .onExceed => p.onExceed
  | .issuedAt => p.issuedAt
  | .ceilingTokensOut => p.ceilingTokensOut
  | .ceilingSteps => p.ceilingSteps
  | .fallbackModel => p.fallbackModel
  | .timeoutMs => p.timeoutMs
  | .rateWindowSeconds => p.rateWindowSeconds
  | .rateCeilingCalls => p.rateCeilingCalls
  | .priority => p.priority
  | .deadlineTs => p.deadlineTs
  | .expiresAt => p.expiresAt
  | .plannerVersion => p.plannerVersion

end PolicyField

/-- `dataclasses.replace(policy, **changes)`: the constructor called with every field, taken
    from `changes` where it is named there. No caller passes `chain_id`. -/
def replace (policy : PolicyConfig) (changes : Dict String PyVal) :
    Except PyExc PolicyConfig :=
  match changes.keys.find? (fun key => key ∉ PolicyField.all.map PolicyField.name) with
  | some key => .error (.typeError
      ("PolicyConfig.__init__() got an unexpected keyword argument '" ++ key ++ "'"))
  | none =>
    let pick (field : PolicyField) := (changes.get? field.name).getD (field.get policy)
    .ok {
      chainId := policy.chainId
      ceilingUsd := pick .ceilingUsd
      onExceed := pick .onExceed
      issuedAt := pick .issuedAt
      ceilingTokensOut := pick .ceilingTokensOut
      ceilingSteps := pick .ceilingSteps
      fallbackModel := pick .fallbackModel
      timeoutMs := pick .timeoutMs
      rateWindowSeconds := pick .rateWindowSeconds
      rateCeilingCalls := pick .rateCeilingCalls
      priority := pick .priority
      deadlineTs := pick .deadlineTs
      expiresAt := pick .expiresAt
      plannerVersion := pick .plannerVersion }

/-- The parameters of `update` itself; naming one among the fields fails the call. -/
def updateParameters : List String := ["self", "chain_id", "current_version"]

def updateKwargs (fields : Dict String PyVal) (now : ℚ) : Dict String PyVal :=
  (fields.filterValues fun value => !value.isNone).set "issued_at" (.float (.finite now))

def staleVersion (current : Int) (server : Nat) : DistributeError :=
  .python (.valueError ("stale version: client has " ++ toString current ++ ", server has " ++
    toString server))

def staleConcurrent : DistributeError :=
  .python (.valueError "stale version (concurrent update detected)")

/-- The first critical section of `update`: check the version, build the updated policy. -/
def updateRead (r : PolicyRegistry) (chainId : String) (currentVersion : Int)
    (fields : Dict String PyVal) (now : ℚ) : Except DistributeError PolicyConfig :=
  match fields.keys.find? (fun key => key ∈ updateParameters) with
  | some key => .error (.python (.typeError
      ("PolicyRegistry.update() got multiple values for argument '" ++ key ++ "'")))
  | none =>
    match r.store.get? chainId with
    | none => .error (.python (.keyError chainId))
    | some existing =>
      if (existing.version : Int) ≠ currentVersion then
        .error (staleVersion currentVersion existing.version)
      else (replace existing.policy (updateKwargs fields now)).mapError .python

/-- The second critical section: check the version again, store the bundle. -/
def updateWrite (r : PolicyRegistry) (chainId : String) (currentVersion : Int)
    (newBundle : PolicyBundle) : PolicyRegistry × Except DistributeError PolicyBundle :=
  match r.store.get? chainId with
  | none => (r, .error staleConcurrent)
  | some current =>
    if (current.version : Int) ≠ currentVersion then (r, .error staleConcurrent)
    else ({ r with store := r.store.set chainId newBundle }, .ok newBundle)

def update (rt : Runtime) (r : PolicyRegistry) (chainId : String) (currentVersion : Int)
    (fields : Dict String PyVal) (readAt distributedAt : ℚ) :
    PolicyRegistry × Except DistributeError PolicyBundle :=
  match updateRead r chainId currentVersion fields readAt with
  | .error e => (r, .error e)
  | .ok updatedPolicy =>
    match r.distributor.distribute rt updatedPolicy distributedAt with
    | (distributor, .error e) => ({ r with distributor }, .error e)
    | (distributor, .ok newBundle) =>
      updateWrite { r with distributor } chainId currentVersion newBundle

/-- A call between two of its atomic steps. An update remembers what its client asked for. -/
inductive Pending where
  | registering (policy : PolicyConfig) (bundle : PolicyBundle)
  | updating (chainId : String) (currentVersion : Int) (fields : Dict String PyVal)
      (issuedAt : ℚ) (updatedPolicy : PolicyConfig)
  | distributed (chainId : String) (currentVersion : Int) (fields : Dict String PyVal)
      (issuedAt : ℚ) (newBundle : PolicyBundle)

def Pending.bundle? : Pending → Option PolicyBundle
  | .registering _ bundle => some bundle
  | .updating _ _ _ _ _ => none
  | .distributed _ _ _ _ newBundle => some newBundle

/-- The registry and the calls in flight, by ticket. The last two fields only observe: the
    versions ever stored, and the chain and version named by each update that succeeded. -/
structure Clients where
  registry : PolicyRegistry
  calls : Dict Nat Pending
  published : List Nat
  succeeded : List (String × Int)

inductive Action where
  | registerDistribute (ticket : Nat) (policy : PolicyConfig) (now : ℚ)
  | registerStore (ticket : Nat)
  | updateRead (ticket : Nat) (chainId : String) (currentVersion : Int)
      (fields : Dict String PyVal) (now : ℚ)
  | updateDistribute (ticket : Nat) (now : ℚ)
  | updateWrite (ticket : Nat)
  | distribute (policy : PolicyConfig) (now : ℚ)

namespace Clients

def withDistributor (s : Clients) (distributor : PolicyDistributor) : Clients :=
  { s with registry := { s.registry with distributor } }

def drop (s : Clients) (ticket : Nat) : Clients := { s with calls := s.calls.erase ticket }

def suspend (s : Clients) (ticket : Nat) (call : Pending) : Clients :=
  { s with calls := s.calls.set ticket call }

/-- `self._store[chain_id] = bundle`, with the version noted. -/
def publish (s : Clients) (chainId : String) (bundle : PolicyBundle) : Clients :=
  { s with
    registry := { s.registry with store := s.registry.store.set chainId bundle }
    published := s.published ++ [bundle.version] }

/-- The bundle a call was waiting with is stored; `noted` are the updates this completes. -/
def install (s : Clients) (ticket : Nat) (chainId : String) (bundle : PolicyBundle)
    (noted : List (String × Int)) : Clients :=
  { registry := { s.registry with store := s.registry.store.set chainId bundle }
    calls := s.calls.erase ticket
    published := s.published ++ [bundle.version]
    succeeded := s.succeeded ++ noted }

end Clients

def act (rt : Runtime) (s : Clients) : Action → Clients
  | .registerDistribute ticket policy now =>
    match s.registry.distributor.distribute rt policy now with
    | (distributor, .error _) => s.withDistributor distributor
    | (distributor, .ok bundle) =>
      (s.withDistributor distributor).suspend ticket (.registering policy bundle)
  | .registerStore ticket =>
    match s.calls.get? ticket with
    | some (.registering policy bundle) => (s.drop ticket).publish policy.chainId bundle
    | _ => s
  | .updateRead ticket chainId currentVersion fields now =>
    match updateRead s.registry chainId currentVersion fields now with
    | .error _ => s
    | .ok updatedPolicy =>
      s.suspend ticket (.updating chainId currentVersion fields now updatedPolicy)
  | .updateDistribute ticket now =>
    match s.calls.get? ticket with
    | some (.updating chainId currentVersion fields issuedAt updatedPolicy) =>
      match s.registry.distributor.distribute rt updatedPolicy now with
      | (distributor, .error _) => (s.withDistributor distributor).drop ticket
      | (distributor, .ok newBundle) =>
        (s.withDistributor distributor).suspend ticket
          (.distributed chainId currentVersion fields issuedAt newBundle)
    | _ => s
  | .updateWrite ticket =>
    match s.calls.get? ticket with
    | some (.distributed chainId currentVersion _ _ newBundle) =>
      match updateWrite s.registry chainId currentVersion newBundle with
      | (_, .error _) => s.drop ticket
      | (registry, .ok bundle) =>
        { registry
          calls := s.calls.erase ticket
          published := s.published ++ [bundle.version]
          succeeded := s.succeeded ++ [(chainId, currentVersion)] }
    | _ => s
  | .distribute policy now =>
    s.withDistributor (s.registry.distributor.distribute rt policy now).1

def opened (distributor : PolicyDistributor) : Clients :=
  { registry := { distributor, store := ∅ }, calls := ∅, published := [], succeeded := [] }

/-- `installed` is `base` with the client's non-None fields and `issued_at` replaced. -/
def Replaced (base : PolicyConfig) (fields : Dict String PyVal) (issuedAt : ℚ)
    (installed : PolicyConfig) : Prop :=
  installed.chainId = base.chainId ∧ ∀ field : PolicyField, field.get installed =
    if field = .issuedAt then .float (.finite issuedAt)
    else ((fields.get? field.name).filter fun value => !value.isNone).getD (field.get base)

theorem name_eq_issued_at_iff (field : PolicyField) :
    field.name = "issued_at" ↔ field = .issuedAt := by
  cases field <;> simp [PolicyField.name]

theorem replace_get {policy updated : PolicyConfig} {changes : Dict String PyVal}
    (ok : replace policy changes = .ok updated) : updated.chainId = policy.chainId ∧
      ∀ field : PolicyField, field.get updated =
        (changes.get? field.name).getD (field.get policy) := by
  unfold replace at ok
  split at ok
  · simp at ok
  · cases ok
    refine ⟨rfl, ?_⟩
    intro field
    cases field <;> rfl

theorem updateRead_ok {r : PolicyRegistry} {chainId : String} {currentVersion : Int}
    {fields : Dict String PyVal} {now : ℚ} {updated : PolicyConfig}
    (ok : updateRead r chainId currentVersion fields now = .ok updated) :
    ∃ existing, r.store.get? chainId = some existing ∧ existing.version = currentVersion ∧
      Replaced existing.policy fields now updated := by
  unfold updateRead at ok
  split at ok
  · cases ok
  · split at ok
    · cases ok
    · rename_i existing found
      split at ok
      · cases ok
      · rename_i same
        refine ⟨existing, found, not_not.mp same, ?_⟩
        cases built : replace existing.policy (updateKwargs fields now) with
        | error e => simp [built, Except.mapError] at ok
        | ok policy =>
          simp only [built, Except.mapError, Except.ok.injEq] at ok
          subst ok
          obtain ⟨chain, each⟩ := replace_get built
          refine ⟨chain, ?_⟩
          intro field
          rw [each field, updateKwargs, Dict.get?_set]
          simp only [name_eq_issued_at_iff, Dict.get?_filterValues]
          split <;> rfl

theorem updateWrite_cases (r : PolicyRegistry) (chainId : String) (currentVersion : Int)
    (newBundle : PolicyBundle) :
    (∃ e, updateWrite r chainId currentVersion newBundle = (r, .error e)) ∨
    ∃ current, r.store.get? chainId = some current ∧ current.version = currentVersion ∧
      updateWrite r chainId currentVersion newBundle =
        ({ r with store := r.store.set chainId newBundle }, .ok newBundle) := by
  unfold updateWrite
  cases found : r.store.get? chainId with
  | none => exact Or.inl ⟨_, rfl⟩
  | some current =>
    by_cases same : (current.version : Int) = currentVersion
    · right
      exact ⟨current, rfl, same, by simp [same]⟩
    · left
      exact ⟨staleConcurrent, by simp [same]⟩

/-- Uninterrupted, the three steps of an update are `update`. -/
theorem update_eq_run (rt : Runtime) (s : Clients) {ticket : Nat}
    (unused : s.calls.get? ticket = none) (chainId : String) (currentVersion : Int)
    (fields : Dict String PyVal) (readAt distributedAt : ℚ) :
    (Runs.run (act rt) s [.updateRead ticket chainId currentVersion fields readAt,
      .updateDistribute ticket distributedAt, .updateWrite ticket]).registry =
      (update rt s.registry chainId currentVersion fields readAt distributedAt).1 := by
  simp only [Runs.run, List.foldl, act, update]
  cases read : updateRead s.registry chainId currentVersion fields readAt with
  | error e => simp [unused]
  | ok updated =>
    cases distributed : s.registry.distributor.distribute rt updated distributedAt with
    | mk distributor outcome =>
      cases outcome with
      | error e =>
        simp [Clients.suspend, distributed, Clients.withDistributor, Clients.drop,
          Dict.get?_erase]
      | ok newBundle =>
        rcases updateWrite_cases { s.registry with distributor } chainId currentVersion
            newBundle with ⟨e, eq⟩ | ⟨current, _, _, eq⟩ <;>
          simp [Clients.suspend, distributed, Clients.withDistributor, Clients.drop, eq]

/-- Uninterrupted, the two steps of a registration are `register`. -/
theorem register_eq_run (rt : Runtime) (s : Clients) {ticket : Nat}
    (unused : s.calls.get? ticket = none) (policy : PolicyConfig) (now : ℚ) :
    (Runs.run (act rt) s [.registerDistribute ticket policy now, .registerStore ticket]).registry =
      (s.registry.register rt policy now).1 := by
  simp only [Runs.run, List.foldl, act]
  rcases distribute_cases rt s.registry.distributor policy now with
    ⟨_, bundle, eq, _⟩ | ⟨_, e, eq⟩
  · simp [eq, PolicyRegistry.register, Clients.suspend, Clients.withDistributor, Clients.drop,
      Clients.publish]
  · simp [eq, PolicyRegistry.register, Clients.withDistributor, unused]

end VeronicaPolicyUpdates
