import Veronica.ExportPages
import Veronica.PolicyEditor

/- What the saves of policy editors do, for every order of requests, answers and edits: a save that
   is accepted replaces the very policy its editor held, and changes what was edited. -/
namespace VeronicaPolicyEditor
open VeronicaDistribution VeronicaPolicyUpdates
open VeronicaRunQueries (SafePath)
open VeronicaTenantApi (FieldType responseType)

section Registry
variable {rt : Runtime} {read : Validation} {r : PolicyRegistry}

/-- A registry that other requests have led to: nothing is stored but bundles of later versions,
    under their chains. -/
structure Advances (r after : PolicyRegistry) : Prop where
  later : r.distributor.version ≤ after.distributor.version
  stored : ∀ chainId bundle, after.store.get? chainId = some bundle →
    r.store.get? chainId = some bundle ∨ (r.distributor.version < bundle.version ∧
      bundle.version ≤ after.distributor.version ∧
      ((∀ b, r.store.get? chainId = some b → b.policy.chainId = chainId) →
        bundle.policy.chainId = chainId))

theorem advances_refl (r : PolicyRegistry) : Advances r r :=
  ⟨Nat.le_refl _, fun _ _ found => Or.inl found⟩

theorem advances_distributor {distributor : PolicyDistributor}
    (later : r.distributor.version ≤ distributor.version) : Advances r { r with distributor } :=
  ⟨later, fun _ _ found => Or.inl found⟩

theorem distribute_later (rt : Runtime) (d : PolicyDistributor) (p : PolicyConfig) (now : ℚ) :
    d.version ≤ (d.distribute rt p now).1.version := by
  rcases distribute_cases rt d p now with ⟨_, bundle, eq, _⟩ | ⟨_, e, eq⟩
  · rw [eq]
    exact Nat.le_succ _
  · rw [eq]

theorem advances_set {distributor : PolicyDistributor} {chainId : String} {bundle : PolicyBundle}
    (version : bundle.version = r.distributor.version + 1)
    (later : distributor.version = r.distributor.version + 1)
    (chain : (∀ b, r.store.get? chainId = some b → b.policy.chainId = chainId) →
      bundle.policy.chainId = chainId) :
    Advances r { distributor, store := r.store.set chainId bundle } := by
  constructor
  · show _ ≤ distributor.version
    omega
  · intro chain' bundle' found
    simp only [Dict.get?_set] at found
    split at found
    · rename_i same
      cases found
      subst same
      right
      refine ⟨by omega, ?_, chain⟩
      show _ ≤ distributor.version
      omega
    · exact Or.inl found

theorem advances_register (rt : Runtime) (policy : PolicyConfig) (now : ℚ) :
    Advances r (r.register rt policy now).1 := by
  unfold PolicyRegistry.register
  rcases distribute_cases rt r.distributor policy now with
    ⟨_, bundle, eq, same, version⟩ | ⟨_, e, eq⟩
  · rw [eq]
    refine advances_set version rfl ?_
    intro _
    rw [same]
  · rw [eq]
    exact advances_refl r

/-- Every way an update can end. One that succeeds has replaced the bundle its version names. -/
theorem update_cases (rt : Runtime) (r : PolicyRegistry) (chainId : String) (currentVersion : Int)
    (fields : Dict String PyVal) (readAt distributedAt : ℚ) :
    (∃ e, VeronicaPolicyUpdates.update rt r chainId currentVersion fields readAt distributedAt =
      (r, .error e)) ∨
    ∃ named bundle, r.store.get? chainId = some named ∧ named.version = currentVersion ∧
      Replaced named.policy fields readAt bundle.policy ∧
      bundle.version = r.distributor.version + 1 ∧
      VeronicaPolicyUpdates.update rt r chainId currentVersion fields readAt distributedAt =
        ({ distributor := { r.distributor with version := r.distributor.version + 1 }
           store := r.store.set chainId bundle }, .ok bundle) := by
  unfold VeronicaPolicyUpdates.update
  cases read : updateRead r chainId currentVersion fields readAt with
  | error e => exact Or.inl ⟨e, rfl⟩
  | ok updated =>
    obtain ⟨named, found, version, replaced⟩ := updateRead_ok read
    rcases distribute_cases rt r.distributor updated distributedAt with
      ⟨_, bundle, eq, same, next⟩ | ⟨_, e, eq⟩
    · right
      refine ⟨named, bundle, found, version, by rw [same]; exact replaced, next, ?_⟩
      simp only [eq, updateWrite, found, version, ne_eq, not_true, if_false]
    · left
      simp only [eq]
      exact ⟨e, rfl⟩

theorem advances_update (rt : Runtime) (chainId : String) (currentVersion : Int)
    (fields : Dict String PyVal) (readAt distributedAt : ℚ) :
    Advances r (VeronicaPolicyUpdates.update rt r chainId currentVersion fields readAt
      distributedAt).1 := by
  rcases update_cases rt r chainId currentVersion fields readAt distributedAt with
    ⟨e, eq⟩ | ⟨named, bundle, found, _, replaced, version, eq⟩
  · rw [eq]
    exact advances_refl r
  · rw [eq]
    refine advances_set version rfl ?_
    intro keyed
    rw [replaced.1, keyed named found]

end Registry

section Responses
variable {read : Validation} {bundle : PolicyBundle} {response : PolicyResponse}

theorem bundleToResponse_ok (ok : bundleToResponse read bundle = some response) :
    response.policy.chainId = bundle.policy.chainId ∧ response.version = bundle.version ∧
      ∀ field : PolicyField, read (responseType field) (field.get bundle.policy) =
        some (field.get response.policy) := by
  unfold bundleToResponse at ok
  dsimp only at ok
  split at ok
  · rename_i every
    cases ok
    refine ⟨rfl, rfl, ?_⟩
    intro field
    obtain ⟨value, taken⟩ := Option.isSome_iff_exists.mp (List.all_eq_true.mp every field
      (PolicyField.mem_all field))
    rw [get_policyOf, taken, Option.getD_some]
  · cases ok

theorem bundleToResponse_isSome (every : ∀ field : PolicyField, ∃ value,
    read (responseType field) (field.get bundle.policy) = some value) :
    ∃ response, bundleToResponse read bundle = some response := by
  refine ⟨_, if_pos (List.all_eq_true.mpr ?_)⟩
  intro field _
  exact Option.isSome_iff_exists.mpr (every field)

end Responses

section Payload

theorem name_injective {field other : PolicyField} (same : field.name = other.name) :
    field = other := by
  revert same
  cases field <;> cases other <;> decide

theorem get?_setGiven (fields : Dict String PyVal) (field other : PolicyField)
    (value : Option PyVal) : (setGiven fields field.name value).get? other.name =
      if other = field then value.or (fields.get? other.name) else fields.get? other.name := by
  cases value with
  | none => simp [setGiven]
  | some value =>
    by_cases here : other = field
    · simp [setGiven, here]
    · have apart : other.name ≠ field.name := fun same => here (name_injective same)
      simp [setGiven, here, Dict.get?_set_of_ne _ apart]

theorem get?_foldl_sent (sent : PolicyField → Option PyVal) (listed : List PolicyField)
    (fields : Dict String PyVal) (field : PolicyField) :
    (listed.foldl (fun fields field => setGiven fields field.name (sent field)) fields).get?
      field.name =
      if field ∈ listed then (sent field).or (fields.get? field.name)
      else fields.get? field.name := by
  induction listed generalizing fields with
  | nil => simp
  | cons first rest ih =>
    rw [List.foldl_cons, ih, get?_setGiven]
    by_cases here : field = first
    · subst here
      cases sent field <;> simp
    · simp [here]

theorem get?_fields (save : Save) (field : PolicyField) :
    save.fields.get? field.name = save.sent field := by
  rw [Save.fields, get?_foldl_sent, if_pos (PolicyField.mem_all field)]
  simp

end Payload

/-- The response is of a bundle that was stored under its chain. While that is stored still, the
    chain's version is its own. -/
structure Genuine (read : Validation) (r : PolicyRegistry) (response : PolicyResponse) : Prop where
  safe : SafePath response.policy.chainId
  typed : ∀ field : PolicyField, read (responseType field) (field.get response.policy) =
    some (field.get response.policy)
  counted : response.version ≤ r.distributor.version
  current : ∀ bundle, r.store.get? response.policy.chainId = some bundle →
    bundle.version = response.version → bundleToResponse read bundle = some response

structure StoreInv (r : PolicyRegistry) : Prop where
  keyed : ∀ chainId bundle, r.store.get? chainId = some bundle → bundle.policy.chainId = chainId
  counted : ∀ chainId bundle, r.store.get? chainId = some bundle →
    bundle.version ≤ r.distributor.version

/-- Sent fields replaced, the others as they were held. -/
def Merged (sent : PolicyField → Option PyVal) (held response : PolicyResponse) : Prop :=
  ∀ field : PolicyField, field ≠ .issuedAt →
    field.get response.policy = (sent field).getD (field.get held.policy)

/-- What a save that was accepted has done: it has replaced the policy its editor held. -/
structure Replaces (read : Validation) (r after : PolicyRegistry) (save : Save) (readAt : ℚ)
    (response : PolicyResponse) : Prop where
  replaced : ∃ named, r.store.get? save.chainId = some named ∧
    bundleToResponse read named = some save.held
  stored : ∃ bundle, after.store = r.store.set save.chainId bundle ∧
    bundle.policy.chainId = save.chainId ∧ bundleToResponse read bundle = some response
  issuedAt : response.policy.issuedAt = .float (.finite readAt)
  merged : Merged save.sent save.held response

/-- What is known of a save on its way. -/
structure Tracked (read : Validation) (r : PolicyRegistry) (save : Save) : Prop where
  held : Genuine read r save.held
  chain : save.chainId = save.held.policy.chainId
  version : save.currentVersion = save.held.version
  typed : ∀ field value, save.sent field = some value →
    value.isNone = false ∧ read (responseType field) value = some value
  answered : ∀ response, save.answer = some (.saved response) →
    Genuine read r response ∧ Merged save.sent save.held response

structure EditorInv (read : Validation) (b : Browser) (r : PolicyRegistry) (ed : Editor) :
    Prop where
  current : ∀ response, ed.currentPolicy = some response →
    Genuine read r response ∧ b.versionOf ed.version = response.version
  loads : ∀ ticket response, ed.loads.get? ticket = some (.answered (some response)) →
    Genuine read r response
  save : ∀ save, ed.save = some save → Tracked read r save

structure Inv (read : Validation) (b : Browser) (s : System) : Prop where
  store : StoreInv s.registry
  editors : ∀ e, EditorInv read b s.registry (s.editors e)

section Versions
variable {rt : Runtime} {read : Validation} {r after : PolicyRegistry}

theorem storeInv_advances (inv : StoreInv r) (advances : Advances r after) : StoreInv after := by
  constructor
  · intro chainId bundle found
    rcases advances.stored chainId bundle found with before | ⟨_, _, chain⟩
    · exact inv.keyed chainId bundle before
    · exact chain fun b here => inv.keyed chainId b here
  · intro chainId bundle found
    rcases advances.stored chainId bundle found with before | ⟨_, below, _⟩
    · exact (inv.counted chainId bundle before).trans advances.later
    · exact below

theorem genuine_advances {response : PolicyResponse} (genuine : Genuine read r response)
    (advances : Advances r after) : Genuine read after response := by
  constructor
  case safe => exact genuine.safe
  case typed => exact genuine.typed
  case counted => exact genuine.counted.trans advances.later
  case current =>
    intro bundle found same
    rcases advances.stored _ bundle found with before | ⟨above, _, _⟩
    · exact genuine.current bundle before same
    · have := genuine.counted
      omega

theorem tracked_advances {save : Save} (tracked : Tracked read r save)
    (advances : Advances r after) : Tracked read after save := by
  constructor
  case held => exact genuine_advances tracked.held advances
  case chain => exact tracked.chain
  case version => exact tracked.version
  case typed => exact tracked.typed
  case answered =>
    intro response answered
    obtain ⟨genuine, merged⟩ := tracked.answered response answered
    exact ⟨genuine_advances genuine advances, merged⟩

theorem editorInv_advances {b : Browser} {ed : Editor} (inv : EditorInv read b r ed)
    (advances : Advances r after) : EditorInv read b after ed := by
  constructor
  case current =>
    intro response held
    obtain ⟨genuine, version⟩ := inv.current response held
    exact ⟨genuine_advances genuine advances, version⟩
  case loads =>
    intro ticket response answered
    exact genuine_advances (inv.loads ticket response answered) advances
  case save =>
    intro save waiting
    exact tracked_advances (inv.save save waiting) advances

theorem inv_advances {b : Browser} {s : System} (inv : Inv read b s)
    (advances : Advances s.registry after) : Inv read b { s with registry := after } :=
  ⟨storeInv_advances inv.store advances, fun e => editorInv_advances (inv.editors e) advances⟩

theorem getPolicy_genuine (sound : read.Sound) (inv : StoreInv r) {chainId : String}
    {response : PolicyResponse} (served : getPolicy read r chainId = some response) :
    Genuine read r response := by
  unfold getPolicy at served
  split at served
  · rename_i safe
    obtain ⟨bundle, found, ok⟩ := Option.bind_eq_some_iff.mp served
    obtain ⟨chain, version, each⟩ := bundleToResponse_ok ok
    have here : response.policy.chainId = chainId := by
      rw [chain, inv.keyed chainId bundle found]
    constructor
    case safe =>
      rw [here]
      exact safe
    case typed => exact fun field => sound.again _ _ _ (each field)
    case counted =>
      rw [version]
      exact inv.counted chainId bundle found
    case current =>
      intro stored again _
      rw [here] at again
      cases found.symm.trans again
      exact ok
  · cases served

theorem entry_typed (sound : read.Sound) (b : Browser) (field : PolicyField) {text : String}
    {value : PyVal} (given : b.entry field text = some value) :
    value.isNone = false ∧ read (responseType field) value = some value := by
  cases field with
  | ceilingUsd =>
    simp only [Browser.entry] at given
    split at given
    · split at given
      · cases given
      · cases given
        exact ⟨rfl, sound.number _⟩
    · cases given
  | onExceed =>
    simp only [Browser.entry] at given
    split at given
    · cases given
    · cases given
      exact ⟨rfl, sound.text _⟩
  | priority =>
    obtain ⟨n, _, rfl⟩ := Option.map_eq_some_iff.mp given
    exact ⟨rfl, sound.integer n⟩
  | fallbackModel =>
    simp only [Browser.entry] at given
    split at given
    · cases given
    · cases given
      exact ⟨rfl, sound.optionalText _⟩
  | ceilingTokensOut | ceilingSteps | timeoutMs =>
    simp only [Browser.entry] at given
    split at given
    · cases given
    · obtain ⟨n, _, rfl⟩ := Option.map_eq_some_iff.mp given
      exact ⟨rfl, sound.optionalInteger n⟩
  | issuedAt | rateWindowSeconds | rateCeilingCalls | deadlineTs | expiresAt | plannerVersion =>
    cases given

/-- What an update with these fields makes of the bundle that was held is answered in full. -/
theorem replaced_response (sound : read.Sound) {save : Save} {named bundle : PolicyBundle}
    {readAt : ℚ} (tracked : Tracked read r save)
    (held : bundleToResponse read named = some save.held)
    (replaced : Replaced named.policy save.fields readAt bundle.policy) :
    ∃ response, bundleToResponse read bundle = some response ∧
      response.policy.issuedAt = .float (.finite readAt) ∧ Merged save.sent save.held response := by
  obtain ⟨_, _, each⟩ := bundleToResponse_ok held
  have taken : ∀ field : PolicyField, read (responseType field) (field.get bundle.policy) =
      some (if field = .issuedAt then .float (.finite readAt)
        else (save.sent field).getD (field.get save.held.policy)) := by
    intro field
    rw [replaced.2 field, get?_fields]
    by_cases stamp : field = .issuedAt
    · subst stamp
      exact sound.number readAt
    · simp only [stamp, if_false]
      cases given : save.sent field with
      | none => exact each field
      | some value =>
        obtain ⟨something, typed⟩ := tracked.typed field value given
        simp only [Option.filter, something, Bool.not_false, if_true, Option.getD_some]
        exact typed
  obtain ⟨response, ok⟩ := bundleToResponse_isSome fun field => ⟨_, taken field⟩
  obtain ⟨_, _, got⟩ := bundleToResponse_ok ok
  have value : ∀ field : PolicyField, field.get response.policy =
      if field = .issuedAt then .float (.finite readAt)
        else (save.sent field).getD (field.get save.held.policy) := by
    intro field
    exact Option.some.inj ((got field).symm.trans (taken field))
  refine ⟨response, ok, value .issuedAt, ?_⟩
  intro field other
  rw [value field, if_neg other]

/-- A PUT that an editor has sent is refused and changes nothing, or replaces the policy that the
    editor held. -/
theorem updatePolicy_cases (sound : read.Sound) {immutableConfig : Bool} {save : Save}
    (inv : StoreInv r) (tracked : Tracked read r save) {readAt distributedAt : ℚ}
    {answer : PutAnswer} (served : updatePolicy rt read immutableConfig r save.chainId
      save.currentVersion save.fields readAt distributedAt = (after, answer)) :
    (after = r ∧ ∃ status, answer = .refused status) ∨
      ∃ response, answer = .saved response ∧ Advances r after ∧ Genuine read after response ∧
        Replaces read r after save readAt response := by
  unfold updatePolicy at served
  split at served
  · cases served
    exact Or.inl ⟨rfl, _, rfl⟩
  · split at served
    · cases served
      exact Or.inl ⟨rfl, _, rfl⟩
    · rcases update_cases rt r save.chainId save.currentVersion save.fields readAt distributedAt
        with ⟨e, eq⟩ | ⟨named, bundle, found, version, replaced, next, eq⟩
      · rw [eq] at served
        left
        split at served
        · rename_i other
          cases other
        all_goals
          rename_i same
          cases same
          cases served
          exact ⟨rfl, _, rfl⟩
      · have chain : bundle.policy.chainId = save.chainId := by
          rw [replaced.1, inv.keyed _ named found]
        have held : bundleToResponse read named = some save.held := by
          refine tracked.held.current named ?_ ?_
          · rw [← tracked.chain]
            exact found
          · rw [tracked.version] at version
            exact_mod_cast version
        obtain ⟨response, ok, issued, merged⟩ := replaced_response sound tracked held replaced
        obtain ⟨chainEq, versionEq, each⟩ := bundleToResponse_ok ok
        have here : response.policy.chainId = save.chainId := by rw [chainEq, chain]
        rw [eq] at served
        simp only [ok, Option.elim_some, Prod.mk.injEq] at served
        obtain ⟨rfl, rfl⟩ := served
        refine Or.inr ⟨response, rfl, advances_set next rfl fun _ => chain, ?_, ?_⟩
        · constructor
          case safe =>
            rw [here, tracked.chain]
            exact tracked.held.safe
          case typed => exact fun field => sound.again _ _ _ (each field)
          case counted =>
            rw [versionEq, next]
          case current =>
            intro stored again _
            rw [here] at again
            simp only [Dict.get?_set_self, Option.some.injEq] at again
            subst again
            exact ok
        · exact ⟨⟨named, found, held⟩, ⟨bundle, rfl, chain, ok⟩, issued, merged⟩

end Versions

/-- The browser reads the version that it has just shown. -/
def VersionRead (b : Browser) (s : System) : Action → Prop
  | .render e ticket => ∀ response,
    (s.editors e).loads.get? ticket = some (.answered (some response)) →
      b.versionOf (b.showVersion response.version) = response.version
  | .saved e => ∀ save response, (s.editors e).save = some save →
    save.answer = some (.saved response) →
      b.versionOf (b.showVersion response.version) = response.version
  | _ => True

section Steps
variable {rt : Runtime} {read : Validation} {immutableConfig : Bool} {b : Browser} {s : System}

theorem inv_opened (distributor : PolicyDistributor) : Inv read b (opened distributor) := by
  constructor
  · exact ⟨fun _ _ found => (nomatch found), fun _ _ found => (nomatch found)⟩
  · intro e
    exact ⟨fun _ held => (nomatch held), fun _ _ held => (nomatch held),
      fun _ held => (nomatch held)⟩

theorem inv_setEditor (inv : Inv read b s) (e : Nat) {ed : Editor}
    (kept : EditorInv read b s.registry ed) : Inv read b (s.setEditor e ed) := by
  refine ⟨inv.store, ?_⟩
  intro other
  simp only [System.setEditor]
  split
  · exact kept
  · exact inv.editors other

theorem editorInv_loads {r : PolicyRegistry} {ed : Editor} (inv : EditorInv read b r ed)
    {loads : Dict Nat Load} (genuine : ∀ ticket response,
      loads.get? ticket = some (.answered (some response)) → Genuine read r response) :
    EditorInv read b r { ed with loads } :=
  ⟨inv.current, genuine, inv.save⟩

theorem editorInv_setLoad {r : PolicyRegistry} {ed : Editor} (inv : EditorInv read b r ed)
    (ticket : Nat) {load : Load}
    (genuine : ∀ response, load = .answered (some response) → Genuine read r response) :
    EditorInv read b r { ed with loads := ed.loads.set ticket load } := by
  refine editorInv_loads inv ?_
  intro other response found
  rw [Dict.get?_set] at found
  split at found
  · exact genuine response (Option.some.inj found)
  · exact inv.loads other response found

theorem editorInv_eraseLoad {r : PolicyRegistry} {ed : Editor} (inv : EditorInv read b r ed)
    (ticket : Nat) : EditorInv read b r { ed with loads := ed.loads.erase ticket } := by
  refine editorInv_loads inv ?_
  intro other response found
  exact inv.loads other response (Dict.get?_of_erase found).2

theorem editorInv_click (sound : read.Sound) {r : PolicyRegistry} {ed : Editor}
    (inv : EditorInv read b r ed) : EditorInv read b r (ed.click b) := by
  unfold Editor.click
  split
  · rename_i response held _
    split
    · refine ⟨inv.current, inv.loads, ?_⟩
      rintro save ⟨⟩
      obtain ⟨genuine, version⟩ := inv.current response held
      exact ⟨genuine, rfl, version, fun field value given => entry_typed sound b field given,
        fun _ answered => nomatch answered⟩
    · exact inv
  · exact inv

theorem editorInv_saved {r : PolicyRegistry} {ed : Editor} (inv : EditorInv read b r ed)
    (versions : ∀ save response, ed.save = some save → save.answer = some (.saved response) →
      b.versionOf (b.showVersion response.version) = response.version) :
    EditorInv read b r (ed.saved b) := by
  unfold Editor.saved
  split
  · rename_i response arrived
    obtain ⟨save, waiting, answered⟩ := Option.bind_eq_some_iff.mp arrived
    refine ⟨?_, inv.loads, fun _ none => nomatch none⟩
    rintro _ ⟨⟩
    exact ⟨((inv.save save waiting).answered response answered).1,
      versions save response waiting answered⟩
  · exact ⟨inv.current, inv.loads, fun _ none => nomatch none⟩
  · exact inv

/-- A PUT of an editor, as the server finds it: what it answers, and what it has done. -/
def Served (rt : Runtime) (read : Validation) (immutableConfig : Bool) (b : Browser) (s : System)
    (e : Nat) (readAt distributedAt : ℚ) (save : Save) : Prop :=
  let after := step rt read immutableConfig b s (.serveSave e readAt distributedAt)
  (after.registry = s.registry ∧
    ∃ status, (after.editors e).save = some { save with answer := some (.refused status) }) ∨
  ∃ response, (after.editors e).save = some { save with answer := some (.saved response) } ∧
    Advances s.registry after.registry ∧ Genuine read after.registry response ∧
    Replaces read s.registry after.registry save readAt response

theorem step_serveSave {e : Nat} {readAt distributedAt : ℚ} {save : Save}
    {registry : PolicyRegistry} {answer : PutAnswer} (waiting : (s.editors e).save = some save)
    (unanswered : save.answer = none) (served : updatePolicy rt read immutableConfig s.registry
      save.chainId save.currentVersion save.fields readAt distributedAt = (registry, answer)) :
    step rt read immutableConfig b s (.serveSave e readAt distributedAt) =
      { s with registry }.setEditor e
        { s.editors e with save := some { save with answer := some answer } } := by
  simp only [step, waiting, unanswered, Option.isSome_none, Bool.false_eq_true, if_false, served]

theorem serveSave_served (sound : read.Sound) (inv : Inv read b s) {e : Nat}
    {readAt distributedAt : ℚ} {save : Save} (waiting : (s.editors e).save = some save)
    (unanswered : save.answer = none) :
    Served rt read immutableConfig b s e readAt distributedAt save := by
  cases served : updatePolicy rt read immutableConfig s.registry save.chainId save.currentVersion
      save.fields readAt distributedAt with
  | mk registry answer =>
    unfold Served
    simp only [step_serveSave waiting unanswered served, System.setEditor, if_true]
    rcases updatePolicy_cases sound inv.store ((inv.editors e).save save waiting) served with
      ⟨rfl, status, rfl⟩ | ⟨response, rfl, advances, genuine, replaces⟩
    · exact Or.inl ⟨rfl, status, rfl⟩
    · exact Or.inr ⟨response, rfl, advances, genuine, replaces⟩

theorem inv_serveSave (sound : read.Sound) (inv : Inv read b s) (e : Nat)
    (readAt distributedAt : ℚ) :
    Inv read b (step rt read immutableConfig b s (.serveSave e readAt distributedAt)) := by
  cases waiting : (s.editors e).save with
  | none =>
    have same : step rt read immutableConfig b s (.serveSave e readAt distributedAt) = s := by
      simp only [step, waiting]
    rw [same]
    exact inv
  | some save =>
    cases answered : save.answer with
    | some answer =>
      have same : step rt read immutableConfig b s (.serveSave e readAt distributedAt) = s := by
        simp only [step, waiting, answered, Option.isSome_some, if_true]
      rw [same]
      exact inv
    | none =>
      cases served : updatePolicy rt read immutableConfig s.registry save.chainId
          save.currentVersion save.fields readAt distributedAt with
      | mk registry answer =>
        have tracked := (inv.editors e).save save waiting
        rw [step_serveSave waiting answered served]
        rcases updatePolicy_cases sound inv.store tracked served with
          ⟨rfl, status, rfl⟩ | ⟨response, rfl, advances, genuine, replaces⟩
        · refine inv_setEditor inv e ⟨(inv.editors e).current, (inv.editors e).loads, ?_⟩
          rintro _ ⟨⟩
          exact ⟨tracked.held, tracked.chain, tracked.version, tracked.typed,
            fun _ saved => (nomatch saved)⟩
        · have moved := inv_advances inv advances
          refine inv_setEditor moved e ⟨(moved.editors e).current, (moved.editors e).loads, ?_⟩
          rintro _ ⟨⟩
          have later := (moved.editors e).save save waiting
          refine ⟨later.held, later.chain, later.version, later.typed, ?_⟩
          rintro _ ⟨⟩
          exact ⟨genuine, replaces.merged⟩

theorem step_inv (sound : read.Sound) (inv : Inv read b s) (a : Action)
    (versions : VersionRead b s a) : Inv read b (step rt read immutableConfig b s a) := by
  cases a with
  | select e ticket chainId =>
    exact inv_setEditor inv e
      (editorInv_setLoad (inv.editors e) ticket fun _ asked => nomatch asked)
  | serveLoad e ticket =>
    simp only [step]
    split
    · refine inv_setEditor inv e (editorInv_setLoad (inv.editors e) ticket ?_)
      intro response answered
      exact getPolicy_genuine sound inv.store (Load.answered.inj answered)
    · exact inv
  | render e ticket =>
    simp only [step]
    split
    · rename_i response found
      refine inv_setEditor inv e ?_
      refine ⟨?_, (editorInv_eraseLoad (inv.editors e) ticket).loads, (inv.editors e).save⟩
      rintro _ ⟨⟩
      exact ⟨(inv.editors e).loads ticket response found, versions response found⟩
    · exact inv
  | loadLost e ticket => exact inv_setEditor inv e (editorInv_eraseLoad (inv.editors e) ticket)
  | edit e field value =>
    exact inv_setEditor inv e
      ⟨(inv.editors e).current, (inv.editors e).loads, (inv.editors e).save⟩
  | cancel e =>
    exact inv_setEditor inv e
      ⟨fun _ none => (nomatch none), (inv.editors e).loads, (inv.editors e).save⟩
  | click e => exact inv_setEditor inv e (editorInv_click sound (inv.editors e))
  | serveSave e readAt distributedAt => exact inv_serveSave sound inv e readAt distributedAt
  | saved e => exact inv_setEditor inv e (editorInv_saved (inv.editors e) versions)
  | saveLost e =>
    exact inv_setEditor inv e
      ⟨(inv.editors e).current, (inv.editors e).loads, fun _ none => nomatch none⟩
  | register policy now => exact inv_advances inv (advances_register rt policy now)
  | update chainId currentVersion fields readAt distributedAt =>
    exact inv_advances inv (advances_update rt chainId currentVersion fields readAt distributedAt)
  | distribute policy now =>
    exact inv_advances inv (advances_distributor (distribute_later rt _ policy now))

end Steps

/-- A save that reaches the server changes nothing, or replaces the policy that its editor held
    when Save was clicked. -/
def ReplacesHeld (rt : Runtime) (read : Validation) (immutableConfig : Bool) (b : Browser)
    (s : System) (a : Action) : Prop :=
  let after := step rt read immutableConfig b s a
  match a with
  | .serveSave e readAt _ => ∀ save, (s.editors e).save = some save → save.answer = none →
    (after.registry = s.registry ∧
      ∃ status, (after.editors e).save = some { save with answer := some (.refused status) }) ∨
    ∃ response, (after.editors e).save = some { save with answer := some (.saved response) } ∧
      Replaces read s.registry after.registry save readAt response
  | _ => True

/-- Whatever other editors and clients do, and however requests and answers are delayed, lost or
    overtaken: every save is refused, and changes nothing, or replaces exactly the policy that the
    editor held when Save was clicked. -/
theorem saves_replace_held_policy (rt : Runtime) {read : Validation} (sound : read.Sound)
    (immutableConfig : Bool) (b : Browser) (distributor : PolicyDistributor)
    {actions : List Action} (versions : Runs.EachStep (step rt read immutableConfig b)
      (VersionRead b) (opened distributor) actions) :
    Runs.EachStep (step rt read immutableConfig b) (ReplacesHeld rt read immutableConfig b)
      (opened distributor) actions := by
  refine Runs.eachStep_invariant (I := Inv read b)
    (fun s a inv versions => step_inv sound inv a versions) ?_ (inv_opened distributor) versions
  intro s a inv _
  cases a with
  | serveSave e readAt distributedAt =>
    intro save waiting unanswered
    have served : Served rt read immutableConfig b s e readAt distributedAt save :=
      serveSave_served sound inv waiting unanswered
    rcases served with
      refused | ⟨response, answered, _, _, replaces⟩
    · exact Or.inl refused
    · exact Or.inr ⟨response, answered, replaces⟩
  | _ => trivial

/-- What the form shows of a response is read back as it is, where it is sent at all. -/
structure ReadsBack (b : Browser) (response : PolicyResponse) : Prop where
  fields : ∀ field value, b.entry field (b.display field (field.get response.policy)) = some value →
    value = field.get response.policy
  version : b.versionOf (b.showVersion response.version) = response.version

/-- The user opens no policy while a save is on its way, and the browser reads what it shows. -/
def Patient (b : Browser) (s : System) : Action → Prop
  | .render e ticket => ∀ response,
    (s.editors e).loads.get? ticket = some (.answered (some response)) →
      (s.editors e).save = none ∧ ReadsBack b response
  | .saved e => ∀ save response, (s.editors e).save = some save →
    save.answer = some (.saved response) →
      b.versionOf (b.showVersion response.version) = response.version
  | _ => True

/-- The fields of the form that were not edited are none but the policy's. -/
def Reads (b : Browser) (ed : Editor) (response : PolicyResponse) : Prop :=
  ∀ field, field ∉ ed.touched → ∀ value, b.entry field (ed.form field) = some value →
    value = field.get response.policy

/-- What was sent of fields that were not edited is what was held. -/
def Kept (save : Save) : Prop :=
  ∀ field, field ∉ save.touched → ∀ value, save.sent field = some value →
    value = field.get save.held.policy

structure FormInv (b : Browser) (ed : Editor) : Prop where
  current : ∀ response, ed.currentPolicy = some response → Reads b ed response
  save : ∀ save, ed.save = some save →
    Reads b ed save.held ∧ (∀ field ∈ save.touched, field ∈ ed.touched) ∧ Kept save

section Forms
variable {rt : Runtime} {read : Validation} {immutableConfig : Bool} {b : Browser} {s : System}
  {ed : Editor}

theorem versionRead_of_patient {a : Action} (patient : Patient b s a) : VersionRead b s a := by
  cases a with
  | render e ticket => exact fun response found => (patient response found).2.version
  | saved e => exact patient
  | _ => trivial

theorem formInv_loads (inv : FormInv b ed) (loads : Dict Nat Load) :
    FormInv b { ed with loads } :=
  ⟨inv.current, inv.save⟩

theorem formInv_render {response : PolicyResponse} (idle : ed.save = none)
    (back : ReadsBack b response) : FormInv b (ed.render b response) := by
  constructor
  · rintro _ ⟨⟩ field _ value given
    exact back.fields field value given
  · intro save waiting
    rw [Editor.render, idle] at waiting
    cases waiting

theorem reads_edit {response : PolicyResponse} (reads : Reads b ed response) (field : PolicyField)
    (value : String) : Reads b (ed.edit field value) response := by
  intro other untouched read given
  have apart : other ≠ field := fun same => untouched (by simp [Editor.edit, same])
  have before : other ∉ ed.touched := fun among => untouched (List.mem_cons_of_mem _ among)
  refine reads other before read ?_
  simpa [Editor.edit, apart] using given

theorem formInv_edit (inv : FormInv b ed) (field : PolicyField) (value : String) :
    FormInv b (ed.edit field value) := by
  constructor
  · intro response held
    exact reads_edit (inv.current response held) field value
  · intro save waiting
    obtain ⟨reads, touched, kept⟩ := inv.save save waiting
    exact ⟨reads_edit reads field value,
      fun other among => List.mem_cons_of_mem _ (touched other among), kept⟩

theorem formInv_click (inv : FormInv b ed) : FormInv b (ed.click b) := by
  unfold Editor.click
  split
  · rename_i response held _
    split
    · refine ⟨inv.current, ?_⟩
      rintro save ⟨⟩
      exact ⟨inv.current response held, fun _ among => among, inv.current response held⟩
    · exact inv
  · exact inv

theorem merged_untouched {save : Save} {response : PolicyResponse} (kept : Kept save)
    (merged : Merged save.sent save.held response) {field : PolicyField}
    (untouched : field ∉ save.touched) (stamp : field ≠ .issuedAt) :
    field.get response.policy = field.get save.held.policy := by
  rw [merged field stamp]
  cases given : save.sent field with
  | none => rfl
  | some value => exact kept field untouched value given

theorem formInv_saved {r : PolicyRegistry} (inv : FormInv b ed) (tracks : EditorInv read b r ed) :
    FormInv b (ed.saved b) := by
  unfold Editor.saved
  split
  · rename_i response arrived
    obtain ⟨save, waiting, answered⟩ := Option.bind_eq_some_iff.mp arrived
    obtain ⟨reads, touched, kept⟩ := inv.save save waiting
    have merged := ((tracks.save save waiting).answered response answered).2
    refine ⟨?_, fun _ none => (nomatch none)⟩
    rintro _ ⟨⟩ field untouched value given
    have stamp : field ≠ .issuedAt := by
      rintro rfl
      cases given
    have before : field ∉ save.touched := fun among => untouched (touched field among)
    rw [merged_untouched kept merged before stamp]
    exact reads field untouched value given
  · exact ⟨inv.current, fun _ none => (nomatch none)⟩
  · exact inv

theorem forms_setEditor (forms : ∀ e, FormInv b (s.editors e)) (e : Nat) (kept : FormInv b ed) :
    ∀ other, FormInv b ((s.setEditor e ed).editors other) := by
  intro other
  simp only [System.setEditor]
  split
  · exact kept
  · exact forms other

theorem forms_serveSave (forms : ∀ e, FormInv b (s.editors e)) (e : Nat)
    (readAt distributedAt : ℚ) : ∀ other, FormInv b
      ((step rt read immutableConfig b s (.serveSave e readAt distributedAt)).editors other) := by
  simp only [step]
  split
  · rename_i save waiting
    split
    · exact forms
    · refine forms_setEditor (s := { s with registry := _ }) forms e ⟨(forms e).current, ?_⟩
      rintro _ ⟨⟩
      exact (forms e).save save waiting
  · exact forms

theorem step_forms (inv : Inv read b s) (forms : ∀ e, FormInv b (s.editors e)) (a : Action)
    (patient : Patient b s a) :
    ∀ e, FormInv b ((step rt read immutableConfig b s a).editors e) := by
  cases a with
  | select e ticket chainId => exact forms_setEditor forms e (formInv_loads (forms e) _)
  | serveLoad e ticket =>
    simp only [step]
    split
    · exact forms_setEditor forms e (formInv_loads (forms e) _)
    · exact forms
  | render e ticket =>
    simp only [step]
    split
    · rename_i response found
      obtain ⟨idle, back⟩ := patient response found
      exact forms_setEditor forms e (formInv_render idle back)
    · exact forms
  | loadLost e ticket => exact forms_setEditor forms e (formInv_loads (forms e) _)
  | edit e field value => exact forms_setEditor forms e (formInv_edit (forms e) field value)
  | cancel e => exact forms_setEditor forms e ⟨fun _ none => (nomatch none), (forms e).save⟩
  | click e => exact forms_setEditor forms e (formInv_click (forms e))
  | serveSave e readAt distributedAt => exact forms_serveSave forms e readAt distributedAt
  | saved e => exact forms_setEditor forms e (formInv_saved (forms e) (inv.editors e))
  | saveLost e => exact forms_setEditor forms e ⟨(forms e).current, fun _ none => (nomatch none)⟩
  | register policy now => exact forms
  | update chainId currentVersion fields readAt distributedAt => exact forms
  | distribute policy now => exact forms

end Forms

/-- A save that the server accepts leaves every field as the editor held it that was not edited
    since a policy was last shown, the time of issue apart. -/
def KeepsUntouched (rt : Runtime) (read : Validation) (immutableConfig : Bool) (b : Browser)
    (s : System) (a : Action) : Prop :=
  let after := step rt read immutableConfig b s a
  match a with
  | .serveSave e _ _ => ∀ save response, (s.editors e).save = some save → save.answer = none →
    (after.editors e).save = some { save with answer := some (.saved response) } →
      ∀ field, field ∉ save.touched → field ≠ .issuedAt →
        field.get response.policy = field.get save.held.policy
  | _ => True

/-- As long as no policy is opened while a save is on its way, and the browser reads back what it
    shows, saves change edited fields only, over any number of saves of one form. -/
theorem saves_keep_untouched_fields (rt : Runtime) {read : Validation} (sound : read.Sound)
    (immutableConfig : Bool) (b : Browser) (distributor : PolicyDistributor)
    {actions : List Action} (patient : Runs.EachStep (step rt read immutableConfig b)
      (Patient b) (opened distributor) actions) :
    Runs.EachStep (step rt read immutableConfig b) (KeepsUntouched rt read immutableConfig b)
      (opened distributor) actions := by
  refine Runs.eachStep_invariant (I := fun s => Inv read b s ∧ ∀ e, FormInv b (s.editors e))
    ?_ ?_ ⟨inv_opened distributor, fun e => ⟨fun _ none => (nomatch none), fun _ none =>
      (nomatch none)⟩⟩ patient
  · intro s a inv patient
    exact ⟨step_inv sound inv.1 a (versionRead_of_patient patient),
      step_forms inv.1 inv.2 a patient⟩
  · intro s a inv _
    cases a with
    | serveSave e readAt distributedAt =>
      intro save response waiting unanswered answered field untouched stamp
      have served : Served rt read immutableConfig b s e readAt distributedAt save :=
        serveSave_served sound inv.1 waiting unanswered
      rcases served with
        ⟨_, status, refused⟩ | ⟨other, saved, _, _, replaces⟩
      · cases answered.symm.trans refused
      · cases answered.symm.trans saved
        exact merged_untouched ((inv.2 e).save save waiting).2.2 replaces.merged untouched stamp
    | _ => trivial

section OneEditor
open VeronicaTenantApi (readAs)

theorem readAs_sound (floatAsInt : ℚ → Option Int) : Validation.Sound (readAs floatAsInt) where
  again := by
    intro type
    induction type with
    | number =>
      intro value taken ok
      cases value <;> cases ok <;> rfl
    | text =>
      intro value taken ok
      cases value <;> cases ok
      rfl
    | integer =>
      intro value taken ok
      cases value with
      | int n =>
        cases ok
        rfl
      | float x =>
        cases x with
        | finite q =>
          obtain ⟨n, _, rfl⟩ := Option.map_eq_some_iff.mp ok
          rfl
        | inf | negInf | nan => cases ok
      | none | bool | str | list | dict => cases ok
    | optional type ih =>
      intro value taken ok
      cases value with
      | none =>
        cases ok
        rfl
      | bool | int | float | str | list | dict =>
        have again := ih _ taken ok
        cases taken with
        | none => rfl
        | bool | int | float | str | list | dict => exact again
  number := fun _ => rfl
  text := fun _ => rfl
  integer := fun _ => rfl
  optionalInteger := fun _ => rfl
  optionalText := fun _ => rfl

/-- The numbers below a hundred, as any browser shows and reads them. -/
def smallNumbers : Browser where
  text
    | .int n => toString n
    | .float (.finite q) => toString q.num
    | .str s => s
    | _ => ""
  assign := fun _ s => s
  trim := id
  parseFloat := fun s => match (List.range 100).find? fun n => toString n = s with
    | some n => .finite n
    | none => .nan
  parseInt := fun s => ((List.range 100).find? fun n => toString n = s).map Int.ofNat

/-- No float is taken in place of an int. -/
def noFloats : ℚ → Option Int := fun _ => none

/-- A policy is opened, its priority set to 70, and saved. -/
def onePolicySaved : List Action :=
  [.register (VeronicaExport.agentPolicy "agent") 1740000001, .select 0 0 "agent", .serveLoad 0 0,
    .render 0 0, .edit 0 .priority "70", .click 0, .serveSave 0 1740000002 1740000003, .saved 0]

theorem one_policy_replaced :
    Runs.EachStep (step plainRuntime (readAs noFloats) false smallNumbers)
      (ReplacesHeld plainRuntime (readAs noFloats) false smallNumbers)
      (opened lenient) onePolicySaved := by
  refine saves_replace_held_policy _ (readAs_sound noFloats) false smallNumbers _ ?_
  refine ⟨trivial, trivial, trivial, ?_, trivial, trivial, trivial, ?_, trivial⟩
  · intro response found
    cases found
    decide +kernel
  · intro save response waiting answered
    cases waiting
    cases answered
    decide +kernel

theorem one_policy_keeps_untouched :
    Runs.EachStep (step plainRuntime (readAs noFloats) false smallNumbers)
      (KeepsUntouched plainRuntime (readAs noFloats) false smallNumbers)
      (opened lenient) onePolicySaved := by
  refine saves_keep_untouched_fields _ (readAs_sound noFloats) false smallNumbers _ ?_
  refine ⟨trivial, trivial, trivial, ?_, trivial, trivial, trivial, ?_, trivial⟩
  · intro response found
    cases found
    refine ⟨rfl, ?_, by decide +kernel⟩
    intro field value given
    cases field <;> cases given <;> rfl
  · intro save response waiting answered
    cases waiting
    cases answered
    decide +kernel

/-- The first policy is being saved when the second is opened. The form then holds the values of
    the second and the version of the first, and the next click saves it there. -/
def openedTooSoon : List Action :=
  [.register (VeronicaExport.agentPolicy "first") 1740000001,
    .register { VeronicaExport.agentPolicy "second" with ceilingUsd := .float (.finite 9) }
      1740000002,
    .select 0 0 "first", .serveLoad 0 0, .render 0 0, .click 0, .select 0 1 "second",
    .serveLoad 0 1, .render 0 1, .serveSave 0 1740000003 1740000004, .saved 0, .click 0,
    .serveSave 0 1740000005 1740000006]

example : ((Runs.run (step plainRuntime (readAs noFloats) false smallNumbers)
    (opened lenient) openedTooSoon).registry.getPolicy "first").map
      (fun bundle => bundle.policy.ceilingUsd.number?) = some (some (.finite 9)) := by
  decide +kernel

end OneEditor

end VeronicaPolicyEditor
