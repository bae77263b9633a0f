import Veronica.RunQueries
import Veronica.TenantApi

/- The policy editor: pages that load a policy, let it be edited and save it with the version they
   hold, any number of them against one registry. Requests and answers may be late, lost or out of
   order. What the browser makes of values and texts is a parameter. -/
namespace VeronicaPolicyEditor
open VeronicaDistribution VeronicaPolicyUpdates
open VeronicaRunQueries (SafePath)
open VeronicaTenantApi (FieldType responseType)

/-- The policy of a response has the values its model declares. -/
structure PolicyResponse where
  policy : PolicyConfig
  policyHash : String
  version : Nat

def policyOf (chainId : String) (value : PolicyField → PyVal) : PolicyConfig where
  chainId := chainId
  ceilingUsd := value .ceilingUsd
  onExceed := value .onExceed
  issuedAt := value .issuedAt
  ceilingTokensOut := value .ceilingTokensOut
  ceilingSteps := value .ceilingSteps
  fallbackModel := value .fallbackModel
  timeoutMs := value .timeoutMs
  rateWindowSeconds := value .rateWindowSeconds
  rateCeilingCalls := value .rateCeilingCalls
  priority := value .priority
  deadlineTs := value .deadlineTs
  expiresAt := value .expiresAt
  plannerVersion := value .plannerVersion

@[simp] theorem get_policyOf (chainId : String) (value : PolicyField → PyVal)
    (field : PolicyField) : field.get (policyOf chainId value) = value field := by
  cases field <;> rfl

abbrev Validation := FieldType → PyVal → Option PyVal

/-- What it takes it takes again, and numbers and texts of the type as they are. -/
structure Validation.Sound (read : Validation) : Prop where
  again : ∀ type value taken, read type value = some taken → read type taken = some taken
  number : ∀ q, read .number (.float (.finite q)) = some (.float (.finite q))
  text : ∀ s, read .text (.str s) = some (.str s)
  integer : ∀ n, read .integer (.int n) = some (.int n)
  optionalInteger : ∀ n, read (.optional .integer) (.int n) = some (.int n)
  optionalText : ∀ s, read (.optional .text) (.str s) = some (.str s)

def bundleToResponse (read : Validation) (bundle : PolicyBundle) : Option PolicyResponse :=
  let taken (field : PolicyField) := read (responseType field) (field.get bundle.policy)
  if PolicyField.all.all fun field => (taken field).isSome then
    some {
      policy := policyOf bundle.policy.chainId fun field => (taken field).getD .none
      policyHash := bundle.policyHash
      version := bundle.version }
  else none

def getPolicy (read : Validation) (r : PolicyRegistry) (chainId : String) :
    Option PolicyResponse :=
  if SafePath chainId then (r.getPolicy chainId).bind (bundleToResponse read) else none

inductive PutAnswer where
  | saved (response : PolicyResponse)
  | refused (status : Nat)

/-- PUT /policies/{chain_id}. No branch of it waits, so other requests find it before or behind
    them. -/
def updatePolicy (rt : Runtime) (read : Validation) (immutableConfig : Bool) (r : PolicyRegistry)
    (chainId : String) (currentVersion : Int) (fields : Dict String PyVal)
    (readAt distributedAt : ℚ) : PolicyRegistry × PutAnswer :=
  if ¬ SafePath chainId then (r, .refused 422)
  else if immutableConfig then (r, .refused 403)
  else
    match update rt r chainId currentVersion fields readAt distributedAt with
    | (r, .ok bundle) => (r, (bundleToResponse read bundle).elim (.refused 500) .saved)
    | (r, .error (.python (.keyError _))) => (r, .refused 404)
    | (r, .error (.policyValidation _ _)) | (r, .error (.missingFields _ _)) => (r, .refused 422)
    | (r, .error (.python (.valueError _))) | (r, .error (.python (.typeError _))) =>
      (r, .refused 409)
    | (r, .error (.python _)) => (r, .refused 500)

inductive InputKind where
  | number
  | select
  | text
  | hidden

/-- `text` is `String(value)` of a value read from JSON, `assign` what an element's `value` is
    after it was assigned a string. A number that is not finite is none for `parseInt`. -/
structure Browser where
  text : PyVal → String
  assign : InputKind → String → String
  trim : String → String
  parseFloat : String → PyFloat
  parseInt : String → Option Int

namespace Browser

/-- What `renderEditor` puts into the element of a field; the other fields have none. -/
def display (b : Browser) (field : PolicyField) (value : PyVal) : String :=
  let orElse (fallback : String) := if value.isNone then fallback else b.text value
  match field with
  | .ceilingUsd | .ceilingTokensOut | .ceilingSteps | .timeoutMs => b.assign .number (orElse "")
  | .onExceed => b.assign .select (orElse "halt")
  | .fallbackModel => b.assign .text (orElse "")
  | .priority => b.assign .number (orElse "50")
  | _ => ""

/-- What `buildUpdatePayload` makes of the element of a field, if that is sent at all: a zero, a
    blank and what is no number are not. -/
def entry (b : Browser) (field : PolicyField) (value : String) : Option PyVal :=
  match field with
  | .ceilingUsd =>
    match b.parseFloat value with
    | .finite q => if q = 0 then none else some (.float (.finite q))
    | _ => none
  | .onExceed => if value = "" then none else some (.str value)
  | .priority => ((b.parseInt value).filter fun n => n ≠ 0).map .int
  | .ceilingTokensOut | .ceilingSteps | .timeoutMs =>
    if b.trim value = "" then none else (b.parseInt (b.trim value)).map .int
  | .fallbackModel => if b.trim value = "" then none else some (.str (b.trim value))
  | _ => none

def validateForm (b : Browser) (form : PolicyField → String) : Bool :=
  let ceilingOk := match b.parseFloat (form .ceilingUsd) with
    | .finite q => decide (0 ≤ q)
    | .inf => true
    | .negInf | .nan => false
  let priorityOk := match b.parseInt (form .priority) with
    | some n => decide (0 ≤ n ∧ n ≤ 100)
    | none => false
  ceilingOk && priorityOk

def versionOf (b : Browser) (value : String) : Int := (b.parseInt value).getD 0

def showVersion (b : Browser) (version : Nat) : String :=
  b.assign .hidden (b.text (.int version))

end Browser

inductive Load where
  | asked (chainId : String)
  | answered (response : Option PolicyResponse)

/-- A PUT that is on its way. The last two fields only observe: the policy the editor held when
    Save was clicked, and the fields edited by then since a policy was last shown. -/
structure Save where
  chainId : String
  currentVersion : Int
  sent : PolicyField → Option PyVal
  answer : Option PutAnswer := none
  held : PolicyResponse
  touched : List PolicyField

def setGiven (fields : Dict String PyVal) (key : String) (value : Option PyVal) :
    Dict String PyVal :=
  value.elim fields (fields.set key)

def Save.fields (save : Save) : Dict String PyVal :=
  PolicyField.all.foldl (fun fields field => setGiven fields field.name (save.sent field)) ∅

/-- `touched` only observes. -/
structure Editor where
  currentPolicy : Option PolicyResponse := none
  form : PolicyField → String := fun _ => ""
  version : String := ""
  loads : Dict Nat Load := ∅
  save : Option Save := none
  touched : List PolicyField := []

structure System where
  registry : PolicyRegistry
  editors : Nat → Editor

/-- `select`, `edit`, `cancel` and `click` are the user's, `render` and `saved` the arrival of an
    answer, `loadLost` and `saveLost` that of none. The last three are other clients of the
    server. -/
inductive Action where
  | select (e ticket : Nat) (chainId : String)
  | serveLoad (e ticket : Nat)
  | render (e ticket : Nat)
  | loadLost (e ticket : Nat)
  | edit (e : Nat) (field : PolicyField) (value : String)
  | cancel (e : Nat)
  | click (e : Nat)
  | serveSave (e : Nat) (readAt distributedAt : ℚ)
  | saved (e : Nat)
  | saveLost (e : Nat)
  | register (policy : PolicyConfig) (now : ℚ)
  | update (chainId : String) (currentVersion : Int) (fields : Dict String PyVal)
      (readAt distributedAt : ℚ)
  | distribute (policy : PolicyConfig) (now : ℚ)

namespace Editor

/-- `currentPolicy = await resp.json(); renderEditor(currentPolicy)` -/
def render (b : Browser) (ed : Editor) (response : PolicyResponse) : Editor :=
  { ed with
    currentPolicy := some response
    form := fun field => b.display field (field.get response.policy)
    version := b.showVersion response.version
    touched := [] }

def edit (ed : Editor) (field : PolicyField) (value : String) : Editor :=
  { ed with
    form := fun other => if other = field then value else ed.form other
    touched := field :: ed.touched }

/-- `savePolicy` up to its request. The button is disabled while one is on its way. -/
def click (b : Browser) (ed : Editor) : Editor :=
  match ed.currentPolicy, ed.save with
  | some response, none =>
    if b.validateForm ed.form then
      { ed with save := some {
          chainId := response.policy.chainId
          currentVersion := b.versionOf ed.version
          sent := fun field => b.entry field (ed.form field)
          held := response
          touched := ed.touched } }
    else ed
  | _, _ => ed

/-- `savePolicy` from its answer on. The form is left as it is. -/
def saved (b : Browser) (ed : Editor) : Editor :=
  match ed.save.bind Save.answer with
  | some (.saved response) =>
    { ed with
      currentPolicy := some response
      version := b.showVersion response.version
      save := none }
  | some (.refused _) => { ed with save := none }
  | none => ed

end Editor

section Runs
variable (rt : Runtime) (read : Validation) (immutableConfig : Bool) (b : Browser)

def System.setEditor (s : System) (e : Nat) (ed : Editor) : System :=
  { s with editors := fun other => if other = e then ed else s.editors other }

def step (s : System) : Action → System
  | .select e ticket chainId =>
    s.setEditor e { s.editors e with
      loads := (s.editors e).loads.set ticket (.asked chainId) }
  | .serveLoad e ticket =>
    match (s.editors e).loads.get? ticket with
    | some (.asked chainId) =>
      s.setEditor e { s.editors e with
        loads := (s.editors e).loads.set ticket (.answered (getPolicy read s.registry chainId)) }
    | _ => s
  | .render e ticket =>
    match (s.editors e).loads.get? ticket with
    | some (.answered (some response)) =>
      s.setEditor e
        ({ s.editors e with loads := (s.editors e).loads.erase ticket }.render b response)
    | _ => s
  | .loadLost e ticket =>
    s.setEditor e { s.editors e with loads := (s.editors e).loads.erase ticket }
  | .edit e field value => s.setEditor e ((s.editors e).edit field value)
  | .cancel e => s.setEditor e { s.editors e with currentPolicy := none }
  | .click e => s.setEditor e ((s.editors e).click b)
  | .serveSave e readAt distributedAt =>
    match (s.editors e).save with
    | some save =>
      if save.answer.isSome then s
      else
        let (registry, answer) := updatePolicy rt read immutableConfig s.registry save.chainId
          save.currentVersion save.fields readAt distributedAt
        { s with registry }.setEditor e
          { s.editors e with save := some { save with answer := some answer } }
    | none => s
  | .saved e => s.setEditor e ((s.editors e).saved b)
  | .saveLost e => s.setEditor e { s.editors e with save := none }
  | .register policy now => { s with registry := (s.registry.register rt policy now).1 }
  | .update chainId currentVersion fields readAt distributedAt =>
    { s with registry :=
        (VeronicaPolicyUpdates.update rt s.registry chainId currentVersion fields readAt
          distributedAt).1 }
  | .distribute policy now =>
    { s with registry :=
        { s.registry with distributor := (s.registry.distributor.distribute rt policy now).1 } }

end Runs

def opened (distributor : PolicyDistributor) : System :=
  { registry := { distributor, store := ∅ }, editors := fun _ => {} }

end VeronicaPolicyEditor
