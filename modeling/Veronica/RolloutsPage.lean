import Veronica.RevokedPolicy
import Veronica.Library.Patterns

/- The rollouts page of the web UI beside the rollout endpoints. Any number of pages is open; their
   requests and the answers come in any order with the clicks of their users and the requests of
   other clients. -/
namespace VeronicaRolloutsPage
open VeronicaDistribution VeronicaRollouts

def isActorChar (c : Char) : Bool :=
  c.isAlphanum || c = '@' || c = '.' || c = '_' || c = '-'

/-- The pattern and the lengths declared for an actor, and for the creator of a rollout. -/
def SafeActor (actor : String) : Prop := Patterns.OfClass isActorChar 1 256 actor.toList

instance (actor : String) : Decidable (SafeActor actor) :=
  inferInstanceAs (Decidable (Patterns.OfClass ..))

structure StateTransitionResponse where
  fromState : String
  toState : String
  timestamp : ℚ
  actor : String

/-- The times are kept; their ISO texts are not modelled. -/
structure RolloutResponse where
  id : String
  state : String
  createdBy : String
  createdAt : ℚ
  updatedAt : ℚ
  history : List StateTransitionResponse
  simulationResult : Option PyVal

def transitionToResponse (t : StateTransition) : StateTransitionResponse where
  fromState := t.fromState.value
  toState := t.toState.value
  timestamp := t.timestamp
  actor := t.actor

def rolloutToResponse (r : Rollout) : RolloutResponse where
  id := r.id
  state := r.state.value
  createdBy := r.createdBy
  createdAt := r.createdAt
  updatedAt := r.updatedAt
  history := r.history.map transitionToResponse
  simulationResult := r.simulationResult

/-- `list_all` -/
def listAll (reg : RolloutRegistry) (stateFilter : Option RolloutState) (page perPage : Nat) :
    List Rollout × Nat :=
  let allItems := reg.rollouts.values.filter fun r => stateFilter.all (r.state = ·)
  let page := max 1 page
  let perPage := max 1 perPage
  ((allItems.drop ((page - 1) * perPage)).take perPage, allItems.length)

def rolloutStates : List RolloutState :=
  [.draft, .simulated, .approved, .promoted, .active, .revoked]

structure RolloutListResponse where
  items : List RolloutResponse
  total : Nat
  page : Nat
  perPage : Nat

def maxPerPage : Nat := 200

/-- GET /rollouts. A state that is given has to be one of the enumeration. -/
def listRollouts (reg : RolloutRegistry) (state : Option String) (page perPage : Nat) :
    Except Nat RolloutListResponse :=
  let known := state.map fun value => rolloutStates.find? fun s => s.value = value
  if page < 1 ∨ perPage < 1 ∨ maxPerPage < perPage ∨ known = some none then .error 422
  else
    let (items, total) := listAll reg known.join page perPage
    .ok { items := items.map rolloutToResponse, total, page, perPage }

structure CreateRolloutRequest where
  policyConfig : Dict String PyVal
  createdBy : String

/-- Both fields are required; others are ignored. -/
def CreateRolloutRequest.ofBody (body : Dict String PyVal) : Option CreateRolloutRequest :=
  match body.get? "policy_config", body.get? "created_by" with
  | some (.dict entries), some (.str createdBy) =>
    if SafeActor createdBy then
      some { policyConfig := Dict.ofEntries entries, createdBy }
    else none
  | _, _ => none

/-- POST /rollouts. `build` is `_build_policy` at the time of the request. -/
def postRollouts (build : Dict String PyVal → Option PolicyConfig) (app : AppState)
    (body : Dict String PyVal) (id : String) (now : ℚ) : AppState × Option RolloutResponse :=
  match CreateRolloutRequest.ofBody body with
  | none => (app, none)
  | some request =>
    match build request.policyConfig with
    | none => (app, none)
    | some policy =>
      let (app, response) := createRollout app id policy request.createdBy now
      (app, response.toOption.map rolloutToResponse)

/-- The request that an action of the page is; without an actor that is fit only a simulation. -/
def requestOf (rolloutId action : String) (actor : Option String) (now : ℚ) : Option Request :=
  if action = "simulate" then some (.simulate rolloutId now)
  else
    (actor.filter fun name => decide (SafeActor name)).bind fun actor =>
      if action = "approve" then some (.approve rolloutId actor now)
      else if action = "promote" then some (.promote rolloutId actor now)
      else if action = "activate" then some (.activate rolloutId actor now)
      else if action = "revoke" then some (.revoke rolloutId actor now)
      else none

def statusOf : Fault → Nat
  | .http status _ => status
  | .unhandled _ => 500

/-- POST /rollouts/{rollout_id}/{action}. The ids are UUIDs, as the pattern of the path wants. -/
def post (rt : Runtime) (app : AppState) (rolloutId action : String) (actor : Option String)
    (now : ℚ) : AppState × Except Nat RolloutResponse :=
  match requestOf rolloutId action actor now with
  | none => (app, .error 422)
  | some request =>
    let (app, response) := respond rt app request
    (app, (response.mapError statusOf).map rolloutToResponse)

structure Button where
  action : String
  needsActor : Bool

/-- `TRANSITIONS` -/
def transitionsTable : List (String × List Button) :=
  [("draft", [⟨"simulate", false⟩, ⟨"revoke", true⟩]),
   ("simulated", [⟨"approve", true⟩, ⟨"revoke", true⟩]),
   ("approved", [⟨"promote", true⟩, ⟨"revoke", true⟩]),
   ("promoted", [⟨"activate", true⟩, ⟨"revoke", true⟩]),
   ("active", [⟨"revoke", true⟩]),
   ("revoked", [])]

def transitions (state : String) : List Button := (transitionsTable.lookup state).getD []

def validActions : List String := ["simulate", "approve", "promote", "activate", "revoke"]

/-- A button that was pressed. It carries the id of the rollout it was drawn from and its action;
    the rest of `shown` only observes. -/
structure Click where
  shown : RolloutResponse
  action : String

/-- A POST that is on its way. -/
structure Sent where
  click : Click
  actor : Option String
  answer : Option (Except Nat RolloutResponse) := none

/-- The GET that is on its way. -/
inductive Listing where
  | sent (stateFilter : String)
  | answered (response : Except Nat RolloutListResponse)

/-- The page is loading while there is a listing. `table` is what the rows were drawn from, `detail`
    what the panel with its action bar was. -/
structure Page where
  rollouts : List RolloutResponse := []
  table : List RolloutResponse := []
  detail : Option RolloutResponse := none
  stateFilter : String := ""
  pending : Option Click := none
  listing : Option Listing := none
  requests : Dict Nat Sent := ∅

def perPage : Nat := 50

namespace Page

def fetchRollouts (page : Page) : Page :=
  if page.listing.isSome then page else { page with listing := some (.sent page.stateFilter) }

def renderTable (page : Page) : Page := { page with table := page.rollouts }

def selectRollout (page : Page) (id : String) : Page :=
  match page.rollouts.find? fun r => r.id = id with
  | none => page
  | some r => { page with detail := some r }

/-- `doTransition` up to its request. -/
def send (page : Page) (ticket : Nat) (click : Click) (actor : Option String) : Page :=
  if click.action ∈ validActions then
    { page with requests := page.requests.set ticket { click, actor } }
  else page

def handleTransition (page : Page) (ticket : Nat) (r : RolloutResponse) (button : Button) : Page :=
  let click : Click := { shown := r, action := button.action }
  if button.needsActor then { page with pending := some click } else page.send ticket click none

/-- The listener of the Confirm button. `actor` is the trimmed input. -/
def confirm (page : Page) (ticket : Nat) (actor : String) : Page :=
  match page.pending with
  | some click =>
    if actor = "" then page else { page with pending := none }.send ticket click (some actor)
  | none => page

/-- The rows give way to the message of the error. -/
def failed (page : Page) : Page := { page with listing := none, table := [] }

/-- `fetchRollouts` from its answer on. -/
def listed (page : Page) : Page :=
  match page.listing with
  | some (.answered (.ok data)) => { page with listing := none, rollouts := data.items }.renderTable
  | some (.answered (.error _)) => page.failed
  | some (.sent _) | none => page

/-- `doTransition` from its answer on. -/
def updated (page : Page) (ticket : Nat) : Page :=
  match page.requests.get? ticket with
  | some { click, answer := some (.ok response), .. } =>
    let idx := page.rollouts.findIdx fun r => r.id = click.shown.id
    ({ page with
        requests := page.requests.erase ticket
        rollouts := page.rollouts.set idx response }.renderTable).selectRollout click.shown.id
  | some { answer := some (.error _), .. } =>
    { page with requests := page.requests.erase ticket }
  | some { answer := none, .. } | none => page

end Page

/-- What the form for a new rollout sends. -/
def createPayload (chainId : String) (ceilingUsd : PyFloat) (onExceed createdBy : String) :
    Dict String PyVal :=
  let payload := ((∅ : Dict String PyVal).set "chain_id" (.str chainId)).set "ceiling_usd"
    (.float ceilingUsd) |>.set "on_exceed" (.str onExceed)
  if createdBy = "" then payload else payload.set "created_by" (.str createdBy)

structure System where
  app : AppState
  pages : Nat → Page

/-- `filter` to `create` are the user's, `refresh` is the timer's too. A row of the table or the
    action bar is named by its place, as is a button. `serveList` and `serve` are the server's;
    `listed` to `lost` is what becomes of an answer, `turnedAway` one of status 401. The last two
    are other clients of the rollout and the policy endpoints. -/
inductive Action where
  | filter (p : Nat) (value : String)
  | refresh (p : Nat)
  | select (p : Nat) (id : String)
  | pressRow (p ticket row button : Nat)
  | pressDetail (p ticket button : Nat)
  | confirm (p ticket : Nat) (actor : String)
  | dismiss (p : Nat)
  | create (p : Nat) (chainId : String) (ceilingUsd : PyFloat) (onExceed createdBy id : String)
      (now : ℚ)
  | serveList (p : Nat)
  | serve (p ticket : Nat) (now : ℚ)
  | listed (p : Nat)
  | listLost (p : Nat)
  | turnedAway (p : Nat)
  | updated (p ticket : Nat)
  | lost (p ticket : Nat)
  | client (request : Request)
  | policies (registry : PolicyRegistry)

def press (page : Page) (ticket : Nat) (r : Option RolloutResponse) (button : Nat) : Page :=
  match r.bind fun r => ((transitions r.state)[button]?).map fun b => (r, b) with
  | some (r, b) => page.handleTransition ticket r b
  | none => page

section Steps
variable (rt : Runtime) (build : ℚ → Dict String PyVal → Option PolicyConfig)

def System.setPage (s : System) (p : Nat) (page : Page) : System :=
  { s with pages := fun other => if other = p then page else s.pages other }

/-- The server answers the listing that was sent. -/
def answerListing (app : AppState) (page : Page) : Page :=
  match page.listing with
  | some (.sent stateFilter) =>
    let state := if stateFilter = "" then none else some stateFilter
    { page with
      listing := some (.answered (listRollouts app.rolloutRegistry state 1 perPage)) }
  | some (.answered _) | none => page

def step (s : System) : Action → System
  | .filter p value => s.setPage p { s.pages p with stateFilter := value }.fetchRollouts
  | .refresh p => s.setPage p (s.pages p).fetchRollouts
  | .select p id => s.setPage p ((s.pages p).selectRollout id)
  | .pressRow p ticket row button =>
    s.setPage p (press (s.pages p) ticket ((s.pages p).table[row]?) button)
  | .pressDetail p ticket button =>
    s.setPage p (press (s.pages p) ticket (s.pages p).detail button)
  | .confirm p ticket actor => s.setPage p ((s.pages p).confirm ticket actor)
  | .dismiss p => s.setPage p { s.pages p with pending := none }
  | .create _ chainId ceilingUsd onExceed createdBy id now =>
    { s with app :=
        (postRollouts (build now) s.app (createPayload chainId ceilingUsd onExceed createdBy) id
          now).1 }
  | .serveList p => s.setPage p (answerListing s.app (s.pages p))
  | .serve p ticket now =>
    match (s.pages p).requests.get? ticket with
    | some { click, actor, answer := none } =>
      let (app, response) := post rt s.app click.shown.id click.action actor now
      { s with app }.setPage p
        { s.pages p with
          requests := (s.pages p).requests.set ticket { click, actor, answer := some response } }
    | some { answer := some _, .. } | none => s
  | .listed p => s.setPage p (s.pages p).listed
  | .listLost p =>
    s.setPage p (if (s.pages p).listing.isSome then (s.pages p).failed else s.pages p)
  | .turnedAway p => s.setPage p { s.pages p with listing := none }
  | .updated p ticket => s.setPage p ((s.pages p).updated ticket)
  | .lost p ticket =>
    s.setPage p { s.pages p with requests := (s.pages p).requests.erase ticket }
  | .client request => { s with app := handle rt s.app request }
  | .policies registry => { s with app := { s.app with registry } }

end Steps

def opened (distributor : PolicyDistributor) : System :=
  { app := startup distributor, pages := fun _ => {} }

end VeronicaRolloutsPage
