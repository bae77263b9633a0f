import Veronica.RolloutsPage

/- What the rollouts page shows, however late its answers come, and what the server makes of a
   click on a button that was drawn from an earlier state of a rollout. -/
namespace VeronicaRolloutsPage
open VeronicaDistribution VeronicaRollouts RolloutRegistry VeronicaLifecycle Walks

/-- The edges that the endpoints take. None of them leads back to DRAFT. -/
def Onward (source target : RolloutState) : Prop := Edge source target ∧ target ≠ .draft

/-- What an endpoint that succeeds makes of a rollout. -/
structure Advanced (before : Rollout) (target : RolloutState) (after : Rollout) : Prop where
  onward : Onward before.state target
  state : after.state = target
  id : after.id = before.id
  createdBy : after.createdBy = before.createdBy
  createdAt : after.createdAt = before.createdAt
  history : ∃ now actor, after.history = before.history ++ [⟨before.state, target, now, actor⟩]

/-- A rollout as the endpoints keep it. -/
structure Kept (id : String) (rollout : Rollout) : Prop where
  id : rollout.id = id
  path : Walk Onward .draft rollout.state (edgesOf rollout.history)

def RegistryInv (reg : RolloutRegistry) : Prop :=
  ∀ id rollout, reg.get id = some rollout → Kept id rollout

/-- Rollouts are added behind the others, never taken away, and their histories only grow. -/
structure Grows (reg after : RolloutRegistry) : Prop where
  keys : reg.rollouts.keys <+: after.rollouts.keys
  held : ∀ id rollout, reg.get id = some rollout → ∃ later, after.get id = some later ∧
    rollout.history <+: later.history ∧ later.createdBy = rollout.createdBy ∧
    later.createdAt = rollout.createdAt

section Registry
variable {rt : Runtime} {reg after : RolloutRegistry} {app : AppState}

theorem grows_refl (reg : RolloutRegistry) : Grows reg reg :=
  ⟨List.prefix_refl _, fun _ rollout found =>
    ⟨rollout, found, List.prefix_refl _, rfl, rfl⟩⟩

theorem draft_history {rollout : Rollout}
    (path : Walk Onward .draft rollout.state (edgesOf rollout.history))
    (draft : rollout.state = .draft) : rollout.history = [] := by
  rw [draft] at path
  rcases List.eq_nil_or_concat' (edgesOf rollout.history) with empty | ⟨before, last, eq⟩
  · exact List.map_eq_nil_iff.mp empty
  · rw [eq] at path
    obtain ⟨_, edge, same⟩ := walk_concat path
    exact absurd same.symm edge.2

theorem advanced_transitioned {rollout : Rollout} {target : RolloutState}
    (allowed : target ∈ validTransitions rollout.state) (onward : target ≠ .draft)
    (actor : String) (now : ℚ) :
    Advanced rollout target (rollout.transitioned target actor now) where
  onward := ⟨allowed, onward⟩
  state := transitioned_state _ _ _ _
  id := by
    simp only [Rollout.transitioned]
    split <;> rfl
  createdBy := by
    simp only [Rollout.transitioned]
    split <;> rfl
  createdAt := by
    simp only [Rollout.transitioned]
    split <;> rfl
  history := ⟨now, actor, transitioned_history _ _ _ _⟩

theorem advanced_simulated {rollout : Rollout} (draft : rollout.state = .draft) (result : PyVal)
    (actor : String) (now : ℚ) :
    Advanced rollout .simulated (rollout.simulated result actor now) where
  onward := ⟨draft_may_be_simulated draft, by simp⟩
  state := rfl
  id := rfl
  createdBy := rfl
  createdAt := rfl
  history := ⟨now, actor, rfl⟩

theorem kept_advanced {id : String} {before : Rollout} {target : RolloutState} {moved : Rollout}
    (kept : Kept id before) (advanced : Advanced before target moved) : Kept id moved where
  id := advanced.id.trans kept.id
  path := by
    obtain ⟨now, actor, history⟩ := advanced.history
    rw [history, edgesOf_append, advanced.state]
    exact .step kept.path advanced.onward

theorem inv_put (inv : RegistryInv reg) {id : String} {rollout : Rollout}
    (kept : Kept id rollout) : RegistryInv (reg.put id rollout) :=
  Dict.forall_set kept inv

theorem keys_put (reg : RolloutRegistry) (id : String) (rollout : Rollout) :
    reg.rollouts.keys <+: (reg.put id rollout).rollouts.keys := by
  rw [put, Dict.keys_set]
  split
  · exact List.prefix_refl _
  · exact List.prefix_append _ _

theorem grows_new {id : String} (fresh : reg.get id = none) (rollout : Rollout) :
    Grows reg (reg.put id rollout) where
  keys := keys_put reg id rollout
  held := by
    intro other held found
    have ne : other ≠ id := by
      rintro rfl
      rw [fresh] at found
      cases found
    refine ⟨held, ?_, List.prefix_refl _, rfl, rfl⟩
    rw [get_put, if_neg ne]
    exact found

theorem grows_advanced {id : String} {before : Rollout} {target : RolloutState}
    {moved : Rollout} (found : reg.get id = some before)
    (advanced : Advanced before target moved) : Grows reg (reg.put id moved) where
  keys := keys_put reg id moved
  held := by
    intro other held known
    rw [get_put]
    by_cases same : other = id
    · rw [if_pos same]
      rw [same, found] at known
      cases known
      obtain ⟨now, actor, history⟩ := advanced.history
      refine ⟨moved, rfl, ?_, advanced.createdBy, advanced.createdAt⟩
      rw [history]
      exact List.prefix_append _ _
    · rw [if_neg same]
      exact ⟨held, known, List.prefix_refl _, rfl, rfl⟩

/-- The rollout that a request moves, and where to. -/
def aims : Request → Option (String × RolloutState)
  | .create _ _ _ _ => none
  | .simulate id _ => some (id, .simulated)
  | .approve id _ _ => some (id, .approved)
  | .promote id _ _ => some (id, .promoted)
  | .activate id _ _ => some (id, .active)
  | .revoke id _ _ => some (id, .revoked)

/-- A request is refused and leaves the rollouts alone, or moves the one it aims at. -/
inductive Outcome (reg : RolloutRegistry) (id : String) (target : RolloutState) :
    RolloutRegistry → Response → Prop where
  | refused (fault : Fault) : Outcome reg id target reg (.error fault)
  | moved (rollout moved : Rollout) (found : reg.get id = some rollout)
      (advanced : Advanced rollout target moved) :
      Outcome reg id target (reg.put id moved) (.ok moved)

theorem doTransition_outcome (app : AppState) (id : String) {target : RolloutState}
    (onward : target ≠ .draft) (actor : String) (now : ℚ) :
    Outcome app.rolloutRegistry id target
      (doTransition app id target actor now).1.rolloutRegistry
      (doTransition app id target actor now).2 := by
  rcases app.rolloutRegistry.transition_cases id target actor now with
    ⟨_, eq⟩ | ⟨_, _, _, _, eq⟩ | ⟨rollout, found, allowed, _, eq⟩
  · simp only [doTransition, eq, Except.mapError]
    exact .refused _
  · simp only [doTransition, eq, Except.mapError]
    exact .refused _
  · simp only [doTransition, eq, Except.mapError]
    exact .moved rollout _ found (advanced_transitioned allowed onward actor now)

theorem simulateRollout_outcome (rt : Runtime) (inv : RegistryInv app.rolloutRegistry)
    (id : String) (now : ℚ) :
    Outcome app.rolloutRegistry id .simulated
      (simulateRollout rt app id now).1.rolloutRegistry (simulateRollout rt app id now).2 := by
  unfold simulateRollout
  cases known : app.rolloutRegistry.get id with
  | none => exact .refused _
  | some rollout =>
    rcases distribute_cases rt app.registry.distributor rollout.policyConfig now with
      ⟨_, bundle, eq, _⟩ | ⟨_, e, eq⟩
    · simp only [eq]
      rcases app.rolloutRegistry.simulate_cases rt id (simulationResultOf bundle) "system" now with
        ⟨_, _, done⟩ | ⟨before, found, draft, _, full, _⟩ | ⟨before, found, draft, _, _, done⟩
      · simp only [done, Except.mapError]
        exact .refused _
      · -- a full history is no draft's
        rw [draft_history (inv id before found).path draft] at full
        simp [maxHistoryLength] at full
      · simp only [done, Except.mapError]
        exact .moved before _ found (advanced_simulated draft _ _ _)
    · simp only [eq]
      exact .refused _

theorem activateRollout_outcome (rt : Runtime) (app : AppState) (id actor : String) (now : ℚ) :
    Outcome app.rolloutRegistry id .active
      (activateRollout rt app id actor now).1.rolloutRegistry
      (activateRollout rt app id actor now).2 := by
  rcases VeronicaActivation.activate_cases rt app id actor now with
    ⟨_, eq⟩ | ⟨_, _, _, _, eq⟩ | ⟨_, _, _, _, _, eq⟩ | ⟨rollout, found, _, ready, eq⟩
  · rw [eq]
    exact .refused _
  · rw [eq]
    exact .refused _
  · rw [eq]
    exact .refused _
  · rw [eq]
    have allowed : RolloutState.active ∈ validTransitions rollout.state := by
      rw [ready.1]
      simp [validTransitions]
    exact .moved rollout _ found (advanced_transitioned allowed (by simp) actor now)

theorem respond_outcome (rt : Runtime) (inv : RegistryInv app.rolloutRegistry)
    {request : Request} {id : String} {target : RolloutState}
    (aim : aims request = some (id, target)) :
    Outcome app.rolloutRegistry id target (respond rt app request).1.rolloutRegistry
      (respond rt app request).2 := by
  cases request with
  | create => cases aim
  | simulate =>
    cases aim
    exact simulateRollout_outcome rt inv _ _
  | activate =>
    cases aim
    exact activateRollout_outcome rt app _ _ _
  | approve =>
    cases aim
    exact doTransition_outcome app _ (by simp) _ _
  | promote =>
    cases aim
    exact doTransition_outcome app _ (by simp) _ _
  | revoke =>
    cases aim
    exact doTransition_outcome app _ (by simp) _ _

theorem outcome_inv {id : String} {target : RolloutState} {response : Response}
    (inv : RegistryInv reg) (outcome : Outcome reg id target after response) :
    RegistryInv after ∧ Grows reg after := by
  cases outcome with
  | refused fault => exact ⟨inv, grows_refl reg⟩
  | moved rollout moved found advanced =>
    exact ⟨inv_put inv (kept_advanced (inv id rollout found) advanced),
      grows_advanced found advanced⟩

/-- A new id is a UUID. -/
def Fresh (app : AppState) : Request → Prop
  | .create id _ _ _ => app.rolloutRegistry.get id = none
  | _ => True

theorem handle_inv (rt : Runtime) (inv : RegistryInv app.rolloutRegistry) {request : Request}
    (fresh : Fresh app request) : RegistryInv (handle rt app request).rolloutRegistry ∧
      Grows app.rolloutRegistry (handle rt app request).rolloutRegistry := by
  cases aim : aims request with
  | some pair => exact outcome_inv inv (respond_outcome rt inv aim)
  | none =>
    cases request with
    | create id policy createdBy now =>
      exact ⟨inv_put inv ⟨rfl, .nil⟩, grows_new fresh _⟩
    | _ => cases aim

end Registry

/-- A rollout of the registry as it was when its history was shorter. -/
def Snapshot (reg : RolloutRegistry) (r : RolloutResponse) : Prop :=
  ∃ earlier held, r = rolloutToResponse earlier ∧ reg.get r.id = some held ∧
    earlier.history <+: held.history ∧ r.createdBy = held.createdBy ∧
    r.createdAt = held.createdAt ∧ Walk Onward .draft earlier.state (edgesOf earlier.history)

/-- The rollout as the server has it. -/
def Held (reg : RolloutRegistry) (r : RolloutResponse) : Prop :=
  ∃ rollout, reg.get r.id = some rollout ∧ r = rolloutToResponse rollout

/-- The button is one that its rollout was drawn with. -/
def Click.Offered (click : Click) : Prop :=
  ∃ button ∈ transitions click.shown.state, button.action = click.action

/-- What holds of every rollout that a page shows, has acted on or is about to be sent, and of the
    filters it has been set to. -/
structure Page.All (P : RolloutResponse → Prop) (F : String → Prop) (page : Page) : Prop where
  rollouts : ∀ r ∈ page.rollouts, P r
  table : ∀ r ∈ page.table, P r
  detail : ∀ r, page.detail = some r → P r
  pending : ∀ click, page.pending = some click → P click.shown ∧ click.Offered
  listing : ∀ data, page.listing = some (.answered (.ok data)) → ∀ r ∈ data.items, P r
  requests : ∀ ticket sent, page.requests.get? ticket = some sent →
    P sent.click.shown ∧ sent.click.Offered ∧ ∀ r, sent.answer = some (.ok r) → P r
  filter : F page.stateFilter
  sent : ∀ stateFilter, page.listing = some (.sent stateFilter) → F stateFilter

section Snapshots
variable {reg after : RolloutRegistry}

theorem snapshot_grows (grows : Grows reg after) {r : RolloutResponse} (shown : Snapshot reg r) :
    Snapshot after r := by
  obtain ⟨earlier, held, same, found, history, createdBy, createdAt, path⟩ := shown
  obtain ⟨later, still, more, by_, at_⟩ := grows.held r.id held found
  exact ⟨earlier, later, same, still, history.trans more, createdBy.trans by_.symm,
    createdAt.trans at_.symm, path⟩

theorem held_of_found (inv : RegistryInv reg) {id : String} {rollout : Rollout}
    (found : reg.get id = some rollout) : Held reg (rolloutToResponse rollout) := by
  refine ⟨rollout, ?_, rfl⟩
  show reg.get rollout.id = some rollout
  rw [(inv id rollout found).id]
  exact found

theorem snapshot_held (inv : RegistryInv reg) {r : RolloutResponse} (held : Held reg r) :
    Snapshot reg r := by
  obtain ⟨rollout, found, same⟩ := held
  refine ⟨rollout, rollout, same, found, List.prefix_refl _, ?_, ?_, (inv r.id rollout found).path⟩
  · rw [same]
    rfl
  · rw [same]
    rfl

end Snapshots

section Pages
variable {P Q : RolloutResponse → Prop} {F : String → Prop} {page : Page}

theorem all_imp (imp : ∀ r, P r → Q r) (all : page.All P F) : page.All Q F where
  rollouts r among := imp r (all.rollouts r among)
  table r among := imp r (all.table r among)
  detail r found := imp r (all.detail r found)
  pending click found := (all.pending click found).imp_left (imp _)
  listing data found r among := imp r (all.listing data found r among)
  requests ticket sent found := by
    obtain ⟨shown, offered, answered⟩ := all.requests ticket sent found
    exact ⟨imp _ shown, offered, fun r answer => imp r (answered r answer)⟩
  filter := all.filter
  sent := all.sent

theorem all_empty (empty : F "") : ({} : Page).All P F where
  rollouts _ among := nomatch among
  table _ among := nomatch among
  detail _ found := nomatch found
  pending _ found := nomatch found
  listing _ found := nomatch found
  requests _ _ found := by
    rw [Dict.get?_empty] at found
    cases found
  filter := empty
  sent _ found := nomatch found

theorem all_fetch (all : page.All P F) : page.fetchRollouts.All P F := by
  unfold Page.fetchRollouts
  split
  · exact all
  · refine { all with
      listing := fun _ found => nomatch found
      sent := ?_ }
    rintro _ ⟨⟩
    exact all.filter

theorem all_select (all : page.All P F) (id : String) : (page.selectRollout id).All P F := by
  unfold Page.selectRollout
  split
  · exact all
  · rename_i r found
    refine { all with detail := ?_ }
    rintro _ ⟨⟩
    exact all.rollouts r (List.mem_of_find?_eq_some found)

theorem all_send (all : page.All P F) (ticket : Nat) {click : Click} (shown : P click.shown)
    (offered : click.Offered) (actor : Option String) : (page.send ticket click actor).All P F := by
  unfold Page.send
  split
  · have waiting : P click.shown ∧ click.Offered ∧
        ∀ r, (none : Option (Except Nat RolloutResponse)) = some (.ok r) → P r :=
      ⟨shown, offered, fun _ none => nomatch none⟩
    exact { all with requests := Dict.forall_set waiting all.requests }
  · exact all

theorem all_press (all : page.All P F) (ticket : Nat) {r : Option RolloutResponse}
    (drawn : ∀ shown, r = some shown → P shown) (button : Nat) :
    (press page ticket r button).All P F := by
  unfold press
  split
  · rename_i shown b pressed
    obtain ⟨_, found, named⟩ := Option.bind_eq_some_iff.mp pressed
    obtain ⟨_, there, same⟩ := Option.map_eq_some_iff.mp named
    cases same
    have offered : Click.Offered { shown, action := b.action } :=
      ⟨b, List.mem_of_getElem? there, rfl⟩
    unfold Page.handleTransition
    simp only
    split
    · refine { all with pending := ?_ }
      rintro _ ⟨⟩
      exact ⟨drawn shown found, offered⟩
    · exact all_send all ticket (drawn shown found) offered none
  · exact all

theorem all_confirm (all : page.All P F) (ticket : Nat) (actor : String) :
    (page.confirm ticket actor).All P F := by
  unfold Page.confirm
  split
  · rename_i click found
    split
    · exact all
    · have closed : Page.All P F { page with pending := none } :=
        { all with pending := fun _ none => nomatch none }
      exact all_send closed ticket (all.pending click found).1 (all.pending click found).2 _
  · exact all

theorem all_failed (all : page.All P F) : page.failed.All P F :=
  { all with
    table := fun _ among => nomatch among
    listing := fun _ none => nomatch none
    sent := fun _ none => nomatch none }

theorem all_listed (all : page.All P F) : page.listed.All P F := by
  unfold Page.listed
  split
  · rename_i data found
    exact { all with
      rollouts := all.listing data found
      table := all.listing data found
      listing := fun _ none => nomatch none
      sent := fun _ none => nomatch none }
  · exact all_failed all
  · exact all
  · exact all

theorem all_lost (all : page.All P F) (ticket : Nat) :
    Page.All P F { page with requests := page.requests.erase ticket } :=
  { all with requests := Dict.forall_erase ticket all.requests }

theorem all_turnedAway (all : page.All P F) : Page.All P F { page with listing := none } :=
  { all with
    listing := fun _ none => nomatch none
    sent := fun _ none => nomatch none }

theorem all_answerListing (all : page.All P F) {app : AppState}
    (fits : ∀ stateFilter data, page.listing = some (.sent stateFilter) →
      listRollouts app.rolloutRegistry (if stateFilter = "" then none else some stateFilter) 1
        perPage = .ok data → ∀ r ∈ data.items, P r) : (answerListing app page).All P F := by
  unfold answerListing
  split
  · rename_i stateFilter waiting
    refine { all with
      listing := ?_
      sent := ?_ }
    · intro data answered
      simp only [Option.some.injEq, Listing.answered.injEq] at answered
      exact fits stateFilter data waiting answered
    · intro filter unanswered
      cases unanswered
  · exact all
  · exact all

theorem all_answered (all : page.All P F) {ticket : Nat} {click : Click} {actor : Option String}
    (waiting : page.requests.get? ticket = some { click, actor })
    {response : Except Nat RolloutResponse} (fits : ∀ r, response = .ok r → P r) :
    Page.All P F { page with
      requests := page.requests.set ticket { click, actor, answer := some response } } := by
  obtain ⟨shown, offered, _⟩ := all.requests ticket _ waiting
  have served : P click.shown ∧ click.Offered ∧ ∀ r, some response = some (.ok r) → P r :=
    ⟨shown, offered, fun r same => fits r (Option.some.inj same)⟩
  exact { all with requests := Dict.forall_set served all.requests }

theorem all_updated (all : page.All P F) (ticket : Nat) : (page.updated ticket).All P F := by
  unfold Page.updated
  split
  · rename_i click _ response found
    have fits := (all.requests ticket _ found).2.2 response rfl
    have replaced : ∀ r ∈ page.rollouts.set
        (page.rollouts.findIdx fun r => r.id = click.shown.id) response, P r := by
      intro r among
      rcases List.mem_or_eq_of_mem_set among with kept | rfl
      · exact all.rollouts r kept
      · exact fits
    have redrawn : Page.All P F (Page.renderTable { page with
        requests := page.requests.erase ticket
        rollouts := page.rollouts.set
          (page.rollouts.findIdx fun r => r.id = click.shown.id) response }) :=
      { all with
        rollouts := replaced
        table := replaced
        requests := Dict.forall_erase ticket all.requests }
    exact all_select redrawn _
  · exact all_lost all ticket
  · exact all
  · exact all

end Pages

/-- Where an action of the page is to move a rollout. -/
def aim (action : String) : Option RolloutState :=
  if action = "simulate" then some .simulated
  else if action = "approve" then some .approved
  else if action = "promote" then some .promoted
  else if action = "activate" then some .active
  else if action = "revoke" then some .revoked
  else none

section Server
variable {reg : RolloutRegistry} {app : AppState}

theorem requestOf_aims {id action : String} {actor : Option String} {now : ℚ} {request : Request}
    (made : requestOf id action actor now = some request) :
    ∃ target, aim action = some target ∧ aims request = some (id, target) := by
  unfold requestOf at made
  unfold aim
  split at made
  · cases made
    rename_i simulate
    exact ⟨.simulated, if_pos simulate, rfl⟩
  · rename_i other
    obtain ⟨name, _, made⟩ := Option.bind_eq_some_iff.mp made
    rw [if_neg other]
    split_ifs at made ⊢ <;> cases made <;> exact ⟨_, rfl, rfl⟩

/-- A POST is refused and leaves the rollouts alone, or moves the rollout it names. -/
theorem post_cases (rt : Runtime) (inv : RegistryInv app.rolloutRegistry) (id action : String)
    (actor : Option String) (now : ℚ) :
    ((post rt app id action actor now).1.rolloutRegistry = app.rolloutRegistry ∧
      ∃ status, (post rt app id action actor now).2 = .error status) ∨
    ∃ target rollout moved, aim action = some target ∧
      app.rolloutRegistry.get id = some rollout ∧ Advanced rollout target moved ∧
      (post rt app id action actor now).1.rolloutRegistry = app.rolloutRegistry.put id moved ∧
      (post rt app id action actor now).2 = .ok (rolloutToResponse moved) := by
  unfold post
  cases made : requestOf id action actor now with
  | none => exact Or.inl ⟨rfl, 422, rfl⟩
  | some request =>
    obtain ⟨target, aimed, aims⟩ := requestOf_aims made
    have outcome := respond_outcome rt inv aims
    rcases pair : respond rt app request with ⟨after, response⟩
    rw [pair] at outcome
    simp only [pair]
    generalize registry : after.rolloutRegistry = later at outcome
    cases outcome with
    | refused fault => exact Or.inl ⟨rfl, _, rfl⟩
    | moved rollout moved found advanced =>
      exact Or.inr ⟨target, rollout, moved, aimed, found, advanced, rfl, rfl⟩

theorem createPayload_refused (build : Dict String PyVal → Option PolicyConfig) (app : AppState)
    (chainId : String) (ceilingUsd : PyFloat) (onExceed createdBy id : String) (now : ℚ) :
    postRollouts build app (createPayload chainId ceilingUsd onExceed createdBy) id now =
      (app, none) := by
  have missing : (createPayload chainId ceilingUsd onExceed createdBy).get? "policy_config" =
      none := by
    unfold createPayload
    simp only
    split <;> simp [Dict.get?_set]
  have refused : CreateRolloutRequest.ofBody
      (createPayload chainId ceilingUsd onExceed createdBy) = none := by
    unfold CreateRolloutRequest.ofBody
    rw [missing]
  rw [postRollouts, refused]

theorem listRollouts_ok {state : Option String} {data : RolloutListResponse}
    (listed : listRollouts reg state 1 perPage = .ok data) : ∃ known : Option RolloutState,
      (state = none → known = none) ∧
      data.items = (listAll reg known 1 perPage).1.map rolloutToResponse := by
  unfold listRollouts at listed
  simp only at listed
  split at listed
  · cases listed
  · cases listed
    refine ⟨_, ?_, rfl⟩
    rintro rfl
    rfl

theorem listAll_first (known : Option RolloutState) : (listAll reg known 1 perPage).1 =
    (reg.rollouts.values.filter fun r => known.all (r.state = ·)).take perPage := by
  simp [listAll, perPage]

theorem mem_values {rollout : Rollout} (among : rollout ∈ reg.rollouts.values) :
    ∃ id, reg.get id = some rollout := by
  obtain ⟨⟨id, _⟩, member, rfl⟩ := List.mem_map.mp among
  exact ⟨id, Dict.get?_eq_some_iff.mpr member⟩

theorem listed_held {state : Option String} {data : RolloutListResponse}
    (listed : listRollouts reg state 1 perPage = .ok data) {r : RolloutResponse}
    (among : r ∈ data.items) :
    ∃ id rollout, reg.get id = some rollout ∧ r = rolloutToResponse rollout := by
  obtain ⟨known, _, items⟩ := listRollouts_ok listed
  rw [items, listAll_first] at among
  obtain ⟨rollout, member, rfl⟩ := List.mem_map.mp among
  obtain ⟨id, found⟩ := mem_values (List.mem_of_mem_filter (List.mem_of_mem_take member))
  exact ⟨id, rollout, found, rfl⟩

theorem listed_oldest (inv : RegistryInv reg) {data : RolloutListResponse}
    (listed : listRollouts reg none 1 perPage = .ok data) {r : RolloutResponse}
    (among : r ∈ data.items) : r.id ∈ reg.rollouts.keys.take perPage := by
  obtain ⟨known, unfiltered, items⟩ := listRollouts_ok listed
  rw [items, listAll_first, unfiltered rfl] at among
  obtain ⟨rollout, member, rfl⟩ := List.mem_map.mp among
  simp only [Option.all_none, List.filter_true, Dict.values, ← List.map_take] at member
  obtain ⟨⟨id, _⟩, entry, rfl⟩ := List.mem_map.mp member
  have kept := inv id _ (Dict.get?_eq_some_iff.mpr (List.mem_of_mem_take entry))
  rw [Dict.keys, ← List.map_take]
  exact List.mem_map.mpr ⟨_, entry, kept.id.symm⟩

end Server

/-- The ids of the rollouts that other clients create are new. -/
def Legal (s : System) : Action → Prop
  | .client request => Fresh s.app request
  | _ => True

/-- No filter is set on page p. -/
def Unfiltered (p : Nat) (_ : System) : Action → Prop
  | .filter q value => q = p → value = ""
  | _ => True

section Steps
variable {rt : Runtime} {build : ℚ → Dict String PyVal → Option PolicyConfig} {s : System}

theorem step_registry (rt : Runtime) (build : ℚ → Dict String PyVal → Option PolicyConfig)
    (inv : RegistryInv s.app.rolloutRegistry) (a : Action) (legal : Legal s a) :
    RegistryInv (step rt build s a).app.rolloutRegistry ∧
      Grows s.app.rolloutRegistry (step rt build s a).app.rolloutRegistry := by
  have unchanged : RegistryInv s.app.rolloutRegistry ∧
      Grows s.app.rolloutRegistry s.app.rolloutRegistry := ⟨inv, grows_refl _⟩
  cases a with
  | client request => exact handle_inv rt inv legal
  | create p chainId ceilingUsd onExceed createdBy id now =>
    simp only [step, createPayload_refused]
    exact unchanged
  | serve p ticket now =>
    simp only [step]
    split
    · rename_i click actor _
      rcases post_cases rt inv click.shown.id click.action actor now with
        ⟨same, _⟩ | ⟨target, rollout, moved, _, found, advanced, registry, _⟩
      · simp only [System.setPage, same]
        exact unchanged
      · simp only [System.setPage, registry]
        exact ⟨inv_put inv (kept_advanced (inv _ _ found) advanced),
          grows_advanced found advanced⟩
    · exact unchanged
    · exact unchanged
  | _ => exact unchanged

/-- What the server sends to page p in a step satisfies P. -/
structure Sends (rt : Runtime) (s : System) (p : Nat) (a : Action) (P : RolloutResponse → Prop) :
    Prop where
  listing : a = .serveList p → ∀ stateFilter data,
    (s.pages p).listing = some (.sent stateFilter) →
      listRollouts s.app.rolloutRegistry (if stateFilter = "" then none else some stateFilter) 1
        perPage = .ok data → ∀ r ∈ data.items, P r
  requests : ∀ ticket now, a = .serve p ticket now → ∀ sent r,
    (s.pages p).requests.get? ticket = some sent → sent.answer = none →
      (post rt s.app sent.click.shown.id sent.click.action sent.actor now).2 = .ok r → P r

theorem setPage_all {P : RolloutResponse → Prop} {F : String → Prop} {app : AppState}
    {p q : Nat} {page : Page} (all : (s.pages p).All P F)
    (set : (s.pages q).All P F → page.All P F) :
    (({ s with app }.setPage q page).pages p).All P F := by
  simp only [System.setPage]
  split
  · rename_i same
    rw [same] at all
    exact set all
  · exact all

/-- Whatever holds of all that page p shows and of all it may be sent, holds of all it shows
    next. -/
theorem step_all {P : RolloutResponse → Prop} {F : String → Prop} {p : Nat}
    (all : (s.pages p).All P F) {a : Action} (sends : Sends rt s p a P)
    (filters : ∀ value, a = .filter p value → F value) :
    ((step rt build s a).pages p).All P F := by
  cases a with
  | filter q value =>
    by_cases same : p = q
    · cases same
      exact setPage_all all fun all => all_fetch { all with filter := filters value rfl }
    · simp only [step, System.setPage, if_neg same]
      exact all
  | refresh q => exact setPage_all all all_fetch
  | select q id => exact setPage_all all fun all => all_select all id
  | pressRow q ticket row button =>
    exact setPage_all all fun all => all_press all ticket
      (fun r found => all.table r (List.mem_of_getElem? found)) button
  | pressDetail q ticket button =>
    exact setPage_all all fun all => all_press all ticket all.detail button
  | confirm q ticket actor => exact setPage_all all fun all => all_confirm all ticket actor
  | dismiss q =>
    refine setPage_all all fun all => { all with pending := ?_ }
    intro click waiting
    cases waiting
  | create => exact all
  | serveList q =>
    by_cases same : p = q
    · cases same
      exact setPage_all all fun all => all_answerListing all (sends.listing rfl)
    · simp only [step, System.setPage, if_neg same]
      exact all
  | serve q ticket now =>
    simp only [step]
    split
    · rename_i click actor waiting
      by_cases same : p = q
      · cases same
        exact setPage_all all fun all =>
          all_answered all waiting fun r => sends.requests ticket now rfl _ r waiting rfl
      · simp only [System.setPage, if_neg same]
        exact all
    · exact all
    · exact all
  | listed q => exact setPage_all all all_listed
  | listLost q =>
    refine setPage_all all fun all => ?_
    split
    · exact all_failed all
    · exact all
  | turnedAway q => exact setPage_all all all_turnedAway
  | updated q ticket => exact setPage_all all fun all => all_updated all ticket
  | lost q ticket => exact setPage_all all fun all => all_lost all ticket
  | client request => exact all
  | policies registry => exact all

theorem step_serve (rt : Runtime) (build : ℚ → Dict String PyVal → Option PolicyConfig)
    {p ticket : Nat} {sent : Sent} (waiting : (s.pages p).requests.get? ticket = some sent)
    (unanswered : sent.answer = none) (now : ℚ) :
    (step rt build s (.serve p ticket now)).app =
      (post rt s.app sent.click.shown.id sent.click.action sent.actor now).1 ∧
    ((step rt build s (.serve p ticket now)).pages p).requests.get? ticket =
      some { sent with
        answer :=
          some (post rt s.app sent.click.shown.id sent.click.action sent.actor now).2 } := by
  obtain ⟨click, actor, answer⟩ := sent
  cases unanswered
  simp [step, waiting, System.setPage]

theorem sends_imp {P Q : RolloutResponse → Prop} (imp : ∀ r, P r → Q r) {a : Action} {p : Nat}
    (sends : Sends rt s p a P) : Sends rt s p a Q where
  listing isList stateFilter data sent listed r among :=
    imp r (sends.listing isList stateFilter data sent listed r among)
  requests ticket now isServe sent r waiting unanswered answered :=
    imp r (sends.requests ticket now isServe sent r waiting unanswered answered)

theorem sends_held (inv : RegistryInv s.app.rolloutRegistry) (a : Action) (p : Nat) :
    Sends rt s p a (Held (step rt build s a).app.rolloutRegistry) where
  listing := by
    rintro rfl stateFilter data _ listed r among
    obtain ⟨id, rollout, found, rfl⟩ := listed_held listed among
    exact held_of_found inv found
  requests := by
    rintro ticket now rfl sent r waiting unanswered answered
    rw [(step_serve rt build waiting unanswered now).1]
    rcases post_cases rt inv sent.click.shown.id sent.click.action sent.actor now with
      ⟨_, status, refused⟩ | ⟨target, rollout, moved, _, found, advanced, registry, response⟩
    · rw [refused] at answered
      cases answered
    · rw [response] at answered
      cases answered
      rw [registry]
      exact held_of_found (inv_put inv (kept_advanced (inv _ _ found) advanced))
        (get_put_self _ _ _)

theorem take_keys_grows {reg after : RolloutRegistry} (grows : Grows reg after) {id : String}
    (among : id ∈ reg.rollouts.keys.take perPage) : id ∈ after.rollouts.keys.take perPage := by
  obtain ⟨more, eq⟩ := grows.keys
  rw [← eq, List.take_append]
  exact List.mem_append_left _ among

theorem sends_oldest {p : Nat} (inv : RegistryInv s.app.rolloutRegistry)
    (oldest : (s.pages p).All (fun r => r.id ∈ s.app.rolloutRegistry.rollouts.keys.take perPage)
      (· = "")) (a : Action) :
    Sends rt s p a (fun r => r.id ∈ s.app.rolloutRegistry.rollouts.keys.take perPage) where
  listing := by
    rintro rfl stateFilter data waiting listed r among
    rw [if_pos (oldest.sent stateFilter waiting)] at listed
    exact listed_oldest inv listed among
  requests := by
    rintro ticket now rfl sent r waiting _ answered
    rcases post_cases rt inv sent.click.shown.id sent.click.action sent.actor now with
      ⟨_, status, refused⟩ | ⟨target, rollout, moved, _, found, advanced, registry, response⟩
    · rw [refused] at answered
      cases answered
    · rw [response] at answered
      cases answered
      show moved.id ∈ _
      rw [advanced.id, (inv _ _ found).id]
      exact (oldest.requests ticket sent waiting).1

end Steps

/-- The server had the rollout, with all its fields, at some point of the run. -/
def OnceHeld (rt : Runtime) (build : ℚ → Dict String PyVal → Option PolicyConfig)
    (distributor : PolicyDistributor) (actions : List Action) (r : RolloutResponse) : Prop :=
  ∃ before, before <+: actions ∧
    Held (Runs.run (step rt build) (opened distributor) before).app.rolloutRegistry r

/-- However late the answers come and whatever other clients do: all that a page shows, and every
    button, is a rollout of the server as it once was, at a state on its way. Without a filter a
    page never shows any but the oldest rollouts. -/
theorem pages_show_history (rt : Runtime) (build : ℚ → Dict String PyVal → Option PolicyConfig)
    (distributor : PolicyDistributor) {actions : List Action}
    (legal : Runs.EachStep (step rt build) Legal (opened distributor) actions) (p : Nat) :
    let s := Runs.run (step rt build) (opened distributor) actions
    (s.pages p).All (fun r => OnceHeld rt build distributor actions r ∧
        Snapshot s.app.rolloutRegistry r) (fun _ => True) ∧
      (Runs.EachStep (step rt build) (Unfiltered p) (opened distributor) actions →
        (s.pages p).All (fun r => r.id ∈ s.app.rolloutRegistry.rollouts.keys.take perPage)
          (· = "")) := by
  have new : RegistryInv (opened distributor).app.rolloutRegistry := by
    intro id rollout found
    simp [opened, startup, RolloutRegistry.get] at found
  constructor
  · -- what was shown before was held before, and what is sent now is held now
    refine (Runs.traced_invariant (I := fun earlier s => RegistryInv s.app.rolloutRegistry ∧
      (s.pages p).All (fun r => OnceHeld rt build distributor earlier r ∧
        Snapshot s.app.rolloutRegistry r) fun _ => True) ?_ ⟨new, all_empty trivial⟩ legal).2
    intro earlier s a inv reached legal
    obtain ⟨kept, grows⟩ := step_registry rt build inv.1 a legal
    have sends : Sends rt s p a (Held (step rt build s a).app.rolloutRegistry) :=
      sends_held inv.1 a p
    refine ⟨kept, step_all (all_imp ?_ inv.2) (sends_imp ?_ sends) fun _ _ => trivial⟩
    · rintro r ⟨⟨before, within, held⟩, snapshot⟩
      exact ⟨⟨before, within.trans (List.prefix_append _ _), held⟩, snapshot_grows grows snapshot⟩
    · intro r held
      refine ⟨⟨earlier ++ [a], List.prefix_refl _, ?_⟩, snapshot_held kept held⟩
      rw [Runs.run_append, reached]
      exact held
  · intro unfiltered
    refine (Runs.run_invariant (I := fun s => RegistryInv s.app.rolloutRegistry ∧
      (s.pages p).All (fun r => r.id ∈ s.app.rolloutRegistry.rollouts.keys.take perPage) (· = ""))
      ?_ ⟨new, all_empty (F := (· = "")) rfl⟩ (Runs.eachStep_and.mpr ⟨legal, unfiltered⟩)).2
    rintro s a inv ⟨legal, unfiltered⟩
    obtain ⟨kept, grows⟩ := step_registry rt build inv.1 a legal
    have shown : ((step rt build s a).pages p).All
        (fun r => r.id ∈ s.app.rolloutRegistry.rollouts.keys.take perPage) (· = "") := by
      refine step_all inv.2 (sends_oldest inv.1 inv.2 a) ?_
      rintro value rfl
      exact unfiltered rfl
    exact ⟨kept, all_imp (fun _ => take_keys_grows grows) shown⟩

section OneRollout
open VeronicaActivation

def noPolicies : ℚ → Dict String PyVal → Option PolicyConfig := fun _ _ => none

/-- Another client creates a rollout; page 0 lists it and simulates it. -/
def oneSimulated : List Action :=
  [.client (.create "rollout-1" paymentPolicy "operator" 0), .refresh 0, .serveList 0, .listed 0,
    .pressRow 0 0 0 0, .serve 0 0 1, .updated 0 0]

theorem oneSimulated_legal : Runs.EachStep (step paymentRuntime noPolicies) Legal
    (opened paymentDistributor) oneSimulated :=
  ⟨rfl, trivial, trivial, trivial, trivial, trivial, trivial, trivial⟩

theorem one_rollout_shown :
    let s := Runs.run (step paymentRuntime noPolicies) (opened paymentDistributor) oneSimulated
    (s.pages 0).All (fun r => OnceHeld paymentRuntime noPolicies paymentDistributor oneSimulated r ∧
        Snapshot s.app.rolloutRegistry r) (fun _ => True) ∧
      (Runs.EachStep (step paymentRuntime noPolicies) (Unfiltered 0) (opened paymentDistributor)
          oneSimulated →
        (s.pages 0).All (fun r => r.id ∈ s.app.rolloutRegistry.rollouts.keys.take perPage)
          (· = "")) :=
  pages_show_history paymentRuntime noPolicies paymentDistributor oneSimulated_legal 0

end OneRollout

/-- How far a state is on its way. Only approval and promotion can be repeated. -/
def rank : RolloutState → Nat
  | .draft => 0
  | .simulated => 1
  | .approved | .promoted => 2
  | .active => 3
  | .revoked => 4

def repeatable : List RolloutState := [.approved, .promoted]

/-- What happened unseen was nothing, or rounds of promotion and of approval again. -/
def Rounds (state : RolloutState) (unseen : List StateTransition) : Prop :=
  unseen = [] ∨ (state ∈ repeatable ∧
    ∀ entry ∈ unseen, entry.fromState ∈ repeatable ∧ entry.toState ∈ repeatable)

/-- How a click that is accepted finds the rollout: as it was shown but for such rounds, or
    anyhow if it is to be revoked, or promoted already if a simulated one is to be approved. -/
inductive Found (shown : RolloutResponse) (action : String) (rollout : Rollout) : Prop where
  | revoke (revoke : action = "revoke")
  | asShown (earlier unseen : List StateTransition) (state : shown.state = rollout.state.value)
      (seen : shown.history = earlier.map transitionToResponse)
      (history : rollout.history = earlier ++ unseen) (rounds : Rounds rollout.state unseen)
  | demoted (approve : action = "approve") (simulated : shown.state = "simulated")
      (promoted : rollout.state = .promoted)

section Clicks
variable {rt : Runtime} {build : ℚ → Dict String PyVal → Option PolicyConfig} {s : System}

theorem rank_up (here next : RolloutState) (edge : Onward here next) : rank here ≤ rank next := by
  obtain ⟨edge, onward⟩ := edge
  cases here <;> cases next <;> simp_all [Edge, validTransitions, rank]

theorem onward_level {here next : RolloutState} (edge : Onward here next)
    (level : rank here = rank next) : here ∈ repeatable ∧ next ∈ repeatable := by
  obtain ⟨edge, onward⟩ := edge
  cases here <;> cases next <;> simp_all [Edge, validTransitions, rank, repeatable]

theorem repeatable_iff (state : RolloutState) : state ∈ repeatable ↔ rank state = 2 := by
  cases state <;> simp [repeatable, rank]

theorem rounds_of_walk {state : RolloutState} {unseen : List StateTransition}
    (walk : Walk Onward state state (edgesOf unseen)) : Rounds state unseen := by
  have level := walk_level rank_up walk rfl
  have entries : ∀ entry ∈ unseen, entry.fromState ∈ repeatable ∧
      entry.toState ∈ repeatable ∧ rank entry.fromState = rank state := by
    intro entry among
    have member : (entry.fromState, entry.toState) ∈ edgesOf unseen :=
      List.mem_map.mpr ⟨entry, among, rfl⟩
    obtain ⟨source, target⟩ := level _ member
    obtain ⟨one, other⟩ := onward_level (walk_edges walk _ member) (source.trans target.symm)
    exact ⟨one, other, source⟩
  cases unseen with
  | nil => exact Or.inl rfl
  | cons entry rest =>
    obtain ⟨source, _, same⟩ := entries entry List.mem_cons_self
    refine Or.inr ⟨?_, fun entry among => ⟨(entries entry among).1, (entries entry among).2.1⟩⟩
    rw [repeatable_iff] at source ⊢
    exact same.symm.trans source

theorem offered_cases {state : RolloutState} {action : String}
    (offered : ∃ button ∈ transitions state.value, button.action = action) :
    action = "revoke" ∨ (state = .draft ∧ action = "simulate") ∨
      (state = .simulated ∧ action = "approve") ∨ (state = .approved ∧ action = "promote") ∨
      (state = .promoted ∧ action = "activate") := by
  obtain ⟨button, among, rfl⟩ := offered
  cases state with
  | draft | simulated | approved | promoted =>
    rcases List.mem_cons.mp among with rfl | among
    · simp
    · rcases List.mem_cons.mp among with rfl | among
      · exact Or.inl rfl
      · cases among
  | active =>
    rcases List.mem_cons.mp among with rfl | among
    · exact Or.inl rfl
    · cases among
  | revoked => cases among

theorem found_of_accepted {action : String} {target : RolloutState} {earlier rollout : Rollout}
    (offered : ∃ button ∈ transitions earlier.state.value, button.action = action)
    (aimed : aim action = some target) (onward : Onward rollout.state target)
    (history : earlier.history <+: rollout.history)
    (before : Walk Onward .draft earlier.state (edgesOf earlier.history))
    (after : Walk Onward .draft rollout.state (edgesOf rollout.history)) :
    Found (rolloutToResponse earlier) action rollout := by
  obtain ⟨unseen, eq⟩ := history
  have asShown : earlier.state = rollout.state →
      Found (rolloutToResponse earlier) action rollout := by
    intro same
    rw [← eq, edgesOf, List.map_append] at after
    have rest : Walk Onward earlier.state rollout.state (edgesOf unseen) := walk_rest before after
    rw [same] at rest
    exact .asShown earlier.history unseen (congrArg RolloutState.value same) rfl eq.symm
      (rounds_of_walk rest)
  obtain ⟨edge, _⟩ := onward
  rcases offered_cases offered with rfl | ⟨state, rfl⟩ | ⟨state, rfl⟩ | ⟨state, rfl⟩ | ⟨state, rfl⟩
  · exact .revoke rfl
  · cases aimed
    refine asShown (state.trans ?_)
    revert edge
    cases rollout.state <;> simp [Edge, validTransitions]
  · cases aimed
    cases held : rollout.state with
    | simulated => exact asShown (state.trans held.symm)
    | promoted => exact .demoted rfl (congrArg RolloutState.value state) held
    | _ =>
      rw [held] at edge
      simp [Edge, validTransitions] at edge
  · cases aimed
    refine asShown (state.trans ?_)
    revert edge
    cases rollout.state <;> simp [Edge, validTransitions]
  · cases aimed
    refine asShown (state.trans ?_)
    revert edge
    cases rollout.state <;> simp [Edge, validTransitions]

end Clicks

/-- A click that reaches the server is refused and leaves the rollouts alone, or moves its rollout
    one step on. A rollout that the form asks for is never created. -/
def ClickServed (rt : Runtime) (build : ℚ → Dict String PyVal → Option PolicyConfig) (s : System)
    (a : Action) : Prop :=
  let after := step rt build s a
  match a with
  | .serve p ticket _ => ∀ sent, (s.pages p).requests.get? ticket = some sent →
    sent.answer = none →
      (after.app.rolloutRegistry = s.app.rolloutRegistry ∧
        ∃ status, (after.pages p).requests.get? ticket =
          some { sent with answer := some (.error status) }) ∨
      ∃ target rollout moved, aim sent.click.action = some target ∧
        s.app.rolloutRegistry.get sent.click.shown.id = some rollout ∧
        Found sent.click.shown sent.click.action rollout ∧ Advanced rollout target moved ∧
        after.app.rolloutRegistry = s.app.rolloutRegistry.put sent.click.shown.id moved ∧
        (after.pages p).requests.get? ticket =
          some { sent with answer := some (.ok (rolloutToResponse moved)) }
  | .create _ _ _ _ _ _ _ => after = s
  | _ => True

/-- Whatever pages and other clients do, and however late: a click is refused and changes no
    rollout, or takes its rollout along the edge that the button stands for, from the state that
    was shown. The exceptions are a revocation, from any state, and an approval of a rollout shown
    as simulated that has been promoted, which takes it back. -/
theorem clicks_move_as_shown (rt : Runtime) (build : ℚ → Dict String PyVal → Option PolicyConfig)
    (distributor : PolicyDistributor) {actions : List Action}
    (legal : Runs.EachStep (step rt build) Legal (opened distributor) actions) :
    Runs.EachStep (step rt build) (ClickServed rt build) (opened distributor) actions := by
  have new : RegistryInv (opened distributor).app.rolloutRegistry := by
    intro id rollout found
    simp [opened, startup, RolloutRegistry.get] at found
  refine Runs.eachStep_invariant (I := fun s => RegistryInv s.app.rolloutRegistry ∧
    ∀ p, (s.pages p).All (Snapshot s.app.rolloutRegistry) fun _ => True) ?_ ?_
    ⟨new, fun _ => all_empty trivial⟩ legal
  · intro s a inv legal
    obtain ⟨kept, grows⟩ := step_registry rt build inv.1 a legal
    exact ⟨kept, fun p => step_all (all_imp (fun _ => snapshot_grows grows) (inv.2 p))
      (sends_imp (fun _ => snapshot_held kept) (sends_held inv.1 a p)) fun _ _ => trivial⟩
  · intro s a inv _
    cases a with
    | serve p ticket now =>
      intro sent waiting unanswered
      obtain ⟨app, request⟩ := step_serve rt build waiting unanswered now
      obtain ⟨shown, offered, _⟩ := (inv.2 p).requests ticket sent waiting
      rcases post_cases rt inv.1 sent.click.shown.id sent.click.action sent.actor now with
        ⟨same, status, refused⟩ | ⟨target, rollout, moved, aimed, found, advanced, put, ok⟩
      · left
        rw [app, request, refused]
        exact ⟨same, status, rfl⟩
      · right
        obtain ⟨earlier, held, response, known, history, _, _, path⟩ := shown
        obtain rfl : held = rollout := Option.some.inj (known.symm.trans found)
        have state : sent.click.shown.state = earlier.state.value := by rw [response]; rfl
        have finds : Found sent.click.shown sent.click.action held := by
          rw [response]
          unfold Click.Offered at offered
          rw [state] at offered
          exact found_of_accepted offered aimed advanced.onward history path
            (inv.1 _ _ known).path
        refine ⟨target, held, moved, aimed, known, finds, advanced, ?_, ?_⟩
        · rw [app, put]
        · rw [request, ok]
    | create p chainId ceilingUsd onExceed createdBy id now =>
      show step rt build s _ = s
      simp only [step, createPayload_refused]
    | _ => trivial

section StaleClicks
open VeronicaActivation

theorem one_click_moves : Runs.EachStep (step paymentRuntime noPolicies)
    (ClickServed paymentRuntime noPolicies) (opened paymentDistributor) oneSimulated :=
  clicks_move_as_shown paymentRuntime noPolicies paymentDistributor oneSimulated_legal

/-- While page 0 asks for the name of who approves, the rollout is approved and promoted. -/
def approvedLate : List Action :=
  oneSimulated ++ [.pressRow 0 1 0 0, .client (.approve "rollout-1" "operator" 2),
    .client (.promote "rollout-1" "operator" 3), .confirm 0 1 "alice", .serve 0 1 4]

example : ((Runs.run (step paymentRuntime noPolicies) (opened paymentDistributor)
    approvedLate).app.rolloutRegistry.get "rollout-1").map Rollout.state = some .approved := by
  decide +kernel

end StaleClicks

end VeronicaRolloutsPage
