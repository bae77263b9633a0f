import Veronica.BufferedEmitter
import Veronica.Library.Streaks

/- Which subscriptions an emit removes. Failures are counted by name and at once, while resets and
   removals wait for the end of the emit; in between the name may change hands. -/
namespace VeronicaAutoUnsubscribe
open VeronicaEmitter
variable {E : Type}

/-- How the deliveries to a subscription ended: true for each that raised. -/
def outcomes (s : Emissions E) (id : Nat) : List Bool :=
  (s.ended.filter fun entry => entry.1 = id).map Prod.snd

/-- Its callback has raised on three deliveries in a row. -/
def Thrice (outcomes : List Bool) : Prop :=
  Streaks.InARow (fun raised => raised) maxConsecutiveFailures outcomes

instance (outcomes : List Bool) : Decidable (Thrice outcomes) :=
  inferInstanceAs (Decidable (Streaks.InARow _ _ _))

/-- On how many of the last deliveries it has raised. -/
def raisedLast (s : Emissions E) (id : Nat) : Nat :=
  Streaks.trailing (fun raised => raised) (outcomes s id)

/-- An emit that is delivering has the name on its list. -/
def Pending (names : Delivery → List String) (deliveries : Dict Nat Delivery) (name : String) :
    Prop := ∃ entry ∈ deliveries.entries, name ∈ names entry.2

instance (names : Delivery → List String) (deliveries : Dict Nat Delivery) (name : String) :
    Decidable (Pending names deliveries name) :=
  inferInstanceAs (Decidable (∃ entry ∈ deliveries.entries, _))

abbrev PendingReset (s : Emissions E) (name : String) : Prop :=
  Pending Delivery.localResets s.deliveries name

abbrev PendingRemoval (s : Emissions E) (name : String) : Prop :=
  Pending Delivery.localRemovals s.deliveries name

/-- A subscription has been removed by an emit, or is about to be at its end, exactly if its own
    callback has raised three times in a row. -/
def Exact (s : Emissions E) : Prop :=
  ∀ id < s.subscriptions, (Thrice (outcomes s id) ↔
    id ∈ s.autoRemoved ∨ ∃ name, s.Live name id ∧ PendingRemoval s name)

/-- The step leaves the deferred bookkeeping to the subscription it is about. -/
def Undisturbed (s : Emissions E) : Action E → Prop
  | .emit _ | .returned _ | .drain _ | .snapshot => True
  -- the failure is not charged to another subscription, nor on top of a count to be reset
  | .raised ticket => ∀ call ∈ s.calling ticket, ∀ id ∈ s.emitter.subscribers.get? call.2.1,
      id = call.2.2 ∧
        (s.emitter.failCounts.getD call.2.1 0 = 0 ∨ ¬ PendingReset s call.2.1)
  -- the emit that ends has nothing to do, and the failure it does not count is nobody's
  | .fatal ticket => ∀ call ∈ s.calling ticket, ¬ s.Live call.2.1 call.2.2 ∧
      (∀ name ∈ call.1.localResets, s.emitter.subscribers.get? name ≠ none →
        s.emitter.failCounts.getD name 0 = 0) ∧
      ∀ name ∈ call.1.localRemovals, s.emitter.subscribers.get? name = none
  -- nobody whose count is reset has raised since
  | .settle ticket => ∀ delivery ∈ s.deliveries.get? ticket, delivery.targets = [] →
      ∀ name ∈ delivery.localResets, ∀ id ∈ s.emitter.subscribers.get? name, raisedLast s id = 0
  -- no removal waits for the name
  | .subscribe name => ¬ PendingRemoval s name
  | .unsubscribe name => s.emitter.subscribers.get? name ≠ none → ¬ PendingRemoval s name

instance (s : Emissions E) : ∀ a, Decidable (Undisturbed s a)
  | .emit _ | .returned _ | .drain _ | .snapshot => inferInstanceAs (Decidable True)
  | .raised ticket => inferInstanceAs (Decidable (∀ call ∈ s.calling ticket, _))
  | .fatal ticket => inferInstanceAs (Decidable (∀ call ∈ s.calling ticket, _))
  | .settle ticket => inferInstanceAs (Decidable (∀ delivery ∈ s.deliveries.get? ticket, _))
  | .subscribe name => inferInstanceAs (Decidable (¬ PendingRemoval s name))
  | .unsubscribe name => inferInstanceAs (Decidable (_ → ¬ PendingRemoval s name))

/-- The count of a name is that of its subscription, unless it is to be reset. -/
structure Inv (s : Emissions E) : Prop where
  tickets : ∀ ticket delivery, s.deliveries.get? ticket = some delivery → ticket < s.emits
  known : ∀ name id, s.Live name id → id < s.subscriptions
  unique : ∀ name name' id, s.Live name id → s.Live name' id → name = name'
  noted : ∀ entry ∈ s.ended, entry.1 < s.subscriptions
  counted : ∀ name id, s.Live name id → ∃ count, s.emitter.failCounts.get? name = some count ∧
    (count = raisedLast s id ∨ (raisedLast s id = 0 ∧ PendingReset s name))
  pending : ∀ name id, s.Live name id → (Thrice (outcomes s id) ↔ PendingRemoval s name)
  removed : ∀ id ∈ s.autoRemoved, Thrice (outcomes s id)
  gone : ∀ id < s.subscriptions, (∀ name, ¬ s.Live name id) → Thrice (outcomes s id) →
    id ∈ s.autoRemoved

theorem Inv.exact {s : Emissions E} (inv : Inv s) : Exact s := by
  intro id known
  constructor
  · intro thrice
    by_cases live : ∃ name, s.Live name id
    · obtain ⟨name, live⟩ := live
      exact .inr ⟨name, live, (inv.pending name id live).mp thrice⟩
    · exact .inl (inv.gone id known (not_exists.mp live) thrice)
  · rintro (removed | ⟨name, live, pending⟩)
    · exact inv.removed id removed
    · exact (inv.pending name id live).mpr pending

section Pending
variable {names : Delivery → List String} {deliveries : Dict Nat Delivery} {ticket : Nat}
  {name : String}

theorem pending_iff : Pending names deliveries name ↔
    ∃ ticket delivery, deliveries.get? ticket = some delivery ∧ name ∈ names delivery := by
  constructor
  · rintro ⟨entry, member, listed⟩
    exact ⟨entry.1, entry.2, Dict.get?_eq_some_iff.mpr member, listed⟩
  · rintro ⟨ticket, delivery, found, listed⟩
    exact ⟨(ticket, delivery), Dict.get?_eq_some_iff.mp found, listed⟩

/-- An emit whose list has only grown waits for what it has waited for, and for the new. -/
theorem pending_set {delivery : Delivery} (grown : ∀ earlier,
    deliveries.get? ticket = some earlier → ∀ name ∈ names earlier, name ∈ names delivery) :
    Pending names (deliveries.set ticket delivery) name ↔
      Pending names deliveries name ∨ name ∈ names delivery := by
  rw [pending_iff, pending_iff]
  constructor
  · rintro ⟨other, found, held, listed⟩
    rw [Dict.get?_set] at held
    split at held
    · cases held
      exact .inr listed
    · exact .inl ⟨other, found, held, listed⟩
  · rintro (⟨other, found, held, listed⟩ | listed)
    · by_cases same : other = ticket
      · subst same
        exact ⟨other, delivery, Dict.get?_set_self _ _ _, grown found held name listed⟩
      · exact ⟨other, found, by rw [Dict.get?_set_of_ne _ same, held], listed⟩
    · exact ⟨ticket, delivery, Dict.get?_set_self _ _ _, listed⟩

theorem pending_added {delivery later : Delivery} {added : List String}
    (found : deliveries.get? ticket = some delivery)
    (grown : names later = names delivery ++ added) :
    Pending names (deliveries.set ticket later) name ↔
      Pending names deliveries name ∨ name ∈ added := by
  rw [pending_set, grown, List.mem_append, ← or_assoc]
  · refine or_congr_left (or_iff_left_of_imp ?_)
    intro listed
    exact pending_iff.mpr ⟨ticket, delivery, found, listed⟩
  · intro earlier found' name listed
    cases found.symm.trans found'
    rw [grown]
    exact List.mem_append_left _ listed

theorem pending_kept {delivery later : Delivery} (found : deliveries.get? ticket = some delivery)
    (same : names later = names delivery) :
    Pending names (deliveries.set ticket later) name ↔ Pending names deliveries name := by
  have grown : names later = names delivery ++ [] := by rw [same, List.append_nil]
  rw [pending_added found grown]
  exact or_iff_left List.not_mem_nil

theorem pending_erase {delivery : Delivery} (found : deliveries.get? ticket = some delivery)
    (unlisted : name ∉ names delivery) :
    Pending names (deliveries.erase ticket) name ↔ Pending names deliveries name := by
  rw [pending_iff, pending_iff]
  constructor
  · rintro ⟨other, held, kept, listed⟩
    exact ⟨other, held, (Dict.get?_of_erase kept).2, listed⟩
  · rintro ⟨other, held, kept, listed⟩
    refine ⟨other, held, ?_, listed⟩
    rw [Dict.get?_erase, if_neg, kept]
    rintro rfl
    rw [found] at kept
    cases kept
    exact unlisted listed

end Pending

section Outcomes
variable {s t : Emissions E} {name : String} {id : Nat} {raised : Bool}

theorem outcomes_append (ended : t.ended = s.ended ++ [(id, raised)]) (other : Nat) :
    outcomes t other = if id = other then outcomes s other ++ [raised] else outcomes s other := by
  rw [outcomes, ended, List.filter_append, List.map_append, outcomes]
  split <;> simp [*]

theorem outcomes_self (ended : t.ended = s.ended ++ [(id, raised)]) :
    outcomes t id = outcomes s id ++ [raised] := by
  rw [outcomes_append ended, if_pos rfl]

theorem outcomes_other (ended : t.ended = s.ended ++ [(id, raised)]) {other : Nat}
    (ne : other ≠ id) : outcomes t other = outcomes s other := by
  rw [outcomes_append ended, if_neg ne.symm]

theorem raisedLast_self (ended : t.ended = s.ended ++ [(id, raised)]) :
    raisedLast t id = if raised = true then raisedLast s id + 1 else 0 := by
  rw [raisedLast, outcomes_self ended, Streaks.trailing_concat]
  rfl

theorem raisedLast_other (ended : t.ended = s.ended ++ [(id, raised)]) {other : Nat}
    (ne : other ≠ id) : raisedLast t other = raisedLast s other := by
  rw [raisedLast, outcomes_other ended ne, raisedLast]

theorem thrice_self (ended : t.ended = s.ended ++ [(id, raised)]) :
    Thrice (outcomes t id) ↔ Thrice (outcomes s id) ∨ (raised = true ∧ 2 ≤ raisedLast s id) := by
  rw [outcomes_self ended]
  exact Streaks.inARow_concat _ 2 _ _

theorem thrice_returned (ended : t.ended = s.ended ++ [(id, false)]) (other : Nat) :
    Thrice (outcomes t other) ↔ Thrice (outcomes s other) := by
  by_cases eq : other = id
  · subst eq
    rw [thrice_self ended]
    simp
  · rw [outcomes_other ended eq]

theorem outcomes_unknown (unknown : ∀ entry ∈ s.ended, entry.1 ≠ id) : outcomes s id = [] := by
  rw [outcomes, List.filter_eq_nil_iff.mpr, List.map_nil]
  intro entry member
  simpa using unknown entry member

end Outcomes

section Frame
variable {s t : Emissions E}

/-- Nobody subscribes or is removed; at most one delivery has ended. -/
structure SameSubscriptions (s t : Emissions E) : Prop where
  subscribers : t.emitter.subscribers = s.emitter.subscribers
  subscriptions : t.subscriptions = s.subscriptions
  autoRemoved : t.autoRemoved = s.autoRemoved
  ended : t.ended = s.ended ∨
    ∃ name id raised, s.Live name id ∧ t.ended = s.ended ++ [(id, raised)]

theorem SameSubscriptions.live (same : SameSubscriptions s t) (name : String) (id : Nat) :
    t.Live name id ↔ s.Live name id := by
  rw [Emissions.Live, Emissions.Live, same.subscribers]

theorem SameSubscriptions.thrice (same : SameSubscriptions s t) {id : Nat}
    (thrice : Thrice (outcomes s id)) : Thrice (outcomes t id) := by
  rcases same.ended with ended | ⟨name, other, raised, _, ended⟩
  · rwa [outcomes, ended]
  · by_cases eq : id = other
    · subst eq
      exact (thrice_self ended).mpr (.inl thrice)
    · rwa [outcomes_other ended eq]

/-- What is to be shown of a step after which everybody has the name they had. -/
theorem Inv.of_same (inv : Inv s) (same : SameSubscriptions s t)
    (tickets : ∀ ticket delivery, t.deliveries.get? ticket = some delivery →
      ticket < t.emits)
    (counted : ∀ name id, s.Live name id → ∃ count, t.emitter.failCounts.get? name = some count ∧
      (count = raisedLast t id ∨ (raisedLast t id = 0 ∧ PendingReset t name)))
    (pending : ∀ name id, s.Live name id → (Thrice (outcomes t id) ↔ PendingRemoval t name)) :
    Inv t := by
  constructor
  case tickets => exact tickets
  case known =>
    intro name id live
    rw [same.subscriptions]
    exact inv.known name id ((same.live name id).mp live)
  case unique =>
    intro name name' id live live'
    exact inv.unique name name' id ((same.live name id).mp live) ((same.live name' id).mp live')
  case noted =>
    intro entry member
    rw [same.subscriptions]
    rcases same.ended with ended | ⟨name, id, raised, live, ended⟩
    · exact inv.noted entry (ended ▸ member)
    · rw [ended, List.mem_append, List.mem_singleton] at member
      rcases member with earlier | rfl
      · exact inv.noted entry earlier
      · exact inv.known name id live
  case counted =>
    intro name id live
    exact counted name id ((same.live name id).mp live)
  case pending =>
    intro name id live
    exact pending name id ((same.live name id).mp live)
  case removed =>
    intro id member
    rw [same.autoRemoved] at member
    exact same.thrice (inv.removed id member)
  case gone =>
    intro id known gone thrice
    rw [same.subscriptions] at known
    rw [same.autoRemoved]
    have gone' : ∀ name, ¬ s.Live name id :=
      fun name live => gone name ((same.live name id).mpr live)
    refine inv.gone id known gone' ?_
    rcases same.ended with ended | ⟨name, other, raised, live, ended⟩
    · rwa [outcomes, ended] at thrice
    · rwa [outcomes_other ended] at thrice
      rintro rfl
      exact gone' name live

end Frame

section Calls
variable {s : Emissions E} {ticket : Nat} {delivery : Delivery} {name : String} {id : Nat}

theorem subscribed_of_live (live : s.Live name id) : s.emitter.subscribers.get? name ≠ none := by
  rw [live]
  exact Option.some_ne_none id

theorem calling_found (calling : s.calling ticket = some (delivery, name, id)) :
    s.deliveries.get? ticket = some delivery := by
  obtain ⟨held, found, first⟩ := Option.bind_eq_some_iff.mp calling
  obtain ⟨target, _, eq⟩ := Option.map_eq_some_iff.mp first
  cases eq
  exact found

theorem Inv.tickets_set (inv : Inv s) (found : s.deliveries.get? ticket = some delivery)
    (later : Delivery) (other : Nat) (held : Delivery)
    (there : (s.deliveries.set ticket later).get? other = some held) :
    other < s.emits := by
  rw [Dict.get?_set] at there
  split at there
  · rename_i same
    rw [same]
    exact inv.tickets ticket delivery found
  · exact inv.tickets other held there

theorem note_dead (dead : ¬ s.Live name id) (raised : Bool) : s.note name id raised = s :=
  if_neg dead

theorem note_live (live : s.Live name id) (raised : Bool) :
    s.note name id raised = { s with ended := s.ended ++ [(id, raised)] } := if_pos live

theorem note_afterReturn (s : Emissions E) (name : String) (id : Nat) (raised : Bool)
    (ticket : Nat) (delivery : Delivery) :
    (s.note name id raised).afterReturn ticket delivery name =
      (s.afterReturn ticket delivery name).note name id raised := by
  by_cases live : s.Live name id
  · have later : (s.afterReturn ticket delivery name).Live name id := live
    rw [note_live live, note_live later]
    rfl
  · have later : ¬ (s.afterReturn ticket delivery name).Live name id := live
    rw [note_dead live, note_dead later]

section Lists
variable (found : s.deliveries.get? ticket = some delivery) (other : String)
include found

theorem afterReturn_resets : PendingReset (s.afterReturn ticket delivery name) other ↔
    PendingReset s other ∨ other = name :=
  (pending_added found rfl).trans (or_congr_right List.mem_singleton)

theorem afterReturn_removals : PendingRemoval (s.afterReturn ticket delivery name) other ↔
    PendingRemoval s other := pending_kept found rfl

theorem afterRaise_resets : PendingReset (s.afterRaise ticket delivery name) other ↔
    PendingReset s other := pending_kept found rfl

theorem afterRaise_removals : PendingRemoval (s.afterRaise ticket delivery name) other ↔
    PendingRemoval s other ∨ (other = name ∧
      maxConsecutiveFailures ≤ s.emitter.failCounts.getD name 0 + 1) := by
  refine (pending_added found rfl).trans (or_congr_right ?_)
  show other ∈ (if _ then [name] else []) ↔ _
  split
  · rename_i many
    rw [List.mem_singleton]
    exact (and_iff_left many).symm
  · rename_i few
    exact iff_of_false List.not_mem_nil fun both => few both.2

end Lists

theorem afterReturn_inv (inv : Inv s) (found : s.deliveries.get? ticket = some delivery) :
    Inv (s.afterReturn ticket delivery name) := by
  refine inv.of_same ⟨rfl, rfl, rfl, .inl rfl⟩ (inv.tickets_set found _) ?counted ?pending
  case counted =>
    intro other id live
    obtain ⟨count, held, agree⟩ := inv.counted other id live
    refine ⟨count, held, agree.imp_right ?_⟩
    rintro ⟨none, waits⟩
    exact ⟨none, (afterReturn_resets found other).mpr (.inl waits)⟩
  case pending =>
    intro other id live
    exact (inv.pending other id live).trans (afterReturn_removals found other).symm

/-- A delivery that has not raised ends a streak, which the emit has put down. -/
theorem note_returned_inv (inv : Inv s) (waits : PendingReset s name) :
    Inv (s.note name id false) := by
  by_cases live : s.Live name id
  · rw [note_live live]
    let t : Emissions E := { s with ended := s.ended ++ [(id, false)] }
    have ended : t.ended = s.ended ++ [(id, false)] := rfl
    refine inv.of_same (t := t) ⟨rfl, rfl, rfl, .inr ⟨name, id, false, live, rfl⟩⟩ inv.tickets
      ?counted ?pending
    case counted =>
      intro other holder held
      obtain ⟨count, kept, agree⟩ := inv.counted other holder held
      refine ⟨count, kept, ?_⟩
      by_cases same : holder = id
      · subst same
        cases inv.unique other name holder held live
        exact .inr ⟨raisedLast_self ended, waits⟩
      · rw [raisedLast_other ended same]
        exact agree
    case pending =>
      intro other holder held
      exact (thrice_returned ended holder).trans (inv.pending other holder held)
  · rw [note_dead live]
    exact inv

theorem returned_inv (inv : Inv s) (calling : s.calling ticket = some (delivery, name, id)) :
    Inv ((s.note name id false).afterReturn ticket delivery name) := by
  have found := calling_found calling
  rw [note_afterReturn]
  apply note_returned_inv (afterReturn_inv inv found)
  exact (afterReturn_resets found name).mpr (.inr rfl)

theorem raised_dead_inv (inv : Inv s) (found : s.deliveries.get? ticket = some delivery)
    (free : s.emitter.subscribers.get? name = none) :
    Inv (s.afterRaise ticket delivery name) := by
  have other_name : ∀ other id, s.Live other id → other ≠ name := by
    rintro other id live rfl
    exact subscribed_of_live live free
  refine inv.of_same ⟨rfl, rfl, rfl, .inl rfl⟩ (inv.tickets_set found _) ?counted ?pending
  case counted =>
    intro other id live
    obtain ⟨count, held, agree⟩ := inv.counted other id live
    refine ⟨count, ?_, agree.imp_right ?_⟩
    · exact (Dict.get?_set_of_ne _ (other_name other id live)).trans held
    · rintro ⟨none, waits⟩
      exact ⟨none, (afterRaise_resets found other).mpr waits⟩
  case pending =>
    intro other id live
    rw [afterRaise_removals found]
    refine (inv.pending other id live).trans (or_iff_left ?_).symm
    exact fun both => other_name other id live both.1

theorem Inv.count_eq (inv : Inv s) (live : s.Live name id)
    (clean : s.emitter.failCounts.getD name 0 = 0 ∨ ¬ PendingReset s name) :
    s.emitter.failCounts.getD name 0 = raisedLast s id := by
  obtain ⟨count, kept, agree⟩ := inv.counted name id live
  have now : s.emitter.failCounts.getD name 0 = count := by rw [Dict.getD, kept, Option.getD_some]
  rcases agree with equal | ⟨zero, waits⟩
  · rw [now, equal]
  · rw [zero]
    exact clean.resolve_right fun unlisted => unlisted waits

theorem raised_live_inv (inv : Inv s) (found : s.deliveries.get? ticket = some delivery)
    (live : s.Live name id)
    (clean : s.emitter.failCounts.getD name 0 = 0 ∨ ¬ PendingReset s name) :
    Inv ((s.note name id true).afterRaise ticket delivery name) := by
  have exactly := inv.count_eq live clean
  rw [note_live live]
  let t : Emissions E :=
    ({ s with ended := s.ended ++ [(id, true)] } : Emissions E).afterRaise ticket delivery name
  have ended : t.ended = s.ended ++ [(id, true)] := rfl
  have counts : t.emitter.failCounts = s.emitter.failCounts.set name (raisedLast s id + 1) := by
    rw [← exactly]
    rfl
  have removals : ∀ other, PendingRemoval t other ↔ PendingRemoval s other ∨
      (other = name ∧ maxConsecutiveFailures ≤ raisedLast s id + 1) := by
    rw [← exactly]
    exact afterRaise_removals found
  refine inv.of_same (t := t) ⟨rfl, rfl, rfl, .inr ⟨name, id, true, live, rfl⟩⟩
    (inv.tickets_set found _) ?counted ?pending
  case counted =>
    intro other holder held
    rw [counts]
    by_cases same : holder = id
    · subst same
      cases inv.unique other name holder held live
      exact ⟨_, Dict.get?_set_self _ _ _, .inl (raisedLast_self ended).symm⟩
    · obtain ⟨count, kept, agree⟩ := inv.counted other holder held
      refine ⟨count, ?_, ?_⟩
      · rw [Dict.get?_set_of_ne, kept]
        rintro rfl
        exact same (Option.some.inj (held.symm.trans live))
      · rw [raisedLast_other ended same]
        refine agree.imp_right ?_
        rintro ⟨none, waits⟩
        exact ⟨none, (afterRaise_resets found other).mpr waits⟩
  case pending =>
    intro other holder held
    rw [removals]
    by_cases same : holder = id
    · subst same
      cases inv.unique other name holder held live
      rw [thrice_self ended, inv.pending name holder live, and_iff_right rfl, and_iff_right rfl,
        maxConsecutiveFailures, Nat.succ_le_succ_iff]
    · rw [outcomes_other ended same, inv.pending other holder held]
      refine (or_iff_left ?_).symm
      rintro ⟨rfl, _⟩
      exact same (Option.some.inj (held.symm.trans live))

theorem raised_inv (inv : Inv s) (calling : s.calling ticket = some (delivery, name, id))
    (legal : Undisturbed s (.raised ticket)) :
    Inv ((s.note name id true).afterRaise ticket delivery name) := by
  have found := calling_found calling
  have charged := legal _ calling
  cases holder : s.emitter.subscribers.get? name with
  | none =>
    have dead : ¬ s.Live name id := fun live => subscribed_of_live live holder
    rw [note_dead dead]
    exact raised_dead_inv inv found holder
  | some other =>
    obtain ⟨rfl, clean⟩ := charged other holder
    exact raised_live_inv inv found holder clean

theorem fatal_inv (inv : Inv s) (calling : s.calling ticket = some (delivery, name, id))
    (legal : Undisturbed s (.fatal ticket)) :
    Inv { s.note name id true with
      deliveries := (s.note name id true).deliveries.erase ticket } := by
  have found := calling_found calling
  obtain ⟨dead, resets, removals⟩ := legal _ calling
  rw [note_dead dead]
  refine inv.of_same ⟨rfl, rfl, rfl, .inl rfl⟩ ?tickets ?counted ?pending
  case tickets =>
    intro other held there
    exact inv.tickets other held (Dict.get?_of_erase there).2
  case counted =>
    intro other holder live
    obtain ⟨count, held, agree⟩ := inv.counted other holder live
    refine ⟨count, held, ?_⟩
    by_cases listed : other ∈ delivery.localResets
    · have zero := resets other listed (subscribed_of_live live)
      rw [Dict.getD, held, Option.getD_some] at zero
      rw [zero]
      exact .inl (agree.elim (fun equal => zero.symm.trans equal) fun waits => waits.1.symm)
    · refine agree.imp_right ?_
      rintro ⟨none, waits⟩
      exact ⟨none, (pending_erase found listed).mpr waits⟩
  case pending =>
    intro other holder live
    refine (inv.pending other holder live).trans (pending_erase found ?_).symm
    exact fun listed => subscribed_of_live live (removals other listed)

end Calls

section Removals
open BufferedEmitter
variable {s : Emissions E} {ticket : Nat} {delivery : Delivery}

theorem get?_foldl_unsubscribe (e : BufferedEmitter E) (names : List String) (name : String) :
    (names.foldl unsubscribe e).subscribers.get? name =
        (if name ∈ names then none else e.subscribers.get? name) ∧
      (names.foldl unsubscribe e).failCounts.get? name =
        if name ∈ names then none else e.failCounts.get? name := by
  induction names generalizing e with
  | nil => exact ⟨rfl, rfl⟩
  | cons head rest ih =>
    obtain ⟨subscribers, failCounts⟩ := ih (e.unsubscribe head)
    rw [List.foldl_cons, subscribers, failCounts]
    simp only [unsubscribe, Dict.get?_erase, List.mem_cons]
    by_cases same : name = head
    · simp [same]
    · simp [same]

theorem get?_resetCount (counts : Dict String Nat) (head name : String) :
    (resetCount counts head).get? name =
      if name = head then (counts.get? name).map fun _ => 0 else counts.get? name := by
  unfold resetCount
  split
  · rename_i present
    rw [Dict.get?_set]
    split
    · rename_i same
      subst same
      cases held : counts.get? name with
      | none => exact absurd present (Dict.get?_eq_none_iff.mp held)
      | some count => rfl
    · rfl
  · rename_i absent
    split
    · rename_i same
      subst same
      rw [Dict.get?_eq_none_iff.mpr absent, Option.map_none]
    · rfl

theorem get?_foldl_resetCount (counts : Dict String Nat) (names : List String) (name : String) :
    (names.foldl resetCount counts).get? name =
      if name ∈ names then (counts.get? name).map fun _ => 0 else counts.get? name := by
  induction names generalizing counts with
  | nil => rfl
  | cons head rest ih =>
    rw [List.foldl_cons, ih, get?_resetCount]
    by_cases same : name = head
    · simp [same, Function.comp_def]
    · simp [same]

/-- Those who keep their name at the end of an emit, and what count it gives them. -/
theorem live_settle {name : String} {id : Nat} : (s.settle ticket delivery).Live name id ↔
    s.Live name id ∧ name ∉ delivery.localRemovals := by
  show (s.emitter.settle _ _).subscribers.get? name = some id ↔ _
  rw [BufferedEmitter.settle, (get?_foldl_unsubscribe _ _ _).1]
  split
  · rename_i listed
    exact iff_of_false (Option.some_ne_none id).symm fun both => both.2 listed
  · rename_i unlisted
    exact (and_iff_left unlisted).symm

theorem failCounts_settle {name : String} (kept : name ∉ delivery.localRemovals) :
    (s.settle ticket delivery).emitter.failCounts.get? name =
      if name ∈ delivery.localResets then (s.emitter.failCounts.get? name).map fun _ => 0
      else s.emitter.failCounts.get? name := by
  show (s.emitter.settle _ _).failCounts.get? name = _
  rw [BufferedEmitter.settle, (get?_foldl_unsubscribe _ _ _).2, if_neg kept,
    get?_foldl_resetCount]

theorem settle_inv (inv : Inv s) (found : s.deliveries.get? ticket = some delivery)
    (done : delivery.targets = []) (legal : Undisturbed s (.settle ticket)) :
    Inv (s.settle ticket delivery) := by
  have quiet := legal delivery found done
  constructor
  case tickets =>
    intro other held there
    exact inv.tickets other held (Dict.get?_of_erase there).2
  case known =>
    intro name id live
    exact inv.known name id (live_settle.mp live).1
  case unique =>
    intro name name' id live live'
    exact inv.unique name name' id (live_settle.mp live).1 (live_settle.mp live').1
  case noted => exact inv.noted
  case counted =>
    intro name id live
    obtain ⟨live, kept⟩ := live_settle.mp live
    obtain ⟨count, held, agree⟩ := inv.counted name id live
    rw [failCounts_settle kept, held]
    split
    · rename_i listed
      exact ⟨0, rfl, .inl (quiet name listed id live).symm⟩
    · rename_i unlisted
      refine ⟨count, rfl, agree.imp_right ?_⟩
      rintro ⟨none, waits⟩
      exact ⟨none, (pending_erase found unlisted).mpr waits⟩
  case pending =>
    intro name id live
    obtain ⟨live, kept⟩ := live_settle.mp live
    exact (inv.pending name id live).trans (pending_erase found kept).symm
  case removed =>
    intro id member
    rcases List.mem_append.mp member with earlier | now
    · exact inv.removed id earlier
    · obtain ⟨name, listed, live⟩ := List.mem_filterMap.mp now
      exact (inv.pending name id live).mpr (pending_iff.mpr ⟨ticket, delivery, found, listed⟩)
  case gone =>
    intro id known gone thrice
    apply List.mem_append.mpr
    rcases (inv.exact id known).mp thrice with earlier | ⟨name, live, _⟩
    · exact .inl earlier
    · have listed : name ∈ delivery.localRemovals := by
        by_contra kept
        exact gone name (live_settle.mpr ⟨live, kept⟩)
      exact .inr (List.mem_filterMap.mpr ⟨name, listed, live⟩)

theorem live_subscribe {name other : String} {id : Nat} :
    (act s (.subscribe name)).Live other id ↔
      if other = name then id = s.subscriptions else s.Live other id := by
  show (s.emitter.subscribers.set name s.subscriptions).get? other = some id ↔ _
  rw [Dict.get?_set]
  split
  · rw [Option.some.injEq, eq_comm]
  · rfl

theorem Inv.fresh (inv : Inv s) : outcomes s s.subscriptions = [] := by
  apply outcomes_unknown
  intro entry member
  exact (inv.noted entry member).ne

theorem subscribe_inv (inv : Inv s) (name : String)
    (legal : Undisturbed s (.subscribe name)) : Inv (act s (.subscribe name)) := by
  constructor
  case tickets => exact inv.tickets
  case known =>
    intro other id live
    rw [live_subscribe] at live
    show id < s.subscriptions + 1
    split at live
    · omega
    · exact (inv.known other id live).trans (Nat.lt_succ_self _)
  case unique =>
    intro other other' id live live'
    rw [live_subscribe] at live live'
    split at live <;> split at live'
    case isTrue.isTrue first second => exact first.trans second.symm
    case isTrue.isFalse first second => exact absurd live (inv.known other' id live').ne
    case isFalse.isTrue first second => exact absurd live' (inv.known other id live).ne
    case isFalse.isFalse first second => exact inv.unique other other' id live live'
  case noted =>
    intro entry member
    exact (inv.noted entry member).trans (Nat.lt_succ_self _)
  case counted =>
    intro other id live
    rw [live_subscribe] at live
    show ∃ count, (s.emitter.failCounts.set name 0).get? other = some count ∧ _
    rw [Dict.get?_set]
    split at live
    · refine ⟨0, if_pos ‹_›, .inl ?_⟩
      show 0 = raisedLast s id
      rw [live, raisedLast, inv.fresh]
      rfl
    · rw [if_neg ‹_›]
      exact inv.counted other id live
  case pending =>
    intro other id live
    rw [live_subscribe] at live
    split at live
    · rename_i same
      subst same live
      refine iff_of_false ?_ legal
      show ¬ Thrice (outcomes s s.subscriptions)
      rw [inv.fresh]
      decide
    · exact inv.pending other id live
  case removed => exact inv.removed
  case gone =>
    intro id known gone thrice
    have known' : id < s.subscriptions + 1 := known
    have old : id ≠ s.subscriptions := by
      intro new
      exact gone name (live_subscribe.mpr ((if_pos rfl).mpr new))
    rcases (inv.exact id (by omega)).mp thrice with earlier | ⟨other, live, waits⟩
    · exact earlier
    · have replaced : other = name := by
        by_contra kept
        exact gone other (live_subscribe.mpr ((if_neg kept).mpr live))
      exact absurd (replaced ▸ waits) legal

theorem live_unsubscribe {name other : String} {id : Nat} :
    (act s (.unsubscribe name)).Live other id ↔ other ≠ name ∧ s.Live other id := by
  show (s.emitter.subscribers.erase name).get? other = some id ↔ _
  rw [Dict.get?_erase]
  split
  · rename_i same
    exact iff_of_false (Option.some_ne_none id).symm fun both => both.1 same
  · rename_i other_name
    exact (and_iff_right other_name).symm

theorem unsubscribe_inv (inv : Inv s) (name : String)
    (legal : Undisturbed s (.unsubscribe name)) : Inv (act s (.unsubscribe name)) := by
  constructor
  case tickets => exact inv.tickets
  case known =>
    intro other id live
    exact inv.known other id (live_unsubscribe.mp live).2
  case unique =>
    intro other other' id live live'
    exact inv.unique other other' id (live_unsubscribe.mp live).2 (live_unsubscribe.mp live').2
  case noted => exact inv.noted
  case counted =>
    intro other id live
    obtain ⟨kept, live⟩ := live_unsubscribe.mp live
    show ∃ count, (s.emitter.failCounts.erase name).get? other = some count ∧ _
    rw [Dict.get?_erase, if_neg kept]
    exact inv.counted other id live
  case pending =>
    intro other id live
    exact inv.pending other id (live_unsubscribe.mp live).2
  case removed => exact inv.removed
  case gone =>
    intro id known gone thrice
    rcases (inv.exact id known).mp thrice with earlier | ⟨other, live, waits⟩
    · exact earlier
    · have left : other = name := by
        by_contra kept
        exact gone other (live_unsubscribe.mpr ⟨kept, live⟩)
      subst left
      exact absurd waits (legal (subscribed_of_live live))

end Removals

section Runs
variable {s : Emissions E}

theorem inv_opened (maxlen : Nat) : Inv (opened E maxlen) := by
  constructor
  case tickets => exact fun _ _ found => nomatch found
  case known => exact fun _ _ live => nomatch live
  case unique => exact fun _ _ _ live => nomatch live
  case noted => exact fun _ member => absurd member List.not_mem_nil
  case counted => exact fun _ _ live => nomatch live
  case pending => exact fun _ _ live => nomatch live
  case removed => exact fun _ member => absurd member List.not_mem_nil
  case gone => exact fun _ known => absurd known (Nat.not_lt_zero _)

theorem emit_inv (inv : Inv s) (event : E) : Inv (s.emit event) := by
  have fresh : s.deliveries.get? s.emits = none := by
    cases found : s.deliveries.get? s.emits with
    | none => rfl
    | some delivery => exact absurd (inv.tickets _ _ found) (Nat.lt_irrefl _)
  have waits : ∀ (names : Delivery → List String) (later : Delivery) name, names later = [] →
      (Pending names (s.deliveries.set s.emits later) name ↔
        Pending names s.deliveries name) := by
    intro names later name none
    rw [pending_set, none]
    · exact or_iff_left List.not_mem_nil
    · intro earlier found
      rw [fresh] at found
      cases found
  refine inv.of_same ⟨rfl, rfl, rfl, .inl rfl⟩ ?tickets ?counted ?pending
  case tickets =>
    intro ticket delivery found
    show ticket < s.emits + 1
    have there : (s.deliveries.set s.emits _).get? ticket = some delivery := found
    rw [Dict.get?_set] at there
    split at there
    · omega
    · exact (inv.tickets ticket delivery there).trans (Nat.lt_succ_self _)
  case counted =>
    intro name id live
    obtain ⟨count, held, agree⟩ := inv.counted name id live
    refine ⟨count, held, agree.imp_right ?_⟩
    rintro ⟨none, pending⟩
    exact ⟨none, (waits _ _ name rfl).mpr pending⟩
  case pending =>
    intro name id live
    exact (inv.pending name id live).trans (waits _ _ name rfl).symm

theorem act_inv (inv : Inv s) (a : Action E) (legal : Undisturbed s a) : Inv (act s a) := by
  cases a with
  | emit event => exact emit_inv inv event
  | returned ticket =>
    simp only [act]
    split
    · exact inv
    · exact returned_inv inv ‹_›
  | raised ticket =>
    simp only [act]
    split
    · exact inv
    · exact raised_inv inv ‹_› legal
  | fatal ticket =>
    simp only [act]
    split
    · exact inv
    · exact fatal_inv inv ‹_› legal
  | settle ticket =>
    simp only [act]
    split
    · exact inv
    · split
      · exact settle_inv inv ‹_› ‹_› legal
      · exact inv
  | subscribe name => exact subscribe_inv inv name legal
  | unsubscribe name => exact unsubscribe_inv inv name legal
  | drain n =>
    exact inv.of_same ⟨rfl, rfl, rfl, .inl rfl⟩ inv.tickets inv.counted inv.pending
  | snapshot => exact inv

end Runs

/-- While no step disturbs the bookkeeping, the emits remove those subscriptions whose callbacks
    have raised three times in a row, and no others. -/
theorem auto_unsubscribe_exact (maxlen : Nat) (actions : List (Action E))
    (undisturbed : Runs.EachStep act Undisturbed (opened E maxlen) actions) :
    Runs.EachState act Exact (opened E maxlen) actions := by
  have keep : ∀ (s : Emissions E) a, Inv s → Undisturbed s a → Inv (act s a) :=
    fun s a inv legal => act_inv inv a legal
  have each := Runs.eachState_invariant keep (inv_opened maxlen) undisturbed
  exact Runs.eachState_imp (fun s inv => inv.exact) each

/-- Three emits to a callback that raises on each. -/
def raisedThrice : List (Action Unit) :=
  [.subscribe "bad", .emit (), .raised 0, .settle 0, .emit (), .raised 1, .settle 1,
    .emit (), .raised 2, .settle 2]

theorem raised_thrice_removed : Runs.EachStep act Undisturbed (opened Unit 4) raisedThrice ∧
    (Runs.run act (opened Unit 4) raisedThrice).autoRemoved = [0] ∧
    Runs.EachState act Exact (opened Unit 4) raisedThrice :=
  ⟨by decide +kernel, by decide +kernel,
    auto_unsubscribe_exact 4 raisedThrice (by decide +kernel)⟩

/-- In the third of these emits the other callback subscribes another one under the name of the
    first, which has just raised for the third time. -/
def replacedInTime : List (Action Unit) :=
  [.subscribe "bad", .subscribe "helper", .emit (), .raised 0, .returned 0, .settle 0,
    .emit (), .raised 1, .returned 1, .settle 1,
    .emit (), .raised 2, .subscribe "bad", .returned 2, .settle 2]

/-- The replacement, which has not been called at all, is removed. -/
theorem replacement_removed : ¬ Runs.EachState act Exact (opened Unit 4) replacedInTime := by
  intro each
  have last := (Runs.eachState_last each) 2 (by decide +kernel)
  have never : ¬ Thrice (outcomes (Runs.run act (opened Unit 4) replacedInTime) 2) := by
    decide +kernel
  have removed : 2 ∈ (Runs.run act (opened Unit 4) replacedInTime).autoRemoved := by
    decide +kernel
  exact never (last.mpr (.inl removed))

end VeronicaAutoUnsubscribe
