import Mathlib.Data.List.DropRight
import Mathlib.Data.List.Nodup
import Veronica.Library.Dict
import Veronica.Library.Runs

/- BufferedEmitter: a ring buffer of events, and subscribers that are called outside its lock. A
   callback may call the emitter again, and so may other threads, between any two locked
   sections. -/
namespace VeronicaEmitter

/-- An event with its place in the order of emission, which no code reads. -/
structure Emitted (E : Type) where
  number : Nat
  event : E
  deriving DecidableEq

def maxConsecutiveFailures : Nat := 3

/-- `_buffer` is a deque of at most `maxlen` entries. A callback is named by the number of the
    `subscribe` call it was given to. -/
structure BufferedEmitter (E : Type) where
  maxlen : Nat := 1024
  buffer : List (Emitted E) := []
  subscribers : Dict String Nat := ∅
  failCounts : Dict String Nat := ∅
  dropped : Nat := 0

namespace BufferedEmitter
variable {E : Type}

/-- The first locked section of `emit`; a full deque lets its oldest entry go, or the new one if
    it has room for none. -/
def append (e : BufferedEmitter E) (x : Emitted E) : BufferedEmitter E :=
  { e with
    dropped := if e.buffer.length = e.maxlen then e.dropped + 1 else e.dropped
    buffer := (e.buffer ++ [x]).rtake e.maxlen }

/-- The locked section after a callback has raised, with the count it has come to. -/
def countFailure (e : BufferedEmitter E) (name : String) : BufferedEmitter E × Nat :=
  let count := e.failCounts.getD name 0 + 1
  ({ e with failCounts := e.failCounts.set name count }, count)

def subscribe (e : BufferedEmitter E) (name : String) (callback : Nat) : BufferedEmitter E :=
  { e with
    subscribers := e.subscribers.set name callback
    failCounts := e.failCounts.set name 0 }

def unsubscribe (e : BufferedEmitter E) (name : String) : BufferedEmitter E :=
  { e with
    subscribers := e.subscribers.erase name
    failCounts := e.failCounts.erase name }

def resetCount (failCounts : Dict String Nat) (name : String) : Dict String Nat :=
  if name ∈ failCounts.keys then failCounts.set name 0 else failCounts

/-- The last locked section of `emit`. -/
def settle (e : BufferedEmitter E) (localResets localRemovals : List String) :
    BufferedEmitter E :=
  localRemovals.foldl unsubscribe
    { e with failCounts := localResets.foldl resetCount e.failCounts }

def drain (e : BufferedEmitter E) (n : Int) : BufferedEmitter E × List (Emitted E) :=
  let taken := (min n e.buffer.length).toNat
  ({ e with buffer := e.buffer.drop taken }, e.buffer.take taken)

def snapshot (e : BufferedEmitter E) : List (Emitted E) := e.buffer

end BufferedEmitter

/-- An `emit` between its locked sections. The first of `targets` is being called. -/
structure Delivery where
  targets : List (String × Nat)
  localResets : List String := []
  localRemovals : List String := []

/-- The emitter and the emits that are delivering, by the number of their event. The other fields
    only observe: the emit and the subscribe calls so far, how each delivery to a subscription
    ended that had its name then, and the subscriptions that an emit has removed. -/
structure Emissions (E : Type) where
  emitter : BufferedEmitter E
  deliveries : Dict Nat Delivery := ∅
  emits : Nat := 0
  subscriptions : Nat := 0
  ended : List (Nat × Bool) := []
  autoRemoved : List Nat := []

/-- `returned`, `raised` and `fatal` end the call an emit is in; `fatal` is an exception that is
    not an Exception, which ends the emit. -/
inductive Action (E : Type) where
  | emit (event : E)
  | returned (ticket : Nat)
  | raised (ticket : Nat)
  | fatal (ticket : Nat)
  | settle (ticket : Nat)
  | subscribe (name : String)
  | unsubscribe (name : String)
  | drain (n : Int)
  | snapshot

namespace Emissions
variable {E : Type}

/-- What an emit has before it and is busy with, if it is calling a subscriber. -/
def calling (s : Emissions E) (ticket : Nat) : Option (Delivery × String × Nat) :=
  (s.deliveries.get? ticket).bind fun delivery =>
    delivery.targets.head?.map fun target => (delivery, target)

/-- The subscription has the name, and has not been replaced or removed. -/
def Live (s : Emissions E) (name : String) (id : Nat) : Prop :=
  s.emitter.subscribers.get? name = some id

instance (s : Emissions E) (name : String) (id : Nat) : Decidable (s.Live name id) :=
  inferInstanceAs (Decidable (_ = _))

/-- A delivery has ended. Those to subscriptions replaced or removed by then are not noted. -/
def note (s : Emissions E) (name : String) (id : Nat) (raised : Bool) : Emissions E :=
  if s.Live name id then { s with ended := s.ended ++ [(id, raised)] } else s

def emit (s : Emissions E) (event : E) : Emissions E :=
  { s with
    emitter := s.emitter.append ⟨s.emits, event⟩
    deliveries := s.deliveries.set s.emits { targets := s.emitter.subscribers.entries }
    emits := s.emits + 1 }

def afterReturn (s : Emissions E) (ticket : Nat) (delivery : Delivery) (name : String) :
    Emissions E :=
  { s with deliveries := s.deliveries.set ticket { delivery with
      targets := delivery.targets.tail
      localResets := delivery.localResets ++ [name] } }

def afterRaise (s : Emissions E) (ticket : Nat) (delivery : Delivery) (name : String) :
    Emissions E :=
  let counted := s.emitter.countFailure name
  { s with
    emitter := counted.1
    deliveries := s.deliveries.set ticket { delivery with
      targets := delivery.targets.tail
      localRemovals := delivery.localRemovals ++
        if maxConsecutiveFailures ≤ counted.2 then [name] else [] } }

def settle (s : Emissions E) (ticket : Nat) (delivery : Delivery) : Emissions E :=
  { s with
    emitter := s.emitter.settle delivery.localResets delivery.localRemovals
    deliveries := s.deliveries.erase ticket
    autoRemoved := s.autoRemoved ++
      delivery.localRemovals.filterMap fun name => s.emitter.subscribers.get? name }

end Emissions

variable {E : Type}

def act (s : Emissions E) : Action E → Emissions E
  | .emit event => s.emit event
  | .returned ticket =>
    match s.calling ticket with
    | none => s
    | some (delivery, name, id) => (s.note name id false).afterReturn ticket delivery name
  | .raised ticket =>
    match s.calling ticket with
    | none => s
    | some (delivery, name, id) => (s.note name id true).afterRaise ticket delivery name
  | .fatal ticket =>
    match s.calling ticket with
    | none => s
    | some (_, name, id) =>
      let s := s.note name id true
      { s with deliveries := s.deliveries.erase ticket }
  | .settle ticket =>
    match s.deliveries.get? ticket with
    | none => s
    | some delivery => if delivery.targets = [] then s.settle ticket delivery else s
  | .subscribe name =>
    { s with
      emitter := s.emitter.subscribe name s.subscriptions
      subscriptions := s.subscriptions + 1 }
  | .unsubscribe name => { s with emitter := s.emitter.unsubscribe name }
  | .drain n => { s with emitter := (s.emitter.drain n).1 }
  | .snapshot => s

def opened (E : Type) (maxlen : Nat) : Emissions E := { emitter := { maxlen } }

def eventOf : Action E → Option E
  | .emit event => some event
  | _ => none

/-- The events that the `emit` calls of a run were given, in the order of emission. -/
def emittedBy (actions : List (Action E)) : List (Emitted E) :=
  (actions.filterMap eventOf).mapIdx Emitted.mk

/-- What a `drain` returns. -/
def returnedBy (s : Emissions E) : Action E → List (List (Emitted E))
  | .drain n => [(s.emitter.drain n).2]
  | _ => []

/-- What has become of the events: the buffer holds the last ones, in their order, and those
    before were drained, in their order, or dropped. -/
structure Conserved (maxlen : Nat) (emitted : List (Emitted E))
    (drained : List (List (Emitted E))) (s : Emissions E) : Prop where
  counted : emitted.length =
    s.emitter.snapshot.length + drained.flatten.length + s.emitter.dropped
  bounded : s.emitter.snapshot.length ≤ maxlen
  recent : ∃ gone lost, emitted = gone ++ s.emitter.snapshot ∧
    gone.Perm (drained.flatten ++ lost) ∧ lost.length = s.emitter.dropped
  inOrder : drained.flatten.Sublist emitted
  distinct : emitted.Nodup

/-- `gone` are the events that have left the buffer, `lost` those of them that were dropped. -/
structure Inv (maxlen : Nat) (emitted : List (Emitted E)) (drained : List (List (Emitted E)))
    (s : Emissions E) (gone lost : List (Emitted E)) : Prop where
  capacity : s.emitter.maxlen = maxlen
  bounded : s.emitter.buffer.length ≤ maxlen
  recent : emitted = gone ++ s.emitter.buffer
  left : gone.Perm (drained.flatten ++ lost)
  inOrder : drained.flatten.Sublist gone
  dropped : s.emitter.dropped = lost.length
  numbered : s.emits = emitted.length

theorem emittedBy_concat (earlier : List (Action E)) (a : Action E) :
    emittedBy (earlier ++ [a]) = emittedBy earlier ++
      (eventOf a).toList.map (Emitted.mk (emittedBy earlier).length) := by
  rw [emittedBy, emittedBy, List.filterMap_append, List.mapIdx_append, List.length_mapIdx]
  cases found : eventOf a <;> simp [found]

theorem emittedBy_nodup (actions : List (Action E)) : (emittedBy actions).Nodup := by
  refine List.Nodup.of_map Emitted.number ?_
  have numbers : (emittedBy actions).map Emitted.number =
      List.range (actions.filterMap eventOf).length :=
    List.ext_getElem (by simp [emittedBy]) (by simp [emittedBy])
  rw [numbers]
  exact List.nodup_range

section Conservation
variable {maxlen : Nat} {emitted : List (Emitted E)} {drained : List (List (Emitted E))}
  {s : Emissions E} {gone lost : List (Emitted E)}

theorem inv_opened (maxlen : Nat) : Inv maxlen [] [] (opened E maxlen) [] [] :=
  ⟨rfl, Nat.zero_le _, rfl, List.Perm.nil, List.Sublist.slnil, rfl, rfl⟩

/-- The part of the state that conservation is about. -/
structure SameEvents (s t : Emissions E) : Prop where
  maxlen : t.emitter.maxlen = s.emitter.maxlen
  buffer : t.emitter.buffer = s.emitter.buffer
  dropped : t.emitter.dropped = s.emitter.dropped
  emits : t.emits = s.emits

theorem Inv.of_same {t : Emissions E} (inv : Inv maxlen emitted drained s gone lost)
    (same : SameEvents s t) : Inv maxlen emitted drained t gone lost := by
  obtain ⟨maxlen, buffer, dropped, emits⟩ := same
  constructor
  case capacity => rw [maxlen, inv.capacity]
  case bounded =>
    rw [buffer]
    exact inv.bounded
  case recent => rw [buffer, ← inv.recent]
  case left => exact inv.left
  case inOrder => exact inv.inOrder
  case dropped => rw [dropped, inv.dropped]
  case numbered => rw [emits, inv.numbered]

theorem inv_emit (inv : Inv maxlen emitted drained s gone lost) (event : E) :
    ∃ gone lost, Inv maxlen (emitted ++ [⟨emitted.length, event⟩]) drained (s.emit event) gone
      lost := by
  set x : Emitted E := ⟨emitted.length, event⟩
  let beyond := s.emitter.buffer.length + 1 - maxlen
  have bounded := inv.bounded
  have kept : (s.emit event).emitter.buffer = (s.emitter.buffer ++ [x]).drop beyond := by
    have numbered : (s.emit event).emitter = s.emitter.append x := by
      rw [Emissions.emit, inv.numbered]
    rw [numbered, BufferedEmitter.append, List.rtake, List.length_append, List.length_singleton,
      inv.capacity]
  refine ⟨gone ++ (s.emitter.buffer ++ [x]).take beyond,
    lost ++ (s.emitter.buffer ++ [x]).take beyond, ?_⟩
  constructor
  case capacity => exact inv.capacity
  case bounded =>
    rw [kept, List.length_drop, List.length_append, List.length_singleton]
    omega
  case recent =>
    rw [kept, List.append_assoc, List.take_append_drop, ← List.append_assoc, ← inv.recent]
  case left =>
    rw [← List.append_assoc]
    exact inv.left.append_right _
  case inOrder => exact inv.inOrder.trans (List.sublist_append_left _ _)
  case dropped =>
    rw [List.length_append, ← inv.dropped, List.length_take, List.length_append,
      List.length_singleton]
    show (if s.emitter.buffer.length = s.emitter.maxlen then _ else _) = _
    rw [inv.capacity]
    split <;> omega
  case numbered =>
    rw [List.length_append, List.length_singleton, ← inv.numbered]
    rfl

theorem inv_drain (inv : Inv maxlen emitted drained s gone lost) (n : Int) :
    ∃ gone lost, Inv maxlen emitted (drained ++ [(s.emitter.drain n).2]) (act s (.drain n)) gone
      lost := by
  let taken := (min n s.emitter.buffer.length).toNat
  have kept : (act s (.drain n)).emitter.buffer = s.emitter.buffer.drop taken := rfl
  have flat : (drained ++ [(s.emitter.drain n).2]).flatten =
      drained.flatten ++ s.emitter.buffer.take taken := by
    rw [List.flatten_append, List.flatten_singleton]
    rfl
  refine ⟨gone ++ s.emitter.buffer.take taken, lost, ?_⟩
  constructor
  case capacity => exact inv.capacity
  case bounded =>
    rw [kept, List.length_drop]
    exact (Nat.sub_le _ _).trans inv.bounded
  case recent => rw [kept, List.append_assoc, List.take_append_drop, inv.recent]
  case left =>
    rw [flat]
    refine (inv.left.append_right _).trans ?_
    rw [List.append_assoc, List.append_assoc]
    exact List.perm_append_comm.append_left _
  case inOrder =>
    rw [flat]
    exact inv.inOrder.append (List.Sublist.refl _)
  case dropped => exact inv.dropped
  case numbered => exact inv.numbered

section Calls

theorem note_same (s : Emissions E) (name : String) (id : Nat) (raised : Bool) :
    SameEvents s (s.note name id raised) := by
  unfold Emissions.note
  split <;> exact ⟨rfl, rfl, rfl, rfl⟩

theorem SameEvents.trans {t u : Emissions E} (first : SameEvents s t) (second : SameEvents t u) :
    SameEvents s u :=
  ⟨second.maxlen.trans first.maxlen, second.buffer.trans first.buffer,
    second.dropped.trans first.dropped, second.emits.trans first.emits⟩

theorem settle_buffer (e : BufferedEmitter E) (resets removals : List String) :
    (e.settle resets removals).maxlen = e.maxlen ∧ (e.settle resets removals).buffer = e.buffer ∧
      (e.settle resets removals).dropped = e.dropped := by
  rw [BufferedEmitter.settle]
  induction removals using List.reverseRecOn with
  | nil => exact ⟨rfl, rfl, rfl⟩
  | append_singleton earlier name ih =>
    rw [List.foldl_append]
    exact ih

theorem act_same (s : Emissions E) (a : Action E) :
    (∃ event, a = .emit event) ∨ (∃ n, a = .drain n) ∨
      (eventOf a = none ∧ returnedBy s a = [] ∧ SameEvents s (act s a)) := by
  have refl : SameEvents s s := ⟨rfl, rfl, rfl, rfl⟩
  cases a with
  | emit event => exact .inl ⟨event, rfl⟩
  | drain n => exact .inr (.inl ⟨n, rfl⟩)
  | returned ticket =>
    refine .inr (.inr ⟨rfl, rfl, ?_⟩)
    simp only [act]
    split
    · exact refl
    · exact (note_same s _ _ false).trans ⟨rfl, rfl, rfl, rfl⟩
  | raised ticket =>
    refine .inr (.inr ⟨rfl, rfl, ?_⟩)
    simp only [act]
    split
    · exact refl
    · exact (note_same s _ _ true).trans ⟨rfl, rfl, rfl, rfl⟩
  | fatal ticket =>
    refine .inr (.inr ⟨rfl, rfl, ?_⟩)
    simp only [act]
    split
    · exact refl
    · exact (note_same s _ _ true).trans ⟨rfl, rfl, rfl, rfl⟩
  | settle ticket =>
    refine .inr (.inr ⟨rfl, rfl, ?_⟩)
    simp only [act]
    split
    · exact refl
    · rename_i delivery _
      split
      · obtain ⟨maxlen, buffer, dropped⟩ :=
          settle_buffer s.emitter delivery.localResets delivery.localRemovals
        exact ⟨maxlen, buffer, dropped, rfl⟩
      · exact refl
  | subscribe name => exact .inr (.inr ⟨rfl, rfl, rfl, rfl, rfl, rfl⟩)
  | unsubscribe name => exact .inr (.inr ⟨rfl, rfl, rfl, rfl, rfl, rfl⟩)
  | snapshot => exact .inr (.inr ⟨rfl, rfl, refl⟩)

end Calls

theorem inv_act (inv : Inv maxlen emitted drained s gone lost) (a : Action E) : ∃ gone lost,
    Inv maxlen (emitted ++ (eventOf a).toList.map (Emitted.mk emitted.length))
      (drained ++ returnedBy s a) (act s a) gone lost := by
  rcases act_same s a with ⟨event, rfl⟩ | ⟨n, rfl⟩ | ⟨noEvent, noDrain, same⟩
  · rw [show returnedBy s (.emit event) = [] from rfl, List.append_nil]
    exact inv_emit inv event
  · rw [show eventOf (E := E) (.drain n) = none from rfl, Option.toList_none, List.map_nil,
      List.append_nil]
    exact inv_drain inv n
  · rw [noEvent, noDrain, Option.toList_none, List.map_nil, List.append_nil, List.append_nil]
    exact ⟨gone, lost, inv.of_same same⟩

theorem Inv.accounted (inv : Inv maxlen emitted drained s gone lost) (distinct : emitted.Nodup) :
    Conserved maxlen emitted drained s := by
  have sizes := inv.left.length_eq
  have whole := congrArg List.length inv.recent
  rw [List.length_append] at sizes whole
  constructor
  case counted =>
    rw [BufferedEmitter.snapshot, inv.dropped]
    omega
  case bounded => exact inv.bounded
  case recent => exact ⟨gone, lost, inv.recent, inv.left, inv.dropped.symm⟩
  case inOrder =>
    rw [inv.recent]
    exact inv.inOrder.trans (List.sublist_append_left _ _)
  case distinct => exact distinct

end Conservation

/-- Whatever is emitted, drained and subscribed in between: at the end of every run, and so at
    every point of one, the events emitted are those in the buffer, drained and dropped. -/
theorem events_conserved (maxlen : Nat) (actions : List (Action E)) :
    Conserved maxlen (emittedBy actions) (Runs.shown act returnedBy (opened E maxlen) actions)
      (Runs.run act (opened E maxlen) actions) := by
  let Kept (actions : List (Action E)) (s : Emissions E) : Prop := ∃ gone lost, Inv maxlen
    (emittedBy actions) (Runs.shown act returnedBy (opened E maxlen) actions) s gone lost
  have keep : ∀ earlier s a, Kept earlier s → Runs.run act (opened E maxlen) earlier = s →
      True → Kept (earlier ++ [a]) (act s a) := by
    rintro earlier _ a ⟨gone, lost, inv⟩ rfl _
    unfold Kept
    rw [emittedBy_concat, Runs.shown_concat]
    exact inv_act inv a
  obtain ⟨gone, lost, inv⟩ := Runs.traced_invariant keep ⟨[], [], inv_opened maxlen⟩
    (Runs.eachStep_true _ actions)
  exact inv.accounted (emittedBy_nodup actions)

/-- A buffer of two: a subscriber emits again while it is called, the third event lets the first
    go, and the drain leaves the last. -/
def drainedOnce : List (Action String) :=
  [.subscribe "log", .emit "a", .emit "b", .returned 1, .settle 1, .returned 0, .emit "c",
    .drain 1]

theorem drained_once_conserved :
    let s := Runs.run act (opened String 2) drainedOnce
    Conserved 2 (emittedBy drainedOnce)
      (Runs.shown act returnedBy (opened String 2) drainedOnce) s ∧
    (emittedBy drainedOnce).map Emitted.event = ["a", "b", "c"] ∧
    Runs.shown act returnedBy (opened String 2) drainedOnce = [[⟨1, "b"⟩]] ∧
    s.emitter.snapshot = [⟨2, "c"⟩] ∧ s.emitter.dropped = 1 :=
  ⟨events_conserved 2 drainedOnce, by decide, by decide, by decide, by decide⟩

end VeronicaEmitter
