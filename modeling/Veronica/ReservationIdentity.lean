import Veronica.Library.Delimited
import Veronica.Reservations

/- Several VeronicaOS processes on one budget scope, each step entered through `run_step`. What
   the allocation keys of their steps tell apart, over every interleaving of the steps. -/
namespace VeronicaIdentity
open VeronicaTypes VeronicaLedger VeronicaRedis VeronicaPlanners VeronicaPipeline VeronicaStages
open VeronicaRuns VeronicaStep VeronicaGuarantee VeronicaSessions VeronicaReservations

/-- A step under the ids it has after `_normalize_intent`, with the counter its step id was
    filled from. -/
structure Entered where
  process : Nat
  requestId : String
  stepId : String
  filled : Option Nat
  deriving DecidableEq

/-- Two steps that need a reservation each: their pairs of ids differ, or different processes
    have filled their step ids. -/
def Distinct (d e : Entered) : Prop :=
  (d.requestId, d.stepId) ≠ (e.requestId, e.stepId) ∨
    d.process ≠ e.process ∧ d.filled.isSome ∧ e.filled.isSome

instance (d e : Entered) : Decidable (Distinct d e) := inferInstanceAs (Decidable (_ ∨ _))

/-- The request id of `e` is that of `d` with a colon and the beginning of its step id. -/
def Shifted (d e : Entered) : Prop :=
  ∃ part, e.requestId = d.requestId ++ ":" ++ part ∧ d.stepId = part ++ ":" ++ e.stepId

/-- Two processes have filled the step ids of one request from the same count. -/
def FilledAlike (d e : Entered) : Prop :=
  d.process ≠ e.process ∧ d.requestId = e.requestId ∧ ∃ n ∈ d.filled, n ∈ e.filled

def Aliased (d e : Entered) : Prop := Shifted d e ∨ FilledAlike d e

def NoAlias (entered : List Entered) : Prop := ∀ d ∈ entered, ∀ e ∈ entered, ¬ Aliased d e

/-- The processes and the ledger they share; the steps entered so far, those by process and
    ticket, and the step that last stored a record under each key. -/
structure Fleet (P S : Type) where
  ledger : Ledger
  sessions : Nat → Session P S
  entered : List Entered := []
  steps : Dict (Nat × Nat) Entered := ∅
  holders : Dict String Entered := ∅

inductive FleetAction where
  | enter (process ticket : Nat) (intent : StepIntent) (uuidHex : String)
  | issue (process ticket : Nat) (t : BeforeTimes)
  | observe (process ticket : Nat) (result : Except PyExc Unit)
      (snapshot : Except PyExc ContextSnapshot) (t : AfterTimes)
  | finish (process ticket : Nat)
  | expire (allocKey : String)

namespace Fleet
variable {P S Ctx R : Type}

def seenBy (f : Fleet P S) (process : Nat) : Session P S :=
  let s := f.sessions process
  let client := { s.os.arbiter.client with ledger := f.ledger }
  { s with os := { s.os with arbiter := { s.os.arbiter with client } } }

def allocKey (f : Fleet P S) (process : Nat) (requestId stepId : String) : String :=
  (f.sessions process).os.arbiter.client.arbiter.allocKey requestId stepId

def keyOf (f : Fleet P S) (d : Entered) : String := f.allocKey d.process d.requestId d.stepId

def recorded (f : Fleet P S) (allocKey : String) : Bool := (f.ledger.alloc.get? allocKey).isSome

/-- The step that the live record under a key belongs to. -/
def holder (f : Fleet P S) (allocKey : String) : Option Entered :=
  if f.recorded allocKey then f.holders.get? allocKey else none

def withSession (f : Fleet P S) (process : Nat) (s : Session P S) : Fleet P S :=
  { f with
    ledger := s.os.arbiter.client.ledger
    sessions := Function.update f.sessions process s }

def note (f : Fleet P S) (ticket : Nat) (d : Entered) : Fleet P S :=
  { f with entered := f.entered ++ [d], steps := f.steps.set (d.process, ticket) d }

/-- The step has stored a record under its key, where there was none. -/
def store (before after : Fleet P S) (d : Entered) : Fleet P S :=
  if ¬ before.recorded (before.keyOf d) ∧ after.recorded (before.keyOf d) then
    { after with holders := after.holders.set (before.keyOf d) d }
  else after

variable [PlannerProtocol P] [StoreProtocol S] (setups : Nat → Setup)
  (kernels : Nat → Kernel Ctx R)

def onProcess (f : Fleet P S) (process : Nat) (a : Action) : Fleet P S :=
  f.withSession process
    (VeronicaSessions.act (setups process) (kernels process) (f.seenBy process) a)

def enteredAs (f : Fleet P S) (process : Nat) (intent : StepIntent) (uuidHex : String) :
    Entered :=
  let os := (f.seenBy process).os
  let named := (normalizeIntent uuidHex os intent).2
  { process
    requestId := named.requestId
    stepId := named.stepId
    filled := if intent.stepId = "" then some os.stepCounter else none }

def act (f : Fleet P S) : FleetAction → Fleet P S
  | .enter process ticket intent uuidHex =>
    let after := f.onProcess setups kernels process (.enter ticket intent (some uuidHex))
    match (f.sessions process).steps.get? ticket with
    | some _ => after
    | none => after.note ticket (f.enteredAs process intent uuidHex)
  | .issue process ticket t =>
    let after := f.onProcess setups kernels process (.issue ticket t)
    match f.steps.get? (process, ticket) with
    | some d => f.store after d
    | none => after
  | .observe process ticket result snapshot t =>
    f.onProcess setups kernels process (.observe ticket result snapshot t)
  | .finish process ticket => f.onProcess setups kernels process (.finish ticket)
  | .expire allocKey => { f with ledger := VeronicaLedger.expire f.ledger allocKey }

end Fleet

/-- Processes of their own budgets, planners and stores that start on one unwritten scope. -/
def started {P S : Type} (scope : String) (totals : Nat → ℚ) (planners : Nat → P)
    (stores : Nat → S) : Fleet P S where
  ledger := unwritten
  sessions p := opening (planners p) (redisArbiter scope (totals p)) (stores p)

section Property
variable {P S : Type}

/-- The key a step reserves or settles under, for a step that does it next. -/
def usedKey (f : Fleet P S) : FleetAction → Option ((Nat × Nat) × String)
  | .issue process ticket _ => ((f.sessions process).readingAt ticket).map fun step =>
    ((process, ticket), f.allocKey process step.intent.requestId step.intent.stepId)
  | .finish process ticket => ((f.sessions process).finishingAt ticket).map fun step =>
    ((process, ticket),
      f.allocKey process step.handle.intent.requestId step.handle.intent.stepId)
  | _ => none

def KeysApart (f : Fleet P S) : Prop :=
  ∀ d ∈ f.entered, ∀ e ∈ f.entered, Distinct d e → f.keyOf d ≠ f.keyOf e

/-- A step that reserves or settles finds no record that a step distinct from it has stored. -/
def MeetsOwn (f : Fleet P S) (a : FleetAction) : Prop :=
  ∀ used ∈ usedKey f a, ∀ d ∈ f.steps.get? used.1, ∀ e ∈ f.holder used.2, ¬ Distinct d e

end Property

section Keys
variable {d e : Entered}

theorem repr_injective {m n : Nat} (same : toString m = toString n) : m = n := by
  have digits : Nat.toDigits 10 m = Nat.toDigits 10 n := by
    rw [← Nat.toList_repr, ← Nat.toList_repr]
    exact congrArg String.toList same
  have back (k : Nat) := @Nat.ofDigitChars_toDigits 10 k (by decide) (by decide)
  rw [← back m, digits, back]

theorem shifted_iff : Shifted d e ↔ Delimited.Shifted ':' d.requestId.toList d.stepId.toList
    e.requestId.toList e.stepId.toList := by
  have text (a b : String) : (a ++ ":" ++ b).toList = a.toList ++ ':' :: b.toList := by
    simp [String.toList_append]
  constructor
  · rintro ⟨part, request, step⟩
    exact ⟨part.toList, by rw [request, text], by rw [step, text]⟩
  · rintro ⟨part, request, step⟩
    refine ⟨String.ofList part, String.toList_inj.mp ?_, String.toList_inj.mp ?_⟩
    · rw [request, text, String.toList_ofList]
    · rw [step, text, String.toList_ofList]

/-- Two steps have one key exactly when their ids are the same, or a colon is read once as the
    separator and once as part of an id. -/
theorem allocKey_eq_iff {first second : RedisArbiter} (sameScope : first.scope = second.scope) :
    first.allocKey d.requestId d.stepId = second.allocKey e.requestId e.stepId ↔
      (d.requestId, d.stepId) = (e.requestId, e.stepId) ∨ Shifted d e ∨ Shifted e d := by
  have text (arbiter : RedisArbiter) (a b : String) : (arbiter.allocKey a b).toList =
      ("veronica:" ++ arbiter.scope ++ ":alloc:").toList ++ (a.toList ++ ':' :: b.toList) := by
    simp [RedisArbiter.allocKey, String.toList_append]
  rw [← String.toList_inj, text, text, sameScope, List.append_cancel_left_eq,
    Delimited.append_sep_eq_iff, shifted_iff, shifted_iff, Prod.mk.injEq, String.toList_inj,
    String.toList_inj]

theorem shifted_distinct (shifted : Shifted d e) : Distinct d e := by
  left
  intro same
  obtain ⟨part, request, _⟩ := shifted
  have length := congrArg String.length ((Prod.mk.inj same).1.trans request)
  simp only [String.length_append] at length
  have colon : (":" : String).length = 1 := rfl
  omega

def Numbered (d : Entered) : Prop := ∀ n ∈ d.filled, d.stepId = "step-" ++ toString n

theorem keys_apart_iff {first second : RedisArbiter} (sameScope : first.scope = second.scope)
    (numbered : Numbered d ∧ Numbered e) :
    (Distinct d e → first.allocKey d.requestId d.stepId ≠
      second.allocKey e.requestId e.stepId) ↔ ¬ Aliased d e ∧ ¬ Shifted e d := by
  rw [Ne, allocKey_eq_iff sameScope]
  constructor
  · intro apart
    refine ⟨?_, ?_⟩
    · rintro (shifted | ⟨elsewhere, request, n, ofFirst, ofSecond⟩)
      · exact apart (shifted_distinct shifted) (Or.inr (Or.inl shifted))
      · have step : d.stepId = e.stepId :=
          (numbered.1 n ofFirst).trans (numbered.2 n ofSecond).symm
        refine apart (Or.inr ⟨elsewhere, ?_, ?_⟩) (Or.inl (Prod.ext request step))
        · exact Option.isSome_of_mem ofFirst
        · exact Option.isSome_of_mem ofSecond
    · intro shifted
      have distinct : Distinct d e := by
        refine (shifted_distinct shifted).imp Ne.symm ?_
        exact fun ⟨elsewhere, second, first⟩ => ⟨elsewhere.symm, first, second⟩
      exact apart distinct (Or.inr (Or.inr shifted))
  · rintro ⟨unaliased, unshifted⟩ distinct (same | shifted | shifted)
    · obtain ⟨elsewhere, first, second⟩ := distinct.resolve_left (not_not.mpr same)
      obtain ⟨n, ofFirst⟩ := Option.isSome_iff_exists.mp first
      obtain ⟨m, ofSecond⟩ := Option.isSome_iff_exists.mp second
      have text : "step-" ++ toString n = "step-" ++ toString m := by
        rw [← numbered.1 n ofFirst, ← numbered.2 m ofSecond, (Prod.mk.inj same).2]
      obtain rfl := repr_injective ((String.append_right_inj _).mp text)
      exact unaliased (Or.inr ⟨elsewhere, (Prod.mk.inj same).1, n, ofFirst, ofSecond⟩)
    · exact unaliased (Or.inl shifted)
    · exact unshifted shifted

end Keys

section Continuing
variable {P S : Type} {s : Session P S} {ticket : Nat}

def intentOf : EnteredStep P S → StepIntent
  | .reading step => step.intent
  | .running step => step.handle.intent
  | .finishing step => step.handle.intent

/-- The same connection, and no step that was not there, or under other ids. -/
structure Continues (s s' : Session P S) : Prop where
  arbiter : s'.os.arbiter.client.arbiter = s.os.arbiter.client.arbiter
  reachable : s'.os.arbiter.client.reachable = s.os.arbiter.client.reachable
  steps : ∀ ticket step', s'.steps.get? ticket = some step' →
    ∃ step, s.steps.get? ticket = some step ∧ intentOf step' = intentOf step

theorem continues_refl (s : Session P S) : Continues s s :=
  ⟨rfl, rfl, fun _ step' found => ⟨step', found, rfl⟩⟩

theorem continues_leave {os : VeronicaOS P Watched S} {step : LeftStep}
    (arbiter : os.arbiter.client.arbiter = s.os.arbiter.client.arbiter)
    (reachable : os.arbiter.client.reachable = s.os.arbiter.client.reachable) :
    Continues s (({ s with os } : Session P S).leave ticket step) := by
  refine ⟨arbiter, reachable, ?_⟩
  intro other step' found
  exact ⟨step', (Dict.get?_of_erase found).2, rfl⟩

theorem continues_set {os : VeronicaOS P Watched S} {step step' : EnteredStep P S}
    (arbiter : os.arbiter.client.arbiter = s.os.arbiter.client.arbiter)
    (reachable : os.arbiter.client.reachable = s.os.arbiter.client.reachable)
    (found : s.steps.get? ticket = some step) (same : intentOf step' = intentOf step) :
    Continues s { s with os, steps := s.steps.set ticket step' } := by
  refine ⟨arbiter, reachable, ?_⟩
  intro other later present
  simp only [Dict.get?_set] at present
  split at present
  · rename_i here
    cases present
    subst here
    exact ⟨step, found, same⟩
  · exact ⟨later, present, rfl⟩

theorem steps_of_readingAt {step : ReadingStep P S} (found : s.readingAt ticket = some step) :
    s.steps.get? ticket = some (.reading step) := by
  unfold Session.readingAt at found
  split at found
  · rename_i same
    cases found
    exact same
  · cases found

theorem observe_continues (s : Session P S) (ticket : Nat) (result : Except PyExc Unit)
    (snapshot : Except PyExc ContextSnapshot) (t : AfterTimes) :
    Continues s (s.observe ticket result snapshot t) ∧
      (s.observe ticket result snapshot t).os = s.os := by
  cases found : s.runningAt ticket with
  | none =>
    have idle : s.observe ticket result snapshot t = s := by
      simp only [Session.observe, found]
    rw [idle]
    exact ⟨continues_refl s, rfl⟩
  | some step =>
    rcases observe_cases found result snapshot t with ⟨_, _, eq⟩ | ⟨_, _, eq⟩
    · rw [eq]
      exact ⟨continues_leave rfl rfl, rfl⟩
    · rw [eq]
      exact ⟨continues_set rfl rfl (steps_of_runningAt found) rfl, rfl⟩

end Continuing

section Sessions
variable {P S Ctx R : Type} [StoreProtocol S] (setup : Setup)

theorem beforeStepAt_watched [PlannerProtocol P] (early late : VeronicaOS P Watched S)
    (intent : StepIntent) (t : BeforeTimes) (answering : late.arbiter.client.reachable = true) :
    (VeronicaOS.beforeStepAt setup early late intent t).1.arbiter = late.arbiter ∨
      ∃ desire, (VeronicaOS.beforeStepAt setup early late intent t).1.arbiter =
        reservedBy late.arbiter desire intent t.now := by
  unfold VeronicaOS.beforeStepAt
  split
  · exact Or.inl rfl
  · split
    · exact Or.inl rfl
    · exact Or.inr ⟨_, arbitrateStage_watched answering _⟩

theorem afterStepAt_watched (early late : VeronicaOS P Watched S) (handle : StepHandle)
    (snapshot : ContextSnapshot) (t : AfterTimes) :
    (VeronicaOS.afterStepAt setup early late handle snapshot t).1.arbiter = late.arbiter ∨
      ∃ cost, (VeronicaOS.afterStepAt setup early late handle snapshot t).1.arbiter =
        ArbiterProtocol.settle late.arbiter handle.intent.requestId handle.intent.stepId cost := by
  unfold VeronicaOS.afterStepAt
  split
  · exact Or.inl rfl
  · split
    · exact Or.inl rfl
    · unfold VeronicaOS.commitStep
      dsimp only
      split
      · exact Or.inl rfl
      · exact Or.inr ⟨_, rfl⟩

/-- An issue that reaches the arbiter leaves its record under the ids of its own step, and no
    other new one. -/
theorem issue_continues [PlannerProtocol P] (kernel : Kernel Ctx R) (s : Session P S)
    (ticket : Nat) (t : BeforeTimes) (answering : s.os.arbiter.client.reachable = true) :
    Continues s (s.issue setup kernel ticket t) ∧
    ((s.issue setup kernel ticket t).os.arbiter = s.os.arbiter ∨
      ∃ step desire, s.readingAt ticket = some step ∧
        (s.issue setup kernel ticket t).os.arbiter =
          reservedBy s.os.arbiter desire step.intent t.now) := by
  cases found : s.readingAt ticket with
  | none =>
    have idle : s.issue setup kernel ticket t = s := by simp only [Session.issue, found]
    rw [idle]
    exact ⟨continues_refl s, Or.inl rfl⟩
  | some step =>
    have reserved := beforeStepAt_watched setup step.early s.os step.intent t answering
    have moved : (VeronicaOS.beforeStepAt setup step.early s.os step.intent
          t).1.arbiter.client.arbiter = s.os.arbiter.client.arbiter ∧
        (VeronicaOS.beforeStepAt setup step.early s.os step.intent
          t).1.arbiter.client.reachable = s.os.arbiter.client.reachable := by
      rcases reserved with same | ⟨desire, same⟩
      · rw [same]
        exact ⟨rfl, rfl⟩
      · rw [same]
        exact ⟨rfl, rfl⟩
    have client : (s.issue setup kernel ticket t).os.arbiter =
        (VeronicaOS.beforeStepAt setup step.early s.os step.intent t).1.arbiter := by
      rcases issue_cases setup kernel found t with ⟨_, _, eq⟩ | ⟨_, _, _, _, eq⟩ | ⟨_, _, _, _, eq⟩
      · rw [eq, Session.leave]
      · rw [eq, Session.leave]
      · rw [eq]
    refine ⟨?_, ?_⟩
    · rcases issue_cases setup kernel found t with
        ⟨_, _, eq⟩ | ⟨_, _, _, _, eq⟩ | ⟨handle, _, returned, _, eq⟩
      · rw [eq]
        exact continues_leave moved.1 moved.2
      · rw [eq]
        exact continues_leave moved.1 moved.2
      · rw [eq]
        exact continues_set moved.1 moved.2 (steps_of_readingAt found)
          (beforeStepAt_intent returned)
    · rw [client]
      refine reserved.imp_right ?_
      rintro ⟨desire, same⟩
      exact ⟨step, desire, rfl, same⟩

theorem finish_continues (s : Session P S) (ticket : Nat) :
    Continues s (s.finish setup ticket) ∧
    ((s.finish setup ticket).os.arbiter = s.os.arbiter ∨
      ∃ requestId stepId cost, (s.finish setup ticket).os.arbiter =
        ArbiterProtocol.settle s.os.arbiter requestId stepId cost) := by
  cases found : s.finishingAt ticket with
  | none =>
    have idle : s.finish setup ticket = s := by simp only [Session.finish, found]
    rw [idle]
    exact ⟨continues_refl s, Or.inl rfl⟩
  | some step =>
    obtain ⟨result, eq⟩ := finish_eq setup found
    have settled := afterStepAt_watched setup step.early s.os step.handle
      step.snapshot step.times
    have moved : (VeronicaOS.afterStepAt setup step.early s.os step.handle step.snapshot
          step.times).1.arbiter.client.arbiter = s.os.arbiter.client.arbiter ∧
        (VeronicaOS.afterStepAt setup step.early s.os step.handle step.snapshot
          step.times).1.arbiter.client.reachable = s.os.arbiter.client.reachable := by
      rcases settled with same | ⟨cost, same⟩
      · rw [same]
        exact ⟨rfl, rfl⟩
      · rw [same]
        simp only [ArbiterProtocol.settle, RedisClient.settle]
        split <;> exact ⟨rfl, rfl⟩
    rw [eq]
    refine ⟨continues_leave moved.1 moved.2, ?_⟩
    refine settled.imp_right ?_
    rintro ⟨cost, same⟩
    exact ⟨_, _, cost, same⟩

end Sessions

section Tracing
variable {P S : Type} {scope : String} {f : Fleet P S}

/-- The processes reach one scope; every step they are at is known under its ids, and every live
    record is that of a step with its key. -/
structure Traced (scope : String) (f : Fleet P S) : Prop where
  scope : ∀ p, (f.sessions p).os.arbiter.client.arbiter.scope = scope
  reachable : ∀ p, (f.sessions p).os.arbiter.client.reachable = true
  numbered : ∀ d ∈ f.entered, Numbered d
  known : ∀ place d, f.steps.get? place = some d → d ∈ f.entered ∧ d.process = place.1
  named : ∀ p ticket step, (f.sessions p).steps.get? ticket = some step →
    ∃ d, f.steps.get? (p, ticket) = some d ∧ d.requestId = (intentOf step).requestId ∧
      d.stepId = (intentOf step).stepId
  held : ∀ key, f.recorded key → ∃ e, f.holders.get? key = some e ∧ e ∈ f.entered ∧
    f.keyOf e = key

theorem Traced.keysApart_iff (traced : Traced scope f) : KeysApart f ↔ NoAlias f.entered := by
  have pair : ∀ d ∈ f.entered, ∀ e ∈ f.entered,
      ((Distinct d e → f.keyOf d ≠ f.keyOf e) ↔ ¬ Aliased d e ∧ ¬ Shifted e d) := by
    intro d first e second
    refine keys_apart_iff ?_ ⟨traced.numbered d first, traced.numbered e second⟩
    rw [traced.scope, traced.scope]
  constructor
  · intro apart d first e second
    exact ((pair d first e second).mp (apart d first e second)).1
  · intro unaliased d first e second
    refine (pair d first e second).mpr ⟨unaliased d first e second, ?_⟩
    exact fun shifted => unaliased e second d first (Or.inl shifted)

theorem Traced.key (traced : Traced scope f) {p ticket : Nat} {step : EnteredStep P S}
    {d : Entered} (found : (f.sessions p).steps.get? ticket = some step)
    (known : f.steps.get? (p, ticket) = some d) :
    f.keyOf d = f.allocKey p (intentOf step).requestId (intentOf step).stepId := by
  obtain ⟨same, noted, request, id⟩ := traced.named p ticket step found
  rw [known] at noted
  cases noted
  rw [Fleet.keyOf, (traced.known _ _ known).2, request, id]

/-- While the keys are apart, whoever uses a key finds there what the key's own steps left. -/
theorem Traced.meetsOwn (traced : Traced scope f) (apart : KeysApart f) (a : FleetAction) :
    MeetsOwn f a := by
  have meets : ∀ p ticket step, (f.sessions p).steps.get? ticket = some step →
      ∀ d ∈ f.steps.get? (p, ticket),
        ∀ e ∈ f.holder (f.allocKey p (intentOf step).requestId (intentOf step).stepId),
          ¬ Distinct d e := by
    intro p ticket step found d known e holds distinct
    have key := traced.key found known
    rw [Fleet.holder] at holds
    split at holds
    · rename_i recorded
      obtain ⟨owner, stored, member, same⟩ := traced.held _ recorded
      rw [stored] at holds
      cases holds
      exact apart d (traced.known _ _ known).1 e member distinct (key.trans same.symm)
    · cases holds
  intro used uses
  cases a with
  | issue p ticket t =>
    obtain ⟨step, reading, rfl⟩ := Option.mem_map.mp uses
    exact meets p ticket (.reading step) (steps_of_readingAt reading)
  | finish p ticket =>
    obtain ⟨step, finishing, rfl⟩ := Option.mem_map.mp uses
    exact meets p ticket (.finishing step) (steps_of_finishingAt finishing)
  | enter => cases uses
  | observe => cases uses
  | expire => cases uses

theorem forall_update {I : Session P S → Prop} {p : Nat} {s' : Session P S} (here : I s')
    (all : ∀ q, I (f.sessions q)) (q : Nat) : I (Function.update f.sessions p s' q) := by
  by_cases same : q = p
  · rw [same, Function.update_self]
    exact here
  · rw [Function.update_of_ne same]
    exact all q

theorem allocKey_withSession {p : Nat} {s' : Session P S}
    (arbiter : s'.os.arbiter.client.arbiter = (f.sessions p).os.arbiter.client.arbiter) :
    (f.withSession p s').allocKey = f.allocKey := by
  funext q requestId stepId
  simp only [Fleet.allocKey, Fleet.withSession]
  by_cases same : q = p
  · rw [same, Function.update_self, arbiter]
  · rw [Function.update_of_ne same]

theorem Traced.continue (traced : Traced scope f) {p : Nat} {s' : Session P S}
    {holders : Dict String Entered} (continues : Continues (f.seenBy p) s')
    (held : ∀ key, (s'.os.arbiter.client.ledger.alloc.get? key).isSome →
      ∃ e, holders.get? key = some e ∧ e ∈ f.entered ∧ f.keyOf e = key) :
    Traced scope { f.withSession p s' with holders } := by
  have arbiter : s'.os.arbiter.client.arbiter = (f.sessions p).os.arbiter.client.arbiter :=
    continues.arbiter
  have keys := allocKey_withSession arbiter
  constructor
  case scope =>
    have same : s'.os.arbiter.client.arbiter.scope = scope := by
      rw [continues.arbiter]
      exact traced.scope p
    exact forall_update (I := fun s => s.os.arbiter.client.arbiter.scope = scope) same
      traced.scope
  case reachable =>
    have same : s'.os.arbiter.client.reachable = true := by
      rw [continues.reachable]
      exact traced.reachable p
    exact forall_update (I := fun s => s.os.arbiter.client.reachable = true) same
      traced.reachable
  case numbered => exact traced.numbered
  case known => exact traced.known
  case named =>
    intro q ticket step found
    have found : (Function.update f.sessions p s' q).steps.get? ticket = some step := found
    by_cases here : q = p
    · subst here
      rw [Function.update_self] at found
      obtain ⟨before, there, same⟩ := continues.steps ticket step found
      obtain ⟨d, known, ids⟩ := traced.named q ticket before there
      rw [← same] at ids
      exact ⟨d, known, ids⟩
    · rw [Function.update_of_ne here] at found
      exact traced.named q ticket step found
  case held =>
    intro key recorded
    obtain ⟨e, stored, member, same⟩ := held key recorded
    refine ⟨e, stored, member, ?_⟩
    exact (congrFun (congrFun (congrFun keys _) _) _).trans same

theorem normalizeIntent_filled (uuidHex : String) (os : VeronicaOS P Watched S)
    (intent : StepIntent) (empty : intent.stepId = "") :
    (normalizeIntent uuidHex os intent).2.stepId = "step-" ++ toString os.stepCounter := by
  simp only [normalizeIntent, empty, if_true]

/-- A step that is entered is noted under the ids its session has it under. -/
theorem Traced.noted (traced : Traced scope f) {p ticket : Nat} {s' : Session P S} {d : Entered}
    {step : ReadingStep P S} (process : d.process = p) (numbered : Numbered d)
    (ids : d.requestId = step.intent.requestId ∧ d.stepId = step.intent.stepId)
    (client : s'.os.arbiter.client = (f.seenBy p).os.arbiter.client)
    (steps : s'.steps = (f.sessions p).steps.set ticket (.reading step)) :
    Traced scope ((f.withSession p s').note ticket d) := by
  have arbiter : s'.os.arbiter.client.arbiter = (f.sessions p).os.arbiter.client.arbiter := by
    rw [client]
    rfl
  have keys := allocKey_withSession arbiter
  constructor
  case scope =>
    refine forall_update (I := fun s => s.os.arbiter.client.arbiter.scope = scope) ?_ traced.scope
    rw [client]
    exact traced.scope p
  case reachable =>
    refine forall_update (I := fun s => s.os.arbiter.client.reachable = true) ?_ traced.reachable
    rw [client]
    exact traced.reachable p
  case numbered =>
    exact List.forall_mem_append.mpr ⟨traced.numbered, List.forall_mem_singleton.mpr numbered⟩
  case known =>
    intro place other found
    simp only [Fleet.note, Fleet.withSession, Dict.get?_set] at found
    split at found
    · rename_i here
      cases found
      refine ⟨List.mem_append_right _ (List.mem_singleton.mpr rfl), ?_⟩
      rw [here]
    · obtain ⟨member, same⟩ := traced.known place other found
      exact ⟨List.mem_append_left _ member, same⟩
  case named =>
    intro q other later found
    have found : (Function.update f.sessions p s' q).steps.get? other = some later := found
    simp only [Fleet.note, Fleet.withSession, Dict.get?_set, process]
    by_cases here : q = p
    · subst here
      rw [Function.update_self, steps, Dict.get?_set] at found
      split at found
      · rename_i same
        cases found
        subst same
        exact ⟨d, if_pos rfl, ids⟩
      · rename_i elsewhere
        rw [if_neg (fun same => elsewhere (Prod.mk.inj same).2)]
        exact traced.named q other later found
    · rw [Function.update_of_ne here] at found
      rw [if_neg (fun same => here (Prod.mk.inj same).1)]
      exact traced.named q other later found
  case held =>
    intro key recorded
    have recorded : (s'.os.arbiter.client.ledger.alloc.get? key).isSome := recorded
    rw [client] at recorded
    obtain ⟨e, stored, member, same⟩ := traced.held key recorded
    refine ⟨e, stored, List.mem_append_left _ member, ?_⟩
    exact (congrFun (congrFun (congrFun keys _) _) _).trans same

theorem reserve_records {arbiter : RedisArbiter} {ledger : Ledger} {desire : DesiredPolicy}
    {requestId stepId key : String} {now : ℚ}
    (recorded : ((arbiter.reserve ledger desire requestId stepId now).1.alloc.get? key).isSome) :
    (ledger.alloc.get? key).isSome ∨ key = arbiter.allocKey requestId stepId := by
  unfold RedisArbiter.reserve at recorded
  rcases reserve_cases ledger (arbiter.allocKey requestId stepId)
      (RedisArbiter.allocRecord desire now) arbiter.totalBudgetMicro with
    ⟨_, _, eq⟩ | ⟨_, _, eq⟩ | ⟨_, _, eq⟩
  · rw [eq] at recorded
    exact Or.inl recorded
  · rw [eq] at recorded
    exact Or.inl recorded
  · rw [eq, Dict.get?_set] at recorded
    split at recorded
    · rename_i same
      exact Or.inr same
    · exact Or.inl recorded

theorem Traced.stored (traced : Traced scope f) {p ticket : Nat} {s' : Session P S} {d : Entered}
    (known : f.steps.get? (p, ticket) = some d) (continues : Continues (f.seenBy p) s')
    (records : ∀ key, (s'.os.arbiter.client.ledger.alloc.get? key).isSome →
      f.recorded key ∨ key = f.keyOf d) :
    Traced scope (f.store (f.withSession p s') d) := by
  unfold Fleet.store
  split
  · refine traced.continue continues ?_
    intro key recorded
    simp only [Fleet.withSession, Dict.get?_set]
    by_cases own : key = f.keyOf d
    · rw [if_pos own]
      exact ⟨d, rfl, (traced.known _ _ known).1, own.symm⟩
    · rw [if_neg own]
      exact traced.held key ((records key recorded).resolve_right own)
  · rename_i unstored
    refine traced.continue continues ?_
    intro key recorded
    rcases records key recorded with before | own
    · exact traced.held key before
    · subst own
      refine traced.held _ ?_
      by_contra absent
      exact unstored ⟨absent, recorded⟩

theorem started_traced (scope : String) (totals : Nat → ℚ) (planners : Nat → P)
    (stores : Nat → S) : Traced scope (started scope totals planners stores) := by
  constructor
  case scope => exact fun _ => rfl
  case reachable => exact fun _ => rfl
  case numbered =>
    intro d member
    cases member
  case known =>
    intro place d found
    cases found
  case named =>
    intro p ticket step found
    cases found
  case held =>
    intro key recorded
    cases recorded

end Tracing

section Runs
variable {P S Ctx R : Type} [PlannerProtocol P] [StoreProtocol S] {setups : Nat → Setup}
  {kernels : Nat → Kernel Ctx R} {scope : String} {f : Fleet P S}

theorem Traced.enter (traced : Traced scope f) (p ticket : Nat) (intent : StepIntent)
    (uuidHex : String) :
    Traced scope (f.act setups kernels (.enter p ticket intent uuidHex)) := by
  simp only [Fleet.act, Fleet.onProcess, VeronicaSessions.act]
  cases present : (f.sessions p).steps.get? ticket with
  | some step =>
    have idle : (f.seenBy p).enter ticket intent (some uuidHex) = f.seenBy p := by
      have present : (f.seenBy p).steps.get? ticket = some step := present
      simp only [Session.enter, present]
    rw [idle]
    exact traced.continue (continues_refl _) traced.held
  | none =>
    have absent : (f.seenBy p).steps.get? ticket = none := present
    have client := congrArg Watched.client
      (normalizeIntent_arbiter uuidHex (f.seenBy p).os intent)
    have numbered : Numbered (f.enteredAs p intent uuidHex) := by
      intro n filled
      simp only [Fleet.enteredAs] at filled ⊢
      split at filled
      · rename_i empty
        cases filled
        exact normalizeIntent_filled uuidHex _ intent empty
      · cases filled
    simp only [Session.enter, absent]
    exact traced.noted rfl numbered ⟨rfl, rfl⟩ client rfl

theorem Traced.issue (traced : Traced scope f) (p ticket : Nat) (t : BeforeTimes) :
    Traced scope (f.act setups kernels (.issue p ticket t)) := by
  obtain ⟨continues, arbiter⟩ := issue_continues (setups p) (kernels p) (f.seenBy p) ticket t
    (traced.reachable p)
  have records : ∀ key, (((f.seenBy p).issue (setups p) (kernels p) ticket
      t).os.arbiter.client.ledger.alloc.get? key).isSome →
      f.recorded key ∨ ∃ step, (f.seenBy p).readingAt ticket = some step ∧
        key = f.allocKey p step.intent.requestId step.intent.stepId := by
    intro key recorded
    rcases arbiter with same | ⟨step, desire, reading, same⟩
    · rw [same] at recorded
      exact Or.inl recorded
    · rw [same] at recorded
      exact (reserve_records recorded).imp_right fun own => ⟨step, reading, own⟩
  simp only [Fleet.act, Fleet.onProcess, VeronicaSessions.act]
  cases known : f.steps.get? (p, ticket) with
  | some d =>
    refine traced.stored known continues ?_
    intro key recorded
    refine (records key recorded).imp_right ?_
    rintro ⟨step, reading, own⟩
    exact own.trans (traced.key (steps_of_readingAt reading) known).symm
  | none =>
    refine traced.continue continues ?_
    intro key recorded
    rcases records key recorded with before | ⟨step, reading, _⟩
    · exact traced.held key before
    · obtain ⟨d, noted, _⟩ := traced.named p ticket _ (steps_of_readingAt reading)
      rw [known] at noted
      cases noted

theorem Traced.act (traced : Traced scope f) (a : FleetAction) :
    Traced scope (f.act setups kernels a) := by
  cases a with
  | enter p ticket intent uuidHex => exact traced.enter p ticket intent uuidHex
  | issue p ticket t => exact traced.issue p ticket t
  | observe p ticket result snapshot t =>
    obtain ⟨continues, same⟩ :=
      observe_continues (f.seenBy p) ticket result snapshot t
    refine traced.continue continues ?_
    intro key recorded
    simp only [VeronicaSessions.act, same] at recorded
    exact traced.held key recorded
  | finish p ticket =>
    obtain ⟨continues, arbiter⟩ :=
      finish_continues (setups p) (f.seenBy p) ticket
    refine traced.continue continues ?_
    intro key recorded
    simp only [VeronicaSessions.act] at recorded
    rcases arbiter with same | ⟨requestId, stepId, cost, same⟩
    · rw [same] at recorded
      exact traced.held key recorded
    · rw [same] at recorded
      have answering : (f.seenBy p).os.arbiter.client.reachable = true := traced.reachable p
      simp only [ArbiterProtocol.settle, RedisClient.settle, answering, if_true,
        RedisArbiter.settle, settle_alloc, Dict.get?_erase] at recorded
      split at recorded
      · cases recorded
      · exact traced.held key recorded
  | expire allocKey =>
    refine ⟨traced.scope, traced.reachable, traced.numbered, traced.known, traced.named, ?_⟩
    intro key recorded
    simp only [Fleet.act, Fleet.recorded, VeronicaLedger.expire, Dict.get?_erase] at recorded
    split at recorded
    · cases recorded
    · exact traced.held key recorded

theorem entered_grows {d : Entered} {actions : List FleetAction} (member : d ∈ f.entered) :
    d ∈ (Runs.run (Fleet.act setups kernels) f actions).entered := by
  suffices keep : ∀ (f : Fleet P S) a, d ∈ f.entered → True →
      d ∈ (f.act setups kernels a).entered from
    Runs.run_invariant keep member (Runs.eachStep_true f actions)
  intro f a member _
  cases a with
  | enter p ticket intent uuidHex =>
    simp only [Fleet.act]
    split
    · exact member
    · exact List.mem_append_left _ member
  | issue p ticket t =>
    simp only [Fleet.act]
    split
    · unfold Fleet.store
      split <;> exact member
    · exact member
  | observe => exact member
  | finish => exact member
  | expire => exact member

end Runs

section Identity
variable {P S Ctx R : Type} [PlannerProtocol P] [StoreProtocol S]

/-- For every fleet and every interleaving: the keys of distinct steps differ, and no step finds
    the record of a step distinct from it, exactly when no two steps are aliased. -/
theorem reservations_own_iff (scope : String) (totals : Nat → ℚ) (planners : Nat → P)
    (stores : Nat → S) (setups : Nat → Setup) (kernels : Nat → Kernel Ctx R)
    (actions : List FleetAction) :
    let step := Fleet.act setups kernels
    let start := started scope totals planners stores
    KeysApart (Runs.run step start actions) ∧ Runs.EachStep step MeetsOwn start actions ↔
      NoAlias (Runs.run step start actions).entered := by
  intro step start
  have traced : ∀ actions, Traced scope (Runs.run step start actions) := fun actions =>
    Runs.run_invariant (fun _ a traced _ => traced.act a)
      (started_traced scope totals planners stores) (Runs.eachStep_true start actions)
  refine ⟨fun own => (traced actions).keysApart_iff.mp own.1, ?_⟩
  intro unaliased
  refine ⟨(traced actions).keysApart_iff.mpr unaliased, ?_⟩
  rw [Runs.eachStep_iff_splits]
  intro first a rest split
  refine (traced first).meetsOwn ((traced first).keysApart_iff.mpr ?_) a
  intro d earlier e later
  refine unaliased d ?_ e ?_
  · rw [split, Runs.run_append]
    exact entered_grows earlier
  · rw [split, Runs.run_append]
    exact entered_grows later

end Identity

instance {P S : Type} (f : Fleet P S) (a : FleetAction) : Decidable (MeetsOwn f a) :=
  inferInstanceAs (Decidable (∀ used ∈ usedKey f a, ∀ d ∈ f.steps.get? used.1,
    ∀ e ∈ f.holder used.2, ¬ Distinct d e))

instance {P S : Type} (f : Fleet P S) : Decidable (KeysApart f) :=
  inferInstanceAs (Decidable (∀ d ∈ f.entered, ∀ e ∈ f.entered, Distinct d e →
    f.keyOf d ≠ f.keyOf e))

/-- Two processes that serve one request both fill in `step-1`: the second one is issued its
    ceiling on the record of the first. -/
theorem filled_ids_collide :
    let step := Fleet.act (fun _ => defaultSetup 10 none) (fun _ => plainKernel Unit)
    let start : Fleet SimplePlanner MemoryStore :=
      started "default" (fun _ => 10) (fun _ => {}) (fun _ => {})
    let actions : List FleetAction :=
      [.enter 0 0 (llmIntent "") "a", .enter 1 0 (llmIntent "") "b", .issue 0 0 inTime,
        .issue 1 0 inTime]
    ¬ KeysApart (Runs.run step start actions) ∧ ¬ Runs.EachStep step MeetsOwn start actions := by
  decide +kernel

example : (redisArbiter "default" 10).allocKey "a:b" "c" =
    (redisArbiter "default" 10).allocKey "a" "b:c" := by decide

end VeronicaIdentity
