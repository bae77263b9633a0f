import Veronica.FileStore
import Veronica.PipelineRuns

/- The budget figures on their way from `after_step` to a FileStore. They are captured under the
   lock of VeronicaOS, wait in a slot of the store, and are consumed by whichever commit comes
   next. Concurrent `after_step` calls interleave at these three points. -/
namespace VeronicaBudgetContext
open VeronicaTypes VeronicaPipeline VeronicaStages VeronicaFileStore VeronicaRuns

def historyLimit : Int := 50

/-- An `after_step` call that has left the locked section. -/
structure AfterStep where
  outcome : FileOutcome
  ceilingUsd : ℚ
  remainingUsd : ℚ
  contextSet : Bool := false

/-- `captured` records every ratio that was captured, with the chain it was captured for. -/
structure Session (P A : Type) where
  os : VeronicaOS P A FileStore
  calls : Dict Nat AfterStep := ∅
  captured : List (String × ℚ) := []

/-- What the disk does to a commit. A write can fail before or after the line is in the file. -/
inductive Disk where
  | works
  | rotationFails
  | writeFails (e : PyExc) (written : Bool)

inductive Action where
  | capture (ticket : Nat) (outcome : FileOutcome) (analysis : AnalysisResult)
  | setContext (ticket : Nat)
  | commit (ticket : Nat) (disk : Disk)

/-- A file that could not be rotated stays, and the commits since the last rotation are counted
    on. -/
def acceptUnrotated (fs : FileStore) (o : FileOutcome) : FileStore :=
  let counted := (fs.statsOf o.chainId).commitsSinceRotate + 1
  { ({ fs with maxLines := counted + 1 } : FileStore).accept o with maxLines := fs.maxLines }

def commitOn (fs : FileStore) (o : FileOutcome) : Disk → FileStore × Except PyExc Unit
  | .works => fs.commit o
  | .rotationFails =>
    match fs.refusal o.chainId with
    | some e => (fs, .error e)
    | none => (if fs.Rotates o.chainId then acceptUnrotated fs o else fs.accept o, .ok ())
  | .writeFails e written =>
    match fs.refusal o.chainId with
    | some refused => (fs, .error refused)
    | none =>
      let files := FileStore.append fs.files (activePath o.chainId) o
      (if written then { fs with files } else fs, .error e)

section Sessions
variable {P A : Type}

/-- The locked section, which a call with an unreadable history does not reach. -/
def capture (setup : Setup) (s : Session P A) (ticket : Nat) (outcome : FileOutcome)
    (analysis : AnalysisResult) : Session P A :=
  match s.calls.get? ticket, s.os.store.buildHistory outcome.chainId historyLimit with
  | none, .ok _ =>
    let os := s.os.account setup outcome.toStepOutcome analysis
    let call : AfterStep := {
      outcome
      ceilingUsd := setup.requestBudgetUsd
      remainingUsd := os.remaining setup }
    { os
      calls := s.calls.set ticket call
      captured := s.captured ++ [(outcome.chainId, call.remainingUsd / call.ceilingUsd)] }
  | _, _ => s

def setContext (s : Session P A) (ticket : Nat) : Session P A :=
  match s.calls.get? ticket with
  | some call =>
    if call.contextSet then s
    else { s with
      os := { s.os with store := s.os.store.setBudgetContext call.ceilingUsd call.remainingUsd }
      calls := s.calls.set ticket { call with contextSet := true } }
  | none => s

/-- The call of a ticket that is about to commit. -/
def committing (s : Session P A) (ticket : Nat) : Option AfterStep :=
  (s.calls.get? ticket).filter AfterStep.contextSet

def commit (s : Session P A) (ticket : Nat) (disk : Disk) : Session P A :=
  match committing s ticket with
  | some call => { s with
      os := { s.os with store := (commitOn s.os.store call.outcome disk).1 }
      calls := s.calls.erase ticket }
  | none => s

def act (setup : Setup) (s : Session P A) : Action → Session P A
  | .capture ticket outcome analysis => capture setup s ticket outcome analysis
  | .setContext ticket => setContext s ticket
  | .commit ticket disk => commit s ticket disk

def opened (planner : P) (arbiter : A) (flushInterval : Nat) (maxLines : Int) : Session P A :=
  { os := created planner arbiter { flushInterval, maxLines } }

end Sessions

def ratioOf (fs : FileStore) (chainId : String) : ℚ := (fs.statsOf chainId).budgetHeadroomRatio

section Leaks
variable {P A : Type}

/-- Every ratio is the initial one or was captured for its own chain. -/
def OwnRatios (s : Session P A) : Prop :=
  ∀ chainId, ratioOf s.os.store chainId = 1 ∨
    (chainId, ratioOf s.os.store chainId) ∈ s.captured

/-- A commit that succeeds gives its chain the ratio its own call captured. -/
def OwnFigures (setup : Setup) (s : Session P A) : Action → Prop
  | .commit ticket disk => ∀ call, committing s ticket = some call →
    (commitOn s.os.store call.outcome disk).2 = .ok () → eps < call.ceilingUsd →
      ratioOf (act setup s (.commit ticket disk)).os.store call.outcome.chainId =
        call.remainingUsd / call.ceilingUsd
  | _ => True

def NoLeak (setup : Setup) (s : Session P A) (a : Action) : Prop :=
  OwnRatios (act setup s a) ∧ OwnFigures setup s a

/-- What the slot holds for a chain: the figure that waits there, or else, with the slot
    empty, the ratio the chain already has. -/
def SlotHolds (fs : FileStore) (call : AfterStep) : Prop :=
  match fs.budgetRemaining with
  | some remaining => remaining = call.remainingUsd
  | none => ratioOf fs call.outcome.chainId = call.remainingUsd / call.ceilingUsd

/-- A commit that succeeds finds its own call's figure in the slot. -/
def SlotOwn (s : Session P A) : Action → Prop
  | .commit ticket disk => ∀ call, committing s ticket = some call →
    (commitOn s.os.store call.outcome disk).2 = .ok () → eps < call.ceilingUsd →
      SlotHolds s.os.store call
  | _ => True

/-- The slot is filled from calls, and calls were captured. -/
structure Tidy (setup : Setup) (s : Session P A) : Prop where
  own : OwnRatios s
  slot : s.os.store.budgetCeiling = s.os.store.budgetRemaining.map fun _ => setup.requestBudgetUsd
  calls : ∀ ticket call, s.calls.get? ticket = some call →
    call.ceilingUsd = setup.requestBudgetUsd ∧
      (call.outcome.chainId, call.remainingUsd / call.ceilingUsd) ∈ s.captured

end Leaks

theorem accept_ratio (fs : FileStore) (o : FileOutcome) (c : String) :
    ratioOf (fs.accept o) c =
      if c = o.chainId then (fs.updatedStats o).budgetHeadroomRatio else ratioOf fs c := by
  split
  · rename_i same
    rw [same]
    simp only [ratioOf, FileStore.accept, FileStore.statsOf, Dict.getD, Dict.get?_set_self,
      Option.getD_some]
  · rename_i other
    rw [ratioOf, accept_statsOf_other fs o other, ratioOf]

/-- What a commit that succeeds does to the ratios and to the slot. -/
structure Consumed (fs : FileStore) (o : FileOutcome) (after : FileStore) : Prop where
  ratio : ∀ c, ratioOf after c =
    if c = o.chainId then (fs.updatedStats o).budgetHeadroomRatio else ratioOf fs c
  ceiling : after.budgetCeiling = none
  remaining : after.budgetRemaining = none

theorem accept_consumed (fs : FileStore) (o : FileOutcome) : Consumed fs o (fs.accept o) :=
  ⟨accept_ratio fs o, rfl, rfl⟩

theorem acceptUnrotated_consumed (fs : FileStore) (o : FileOutcome) :
    Consumed fs o (acceptUnrotated fs o) := by
  constructor
  case ratio => exact accept_ratio _ o
  case ceiling => rfl
  case remaining => rfl

structure Untouched (fs after : FileStore) : Prop where
  ratio : ∀ c, ratioOf after c = ratioOf fs c
  ceiling : after.budgetCeiling = fs.budgetCeiling
  remaining : after.budgetRemaining = fs.budgetRemaining

theorem untouched_files (fs : FileStore) (files : Dict String (List FileOutcome)) :
    Untouched fs { fs with files } := ⟨fun _ => rfl, rfl, rfl⟩

theorem commitOn_cases (fs : FileStore) (o : FileOutcome) (disk : Disk) :
    ((commitOn fs o disk).2 = .ok () ∧ Consumed fs o (commitOn fs o disk).1) ∨
    ((commitOn fs o disk).2 ≠ .ok () ∧ Untouched fs (commitOn fs o disk).1) := by
  have raised : ∀ e : PyExc, (Except.error e : Except PyExc Unit) ≠ .ok () := by
    intro e same
    cases same
  cases refusal : fs.refusal o.chainId with
  | some e =>
    have refused : commitOn fs o disk = (fs, .error e) := by
      unfold commitOn FileStore.commit
      cases disk <;> simp only [refusal]
    right
    rw [refused]
    exact ⟨raised e, untouched_files fs fs.files⟩
  | none =>
    cases disk with
    | works =>
      have accepted : commitOn fs o .works = (fs.accept o, .ok ()) := by
        unfold commitOn FileStore.commit
        simp only [refusal]
      left
      rw [accepted]
      exact ⟨rfl, accept_consumed fs o⟩
    | rotationFails =>
      have accepted : commitOn fs o .rotationFails =
          (if fs.Rotates o.chainId then acceptUnrotated fs o else fs.accept o, .ok ()) := by
        unfold commitOn
        simp only [refusal]
      left
      rw [accepted]
      refine ⟨rfl, ?_⟩
      split
      · exact acceptUnrotated_consumed fs o
      · exact accept_consumed fs o
    | writeFails e written =>
      have failed : commitOn fs o (.writeFails e written) = (if written then
          { fs with files := FileStore.append fs.files (activePath o.chainId) o } else fs,
          .error e) := by
        unfold commitOn
        simp only [refusal]
      right
      rw [failed]
      refine ⟨raised e, ?_⟩
      split
      · exact untouched_files fs _
      · exact untouched_files fs fs.files

theorem updatedStats_ratio {fs : FileStore} {o : FileOutcome} {ceiling : ℚ}
    (slot : fs.budgetCeiling = fs.budgetRemaining.map fun _ => ceiling) :
    (fs.updatedStats o).budgetHeadroomRatio =
      match fs.budgetRemaining with
      | some remaining => if eps < ceiling then remaining / ceiling else ratioOf fs o.chainId
      | none => ratioOf fs o.chainId := by
  unfold FileStore.updatedStats ChainStats.consume ratioOf
  rw [slot]
  cases fs.budgetRemaining with
  | none => rfl
  | some remaining =>
    simp only [Option.map_some, id_eq]
    split <;> rfl

section Runs
variable {P A : Type} {setup : Setup}

theorem committing_some {s : Session P A} {ticket : Nat} {call : AfterStep}
    (found : committing s ticket = some call) : s.calls.get? ticket = some call := by
  unfold committing at found
  exact (Option.filter_eq_some_iff.mp found).1

theorem act_commit (setup : Setup) {s : Session P A} {ticket : Nat} {call : AfterStep} (disk : Disk)
    (found : committing s ticket = some call) :
    (act setup s (.commit ticket disk)).os.store = (commitOn s.os.store call.outcome disk).1 ∧
    (act setup s (.commit ticket disk)).calls = s.calls.erase ticket ∧
    (act setup s (.commit ticket disk)).captured = s.captured := by
  simp only [act, commit, found]
  exact ⟨trivial, trivial, trivial⟩

theorem act_commit_none {s : Session P A} {ticket : Nat} (disk : Disk)
    (none : committing s ticket = none) : act setup s (.commit ticket disk) = s := by
  simp only [act, commit, none]

theorem capture_cases (setup : Setup) (s : Session P A) (ticket : Nat) (outcome : FileOutcome)
    (analysis : AnalysisResult) :
    capture setup s ticket outcome analysis = s ∨
    ∃ call : AfterStep, call.outcome = outcome ∧ call.ceilingUsd = setup.requestBudgetUsd ∧
      capture setup s ticket outcome analysis = {
        os := s.os.account setup outcome.toStepOutcome analysis
        calls := s.calls.set ticket call
        captured := s.captured ++
          [(call.outcome.chainId, call.remainingUsd / call.ceilingUsd)] } := by
  unfold capture
  split
  · exact Or.inr ⟨_, rfl, rfl, rfl⟩
  · exact Or.inl rfl

theorem setContext_cases (s : Session P A) (ticket : Nat) :
    setContext s ticket = s ∨
    ∃ call, s.calls.get? ticket = some call ∧ setContext s ticket = { s with
      os := { s.os with store := s.os.store.setBudgetContext call.ceilingUsd call.remainingUsd }
      calls := s.calls.set ticket { call with contextSet := true } } := by
  unfold setContext
  split
  · rename_i call found
    split
    · exact Or.inl rfl
    · exact Or.inr ⟨call, found, rfl⟩
  · exact Or.inl rfl

theorem ownRatios_of_ratio {s s' : Session P A} (own : OwnRatios s)
    (ratio : ∀ c, ratioOf s'.os.store c = ratioOf s.os.store c)
    (captured : ∀ entry ∈ s.captured, entry ∈ s'.captured) : OwnRatios s' := by
  intro c
  rw [ratio c]
  rcases own c with first | earlier
  · exact Or.inl first
  · exact Or.inr (captured _ earlier)

theorem tidy_capture {s : Session P A} (tidy : Tidy setup s) (ticket : Nat)
    (outcome : FileOutcome) (analysis : AnalysisResult) :
    Tidy setup (capture setup s ticket outcome analysis) := by
  rcases capture_cases setup s ticket outcome analysis with same | ⟨call, _, ceiling, eq⟩
  · rw [same]
    exact tidy
  · rw [eq]
    constructor
    case own =>
      exact ownRatios_of_ratio tidy.own (fun _ => rfl)
        (fun entry earlier => List.mem_append_left _ earlier)
    case slot => exact tidy.slot
    case calls =>
      apply Dict.forall_set
      · exact ⟨ceiling, List.mem_append_right _ (List.mem_singleton.mpr rfl)⟩
      · intro other waiting found
        obtain ⟨figure, earlier⟩ := tidy.calls other waiting found
        exact ⟨figure, List.mem_append_left _ earlier⟩

theorem tidy_setContext {s : Session P A} (tidy : Tidy setup s) (ticket : Nat) :
    Tidy setup (setContext s ticket) := by
  rcases setContext_cases s ticket with same | ⟨call, found, eq⟩
  · rw [same]
    exact tidy
  · obtain ⟨ceiling, recorded⟩ := tidy.calls ticket call found
    rw [eq]
    constructor
    case own => exact ownRatios_of_ratio tidy.own (fun _ => rfl) (fun entry earlier => earlier)
    case slot =>
      simp only [FileStore.setBudgetContext, Option.map_some, ceiling]
    case calls =>
      exact Dict.forall_set ⟨ceiling, recorded⟩ tidy.calls

theorem tidy_commit {s : Session P A} (tidy : Tidy setup s) {ticket : Nat} {disk : Disk}
    (own : OwnRatios (act setup s (.commit ticket disk))) :
    Tidy setup (act setup s (.commit ticket disk)) := by
  cases found : committing s ticket with
  | none =>
    rw [act_commit_none disk found]
    exact tidy
  | some call =>
    obtain ⟨store, calls, captured⟩ := act_commit setup disk found
    constructor
    case own => exact own
    case slot =>
      rw [store]
      rcases commitOn_cases s.os.store call.outcome disk with ⟨_, consumed⟩ | ⟨_, untouched⟩
      · rw [consumed.ceiling, consumed.remaining]
        rfl
      · rw [untouched.ceiling, untouched.remaining]
        exact tidy.slot
    case calls =>
      rw [calls, captured]
      exact Dict.forall_erase ticket tidy.calls

theorem tidy_step {s : Session P A} (tidy : Tidy setup s) {a : Action}
    (noLeak : NoLeak setup s a) : Tidy setup (act setup s a) := by
  cases a with
  | capture ticket outcome analysis => exact tidy_capture tidy ticket outcome analysis
  | setContext ticket => exact tidy_setContext tidy ticket
  | commit ticket disk => exact tidy_commit tidy noLeak.1

theorem ratio_after_commit {s : Session P A} (tidy : Tidy setup s) {ticket : Nat}
    {call : AfterStep} {disk : Disk} (found : committing s ticket = some call)
    (committed : (commitOn s.os.store call.outcome disk).2 = .ok ())
    (counts : eps < call.ceilingUsd) :
    ratioOf (act setup s (.commit ticket disk)).os.store call.outcome.chainId =
      match s.os.store.budgetRemaining with
      | some remaining => remaining / call.ceilingUsd
      | none => ratioOf s.os.store call.outcome.chainId := by
  obtain ⟨store, _, _⟩ := act_commit setup disk found
  rw [store]
  rcases commitOn_cases s.os.store call.outcome disk with ⟨_, consumed⟩ | ⟨raised, _⟩
  · have ceiling := (tidy.calls ticket call (committing_some found)).1
    rw [consumed.ratio, if_pos rfl, updatedStats_ratio tidy.slot, ← ceiling]
    split
    · rw [if_pos counts]
    · rfl
  · exact absurd committed raised

/-- A commit changes the ratio of its own chain at most, and not even that one when it raises
    or the ceiling is too small. -/
theorem ratio_elsewhere {s : Session P A} (tidy : Tidy setup s) {ticket : Nat}
    {call : AfterStep} {disk : Disk} (found : committing s ticket = some call) {c : String}
    (elsewhere : c ≠ call.outcome.chainId ∨ ¬ eps < call.ceilingUsd ∨
      (commitOn s.os.store call.outcome disk).2 ≠ .ok ()) :
    ratioOf (act setup s (.commit ticket disk)).os.store c = ratioOf s.os.store c := by
  obtain ⟨store, _, _⟩ := act_commit setup disk found
  rw [store]
  rcases commitOn_cases s.os.store call.outcome disk with ⟨ok, consumed⟩ | ⟨_, untouched⟩
  · rw [consumed.ratio]
    split
    · rename_i same
      have ceiling := (tidy.calls ticket call (committing_some found)).1
      rcases elsewhere with other | small | raised
      · exact absurd same other
      · rw [updatedStats_ratio tidy.slot, ← ceiling, same]
        split
        · rw [if_neg small]
        · rfl
      · exact absurd ok raised
    · rfl
  · exact untouched.ratio c

theorem slotHolds_iff {s : Session P A} (tidy : Tidy setup s) {ticket : Nat}
    {call : AfterStep} {disk : Disk} (found : committing s ticket = some call)
    (committed : (commitOn s.os.store call.outcome disk).2 = .ok ())
    (counts : eps < call.ceilingUsd) :
    ratioOf (act setup s (.commit ticket disk)).os.store call.outcome.chainId =
        call.remainingUsd / call.ceilingUsd ↔ SlotHolds s.os.store call := by
  have positive : call.ceilingUsd ≠ 0 := by
    have : (0 : ℚ) < eps := by norm_num [eps]
    linarith
  rw [ratio_after_commit tidy found committed counts, SlotHolds]
  cases s.os.store.budgetRemaining with
  | some remaining => exact div_left_inj' positive
  | none => exact Iff.rfl

theorem ownFigures_iff {s : Session P A} (tidy : Tidy setup s) (a : Action) :
    OwnFigures setup s a ↔ SlotOwn s a := by
  cases a with
  | capture ticket outcome analysis => exact Iff.rfl
  | setContext ticket => exact Iff.rfl
  | commit ticket disk =>
    constructor
    · intro own call found committed counts
      exact (slotHolds_iff tidy found committed counts).mp (own call found committed counts)
    · intro slot call found committed counts
      exact (slotHolds_iff tidy found committed counts).mpr (slot call found committed counts)

theorem ownRatios_step {s : Session P A} (tidy : Tidy setup s) {a : Action}
    (figures : OwnFigures setup s a) : OwnRatios (act setup s a) := by
  cases a with
  | capture ticket outcome analysis => exact (tidy_capture tidy ticket outcome analysis).own
  | setContext ticket => exact (tidy_setContext tidy ticket).own
  | commit ticket disk =>
    cases found : committing s ticket with
    | none =>
      rw [act_commit_none disk found]
      exact tidy.own
    | some call =>
      obtain ⟨_, _, captured⟩ := act_commit setup disk found
      have recorded := (tidy.calls ticket call (committing_some found)).2
      intro c
      rw [captured]
      by_cases own : c = call.outcome.chainId ∧ eps < call.ceilingUsd ∧
          (commitOn s.os.store call.outcome disk).2 = .ok ()
      · obtain ⟨same, counts, committed⟩ := own
        right
        rw [same, figures call found committed counts]
        exact recorded
      · have elsewhere : c ≠ call.outcome.chainId ∨ ¬ eps < call.ceilingUsd ∨
            (commitOn s.os.store call.outcome disk).2 ≠ .ok () := by tauto
        rw [ratio_elsewhere tidy found elsewhere]
        exact tidy.own c

theorem noLeak_iff {s : Session P A} (tidy : Tidy setup s) (a : Action) :
    NoLeak setup s a ↔ SlotOwn s a := by
  constructor
  · intro noLeak
    exact (ownFigures_iff tidy a).mp noLeak.2
  · intro slot
    have figures := (ownFigures_iff tidy a).mpr slot
    exact ⟨ownRatios_step tidy figures, figures⟩

theorem tidy_opened (planner : P) (arbiter : A) (flushInterval : Nat) (maxLines : Int) :
    Tidy setup (opened planner arbiter flushInterval maxLines) := by
  constructor
  case own => exact fun _ => Or.inl rfl
  case slot => rfl
  case calls =>
    intro ticket call found
    cases found

/-- No budget context leaks in a run exactly when every commit that succeeds finds its own
    call's figure in the slot. -/
theorem budget_context_iff (setup : Setup) (planner : P) (arbiter : A) (flushInterval : Nat)
    (maxLines : Int) (actions : List Action) :
    Runs.EachStep (act setup) (NoLeak setup) (opened planner arbiter flushInterval maxLines)
        actions ↔
      Runs.EachStep (act setup) SlotOwn (opened planner arbiter flushInterval maxLines)
        actions :=
  Runs.eachStep_exact (fun _ _ tidy _ noLeak => tidy_step tidy noLeak)
    (fun _ a tidy _ => noLeak_iff tidy a) (tidy_opened planner arbiter flushInterval maxLines)
    (Runs.eachStep_true _ _)

/-- A commit right after its own call has set the context finds its figure. -/
theorem slotOwn_after_setContext (s : Session P A) (ticket : Nat) {call : AfterStep}
    (waiting : s.calls.get? ticket = some call) (unset : call.contextSet = false) (disk : Disk) :
    SlotOwn (act setup s (.setContext ticket)) (.commit ticket disk) := by
  have set : act setup s (.setContext ticket) = { s with
      os := { s.os with store := s.os.store.setBudgetContext call.ceilingUsd call.remainingUsd }
      calls := s.calls.set ticket { call with contextSet := true } } := by
    simp only [act, setContext, waiting, unset, Bool.false_eq_true, if_false]
  rw [set]
  intro other found _ _
  have own := committing_some found
  rw [Dict.get?_set_self] at own
  cases own
  rfl

def outcomeOn (chainId : String) (costUsd : ℚ) : FileOutcome where
  stepId := "s1"
  requestId := "r1"
  chainId
  kind := .tool
  status := .ok
  costUsd := .finite costUsd
  tokensIn := 0
  tokensOut := 0
  elapsedMs := .finite 1
  timestampMs := 0

/-- The two chains' captured figures cross: "a" is given the ratio of "b". -/
def crossed : List Action :=
  [.capture 1 (outcomeOn "a" 4) nominalAnalysis, .capture 2 (outcomeOn "b" 1) nominalAnalysis,
    .setContext 1, .setContext 2, .commit 1 .works]

def crossing : Session Unit Unit := opened () () 10 10000

theorem crossed_ratio :
    ratioOf (Runs.run (act (defaultSetup 10 none)) crossing crossed).os.store "a" = 1 / 2 := by
  decide +kernel

theorem crossed_captured :
    (Runs.run (act (defaultSetup 10 none)) crossing crossed).captured =
      [("a", 3 / 5), ("b", 1 / 2)] := by
  decide +kernel

theorem contexts_cross :
    ¬ Runs.EachStep (act (defaultSetup 10 none)) (NoLeak (defaultSetup 10 none)) crossing
      crossed := by
  intro noLeak
  obtain ⟨_, _, _, _, ⟨own, _⟩, _⟩ := noLeak
  have last : OwnRatios (Runs.run (act (defaultSetup 10 none)) crossing crossed) := own
  have shown := last "a"
  rw [crossed_ratio, crossed_captured] at shown
  revert shown
  decide +kernel

end Runs

section Link
variable {P A : Type} [ArbiterProtocol A]

/-- The part of a history that the stages of the pipeline read. -/
def historyOf (view : FileHistoryView) : HistoryView where
  chainId := view.chainId
  lastN := view.lastN.map FileOutcome.toStepOutcome
  rollingCostUsd := .finite view.rollingCostUsd
  failureStreak := view.failureStreak
  depth := view.depth
  loopScore := .finite view.loopScore
  successStreak := view.successStreak
  costPerStepEma := .finite view.costPerStepEma
  costPerStepEmaByModel := view.costPerStepEmaByModel
  latencyEmaMs := view.latencyEmaMs.mapValues .finite
  budgetHeadroomRatio := .finite view.budgetHeadroomRatio

/-- SimpleCollector names no model. -/
instance {fl : ℚ → ℚ} : StoreProtocol (FileStore fl) where
  buildHistory fs chainId := (fs.buildHistory chainId historyLimit).map historyOf
  commit fs outcome _ _ _ _ _ := fs.commit { outcome with model := none }
  setBudgetContext := FileStore.setBudgetContext

theorem commitStep_store {fl : ℚ → ℚ} (setup : Setup) (os : VeronicaOS P A (FileStore fl))
    (handle : StepHandle)
    (outcome : StepOutcome) (analysis : AnalysisResult) :
    (os.commitStep setup handle outcome analysis).1.store =
      ((os.store.setBudgetContext setup.requestBudgetUsd (os.remaining setup)).commit
        { outcome with model := none }).1 := by
  unfold VeronicaOS.commitStep
  dsimp only
  split <;> rfl

/-- `after_step` with no other call in between is the three actions in a row. -/
theorem afterStep_eq_run (setup : Setup) (os : VeronicaOS P A FileStore) (handle : StepHandle)
    (snapshot : ContextSnapshot) (t : AfterTimes) (inTime : t.collectorMs ≤ setup.collectorBudget) :
    let outcome : FileOutcome := { setup.collect snapshot t.nowMs with model := none }
    ∃ analysis, (os.afterStep setup handle snapshot t).1.store =
      (Runs.run (act setup) ({ os } : Session P A)
        [.capture 0 outcome analysis, .setContext 0, .commit 0 .works]).os.store := by
  intro outcome
  rcases afterStep_cases setup os snapshot t handle with ⟨skipped, eq⟩ | ⟨accounts, analysis, eq⟩
  · refine ⟨nominalAnalysis, ?_⟩
    have unread : ¬ (StoreProtocol.buildHistory os.store outcome.chainId).isOk := by
      intro read
      exact skipped ⟨inTime, read⟩
    cases read : os.store.buildHistory outcome.chainId historyLimit with
    | ok view => exact absurd (by simp only [StoreProtocol.buildHistory, read]; rfl) unread
    | error e =>
      have idle : capture setup ({ os } : Session P A) 0 outcome nominalAnalysis = { os } := by
        simp only [capture, read, Dict.get?_empty]
      rw [eq]
      simp only [Runs.run, List.foldl_cons, List.foldl_nil, act, idle, setContext, commit,
        committing, Dict.get?_empty, Option.filter_none]
  · refine ⟨analysis, ?_⟩
    have read := accounts.2
    rw [eq, commitStep_store]
    cases shown : os.store.buildHistory outcome.chainId historyLimit with
    | error e =>
      simp only [StoreProtocol.buildHistory] at read
      rw [show (setup.collect snapshot t.nowMs).chainId = outcome.chainId from rfl, shown] at read
      cases read
    | ok view =>
      let call : AfterStep := {
        outcome
        ceilingUsd := setup.requestBudgetUsd
        remainingUsd := (os.account setup outcome.toStepOutcome analysis).remaining setup }
      have captured : capture setup ({ os } : Session P A) 0 outcome analysis = {
          os := os.account setup outcome.toStepOutcome analysis
          calls := (∅ : Dict Nat AfterStep).set 0 call
          captured := [(outcome.chainId, call.remainingUsd / call.ceilingUsd)] } := by
        simp only [capture, shown, Dict.get?_empty]
        rfl
      simp only [Runs.run, List.foldl_cons, List.foldl_nil, act, captured, setContext, commit,
        committing, Dict.get?_set_self]
      rfl

end Link

end VeronicaBudgetContext
