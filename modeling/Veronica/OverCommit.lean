import Veronica.PipelineRuns
import Veronica.Library.RoundedCommitments

/- The request budget against the ceilings promised to open steps, for the default planner and
   arbiter in any arithmetic. Each issue reads what is spent, and nothing it reads records what
   is promised. -/
namespace VeronicaOverCommit
open VeronicaTypes VeronicaPlanners VeronicaArbiters VeronicaPipeline VeronicaStages
open VeronicaIssue VeronicaRuns

variable {S : Type} [StoreProtocol S]

abbrev DefaultRunning (r : Arithmetic) (S : Type) :=
  Running (SimplePlanner r) (PassthroughArbiter r) S

def opening {r : Arithmetic} (planner : SimplePlanner r) (store : S) : DefaultRunning r S :=
  started (created planner {} store)

/-- The costs accounted so far, and the ceilings issued to the open steps. -/
def book {r : Arithmetic} (s : DefaultRunning r S) : Commitments Nat ℚ where
  spent := s.os.totalSpentUsd
  promised := s.handles.mapValues fun handle => handle.policy.ceilingUsd

def openCeilings {r : Arithmetic} (s : DefaultRunning r S) : List ℚ := (book s).openAmounts

section Statement
variable (setup : Setup) (s : DefaultRunning setup.arithmetic S)

def effect : Call → Commitments.Effect Nat ℚ
  | .before ticket intent t =>
    match (s.os.beforeStep setup intent t).2 with
    | .ok handle => .promise ticket handle.policy.ceilingUsd
    | .error _ => .keep
  | .after ticket snapshot t =>
    .fulfil ticket (if Accounts setup s.os snapshot t then collectedCost setup snapshot t else 0)

/-- No stage overruns, a step begins once and ends after it has begun, and it costs at most the
    ceiling it was issued. -/
def WithinCeilings : Call → Prop
  | .before ticket _ t => s.handles.get? ticket = none ∧ beforeInTime setup t
  | .after ticket snapshot t => afterInTime setup t ∧ ∃ handle ∈ s.handles.get? ticket,
    (setup.collect snapshot t.nowMs).costUsd.AtMost handle.policy.ceilingUsd

instance (call : Call) : Decidable (WithinCeilings setup s call) :=
  match call with
  | .before _ _ _ => inferInstanceAs (Decidable (_ ∧ _))
  | .after ticket snapshot t => inferInstanceAs (Decidable (afterInTime setup t ∧
      ∃ handle ∈ s.handles.get? ticket,
        (setup.collect snapshot t.nowMs).costUsd.AtMost handle.policy.ceilingUsd))

/-- What a step is promised if this is the least limit of its ceiling. -/
def share (limit : ℚ) : ℚ :=
  max 0 (passthroughCeiling limit (s.os.remaining setup) setup.arithmetic)

/-- When a policy is issued, the budget is enough for what is spent, the ceilings of the open
    steps and the share of the least limit, in whatever order they are added. -/
def Room : Call → Prop
  | .before _ intent t =>
    setup.denial intent = none →
    (StoreProtocol.buildHistory s.os.store intent.chainId).isOk →
    ∃ limit ∈ ceilingLimits setup s.os s.os intent t,
      (∀ other ∈ ceilingLimits setup s.os s.os intent t, limit ≤ other) ∧
        Commitments.EveryOrder setup.arithmetic s.os.totalSpentUsd setup.requestBudgetUsd
          (share setup s limit :: openCeilings s)
  | .after _ _ _ => True

instance (call : Call) : Decidable (Room setup s call) :=
  match call with
  | .before _ intent t => inferInstanceAs (Decidable (setup.denial intent = none →
      (StoreProtocol.buildHistory s.os.store intent.chainId).isOk →
      ∃ limit ∈ ceilingLimits setup s.os s.os intent t,
        (∀ other ∈ ceilingLimits setup s.os s.os intent t, limit ≤ other) ∧
          Commitments.EveryOrder setup.arithmetic s.os.totalSpentUsd setup.requestBudgetUsd
            (share setup s limit :: openCeilings s)))
  | .after _ _ _ => inferInstanceAs (Decidable True)

/-- Whatever the open steps still cost within their ceilings, and in whatever order they end,
    the budget is enough. -/
def Covered : Prop := (book s).CoveredIn setup.arithmetic setup.requestBudgetUsd

end Statement

variable {setup : Setup} {s : DefaultRunning setup.arithmetic S} {call : Call}

theorem step_moves (held : HeldCounters setup s.os) (within : WithinCeilings setup s call) :
    (book s).Allowed (effect setup s call) ∧
    book (callStep setup s call) = (book s).applyIn setup.arithmetic (effect setup s call) := by
  cases call with
  | before ticket intent t =>
    have total := (beforeStep_counters setup s.os intent t).1
    simp only [effect, callStep]
    rcases issue : s.os.beforeStep setup intent t with ⟨os, _ | handle⟩
    · simp only [issue] at total
      refine ⟨trivial, ?_⟩
      simp only [book, Commitments.applyIn, total]
    · simp only [issue] at total
      have fresh : (book s).promised.get? ticket = none := by
        rw [book, Dict.get?_mapValues, within.1, Option.map_none]
      refine ⟨fresh, ?_⟩
      simp only [book, Commitments.applyIn, total, Dict.mapValues_set _ within.1]
  | after ticket snapshot t =>
    obtain ⟨_, handle, opened, atMost⟩ := within
    have opened : s.handles.get? ticket = some handle := opened
    have charged := PyFloat.finiteOrZero_of_atMost atMost
    simp only [effect, callStep, opened]
    constructor
    · refine ⟨handle.policy.ceilingUsd, ?_, ?_⟩
      · simp only [book, Dict.get?_mapValues, opened, Option.map_some]
        rfl
      · split
        · exact charged
        · exact Or.inr rfl
    · rcases afterStep_counters setup s.os snapshot t handle with
        ⟨skipped, total, _⟩ | ⟨accounts, total, _⟩
      · simp only [book, Commitments.applyIn, total, skipped, if_false, add_zero, held.total,
          Dict.mapValues_erase]
      · simp only [book, Commitments.applyIn, total, accounts, if_true, Dict.mapValues_erase]

theorem fits_iff_room (held : HeldCounters setup s.os) (covered : Covered setup s)
    (within : WithinCeilings setup s call) :
    (book s).FitsIn setup.arithmetic setup.requestBudgetUsd (effect setup s call) ↔
      Room setup s call := by
  cases call with
  | after ticket snapshot t => exact Iff.rfl
  | before ticket intent t =>
    simp only [effect, Room]
    rcases issue : (s.os.beforeStep setup intent t).2 with raised | handle
    · have refused := refused_cases setup s.os s.os intent t issue
      refine iff_of_true trivial fun _ readable => ?_
      rw [refused] at readable
      exact Bool.noConfusion readable
    · rcases handle_cases setup s.os s.os intent t issue with
        ⟨reason, denied, rfl⟩ | ⟨admitted, ⟨history, read⟩, _, policy⟩
      · refine iff_of_true ?_ fun admitted => ?_
        · have nothing := Commitments.everyOrder_zero held.total covered
          simp only [Commitments.FitsIn, deniedHandle, barePolicy, max_self]
          exact nothing
        · rw [admitted] at denied
          cases denied
      · have prompt : ¬ arbiterOverran setup t := not_lt.mpr within.2.2.2
        have least := desired_iff_least setup s.os s.os intent t fun limit =>
          Commitments.EveryOrder setup.arithmetic s.os.totalSpentUsd setup.requestBudgetUsd
            (share setup s limit :: openCeilings s)
        simp only [admitted, read, Except.isOk, Except.toBool, forall_const, ← least]
        rw [policy, policyFor_passthrough prompt]
        exact Iff.rfl

/-- For every interleaving of steps on any chains: whatever the open steps still cost within
    their ceilings, the budget is enough in every state of the run, exactly when it is not
    negative and every issue finds room. Then the total spent never exceeds it. -/
theorem issues_covered_iff (setup : Setup) (planner : SimplePlanner setup.arithmetic) (store : S)
    {calls : List Call} (within : Runs.EachStep (callStep setup) (WithinCeilings setup)
      (opening planner store) calls) :
    (Runs.EachState (callStep setup) (Covered setup) (opening planner store) calls ↔
      0 ≤ setup.requestBudgetUsd ∧
        Runs.EachStep (callStep setup) (Room setup) (opening planner store) calls) ∧
    (0 ≤ setup.requestBudgetUsd →
      Runs.EachStep (callStep setup) (Room setup) (opening planner store) calls →
      Runs.EachState (callStep setup)
        (fun s => s.os.totalSpentUsd ≤ setup.requestBudgetUsd)
        (opening planner store) calls) := by
  have held : HeldCounters setup (opening planner store).os :=
    created_held setup planner ({} : PassthroughArbiter setup.arithmetic) store
  have first : Covered setup (opening planner store) ↔ 0 ≤ setup.requestBudgetUsd :=
    Commitments.everyOrder_nil
  have exact_run : Runs.EachState (callStep setup) (Covered setup) (opening planner store) calls ↔
      0 ≤ setup.requestBudgetUsd ∧
        Runs.EachStep (callStep setup) (Room setup) (opening planner store) calls := by
    rw [← first]
    exact Commitments.eachState_coveredIn_iff (fun _ call held _ => callStep_held held call)
      (fun _ _ held legal => step_moves held legal)
      (fun _ _ held covered legal => fits_iff_room held covered legal) held within
  refine ⟨exact_run, fun nonneg room => ?_⟩
  have totals := Runs.eachState_invariant
    (I := fun s : DefaultRunning setup.arithmetic S => HeldCounters setup s.os)
    (fun _ call held _ => callStep_held held call) held within
  have covered := exact_run.mpr ⟨nonneg, room⟩
  refine Runs.eachState_imp ?_ (Runs.eachState_and totals covered)
  exact fun s both => Commitments.spent_le_of_coveredIn (b := book s) both.1.total both.2

def dollar : Setup := defaultSetup 1 none

/-- Two open steps are promised the same dollar, and each spends it. -/
theorem two_open_steps_overspend :
    let start := opening ({} : SimplePlanner dollar.arithmetic) ({} : MemoryStore)
    let calls : List Call :=
      [.before 1 (llmIntent "1") inTime, .before 2 (llmIntent "2") inTime,
        .after 1 (snapshotOf 1) collectedInTime, .after 2 (snapshotOf 1) collectedInTime]
    Runs.EachStep (callStep dollar) (WithinCeilings dollar) start calls ∧
    dollar.requestBudgetUsd < (Runs.run (callStep dollar) start calls).os.totalSpentUsd := by
  decide +kernel

/-- The default pipeline in doubles. -/
def threeDollars : Setup := { defaultSetup 3 none with arithmetic := .double }

/-- Two steps open at once, which cost seventy and forty cents. -/
theorem two_open_steps_within_budget :
    let calls : List Call :=
      [.before 1 (llmIntent "1") inTime, .before 2 (llmIntent "2") inTime,
        .after 2 (snapshotOf (Doubles.round (7 / 10))) collectedInTime,
        .after 1 (snapshotOf (Doubles.round (4 / 10))) collectedInTime]
    Runs.EachState (callStep threeDollars)
      (fun s => s.os.totalSpentUsd ≤ threeDollars.requestBudgetUsd)
      (opening ({} : SimplePlanner threeDollars.arithmetic) ({} : MemoryStore)) calls :=
  (issues_covered_iff threeDollars {} ({} : MemoryStore) (by decide +kernel)).2
    (by decide +kernel) (by decide +kernel)

end VeronicaOverCommit
