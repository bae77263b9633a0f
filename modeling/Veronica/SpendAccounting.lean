import Veronica.PipelineRuns
import Veronica.Library.Tally

/- The two spend counters against the collected costs of the finished steps, for every order of
   calls and every timing. A call that ends before the accounting loses its cost. -/
namespace VeronicaSpend
open VeronicaTypes VeronicaPipeline VeronicaStages VeronicaIssue VeronicaRuns

variable {P A S : Type} [PlannerProtocol P] [ArbiterProtocol A] [StoreProtocol S]

section Statement
variable (setup : Setup)

def collected : Call → Option (String × ℚ)
  | .before _ _ _ => none
  | .after _ snapshot t =>
    some ((setup.collect snapshot t.nowMs).chainId, collectedCost setup snapshot t)

/-- Steps begin once and finish once, with a finite collected cost. -/
def FiniteCosts (s : Running P A S) : Call → Prop
  | .before ticket _ _ => s.handles.get? ticket = none
  | .after ticket snapshot t => (s.handles.get? ticket).isSome ∧
    (setup.collect snapshot t.nowMs).costUsd.isfinite

def Accounted (s : Running P A S) : Call → Prop
  | .before _ _ _ => True
  | .after _ snapshot t => Accounts setup s.os snapshot t

/-- Adding the collected cost to the two counters needs no rounding. -/
def Unrounded (s : Running P A S) (call : Call) : Prop :=
  ∀ chainId cost, collected setup call = some (chainId, cost) →
    setup.arithmetic.fl (s.os.totalSpentUsd + cost) = s.os.totalSpentUsd + cost ∧
    setup.arithmetic.fl (s.os.chainSpentUsd.getD chainId 0 + cost) =
      s.os.chainSpentUsd.getD chainId 0 + cost

instance (s : Running P A S) (call : Call) : Decidable (FiniteCosts setup s call) :=
  match call with
  | .before ticket _ _ => decidable_of_iff ((s.handles.get? ticket).isNone)
      Option.isNone_iff_eq_none
  | .after _ _ _ => inferInstanceAs (Decidable (_ ∧ _))

instance (s : Running P A S) (call : Call) : Decidable (Accounted setup s call) :=
  match call with
  | .before _ _ _ => inferInstanceAs (Decidable True)
  | .after _ _ _ => inferInstanceAs (Decidable (Accounts _ _ _ _))

instance (s : Running P A S) (call : Call) : Decidable (Unrounded setup s call) :=
  match call with
  | .before _ _ _ => .isTrue (by rintro _ _ ⟨⟩)
  | .after _ snapshot t => decidable_of_iff
    (setup.arithmetic.fl (s.os.totalSpentUsd + collectedCost setup snapshot t) =
        s.os.totalSpentUsd + collectedCost setup snapshot t ∧
      setup.arithmetic.fl (s.os.chainSpentUsd.getD (setup.collect snapshot t.nowMs).chainId 0 +
          collectedCost setup snapshot t) =
        s.os.chainSpentUsd.getD (setup.collect snapshot t.nowMs).chainId 0 +
          collectedCost setup snapshot t)
    ⟨by rintro exactly _ _ ⟨⟩; exact exactly, fun all => all _ _ rfl⟩

/-- The costs of the steps whose `after_step` call did not get as far as the accounting. -/
def lost (s : Running P A S) : List Call → List (String × ℚ)
  | [] => []
  | call :: rest =>
    (if Accounted setup s call then [] else (collected setup call).toList) ++
      lost (callStep setup s call) rest

end Statement

def SpendExact (os : VeronicaOS P A S) (finished : List (String × ℚ)) : Prop :=
  os.totalSpentUsd = Tally.total finished ∧
  os.totalSpentUsd = os.chainSpentUsd.sumOf (fun _ spent => spent) ∧
  ∀ chainId, os.chainSpentUsd.getD chainId 0 = Tally.totalOn chainId finished

/-- Both counters are running totals of the costs of the finished steps, in their order. -/
def SpendTotalled (r : Arithmetic) (os : VeronicaOS P A S) (finished : List (String × ℚ)) : Prop :=
  os.totalSpentUsd = r.total 0 (finished.map Prod.snd) ∧
  ∀ chainId, os.chainSpentUsd.getD chainId 0 =
    r.total 0 ((finished.filter fun cost => cost.1 = chainId).map Prod.snd)

variable {setup : Setup} {s : Running P A S} {call : Call}

/-- What one call does to the counters: nothing, or it books the collected cost in both. -/
theorem callStep_counters (legal : FiniteCosts setup s call) :
    let os := s.os
    let after := (callStep setup s call).os
    (Accounted setup s call ∧ collected setup call = none ∧
      after.totalSpentUsd = os.totalSpentUsd ∧ after.chainSpentUsd = os.chainSpentUsd) ∨
    (¬ Accounted setup s call ∧
      after.totalSpentUsd = os.totalSpentUsd ∧ after.chainSpentUsd = os.chainSpentUsd) ∨
    (Accounted setup s call ∧ ∃ chainId cost, collected setup call = some (chainId, cost) ∧
      after.totalSpentUsd = setup.arithmetic.fl (os.totalSpentUsd + cost) ∧
      after.chainSpentUsd = os.chainSpentUsd.set chainId
        (setup.arithmetic.fl (os.chainSpentUsd.getD chainId 0 + cost))) := by
  cases call with
  | before ticket intent t =>
    obtain ⟨total, chains⟩ := beforeStep_counters setup s.os intent t
    rw [← callStep_before_os setup s ticket] at total chains
    exact Or.inl ⟨trivial, rfl, total, chains⟩
  | after ticket snapshot t =>
    obtain ⟨handle, opened⟩ := Option.isSome_iff_exists.mp legal.1
    simp only [callStep, opened]
    rcases afterStep_counters setup s.os snapshot t handle with
      ⟨skipped, total, chains⟩ | ⟨accounts, total, chains⟩
    · exact Or.inr (Or.inl ⟨skipped, total, chains⟩)
    · exact Or.inr (Or.inr ⟨accounts, _, _, rfl, total, chains⟩)

/-- Between two states, the counters took up the finished costs up to the lost ones. -/
structure Balanced (os later : VeronicaOS P A S) (finished lost : List (String × ℚ)) : Prop where
  total : later.totalSpentUsd + Tally.total lost = os.totalSpentUsd + Tally.total finished
  chains : ∀ chainId, later.chainSpentUsd.getD chainId 0 + Tally.totalOn chainId lost =
    os.chainSpentUsd.getD chainId 0 + Tally.totalOn chainId finished
  agree : later.totalSpentUsd - later.chainSpentUsd.sumOf (fun _ spent => spent) =
    os.totalSpentUsd - os.chainSpentUsd.sumOf (fun _ spent => spent)

omit [PlannerProtocol P] [ArbiterProtocol A] [StoreProtocol S] in
theorem Balanced.trans {os later last : VeronicaOS P A S}
    {finished lost finished' lost' : List (String × ℚ)} (first : Balanced os later finished lost)
    (rest : Balanced later last finished' lost') :
    Balanced os last (finished ++ finished') (lost ++ lost') := by
  obtain ⟨total, chains, agree⟩ := first
  obtain ⟨total', chains', agree'⟩ := rest
  refine ⟨?_, fun chainId => ?_, agree'.trans agree⟩
  · rw [Tally.total_append, Tally.total_append]
    linarith
  · have here := chains chainId
    have there := chains' chainId
    rw [Tally.totalOn_append, Tally.totalOn_append]
    linarith

omit [PlannerProtocol P] [ArbiterProtocol A] [StoreProtocol S] in
theorem balanced_of_kept {os later : VeronicaOS P A S} (costs : List (String × ℚ))
    (total : later.totalSpentUsd = os.totalSpentUsd)
    (chains : later.chainSpentUsd = os.chainSpentUsd) : Balanced os later costs costs :=
  ⟨by rw [total], fun _ => by rw [chains], by rw [total, chains]⟩

theorem step_balanced (legal : FiniteCosts setup s call) (unrounded : Unrounded setup s call) :
    Balanced s.os (callStep setup s call).os (collected setup call).toList
      (if Accounted setup s call then [] else (collected setup call).toList) := by
  rcases callStep_counters legal with
    ⟨accounted, none, total, chains⟩ | ⟨skipped, total, chains⟩ |
      ⟨accounted, chainId, cost, some, total, chains⟩
  · rw [if_pos accounted, none]
    exact balanced_of_kept [] total chains
  · rw [if_neg skipped]
    exact balanced_of_kept _ total chains
  · obtain ⟨exactTotal, exactChain⟩ := unrounded chainId cost some
    rw [exactTotal] at total
    rw [exactChain, ← Tally.add] at chains
    rw [if_pos accounted, some, Option.toList_some]
    refine ⟨?_, fun c => ?_, ?_⟩
    · rw [total, Tally.total_singleton]
      exact add_zero _
    · rw [chains, Tally.getD_add, Tally.totalOn_singleton]
      exact add_zero _
    · rw [total, chains, Tally.sumOf_add, add_sub_add_right_eq_sub]

theorem run_balanced {calls : List Call}
    (finite : Runs.EachStep (callStep setup) (FiniteCosts setup) s calls)
    (unrounded : Runs.EachStep (callStep setup) (Unrounded setup) s calls) :
    Balanced s.os (Runs.run (callStep setup) s calls).os (calls.filterMap (collected setup))
      (lost setup s calls) := by
  induction calls generalizing s with
  | nil => exact balanced_of_kept [] rfl rfl
  | cons call rest ih =>
    have joined : (call :: rest).filterMap (collected setup) =
        (collected setup call).toList ++ rest.filterMap (collected setup) := by
      cases found : collected setup call <;> simp [found]
    rw [joined]
    exact (step_balanced finite.1 unrounded.1).trans (ih finite.2 unrounded.2)

/-- What every run that accounts each step keeps: the counters continue as running totals. -/
theorem run_totalled {calls : List Call}
    (finite : Runs.EachStep (callStep setup) (FiniteCosts setup) s calls)
    (accounted : Runs.EachStep (callStep setup) (Accounted setup) s calls) :
    let os := (Runs.run (callStep setup) s calls).os
    let finished := calls.filterMap (collected setup)
    os.totalSpentUsd = setup.arithmetic.total s.os.totalSpentUsd (finished.map Prod.snd) ∧
    ∀ chainId, os.chainSpentUsd.getD chainId 0 =
      setup.arithmetic.total (s.os.chainSpentUsd.getD chainId 0)
        ((finished.filter fun cost => cost.1 = chainId).map Prod.snd) := by
  induction calls generalizing s with
  | nil => exact ⟨rfl, fun _ => rfl⟩
  | cons call rest ih =>
    obtain ⟨total, chains⟩ := ih finite.2 accounted.2
    rcases callStep_counters finite.1 with
      ⟨_, none, kept, same⟩ | ⟨skipped, _⟩ | ⟨_, chainId, cost, some, added, booked⟩
    · rw [kept] at total
      rw [same] at chains
      simp only [List.filterMap_cons, none]
      exact ⟨total, chains⟩
    · exact absurd accounted.1 skipped
    · rw [added] at total
      rw [booked] at chains
      simp only [List.filterMap_cons, some, List.map_cons, Arithmetic.total_cons]
      refine ⟨total, fun c => ?_⟩
      refine (chains c).trans ?_
      by_cases here : chainId = c
      · subst here
        rw [List.filter_cons_of_pos (by simp), List.map_cons, Arithmetic.total_cons]
        simp only [Dict.getD, Dict.get?_set_self, Option.getD_some]
      · rw [List.filter_cons_of_neg (by simpa using here)]
        simp only [Dict.getD, Dict.get?_set_of_ne _ (Ne.symm here)]

/-- In every run, with any stages, any timing and any arithmetic: if no step is left out, the
    counters are the running totals of the collected costs of the finished steps; and if no
    addition is rounded, they equal the sums exactly when the lost costs cancel on every chain. -/
theorem spend_exact_iff {planner : P} {arbiter : A} {store : S} {calls : List Call}
    (finite : Runs.EachStep (callStep setup) (FiniteCosts setup)
      (started (created planner arbiter store)) calls) :
    let start := started (created planner arbiter store)
    let os := (Runs.run (callStep setup) start calls).os
    let finished := calls.filterMap (collected setup)
    (Runs.EachStep (callStep setup) (Accounted setup) start calls →
      SpendTotalled setup.arithmetic os finished) ∧
    (Runs.EachStep (callStep setup) (Unrounded setup) start calls →
      (SpendExact os finished ↔
        ∀ chainId, Tally.totalOn chainId (lost setup start calls) = 0)) := by
  intro start os finished
  refine ⟨fun accounted => run_totalled finite accounted, fun unrounded => ?_⟩
  obtain ⟨total, chains, agree⟩ := run_balanced finite unrounded
  have total : os.totalSpentUsd + Tally.total (lost setup start calls) = Tally.total finished :=
    total.trans (zero_add _)
  have chains : ∀ chainId, os.chainSpentUsd.getD chainId 0 +
      Tally.totalOn chainId (lost setup start calls) = Tally.totalOn chainId finished :=
    fun chainId => (chains chainId).trans (zero_add _)
  have agree : os.totalSpentUsd - os.chainSpentUsd.sumOf (fun _ spent => spent) = 0 :=
    agree.trans (sub_self 0)
  constructor
  · intro exactly chainId
    have kept := chains chainId
    rwa [exactly.2.2 chainId, add_eq_left] at kept
  · intro cancel
    refine ⟨?_, sub_eq_zero.mp agree, fun chainId => ?_⟩
    · rwa [Tally.total_eq_zero cancel, add_zero] at total
    · have kept := chains chainId
      rwa [cancel chainId, add_zero] at kept

def slowCollector : AfterTimes := { collectedInTime with collectorMs := 6 }
def slowAnalyzer : AfterTimes := { collectedInTime with analyzerMs := 25 }

/-- A collector one millisecond over its budget, and the cost of the step is in no counter. -/
theorem slow_collector_loses_cost :
    let setup := defaultSetup 1 none
    let calls : List Call :=
      [.before 1 (llmIntent "1") inTime, .after 1 (snapshotOf (1 / 2)) slowCollector]
    let final := Runs.run (callStep setup) (started defaultOS) calls
    Runs.EachStep (callStep setup) (FiniteCosts setup) (started defaultOS) calls ∧
      Runs.EachStep (callStep setup) (Unrounded setup) (started defaultOS) calls ∧
      final.handles.keys = [] ∧ ¬ SpendExact final.os (calls.filterMap (collected setup)) := by
  refine ⟨by decide +kernel, by decide +kernel, by decide +kernel, ?_⟩
  intro exactly
  obtain ⟨total, _⟩ := exactly
  revert total
  decide +kernel

/-- In doubles: a slow analyzer loses nothing, in whatever order the steps finish, and quarters
    of a dollar are added exactly. -/
theorem slow_analyzer_spend_exact :
    let setup := { defaultSetup 1 none with arithmetic := .double }
    let calls : List Call :=
      [.before 1 (llmIntent "1") inTime, .before 2 (llmIntent "2") inTime,
        .after 2 (snapshotOf (1 / 4)) slowAnalyzer,
        .after 1 (snapshotOf (1 / 2)) collectedInTime]
    let final := Runs.run (callStep setup) (started defaultOS) calls
    SpendTotalled setup.arithmetic final.os (calls.filterMap (collected setup)) ∧
      SpendExact final.os (calls.filterMap (collected setup)) := by
  intro setup calls final
  have finite : Runs.EachStep (callStep setup) (FiniteCosts setup) (started defaultOS) calls := by
    decide +kernel
  obtain ⟨totalled, exact_iff⟩ := spend_exact_iff finite
  refine ⟨totalled (by decide +kernel), (exact_iff (by decide +kernel)).mpr fun chainId => ?_⟩
  have none_lost : lost setup (started defaultOS) calls = [] := by decide +kernel
  exact congrArg (Tally.totalOn chainId) none_lost

end VeronicaSpend
