import Veronica.SharedBudget

/- All calls of `_arbitrate_redis` for one step, with the reserves, settles and expiries of the
   scope in between. -/
namespace VeronicaRetries
open VeronicaTypes VeronicaLedger VeronicaRedis VeronicaSharedBudget

/-- One call: what it asked for and found, then what it was answered and what it took. -/
structure Attempt where
  desiredUsd : ℚ
  foundRoom : Bool
  reserves : Bool
  remaining : Int
  ceilingUsd : ℚ
  deducted : Int

structure Retried where
  ledger : Ledger
  attempts : List Attempt := []

inductive Action where
  | call (desire : DesiredPolicy) (now : ℚ)
  | elsewhere (op : LedgerOp)

variable (arbiter : RedisArbiter) (requestId stepId : String)

section Calls
variable (ledger : Ledger) (desire : DesiredPolicy)

def Recorded : Prop := ledger.alloc.get? (arbiter.allocKey requestId stepId) ≠ none

def Enough : Prop :=
  toMicro desire.ceilingUsd ≤ ledger.effectiveRemaining arbiter.totalBudgetMicro

instance : Decidable (Recorded arbiter requestId stepId ledger) :=
  decidable_of_iff ((ledger.alloc.get? (arbiter.allocKey requestId stepId)).isSome = true)
    (by simp [Recorded, Option.ne_none_iff_isSome])

instance : Decidable (Enough arbiter ledger desire) := inferInstanceAs (Decidable (_ ≤ _))

/-- There is a record of the step, or the desired amount is there. -/
def FindsRoom : Prop := Recorded arbiter requestId stepId ledger ∨ Enough arbiter ledger desire

/-- There is no record, and the desired amount is there and is not nothing. -/
def Reserves : Prop :=
  ¬ Recorded arbiter requestId stepId ledger ∧ Enough arbiter ledger desire ∧
    toMicro desire.ceilingUsd ≠ 0

instance : Decidable (FindsRoom arbiter requestId stepId ledger desire) :=
  inferInstanceAs (Decidable (_ ∨ _))

instance : Decidable (Reserves arbiter requestId stepId ledger desire) :=
  inferInstanceAs (Decidable (_ ∧ _ ∧ _))

def attempt (now : ℚ) : Attempt where
  desiredUsd := desire.ceilingUsd
  foundRoom := FindsRoom arbiter requestId stepId ledger desire
  reserves := Reserves arbiter requestId stepId ledger desire
  remaining := ledger.effectiveRemaining arbiter.totalBudgetMicro
  ceilingUsd := granted arbiter ledger requestId stepId desire now
  deducted := ledger.effectiveRemaining arbiter.totalBudgetMicro -
    (arbiter.arbitrateRedis ledger [desire] requestId stepId now).1.effectiveRemaining
      arbiter.totalBudgetMicro

end Calls

def act (s : Retried) : Action → Retried
  | .call desire now => {
      ledger := (arbiter.arbitrateRedis s.ledger [desire] requestId stepId now).1
      attempts := s.attempts ++ [attempt arbiter requestId stepId s.ledger desire now] }
  | .elsewhere op => { s with ledger := ledgerStep arbiter.totalBudgetMicro s.ledger op }

def OneAnswer (s : Retried) : Prop :=
  ∀ first ∈ s.attempts.head?, ∀ a ∈ s.attempts, a.ceilingUsd = first.ceilingUsd

def DeductedOnce (s : Retried) : Prop :=
  (s.attempts.filter fun a => a.deducted ≠ 0).length ≤ 1

def Idempotent (s : Retried) : Prop := OneAnswer s ∧ DeductedOnce s

/-- What a call is due: its desire where it found room, and else what remained. -/
def Attempt.due (a : Attempt) : ℚ := if a.foundRoom then a.desiredUsd else fromMicro a.remaining

/-- A later call is due what the first one was, and reserves only if no earlier one did. -/
def SameAgain (s : Retried) : Action → Prop
  | .call desire _ =>
    (∀ first ∈ s.attempts.head?,
      (FindsRoom arbiter requestId stepId s.ledger desire → desire.ceilingUsd = first.due) ∧
      (¬ FindsRoom arbiter requestId stepId s.ledger desire →
        fromMicro (s.ledger.effectiveRemaining arbiter.totalBudgetMicro) = first.due)) ∧
    (Reserves arbiter requestId stepId s.ledger desire → ∀ a ∈ s.attempts, a.reserves = false)
  | .elsewhere _ => True

section Attempts
variable {arbiter requestId stepId} {ledger : Ledger} {desire : DesiredPolicy}

theorem attempt_ceilingUsd (now : ℚ) :
    (attempt arbiter requestId stepId ledger desire now).ceilingUsd =
      (attempt arbiter requestId stepId ledger desire now).due := by
  simp only [attempt, Attempt.due, granted_reply, RedisArbiter.reserve, decide_eq_true_eq]
  rcases reserve_cases ledger (arbiter.allocKey requestId stepId)
      (RedisArbiter.allocRecord desire now) arbiter.totalBudgetMicro with
    ⟨existing, found, eq⟩ | ⟨absent, short, eq⟩ | ⟨absent, enough, eq⟩
  · have room : FindsRoom arbiter requestId stepId ledger desire :=
      Or.inl (by simp [Recorded, found])
    simp only [eq, RedisArbiter.ceilingOf, room, if_true]
  · have full : ¬ FindsRoom arbiter requestId stepId ledger desire :=
      not_or.mpr ⟨not_not.mpr absent, not_le.mpr short⟩
    simp only [eq, RedisArbiter.ceilingOf, full, if_false]
  · have room : FindsRoom arbiter requestId stepId ledger desire := Or.inr enough
    simp only [eq, RedisArbiter.ceilingOf, room, if_true]

theorem attempt_deducted (now : ℚ) :
    (attempt arbiter requestId stepId ledger desire now).deducted ≠ 0 ↔
      (attempt arbiter requestId stepId ledger desire now).reserves = true := by
  simp only [attempt, decide_eq_true_eq, reserve_ledger, ledgerStep]
  rcases reserve_cases ledger (arbiter.allocKey requestId stepId)
      (RedisArbiter.allocRecord desire now) arbiter.totalBudgetMicro with
    ⟨existing, found, eq⟩ | ⟨absent, short, eq⟩ | ⟨absent, enough, eq⟩
  · have recorded : Recorded arbiter requestId stepId ledger := by simp [Recorded, found]
    simp only [eq, sub_self, ne_eq, not_true, Reserves, recorded, false_and]
  · have short' : ¬ Enough arbiter ledger desire := not_le.mpr short
    simp [eq, Ledger.effectiveRemaining, Reserves, short']
  · have unrecorded : ¬ Recorded arbiter requestId stepId ledger := not_not.mpr absent
    have enough' : Enough arbiter ledger desire := enough
    simp only [eq, Ledger.effectiveRemaining, Option.getD_some, sub_sub_cancel, Reserves,
      unrecorded, enough', not_false_eq_true, true_and]
    rfl

end Attempts

/-- Every call so far got what it was due, and took something exactly if it reserved. -/
def Recounted (s : Retried) : Prop :=
  ∀ a ∈ s.attempts, a.ceilingUsd = a.due ∧ (a.deducted ≠ 0 ↔ a.reserves = true)

theorem recounted_act {s : Retried} (recounted : Recounted s) (a : Action) :
    Recounted (act arbiter requestId stepId s a) := by
  cases a with
  | elsewhere op => exact recounted
  | call desire now =>
    intro a member
    rcases List.mem_append.mp member with earlier | last
    · exact recounted a earlier
    · obtain rfl := List.mem_singleton.mp last
      exact ⟨attempt_ceilingUsd now, attempt_deducted now⟩

theorem oneAnswer_concat (ledger ledger' : Ledger) {attempts : List Attempt} {a : Attempt} :
    OneAnswer ⟨ledger', attempts ++ [a]⟩ ↔ OneAnswer ⟨ledger, attempts⟩ ∧
      ∀ first ∈ attempts.head?, a.ceilingUsd = first.ceilingUsd := by
  cases attempts with
  | nil => simp [OneAnswer]
  | cons first later =>
    simp only [OneAnswer, List.cons_append, List.head?_cons, Option.mem_def, Option.some.injEq,
      forall_eq', List.forall_mem_cons, List.forall_mem_append, List.not_mem_nil,
      IsEmpty.forall_iff, implies_true, and_true, true_and]

theorem deductedOnce_concat (ledger ledger' : Ledger) {attempts : List Attempt} {a : Attempt} :
    DeductedOnce ⟨ledger', attempts ++ [a]⟩ ↔ DeductedOnce ⟨ledger, attempts⟩ ∧
      (a.deducted ≠ 0 → ∀ b ∈ attempts, b.deducted = 0) := by
  have none_iff : (attempts.filter fun b => b.deducted ≠ 0).length = 0 ↔
      ∀ b ∈ attempts, b.deducted = 0 := by
    simp [List.length_eq_zero_iff, List.filter_eq_nil_iff]
  simp only [DeductedOnce, List.filter_append, List.length_append, ← none_iff]
  by_cases deducted : a.deducted = 0
  · have lone : ([a].filter fun b => b.deducted ≠ 0).length = 0 := by simp [deducted]
    rw [lone, Nat.add_zero]
    exact (and_iff_left fun taken => absurd deducted taken).symm
  · have lone : ([a].filter fun b => b.deducted ≠ 0).length = 1 := by simp [deducted]
    rw [lone]
    simp only [ne_eq, deducted, not_false_eq_true, true_implies]
    omega

/-- One more call keeps the calls idempotent exactly when it is due the same again. -/
theorem idempotent_act_iff {s : Retried} (recounted : Recounted s) (a : Action) :
    Idempotent (act arbiter requestId stepId s a) ↔
      Idempotent s ∧ SameAgain arbiter requestId stepId s a := by
  obtain ⟨ledger, attempts⟩ := s
  cases a with
  | elsewhere op => exact (and_iff_left trivial).symm
  | call desire now =>
    have answers : (∀ first ∈ attempts.head?,
        (attempt arbiter requestId stepId ledger desire now).ceilingUsd = first.ceilingUsd) ↔
        ∀ first ∈ attempts.head?,
          (FindsRoom arbiter requestId stepId ledger desire → desire.ceilingUsd = first.due) ∧
          (¬ FindsRoom arbiter requestId stepId ledger desire →
            fromMicro (ledger.effectiveRemaining arbiter.totalBudgetMicro) = first.due) := by
      refine forall₂_congr fun first member => ?_
      rw [attempt_ceilingUsd, (recounted first (List.mem_of_mem_head? member)).1, Attempt.due]
      by_cases room : FindsRoom arbiter requestId stepId ledger desire <;> simp [attempt, room]
    have deductions : ((attempt arbiter requestId stepId ledger desire now).deducted ≠ 0 →
        ∀ b ∈ attempts, b.deducted = 0) ↔
        (Reserves arbiter requestId stepId ledger desire →
          ∀ b ∈ attempts, b.reserves = false) := by
      have earlier : (∀ b ∈ attempts, b.deducted = 0) ↔ ∀ b ∈ attempts, b.reserves = false := by
        refine forall₂_congr fun b member => ?_
        rw [← Bool.not_eq_true, ← (recounted b member).2, not_not]
      rw [attempt_deducted, earlier]
      simp [attempt]
    simp only [Idempotent, act, SameAgain, oneAnswer_concat ledger, deductedOnce_concat ledger,
      answers, deductions]
    tauto

theorem recounted_start (ledger : Ledger) : Recounted { ledger } := by
  intro a member
  cases member

/-- From every ledger state and with any other scripts in between: the calls of one step all
    return the first one's ceiling and deduct at most once exactly when each is due the same
    again. -/
theorem retry_idempotent_iff (ledger : Ledger) (actions : List Action) :
    Idempotent (Runs.run (act arbiter requestId stepId) { ledger } actions) ↔
      Runs.EachStep (act arbiter requestId stepId) (SameAgain arbiter requestId stepId)
        { ledger } actions := by
  have start : Idempotent { ledger } := by simp [Idempotent, OneAnswer, DeductedOnce]
  have keep : ∀ s a, Recounted s → True → Recounted (act arbiter requestId stepId s a) :=
    fun s a recounted _ => recounted_act arbiter requestId stepId recounted a
  have exact_step : ∀ s a, Recounted s → True →
      (Idempotent (act arbiter requestId stepId s a) ↔
        Idempotent s ∧ SameAgain arbiter requestId stepId s a) :=
    fun s a recounted _ => idempotent_act_iff arbiter requestId stepId recounted a
  rw [Runs.run_exact keep exact_step (recounted_start ledger) (Runs.eachStep_true _ actions)]
  exact and_iff_right start

def desireOf (ceilingUsd : ℚ) : DesiredPolicy where
  chainId := "chain"
  ceilingUsd := ceilingUsd
  ceilingSteps := 100
  ceilingTokensOut := 50000
  onExceed := .halt
  fallbackModel := none
  timeoutMs := 30000
  priority := 50

/-- A retry after the planner has drifted is granted what it desires now. -/
theorem drifted_retry_differs :
    ¬ Idempotent (Runs.run (act (redisArbiter "default" 10) "request" "step")
      { ledger := unwritten } [.call (desireOf 1) 0, .call (desireOf 2) 1]) := by
  intro idempotent
  have answers := idempotent.1 _ rfl _ (List.mem_cons_of_mem _ List.mem_cons_self)
  revert answers
  decide +kernel

/-- The scripts of other steps work on other records. -/
def Apart (_ : Retried) : Action → Prop
  | .call _ _ => True
  | .elsewhere op => op.allocKey ≠ arbiter.allocKey requestId stepId

/-- Once a call has reserved, the record of the step is there. -/
structure Held (s : Retried) : Prop where
  recounted : Recounted s
  once : DeductedOnce s
  recorded : ∀ a ∈ s.attempts, a.reserves = true → Recorded arbiter requestId stepId s.ledger

theorem ledgerStep_record {ledger : Ledger} {total : Int} {op : LedgerOp} {allocKey : String}
    (other : op.allocKey ≠ allocKey) :
    (ledgerStep total ledger op).alloc.get? allocKey = ledger.alloc.get? allocKey := by
  cases op with
  | reserve key record =>
    simp only [ledgerStep]
    rcases reserve_cases ledger key record total with ⟨_, _, eq⟩ | ⟨_, _, eq⟩ | ⟨_, _, eq⟩
    · rw [eq]
    · rw [eq]
    · rw [eq]
      exact Dict.get?_set_of_ne _ (Ne.symm other)
  | settle key actual =>
    rw [ledgerStep, settle_alloc, Dict.get?_erase]
    exact if_neg (Ne.symm other)
  | expire key =>
    rw [ledgerStep, expire, Dict.get?_erase]
    exact if_neg (Ne.symm other)

/-- A call leaves a record exactly when there was one or the desired amount was there. -/
theorem recorded_after (ledger : Ledger) (desire : DesiredPolicy) (now : ℚ) :
    Recorded arbiter requestId stepId
      (arbiter.arbitrateRedis ledger [desire] requestId stepId now).1 ↔
      FindsRoom arbiter requestId stepId ledger desire := by
  simp only [Recorded, reserve_ledger, ledgerStep, FindsRoom, Enough]
  rcases reserve_cases ledger (arbiter.allocKey requestId stepId)
      (RedisArbiter.allocRecord desire now) arbiter.totalBudgetMicro with
    ⟨existing, found, eq⟩ | ⟨absent, short, eq⟩ | ⟨absent, enough, eq⟩
  · simp [eq, found]
  · have short' : ¬ toMicro desire.ceilingUsd ≤ _ := not_le.mpr short
    simp [eq, absent, short']
  · have enough' : toMicro desire.ceilingUsd ≤ _ := enough
    simp [eq, enough']

theorem held_act {s : Retried} (held : Held arbiter requestId stepId s) {a : Action}
    (apart : Apart arbiter requestId stepId s a) :
    Held arbiter requestId stepId (act arbiter requestId stepId s a) := by
  have recounted := recounted_act arbiter requestId stepId held.recounted a
  cases a with
  | elsewhere op =>
    refine ⟨recounted, held.once, ?_⟩
    intro b member reserved
    have before := held.recorded b member reserved
    simp only [act, Recorded] at before ⊢
    rwa [ledgerStep_record apart]
  | call desire now =>
    refine ⟨recounted, ?_, ?_⟩
    · refine (deductedOnce_concat s.ledger _).mpr ⟨held.once, ?_⟩
      intro deducted b member
      have reserves := (attempt_deducted now).mp deducted
      by_contra taken
      have recorded := held.recorded b member ((held.recounted b member).2.mp taken)
      exact (of_decide_eq_true reserves).1 recorded
    · intro b member reserved
      rw [act, recorded_after]
      rcases List.mem_append.mp member with earlier | last
      · exact Or.inl (held.recorded b earlier reserved)
      · obtain rfl := List.mem_singleton.mp last
        exact Or.inr (of_decide_eq_true reserved).2.1

/-- Whatever the calls desire: while no other script touches the record, they deduct at most
    once. -/
theorem apart_calls_deduct_once (ledger : Ledger) {actions : List Action}
    (apart : Runs.EachStep (act arbiter requestId stepId) (Apart arbiter requestId stepId)
      { ledger } actions) :
    DeductedOnce (Runs.run (act arbiter requestId stepId) { ledger } actions) := by
  have start : Held arbiter requestId stepId { ledger } := by
    refine ⟨recounted_start ledger, by simp [DeductedOnce], ?_⟩
    intro a member
    cases member
  have keep : ∀ s a, Held arbiter requestId stepId s → Apart arbiter requestId stepId s a →
      Held arbiter requestId stepId (act arbiter requestId stepId s a) :=
    fun s a held apart => held_act arbiter requestId stepId held apart
  exact (Runs.run_invariant keep start apart).once

end VeronicaRetries
