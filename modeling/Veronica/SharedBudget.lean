import Veronica.RedisArbiter
import Veronica.Library.Commitments

/- Any number of processes on one shared budget. What the ledger has reserved is compared with
   what the processes were granted, over every interleaving of reserves and settles. -/
namespace VeronicaSharedBudget
open VeronicaTypes VeronicaLedger VeronicaRedis

/-- The ledger, the ceilings granted to steps still open with the sum of the settled costs, and
    the steps that have reserved. -/
structure Shared where
  ledger : Ledger
  book : Commitments (String × String) ℚ
  started : List (String × String)

inductive SharedOp where
  | reserve (requestId stepId : String) (desire : DesiredPolicy) (now : ℚ)
  | settle (requestId stepId : String) (actualCostUsd : ℚ)

def opened : Shared :=
  { ledger := unwritten, book := { spent := 0, promised := ∅ }, started := [] }

variable (arbiter : RedisArbiter)

/-- The ceiling in the policy that a reserve returns. -/
def granted (ledger : Ledger) (requestId stepId : String) (desire : DesiredPolicy) (now : ℚ) :
    ℚ :=
  let configs := (arbiter.arbitrateRedis ledger [desire] requestId stepId now).2
  ((configs.get? desire.chainId).map PolicyConfig.ceilingUsd).getD 0

def effect (s : Shared) : SharedOp → Commitments.Effect (String × String) ℚ
  | .reserve requestId stepId desire now =>
    .promise (requestId, stepId) (granted arbiter s.ledger requestId stepId desire now)
  | .settle requestId stepId actualCostUsd => .fulfil (requestId, stepId) actualCostUsd

def sharedStep (s : Shared) (op : SharedOp) : Shared :=
  let book := s.book.apply (effect arbiter s op)
  match op with
  | .reserve requestId stepId desire now => {
      ledger := (arbiter.arbitrateRedis s.ledger [desire] requestId stepId now).1
      book
      started := (requestId, stepId) :: s.started }
  | .settle requestId stepId actualCostUsd => { s with
      ledger := arbiter.settle s.ledger requestId stepId (.finite actualCostUsd)
      book }

/-- One reserve for each step, with a ceiling that some cost can meet, and one settle after it
    with a cost within the granted ceiling; all in whole micro-USD. -/
def WellFormed (s : Shared) : SharedOp → Prop
  | .reserve requestId stepId desire _ =>
    (requestId, stepId) ∉ s.started ∧ 0 ≤ desire.ceilingUsd ∧ WholeMicro desire.ceilingUsd
  | .settle requestId stepId actualCostUsd =>
    WholeMicro actualCostUsd ∧ 0 ≤ actualCostUsd ∧
    ∃ ceiling ∈ s.book.promised.get? (requestId, stepId), actualCostUsd ≤ ceiling

instance (s : Shared) (op : SharedOp) : Decidable (WellFormed s op) :=
  match op with
  | .reserve requestId stepId desire _ => inferInstanceAs (Decidable
      ((requestId, stepId) ∉ s.started ∧ 0 ≤ desire.ceilingUsd ∧ WholeMicro desire.ceilingUsd))
  | .settle requestId stepId actualCostUsd => inferInstanceAs (Decidable
      (WholeMicro actualCostUsd ∧ 0 ≤ actualCostUsd ∧
        ∃ ceiling ∈ s.book.promised.get? (requestId, stepId), actualCostUsd ≤ ceiling))

def Shared.remainingUsd (s : Shared) : ℚ :=
  fromMicro (s.ledger.effectiveRemaining arbiter.totalBudgetMicro)

def Shared.openCeilings (s : Shared) : ℚ := s.book.promised.sumOf fun _ ceiling => ceiling

/-- At a reserve, the ceilings of the open steps and the desired one fit into what is reserved
    and remaining. The desired one counts only up to the remaining budget, unless another step
    holds a record under the same key. -/
def Room (s : Shared) : SharedOp → Prop
  | .reserve requestId stepId desire _ =>
    let claimed :=
      if s.ledger.alloc.get? (arbiter.allocKey requestId stepId) = none then
        min desire.ceilingUsd (s.remainingUsd arbiter)
      else desire.ceilingUsd
    s.openCeilings + claimed ≤ fromMicro s.ledger.live + s.remainingUsd arbiter
  | .settle _ _ _ => True

instance (s : Shared) (op : SharedOp) : Decidable (Room arbiter s op) :=
  match op with
  | .reserve _ _ _ _ => inferInstanceAs (Decidable (_ ≤ _))
  | .settle _ _ _ => inferInstanceAs (Decidable True)

theorem reserve_ledger (ledger : Ledger) (requestId stepId : String) (desire : DesiredPolicy)
    (now : ℚ) :
    (arbiter.arbitrateRedis ledger [desire] requestId stepId now).1 =
      ledgerStep arbiter.totalBudgetMicro ledger
        (.reserve (arbiter.allocKey requestId stepId) (RedisArbiter.allocRecord desire now)) :=
  rfl

theorem granted_reply (ledger : Ledger) (requestId stepId : String) (desire : DesiredPolicy)
    (now : ℚ) :
    granted arbiter ledger requestId stepId desire now =
      RedisArbiter.ceilingOf desire (arbiter.reserve ledger desire requestId stepId now).2 := by
  simp [granted, RedisArbiter.arbitrateRedis, VeronicaArbiters.issue]

theorem micro_le_iff {usd : ℚ} (whole : WholeMicro usd) {amount : Int} :
    usd ≤ fromMicro amount ↔ toMicro usd ≤ amount := by
  rw [← fromMicro_le_iff, ← whole]

theorem granted_eq {ledger : Ledger} {requestId stepId : String} {desire : DesiredPolicy}
    (whole : WholeMicro desire.ceilingUsd) (now : ℚ) :
    granted arbiter ledger requestId stepId desire now =
      if ledger.alloc.get? (arbiter.allocKey requestId stepId) = none then
        min desire.ceilingUsd (fromMicro (ledger.effectiveRemaining arbiter.totalBudgetMicro))
      else desire.ceilingUsd := by
  rw [granted_reply, RedisArbiter.reserve]
  rcases reserve_cases ledger (arbiter.allocKey requestId stepId)
      (RedisArbiter.allocRecord desire now) arbiter.totalBudgetMicro with
    ⟨existing, found, eq⟩ | ⟨absent, short, eq⟩ | ⟨absent, enough, eq⟩
  · simp only [eq, RedisArbiter.ceilingOf, found, reduceCtorEq, if_false]
  · have above : ¬ desire.ceilingUsd ≤ _ := fun le => not_le.mpr short ((micro_le_iff whole).mp le)
    simp only [eq, RedisArbiter.ceilingOf, absent, if_true, min_eq_right (not_le.mp above).le]
  · have within := (micro_le_iff whole).mpr enough
    simp only [eq, RedisArbiter.ceilingOf, absent, if_true, min_eq_left within]

/-- What holds while every grant has fitted: nothing is lost between the ledger and the costs,
    and each live record belongs to an open step that was granted at least its amount. -/
structure Backed (s : Shared) : Prop where
  written : s.ledger.Written
  stored : ∀ step ceiling, s.book.promised.get? step = some ceiling →
    ∃ amount, s.ledger.remaining = some amount
  conserved : s.remainingUsd arbiter + fromMicro s.ledger.live + s.book.spent =
    fromMicro arbiter.totalBudgetMicro
  floor : 0 ≤ s.ledger.effectiveRemaining arbiter.totalBudgetMicro
  nonneg : ∀ step ceiling, s.book.promised.get? step = some ceiling → 0 ≤ ceiling
  owned : ∀ key record, s.ledger.alloc.get? key = some record →
    ∃ step ceiling, s.book.promised.get? step = some ceiling ∧
      arbiter.allocKey step.1 step.2 = key ∧ fromMicro record.totalReservedMicro ≤ ceiling
  covered : s.book.Covered (fromMicro arbiter.totalBudgetMicro)

/-- Steps that never reserved have no open ceiling. -/
def Fresh (s : Shared) : Prop :=
  ∀ step, step ∉ s.started → s.book.promised.get? step = none

variable {arbiter} {s : Shared} {op : SharedOp}

theorem step_fresh (fresh : Fresh s) : Fresh (sharedStep arbiter s op) := by
  cases op with
  | reserve requestId stepId desire now =>
    intro step unseen
    simp only [sharedStep, List.mem_cons, not_or] at unseen
    simp only [sharedStep, effect, Commitments.apply]
    rw [Dict.get?_set_of_ne _ unseen.1]
    exact fresh step unseen.2
  | settle requestId stepId actualCostUsd =>
    intro step unseen
    simp only [sharedStep, effect, Commitments.apply, Dict.get?_erase]
    split
    · rfl
    · exact fresh step unseen

theorem step_moves (fresh : Fresh s) (wellFormed : WellFormed s op) :
    s.book.Allowed (effect arbiter s op) ∧
    (sharedStep arbiter s op).book = s.book.apply (effect arbiter s op) := by
  cases op with
  | reserve requestId stepId desire now => exact ⟨fresh _ wellFormed.1, rfl⟩
  | settle requestId stepId actualCostUsd =>
    obtain ⟨_, _, ceiling, found, within⟩ := wellFormed
    exact ⟨⟨ceiling, found, Or.inl within⟩, rfl⟩

theorem Backed.openCeilings_eq (backed : Backed arbiter s) :
    s.openCeilings = s.book.promised.sumOf fun _ ceiling => max 0 ceiling :=
  Dict.sumOf_congr fun step ceiling found => (max_eq_right (backed.nonneg step ceiling found)).symm

theorem Backed.granted_nonneg (backed : Backed arbiter s) {desire : DesiredPolicy}
    (desired : 0 ≤ desire.ceilingUsd) (whole : WholeMicro desire.ceilingUsd)
    (requestId stepId : String) (now : ℚ) :
    0 ≤ granted arbiter s.ledger requestId stepId desire now := by
  rw [granted_eq arbiter whole]
  split
  · exact le_min desired (fromMicro_nonneg_iff.mpr backed.floor)
  · exact desired

theorem fits_iff_room (backed : Backed arbiter s) (wellFormed : WellFormed s op) :
    s.book.Fits (fromMicro arbiter.totalBudgetMicro) (effect arbiter s op) ↔
      Room arbiter s op := by
  cases op with
  | settle requestId stepId actualCostUsd => exact Iff.rfl
  | reserve requestId stepId desire now =>
    obtain ⟨_, desired, whole⟩ := wellFormed
    have ceiling := backed.granted_nonneg desired whole requestId stepId now
    have conserved := backed.conserved
    simp only [Commitments.Fits, effect, Commitments.exposure, Room, max_eq_right ceiling,
      ← backed.openCeilings_eq]
    rw [granted_eq arbiter whole, Shared.remainingUsd]
    simp only [Shared.remainingUsd] at conserved
    constructor <;> intro le <;> linarith

theorem Backed.spent_and_open (backed : Backed arbiter s) :
    s.openCeilings ≤ s.remainingUsd arbiter + fromMicro s.ledger.live := by
  have covered := Commitments.covered_iff.mp backed.covered
  have conserved := backed.conserved
  rw [Commitments.exposure, ← backed.openCeilings_eq] at covered
  linarith

theorem Backed.owned_elsewhere (backed : Backed arbiter s) {requestId stepId key : String}
    {record : Alloc}
    (kept : (s.ledger.alloc.erase (arbiter.allocKey requestId stepId)).get? key = some record) :
    ∃ step amount, (s.book.promised.erase (requestId, stepId)).get? step = some amount ∧
      arbiter.allocKey step.1 step.2 = key ∧ fromMicro record.totalReservedMicro ≤ amount := by
  obtain ⟨elsewhere, kept⟩ := Dict.get?_of_erase kept
  obtain ⟨step, amount, promised, same, le⟩ := backed.owned key record kept
  refine ⟨step, amount, ?_, same, le⟩
  rw [Dict.get?_erase, if_neg, promised]
  rintro rfl
  exact elsewhere same.symm

theorem Backed.others_reserved (backed : Backed arbiter s) {requestId stepId : String}
    {ceiling : ℚ} (found : s.book.promised.get? (requestId, stepId) = some ceiling) :
    fromMicro s.ledger.live -
      fromMicro (s.ledger.reservedFor (arbiter.allocKey requestId stepId)) ≤
      s.openCeilings - ceiling := by
  have others : fromMicro (s.ledger.live -
      s.ledger.reservedFor (arbiter.allocKey requestId stepId)) ≤
      (s.book.promised.erase (requestId, stepId)).sumOf fun _ ceiling => ceiling := by
    rw [← live_erase]
    refine (Dict.map_sumOf fromMicroHom _ _).trans_le ?_
    refine Dict.sumOf_le_of_owners (fun step => arbiter.allocKey step.1 step.2) ?_ ?_
    · exact Dict.forall_erase (requestId, stepId) backed.nonneg
    · intro key record kept
      exact backed.owned_elsewhere kept
  have erased := Dict.sumOf_erase found fun _ (ceiling : ℚ) => ceiling
  rw [fromMicro_sub] at others
  rw [Shared.openCeilings]
  linarith

theorem Backed.enough_to_settle (backed : Backed arbiter s) {requestId stepId : String}
    {actualCostUsd : ℚ}
    (wellFormed : WellFormed s (.settle requestId stepId actualCostUsd)) :
    toMicro actualCostUsd ≤ s.ledger.effectiveRemaining arbiter.totalBudgetMicro +
      s.ledger.reservedFor (arbiter.allocKey requestId stepId) := by
  obtain ⟨whole, _, ceiling, found, within⟩ := wellFormed
  have others := backed.others_reserved found
  have covered := backed.spent_and_open
  rw [← fromMicro_le_iff, fromMicro_add, ← whole]
  simp only [Shared.remainingUsd] at covered
  linarith

theorem settle_backed (backed : Backed arbiter s) {requestId stepId : String}
    {actualCostUsd : ℚ}
    (wellFormed : WellFormed s (.settle requestId stepId actualCostUsd))
    (covered : (sharedStep arbiter s (.settle requestId stepId actualCostUsd)).book.Covered
      (fromMicro arbiter.totalBudgetMicro)) :
    Backed arbiter (sharedStep arbiter s (.settle requestId stepId actualCostUsd)) := by
  have enough := backed.enough_to_settle wellFormed
  obtain ⟨whole, _, ceiling, found, _⟩ := wellFormed
  obtain ⟨amount, stored⟩ := backed.stored _ _ found
  have floor := backed.floor
  simp only [Ledger.effectiveRemaining, stored, Option.getD_some] at enough floor
  have remaining : (luaSettle s.ledger (arbiter.allocKey requestId stepId)
      (toMicro actualCostUsd)).1.remaining = some (amount +
        s.ledger.reservedFor (arbiter.allocKey requestId stepId) - toMicro actualCostUsd) := by
    rw [settle_remaining stored floor, max_eq_right (by omega)]
  have live : (luaSettle s.ledger (arbiter.allocKey requestId stepId)
      (toMicro actualCostUsd)).1.live =
      s.ledger.live - s.ledger.reservedFor (arbiter.allocKey requestId stepId) := by
    rw [Ledger.live, settle_alloc, live_erase]
  have alloc := settle_alloc s.ledger (arbiter.allocKey requestId stepId) (toMicro actualCostUsd)
  constructor
  case written =>
    exact step_written arbiter.totalBudgetMicro (.settle _ _) backed.written
  case stored =>
    exact fun _ _ _ => ⟨_, remaining⟩
  case conserved =>
    have conserved := backed.conserved
    simp only [Shared.remainingUsd, Ledger.effectiveRemaining, stored, Option.getD_some]
      at conserved
    simp only [Shared.remainingUsd, Ledger.effectiveRemaining, sharedStep, RedisArbiter.settle,
      PyFloat.finiteOrZero_finite, remaining, live, Option.getD_some, effect,
      Commitments.apply, fromMicro_add, fromMicro_sub]
    have same : actualCostUsd = fromMicro (toMicro actualCostUsd) := whole
    linarith
  case floor =>
    simp only [Ledger.effectiveRemaining, sharedStep, RedisArbiter.settle,
      PyFloat.finiteOrZero_finite, remaining, Option.getD_some]
    omega
  case nonneg =>
    exact Dict.forall_erase (requestId, stepId) backed.nonneg
  case owned =>
    intro key record kept
    simp only [sharedStep, RedisArbiter.settle, PyFloat.finiteOrZero_finite, alloc] at kept
    exact backed.owned_elsewhere kept
  case covered => exact covered

theorem promised_beside (fresh : Fresh s) {step owner : String × String} {ceiling : ℚ}
    (unseen : step ∉ s.started) (promised : s.book.promised.get? owner = some ceiling)
    (amount : ℚ) :
    (s.book.apply (.promise step amount)).promised.get? owner = some ceiling := by
  rw [Commitments.apply, Dict.get?_set_of_ne, promised]
  rintro rfl
  rw [fresh owner unseen] at promised
  cases promised

theorem refused_backed (backed : Backed arbiter s) (fresh : Fresh s) {s' : Shared}
    {step : String × String} {ceiling : ℚ} (unseen : step ∉ s.started)
    (nonneg : 0 ≤ ceiling) (book : s'.book = s.book.apply (.promise step ceiling))
    (remaining : s'.ledger.remaining =
      some (s.ledger.effectiveRemaining arbiter.totalBudgetMicro))
    (alloc : s'.ledger.alloc = s.ledger.alloc)
    (covered : s'.book.Covered (fromMicro arbiter.totalBudgetMicro)) : Backed arbiter s' := by
  have effective : s'.ledger.effectiveRemaining arbiter.totalBudgetMicro =
      s.ledger.effectiveRemaining arbiter.totalBudgetMicro := by
    simp [Ledger.effectiveRemaining, remaining]
  constructor
  case written => exact fun _ _ _ => ⟨_, remaining⟩
  case stored => exact fun _ _ _ => ⟨_, remaining⟩
  case conserved =>
    have conserved := backed.conserved
    simpa only [Shared.remainingUsd, effective, Ledger.live, alloc, book, Commitments.apply]
      using conserved
  case floor =>
    rw [effective]
    exact backed.floor
  case nonneg =>
    rw [book]
    exact Dict.forall_set nonneg backed.nonneg
  case owned =>
    intro key record live
    rw [alloc] at live
    obtain ⟨owner, amount, promised, same, le⟩ := backed.owned key record live
    refine ⟨owner, amount, ?_, same, le⟩
    rw [book]
    exact promised_beside fresh unseen promised _
  case covered => exact covered

/-- A reserve that finds room stores its record and takes the amount from what remains. -/
theorem accepted_backed (backed : Backed arbiter s) (fresh : Fresh s) {requestId stepId : String}
    {desire : DesiredPolicy} {record : Alloc} {s' : Shared}
    (unseen : (requestId, stepId) ∉ s.started) (nonneg : 0 ≤ desire.ceilingUsd)
    (reserved : fromMicro record.totalReservedMicro = desire.ceilingUsd)
    (absent : s.ledger.alloc.get? (arbiter.allocKey requestId stepId) = none)
    (enough : record.totalReservedMicro ≤ s.ledger.effectiveRemaining arbiter.totalBudgetMicro)
    (book : s'.book = s.book.apply (.promise (requestId, stepId) desire.ceilingUsd))
    (remaining : s'.ledger.remaining = some
      (s.ledger.effectiveRemaining arbiter.totalBudgetMicro - record.totalReservedMicro))
    (alloc : s'.ledger.alloc = s.ledger.alloc.set (arbiter.allocKey requestId stepId) record)
    (covered : s'.book.Covered (fromMicro arbiter.totalBudgetMicro)) : Backed arbiter s' := by
  have live : s'.ledger.live = s.ledger.live + record.totalReservedMicro := by
    rw [Ledger.live, alloc]
    exact live_set absent _
  have effective : s'.ledger.effectiveRemaining arbiter.totalBudgetMicro =
      s.ledger.effectiveRemaining arbiter.totalBudgetMicro - record.totalReservedMicro := by
    simp [Ledger.effectiveRemaining, remaining]
  constructor
  case written => exact fun _ _ _ => ⟨_, remaining⟩
  case stored => exact fun _ _ _ => ⟨_, remaining⟩
  case conserved =>
    have conserved := backed.conserved
    simp only [Shared.remainingUsd] at conserved ⊢
    simp only [effective, live, book, Commitments.apply, fromMicro_sub, fromMicro_add]
    linarith
  case floor =>
    rw [effective]
    omega
  case nonneg =>
    rw [book]
    exact Dict.forall_set nonneg backed.nonneg
  case owned =>
    intro key kept found
    rw [alloc, Dict.get?_set] at found
    split at found
    · rename_i same
      cases found
      refine ⟨(requestId, stepId), desire.ceilingUsd, ?_, same.symm, reserved.le⟩
      rw [book]
      exact Dict.get?_set_self _ _ _
    · obtain ⟨owner, ceiling, promised, same, le⟩ := backed.owned key kept found
      refine ⟨owner, ceiling, ?_, same, le⟩
      rw [book]
      exact promised_beside fresh unseen promised _
  case covered => exact covered

theorem reserve_backed (backed : Backed arbiter s) (fresh : Fresh s) {requestId stepId : String}
    {desire : DesiredPolicy} {now : ℚ}
    (wellFormed : WellFormed s (.reserve requestId stepId desire now))
    (covered : (sharedStep arbiter s (.reserve requestId stepId desire now)).book.Covered
      (fromMicro arbiter.totalBudgetMicro)) :
    Backed arbiter (sharedStep arbiter s (.reserve requestId stepId desire now)) := by
  obtain ⟨unseen, desired, whole⟩ := wellFormed
  have nonneg := backed.granted_nonneg desired whole requestId stepId now
  have ledger := reserve_ledger arbiter s.ledger requestId stepId desire now
  simp only [ledgerStep] at ledger
  rcases reserve_cases s.ledger (arbiter.allocKey requestId stepId)
      (RedisArbiter.allocRecord desire now) arbiter.totalBudgetMicro with
    ⟨existing, found, eq⟩ | ⟨absent, short, eq⟩ | ⟨absent, enough, eq⟩
  · obtain ⟨amount, stored⟩ := backed.written _ _ found
    apply refused_backed backed fresh unseen nonneg rfl _ _ covered
    · simp only [sharedStep, ledger, eq, Ledger.effectiveRemaining, stored, Option.getD_some]
    · simp only [sharedStep, ledger, eq]
  · apply refused_backed backed fresh unseen nonneg rfl _ _ covered
    · simp only [sharedStep, ledger, eq]
    · simp only [sharedStep, ledger, eq]
  · have amount : granted arbiter s.ledger requestId stepId desire now = desire.ceilingUsd := by
      rw [granted_eq arbiter whole, if_pos absent]
      exact min_eq_left ((micro_le_iff whole).mpr enough)
    apply accepted_backed backed fresh unseen desired whole.symm absent enough _ _ _ covered
    · simp only [sharedStep, effect, amount]
    · simp only [sharedStep, ledger, eq]
    · simp only [sharedStep, ledger, eq]

theorem opened_backed (nonneg : 0 ≤ arbiter.totalBudgetMicro) : Backed arbiter opened where
  written := unwritten_written
  stored := by
    intro step ceiling found
    cases found
  conserved := by
    simp [Shared.remainingUsd, opened, unwritten, Ledger.effectiveRemaining, Ledger.live,
      fromMicro]
  floor := nonneg
  nonneg := by
    intro step ceiling found
    cases found
  owned := by
    intro key record live
    cases live
  covered := by
    rw [Commitments.covered_iff]
    simpa [opened, Commitments.exposure] using fromMicro_nonneg_iff.mpr nonneg

/-- For every interleaving: whatever the open steps still cost within their granted ceilings,
    the settled and open costs together stay within the budget in every state of the run,
    exactly when the budget is not negative and every reserve finds room. -/
theorem covered_iff_room {scope : String} {totalBudgetUsd : ℚ}
    (whole : WholeMicro totalBudgetUsd) {ops : List SharedOp}
    (wellFormed : Runs.EachStep (sharedStep (redisArbiter scope totalBudgetUsd)) WellFormed
      opened ops) :
    Runs.EachState (sharedStep (redisArbiter scope totalBudgetUsd))
      (fun s => s.book.Covered totalBudgetUsd) opened ops ↔
    0 ≤ totalBudgetUsd ∧
      Runs.EachStep (sharedStep (redisArbiter scope totalBudgetUsd))
        (Room (redisArbiter scope totalBudgetUsd)) opened ops := by
  have budget : fromMicro (redisArbiter scope totalBudgetUsd).totalBudgetMicro =
      totalBudgetUsd := whole.symm
  have first : opened.book.Covered totalBudgetUsd ↔ 0 ≤ totalBudgetUsd := by
    rw [Commitments.covered_iff]
    simp [opened, Commitments.exposure]
  rw [← first]
  refine Commitments.eachState_covered_iff
    (I := fun s => Fresh s ∧ Backed (redisArbiter scope totalBudgetUsd) s) ?_
    (fun s op kept legal => step_moves kept.1 legal) ?_ ?_ wellFormed
  · rintro s op ⟨fresh, backed⟩ legal covered
    have covered : (sharedStep (redisArbiter scope totalBudgetUsd) s op).book.Covered
      (fromMicro (redisArbiter scope totalBudgetUsd).totalBudgetMicro) := by rwa [budget]
    refine ⟨step_fresh fresh, ?_⟩
    cases op with
    | reserve requestId stepId desire now => exact reserve_backed backed fresh legal covered
    | settle requestId stepId actualCostUsd => exact settle_backed backed legal covered
  · rintro s op ⟨_, backed⟩ _ legal
    have exact_step := fits_iff_room backed legal
    rwa [budget] at exact_step
  · intro covered
    refine ⟨fun _ _ => rfl, opened_backed ?_⟩
    rw [← fromMicro_nonneg_iff, budget]
    exact first.mp covered

/-- A desire of the default planner at the given ceiling. -/
def desireOf (ceilingUsd : ℚ) : DesiredPolicy where
  chainId := "default"
  ceilingUsd := ceilingUsd
  ceilingSteps := 100
  ceilingTokensOut := 50000
  onExceed := .halt
  fallbackModel := none
  timeoutMs := 30000
  priority := 50

/-- The second step is refused and granted what remains; the settle of the first makes room
    for the third, and together they cost more than the dollar there was. -/
theorem refused_steps_overspend :
    let ops : List SharedOp :=
      [.reserve "r" "1" (desireOf (6 / 10)) 0, .reserve "r" "2" (desireOf (6 / 10)) 0,
        .settle "r" "1" (2 / 10), .reserve "r" "3" (desireOf (6 / 10)) 0,
        .settle "r" "2" (4 / 10), .settle "r" "3" (6 / 10)]
    let step := sharedStep (redisArbiter "default" 1)
    Runs.EachStep step WellFormed opened ops ∧ 1 < (Runs.run step opened ops).book.spent := by
  decide +kernel

/-- The same steps with ceilings that fit side by side. -/
theorem fitting_steps_covered :
    let ops : List SharedOp :=
      [.reserve "r" "1" (desireOf (6 / 10)) 0, .reserve "r" "2" (desireOf (3 / 10)) 0,
        .settle "r" "1" (2 / 10), .reserve "r" "3" (desireOf (5 / 10)) 0,
        .settle "r" "2" (3 / 10), .settle "r" "3" (5 / 10)]
    Runs.EachState (sharedStep (redisArbiter "default" 1)) (fun s => s.book.Covered 1)
      opened ops :=
  (covered_iff_room (by decide +kernel) (by decide +kernel)).mpr
    ⟨by norm_num, by decide +kernel⟩

end VeronicaSharedBudget
