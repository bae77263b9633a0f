import Veronica.Ledger

/- An overspend larger than what remains is cut off at zero and never collected. The ledger is
   followed together with what was charged, what expired and what was cut off. -/
namespace VeronicaOverspend
open VeronicaLedger

structure Audited where
  ledger : Ledger
  /-- the actual costs of all settles so far -/
  charged : Int
  /-- the reservations lost to expiry -/
  expired : Int
  /-- the part of the charges that the floor at zero let go -/
  forgiven : Int

def initialised (total : Int) : Audited :=
  { ledger := { remaining := some total, alloc := ∅ }, charged := 0, expired := 0, forgiven := 0 }

/-- What a settle charges beyond its reservation and all that remains. -/
def shortfall (ledger : Ledger) (allocKey : String) (actual : Int) : Int :=
  max 0 (actual - ledger.reservedFor allocKey - ledger.remaining.getD 0)

def auditedStep (total : Int) (s : Audited) (op : LedgerOp) : Audited :=
  let ledger := ledgerStep total s.ledger op
  match op with
  | .reserve _ _ => { s with ledger }
  | .settle allocKey actual => { s with
      ledger
      charged := s.charged + actual
      forgiven := s.forgiven + shortfall s.ledger allocKey actual }
  | .expire allocKey => { s with ledger, expired := s.expired + s.ledger.reservedFor allocKey }

/-- Non-negative ceilings and costs; a cost may exceed its reservation. -/
def NonNegative (_ : Audited) : LedgerOp → Prop
  | .reserve _ record => 0 ≤ record.totalReservedMicro
  | .settle _ actual => 0 ≤ actual
  | .expire _ => True

def Bounded (total : Int) (s : Audited) : Prop :=
  s.ledger.effectiveRemaining total ≤ max 0 (total - s.charged - s.ledger.live)

/-- Only a settle raises the remaining budget, by at most the reservation it releases. -/
def RaisesOnlyReleased (total : Int) (s : Audited) (op : LedgerOp) : Prop :=
  let before := s.ledger.effectiveRemaining total
  let after := (auditedStep total s op).ledger.effectiveRemaining total
  match op with
  | .settle allocKey _ => after ≤ before + s.ledger.reservedFor allocKey
  | _ => after ≤ before

/-- No refund follows an overspend that was cut off, unless expired reservations cover it. -/
def NoRefundAfterForgiving (total : Int) (s : Audited) : LedgerOp → Prop
  | .settle allocKey actual =>
    0 ≤ total ∧ (actual < s.ledger.reservedFor allocKey → s.forgiven ≤ s.expired)
  | _ => True

instance (total : Int) (s : Audited) : Decidable (Bounded total s) :=
  inferInstanceAs (Decidable (_ ≤ _))

instance (s : Audited) (op : LedgerOp) : Decidable (NonNegative s op) :=
  match op with
  | .reserve _ record => inferInstanceAs (Decidable (0 ≤ record.totalReservedMicro))
  | .settle _ actual => inferInstanceAs (Decidable (0 ≤ actual))
  | .expire _ => inferInstanceAs (Decidable True)

instance (total : Int) (s : Audited) (op : LedgerOp) :
    Decidable (NoRefundAfterForgiving total s op) :=
  match op with
  | .settle allocKey actual => inferInstanceAs (Decidable
      (0 ≤ total ∧ (actual < s.ledger.reservedFor allocKey → s.forgiven ≤ s.expired)))
  | .reserve _ _ | .expire _ => inferInstanceAs (Decidable True)

def KeepsBound (total : Int) (s : Audited) (op : LedgerOp) : Prop :=
  Bounded total (auditedStep total s op) ∧ RaisesOnlyReleased total s op

/-- The books of a run whose steps have kept the bound so far. -/
structure Balanced (total : Int) (s : Audited) : Prop where
  stored : ∃ amount, s.ledger.remaining = some amount
  conserved : s.ledger.effectiveRemaining total + s.ledger.live + s.charged + s.expired =
    total + s.forgiven
  reserved : ∀ allocKey, 0 ≤ s.ledger.reservedFor allocKey
  floor : 0 ≤ total → 0 ≤ s.ledger.effectiveRemaining total
  overdrawn : total < 0 → s.ledger.effectiveRemaining total < 0 ∧
    ∀ allocKey, s.ledger.alloc.get? allocKey = none
  bounded : Bounded total s

variable {total : Int} {s : Audited} {op : LedgerOp}

theorem initialised_balanced (total : Int) : Balanced total (initialised total) where
  stored := ⟨total, rfl⟩
  conserved := by simp [initialised, Ledger.effectiveRemaining, Ledger.live]
  reserved allocKey := by simp [initialised, Ledger.reservedFor]
  floor nonneg := nonneg
  overdrawn negative := ⟨negative, fun _ => rfl⟩
  bounded := by simp [Bounded, initialised, Ledger.effectiveRemaining, Ledger.live]

theorem reservedFor_erase (ledger : Ledger) (allocKey other : String)
    (nonneg : 0 ≤ ledger.reservedFor other) :
    0 ≤ (VeronicaLedger.expire ledger allocKey).reservedFor other := by
  simp only [Ledger.reservedFor, expire, Dict.get?_erase] at nonneg ⊢
  split
  · simp
  · exact nonneg

theorem Balanced.of_same (balanced : Balanced total s) {s' : Audited}
    (remaining : s'.ledger.remaining = some (s.ledger.effectiveRemaining total))
    (alloc : s'.ledger.alloc = s.ledger.alloc) (charged : s'.charged = s.charged)
    (expired : s'.expired = s.expired) (forgiven : s'.forgiven = s.forgiven) :
    Balanced total s' := by
  have effective : s'.ledger.effectiveRemaining total = s.ledger.effectiveRemaining total := by
    simp [Ledger.effectiveRemaining, remaining]
  have live : s'.ledger.live = s.ledger.live := by simp only [Ledger.live, alloc]
  constructor
  case stored => exact ⟨_, remaining⟩
  case conserved =>
    rw [effective, live, charged, expired, forgiven]
    exact balanced.conserved
  case reserved =>
    intro allocKey
    simpa only [Ledger.reservedFor, alloc] using balanced.reserved allocKey
  case floor =>
    rw [effective]
    exact balanced.floor
  case overdrawn =>
    rw [effective, alloc]
    exact balanced.overdrawn
  case bounded =>
    rw [Bounded, effective, live, charged]
    exact balanced.bounded

theorem Balanced.remaining (balanced : Balanced total s) :
    s.ledger.remaining = some (s.ledger.effectiveRemaining total) := by
  obtain ⟨amount, stored⟩ := balanced.stored
  simp [Ledger.effectiveRemaining, stored]

theorem reserve_keeps (balanced : Balanced total s) {allocKey : String} {record : Alloc}
    (nonneg : 0 ≤ record.totalReservedMicro) :
    KeepsBound total s (.reserve allocKey record) ∧
    Balanced total (auditedStep total s (.reserve allocKey record)) := by
  rcases reserve_cases s.ledger allocKey record total with
    ⟨existing, _, eq⟩ | ⟨_, _, eq⟩ | ⟨absent, enough, eq⟩
  · have unchanged : auditedStep total s (.reserve allocKey record) = s := by
      simp [auditedStep, ledgerStep, eq]
    have raises : RaisesOnlyReleased total s (.reserve allocKey record) := by
      simp only [RaisesOnlyReleased, unchanged, le_refl]
    rw [KeepsBound, unchanged]
    exact ⟨⟨balanced.bounded, raises⟩, balanced⟩
  · have same : Balanced total (auditedStep total s (.reserve allocKey record)) := by
      apply balanced.of_same <;> simp [auditedStep, ledgerStep, eq]
    have raises : RaisesOnlyReleased total s (.reserve allocKey record) := by
      simp [RaisesOnlyReleased, auditedStep, ledgerStep, eq, Ledger.effectiveRemaining]
    exact ⟨⟨same.bounded, raises⟩, same⟩
  · have effective : (auditedStep total s (.reserve allocKey record)).ledger.effectiveRemaining
        total = s.ledger.effectiveRemaining total - record.totalReservedMicro := by
      simp [auditedStep, ledgerStep, eq, Ledger.effectiveRemaining]
    have live : (auditedStep total s (.reserve allocKey record)).ledger.live =
        s.ledger.live + record.totalReservedMicro := by
      simp only [auditedStep, ledgerStep, eq, Ledger.live, live_set absent]
    have charged : (auditedStep total s (.reserve allocKey record)).charged = s.charged := rfl
    have bounded : Bounded total (auditedStep total s (.reserve allocKey record)) := by
      have before := balanced.bounded
      simp only [Bounded, effective, live, charged] at before ⊢
      omega
    have raises : RaisesOnlyReleased total s (.reserve allocKey record) := by
      simp only [RaisesOnlyReleased, effective]
      omega
    refine ⟨⟨bounded, raises⟩, ?_⟩
    constructor
    case stored => exact ⟨_, by simp only [auditedStep, ledgerStep, eq]; rfl⟩
    case conserved =>
      have conserved := balanced.conserved
      rw [effective, live]
      show _ + s.charged + s.expired = total + s.forgiven
      omega
    case reserved =>
      intro other
      have kept := balanced.reserved other
      simp only [auditedStep, ledgerStep, eq, Ledger.reservedFor, Dict.get?_set] at kept ⊢
      split
      · simpa using nonneg
      · exact kept
    case floor =>
      intro _
      omega
    case overdrawn =>
      intro negative
      have := (balanced.overdrawn negative).1
      omega
    case bounded => exact bounded

theorem expire_keeps (balanced : Balanced total s) (allocKey : String) :
    KeepsBound total s (.expire allocKey) ∧
    Balanced total (auditedStep total s (.expire allocKey)) := by
  have effective : (auditedStep total s (.expire allocKey)).ledger.effectiveRemaining total =
      s.ledger.effectiveRemaining total := rfl
  have live : (auditedStep total s (.expire allocKey)).ledger.live =
      s.ledger.live - s.ledger.reservedFor allocKey :=
    live_erase s.ledger allocKey
  have reserved := balanced.reserved allocKey
  have bounded : Bounded total (auditedStep total s (.expire allocKey)) := by
    have before := balanced.bounded
    simp only [Bounded, effective, live] at before ⊢
    show _ ≤ max 0 (total - s.charged - _)
    omega
  have raises : RaisesOnlyReleased total s (.expire allocKey) := by
    simp only [RaisesOnlyReleased, effective, le_refl]
  refine ⟨⟨bounded, raises⟩, ?_⟩
  constructor
  case stored => exact balanced.stored
  case conserved =>
    have conserved := balanced.conserved
    rw [effective, live]
    show _ + s.charged + (s.expired + s.ledger.reservedFor allocKey) = total + s.forgiven
    omega
  case reserved =>
    intro other
    exact reservedFor_erase s.ledger allocKey other (balanced.reserved other)
  case floor => exact balanced.floor
  case overdrawn =>
    intro negative
    obtain ⟨below, empty⟩ := balanced.overdrawn negative
    refine ⟨below, fun other => ?_⟩
    show (s.ledger.alloc.erase allocKey).get? other = none
    rw [Dict.get?_erase, empty other, ite_self]
  case bounded => exact bounded

/-- With a budget that is not negative, a settle charges its cost down to the floor. -/
theorem settle_effective_remaining (balanced : Balanced total s) (nonneg : 0 ≤ total)
    (allocKey : String) (actual : Int) :
    (auditedStep total s (.settle allocKey actual)).ledger.effectiveRemaining total =
      max 0 (s.ledger.effectiveRemaining total + s.ledger.reservedFor allocKey - actual) := by
  have settled := settle_remaining balanced.remaining (balanced.floor nonneg) allocKey actual
  simp [auditedStep, ledgerStep, Ledger.effectiveRemaining, settled]

theorem settle_live (allocKey : String) (actual : Int) :
    (auditedStep total s (.settle allocKey actual)).ledger.live =
      s.ledger.live - s.ledger.reservedFor allocKey := by
  show (luaSettle s.ledger allocKey actual).1.alloc.sumOf _ = _
  rw [settle_alloc]
  exact live_erase s.ledger allocKey

theorem settle_balanced (balanced : Balanced total s) (nonneg : 0 ≤ total) {allocKey : String}
    {actual : Int} (bounded : Bounded total (auditedStep total s (.settle allocKey actual))) :
    Balanced total (auditedStep total s (.settle allocKey actual)) where
  stored := ⟨_, settle_remaining balanced.remaining (balanced.floor nonneg) allocKey actual⟩
  conserved := by
    have conserved := balanced.conserved
    rw [settle_effective_remaining balanced nonneg, settle_live]
    simp only [auditedStep, shortfall, balanced.remaining, Option.getD_some]
    omega
  reserved other := by
    have kept := reservedFor_erase s.ledger allocKey other (balanced.reserved other)
    simpa only [Ledger.reservedFor, auditedStep, ledgerStep, settle_alloc, expire] using kept
  floor _ := by
    rw [settle_effective_remaining balanced nonneg]
    exact le_max_left _ _
  overdrawn negative := by omega
  bounded := bounded

/-- The bound survives a settle exactly when the settle returns nothing that an earlier
    overspend had used up. -/
theorem settle_keeps_iff (balanced : Balanced total s) {allocKey : String} {actual : Int}
    (cost : 0 ≤ actual) :
    KeepsBound total s (.settle allocKey actual) ↔
      NoRefundAfterForgiving total s (.settle allocKey actual) := by
  have reserved := balanced.reserved allocKey
  simp only [KeepsBound, NoRefundAfterForgiving]
  rcases le_or_gt 0 total with nonneg | negative
  · have effective := settle_effective_remaining balanced nonneg allocKey actual
    have before := balanced.bounded
    have conserved := balanced.conserved
    have floor := balanced.floor nonneg
    simp only [Bounded, RaisesOnlyReleased, effective, settle_live] at before ⊢
    simp only [auditedStep]
    omega
  · -- nothing is ever reserved from a negative budget, and the floor lifts it to zero
    obtain ⟨below, empty⟩ := balanced.overdrawn negative
    have absent := empty allocKey
    have unreserved := reservedFor_of_absent absent
    have lifted : (auditedStep total s (.settle allocKey actual)).ledger.effectiveRemaining
        total = max 0 (s.ledger.effectiveRemaining total - actual) := by
      rcases settle_cases s.ledger allocKey actual with
        ⟨_, eq⟩ | ⟨_, found, _, _⟩ | ⟨_, found, _, _⟩ | ⟨_, found, _, _⟩
      · obtain ⟨amount, stored⟩ := balanced.stored
        simp [auditedStep, ledgerStep, eq, stored, Ledger.effectiveRemaining]
      · simp [absent] at found
      · simp [absent] at found
      · simp [absent] at found
    simp only [RaisesOnlyReleased, lifted, unreserved]
    omega

/-- For every run from an initialised ledger: the remaining budget stays below what is neither
    charged nor reserved, and only settles raise it, by what they release, exactly when no
    settle refunds after an overspend was cut off. -/
theorem never_resurrected_iff {ops : List LedgerOp}
    (nonNegative : Runs.EachStep (auditedStep total) NonNegative (initialised total) ops) :
    (Runs.EachState (auditedStep total) (Bounded total) (initialised total) ops ∧
      Runs.EachStep (auditedStep total) (RaisesOnlyReleased total) (initialised total) ops) ↔
    Runs.EachStep (auditedStep total) (NoRefundAfterForgiving total) (initialised total) ops := by
  have start := initialised_balanced total
  rw [Runs.eachState_iff_eachStep, and_assoc, ← Runs.eachStep_and,
    and_iff_right start.bounded]
  refine Runs.eachStep_exact (I := Balanced total) ?_ ?_ start
    nonNegative
  · intro s op balanced legal keeps
    cases op with
    | reserve allocKey record => exact (reserve_keeps balanced legal).2
    | settle allocKey actual =>
      exact settle_balanced balanced ((settle_keeps_iff balanced legal).mp keeps).1 keeps.1
    | expire allocKey => exact (expire_keeps balanced allocKey).2
  · intro s op balanced legal
    cases op with
    | reserve allocKey record => exact iff_of_true (reserve_keeps balanced legal).1 trivial
    | settle allocKey actual => exact settle_keeps_iff balanced legal
    | expire allocKey => exact iff_of_true (expire_keeps balanced allocKey).1 trivial

def twoReservations : List LedgerOp :=
  [.reserve "alloc:r:1" (reservation 500000), .reserve "alloc:r:2" (reservation 500000)]

/-- Of one dollar, 0.80 are charged and 0.20 are left, yet 0.50 can be reserved again. -/
theorem overspend_resurrected :
    let ops := twoReservations ++ [.settle "alloc:r:1" 800000, .settle "alloc:r:2" 0]
    Runs.EachStep (auditedStep 1000000) NonNegative (initialised 1000000) ops ∧
    ¬ Runs.EachState (auditedStep 1000000) (Bounded 1000000) (initialised 1000000) ops := by
  refine ⟨by decide, fun each => ?_⟩
  have last := Runs.eachState_last each
  revert last
  decide

/-- Settled in the other order, the refund comes first and pays for the excess. -/
theorem refund_before_overspend :
    let ops := twoReservations ++ [.settle "alloc:r:2" 0, .settle "alloc:r:1" 800000]
    Runs.EachState (auditedStep 1000000) (Bounded 1000000) (initialised 1000000) ops ∧
    Runs.EachStep (auditedStep 1000000) (RaisesOnlyReleased 1000000) (initialised 1000000) ops :=
  (never_resurrected_iff (by decide)).mpr (by decide)

end VeronicaOverspend
