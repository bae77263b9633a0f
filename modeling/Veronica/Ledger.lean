import Veronica.Library.Escrow
import Veronica.Library.Runs
import Mathlib.Data.Rat.Init
import Mathlib.Algebra.Order.Group.Int

/- The shared budget of one scope in Redis and the two Lua scripts that move it. Amounts are
   whole micro-USD, kept exactly: they stay below the size where Lua prints a number rounded.
   Redis runs each script atomically, so a run is a list of script calls and expiries. -/
namespace VeronicaLedger

/-- The JSON record stored under an allocation key; its status is always "reserved". -/
structure Alloc where
  chainId : String
  totalReservedMicro : Int
  ceilingUsd : ℚ
  reservedAt : ℚ

/-- The keys of one scope: the remaining budget, once written, and the live allocations. -/
structure Ledger where
  remaining : Option Int
  alloc : Dict String Alloc

inductive ReserveReply where
  | insufficient (remaining requested : Int)
  | reserved (record : Alloc)

inductive SettleReply where
  | expired (deducted : Int)
  | settled (diff : Int)

def unwritten : Ledger := { remaining := none, alloc := ∅ }

/-- LUA_RESERVE -/
def luaReserve (ledger : Ledger) (allocKey : String) (record : Alloc) (reserve total : Int) :
    Ledger × ReserveReply :=
  match ledger.alloc.get? allocKey with
  | some existing => (ledger, .reserved existing)
  | none =>
    let remaining := ledger.remaining.getD total
    if remaining < reserve then
      ({ ledger with remaining := some remaining }, .insufficient remaining reserve)
    else
      ({ remaining := some (remaining - reserve), alloc := ledger.alloc.set allocKey record },
        .reserved record)

/-- LUA_SETTLE: a missing remaining key counts as zero here. -/
def luaSettle (ledger : Ledger) (allocKey : String) (actual : Int) : Ledger × SettleReply :=
  let remaining := ledger.remaining.getD 0
  match ledger.alloc.get? allocKey with
  | none =>
    let newRemaining := remaining - actual
    ({ ledger with remaining := some (if newRemaining < 0 then 0 else newRemaining) },
      .expired actual)
  | some record =>
    let diff := record.totalReservedMicro - actual
    let alloc := ledger.alloc.erase allocKey
    if 0 < diff then
      ({ remaining := some (remaining + diff), alloc }, .settled diff)
    else if diff < 0 then
      let newRemaining := remaining + diff
      ({ remaining := some (if newRemaining < 0 then 0 else newRemaining), alloc },
        .settled diff)
    else
      ({ ledger with alloc }, .settled diff)

/-- The TTL of an allocation record runs out. -/
def expire (ledger : Ledger) (allocKey : String) : Ledger :=
  { ledger with alloc := ledger.alloc.erase allocKey }

inductive LedgerOp where
  | reserve (allocKey : String) (record : Alloc)
  | settle (allocKey : String) (actual : Int)
  | expire (allocKey : String)

def LedgerOp.allocKey : LedgerOp → String
  | .reserve allocKey _ | .settle allocKey _ | .expire allocKey => allocKey

/-- The arbiter passes the amount of its record as the amount to deduct. -/
def ledgerStep (total : Int) (ledger : Ledger) : LedgerOp → Ledger
  | .reserve allocKey record =>
    (luaReserve ledger allocKey record record.totalReservedMicro total).1
  | .settle allocKey actual => (luaSettle ledger allocKey actual).1
  | .expire allocKey => VeronicaLedger.expire ledger allocKey

/-- The record of a reservation, for the runs on fixed inputs below. -/
def reservation (micro : Int) : Alloc where
  chainId := "default"
  totalReservedMicro := micro
  ceilingUsd := micro / 1000000
  reservedAt := 1740000000

namespace Ledger

/-- What a reserve compares with: the stored value, or the total while there is none. -/
def effectiveRemaining (ledger : Ledger) (total : Int) : Int := ledger.remaining.getD total

/-- The sum of the live reservations. -/
def live (ledger : Ledger) : Int := ledger.alloc.sumOf fun _ record => record.totalReservedMicro

def reservedFor (ledger : Ledger) (allocKey : String) : Int :=
  ((ledger.alloc.get? allocKey).map Alloc.totalReservedMicro).getD 0

end Ledger

variable {ledger : Ledger} {allocKey : String} {record : Alloc} {total actual : Int}

theorem reservedFor_of_live (found : ledger.alloc.get? allocKey = some record) :
    ledger.reservedFor allocKey = record.totalReservedMicro := by
  simp [Ledger.reservedFor, found]

theorem reservedFor_of_absent (absent : ledger.alloc.get? allocKey = none) :
    ledger.reservedFor allocKey = 0 := by
  simp [Ledger.reservedFor, absent]

theorem live_erase (ledger : Ledger) (allocKey : String) :
    (ledger.alloc.erase allocKey).sumOf (fun _ record => record.totalReservedMicro) =
      ledger.live - ledger.reservedFor allocKey := by
  cases found : ledger.alloc.get? allocKey with
  | none =>
    rw [reservedFor_of_absent found, Dict.erase_of_get?_none found, sub_zero]
    rfl
  | some record =>
    have restored := Dict.sumOf_erase found fun _ (r : Alloc) => r.totalReservedMicro
    rw [reservedFor_of_live found, Ledger.live]
    omega

theorem live_set (absent : ledger.alloc.get? allocKey = none) (record : Alloc) :
    (ledger.alloc.set allocKey record).sumOf (fun _ record => record.totalReservedMicro) =
      ledger.live + record.totalReservedMicro :=
  Dict.sumOf_set_new absent record _

/-- Every way a reserve can end. -/
theorem reserve_cases (ledger : Ledger) (allocKey : String) (record : Alloc) (total : Int) :
    (∃ existing, ledger.alloc.get? allocKey = some existing ∧
      luaReserve ledger allocKey record record.totalReservedMicro total =
        (ledger, .reserved existing)) ∨
    (ledger.alloc.get? allocKey = none ∧
      ledger.effectiveRemaining total < record.totalReservedMicro ∧
      luaReserve ledger allocKey record record.totalReservedMicro total =
        ({ ledger with remaining := some (ledger.effectiveRemaining total) },
          .insufficient (ledger.effectiveRemaining total) record.totalReservedMicro)) ∨
    (ledger.alloc.get? allocKey = none ∧
      record.totalReservedMicro ≤ ledger.effectiveRemaining total ∧
      luaReserve ledger allocKey record record.totalReservedMicro total =
        ({ remaining := some (ledger.effectiveRemaining total - record.totalReservedMicro)
           alloc := ledger.alloc.set allocKey record }, .reserved record)) := by
  cases found : ledger.alloc.get? allocKey with
  | some existing => exact Or.inl ⟨existing, rfl, by simp [luaReserve, found]⟩
  | none =>
    by_cases short : ledger.effectiveRemaining total < record.totalReservedMicro
    · have short' : ledger.remaining.getD total < record.totalReservedMicro := short
      exact Or.inr (Or.inl ⟨rfl, short, by
        simp [luaReserve, found, short', Ledger.effectiveRemaining]⟩)
    · have enough : ¬ ledger.remaining.getD total < record.totalReservedMicro := short
      exact Or.inr (Or.inr ⟨rfl, by omega, by
        simp [luaReserve, found, enough, Ledger.effectiveRemaining]⟩)

/-- Every way a settle can end: nothing reserved, a surplus to return, an excess taken from the
    remaining budget as far as it reaches, or the exact amount. -/
theorem settle_cases (ledger : Ledger) (allocKey : String) (actual : Int) :
    (ledger.alloc.get? allocKey = none ∧
      luaSettle ledger allocKey actual =
        ({ ledger with remaining := some (max 0 (ledger.remaining.getD 0 - actual)) },
          .expired actual)) ∨
    (∃ record, ledger.alloc.get? allocKey = some record ∧ actual < record.totalReservedMicro ∧
      luaSettle ledger allocKey actual =
        ({ remaining := some (ledger.remaining.getD 0 + (record.totalReservedMicro - actual))
           alloc := ledger.alloc.erase allocKey },
          .settled (record.totalReservedMicro - actual))) ∨
    (∃ record, ledger.alloc.get? allocKey = some record ∧ record.totalReservedMicro < actual ∧
      luaSettle ledger allocKey actual =
        ({ remaining :=
             some (max 0 (ledger.remaining.getD 0 - (actual - record.totalReservedMicro)))
           alloc := ledger.alloc.erase allocKey },
          .settled (record.totalReservedMicro - actual))) ∨
    (∃ record, ledger.alloc.get? allocKey = some record ∧ actual = record.totalReservedMicro ∧
      luaSettle ledger allocKey actual =
        ({ ledger with alloc := ledger.alloc.erase allocKey },
          .settled (record.totalReservedMicro - actual))) := by
  have clamp : ∀ amount : Int, (if amount < 0 then 0 else amount) = max 0 amount := by
    intro amount
    split <;> omega
  cases found : ledger.alloc.get? allocKey with
  | none => exact Or.inl ⟨rfl, by simp only [luaSettle, found, clamp]⟩
  | some record =>
    right
    rcases lt_trichotomy actual record.totalReservedMicro with surplus | same | excess
    · left
      have positive : 0 < record.totalReservedMicro - actual := by omega
      exact ⟨record, rfl, surplus, by simp only [luaSettle, found, positive, if_true]⟩
    · right; right
      exact ⟨record, rfl, same, by simp [luaSettle, found, same]⟩
    · right; left
      have nonpositive : ¬ 0 < record.totalReservedMicro - actual := by omega
      have negative : record.totalReservedMicro - actual < 0 := by omega
      have taken : ledger.remaining.getD 0 + (record.totalReservedMicro - actual) =
          ledger.remaining.getD 0 - (actual - record.totalReservedMicro) := by omega
      exact ⟨record, rfl, excess, by
        simp only [luaSettle, found, nonpositive, negative, if_true, if_false, clamp, taken]⟩

theorem settle_alloc (ledger : Ledger) (allocKey : String) (actual : Int) :
    (luaSettle ledger allocKey actual).1.alloc = ledger.alloc.erase allocKey := by
  rcases settle_cases ledger allocKey actual with
    ⟨absent, eq⟩ | ⟨record, found, _, eq⟩ | ⟨record, found, _, eq⟩ | ⟨record, found, _, eq⟩
  · rw [eq, Dict.erase_of_get?_none absent]
  · rw [eq]
  · rw [eq]
  · rw [eq]

/-- With a stored, non-negative budget the four ways of a settle are one formula. -/
theorem settle_remaining {amount : Int} (stored : ledger.remaining = some amount)
    (nonneg : 0 ≤ amount) (allocKey : String) (actual : Int) :
    (luaSettle ledger allocKey actual).1.remaining =
      some (max 0 (amount + ledger.reservedFor allocKey - actual)) := by
  rcases settle_cases ledger allocKey actual with
    ⟨absent, eq⟩ | ⟨record, found, _, eq⟩ | ⟨record, found, _, eq⟩ | ⟨record, found, _, eq⟩
  · simp [eq, stored, reservedFor_of_absent absent]
  · simp only [eq, stored, reservedFor_of_live found, Option.getD_some, Option.some.injEq]
    omega
  · simp only [eq, stored, reservedFor_of_live found, Option.getD_some, Option.some.injEq]
    omega
  · simp only [eq, stored, reservedFor_of_live found, Option.some.injEq]
    omega

/-- A live record is only stored after the remaining key has been written. -/
def Ledger.Written (ledger : Ledger) : Prop :=
  ∀ allocKey record, ledger.alloc.get? allocKey = some record →
    ∃ amount, ledger.remaining = some amount

theorem Ledger.Written.getD (written : ledger.Written)
    (found : ledger.alloc.get? allocKey = some record) (total fallback : Int) :
    ledger.remaining.getD fallback = ledger.effectiveRemaining total := by
  obtain ⟨amount, stored⟩ := written allocKey record found
  simp [Ledger.effectiveRemaining, stored]

theorem step_written (total : Int) (op : LedgerOp) (written : ledger.Written) :
    (ledgerStep total ledger op).Written := by
  cases op with
  | reserve allocKey record =>
    rcases reserve_cases ledger allocKey record total with
      ⟨existing, _, eq⟩ | ⟨_, _, eq⟩ | ⟨_, _, eq⟩
    · simpa only [ledgerStep, eq] using written
    · simp only [ledgerStep, eq]
      exact fun _ _ _ => ⟨_, rfl⟩
    · simp only [ledgerStep, eq]
      exact fun _ _ _ => ⟨_, rfl⟩
  | settle allocKey actual =>
    rcases settle_cases ledger allocKey actual with
      ⟨absent, eq⟩ | ⟨record, found, _, eq⟩ | ⟨record, found, _, eq⟩ | ⟨record, found, _, eq⟩
    · simp only [ledgerStep, eq]
      exact fun _ _ _ => ⟨_, rfl⟩
    · simp only [ledgerStep, eq]
      exact fun _ _ _ => ⟨_, rfl⟩
    · simp only [ledgerStep, eq]
      exact fun _ _ _ => ⟨_, rfl⟩
    · simp only [ledgerStep, eq]
      exact fun _ _ _ => written allocKey record found
  | expire allocKey =>
    exact Dict.forall_erase allocKey written

theorem unwritten_written : unwritten.Written := by
  intro allocKey record live
  cases live

end VeronicaLedger
