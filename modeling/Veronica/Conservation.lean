import Veronica.Ledger

/- On well-behaved runs the scripts are an escrow account: a successful reserve is a hold, a
   settle is a settlement, and every other call leaves the account alone. -/
namespace VeronicaConservation
open VeronicaLedger

/-- Non-negative ceilings, one settle within the reservation for each reserved key, and no
    expiry. -/
def WellBehaved (ledger : Ledger) : LedgerOp → Prop
  | .reserve _ record => 0 ≤ record.totalReservedMicro
  | .settle allocKey actual => ∃ record ∈ ledger.alloc.get? allocKey,
      0 ≤ actual ∧ actual ≤ record.totalReservedMicro
  | .expire _ => False

instance (ledger : Ledger) (op : LedgerOp) : Decidable (WellBehaved ledger op) :=
  match op with
  | .reserve _ record => inferInstanceAs (Decidable (0 ≤ record.totalReservedMicro))
  | .settle allocKey actual => inferInstanceAs (Decidable (∃ record ∈ ledger.alloc.get? allocKey,
      0 ≤ actual ∧ actual ≤ record.totalReservedMicro))
  | .expire _ => inferInstanceAs (Decidable False)

def settledCosts (ops : List LedgerOp) : List Int :=
  ops.filterMap fun op => match op with
    | .settle _ actual => some actual
    | _ => none

structure Refines (total : Int) (ledger : Ledger) (account : Escrow String Int) : Prop where
  available : account.available = ledger.effectiveRemaining total
  held : account.held = ledger.alloc.mapValues Alloc.totalReservedMicro
  written : ledger.Written

variable {total : Int} {ledger : Ledger} {account : Escrow String Int} {ops : List LedgerOp}

theorem settle_effective (total : Int) (written : ledger.Written) {allocKey : String} {actual : Int}
    {record : Alloc} (live : ledger.alloc.get? allocKey = some record)
    (within : actual ≤ record.totalReservedMicro) :
    (ledgerStep total ledger (.settle allocKey actual)).effectiveRemaining total =
      ledger.effectiveRemaining total + (record.totalReservedMicro - actual) := by
  have stored := written.getD live total 0
  rcases settle_cases ledger allocKey actual with
    ⟨absent, eq⟩ | ⟨_, found, _, eq⟩ | ⟨_, found, excess, eq⟩ | ⟨_, found, same, eq⟩
  · rw [live] at absent
    contradiction
  · cases live.symm.trans found
    simp [ledgerStep, eq, Ledger.effectiveRemaining, stored]
  · cases live.symm.trans found
    omega
  · cases live.symm.trans found
    simp only [ledgerStep, eq, Ledger.effectiveRemaining]
    omega

theorem unwritten_refines (total : Int) : Refines total unwritten (Escrow.opened total) where
  available := rfl
  held := rfl
  written := unwritten_written

theorem Refines.fresh (refines : Refines total ledger account) {allocKey : String}
    (absent : ledger.alloc.get? allocKey = none) : account.held.get? allocKey = none := by
  rw [refines.held, Dict.get?_mapValues, absent]
  rfl

theorem Refines.found (refines : Refines total ledger account) {allocKey : String}
    {record : Alloc} (live : ledger.alloc.get? allocKey = some record) :
    account.held.get? allocKey = some record.totalReservedMicro := by
  rw [refines.held, Dict.get?_mapValues, live]
  rfl

theorem reserve_refines (refines : Refines total ledger account) (allocKey : String)
    (record : Alloc) :
    let after := ledgerStep total ledger (.reserve allocKey record)
    Refines total after account ∨
    ∃ fresh, Refines total after (account.hold allocKey record.totalReservedMicro fresh) := by
  have written := step_written total (.reserve allocKey record) refines.written
  rcases reserve_cases ledger allocKey record total with
    ⟨existing, _, eq⟩ | ⟨_, _, eq⟩ | ⟨absent, _, eq⟩
  · left
    simpa only [ledgerStep, eq] using refines
  · left
    simp only [ledgerStep, eq] at written ⊢
    exact ⟨refines.available, refines.held, written⟩
  · right
    refine ⟨refines.fresh absent, ?_⟩
    simp only [ledgerStep, eq] at written ⊢
    refine ⟨?_, ?_, written⟩
    · simp only [Escrow.hold, refines.available]
      rfl
    · simp only [Escrow.hold, refines.held]
      exact (Dict.mapValues_set _ absent record).symm

theorem settle_refines (refines : Refines total ledger account) {allocKey : String}
    {actual : Int} {record : Alloc} (live : ledger.alloc.get? allocKey = some record)
    (within : actual ≤ record.totalReservedMicro) :
    Refines total (ledgerStep total ledger (.settle allocKey actual))
      (account.settle allocKey record.totalReservedMicro (refines.found live) actual) where
  available := by
    simp only [Escrow.settle, refines.available]
    exact (settle_effective total refines.written live within).symm
  held := by
    simp only [Escrow.settle, refines.held, ledgerStep, settle_alloc, Dict.mapValues_erase]
  written := step_written total (.settle allocKey actual) refines.written

/-- Each well-behaved run of the scripts is a run of the account with the same costs. -/
theorem run_refines (refines : Refines total ledger account)
    (wellBehaved : Runs.EachStep (ledgerStep total) WellBehaved ledger ops) :
    ∃ account', account.Leads (settledCosts ops) account' ∧
      Refines total (Runs.run (ledgerStep total) ledger ops) account' := by
  induction ops generalizing ledger account with
  | nil => exact ⟨account, .done account, refines⟩
  | cons op rest ih =>
    obtain ⟨here, later⟩ := wellBehaved
    cases op with
    | reserve allocKey record =>
      rcases reserve_refines refines allocKey record with same | ⟨fresh, held⟩
      · exact ih same later
      · obtain ⟨account', leads, refined⟩ := ih held later
        exact ⟨account', .hold allocKey _ fresh leads, refined⟩
    | settle allocKey actual =>
      obtain ⟨record, live, _, within⟩ := here
      obtain ⟨account', leads, refined⟩ := ih (settle_refines refines live within) later
      exact ⟨account', .settle allocKey _ (refines.found live) actual leads, refined⟩
    | expire allocKey => exact here.elim

theorem Refines.held_sum (refines : Refines total ledger account) :
    account.held.sumOf (fun _ amount => amount) = ledger.live := by
  rw [refines.held, Dict.sumOf_mapValues]
  rfl

/-- Reserves are only made within the remaining budget, and settles only return. -/
theorem step_keeps_floor {op : LedgerOp} {floor : Int} (written : ledger.Written)
    (wellBehaved : WellBehaved ledger op) (nonpositive : floor ≤ 0)
    (above : floor ≤ ledger.effectiveRemaining total) :
    floor ≤ (ledgerStep total ledger op).effectiveRemaining total := by
  cases op with
  | reserve allocKey record =>
    rcases reserve_cases ledger allocKey record total with
      ⟨existing, _, eq⟩ | ⟨_, _, eq⟩ | ⟨_, enough, eq⟩
    · simpa only [ledgerStep, eq] using above
    · simp only [ledgerStep, eq]
      exact above
    · simp only [ledgerStep, eq]
      show floor ≤ ledger.effectiveRemaining total - record.totalReservedMicro
      omega
  | settle allocKey actual =>
    obtain ⟨record, live, _, within⟩ := wellBehaved
    have returned := settle_effective total written live within
    omega
  | expire allocKey => exact wellBehaved.elim

theorem run_keeps_floor
    (wellBehaved : Runs.EachStep (ledgerStep total) WellBehaved unwritten ops) :
    min total 0 ≤ (Runs.run (ledgerStep total) unwritten ops).effectiveRemaining total := by
  have invariant := Runs.run_invariant
    (I := fun ledger => ledger.Written ∧ min total 0 ≤ ledger.effectiveRemaining total)
    (fun ledger op kept legal => ⟨step_written total op kept.1,
      step_keeps_floor kept.1 legal (min_le_right total 0) kept.2⟩)
    ⟨unwritten_written, min_le_left total 0⟩ wellBehaved
  exact invariant.2

/-- After any well-behaved run: the exact balance, its floor, retried reserves, and the final
    balance as a function of the settled costs whatever their order. -/
theorem conserved
    (wellBehaved : Runs.EachStep (ledgerStep total) WellBehaved unwritten ops) :
    let ledger := Runs.run (ledgerStep total) unwritten ops
    ledger.effectiveRemaining total = total - ledger.live - (settledCosts ops).sum ∧
    min total 0 ≤ ledger.effectiveRemaining total ∧
    (∀ allocKey record existing, ledger.alloc.get? allocKey = some existing →
      ledgerStep total ledger (.reserve allocKey record) = ledger) ∧
    ∀ ops', Runs.EachStep (ledgerStep total) WellBehaved unwritten ops' →
      let ledger' := Runs.run (ledgerStep total) unwritten ops'
      (∀ allocKey, ledger.alloc.get? allocKey = none) →
      (∀ allocKey, ledger'.alloc.get? allocKey = none) →
      (settledCosts ops).Perm (settledCosts ops') →
      ledger.effectiveRemaining total = ledger'.effectiveRemaining total := by
  obtain ⟨account, leads, refines⟩ := run_refines (unwritten_refines total) wellBehaved
  refine ⟨?_, run_keeps_floor wellBehaved, ?_, ?_⟩
  · rw [← refines.available, leads.available_eq, refines.held_sum]
  · intro allocKey record existing live
    simp only [ledgerStep, luaReserve, live]
  · intro ops' wellBehaved' ledger' settled settled' same
    obtain ⟨account', leads', refines'⟩ := run_refines (unwritten_refines total) wellBehaved'
    have none_held : account.held = ∅ :=
      Dict.eq_empty_of_get? fun allocKey => refines.fresh (settled allocKey)
    have none_held' : account'.held = ∅ :=
      Dict.eq_empty_of_get? fun allocKey => refines'.fresh (settled' allocKey)
    rw [← refines.available, ← refines'.available]
    exact leads.available_confluent leads' none_held none_held' same

def overlappingSteps : List LedgerOp :=
  [.reserve "alloc:r:1" (reservation 600), .reserve "alloc:r:2" (reservation 300),
    .reserve "alloc:r:1" (reservation 600), .reserve "alloc:r:3" (reservation 200),
    .settle "alloc:r:2" 100, .settle "alloc:r:1" 450]

/-- Two steps, one of them retried, and a third that is refused. -/
theorem overlapping_steps_conserved :
    let ledger := Runs.run (ledgerStep 1000) unwritten overlappingSteps
    ledger.effectiveRemaining 1000 = 1000 - ledger.live - (settledCosts overlappingSteps).sum :=
  (conserved (by decide)).1

end VeronicaConservation
