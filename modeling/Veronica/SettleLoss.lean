import Veronica.Ledger

/- What a settle can take from the budget that the next reserve is compared with, in every
   ledger state and for steps with and without a live record. -/
namespace VeronicaSettleLoss
open VeronicaLedger

/-- The states any sequence of reserves, settles and expiries leads to, before any of them
    too. -/
def ReachableLedger (total : Int) (ledger : Ledger) : Prop :=
  Runs.Reachable (ledgerStep total) (fun _ _ => True) unwritten ledger

def LowersAtMostCost (total : Int) (ledger : Ledger) (allocKey : String) : Prop :=
  ∀ actual, 0 ≤ actual → ledger.effectiveRemaining total - actual ≤
    (luaSettle ledger allocKey actual).1.effectiveRemaining total

def Succeeds (total : Int) (ledger : Ledger) : LedgerOp → Prop
  | .reserve allocKey record =>
    ledger.alloc.get? allocKey ≠ none ∨
      record.totalReservedMicro ≤ ledger.effectiveRemaining total
  | _ => True

/-- Other steps whose reserves all succeed without a settle of cost zero also succeed
    after it. -/
def FreeSettleHarmless (total : Int) (ledger : Ledger) (allocKey : String) : Prop :=
  ∀ later, (∀ op ∈ later, op.allocKey ≠ allocKey) →
    Runs.EachStep (ledgerStep total) (Succeeds total) ledger later →
    Runs.EachStep (ledgerStep total) (Succeeds total) (luaSettle ledger allocKey 0).1 later

/-- The remaining key exists unless there is no budget to lose, and no negative reservation is
    taken back from a positive budget. -/
def NothingToLose (total : Int) (ledger : Ledger) (allocKey : String) : Prop :=
  (ledger.remaining = none → total ≤ 0) ∧
  (ledger.reservedFor allocKey < 0 → ledger.effectiveRemaining total ≤ 0)

variable {total : Int} {ledger : Ledger} {allocKey : String}

theorem reachable_written (reached : ReachableLedger total ledger) : ledger.Written :=
  Runs.reachable_invariant (fun _ op written _ => step_written total op written)
    unwritten_written reached

/-- `richer` has at least the budget of `poorer`, however it is read, and the same records
    except for one key. -/
structure Ahead (total : Int) (allocKey : String) (poorer richer : Ledger) : Prop where
  effective : poorer.effectiveRemaining total ≤ richer.effectiveRemaining total
  stored : poorer.remaining.getD 0 ≤ richer.remaining.getD 0
  records : ∀ other, other ≠ allocKey → richer.alloc.get? other = poorer.alloc.get? other

variable {poorer richer : Ledger}

theorem reserve_ahead (ahead : Ahead total allocKey poorer richer) {other : String}
    {record : Alloc} (elsewhere : other ≠ allocKey)
    (succeeds : Succeeds total poorer (.reserve other record)) :
    Succeeds total richer (.reserve other record) ∧
    Ahead total allocKey (ledgerStep total poorer (.reserve other record))
      (ledgerStep total richer (.reserve other record)) := by
  have same := ahead.records other elsewhere
  rcases reserve_cases poorer other record total with
    ⟨existing, found, eq⟩ | ⟨absent, short, eq⟩ | ⟨absent, enough, eq⟩
  · have found' : richer.alloc.get? other = some existing := same.trans found
    refine ⟨Or.inl (by simp [found']), ?_⟩
    simpa only [ledgerStep, luaReserve, found, found'] using ahead
  · rcases succeeds with live | enough
    · exact absurd absent live
    · omega
  · have absent' : richer.alloc.get? other = none := same.trans absent
    have enough' : record.totalReservedMicro ≤ richer.effectiveRemaining total :=
      enough.trans ahead.effective
    refine ⟨Or.inr enough', ?_⟩
    rcases reserve_cases richer other record total with
      ⟨existing, found, _⟩ | ⟨_, short, _⟩ | ⟨_, _, eq'⟩
    · simp [absent'] at found
    · omega
    · simp only [ledgerStep, eq, eq']
      refine ⟨Int.sub_le_sub_right ahead.effective _, Int.sub_le_sub_right ahead.effective _, ?_⟩
      intro k ne
      simp only [Dict.get?_set, ahead.records k ne]

/-- What a settle writes depends on the record and, monotonically, on the stored value; for the
    exact amount it writes nothing. -/
theorem settle_writes (live : Option Alloc) (other : String) (actual : Int) :
    (∃ write : Int → Int, (∀ x y, x ≤ y → write x ≤ write y) ∧
      ∀ l : Ledger, l.alloc.get? other = live →
        (luaSettle l other actual).1.remaining = some (write (l.remaining.getD 0))) ∨
    ∀ l : Ledger, l.alloc.get? other = live →
      (luaSettle l other actual).1.remaining = l.remaining := by
  cases live with
  | none =>
    refine Or.inl ⟨fun x => if x - actual < 0 then 0 else x - actual, ?_, ?_⟩
    · intro x y le
      dsimp only
      split_ifs <;> omega
    · intro l found
      simp only [luaSettle, found]
  | some record =>
    rcases lt_trichotomy actual record.totalReservedMicro with surplus | same | excess
    · refine Or.inl ⟨fun x => x + (record.totalReservedMicro - actual), ?_, ?_⟩
      · intro x y le
        exact Int.add_le_add_right le _
      · intro l found
        simp only [luaSettle, found, Int.sub_pos.mpr surplus, if_true]
    · refine Or.inr fun l found => ?_
      simp only [luaSettle, found, same, Int.sub_self, Int.lt_irrefl, if_false]
    · have no_surplus : ¬ 0 < record.totalReservedMicro - actual := by omega
      have overdrawn : record.totalReservedMicro - actual < 0 := by omega
      refine Or.inl ⟨fun x => if x + (record.totalReservedMicro - actual) < 0 then 0
        else x + (record.totalReservedMicro - actual), ?_, ?_⟩
      · intro x y le
        dsimp only
        split_ifs <;> omega
      · intro l found
        simp only [luaSettle, found, no_surplus, overdrawn, if_true, if_false]

theorem settle_ahead (ahead : Ahead total allocKey poorer richer) {other : String}
    (elsewhere : other ≠ allocKey) (actual : Int) :
    Ahead total allocKey (ledgerStep total poorer (.settle other actual))
      (ledgerStep total richer (.settle other actual)) := by
  have same := ahead.records other elsewhere
  have records : ∀ k, k ≠ allocKey →
      (luaSettle richer other actual).1.alloc.get? k =
        (luaSettle poorer other actual).1.alloc.get? k := by
    intro k ne
    simp only [settle_alloc, Dict.get?_erase, ahead.records k ne]
  rcases settle_writes (poorer.alloc.get? other) other actual with ⟨write, monotone, writes⟩ | keeps
  · have le := monotone _ _ ahead.stored
    constructor
    · simp only [ledgerStep, Ledger.effectiveRemaining, writes poorer rfl, writes richer same]
      exact le
    · simp only [ledgerStep, writes poorer rfl, writes richer same]
      exact le
    · exact records
  · constructor
    · simpa only [ledgerStep, Ledger.effectiveRemaining, keeps poorer rfl, keeps richer same]
        using ahead.effective
    · simpa only [ledgerStep, keeps poorer rfl, keeps richer same] using ahead.stored
    · exact records

theorem expire_ahead (ahead : Ahead total allocKey poorer richer) (other : String) :
    Ahead total allocKey (ledgerStep total poorer (.expire other))
      (ledgerStep total richer (.expire other)) := by
  refine ⟨ahead.effective, ahead.stored, fun k ne => ?_⟩
  simp only [ledgerStep, expire, Dict.get?_erase, ahead.records k ne]

theorem run_ahead {later : List LedgerOp} (ahead : Ahead total allocKey poorer richer)
    (elsewhere : ∀ op ∈ later, op.allocKey ≠ allocKey)
    (succeed : Runs.EachStep (ledgerStep total) (Succeeds total) poorer later) :
    Runs.EachStep (ledgerStep total) (Succeeds total) richer later := by
  induction later generalizing poorer richer with
  | nil => trivial
  | cons op rest ih =>
    obtain ⟨here, others⟩ := List.forall_mem_cons.mp elsewhere
    cases op with
    | reserve other record =>
      obtain ⟨succeeds, next⟩ := reserve_ahead ahead here succeed.1
      exact ⟨succeeds, ih next others succeed.2⟩
    | settle other actual => exact ⟨trivial, ih (settle_ahead ahead here actual) others succeed.2⟩
    | expire other => exact ⟨trivial, ih (expire_ahead ahead other) others succeed.2⟩

theorem lowers_at_most_cost_iff (written : ledger.Written) :
    LowersAtMostCost total ledger allocKey ↔ NothingToLose total ledger allocKey := by
  unfold LowersAtMostCost NothingToLose
  cases found : ledger.alloc.get? allocKey with
  | none =>
    rw [reservedFor_of_absent found]
    simp only [luaSettle, found, Ledger.effectiveRemaining, Option.getD_some]
    cases stored : ledger.remaining with
    | none =>
      simp only [Option.getD_none, forall_const, lt_self_iff_false, IsEmpty.forall_iff, and_true]
      constructor
      · intro lowers
        have := lowers 0 le_rfl
        omega
      · intro nothing actual nonneg
        split_ifs <;> omega
    | some amount =>
      simp only [Option.getD_some, reduceCtorEq, IsEmpty.forall_iff, lt_self_iff_false, and_true,
        iff_true]
      intro actual nonneg
      split_ifs <;> omega
  | some record =>
    obtain ⟨amount, stored⟩ := written allocKey record found
    rw [reservedFor_of_live found]
    simp only [luaSettle, found, stored, Ledger.effectiveRemaining, Option.getD_some,
      reduceCtorEq, IsEmpty.forall_iff, true_and]
    constructor
    · intro lowers negative
      have := lowers 0 le_rfl
      split_ifs at this <;> simp only [Option.getD_some] at this <;> omega
    · intro nothing actual nonneg
      split_ifs <;> simp only [Option.getD_some] <;> omega

theorem free_settle_ahead (written : ledger.Written)
    (nothing : NothingToLose total ledger allocKey) :
    Ahead total allocKey ledger (luaSettle ledger allocKey 0).1 := by
  have lowers := (lowers_at_most_cost_iff written).mpr nothing 0 le_rfl
  refine ⟨by omega, ?_, ?_⟩
  · rcases settle_cases ledger allocKey 0 with
      ⟨_, eq⟩ | ⟨record, _, surplus, eq⟩ | ⟨record, found, excess, eq⟩ | ⟨record, _, _, eq⟩
    · simp only [eq, Option.getD_some]
      omega
    · simp only [eq, Option.getD_some]
      omega
    · have stored := written.getD found total 0
      have := nothing.2
      rw [reservedFor_of_live found, ← stored] at this
      simp only [eq, Option.getD_some]
      omega
    · simp only [eq, le_refl]
  · intro other ne
    simp only [settle_alloc, Dict.get?_erase, ne, if_false]

/-- In every reachable ledger state a settle takes at most its cost, and a free one harms no
    later reserve, exactly when the remaining key was written or there is no budget to lose,
    and no negative reservation is taken back from a positive budget. -/
theorem settle_destroys_nothing_iff (reached : ReachableLedger total ledger)
    (allocKey : String) :
    (LowersAtMostCost total ledger allocKey ∧ FreeSettleHarmless total ledger allocKey) ↔
      NothingToLose total ledger allocKey := by
  have written := reachable_written reached
  constructor
  · intro harmless
    obtain ⟨lowers, _⟩ := harmless
    exact (lowers_at_most_cost_iff written).mp lowers
  · intro nothing
    refine ⟨(lowers_at_most_cost_iff written).mpr nothing, ?_⟩
    intro later elsewhere succeed
    exact run_ahead (free_settle_ahead written nothing) elsewhere succeed

/-- A denied step settles with cost zero before any reserve: the whole budget is gone, and the
    first reserve of another step is refused. -/
theorem first_settle_destroys :
    ReachableLedger 1000000 unwritten ∧
    ¬ LowersAtMostCost 1000000 unwritten "alloc:r:denied" ∧
    ¬ FreeSettleHarmless 1000000 unwritten "alloc:r:denied" := by
  refine ⟨Runs.reachable_run [], ?_, ?_⟩
  · intro lowers
    have := lowers 0 le_rfl
    revert this
    decide
  · intro harmless
    have refused := harmless [.reserve "alloc:r:2" (reservation 500000)] (by decide)
      ⟨Or.inr (by decide), trivial⟩
    rcases refused.1 with live | enough
    · exact live rfl
    · revert enough
      decide

theorem settle_after_reserve :
    let ledger := Runs.run (ledgerStep 1000000) unwritten
      [.reserve "alloc:r:1" (reservation 400000)]
    LowersAtMostCost 1000000 ledger "alloc:r:denied" ∧
      FreeSettleHarmless 1000000 ledger "alloc:r:denied" :=
  (settle_destroys_nothing_iff (Runs.reachable_run _) "alloc:r:denied").mpr
    ⟨by decide, by decide⟩

end VeronicaSettleLoss
