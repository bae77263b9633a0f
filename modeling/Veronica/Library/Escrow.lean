import Veronica.Library.Dict
import Mathlib.Tactic.Abel

/- An account from which amounts are set aside under keys. Settling a key spends any amount
   and returns the rest of what was set aside. That the books balance is a field. -/
structure Escrow (K M : Type) [AddCommGroup M] where
  budget : M
  available : M
  held : Dict K M
  spent : M
  balanced : available + held.sumOf (fun _ amount => amount) + spent = budget

namespace Escrow
variable {K M : Type} [AddCommGroup M] [DecidableEq K]

def opened (budget : M) : Escrow K M where
  budget := budget
  available := budget
  held := ∅
  spent := 0
  balanced := by simp

def hold (e : Escrow K M) (k : K) (amount : M) (fresh : e.held.get? k = none) : Escrow K M where
  budget := e.budget
  available := e.available - amount
  held := e.held.set k amount
  spent := e.spent
  balanced := by
    rw [Dict.sumOf_set_new fresh, ← e.balanced]
    abel

def settle (e : Escrow K M) (k : K) (amount : M) (found : e.held.get? k = some amount)
    (cost : M) : Escrow K M where
  budget := e.budget
  available := e.available + (amount - cost)
  held := e.held.erase k
  spent := e.spent + cost
  balanced := by
    rw [← e.balanced, ← Dict.sumOf_erase found]
    abel

/-- What a sequence of holds and settlements makes of an account, with the settled costs in
    order. -/
inductive Leads : Escrow K M → List M → Escrow K M → Prop where
  | done (e : Escrow K M) : Leads e [] e
  | hold {e e' : Escrow K M} {costs : List M} (k : K) (amount : M)
      (fresh : e.held.get? k = none) (rest : Leads (e.hold k amount fresh) costs e') :
      Leads e costs e'
  | settle {e e' : Escrow K M} {costs : List M} (k : K) (amount : M)
      (found : e.held.get? k = some amount) (cost : M)
      (rest : Leads (e.settle k amount found cost) costs e') :
      Leads e (cost :: costs) e'

variable {e e' : Escrow K M} {costs costs' : List M} {budget : M}

theorem Leads.budget_eq (leads : Leads e costs e') : e'.budget = e.budget := by
  induction leads with
  | done e => rfl
  | hold k amount fresh rest ih => exact ih
  | settle k amount found cost rest ih => exact ih

theorem Leads.spent_eq (leads : Leads e costs e') : e'.spent = e.spent + costs.sum := by
  induction leads with
  | done e => simp
  | hold k amount fresh rest ih => exact ih
  | settle k amount found cost rest ih =>
    rw [ih, List.sum_cons, ← add_assoc]
    rfl

/-- Whatever the order of holds and settlements, the books of an opened account are decided by
    what is still held and what was spent. -/
theorem Leads.available_eq (leads : Leads (opened budget) costs e) :
    e.available = budget - e.held.sumOf (fun _ amount => amount) - costs.sum := by
  have balanced := e.balanced
  rw [leads.spent_eq, leads.budget_eq] at balanced
  simp only [opened, zero_add] at balanced
  rw [← balanced]
  abel

/-- Two settled accounts with the same costs, in any order, end with the same balance. -/
theorem Leads.available_confluent {f : Escrow K M} (leads : Leads (opened budget) costs e)
    (leads' : Leads (opened budget) costs' f) (settled : e.held = ∅) (settled' : f.held = ∅)
    (same : costs.Perm costs') : e.available = f.available := by
  rw [leads.available_eq, leads'.available_eq, settled, settled', same.sum_eq]

end Escrow
