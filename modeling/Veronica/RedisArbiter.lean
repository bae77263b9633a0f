import Veronica.Arbiters
import Veronica.Ledger

/- RedisArbiter: the arbiter of several processes that share one budget through the ledger
   scripts. A process holds no budget state of its own. -/
namespace VeronicaRedis
open VeronicaTypes VeronicaLedger VeronicaArbiters

def micro : ℚ := 1000000

/-- `_to_micro` -/
def toMicro (usd : ℚ) : Int := pyRound (usd * micro)

/-- `_from_micro` -/
def fromMicro (amount : Int) : ℚ := amount / micro

structure RedisArbiter where
  scope : String
  totalBudgetMicro : Int

def redisArbiter (scope : String) (totalBudgetUsd : ℚ) : RedisArbiter :=
  { scope, totalBudgetMicro := toMicro totalBudgetUsd }

namespace RedisArbiter

def allocKey (arbiter : RedisArbiter) (requestId stepId : String) : String :=
  "veronica:" ++ arbiter.scope ++ ":alloc:" ++ requestId ++ ":" ++ stepId

def allocRecord (desire : DesiredPolicy) (now : ℚ) : Alloc where
  chainId := desire.chainId
  totalReservedMicro := toMicro desire.ceilingUsd
  ceilingUsd := desire.ceilingUsd
  reservedAt := now

/-- A refusal grants what remains; any other reply, also to a retry, what is desired now. -/
def ceilingOf (desire : DesiredPolicy) : ReserveReply → ℚ
  | .insufficient remaining _ => fromMicro remaining
  | .reserved _ => desire.ceilingUsd

def reserve (arbiter : RedisArbiter) (ledger : Ledger) (desire : DesiredPolicy)
    (requestId stepId : String) (now : ℚ) : Ledger × ReserveReply :=
  let record := allocRecord desire now
  luaReserve ledger (arbiter.allocKey requestId stepId) record record.totalReservedMicro
    arbiter.totalBudgetMicro

/-- `_arbitrate_redis`: only the first desire is processed. -/
def arbitrateRedis (arbiter : RedisArbiter) (ledger : Ledger) (desires : List DesiredPolicy)
    (requestId stepId : String) (now : ℚ) : Ledger × Dict String PolicyConfig :=
  match desires with
  | [] => (ledger, ∅)
  | desire :: _ =>
    let (after, reply) := arbiter.reserve ledger desire requestId stepId now
    (after, (∅ : Dict String PolicyConfig).set desire.chainId
      (issue desire (ceilingOf desire reply) "0.3.0" now))

def settle (arbiter : RedisArbiter) (ledger : Ledger) (requestId stepId : String)
    (actualCostUsd : PyFloat) : Ledger :=
  (luaSettle ledger (arbiter.allocKey requestId stepId) (toMicro actualCostUsd.finiteOrZero)).1

end RedisArbiter

theorem fromMicro_add (a b : Int) : fromMicro (a + b) = fromMicro a + fromMicro b := by
  simp only [fromMicro, Int.cast_add, add_div]

theorem fromMicro_sub (a b : Int) : fromMicro (a - b) = fromMicro a - fromMicro b := by
  simp only [fromMicro, Int.cast_sub, sub_div]

def fromMicroHom : Int →+ ℚ := AddMonoidHom.mk' fromMicro fromMicro_add

theorem fromMicro_le_iff {a b : Int} : fromMicro a ≤ fromMicro b ↔ a ≤ b := by
  rw [fromMicro, fromMicro, div_le_div_iff_of_pos_right (by norm_num [micro]), Int.cast_le]

theorem fromMicro_nonneg_iff {a : Int} : 0 ≤ fromMicro a ↔ 0 ≤ a := by
  rw [← fromMicro_le_iff]
  simp [fromMicro]

theorem toMicro_nonneg {usd : ℚ} (nonneg : 0 ≤ usd) : 0 ≤ toMicro usd := by
  have bounds := pyRound_bounds (usd * micro)
  have scaled : 0 ≤ usd * micro := mul_nonneg nonneg (by norm_num [micro])
  have above : (-1 : ℚ) < pyRound (usd * micro) := by linarith
  have above : (-1 : Int) < pyRound (usd * micro) := by exact_mod_cast above
  rw [toMicro]
  omega

theorem toMicro_nonpos {usd : ℚ} (nonpos : usd ≤ 0) : toMicro usd ≤ 0 := by
  have bounds := pyRound_bounds (usd * micro)
  have scaled : usd * micro ≤ 0 := mul_nonpos_of_nonpos_of_nonneg nonpos (by norm_num [micro])
  have below : (pyRound (usd * micro) : ℚ) < 1 := by linarith
  have below : pyRound (usd * micro) < (1 : Int) := by exact_mod_cast below
  rw [toMicro]
  omega

/-- An amount in USD that is a whole number of micro-USD. -/
def WholeMicro (usd : ℚ) : Prop := usd = fromMicro (toMicro usd)

instance (usd : ℚ) : Decidable (WholeMicro usd) := inferInstanceAs (Decidable (usd = _))

@[simp] theorem toMicro_fromMicro (amount : Int) : toMicro (fromMicro amount) = amount := by
  have cancel : (amount : ℚ) / micro * micro = amount := div_mul_cancel₀ _ (by norm_num [micro])
  rw [toMicro, fromMicro, cancel, pyRound_intCast]

end VeronicaRedis
