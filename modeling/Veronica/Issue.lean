import Veronica.Stages

/- What `before_step` issues with the planners and arbiters of the package: the limits the
   desired ceiling is the least of, and the policy each arbiter makes of one desire. -/
namespace VeronicaIssue
open VeronicaTypes VeronicaPlanners VeronicaArbiters VeronicaRedis VeronicaPipeline
open VeronicaStages VeronicaOS

/-- A planner whose desire is that of a band, at its own ceiling cut to what the chain has
    left. -/
class CeilingPlanner (P : Type) extends PlannerProtocol P where
  band : P → CeilingBand
  bandCeiling : P → Option AnalysisResult → CostEstimate → ℚ
  plan_desire : ∀ p analysis cost budget, (plan p analysis cost budget).2 =
    (band p).desire (min (bandCeiling p analysis cost) budget.chainRemainingUsd)
      (if recommends analysis .halt then .halt else (band p).defaultOnExceed) budget

instance {r : Arithmetic} : CeilingPlanner (SimplePlanner r) where
  band := SimplePlanner.band
  bandCeiling := fun p analysis _ => p.band.cut (p.drift analysis)
  plan_desire := fun _ _ _ _ => rfl

instance {r : Arithmetic} : CeilingPlanner (AdaptivePlanner r) where
  band := AdaptivePlanner.band
  bandCeiling := fun p analysis cost => p.band.cut (p.drift analysis cost)
  plan_desire := fun _ _ _ _ => rfl

instance {P Q : Type} [CeilingPlanner P] [CeilingPlanner Q] : CeilingPlanner (P ⊕ Q) where
  band := fun planner => match planner with
    | .inl p => CeilingPlanner.band p
    | .inr q => CeilingPlanner.band q
  bandCeiling := fun planner analysis cost => match planner with
    | .inl p => CeilingPlanner.bandCeiling p analysis cost
    | .inr q => CeilingPlanner.bandCeiling q analysis cost
  plan_desire := fun planner analysis cost budget => match planner with
    | .inl p => CeilingPlanner.plan_desire p analysis cost budget
    | .inr q => CeilingPlanner.plan_desire q analysis cost budget

/-- An arbiter described by what it makes of a single desire; `none` leaves the chain out. -/
class SingleArbiter (A : Type) extends ArbiterProtocol A where
  grant : A → DesiredPolicy → ℚ → ℚ → Option PolicyConfig
  arbitrate_single : ∀ a desire remaining now,
    (arbitrate a [desire] remaining now).2.get? desire.chainId = grant a desire remaining now

instance {r : Arithmetic} : SingleArbiter (PassthroughArbiter r) where
  grant := fun _ desire remaining now =>
    some (issue desire (passthroughCeiling desire.ceilingUsd remaining r) "0.1.0" now)
  arbitrate_single := by
    intro a desire remaining now
    show (passthroughArbitrate [desire] remaining now r).get? desire.chainId = _
    rw [passthrough_single, Dict.get?_set_self]

instance {r : Arithmetic} : SingleArbiter (ProportionalArbiter r) where
  grant := fun _ desire remaining now =>
    (proportionalArbitrate [desire] remaining now r).get? desire.chainId
  arbitrate_single := fun _ _ _ _ => rfl

def redisGrant (c : RedisClient) (desire : DesiredPolicy) (remaining now : ℚ) :
    Option PolicyConfig :=
  match c.context with
  | none => (proportionalArbitrate [desire] remaining now).get? desire.chainId
  | some (requestId, stepId) =>
    if c.reachable then
      let reply := (c.arbiter.reserve c.ledger desire requestId stepId now).2
      some (issue desire (RedisArbiter.ceilingOf desire reply) "0.3.0" now)
    else (proportionalArbitrate [desire] remaining now).get? desire.chainId

theorem redis_grant (c : RedisClient) (desire : DesiredPolicy) (remaining now : ℚ) :
    (c.arbitrate [desire] remaining now).2.get? desire.chainId =
      redisGrant c desire remaining now := by
  cases context : c.context with
  | none => simp only [RedisClient.arbitrate, redisGrant, context]
  | some step =>
    by_cases answering : c.reachable
    · simp only [RedisClient.arbitrate, redisGrant, context, answering, if_true,
        RedisArbiter.arbitrateRedis, Dict.get?_set_self]
    · simp only [RedisClient.arbitrate, redisGrant, context, answering]
      rfl

instance : SingleArbiter RedisClient where
  grant := redisGrant
  arbitrate_single := redis_grant

instance {A B : Type} [SingleArbiter A] [SingleArbiter B] : SingleArbiter (A ⊕ B) where
  grant := fun arbiter desire remaining now => match arbiter with
    | .inl a => SingleArbiter.grant a desire remaining now
    | .inr b => SingleArbiter.grant b desire remaining now
  arbitrate_single := fun arbiter desire remaining now => match arbiter with
    | .inl a => SingleArbiter.arbitrate_single a desire remaining now
    | .inr b => SingleArbiter.arbitrate_single b desire remaining now

abbrev AnyPlanner := SimplePlanner ⊕ AdaptivePlanner
abbrev LocalArbiter (r : Arithmetic := .exact) := PassthroughArbiter r ⊕ ProportionalArbiter r
abbrev AnyArbiter := LocalArbiter ⊕ RedisClient

variable {P A S : Type} [StoreProtocol S]

/-- The estimate `before_step` plans with. -/
def costAt (setup : Setup) (early : VeronicaOS P A S) (intent : StepIntent)
    (t : BeforeTimes) : CostEstimate :=
  match StoreProtocol.buildHistory early.store intent.chainId with
  | .ok history => costStage setup intent history early.lastAnalysis t
  | .error _ => fallbackCost

def plannerOverran (setup : Setup) (t : BeforeTimes) : Prop := setup.plannerBudget < t.plannerMs
def arbiterOverran (setup : Setup) (t : BeforeTimes) : Prop := setup.arbiterBudget < t.arbiterMs

instance (setup : Setup) (t : BeforeTimes) : Decidable (plannerOverran setup t) :=
  inferInstanceAs (Decidable (_ < _))

instance (setup : Setup) (t : BeforeTimes) : Decidable (arbiterOverran setup t) :=
  inferInstanceAs (Decidable (_ < _))

/-- The priority every planned desire has after the org cap. -/
def cappedPriority (setup : Setup) : Int :=
  OrgPolicy.capped (setup.orgPolicy.bind OrgPolicy.maxPriority) 50

section Desire
variable [CeilingPlanner P] (setup : Setup) (early late : VeronicaOS P A S)
  (intent : StepIntent) (t : BeforeTimes)

/-- The planner's own ceiling, before it is cut to what the chain has left. -/
def plannerCeiling : ℚ :=
  CeilingPlanner.bandCeiling late.planner early.lastAnalysis (costAt setup early intent t)

/-- The desired ceiling is the least of the org cap, if there is one, and the two limits of the
    planner or of its fallback. -/
def ceilingLimits : List ℚ :=
  (setup.orgPolicy.bind OrgPolicy.maxCeilingUsd).toList ++
    if plannerOverran setup t then [1, late.remaining setup]
    else [plannerCeiling setup early late intent t, late.chainRemaining setup intent.chainId]

/-- What planner and timeguard hand to the org clamp. -/
def planned : DesiredPolicy :=
  if plannerOverran setup t then overrunDesire intent (late.remaining setup)
  else (CeilingPlanner.band late.planner).desire
    (min (plannerCeiling setup early late intent t) (late.chainRemaining setup intent.chainId))
    (if recommends early.lastAnalysis .halt then .halt
      else (CeilingPlanner.band late.planner).defaultOnExceed)
    (late.budgetState setup intent.chainId)

def desired : DesiredPolicy :=
  (late.planStage setup intent early.lastAnalysis (costAt setup early intent t) t).2

theorem desired_eq : desired setup early late intent t =
    fillChain intent (setup.clamp (planned setup early late intent t)) := by
  simp only [desired, planStage, planned, plannerOverran, runWithBudget]
  by_cases overran : setup.plannerBudget < t.plannerMs
  · simp only [overran, if_true]
  · simp only [overran, if_false]
    exact congrArg (fun d => fillChain intent (setup.clamp d)) (CeilingPlanner.plan_desire _ _ _ _)

@[simp] theorem clamp_chainId (d : DesiredPolicy) : (setup.clamp d).chainId = d.chainId := by
  unfold Setup.clamp
  split <;> rfl

theorem clamp_ceilingUsd (d : DesiredPolicy) : (setup.clamp d).ceilingUsd =
    OrgPolicy.capped (setup.orgPolicy.bind OrgPolicy.maxCeilingUsd) d.ceilingUsd := by
  unfold Setup.clamp
  split <;> rename_i org <;> simp [org, OrgPolicy.clamp, OrgPolicy.capped]

theorem clamp_priority (d : DesiredPolicy) : (setup.clamp d).priority =
    OrgPolicy.capped (setup.orgPolicy.bind OrgPolicy.maxPriority) d.priority := by
  unfold Setup.clamp
  split <;> rename_i org <;> simp [org, OrgPolicy.clamp, OrgPolicy.capped]

theorem fillChain_eq (d : DesiredPolicy) (chain : d.chainId = "" ∨ d.chainId = intent.chainId) :
    fillChain intent d = { d with chainId := intent.chainId } := by
  unfold fillChain
  split
  · rfl
  · rename_i named
    rw [← chain.resolve_left named]

theorem planned_chainId :
    (planned setup early late intent t).chainId = "" ∨
      (planned setup early late intent t).chainId = intent.chainId := by
  unfold planned
  split
  · exact Or.inr rfl
  · exact Or.inl rfl

theorem planned_priority : (planned setup early late intent t).priority = 50 := by
  unfold planned
  split <;> rfl

/-- The desire is the planned one after the clamp, under the intent's chain. -/
theorem desired_filled : desired setup early late intent t =
    { setup.clamp (planned setup early late intent t) with chainId := intent.chainId } := by
  rw [desired_eq, fillChain_eq]
  simpa using planned_chainId setup early late intent t

theorem desired_chainId : (desired setup early late intent t).chainId = intent.chainId := by
  rw [desired_filled]

theorem desired_priority :
    (desired setup early late intent t).priority = cappedPriority setup := by
  rw [desired_filled]
  show (setup.clamp _).priority = _
  rw [clamp_priority, planned_priority, cappedPriority]

theorem desired_ceilingUsd : (desired setup early late intent t).ceilingUsd =
    OrgPolicy.capped (setup.orgPolicy.bind OrgPolicy.maxCeilingUsd)
      (planned setup early late intent t).ceilingUsd := by
  rw [desired_filled]
  exact clamp_ceilingUsd setup _

theorem le_desired_iff (x : ℚ) : x ≤ (desired setup early late intent t).ceilingUsd ↔
    ∀ limit ∈ ceilingLimits setup early late intent t, x ≤ limit := by
  rw [desired_ceilingUsd, le_capped_iff]
  simp only [ceilingLimits, List.forall_mem_append, Option.mem_toList, planned]
  apply and_congr_right
  intro _
  split
  · simp [overrunDesire]
  · simp [CeilingBand.desire]

theorem desired_mem : (desired setup early late intent t).ceilingUsd ∈
    ceilingLimits setup early late intent t := by
  rw [desired_ceilingUsd, ceilingLimits, List.mem_append]
  rcases capped_cases (setup.orgPolicy.bind OrgPolicy.maxCeilingUsd)
    (planned setup early late intent t).ceilingUsd with cap | value
  · exact Or.inl (Option.mem_toList.mpr cap)
  · right
    rw [value, planned]
    split
    · rcases min_choice 1 (late.remaining setup) with eq | eq <;> simp [overrunDesire, eq]
    · rcases min_choice (plannerCeiling setup early late intent t)
        (late.chainRemaining setup intent.chainId) with eq | eq <;>
        simp [CeilingBand.desire, eq]

theorem desired_le_iff (x : ℚ) : (desired setup early late intent t).ceilingUsd ≤ x ↔
    ∃ limit ∈ ceilingLimits setup early late intent t, limit ≤ x := by
  constructor
  · intro le
    exact ⟨_, desired_mem setup early late intent t, le⟩
  · intro among
    obtain ⟨limit, member, below⟩ := among
    exact ((le_desired_iff setup early late intent t _).mp le_rfl limit member).trans below

theorem desired_iff_least (holds : ℚ → Prop) :
    holds (desired setup early late intent t).ceilingUsd ↔
      ∃ limit ∈ ceilingLimits setup early late intent t,
        (∀ other ∈ ceilingLimits setup early late intent t, limit ≤ other) ∧ holds limit := by
  have least := (le_desired_iff setup early late intent t _).mp le_rfl
  constructor
  · intro here
    exact ⟨_, desired_mem setup early late intent t, least, here⟩
  · rintro ⟨limit, among, below, here⟩
    have same : limit = (desired setup early late intent t).ceilingUsd :=
      le_antisymm (below _ (desired_mem setup early late intent t)) (least limit among)
    rwa [← same]

end Desire

section Issued
variable [CeilingPlanner P] [SingleArbiter A] (setup : Setup) (early late : VeronicaOS P A S)
  (intent : StepIntent) (t : BeforeTimes)

/-- The policy an arbiter and the timeguard make of one desire. -/
def policyFor (arbiter : A) (desire : DesiredPolicy) (remaining : ℚ) : PolicyConfig :=
  if arbiterOverran setup t then barePolicy intent desire.ceilingUsd t.now
  else
    let arbiter := ArbiterProtocol.setArbitrationContext arbiter intent.requestId intent.stepId
    (SingleArbiter.grant arbiter desire remaining t.now).getD (barePolicy intent 1 t.now)

theorem arbitrateStage_policy {Q R : Type} (os : VeronicaOS Q A R) {desire : DesiredPolicy}
    (chain : desire.chainId = intent.chainId) :
    (os.arbitrateStage setup intent desire t).2 =
      policyFor setup intent t os.arbiter desire (os.remaining setup) := by
  simp only [arbitrateStage, policyFor, arbiterOverran, runWithBudget]
  by_cases overran : setup.arbiterBudget < t.arbiterMs
  · simp only [overran, if_true, Dict.getD, Dict.get?_set_self, Option.getD_some]
  · simp only [overran, if_false, Dict.getD]
    rw [← chain, SingleArbiter.arbitrate_single]

/-- Every way `before_step` can return a handle. -/
theorem handle_cases {handle : StepHandle}
    (issued : (beforeStepAt setup early late intent t).2 = .ok handle) :
    (∃ reason, setup.denial intent = some reason ∧ handle = deniedHandle intent reason t.now) ∨
    (setup.denial intent = none ∧
      (∃ history, StoreProtocol.buildHistory early.store intent.chainId = .ok history) ∧
      handle.decisionMeta.orgDenial = none ∧
      handle.policy = policyFor setup intent t late.arbiter
        (desired setup early late intent t) (late.remaining setup)) := by
  unfold beforeStepAt at issued
  cases denied : setup.denial intent with
  | some reason =>
    simp only [denied, Except.ok.injEq] at issued
    exact Or.inl ⟨reason, rfl, issued.symm⟩
  | none =>
    right
    cases read : StoreProtocol.buildHistory early.store intent.chainId with
    | error e => simp [denied, read] at issued
    | ok history =>
      simp only [denied, read, Except.ok.injEq] at issued
      subst issued
      refine ⟨rfl, ⟨history, rfl⟩, rfl, ?_⟩
      rw [← arbitrateStage_policy setup intent t late (desired_chainId setup early late intent t)]
      simp only [desired, costAt, read]

/-- The only way `before_step` can raise. -/
theorem refused_cases {e : PyExc}
    (refused : (beforeStepAt setup early late intent t).2 = .error e) :
    StoreProtocol.buildHistory early.store intent.chainId = .error e := by
  unfold beforeStepAt at refused
  cases denied : setup.denial intent with
  | some reason => simp [denied] at refused
  | none =>
    cases read : StoreProtocol.buildHistory early.store intent.chainId with
    | ok history => simp [denied, read] at refused
    | error raised => simpa [denied, read] using refused

theorem admitted_policy {handle : StepHandle}
    (issued : (beforeStepAt setup early late intent t).2 = .ok handle)
    (admitted : handle.decisionMeta.orgDenial = none) :
    handle.policy = policyFor setup intent t late.arbiter
      (desired setup early late intent t) (late.remaining setup) := by
  rcases handle_cases setup early late intent t issued with
    ⟨reason, _, rfl⟩ | ⟨_, _, _, policy⟩
  · simp [deniedHandle] at admitted
  · exact policy

end Issued

section Arbiters
variable {setup : Setup} {intent : StepIntent} {t : BeforeTimes} {desire : DesiredPolicy}
  {remaining : ℚ}

theorem policyFor_overran {A : Type} [SingleArbiter A] (overran : arbiterOverran setup t)
    (arbiter : A) : policyFor setup intent t arbiter desire remaining =
      barePolicy intent desire.ceilingUsd t.now := by
  simp only [policyFor, overran, if_true]

variable (inTime : ¬ arbiterOverran setup t)
include inTime

theorem policyFor_inl {A B : Type} [SingleArbiter A] [SingleArbiter B] (a : A) :
    policyFor setup intent t (Sum.inl a : A ⊕ B) desire remaining =
      policyFor setup intent t a desire remaining := by
  simp only [policyFor, inTime, if_false]
  rfl

theorem policyFor_inr {A B : Type} [SingleArbiter A] [SingleArbiter B] (b : B) :
    policyFor setup intent t (Sum.inr b : A ⊕ B) desire remaining =
      policyFor setup intent t b desire remaining := by
  simp only [policyFor, inTime, if_false]
  rfl

theorem policyFor_passthrough {r : Arithmetic} (a : PassthroughArbiter r) :
    policyFor setup intent t a desire remaining =
      issue desire (passthroughCeiling desire.ceilingUsd remaining r) "0.1.0" t.now := by
  simp only [policyFor, inTime, if_false]
  rfl

theorem policyFor_proportional {r : Arithmetic} (held : r.fl remaining = remaining)
    (a : ProportionalArbiter r) : policyFor setup intent t a desire remaining =
      if 0 < desire.priority then
        issue desire (proportionalCeiling desire.ceilingUsd remaining r) "0.2.0" t.now
      else barePolicy intent 1 t.now := by
  simp only [policyFor, inTime, if_false]
  show ((proportionalArbitrate [desire] remaining t.now r).get? desire.chainId).getD _ = _
  split
  · rename_i positive
    rw [proportional_single positive held, Dict.get?_set_self]
    rfl
  · rename_i excluded
    rw [proportional_excluded (not_lt.mp excluded), Dict.get?_empty]
    rfl

theorem policyFor_redis (client : RedisClient) :
    policyFor setup intent t client desire remaining =
      if client.reachable then
        issue desire (RedisArbiter.ceilingOf desire
          (client.arbiter.reserve client.ledger desire intent.requestId intent.stepId t.now).2)
          "0.3.0" t.now
      else policyFor setup intent t ({} : ProportionalArbiter) desire remaining := by
  simp only [policyFor, inTime, if_false]
  show (redisGrant (client.setArbitrationContext intent.requestId intent.stepId) _ _ _).getD _ = _
  unfold redisGrant RedisClient.setArbitrationContext
  by_cases answering : client.reachable
  · simp only [answering, if_true, Option.getD_some]
  · simp only [answering]
    rfl

end Arbiters

end VeronicaIssue
