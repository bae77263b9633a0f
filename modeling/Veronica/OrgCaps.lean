import Veronica.PipelineRuns

/- Whether the caps of an OrgPolicy reach the policy that is issued. They are applied to the
   planner's desire; the arbiter's floor, its exclusion and the fallbacks come after. -/
namespace VeronicaOrgCaps
open VeronicaTypes VeronicaPlanners VeronicaArbiters VeronicaPipeline VeronicaStages VeronicaIssue
open VeronicaRuns

variable {S : Type} [StoreProtocol S]

def MeetsCaps (casefold : String → String) (org : OrgPolicy) (policy : PolicyConfig) : Prop :=
  (∀ cap ∈ org.maxCeilingUsd, policy.ceilingUsd ≤ cap) ∧
  (∀ cap ∈ org.maxTimeoutMs, ∃ timeout ∈ policy.timeoutMs, timeout ≤ cap) ∧
  (∀ cap ∈ org.maxPriority, policy.priority ≤ cap) ∧
  ∀ model ∈ policy.fallbackModel, casefold model ∉ org.blockedModels.map casefold

/-- The clamp takes an empty fallback model for none, so it never blocks one. -/
def NoEmptyFallback (setup : Setup) (org : OrgPolicy) (os : VeronicaOS AnyPlanner LocalArbiter S)
    (t : BeforeTimes) : Prop :=
  ¬ plannerOverran setup t → (CeilingPlanner.band os.planner).fallbackModel = some "" →
    setup.casefold "" ∉ org.blockedModels.map setup.casefold

/-- What each way of issuing asks of the caps. -/
def CapsSurvive (setup : Setup) (org : OrgPolicy) (os : VeronicaOS AnyPlanner LocalArbiter S)
    (t : BeforeTimes) : Prop :=
  if arbiterOverran setup t then
    org.maxTimeoutMs = none ∧ ∀ cap ∈ org.maxPriority, 50 ≤ cap
  else match os.arbiter with
    | .inl _ => NoEmptyFallback setup org os t
    | .inr _ =>
      (∀ cap ∈ org.maxPriority, 0 < cap) ∧
      (∀ cap ∈ org.maxCeilingUsd, minAllocationUsd ≤ cap ∨ os.remaining setup < minAllocationUsd) ∧
      NoEmptyFallback setup org os t

theorem unblocked_iff (casefold : String → String) (blocked : List String)
    (fallback : Option String) :
    (∀ model ∈ (if OrgPolicy.blocks casefold blocked fallback then none else fallback),
      casefold model ∉ blocked.map casefold) ↔
    (fallback = some "" → casefold "" ∉ blocked.map casefold) := by
  by_cases isBlocked : OrgPolicy.blocks casefold blocked fallback
  · rw [if_pos isBlocked]
    obtain ⟨name, set, named, _⟩ := isBlocked
    have found : fallback = some name := set
    simp [found, named]
  · simp only [isBlocked, if_false]
    constructor
    · rintro free rfl
      exact free "" rfl
    · intro free model set
      by_cases empty : model = ""
      · exact empty ▸ free (empty ▸ set)
      · exact fun among => isBlocked ⟨model, set, empty, among⟩

variable {setup : Setup} {org : OrgPolicy} {early late : VeronicaOS AnyPlanner LocalArbiter S}
  {intent : StepIntent} {t : BeforeTimes}

theorem clamp_some (inForce : setup.orgPolicy = some org) (d : DesiredPolicy) :
    setup.clamp d = org.clamp setup.casefold d := by
  simp only [Setup.clamp, inForce]

theorem desired_caps (inForce : setup.orgPolicy = some org)
    (early late : VeronicaOS AnyPlanner LocalArbiter S) (intent : StepIntent)
    (t : BeforeTimes) :
    let desire := desired setup early late intent t
    (∀ cap ∈ org.maxCeilingUsd, desire.ceilingUsd ≤ cap) ∧
    (∀ cap ∈ org.maxTimeoutMs, desire.timeoutMs ≤ cap) ∧
    (∀ cap ∈ org.maxPriority, desire.priority ≤ cap) ∧
    ((∀ model ∈ desire.fallbackModel,
        setup.casefold model ∉ org.blockedModels.map setup.casefold) ↔
      NoEmptyFallback setup org late t) := by
  simp only [desired_filled, clamp_some inForce, OrgPolicy.clamp]
  refine ⟨fun cap set => capped_le set _, fun cap set => capped_le set _,
    fun cap set => capped_le set _, ?_⟩
  rw [unblocked_iff, NoEmptyFallback, planned]
  split
  · rename_i overran
    simp [overran, overrunDesire]
  · rename_i inTime
    simp only [inTime, not_false_eq_true, forall_const, CeilingBand.desire]

theorem issue_meets_caps_iff {desire : DesiredPolicy} (ceilingUsd : ℚ) (version : String)
    (timeout : ∀ cap ∈ org.maxTimeoutMs, desire.timeoutMs ≤ cap)
    (priority : ∀ cap ∈ org.maxPriority, desire.priority ≤ cap) (now : ℚ) :
    MeetsCaps setup.casefold org (issue desire ceilingUsd version now) ↔
      (∀ cap ∈ org.maxCeilingUsd, ceilingUsd ≤ cap) ∧
      ∀ model ∈ desire.fallbackModel,
        setup.casefold model ∉ org.blockedModels.map setup.casefold := by
  simp only [MeetsCaps, issue]
  constructor
  · intro meets
    obtain ⟨ceiling, _, _, fallback⟩ := meets
    exact ⟨ceiling, fallback⟩
  · intro meets
    obtain ⟨ceiling, fallback⟩ := meets
    exact ⟨ceiling, fun cap set => ⟨_, rfl, timeout cap set⟩, priority, fallback⟩

theorem bare_meets_caps_iff (ceilingUsd now : ℚ) :
    MeetsCaps setup.casefold org (barePolicy intent ceilingUsd now) ↔
      (∀ cap ∈ org.maxCeilingUsd, ceilingUsd ≤ cap) ∧ org.maxTimeoutMs = none ∧
      ∀ cap ∈ org.maxPriority, 50 ≤ cap := by
  have unset : (∀ cap ∈ org.maxTimeoutMs, ∃ timeout ∈ (none : Option Int), timeout ≤ cap) ↔
      org.maxTimeoutMs = none := by
    simp [Option.eq_none_iff_forall_not_mem]
  simp only [MeetsCaps, barePolicy, unset]
  simp

theorem cappedPriority_pos_iff (inForce : setup.orgPolicy = some org) :
    0 < cappedPriority setup ↔ ∀ cap ∈ org.maxPriority, 0 < cap := by
  rw [cappedPriority, inForce, Option.bind_some, Int.lt_iff_add_one_le, le_capped_iff]
  constructor
  · intro positive cap set
    have := positive.1 cap set
    omega
  · intro positive
    refine ⟨fun cap set => ?_, by norm_num⟩
    have := positive cap set
    omega

theorem proportional_ceiling_iff {ceilingUsd remaining : ℚ}
    (capped : ∀ cap ∈ org.maxCeilingUsd, ceilingUsd ≤ cap) :
    (∀ cap ∈ org.maxCeilingUsd, proportionalCeiling ceilingUsd remaining ≤ cap) ↔
      ∀ cap ∈ org.maxCeilingUsd, minAllocationUsd ≤ cap ∨ remaining < minAllocationUsd := by
  apply forall₂_congr
  intro cap set
  have within := (min_le_right remaining ceilingUsd).trans (capped cap set)
  unfold proportionalCeiling
  split
  · rename_i enough
    rw [max_le_iff, and_iff_right within, or_iff_left (not_lt.mpr enough)]
  · rename_i short
    exact iff_of_true within (Or.inr (not_le.mp short))

/-- Exactly when a call that is not denied issues a policy within every cap that is set, in any
    state of the pipeline and under any timing of its stages. -/
theorem caps_hold_iff (inForce : setup.orgPolicy = some org) {handle : StepHandle}
    (issued : (VeronicaOS.beforeStepAt setup early late intent t).2 = .ok handle)
    (admitted : handle.decisionMeta.orgDenial = none) :
    MeetsCaps setup.casefold org handle.policy ↔ CapsSurvive setup org late t := by
  obtain ⟨ceiling, timeout, priority, fallback⟩ := desired_caps inForce early late intent t
  rw [admitted_policy setup early late intent t issued admitted]
  unfold CapsSurvive
  by_cases overran : arbiterOverran setup t
  · simp only [policyFor_overran overran, overran, if_true, bare_meets_caps_iff]
    exact and_iff_right ceiling
  · simp only [overran, if_false]
    cases late.arbiter with
    | inl a =>
      simp only [policyFor_inl overran, policyFor_passthrough overran]
      rw [issue_meets_caps_iff _ _ timeout priority, fallback]
      refine and_iff_right fun cap set => le_trans ?_ (ceiling cap set)
      rw [passthroughCeiling_exact]
      split
      · exact min_le_right _ _
      · exact le_rfl
    | inr a =>
      have held : Arithmetic.exact.fl (late.remaining setup) = late.remaining setup := rfl
      simp only [policyFor_inr overran, policyFor_proportional overran held, desired_priority,
        ← cappedPriority_pos_iff inForce]
      by_cases positive : 0 < cappedPriority setup
      · rw [if_pos positive, issue_meets_caps_iff _ _ timeout priority, fallback,
          and_iff_right positive]
        exact and_congr_left' (proportional_ceiling_iff ceiling)
      · rw [if_neg positive, bare_meets_caps_iff]
        refine iff_of_false ?_ fun survive => positive survive.1
        intro meets
        obtain ⟨_, _, low⟩ := meets
        refine positive ((cappedPriority_pos_iff inForce).mpr fun cap set => ?_)
        have := low cap set
        omega

def oneSecond : OrgPolicy := { maxTimeoutMs := some 1000, maxPriority := some 60 }

/-- An arbiter that takes 25 ms of its 20 issues a policy without the org's timeout. -/
theorem slow_arbiter_drops_timeout : ∃ handle,
    ReachableOS (defaultSetup 1 (some oneSecond)) defaultOS defaultOS ∧
    (defaultOS.beforeStep (defaultSetup 1 (some oneSecond)) (llmIntent "1") slowArbiter).2 =
      .ok handle ∧
    handle.decisionMeta.orgDenial = none ∧
    ¬ MeetsCaps String.toLower oneSecond handle.policy := by
  refine ⟨_, reachableOS_run _ _ [], rfl, rfl, ?_⟩
  intro meets
  obtain ⟨_, timeout, _⟩ := meets
  obtain ⟨_, set, _⟩ := timeout 1000 rfl
  cases set

/-- In time, the same caps reach the policy. -/
theorem prompt_arbiter_keeps_caps : ∃ handle,
    (defaultOS.beforeStep (defaultSetup 1 (some oneSecond)) (llmIntent "1") inTime).2 =
      .ok handle ∧
    MeetsCaps String.toLower oneSecond handle.policy := by
  obtain ⟨handle, issued, admitted⟩ : ∃ handle,
      (defaultOS.beforeStep (defaultSetup 1 (some oneSecond)) (llmIntent "1") inTime).2 =
        .ok handle ∧ handle.decisionMeta.orgDenial = none := ⟨_, rfl, rfl⟩
  refine ⟨handle, issued, (caps_hold_iff rfl issued admitted).mpr ?_⟩
  unfold CapsSurvive
  rw [if_neg (by decide +kernel)]
  intro _ named
  cases named

end VeronicaOrgCaps
