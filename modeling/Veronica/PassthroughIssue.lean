import Veronica.Issue
import Veronica.MemoryHistory

/- The ceilings a pipeline with PassthroughArbiter and MemoryStore issues: the planner's ceiling,
   cut to what org cap and chain budget leave and, by an arbiter in time, to what the request has
   left. -/
namespace VeronicaPassthrough
open VeronicaTypes VeronicaPlanners VeronicaArbiters VeronicaPipeline VeronicaStages
open VeronicaIssue VeronicaMemory

/-- What the arbiter stage makes of a desired ceiling. -/
def granted (setup : Setup) (t : BeforeTimes) (remaining ceiling : ℚ) (r : Arithmetic := .exact) :
    ℚ :=
  if arbiterOverran setup t then ceiling else passthroughCeiling ceiling remaining r

def orgCapped (setup : Setup) (ceiling : ℚ) : ℚ :=
  OrgPolicy.capped (setup.orgPolicy.bind OrgPolicy.maxCeilingUsd) ceiling

/-- What org cap and chain budget leave to a step. -/
def outerLimit {P A S : Type} (setup : Setup) (os : VeronicaOS P A S) (intent : StepIntent) : ℚ :=
  orgCapped setup (os.chainRemaining setup intent.chainId)

def Planned (setup : Setup) (intent : StepIntent) (t : BeforeTimes) : Prop :=
  setup.denial intent = none ∧ isSafeChainId intent.chainId = true ∧ ¬ plannerOverran setup t

/-- The ceiling a call of `before_step` answers with. -/
def issuedCeiling : Except PyExc StepHandle → Option ℚ
  | .ok handle => some handle.policy.ceilingUsd
  | .error _ => none

theorem orgCapped_min (setup : Setup) (low high : ℚ) :
    orgCapped setup (min low high) = min low (orgCapped setup high) := by
  unfold orgCapped
  cases setup.orgPolicy.bind OrgPolicy.maxCeilingUsd with
  | none => rfl
  | some limit => rw [capped_eq_min, capped_eq_min, min_left_comm]

theorem orgCapped_le (setup : Setup) (ceiling : ℚ) : orgCapped setup ceiling ≤ ceiling :=
  ((le_capped_iff _ ceiling _).mp le_rfl).2

theorem granted_affordable {setup : Setup} {t : BeforeTimes} {remaining ceiling : ℚ}
    (r : Arithmetic) (affordable : ceiling ≤ remaining) :
    granted setup t remaining ceiling r = ceiling := by
  unfold granted
  split
  · rfl
  · exact passthrough_affordable r affordable

section Issued
variable {P : Type} {r : Arithmetic} [CeilingPlanner P] {setup : Setup} {intent : StepIntent}
  {t : BeforeTimes}

theorem issued_ceiling (os : VeronicaOS P (PassthroughArbiter r) MemoryStore) (t : BeforeTimes)
    (admitted : setup.denial intent = none) (safe : isSafeChainId intent.chainId = true) :
    issuedCeiling (os.beforeStep setup intent t).2 = some (granted setup t (os.remaining setup)
      (if plannerOverran setup t then orgCapped setup (min 1 (os.remaining setup))
      else min (plannerCeiling setup os os intent t) (outerLimit setup os intent)) r) := by
  have read : StoreProtocol.buildHistory os.store intent.chainId = _ :=
    buildHistory_safe os.store intent.chainId safe
  obtain ⟨handle, issued⟩ : ∃ handle, (os.beforeStep setup intent t).2 = .ok handle := by
    simp only [VeronicaOS.beforeStep, VeronicaOS.beforeStepAt, admitted, read, Except.ok.injEq]
    exact ⟨_, rfl⟩
  rw [issued]
  refine congrArg some ?_
  rcases handle_cases setup os os intent t issued with ⟨reason, denied, _⟩ | ⟨_, _, _, policy⟩
  · rw [admitted] at denied
    cases denied
  · have desire : (desired setup os os intent t).ceilingUsd = if plannerOverran setup t then
          orgCapped setup (min 1 (os.remaining setup))
        else min (plannerCeiling setup os os intent t) (outerLimit setup os intent) := by
      rw [desired_ceilingUsd, planned]
      split
      · rfl
      · exact orgCapped_min setup _ _
    rw [policy, ← desire, granted]
    split
    · rename_i overran
      rw [policyFor_overran overran]
      rfl
    · rename_i inTime
      rw [policyFor_passthrough inTime]
      rfl

/-- What a step gets that the planner has no say in: nothing on an invalid chain, zero after a
    denial, and the fallback of an overrun. -/
theorem unplanned_ceiling (os : VeronicaOS P (PassthroughArbiter r) MemoryStore)
    (unplanned : ¬ Planned setup intent t) : issuedCeiling (os.beforeStep setup intent t).2 =
      if (setup.denial intent).isSome then some 0
      else if isSafeChainId intent.chainId then
        some (granted setup t (os.remaining setup)
          (orgCapped setup (min 1 (os.remaining setup))) r)
      else none := by
  cases denied : setup.denial intent with
  | some reason =>
    simp only [VeronicaOS.beforeStep, VeronicaOS.beforeStepAt, denied]
    rfl
  | none =>
    cases safe : isSafeChainId intent.chainId with
    | false =>
      have read : StoreProtocol.buildHistory os.store intent.chainId = _ :=
        buildHistory_refused os.store intent.chainId safe
      simp only [VeronicaOS.beforeStep, VeronicaOS.beforeStepAt, denied, read]
      rfl
    | true =>
      have overran : plannerOverran setup t :=
        not_not.mp fun inTime => unplanned ⟨denied, safe, inTime⟩
      rw [issued_ceiling os t denied safe, if_pos overran]
      rfl

theorem planned_ceiling (os : VeronicaOS P (PassthroughArbiter r) MemoryStore)
    (planned : Planned setup intent t) : issuedCeiling (os.beforeStep setup intent t).2 =
      some (granted setup t (os.remaining setup)
        (min (plannerCeiling setup os os intent t) (outerLimit setup os intent)) r) := by
  rw [issued_ceiling os t planned.1 planned.2.1, if_neg planned.2.2]

end Issued

end VeronicaPassthrough
