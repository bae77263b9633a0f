import Veronica.Lifecycle
import Veronica.Library.Atomic

/- What a call of the rollout registry that raises leaves behind. -/
namespace VeronicaRolloutAtomicity
open VeronicaRollouts VeronicaLifecycle VeronicaDistribution RolloutRegistry Atomic

/-- What each call leaves behind and answers. -/
def answered (rt : Runtime) (reg : RolloutRegistry) :
    Call → RolloutRegistry × Except RegistryError Rollout
  | .create id policyConfig createdBy now =>
    let (after, rollout) := reg.create id policyConfig createdBy now
    (after, .ok rollout)
  | .transition rolloutId target actor now => reg.transition rolloutId target actor now
  | .simulate rolloutId result actor now => reg.simulate rt rolloutId result actor now
  | .setSimulationResult rolloutId result => reg.setSimulationResult rt rolloutId result

/-- The part of a rollout that only a call that succeeds may change. -/
structure Kept where
  state : RolloutState
  history : List StateTransition
  updatedAt : ℚ
  simulationResult : Option PyVal

def Kept.of (rollout : Rollout) : Kept where
  state := rollout.state
  history := rollout.history
  updatedAt := rollout.updatedAt
  simulationResult := rollout.simulationResult

def kept (reg : RolloutRegistry) (id : String) : Option Kept := (reg.get id).map Kept.of

/-- `simulate` on a draft whose history is full, with a result that is accepted and is not the
    one already stored. -/
def OverwritesFullDraft (rt : Runtime) (reg : RolloutRegistry) : Call → Prop
  | .simulate rolloutId result _ _ => ∃ rollout, reg.get rolloutId = some rollout ∧
    rollout.state = .draft ∧ maxHistoryLength ≤ rollout.history.length ∧
    checkResult rt result = .ok () ∧ rollout.simulationResult ≠ some result
  | _ => False

/-- A result that is stored while nothing else changes shows unless it was there before. -/
theorem kept_put_iff {reg : RolloutRegistry} {rolloutId : String} {rollout : Rollout}
    (found : reg.get rolloutId = some rollout) (result : PyVal) :
    kept (reg.put rolloutId { rollout with simulationResult := some result }) = kept reg ↔
      rollout.simulationResult = some result := by
  constructor
  · intro same
    have here := congrFun same rolloutId
    simp only [kept, get_put_self, found, Option.map_some, Option.some.injEq] at here
    exact (congrArg Kept.simulationResult here).symm
  · intro stored
    funext id
    simp only [kept, get_put]
    split
    · rename_i same
      rw [same, found, Option.map_some, Option.map_some]
      exact congrArg some (by simp only [Kept.of, stored])
    · rfl

theorem simulate_atomic_iff (rt : Runtime) (reg : RolloutRegistry) (rolloutId : String)
    (result : PyVal) (actor : String) (now : ℚ) :
    AtomicAt kept reg (reg.simulate rt rolloutId result actor now) ↔
      ¬ OverwritesFullDraft rt reg (.simulate rolloutId result actor now) := by
  rcases reg.simulate_cases rt rolloutId result actor now with
    ⟨refused, e, eq⟩ | ⟨rollout, found, draft, accepted, full, eq⟩ |
    ⟨rollout, found, draft, accepted, room, eq⟩
  · rw [eq]
    refine iff_of_true (atomicAt_unchanged _) ?_
    intro overwrites
    obtain ⟨rollout, found, draft, _, accepted, _⟩ := overwrites
    exact refused rollout found ⟨draft, accepted⟩
  · rw [eq, atomicAt_error_iff, kept_put_iff found result]
    constructor
    · intro stored overwrites
      obtain ⟨other, foundOther, _, _, _, unlike⟩ := overwrites
      rw [found] at foundOther
      cases foundOther
      exact unlike stored
    · intro spared
      by_contra unlike
      exact spared ⟨rollout, found, draft, full, accepted, unlike⟩
  · rw [eq]
    refine iff_of_true (atomicAt_ok _) ?_
    intro overwrites
    obtain ⟨other, foundOther, _, full, _⟩ := overwrites
    rw [found] at foundOther
    cases foundOther
    omega

/-- A call that raises leaves every rollout as it was, unless it gives a full draft another
    simulation result. -/
theorem raising_call_keeps_iff (rt : Runtime) (reg : RolloutRegistry) (c : Call) :
    AtomicAt kept reg (answered rt reg c) ↔ ¬ OverwritesFullDraft rt reg c := by
  cases c with
  | create id policyConfig createdBy now => exact iff_of_true (atomicAt_ok _) not_false
  | transition rolloutId target actor now =>
    refine iff_of_true ?_ not_false
    rcases reg.transition_cases rolloutId target actor now with
      ⟨_, eq⟩ | ⟨_, _, _, _, eq⟩ | ⟨_, _, _, _, eq⟩
    · rw [answered, eq]
      exact atomicAt_unchanged _
    · rw [answered, eq]
      exact atomicAt_unchanged _
    · rw [answered, eq]
      exact atomicAt_ok _
  | simulate rolloutId result actor now =>
    exact simulate_atomic_iff rt reg rolloutId result actor now
  | setSimulationResult rolloutId result =>
    refine iff_of_true ?_ not_false
    rcases reg.setSimulationResult_cases rt rolloutId result with ⟨_, eq⟩ | ⟨_, _, _, eq⟩
    · rw [answered, eq]
      exact atomicAt_unchanged _
    · rw [answered, eq]
      exact atomicAt_ok _

theorem full_draft_overwritten {rt : Runtime} {reg : RolloutRegistry} {rolloutId : String}
    {rollout : Rollout} (known : reg.get rolloutId = some rollout) (draft : rollout.state = .draft)
    (full : maxHistoryLength ≤ rollout.history.length) (unset : rollout.simulationResult = none)
    {result : PyVal} (accepted : checkResult rt result = .ok ()) (actor : String) (now : ℚ) :
    ¬ AtomicAt kept reg (answered rt reg (.simulate rolloutId result actor now)) := by
  have unlike : rollout.simulationResult ≠ some result := by
    rw [unset]
    exact nofun
  intro atomic
  exact (simulate_atomic_iff rt reg rolloutId result actor now).mp atomic
    ⟨rollout, known, draft, full, accepted, unlike⟩

open VeronicaActivation (paymentRuntime)

/-- After 500 rollbacks the draft has no simulation result and a full history; `simulate` raises
    and leaves its result there. -/
theorem full_draft_result_left_behind :
    ¬ AtomicAt kept (registryAfter paymentRuntime (rollbackRounds 500))
      (answered paymentRuntime (registryAfter paymentRuntime (rollbackRounds 500))
        simulatePayment) := by
  obtain ⟨rollout, known, draft, length, unset⟩ := rollbackRounds_history 500 (Nat.le_refl _)
  exact full_draft_overwritten known draft length.ge unset payment_result_accepted "system" 0

end VeronicaRolloutAtomicity
