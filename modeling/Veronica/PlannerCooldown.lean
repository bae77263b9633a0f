import Veronica.Library.Cooldowns
import Veronica.Planners

/- Sequences of AdaptivePlanner.plan calls. A call that applies a factor starts a cooldown of three
   calls, whether or not the clamps leave anything of the adjustment. -/
namespace VeronicaPlannerCooldown
open VeronicaTypes VeronicaPlanners

structure PlanCall where
  analysis : Option AnalysisResult
  cost : CostEstimate
  budget : BudgetState

def act (p : AdaptivePlanner) (call : PlanCall) : AdaptivePlanner :=
  (p.plan call.analysis call.cost call.budget).1

def ceilingOf (p : AdaptivePlanner) (call : PlanCall) : ℚ :=
  (p.plan call.analysis call.cost call.budget).2.ceilingUsd

/-- The call applies a tighten or a loosen factor. -/
def applies (p : AdaptivePlanner) (call : PlanCall) : Bool := (p.adjustment call.analysis).isSome

def cooldown : Cooldowns.Machine AdaptivePlanner PlanCall where
  next := act
  marks := applies
  remaining := AdaptivePlanner.cooldownRemaining

/-- For every call, whether it applies a factor. -/
def applied (p : AdaptivePlanner) (calls : List PlanCall) : List Bool := cooldown.marksOf p calls

/-- The bounds of a returned ceiling. -/
structure Bounded (p : AdaptivePlanner) (call : PlanCall) : Prop where
  most : ceilingOf p call ≤ p.band.maxCeilingUsd
  remaining : ceilingOf p call ≤ call.budget.chainRemainingUsd
  least : min p.band.minCeilingUsd call.budget.chainRemainingUsd ≤ ceilingOf p call
  headroom : min (min (call.cost.estimatedUsd * costHeadroom) p.band.maxCeilingUsd)
    call.budget.chainRemainingUsd ≤ ceilingOf p call

/-- Factors are applied at least four calls apart, and every ceiling is within its bounds. -/
structure Paced (p : AdaptivePlanner) (calls : List PlanCall) : Prop where
  apart : ∀ i j : Nat, i < j → (applied p calls)[i]? = some true →
    (applied p calls)[j]? = some true → i + 4 ≤ j
  counted : ∀ start n : Nat, (((applied p calls).drop start).take n).count true ≤ ⌈(n : ℚ) / 4⌉₊
  bounded : Runs.EachStep act Bounded p calls

theorem cooldown_set (p : AdaptivePlanner) (call : PlanCall) : (act p call).cooldownRemaining =
    if applies p call then cooldownSteps else max 0 (p.cooldownRemaining - 1) := by
  simp only [act, AdaptivePlanner.plan, AdaptivePlanner.cooldownRemaining, Dict.getD,
    Dict.get?_set_self, Option.getD_some]
  rfl

theorem applies_rested {p : AdaptivePlanner} {call : PlanCall} (adjusts : applies p call = true) :
    p.cooldownRemaining ≤ 0 := by
  by_contra cooling
  unfold applies AdaptivePlanner.adjustment at adjusts
  split at adjusts
  · cases adjusts
  · rw [if_pos (not_le.mp cooling)] at adjusts
    cases adjusts

theorem cooldown_cools : cooldown.Cools 3 where
  rested _ _ := applies_rested
  starts p call adjusts := (cooldown_set p call).trans (if_pos adjusts)
  counts p call adjusts := (cooldown_set p call).trans (if_neg (Bool.eq_false_iff.mp adjusts))

theorem bounded {p : AdaptivePlanner} (ordered : p.band.minCeilingUsd ≤ p.band.maxCeilingUsd)
    (call : PlanCall) : Bounded p call := by
  have settled : ceilingOf p call =
      min (p.band.cut (p.drift call.analysis call.cost)) call.budget.chainRemainingUsd := rfl
  have drifted : call.cost.estimatedUsd * costHeadroom ≤ p.drift call.analysis call.cost :=
    le_max_right _ _
  have cut : min p.band.maxCeilingUsd (p.drift call.analysis call.cost) ≤
      p.band.cut (p.drift call.analysis call.cost) := le_max_right _ _
  constructor
  case most =>
    rw [settled]
    exact (min_le_left _ _).trans (max_le ordered (min_le_left _ _))
  case remaining =>
    rw [settled]
    exact min_le_right _ _
  case least =>
    rw [settled]
    exact min_le_min_right _ (le_max_left _ _)
  case headroom =>
    rw [settled, min_comm (call.cost.estimatedUsd * costHeadroom)]
    exact min_le_min_right _ ((min_le_min_left _ drifted).trans cut)

theorem eachStep_bounded (p : AdaptivePlanner) (calls : List PlanCall)
    (ordered : p.band.minCeilingUsd ≤ p.band.maxCeilingUsd) :
    Runs.EachStep act Bounded p calls := by
  induction calls generalizing p with
  | nil => trivial
  | cons call calls ih => exact ⟨bounded ordered call, ih (act p call) ordered⟩

theorem quarter_le_ceil (n : Nat) : (n + 3) / (3 + 1) ≤ ⌈(n : ℚ) / 4⌉₊ := by
  have above := Nat.le_ceil ((n : ℚ) / 4)
  rw [div_le_iff₀ (by norm_num)] at above
  have above : n ≤ ⌈(n : ℚ) / 4⌉₊ * 4 := by exact_mod_cast above
  omega

/-- Whatever state the planner is in and whatever it is called with, it applies at most one factor
    in four calls and keeps its ceilings within their bounds. -/
theorem calls_paced {p : AdaptivePlanner} (ordered : p.band.minCeilingUsd ≤ p.band.maxCeilingUsd)
    (calls : List PlanCall) : Paced p calls := by
  have spaced : Cooldowns.Spaced (3 + 1) (applied p calls) :=
    Cooldowns.Machine.spaced cooldown_cools p calls
  constructor
  case apart => exact spaced
  case counted =>
    intro start n
    exact (spaced.window start n).trans (quarter_le_ceil n)
  case bounded => exact eachStep_bounded p calls ordered

section Swallowed

/-- The planner before the `i`-th call. -/
def before (p : AdaptivePlanner) (calls : List PlanCall) (i : Nat) : AdaptivePlanner :=
  Runs.run act p (calls.take i)

/-- The `i`-th call applies a factor that changes the effective ceiling. -/
def Changes (p : AdaptivePlanner) (calls : List PlanCall) (i : Nat) : Prop :=
  (applied p calls)[i]? = some true ∧
    (before p calls (i + 1)).effectiveCeiling ≠ (before p calls i).effectiveCeiling

/-- A call recommended to tighten applies a tighten factor, unless one of the three calls before it
    applied a factor that changed the effective ceiling. -/
def NeverSwallowed (p : AdaptivePlanner) (calls : List PlanCall) : Prop :=
  ∀ (j : Nat) (call : PlanCall) (a : AnalysisResult), calls[j]? = some call →
    call.analysis = some a → a.recommendation = .tighten →
      (before p calls j).adjustment call.analysis = some (adaptiveTightenFactor a) ∨
        ∃ i, i < j ∧ j ≤ i + 3 ∧ Changes p calls i

/-- The clamps and the cost guard turn the adjusted ceiling into the one there was. -/
def Cancelled (p : AdaptivePlanner) (call : PlanCall) (factor : ℚ) : Prop :=
  min (p.band.cut (max (p.effectiveCeiling * factor) (call.cost.estimatedUsd * costHeadroom)))
    call.budget.chainRemainingUsd = p.effectiveCeiling

/-- No call recommended to tighten comes within three calls of an adjustment that was cancelled. -/
def NoneCancelled (p : AdaptivePlanner) (calls : List PlanCall) : Prop :=
  ∀ (i j : Nat) (earlier call : PlanCall) (a : AnalysisResult) (factor : ℚ), i < j → j ≤ i + 3 →
    calls[i]? = some earlier → calls[j]? = some call → call.analysis = some a →
      a.recommendation = .tighten →
        (before p calls i).adjustment earlier.analysis = some factor →
          ¬ Cancelled (before p calls i) earlier factor

variable {p : AdaptivePlanner} {calls : List PlanCall}

theorem applied_at {i : Nat} {call : PlanCall} (found : calls[i]? = some call) :
    (applied p calls)[i]? = some true ↔
      ∃ factor, (before p calls i).adjustment call.analysis = some factor := by
  rw [applied, Cooldowns.Machine.marksOf_getElem?, found, Option.map_some, Option.some.injEq]
  exact Option.isSome_iff_exists

theorem before_succ {i : Nat} {call : PlanCall} (found : calls[i]? = some call) :
    before p calls (i + 1) = act (before p calls i) call := by
  obtain ⟨inside, eq⟩ := List.getElem?_eq_some_iff.mp found
  rw [before, List.take_succ_eq_append_getElem inside, Runs.run_append, eq]
  rfl

theorem cancelled_iff {call : PlanCall} {factor : ℚ}
    (adjusted : p.adjustment call.analysis = some factor) :
    (act p call).effectiveCeiling = p.effectiveCeiling ↔ Cancelled p call factor := by
  have settled : (act p call).effectiveCeiling =
      min (p.band.cut (p.drift call.analysis call.cost)) call.budget.chainRemainingUsd := rfl
  rw [settled, AdaptivePlanner.drift, adjusted, Arithmetic.exact_scale]
  rfl

theorem changes_iff {i : Nat} {call : PlanCall} {factor : ℚ} (found : calls[i]? = some call)
    (adjusted : (before p calls i).adjustment call.analysis = some factor) :
    Changes p calls i ↔ ¬ Cancelled (before p calls i) call factor := by
  rw [Changes, applied_at found, before_succ found, Ne, cancelled_iff adjusted]
  exact and_iff_right ⟨factor, adjusted⟩

theorem tightens_or_cools {call : PlanCall} {a : AnalysisResult} (analysis : call.analysis = some a)
    (tighten : a.recommendation = .tighten) :
    p.adjustment call.analysis = some (adaptiveTightenFactor a) ∨ 0 < p.cooldownRemaining := by
  rw [analysis]
  simp only [AdaptivePlanner.adjustment]
  split
  · rename_i cooling
    exact Or.inr cooling
  · rw [tighten]
    exact Or.inl rfl

/-- No tighten is lost to a cooldown that no change has started, exactly if no adjustment that the
    clamps cancelled comes within three calls before a call recommended to tighten. -/
theorem never_swallowed_iff (band : CeilingBand) (calls : List PlanCall) :
    NeverSwallowed { band } calls ↔ NoneCancelled { band } calls := by
  have spaced : Cooldowns.Spaced (3 + 1) (applied { band } calls) :=
    Cooldowns.Machine.spaced cooldown_cools { band } calls
  constructor
  · intro never i j earlier call a factor first close found later analysis tighten adjusted
    have mark := (applied_at found).mpr ⟨factor, adjusted⟩
    rcases never j call a later analysis tighten with applies | ⟨i', first', close', changes⟩
    · have apart := spaced i j first mark ((applied_at later).mpr ⟨_, applies⟩)
      omega
    · have same : i = i' := by
        by_contra other
        rcases Nat.lt_or_gt_of_ne other with less | more
        · have apart := spaced i i' less mark changes.1
          omega
        · have apart := spaced i' i more changes.1 mark
          omega
      subst same
      exact (changes_iff found adjusted).mp changes
  · intro none j call a found analysis tighten
    refine (tightens_or_cools analysis tighten).imp_right ?_
    intro cooling
    have rested : cooldown.remaining { band } ≤ 0 := le_refl 0
    obtain ⟨i, inside, mark, ago⟩ :=
      Cooldowns.Machine.origin cooldown_cools rested (calls.take j) cooling
    have shorter : (calls.take j).length ≤ j := List.length_take_le _ _
    have first : i < j := inside.trans_le shorter
    have whole : (calls.take j).length = j := by
      rw [List.length_take]
      exact min_eq_left (List.getElem?_eq_some_iff.mp found).1.le
    have close : j ≤ i + 3 := by
      have running : 0 < cooldown.remaining (Runs.run cooldown.next { band } (calls.take j)) :=
        cooling
      omega
    rw [Cooldowns.Machine.marksOf_take, List.getElem?_take_of_lt first] at mark
    have before_end : i < calls.length := first.trans (List.getElem?_eq_some_iff.mp found).1
    have earlier := List.getElem?_eq_getElem before_end
    obtain ⟨factor, adjusted⟩ := (applied_at earlier).mp mark
    refine ⟨i, first, close, (changes_iff earlier adjusted).mpr ?_⟩
    exact none i j _ call a factor first close earlier found analysis tighten adjusted

section AtTheLimit

def analysisOf (recommendation : Recommendation) : AnalysisResult where
  signals := []
  riskLevel := .nominal
  recommendation := recommendation

def callOf (recommendation : Recommendation) : PlanCall where
  analysis := some (analysisOf recommendation)
  cost := { estimatedUsd := 0, confidence := 1, modelUsed := "m", basis := .fallback }
  budget := { requestRemainingUsd := 100, chainRemainingUsd := 100, windowRemainingSteps := 100 }

/-- A tighten and a loosen right behind it, with the default limits. -/
theorem tighten_then_loosen_paced : Paced {} [callOf .tighten, callOf .loosen] :=
  calls_paced (by norm_num [defaultBand]) _

/-- A loosen at the maximum is clamped away and still keeps the next call from tightening. -/
theorem clamped_loosen_swallows :
    ¬ NeverSwallowed { band := { baseCeilingUsd := 10 } } [callOf .loosen, callOf .tighten] := by
  have cancelled : Cancelled { band := { baseCeilingUsd := 10 } } (callOf .loosen)
      adaptiveLoosenFactor := by
    norm_num [Cancelled, CeilingBand.cut, callOf, adaptiveLoosenFactor, costHeadroom]
  intro never
  rcases never 1 _ _ rfl rfl rfl with applies | ⟨i, first, _, changes⟩
  · cases applies
  · obtain rfl : i = 0 := by omega
    exact (changes_iff rfl rfl).mp changes cancelled

end AtTheLimit

end Swallowed

end VeronicaPlannerCooldown
