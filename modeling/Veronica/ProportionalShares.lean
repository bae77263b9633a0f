import Veronica.Arbiters
import Veronica.Library.WeightedShares

/- What ProportionalArbiter allots to each of any number of chains: its entitlement by weight and
   cap, raised to a cent where the budget has a cent for everyone, and scaled down if that makes
   the total too large. -/
namespace VeronicaProportionalShares
open VeronicaTypes VeronicaArbiters WeightedShares

def eligibleOf (desires : List DesiredPolicy) : List DesiredPolicy :=
  desires.filter fun d => 0 < d.priority

def DistinctChains (desires : List DesiredPolicy) : Prop :=
  (desires.map DesiredPolicy.chainId).Nodup

instance (desires : List DesiredPolicy) : Decidable (DistinctChains desires) :=
  inferInstanceAs (Decidable (List.Nodup _))

def divisionOf (eligible : List DesiredPolicy) (budget : ℚ) : Division DesiredPolicy ℚ where
  items := eligible
  weight d := d.priority
  cap := DesiredPolicy.ceilingUsd
  budget := budget
  negligible := eps

section Amounts
variable (eligible : List DesiredPolicy) (budget : ℚ)

/-- The budget has the minimum for everyone. -/
def CoversMinimum : Prop := eligible.length * minAllocationUsd ≤ budget

instance : Decidable (CoversMinimum eligible budget) := inferInstanceAs (Decidable (_ ≤ _))

def raised (d : DesiredPolicy) : ℚ :=
  if CoversMinimum eligible budget then
    max ((divisionOf eligible budget).entitlement d) minAllocationUsd
  else (divisionOf eligible budget).entitlement d

def raisedTotal : ℚ := (eligible.map (raised eligible budget)).sum

/-- What the arbiter makes the ceiling of an eligible desire. -/
def allotment (d : DesiredPolicy) : ℚ :=
  if budget + eps < raisedTotal eligible budget then
    raised eligible budget d * (budget / raisedTotal eligible budget)
  else raised eligible budget d

end Amounts

/-- The dict has an entry for each desire, in their order. -/
def Holds {V : Type} (dict : Dict String V) (desires : List DesiredPolicy)
    (value : DesiredPolicy → V) : Prop :=
  dict.entries = desires.map fun d => (d.chainId, value d)

section Entries
variable {V : Type} {dict : Dict String V} {desires : List DesiredPolicy}
  {value : DesiredPolicy → V}

theorem DistinctChains.injective (distinct : DistinctChains desires) {d e : DesiredPolicy}
    (memberD : d ∈ desires) (memberE : e ∈ desires) (same : d.chainId = e.chainId) : d = e :=
  List.inj_on_of_nodup_map distinct memberD memberE same

theorem Holds.keys (holds : Holds dict desires value) :
    dict.keys = desires.map DesiredPolicy.chainId := by
  rw [Dict.keys, holds, List.map_map]
  rfl

theorem Holds.get? (holds : Holds dict desires value) {d : DesiredPolicy} (member : d ∈ desires) :
    dict.get? d.chainId = some (value d) := by
  rw [Dict.get?_eq_some_iff, holds]
  exact List.mem_map_of_mem member

theorem Holds.congr (holds : Holds dict desires value) {other : DesiredPolicy → V}
    (same : ∀ d ∈ desires, value d = other d) : Holds dict desires other := by
  rw [Holds, holds]
  exact List.map_congr_left fun d member => by rw [same d member]

theorem Holds.append (holds : Holds dict desires value) {d : DesiredPolicy}
    (new : d.chainId ∉ desires.map DesiredPolicy.chainId) :
    Holds (dict.set d.chainId (value d)) (desires ++ [d]) value := by
  rw [← holds.keys] at new
  rw [Holds, Dict.set_entries_absent new, holds, List.map_append, List.map_singleton]

theorem Holds.replace (holds : Holds dict desires value) {d : DesiredPolicy} (member : d ∈ desires)
    (v : V) : Holds (dict.set d.chainId v) desires
      fun e => if e.chainId = d.chainId then v else value e := by
  have present : d.chainId ∈ dict.keys := by
    rw [holds.keys]
    exact List.mem_map_of_mem member
  rw [Holds, Dict.set_entries_present present, holds, List.map_map]
  refine List.map_congr_left fun e _ => ?_
  simp only [Function.comp_apply, Dict.replaceEntry]
  split <;> rfl

theorem Holds.mapValues {W : Type} (holds : Holds dict desires value) (f : V → W) :
    Holds (dict.mapValues f) desires fun d => f (value d) := by
  have mapped : (dict.mapValues f).entries = dict.entries.map fun e => (e.1, f e.2) := rfl
  rw [Holds, mapped, holds, List.map_map]
  rfl

theorem holds_build (distinct : DistinctChains desires) (value : DesiredPolicy → V) :
    Holds (desires.foldl (fun dict d => dict.set d.chainId (value d)) ∅) desires value := by
  have keys : ((desires.map fun d => (d.chainId, value d)).map Prod.fst).Nodup := by
    rw [List.map_map]
    exact distinct
  have built := Dict.ofEntries_entries keys
  rwa [Dict.ofEntries, List.foldl_map] at built

theorem Holds.update {dict : Dict String ℚ} {amount : DesiredPolicy → ℚ}
    (distinct : DistinctChains desires) (change : DesiredPolicy → ℚ → ℚ)
    (holds : Holds dict desires amount) {some : List DesiredPolicy}
    (among : ∀ d ∈ some, d ∈ desires) (once : DistinctChains some) :
    Holds (some.foldl (fun dict d =>
        dict.set d.chainId (change d (dict.getD d.chainId 0))) dict) desires
      fun d => if d.chainId ∈ some.map DesiredPolicy.chainId then change d (amount d)
        else amount d := by
  induction some generalizing dict amount with
  | nil => simpa using holds
  | cons u some ih =>
    have memberU := among u List.mem_cons_self
    have current : dict.getD u.chainId 0 = amount u := by
      rw [Dict.getD, holds.get? memberU, Option.getD_some]
    obtain ⟨fresh, onceRest⟩ := List.nodup_cons.mp once
    rw [List.foldl_cons, current]
    refine (ih (holds.replace memberU _) (fun d member => among d (List.mem_cons_of_mem _ member))
      onceRest).congr ?_
    intro d member
    rw [List.map_cons]
    by_cases same : d.chainId = u.chainId
    · obtain rfl := distinct.injective member memberU same
      rw [if_neg fresh, if_pos rfl, if_pos List.mem_cons_self]
    · rw [if_neg same]
      by_cases later : d.chainId ∈ some.map DesiredPolicy.chainId
      · rw [if_pos later, if_pos (List.mem_cons_of_mem _ later)]
      · rw [if_neg later, if_neg fun member => (List.mem_cons.mp member).elim same later]

end Entries

section Loops
variable {eligible : List DesiredPolicy} {budget : ℚ}

/-- What the first pass has collected when it has seen these desires. -/
structure FirstPassAt (s : Division DesiredPolicy ℚ) (seen : List DesiredPolicy)
    (pass : FirstPass) : Prop where
  allocations : Holds pass.allocations seen fun d =>
    if s.isCapped d then d.ceilingUsd else s.share d
  surplus : pass.surplus = ((seen.filter s.isCapped).map fun d => s.share d - d.ceilingUsd).sum
  uncapped : pass.uncapped = seen.filter fun d => !s.isCapped d

theorem allocateShare_at {seen : List DesiredPolicy} {pass : FirstPass} {d : DesiredPolicy}
    (at_seen : FirstPassAt (divisionOf eligible budget) seen pass)
    (new : d.chainId ∉ seen.map DesiredPolicy.chainId) :
    FirstPassAt (divisionOf eligible budget) (seen ++ [d])
      (allocateShare .exact (weight eligible) budget pass d) := by
  have appended := at_seen.allocations.append new
  have share : budget * ((d.priority : ℚ) / weight eligible) =
      (divisionOf eligible budget).share d := mul_comm _ _
  simp only [allocateShare, Arithmetic.exact_scale, share]
  by_cases capped : (divisionOf eligible budget).isCapped d = true
  · have above : d.ceilingUsd < (divisionOf eligible budget).share d := of_decide_eq_true capped
    rw [if_pos capped] at appended
    rw [if_pos above]
    constructor
    case allocations => exact appended
    case surplus => simp [at_seen.surplus, List.filter_append, capped]
    case uncapped => simp [at_seen.uncapped, List.filter_append, capped]
  · have within : ¬ d.ceilingUsd < (divisionOf eligible budget).share d :=
      fun above => capped (decide_eq_true above)
    rw [if_neg capped] at appended
    rw [if_neg within]
    constructor
    case allocations => exact appended
    case surplus => simp [at_seen.surplus, List.filter_append, capped]
    case uncapped => simp [at_seen.uncapped, List.filter_append, capped]

theorem firstPass_at {seen rest : List DesiredPolicy} {pass : FirstPass}
    (at_seen : FirstPassAt (divisionOf eligible budget) seen pass)
    (distinct : DistinctChains (seen ++ rest)) :
    FirstPassAt (divisionOf eligible budget) (seen ++ rest)
      (rest.foldl (allocateShare .exact (weight eligible) budget) pass) := by
  induction rest generalizing seen pass with
  | nil => simpa using at_seen
  | cons d rest ih =>
    have new : d.chainId ∉ seen.map DesiredPolicy.chainId := by
      intro member
      rw [DistinctChains, List.map_append, List.map_cons] at distinct
      exact (List.nodup_append.mp distinct).2.2 _ member _ List.mem_cons_self rfl
    have whole : seen ++ d :: rest = (seen ++ [d]) ++ rest := by simp
    rw [whole] at distinct ⊢
    rw [List.foldl_cons]
    exact ih (allocateShare_at at_seen new) distinct

theorem redistribute_holds {pass : FirstPass} (distinct : DistinctChains eligible)
    (first : FirstPassAt (divisionOf eligible budget) eligible pass) :
    Holds (redistribute .exact pass) eligible (divisionOf eligible budget).entitlement := by
  have surplus : pass.surplus = (divisionOf eligible budget).surplus := first.surplus
  have uncapped : pass.uncapped = (divisionOf eligible budget).uncapped := first.uncapped
  have open_weight : weight (divisionOf eligible budget).uncapped =
      (divisionOf eligible budget).openWeight := rfl
  simp only [redistribute, Arithmetic.exact_scale, surplus, uncapped,
    open_weight]
  by_cases more : eps < (divisionOf eligible budget).surplus ∧
      eps < (divisionOf eligible budget).openWeight
  · have open_items : (divisionOf eligible budget).uncapped ≠ [] := by
      intro empty
      rw [Division.openWeight, empty, List.map_nil, List.sum_nil] at more
      exact lt_asymm eps_pos more.2
    have redistributes : (divisionOf eligible budget).redistributes = true := decide_eq_true more
    rw [if_pos ⟨more.1, open_items, more.2⟩]
    have once : DistinctChains (divisionOf eligible budget).uncapped :=
      distinct.sublist (List.filter_sublist.map _)
    refine (first.allocations.update distinct
      (fun d x => min (x + (divisionOf eligible budget).surplus *
        (d.priority / (divisionOf eligible budget).openWeight)) d.ceilingUsd)
      (fun d member => List.mem_of_mem_filter member) once).congr ?_
    intro d member
    rw [Division.entitlement, if_pos redistributes]
    by_cases capped : (divisionOf eligible budget).isCapped d = true
    · rw [if_pos capped, if_pos capped, if_neg]
      · rfl
      · intro listed
        obtain ⟨e, among, same⟩ := List.mem_map.mp listed
        obtain ⟨memberE, uncappedE⟩ := List.mem_filter.mp among
        obtain rfl := distinct.injective memberE member same
        rw [capped] at uncappedE
        cases uncappedE
    · rw [if_neg capped, if_neg capped, if_pos]
      · rw [Division.extra, mul_comm]
        rfl
      · refine List.mem_map_of_mem (List.mem_filter.mpr ⟨member, ?_⟩)
        simpa using capped
  · have kept : (divisionOf eligible budget).redistributes = false := decide_eq_false more
    rw [if_neg fun both => more ⟨both.1, both.2.2⟩]
    refine first.allocations.congr ?_
    intro d _
    rw [Division.entitlement, kept]
    rfl

theorem applyMinimum_holds {allocations : Dict String ℚ}
    (entitled : Holds allocations eligible (divisionOf eligible budget).entitlement) :
    Holds (applyMinimum .exact eligible.length budget allocations) eligible
      (raised eligible budget) := by
  unfold applyMinimum
  by_cases covers : CoversMinimum eligible budget
  · have covers' : eligible.length * minAllocationUsd ≤ budget := covers
    rw [if_pos covers']
    exact (entitled.mapValues _).congr fun d _ => by rw [raised, if_pos covers]
  · have covers' : ¬ eligible.length * minAllocationUsd ≤ budget := covers
    rw [if_neg covers']
    exact entitled.congr fun d _ => by rw [raised, if_neg covers]

theorem doubleClamp_holds {allocations : Dict String ℚ}
    (lifted : Holds allocations eligible (raised eligible budget)) :
    Holds (doubleClamp .exact budget allocations) eligible (allotment eligible budget) := by
  have total : (allocations.entries.map Prod.snd).sum = raisedTotal eligible budget := by
    rw [lifted, List.map_map]
    rfl
  simp only [doubleClamp, Arithmetic.exact_scale, Arithmetic.exact_sum, total]
  split
  · rename_i above
    exact (lifted.mapValues _).congr fun d _ => by rw [allotment, if_pos above]
  · rename_i within
    exact lifted.congr fun d _ => by rw [allotment, if_neg within]

theorem allocate_holds (distinct : DistinctChains eligible) (budget : ℚ) :
    Holds (allocate .exact eligible budget) eligible (allotment eligible budget) := by
  have start : FirstPassAt (divisionOf eligible budget) [] {} := ⟨rfl, rfl, rfl⟩
  have whole : DistinctChains ([] ++ eligible) := distinct
  have first := firstPass_at start whole
  exact doubleClamp_holds (applyMinimum_holds (redistribute_holds distinct first))

theorem desireOf_member (distinct : DistinctChains eligible) {d : DesiredPolicy}
    (member : d ∈ eligible) : desireOf eligible d.chainId = some d := by
  cases found : desireOf eligible d.chainId with
  | none =>
    have other := List.find?_eq_none.mp found d (List.mem_reverse.mpr member)
    simp at other
  | some e =>
    have memberE := List.mem_reverse.mp (List.mem_of_find?_eq_some found)
    have same : e.chainId = d.chainId := by simpa using List.find?_some found
    rw [distinct.injective memberE member same]

end Loops

/-- ProportionalArbiter issues a policy for every eligible desire, with its allotment. -/
theorem arbitrate_holds {desires : List DesiredPolicy} (distinct : DistinctChains desires)
    (budget now : ℚ) : Holds (proportionalArbitrate desires budget now) (eligibleOf desires)
      fun d => issue d (allotment (eligibleOf desires) budget d) "0.2.0" now := by
  have once : DistinctChains (eligibleOf desires) := distinct.sublist (List.filter_sublist.map _)
  have positive : ∀ d ∈ eligibleOf desires, 0 < d.priority := by
    intro d member
    simpa using (List.mem_filter.mp member).2
  have arbitrated : proportionalArbitrate desires budget now =
      if eligibleOf desires = [] ∨ weight (eligibleOf desires) < eps then ∅
      else (allocate .exact (eligibleOf desires) budget).entries.foldl (fun result entry =>
        (desireOf (eligibleOf desires) entry.1).elim result fun d =>
          result.set entry.1 (issue d entry.2 "0.2.0" now)) ∅ := by
    refine if_congr Iff.rfl rfl (List.foldl_ext _ _ _ ?_)
    rintro result ⟨chainId, allocation⟩ _
    dsimp only [eligibleOf]
    split
    · rename_i absent
      rw [absent]
      rfl
    · rename_i d found
      rw [found]
      rfl
  rw [arbitrated]
  by_cases empty : eligibleOf desires = []
  · rw [if_pos (Or.inl empty), empty]
    rfl
  · have heavy := weight_heavy .exact positive empty
    rw [if_neg (not_or.mpr ⟨empty, heavy⟩), allocate_holds once budget, List.foldl_map]
    have issued : ∀ (result : Dict String PolicyConfig), ∀ d ∈ eligibleOf desires,
        ((desireOf (eligibleOf desires) d.chainId).elim result fun e =>
          result.set d.chainId (issue e (allotment (eligibleOf desires) budget d) "0.2.0" now)) =
        result.set d.chainId (issue d (allotment (eligibleOf desires) budget d) "0.2.0" now) := by
      intro result d member
      rw [desireOf_member once member, Option.elim_some]
    have built := holds_build once fun d =>
      issue d (allotment (eligibleOf desires) budget d) "0.2.0" now
    rwa [← List.foldl_ext _ _ _ issued] at built

section Bounds
variable {eligible : List DesiredPolicy} {budget : ℚ}

/-- Priorities are positive and ceilings not negative. -/
structure Eligible (eligible : List DesiredPolicy) : Prop where
  priorities : ∀ d ∈ eligible, 0 < d.priority
  ceilings : ∀ d ∈ eligible, 0 ≤ d.ceilingUsd

theorem Eligible.sound (valid : Eligible eligible) (nonneg : 0 ≤ budget) :
    (divisionOf eligible budget).Sound where
  weights d member := by
    have positive : (0 : ℚ) < d.priority := by exact_mod_cast valid.priorities d member
    exact positive
  caps := valid.ceilings
  budget := nonneg
  negligible := eps_pos.le

theorem raised_nonneg (valid : Eligible eligible) (nonneg : 0 ≤ budget) {d : DesiredPolicy}
    (member : d ∈ eligible) : 0 ≤ raised eligible budget d := by
  have entitled := (valid.sound nonneg).entitlement_nonneg member
  unfold raised
  split
  · exact entitled.trans (le_max_left _ _)
  · exact entitled

theorem raised_le (d : DesiredPolicy) :
    raised eligible budget d ≤ max d.ceilingUsd minAllocationUsd := by
  have capped : (divisionOf eligible budget).entitlement d ≤ d.ceilingUsd :=
    Division.entitlement_le_cap d
  unfold raised
  split
  · exact max_le_max_right _ capped
  · exact capped.trans (le_max_left _ _)

theorem raised_mono (valid : Eligible eligible) (nonneg : 0 ≤ budget) {d e : DesiredPolicy}
    (member : d ∈ eligible) (priority : e.priority ≤ d.priority)
    (ceiling : e.ceilingUsd ≤ d.ceilingUsd) :
    raised eligible budget e ≤ raised eligible budget d := by
  have weights : (e.priority : ℚ) ≤ d.priority := by exact_mod_cast priority
  have entitled := (valid.sound nonneg).entitlement_mono member weights ceiling
  unfold raised
  split
  · exact max_le_max_right _ entitled
  · exact entitled

theorem scale_bounds (nonneg : 0 ≤ budget) (above : budget + eps < raisedTotal eligible budget) :
    0 < raisedTotal eligible budget ∧ 0 ≤ budget / raisedTotal eligible budget ∧
      budget / raisedTotal eligible budget < 1 := by
  have small := eps_pos
  have positive : 0 < raisedTotal eligible budget := by linarith
  exact ⟨positive, div_nonneg nonneg positive.le, (div_lt_one positive).mpr (by linarith)⟩

theorem allotment_bounds (valid : Eligible eligible) (nonneg : 0 ≤ budget) {d : DesiredPolicy}
    (member : d ∈ eligible) :
    0 ≤ allotment eligible budget d ∧
      allotment eligible budget d ≤ max d.ceilingUsd minAllocationUsd := by
  have least := raised_nonneg valid nonneg member
  have most : raised eligible budget d ≤ max d.ceilingUsd minAllocationUsd := raised_le d
  unfold allotment
  split
  · rename_i above
    obtain ⟨_, factor, below⟩ := scale_bounds nonneg above
    exact ⟨mul_nonneg least factor, (mul_le_of_le_one_right least below.le).trans most⟩
  · exact ⟨least, most⟩

/-- The allotments add up to the raised entitlements, or to the budget if these are too much. -/
theorem sum_allotment (nonneg : 0 ≤ budget) : (eligible.map (allotment eligible budget)).sum =
    if budget + eps < raisedTotal eligible budget then budget else raisedTotal eligible budget := by
  split
  · rename_i above
    have positive := (scale_bounds nonneg above).1
    have scaled : eligible.map (allotment eligible budget) = eligible.map fun d =>
        raised eligible budget d * (budget / raisedTotal eligible budget) :=
      List.map_congr_left fun d _ => by rw [allotment, if_pos above]
    rw [scaled, List.sum_map_mul_right, ← raisedTotal, mul_div_cancel₀ _ positive.ne']
  · rename_i within
    have kept : eligible.map (allotment eligible budget) = eligible.map (raised eligible budget) :=
      List.map_congr_left fun d _ => by rw [allotment, if_neg within]
    rw [kept, raisedTotal]

theorem sum_allotment_le (nonneg : 0 ≤ budget) :
    (eligible.map (allotment eligible budget)).sum ≤ budget + eps := by
  have small := eps_pos
  rw [sum_allotment nonneg]
  split
  · linarith
  · rename_i within
    exact not_lt.mp within

theorem allotment_mono (valid : Eligible eligible) (nonneg : 0 ≤ budget) {d e : DesiredPolicy}
    (member : d ∈ eligible) (priority : e.priority ≤ d.priority)
    (ceiling : e.ceilingUsd ≤ d.ceilingUsd) :
    allotment eligible budget e ≤ allotment eligible budget d := by
  have order := raised_mono valid nonneg member priority ceiling
  unfold allotment
  split
  · rename_i above
    exact mul_le_mul_of_nonneg_right order (scale_bounds nonneg above).2.1
  · exact order

/-- What an entitlement lacks to the minimum. -/
def shortfall (eligible : List DesiredPolicy) (budget : ℚ) (d : DesiredPolicy) : ℚ :=
  max 0 (minAllocationUsd - (divisionOf eligible budget).entitlement d)

/-- What the entitlements leave of the budget. -/
def unclaimed (eligible : List DesiredPolicy) (budget : ℚ) : ℚ :=
  budget - (eligible.map (divisionOf eligible budget).entitlement).sum

theorem raised_eq (covers : CoversMinimum eligible budget) (d : DesiredPolicy) :
    raised eligible budget d =
      (divisionOf eligible budget).entitlement d + shortfall eligible budget d := by
  rw [raised, if_pos covers, shortfall, ← max_add_add_left, add_zero, add_sub_cancel]

theorem raisedTotal_eq (covers : CoversMinimum eligible budget) :
    raisedTotal eligible budget =
      budget - unclaimed eligible budget + (eligible.map (shortfall eligible budget)).sum := by
  rw [raisedTotal, List.map_congr_left fun d _ => raised_eq covers d, List.sum_map_add, unclaimed,
    sub_sub_cancel]

/-- Everyone gets the minimum exactly if what the entitlements lack to it is left of the budget. -/
theorem minimum_iff (valid : Eligible eligible) (nonneg : 0 ≤ budget)
    (covers : CoversMinimum eligible budget) :
    (∀ d ∈ eligible, minAllocationUsd ≤ allotment eligible budget d) ↔
      (eligible.map (shortfall eligible budget)).sum ≤ unclaimed eligible budget + eps := by
  have total := raisedTotal_eq covers
  constructor
  · intro minimum
    by_contra above
    have scaled : budget + eps < raisedTotal eligible budget := by linarith
    obtain ⟨_, _, factor⟩ := scale_bounds nonneg scaled
    -- somebody was raised to the minimum, and the scaling takes part of it away
    have entitled : (eligible.map (divisionOf eligible budget).entitlement).sum ≤ budget :=
      (valid.sound nonneg).sum_entitlement_le
    have small := eps_pos
    have more : (eligible.map (divisionOf eligible budget).entitlement).sum <
        (eligible.map (raised eligible budget)).sum := by
      rw [← raisedTotal]
      linarith
    obtain ⟨d, member, lifted⟩ := List.exists_lt_of_sum_lt _ _ more
    rw [raised, if_pos covers] at lifted
    have cent : raised eligible budget d = minAllocationUsd := by
      rw [raised, if_pos covers]
      exact max_eq_right ((lt_max_iff.mp lifted).resolve_left (lt_irrefl _)).le
    have given := minimum d member
    rw [allotment, if_pos scaled, cent] at given
    exact given.not_gt (mul_lt_of_lt_one_right minAllocationUsd_pos factor)
  · intro within _ _
    rw [allotment, if_neg (by linarith), raised, if_pos covers]
    exact le_max_right _ _

end Bounds

/-- A desire that differs from others in its chain, ceiling and priority only. -/
def desired (chainId : String) (ceilingUsd : ℚ) (priority : Int) : DesiredPolicy where
  chainId := chainId
  ceilingUsd := ceilingUsd
  ceilingSteps := 100
  ceilingTokensOut := 50000
  onExceed := .halt
  fallbackModel := none
  timeoutMs := 30000
  priority := priority

section Arbitration
variable {desires : List DesiredPolicy} {budget : ℚ}

theorem mem_eligible {d : DesiredPolicy} :
    d ∈ eligibleOf desires ↔ d ∈ desires ∧ 0 < d.priority := by
  simp [eligibleOf]

theorem eligible_valid (ceilings : ∀ d ∈ desires, 0 ≤ d.ceilingUsd) :
    Eligible (eligibleOf desires) where
  priorities _ member := (mem_eligible.mp member).2
  ceilings d member := ceilings d (mem_eligible.mp member).1

theorem CoversMinimum.nonneg {eligible : List DesiredPolicy}
    (covers : CoversMinimum eligible budget) : 0 ≤ budget :=
  (mul_nonneg (Nat.cast_nonneg _) minAllocationUsd_pos.le).trans covers

theorem allocated_sum (distinct : DistinctChains desires) (budget now : ℚ) :
    ((proportionalArbitrate desires budget now).sumOf fun _ policy => policy.ceilingUsd) =
      ((eligibleOf desires).map (allotment (eligibleOf desires) budget)).sum := by
  rw [Dict.sumOf, arbitrate_holds distinct, List.map_map]
  rfl

/-- The eligible chains have a policy each, between nothing and the desired ceiling or a cent, and
    together these keep within the budget and the tolerance. -/
structure BudgetSafe (desires : List DesiredPolicy) (budget : ℚ)
    (policies : Dict String PolicyConfig) : Prop where
  chains : ∀ chain, chain ∈ policies.keys ↔ ∃ d ∈ desires, 0 < d.priority ∧ d.chainId = chain
  bounds : ∀ d ∈ desires, ∀ policy, policies.get? d.chainId = some policy →
    0 ≤ policy.ceilingUsd ∧ policy.ceilingUsd ≤ max d.ceilingUsd minAllocationUsd
  total : (policies.sumOf fun _ policy => policy.ceilingUsd) ≤ budget + eps

theorem arbitrate_budget_safe (distinct : DistinctChains desires)
    (ceilings : ∀ d ∈ desires, 0 ≤ d.ceilingUsd) (nonneg : 0 ≤ budget) (now : ℚ) :
    BudgetSafe desires budget (proportionalArbitrate desires budget now) := by
  have issued := arbitrate_holds distinct budget now
  have valid := eligible_valid ceilings
  have chains : ∀ chain, chain ∈ (proportionalArbitrate desires budget now).keys ↔
      ∃ d ∈ desires, 0 < d.priority ∧ d.chainId = chain := by
    intro chain
    simp only [issued.keys, List.mem_map, mem_eligible, and_assoc]
  constructor
  case chains => exact chains
  case bounds =>
    intro d member policy found
    have key : d.chainId ∈ (proportionalArbitrate desires budget now).keys :=
      List.mem_map_of_mem (f := Prod.fst) (Dict.get?_eq_some_iff.mp found)
    obtain ⟨e, memberE, positive, same⟩ := (chains d.chainId).mp key
    obtain rfl := distinct.injective memberE member same
    have eligible := mem_eligible.mpr ⟨member, positive⟩
    rw [issued.get? eligible, Option.some.injEq] at found
    subst policy
    exact allotment_bounds valid nonneg eligible
  case total =>
    rw [allocated_sum distinct]
    exact sum_allotment_le nonneg

/-- One chain capped at half a dollar, the other with the surplus. -/
theorem capped_budget_safe : BudgetSafe [desired "c1" (1 / 2) 50, desired "c2" 10 50] 5
    (proportionalArbitrate [desired "c1" (1 / 2) 50, desired "c2" 10 50] 5 0) :=
  arbitrate_budget_safe (by decide) (by decide +kernel) (by norm_num) 0

/-- The allocation of one eligible desire is at least that of another with no higher priority and
    no higher ceiling. -/
theorem arbitrate_fair (distinct : DistinctChains desires)
    (ceilings : ∀ d ∈ desires, 0 ≤ d.ceilingUsd) (nonneg : 0 ≤ budget) (now : ℚ)
    {i j : DesiredPolicy} (memberI : i ∈ desires) (memberJ : j ∈ desires)
    (eligibleI : 0 < i.priority) (eligibleJ : 0 < j.priority)
    (priority : j.priority ≤ i.priority) (ceiling : j.ceilingUsd ≤ i.ceilingUsd) :
    ∃ policyI policyJ,
      (proportionalArbitrate desires budget now).get? i.chainId = some policyI ∧
      (proportionalArbitrate desires budget now).get? j.chainId = some policyJ ∧
      policyJ.ceilingUsd ≤ policyI.ceilingUsd := by
  have issued := arbitrate_holds distinct budget now
  have first := mem_eligible.mpr ⟨memberI, eligibleI⟩
  have second := mem_eligible.mpr ⟨memberJ, eligibleJ⟩
  exact ⟨_, _, issued.get? first, issued.get? second,
    allotment_mono (eligible_valid ceilings) nonneg first priority ceiling⟩

/-- The listed later one has three times the priority. -/
theorem favoured_fair : ∃ favoured other,
    (proportionalArbitrate [desired "c2" 5 25, desired "c1" 5 75] 4 0).get? "c1" = some favoured ∧
    (proportionalArbitrate [desired "c2" 5 25, desired "c1" 5 75] 4 0).get? "c2" = some other ∧
    other.ceilingUsd ≤ favoured.ceilingUsd :=
  @arbitrate_fair [desired "c2" 5 25, desired "c1" 5 75] 4 (by decide) (by decide +kernel)
    (by norm_num) 0 (desired "c1" 5 75) (desired "c2" 5 25) (by simp) (by simp)
    (by decide) (by decide) (by decide) (by decide +kernel)

/-- Every eligible chain is allocated the minimum. -/
def MinimumHonoured (desires : List DesiredPolicy) (policies : Dict String PolicyConfig) : Prop :=
  ∀ d ∈ desires, 0 < d.priority →
    ∃ policy, policies.get? d.chainId = some policy ∧ minAllocationUsd ≤ policy.ceilingUsd

/-- The double clamp takes nothing from the minimum exactly if the budget has what the entitlements
    lack to it. -/
theorem minimum_honoured_iff (distinct : DistinctChains desires)
    (ceilings : ∀ d ∈ desires, 0 ≤ d.ceilingUsd)
    (covers : CoversMinimum (eligibleOf desires) budget) (now : ℚ) :
    MinimumHonoured desires (proportionalArbitrate desires budget now) ↔
      ((eligibleOf desires).map (shortfall (eligibleOf desires) budget)).sum ≤
        unclaimed (eligibleOf desires) budget + eps := by
  have issued := arbitrate_holds distinct budget now
  rw [← minimum_iff (eligible_valid ceilings) covers.nonneg covers]
  constructor
  · intro honoured d eligible
    obtain ⟨member, positive⟩ := mem_eligible.mp eligible
    obtain ⟨policy, found, minimum⟩ := honoured d member positive
    rw [issued.get? eligible, Option.some.injEq] at found
    subst policy
    exact minimum
  · intro minimum d member positive
    have eligible := mem_eligible.mpr ⟨member, positive⟩
    exact ⟨_, issued.get? eligible, minimum d eligible⟩

end Arbitration

/-- Two chains that want a tenth of a cent each get a cent. -/
theorem small_wishes_honoured :
    MinimumHonoured [desired "c1" (1 / 1000) 50, desired "c2" (1 / 1000) 50]
      (proportionalArbitrate [desired "c1" (1 / 1000) 50, desired "c2" (1 / 1000) 50] 1 0) :=
  (minimum_honoured_iff (by decide) (by decide +kernel) (by decide +kernel) 0).mpr
    (by decide +kernel)

/-- Two cents for two chains, but the double clamp takes a third of the cent that the second was
    raised to. -/
theorem skewed_minimum_cut :
    DistinctChains [desired "c1" 10 99, desired "c2" 10 1] ∧
    (∀ d ∈ [desired "c1" 10 99, desired "c2" 10 1], 0 ≤ d.ceilingUsd) ∧
    CoversMinimum (eligibleOf [desired "c1" 10 99, desired "c2" 10 1]) (2 / 100) ∧
    ¬ MinimumHonoured [desired "c1" 10 99, desired "c2" 10 1]
      (proportionalArbitrate [desired "c1" 10 99, desired "c2" 10 1] (2 / 100) 0) := by
  refine ⟨by decide, by decide +kernel, by decide +kernel, ?_⟩
  intro honoured
  obtain ⟨policy, found, minimum⟩ := honoured (desired "c2" 10 1) (by simp) (by decide)
  have cut : ((proportionalArbitrate [desired "c1" 10 99, desired "c2" 10 1] (2 / 100) 0).get?
      "c2").map PolicyConfig.ceilingUsd = some (1 / 149) := by decide +kernel
  have own : policy.ceilingUsd = 1 / 149 :=
    Option.some.inj ((congrArg (Option.map PolicyConfig.ceilingUsd) found).symm.trans cut)
  rw [own] at minimum
  norm_num [minAllocationUsd] at minimum

end VeronicaProportionalShares
