import Veronica.ErrorFactors

/- How HistoryAnalyzer composes its patterns: the risk comes from their signals, the recommendation
   from their recommendations, and the two go together. -/
namespace VeronicaSignals
open VeronicaTypes VeronicaHistory VeronicaErrorFactors
open VeronicaFileStore (FileOutcome)

inductive Pattern where
  | haltTighten
  | cleanLoosen
  | depthGuard
  | costAcceleration
  | loopDetection
  | latencyAnomaly
  deriving DecidableEq, Repr

namespace Pattern

def all : List Pattern :=
  [.haltTighten, .cleanLoosen, .depthGuard, .costAcceleration, .loopDetection, .latencyAnomaly]

/-- What a pattern adds to the analysis. -/
def find (outcome : FileOutcome) (history : HistoryView) : Pattern → Finding
  | .haltTighten => VeronicaHistory.haltTighten outcome.toStepOutcome
  | .cleanLoosen => VeronicaHistory.cleanLoosen outcome.toStepOutcome history
  | .depthGuard => VeronicaHistory.depthGuard history
  | .costAcceleration => VeronicaHistory.costAcceleration outcome.toStepOutcome history
  | .loopDetection => VeronicaHistory.loopDetection history
  | .latencyAnomaly => latencyAnomalyOf outcome history

/-- The pattern emits a signal. -/
def Fires (p : Pattern) (outcome : FileOutcome) (history : HistoryView) : Prop :=
  (p.find outcome history).signals ≠ []

theorem mem_all (p : Pattern) : p ∈ all := by cases p <;> decide

end Pattern

/-- The level of a severity. -/
def levelOf : Severity → RiskLevel
  | .info => .nominal
  | .warning => .elevated
  | .critical => .critical

/-- The rules that an analysis is composed by. -/
structure Composed (outcome : FileOutcome) (history : HistoryView) (result : AnalysisResult) :
    Prop where
  emitted : ∀ s, s ∈ result.signals ↔ ∃ p : Pattern, s ∈ (p.find outcome history).signals
  unremarkable : result.signals = [] → result.riskLevel = .nominal
  worst : result.signals ≠ [] → ∃ s ∈ result.signals, result.riskLevel = levelOf s.severity ∧
    ∀ t ∈ result.signals, severityRank t.severity ≤ severityRank s.severity
  strongest : ∀ p : Pattern, p.Fires outcome history →
    ∀ r ∈ (p.find outcome history).recommendations,
      recommendationRank r ≤ recommendationRank result.recommendation
  given : (∃ p : Pattern, p.Fires outcome history ∧
      result.recommendation ∈ (p.find outcome history).recommendations) ∨
    (result.recommendation = .continue ∧
      ∀ p : Pattern, p.Fires outcome history → (p.find outcome history).recommendations = [])
  wary : result.riskLevel ≠ .nominal →
    result.recommendation = .tighten ∨ result.recommendation = .halt
  loosens : result.recommendation = .loosen → ∀ s ∈ result.signals, s.severity = .info
  halts : result.recommendation = .halt ↔ depthHard ≤ history.depth

/-- What every pattern keeps to. -/
structure Consistent (finding : Finding) (history : HistoryView) : Prop where
  bare : finding.signals = [] → finding.recommendations = []
  warned : ∀ s ∈ finding.signals, s.severity ≠ .info →
    .tighten ∈ finding.recommendations ∨ .halt ∈ finding.recommendations
  halts : .halt ∈ finding.recommendations → depthHard ≤ history.depth

section Patterns
variable {outcome : FileOutcome} {history : HistoryView}

theorem consistent_none : Consistent {} history where
  bare _ := rfl
  warned _ member := absurd member List.not_mem_nil
  halts member := absurd member List.not_mem_nil

theorem consistent_tighten (s : Signal) : Consistent ⟨[s], [.tighten]⟩ history where
  bare empty := absurd empty (List.cons_ne_nil _ _)
  warned _ _ _ := Or.inl (List.mem_singleton.mpr rfl)
  halts member := by cases List.mem_singleton.mp member

theorem consistent_info {s : Signal} (info : s.severity = .info)
    {recommendations : List Recommendation} (calm : .halt ∉ recommendations) :
    Consistent ⟨[s], recommendations⟩ history where
  bare empty := absurd empty (List.cons_ne_nil _ _)
  warned t member serious := by
    rw [List.mem_singleton.mp member] at serious
    exact absurd info serious
  halts member := absurd member calm

/-- Six patterns, each of them with the severity that goes with its recommendation. -/
theorem find_consistent (p : Pattern) : Consistent (p.find outcome history) history := by
  cases p with
  | haltTighten =>
    simp only [Pattern.find, VeronicaHistory.haltTighten]
    split
    · exact consistent_none
    · exact consistent_tighten _
  | cleanLoosen =>
    simp only [Pattern.find, VeronicaHistory.cleanLoosen]
    split
    · exact consistent_info rfl (by decide)
    · exact consistent_none
  | depthGuard =>
    simp only [Pattern.find, VeronicaHistory.depthGuard]
    split
    · rename_i deep
      constructor
      case bare => exact fun empty => absurd empty (List.cons_ne_nil _ _)
      case warned => exact fun _ _ _ => Or.inr (List.mem_singleton.mpr rfl)
      case halts => exact fun _ => deep
    · split
      · exact consistent_tighten _
      · exact consistent_none
  | costAcceleration =>
    simp only [Pattern.find, VeronicaHistory.costAcceleration]
    split
    · exact consistent_tighten _
    · exact consistent_none
  | loopDetection =>
    simp only [Pattern.find, VeronicaHistory.loopDetection]
    split
    · exact consistent_tighten _
    · exact consistent_none
  | latencyAnomaly =>
    simp only [Pattern.find, latencyAnomalyOf, VeronicaHistory.latencyAnomaly]
    split
    · exact consistent_none
    · split
      · exact consistent_info rfl List.not_mem_nil
      · exact consistent_none

theorem findingsOf_eq : findingsOf outcome history =
    (Pattern.all.map (Pattern.find outcome history)).foldl Finding.append {} := rfl

theorem mem_findings_signals (s : Signal) : s ∈ (findingsOf outcome history).signals ↔
    ∃ p : Pattern, s ∈ (p.find outcome history).signals := by
  have collected : (findingsOf outcome history).signals =
      Pattern.all.flatMap fun p => (p.find outcome history).signals := by
    simp [findingsOf_eq, Pattern.all, Finding.append]
  rw [collected, List.mem_flatMap]
  exact exists_congr fun p => and_iff_right (Pattern.mem_all p)

theorem mem_findings_recommendations (r : Recommendation) :
    r ∈ (findingsOf outcome history).recommendations ↔
      ∃ p : Pattern, p.Fires outcome history ∧ r ∈ (p.find outcome history).recommendations := by
  have collected : (findingsOf outcome history).recommendations =
      Pattern.all.flatMap fun p => (p.find outcome history).recommendations := by
    simp [findingsOf_eq, Pattern.all, Finding.append]
  rw [collected, List.mem_flatMap]
  refine exists_congr fun p => ?_
  rw [and_iff_right (Pattern.mem_all p), iff_and_self]
  intro member silent
  rw [(find_consistent p).bare silent] at member
  cases member

end Patterns

section Composition
variable {outcome : FileOutcome} {history : HistoryView}

theorem highest_eq_best (recommendations : List Recommendation) :
    highest recommendations = Ranks.best recommendationRank .continue recommendations := rfl

theorem riskOf_rank (severity : Severity) :
    riskByMaxSeverity (severityRank severity) = levelOf severity := by
  cases severity <;> rfl

theorem rank_injective {r t : Recommendation}
    (same : recommendationRank r = recommendationRank t) : r = t := by
  cases r <;> cases t <;> first | rfl | cases same

theorem risk_worst {signals : List Signal} (some : signals ≠ []) :
    ∃ s ∈ signals, riskByMaxSeverity
        ((signals.map fun s => severityRank s.severity).foldl max 0) = levelOf s.severity ∧
      ∀ t ∈ signals, severityRank t.severity ≤ severityRank s.severity := by
  rw [Ranks.foldl_max_eq_best]
  have above : ∀ t ∈ signals, severityRank t.severity ≤
      Ranks.best id 0 (signals.map fun s => severityRank s.severity) := fun t member =>
    Ranks.le_best id 0 (List.mem_map_of_mem member)
  rcases List.mem_cons.mp (Ranks.best_mem id 0 (signals.map fun s => severityRank s.severity))
    with zero | among
  · obtain ⟨s, member⟩ := List.exists_mem_of_ne_nil signals some
    rw [zero] at above ⊢
    have least : severityRank s.severity = 0 := Nat.le_zero.mp (above s member)
    refine ⟨s, member, ?_, ?_⟩
    · rw [← riskOf_rank, least]
    · intro t listed
      rw [least]
      exact above t listed
  · obtain ⟨s, member, rank⟩ := List.mem_map.mp among
    rw [← rank] at above ⊢
    exact ⟨s, member, riskOf_rank _, above⟩

theorem serious_strong {s : Signal} (emitted : s ∈ (findingsOf outcome history).signals)
    (serious : s.severity ≠ .info) :
    recommendationRank .tighten ≤
      recommendationRank (highest (findingsOf outcome history).recommendations) := by
  obtain ⟨p, member⟩ := (mem_findings_signals s).mp emitted
  have fires : p.Fires outcome history := List.ne_nil_of_mem member
  rw [highest_eq_best]
  rcases (find_consistent p).warned s member serious with tighten | halt
  · exact Ranks.le_best _ _ ((mem_findings_recommendations _).mpr ⟨p, fires, tighten⟩)
  · refine le_trans (by decide) (Ranks.le_best recommendationRank .continue
      ((mem_findings_recommendations _).mpr ⟨p, fires, halt⟩))

theorem highest_halt_iff :
    highest (findingsOf outcome history).recommendations = .halt ↔ depthHard ≤ history.depth := by
  rw [highest_eq_best]
  constructor
  · intro halt
    have member := Ranks.best_mem recommendationRank .continue
      (findingsOf outcome history).recommendations
    rw [halt] at member
    rcases List.mem_cons.mp member with other | among
    · cases other
    · obtain ⟨p, _, recommended⟩ := (mem_findings_recommendations _).mp among
      exact (find_consistent p).halts recommended
  · intro deep
    have found : Pattern.find outcome history .depthGuard =
        ⟨[⟨"depth_guard", .critical, "depth " ++ toString history.depth ++ " >= hard limit " ++
          toString depthHard⟩], [.halt]⟩ := if_pos deep
    have fires : Pattern.depthGuard.Fires outcome history := by
      rw [Pattern.Fires, found]
      exact List.cons_ne_nil _ _
    have among : .halt ∈ (findingsOf outcome history).recommendations := by
      refine (mem_findings_recommendations _).mpr ⟨.depthGuard, fires, ?_⟩
      rw [found]
      exact List.mem_singleton.mpr rfl
    have most := Ranks.le_best recommendationRank .continue among
    refine rank_injective (le_antisymm ?_ most)
    cases Ranks.best recommendationRank .continue (findingsOf outcome history).recommendations <;>
      decide

theorem risk_serious {intent : StepIntent}
    (risky : (analyze intent outcome history).riskLevel ≠ .nominal) :
    ∃ s ∈ (findingsOf outcome history).signals, s.severity ≠ .info := by
  by_cases silent : (findingsOf outcome history).signals = []
  · refine absurd ?_ risky
    rw [analyze, compose, silent]
    rfl
  · obtain ⟨s, member, level, _⟩ := risk_worst silent
    refine ⟨s, member, fun info => risky ?_⟩
    rw [info] at level
    exact level

theorem highest_given : highest (findingsOf outcome history).recommendations ∈
      (findingsOf outcome history).recommendations ∨
    (highest (findingsOf outcome history).recommendations = .continue ∧
      (findingsOf outcome history).recommendations = []) := by
  rw [highest_eq_best]
  rcases List.mem_cons.mp (Ranks.best_mem recommendationRank .continue
    (findingsOf outcome history).recommendations) with still | among
  · by_cases quiet : (findingsOf outcome history).recommendations = []
    · exact Or.inr ⟨still, quiet⟩
    · obtain ⟨r, among⟩ := List.exists_mem_of_ne_nil _ quiet
      have most := Ranks.le_best recommendationRank .continue among
      rw [still] at most ⊢
      have own : r = .continue := rank_injective (Nat.le_zero.mp most)
      rw [own] at among
      exact Or.inl among
  · exact Or.inl among

/-- Risk and recommendation follow from the patterns that fire, and fit together. -/
theorem analyze_composed (intent : StepIntent) (outcome : FileOutcome) (history : HistoryView) :
    Composed outcome history (analyze intent outcome history) := by
  constructor
  case emitted => exact mem_findings_signals
  case unremarkable =>
    intro silent
    by_contra risky
    obtain ⟨s, member, _⟩ := risk_serious risky
    have none : (findingsOf outcome history).signals = [] := silent
    rw [none] at member
    cases member
  case worst => exact risk_worst
  case strongest =>
    intro p fires r recommended
    exact Ranks.le_best recommendationRank .continue
      ((mem_findings_recommendations r).mpr ⟨p, fires, recommended⟩)
  case given =>
    refine highest_given.imp (mem_findings_recommendations _).mp (And.imp_right ?_)
    intro quiet p fires
    by_contra some
    obtain ⟨r, recommended⟩ := List.exists_mem_of_ne_nil _ some
    have among := (mem_findings_recommendations r).mpr ⟨p, fires, recommended⟩
    rw [quiet] at among
    cases among
  case wary =>
    intro risky
    obtain ⟨s, member, serious⟩ := risk_serious risky
    have rank : recommendationRank .tighten ≤
        recommendationRank (analyze intent outcome history).recommendation :=
      serious_strong member serious
    cases chosen : (analyze intent outcome history).recommendation with
    | tighten => exact Or.inl rfl
    | halt => exact Or.inr rfl
    | «continue» =>
      rw [chosen] at rank
      exact absurd rank (by decide)
    | loosen =>
      rw [chosen] at rank
      exact absurd rank (by decide)
  case loosens =>
    intro loosen s member
    by_contra serious
    have rank := serious_strong member serious
    have chosen : highest (findingsOf outcome history).recommendations = .loosen := loosen
    rw [chosen] at rank
    exact absurd rank (by decide)
  case halts => exact highest_halt_iff

end Composition

end VeronicaSignals
