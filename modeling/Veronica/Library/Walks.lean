import Mathlib.Data.List.DropRight
import Mathlib.Data.List.Induction
import Mathlib.Order.Basic

/- Walks through a directed graph, recorded as the list of edges taken. A walk grows at its
   end, as a log of transitions does. -/
namespace Walks
variable {Node : Type} {Edge : Node → Node → Prop} {start here : Node}
  {steps : List (Node × Node)}

inductive Walk (Edge : Node → Node → Prop) (start : Node) :
    Node → List (Node × Node) → Prop where
  | nil : Walk Edge start start []
  | step {here next : Node} {steps : List (Node × Node)} (before : Walk Edge start here steps)
      (edge : Edge here next) : Walk Edge start next (steps ++ [(here, next)])

theorem walk_edges (walk : Walk Edge start here steps) :
    ∀ pair ∈ steps, Edge pair.1 pair.2 := by
  induction walk with
  | nil => simp
  | step before edge ih =>
    intro pair member
    rcases List.mem_append.mp member with earlier | last
    · exact ih pair earlier
    · obtain rfl := List.mem_singleton.mp last
      exact edge

theorem walk_ends_at_sink {sink : Node} (blocked : ∀ next, ¬ Edge sink next)
    (walk : Walk Edge start here steps) : ∀ pair ∈ steps, pair.1 ≠ sink := by
  intro pair member eq
  exact blocked pair.2 (eq ▸ walk_edges walk pair member)

theorem walk_concat {first last : Node}
    (walk : Walk Edge start here (steps ++ [(first, last)])) :
    Walk Edge start first steps ∧ Edge first last ∧ here = last := by
  generalize whole : steps ++ [(first, last)] = grown at walk
  cases walk with
  | nil => exact absurd whole (List.concat_ne_nil _ _)
  | step before edge =>
    obtain ⟨rfl, same⟩ := List.append_inj' whole rfl
    cases same
    exact ⟨before, edge, rfl⟩

theorem walk_nil (walk : Walk Edge start here []) : here = start := by
  generalize whole : ([] : List (Node × Node)) = none at walk
  cases walk with
  | nil => rfl
  | step before edge => exact absurd whole.symm (List.concat_ne_nil _ _)

theorem walk_end_unique {other : Node} (one : Walk Edge start here steps)
    (another : Walk Edge start other steps) : here = other := by
  rcases List.eq_nil_or_concat' steps with rfl | ⟨before, last, rfl⟩
  · exact (walk_nil one).trans (walk_nil another).symm
  · exact (walk_concat one).2.2.trans (walk_concat another).2.2.symm

theorem walk_rest {mid : Node} {first rest : List (Node × Node)}
    (part : Walk Edge start mid first) (walk : Walk Edge start here (first ++ rest)) :
    Walk Edge mid here rest := by
  induction rest using List.reverseRecOn generalizing here with
  | nil =>
    rw [List.append_nil] at walk
    cases walk_end_unique part walk
    exact .nil
  | append_singleton rest last ih =>
    rw [← List.append_assoc] at walk
    obtain ⟨before, edge, rfl⟩ := walk_concat walk
    exact .step (ih before) edge

section Rank
variable {Rank : Type} [PartialOrder Rank] {rank : Node → Rank}

theorem walk_ranks (up : ∀ here next, Edge here next → rank here ≤ rank next)
    (walk : Walk Edge start here steps) : rank start ≤ rank here ∧
      ∀ pair ∈ steps, rank start ≤ rank pair.1 ∧ rank pair.2 ≤ rank here := by
  induction walk with
  | nil => simp
  | @step here next steps before edge ih =>
    obtain ⟨low, between⟩ := ih
    have more := up here next edge
    refine ⟨low.trans more, ?_⟩
    intro pair member
    rcases List.mem_append.mp member with earlier | last
    · exact ⟨(between pair earlier).1, (between pair earlier).2.trans more⟩
    · obtain rfl := List.mem_singleton.mp last
      exact ⟨low, le_rfl⟩

theorem walk_level (up : ∀ here next, Edge here next → rank here ≤ rank next)
    (walk : Walk Edge start here steps) (level : rank here = rank start) :
    ∀ pair ∈ steps, rank pair.1 = rank start ∧ rank pair.2 = rank start := by
  intro pair member
  obtain ⟨low, high⟩ := (walk_ranks up walk).2 pair member
  have edge := up pair.1 pair.2 (walk_edges walk pair member)
  rw [level] at high
  exact ⟨le_antisymm (edge.trans high) low, le_antisymm high (low.trans edge)⟩

end Rank

section Reset
variable [DecidableEq Node] {reset : Node}

/-- The nodes entered after the last entry into `reset`, in order. -/
def since (reset : Node) (steps : List (Node × Node)) : List Node :=
  (steps.map Prod.snd).rtakeWhile (· ≠ reset)

theorem since_step (reset here next : Node) (steps : List (Node × Node)) :
    since reset (steps ++ [(here, next)]) =
      if next = reset then [] else since reset steps ++ [next] := by
  rw [since, List.map_append, List.map_singleton, List.rtakeWhile_concat]
  split <;> simp_all [since]

/-- If entering a node other than `reset` adds at most that node to the gates owed, then every
    walk has passed the gates of its last node, in order, since it last entered `reset`. -/
theorem gates_in_order (gates : Node → List Node) (reset : Node) (first : gates start = [])
    (atReset : gates reset = [])
    (pass : ∀ here next, Edge here next → next ≠ reset →
      (gates next).Sublist (gates here ++ [next]))
    (walk : Walk Edge start here steps) : (gates here).Sublist (since reset steps) := by
  induction walk with
  | nil => rw [first]; exact List.nil_sublist _
  | @step here next steps before edge ih =>
    rw [since_step]
    split
    · rename_i entered
      rw [entered, atReset]
    · rename_i other
      exact (pass here next edge other).trans (ih.append (List.Sublist.refl _))

end Reset
end Walks
