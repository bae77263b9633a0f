import Mathlib.Data.List.Nodup
import Mathlib.Logic.Relation

/- Forests kept by parent pointers: nodes are found by key, and each names at most one parent.
   Nothing in the representation excludes cycles or missing parents. -/
namespace Forests

section Climbing
variable {K V : Type} (lookup : K → Option V) (parent : V → Option K)

/-- The nodes from a key up to a root, nearest first. -/
inductive Path : Option K → List (K × V) → Prop where
  | root : Path none []
  | up {k : K} {v : V} {above : List (K × V)} (found : lookup k = some v)
      (rest : Path (parent v) above) : Path (some k) ((k, v) :: above)

def ParentOf (k j : K) : Prop := ∃ v, lookup k = some v ∧ parent v = some j

/-- Every node has a path to a root, with at most `bound` nodes above the node itself. -/
def Forest (bound : Nat) : Prop :=
  ∀ k v, lookup k = some v → ∃ above, Path lookup parent (parent v) above ∧ above.length ≤ bound

/-- Follows the pointers through at most `n` nodes, and stops early at a missing one. -/
def climb {E : Type} (tooDeep : E) : Nat → Option K → Except E (List (K × V))
  | _, none => .ok []
  | 0, some _ => .error tooDeep
  | n + 1, some k =>
    match lookup k with
    | none => .ok []
    | some v => (climb tooDeep n (parent v)).map fun above => (k, v) :: above

end Climbing

variable {K V E : Type} {lookup lookup' : K → Option V} {parent : V → Option K}
  {start : Option K} {path : List (K × V)} {tooDeep : E}

theorem path_unique {other : List (K × V)} (first : Path lookup parent start path)
    (second : Path lookup parent start other) : path = other := by
  induction first generalizing other with
  | root =>
    cases second
    rfl
  | up found rest ih =>
    cases second with
    | up found' rest' =>
      rw [found] at found'
      cases found'
      rw [ih rest']

theorem climb_of_path {n : Nat} (complete : Path lookup parent start path)
    (short : path.length ≤ n) : climb lookup parent tooDeep n start = .ok path := by
  induction complete generalizing n with
  | root => cases n <;> rfl
  | up found rest ih =>
    cases n with
    | zero => simp at short
    | succ n =>
      simp only [List.length_cons, Nat.add_le_add_iff_right] at short
      simp only [climb, found, ih short]
      rfl

theorem length_le_of_climb {n : Nat} {climbed : List (K × V)}
    (complete : Path lookup parent start path)
    (ended : climb lookup parent tooDeep n start = .ok climbed) : path.length ≤ n := by
  induction complete generalizing n climbed with
  | root => exact Nat.zero_le n
  | up found rest ih =>
    cases n with
    | zero => cases ended
    | succ n =>
      simp only [climb, found] at ended
      cases later : climb lookup parent tooDeep n (parent _) with
      | error e =>
        rw [later] at ended
        cases ended
      | ok above => exact Nat.succ_le_succ (ih later)

theorem climb_too_deep {n : Nat} (complete : Path lookup parent start path)
    (long : n < path.length) : climb lookup parent tooDeep n start = .error tooDeep := by
  induction complete generalizing n with
  | root => cases long
  | up found rest ih =>
    cases n with
    | zero => rfl
    | succ n =>
      simp only [climb, found, ih (Nat.lt_of_succ_lt_succ long)]
      rfl

theorem known_of_path (complete : Path lookup parent start path) {k : K} {v : V}
    (member : (k, v) ∈ path) : lookup k = some v := by
  induction complete with
  | root => cases member
  | up found rest ih =>
    rcases List.mem_cons.mp member with same | later
    · cases same
      exact found
    · exact ih later

theorem path_above (complete : Path lookup parent start path) {k : K} {v : V}
    (member : (k, v) ∈ path) : ∃ above, Path lookup parent (parent v) above ∧
      above.length < path.length := by
  induction complete with
  | root => cases member
  | up found rest ih =>
    rcases List.mem_cons.mp member with same | later
    · cases same
      exact ⟨_, rest, Nat.lt_succ_self _⟩
    · obtain ⟨above, pathAbove, shorter⟩ := ih later
      exact ⟨above, pathAbove, Nat.lt_succ_of_lt shorter⟩

theorem keys_nodup (complete : Path lookup parent start path) : (path.map Prod.fst).Nodup := by
  induction complete with
  | root => exact List.nodup_nil
  | @up k v above found rest ih =>
    refine List.nodup_cons.mpr ⟨?_, ih⟩
    intro again
    obtain ⟨entry, member, same⟩ := List.mem_map.mp again
    obtain ⟨key, w⟩ := entry
    cases same
    have known := known_of_path rest member
    rw [found] at known
    cases known
    obtain ⟨shorter, pathAbove, lt⟩ := path_above rest member
    rw [path_unique rest pathAbove] at lt
    exact Nat.lt_irrefl _ lt

theorem mem_path_iff {k j : K} {v : V} (found : lookup k = some v)
    (complete : Path lookup parent (parent v) path) :
    j ∈ path.map Prod.fst ↔ Relation.TransGen (ParentOf lookup parent) k j := by
  constructor
  · intro member
    generalize from_ : parent v = start at complete
    induction complete generalizing k v with
    | root => cases member
    | up found' rest ih =>
      have link : ParentOf lookup parent k _ := ⟨v, found, from_⟩
      rcases List.mem_cons.mp member with same | later
      · rw [same]
        exact Relation.TransGen.single link
      · exact Relation.TransGen.head link (ih found' later rfl)
  · intro ancestor
    induction ancestor using Relation.TransGen.head_induction_on generalizing v path with
    | single link =>
      obtain ⟨w, found', up⟩ := link
      rw [found] at found'
      cases found'
      rw [up] at complete
      cases complete
      exact List.mem_cons_self
    | head link _ ih =>
      obtain ⟨w, found', up⟩ := link
      rw [found] at found'
      cases found'
      rw [up] at complete
      cases complete with
      | up foundNext rest => exact List.mem_cons_of_mem _ (ih foundNext rest)

theorem known_of_ancestor {k j : K} (ancestor : Relation.TransGen (ParentOf lookup parent) k j) :
    ∃ v, lookup k = some v := by
  induction ancestor using Relation.TransGen.head_induction_on with
  | single link => exact ⟨_, link.choose_spec.1⟩
  | head link _ _ => exact ⟨_, link.choose_spec.1⟩

theorem forest_acyclic {bound : Nat} (forest : Forest lookup parent bound) (k : K) :
    ¬ Relation.TransGen (ParentOf lookup parent) k k := by
  intro cycle
  obtain ⟨v, found⟩ := known_of_ancestor cycle
  obtain ⟨above, complete, _⟩ := forest k v found
  have whole : Path lookup parent (some k) ((k, v) :: above) := Path.up found complete
  have distinct := keys_nodup whole
  exact (List.nodup_cons.mp distinct).1 ((mem_path_iff found complete).mpr cycle)

theorem parent_known {bound : Nat} (forest : Forest lookup parent bound) {k j : K}
    (link : ParentOf lookup parent k j) : ∃ v, lookup j = some v := by
  obtain ⟨v, found, up⟩ := link
  obtain ⟨above, complete, _⟩ := forest k v found
  rw [up] at complete
  cases complete with
  | up foundParent _ => exact ⟨_, foundParent⟩

theorem path_mono (kept : ∀ k v, lookup k = some v → lookup' k = some v)
    (complete : Path lookup parent start path) : Path lookup' parent start path := by
  induction complete with
  | root => exact Path.root
  | up found rest ih => exact Path.up (kept _ _ found) ih

theorem forest_insert {bound : Nat} (forest : Forest lookup parent bound) {k : K} {v : V}
    (kept : ∀ j w, lookup j = some w → lookup' j = some w)
    (only : ∀ j w, lookup' j = some w → lookup j = some w ∨ (j = k ∧ w = v))
    (complete : Path lookup parent (parent v) path) (short : path.length ≤ bound) :
    Forest lookup' parent bound := by
  intro j w found
  rcases only j w found with old | new
  · obtain ⟨above, completeAbove, shortAbove⟩ := forest j w old
    exact ⟨above, path_mono kept completeAbove, shortAbove⟩
  · rw [new.2]
    exact ⟨path, path_mono kept complete, short⟩

theorem forest_erase {bound : Nat} (forest : Forest lookup parent bound) {k : K}
    (childless : ∀ j w, lookup j = some w → parent w ≠ some k)
    (kept : ∀ j w, j ≠ k → lookup j = some w → lookup' j = some w)
    (only : ∀ j w, lookup' j = some w → lookup j = some w) : Forest lookup' parent bound := by
  have avoids : ∀ start path, Path lookup parent start path → start ≠ some k →
      Path lookup' parent start path := by
    intro start path complete
    induction complete with
    | root => exact fun _ => Path.root
    | up found rest ih =>
      intro elsewhere
      refine Path.up (kept _ _ ?_ found) (ih (childless _ _ found))
      intro same
      exact elsewhere (congrArg some same)
  intro j w found
  obtain ⟨above, complete, short⟩ := forest j w (only j w found)
  exact ⟨above, avoids _ _ complete (childless j w (only j w found)), short⟩

/-- Changing what nodes carry besides their parent leaves a forest a forest. -/
theorem forest_relabel {bound : Nat} (forest : Forest lookup parent bound)
    (same : ∀ k, (lookup' k).map parent = (lookup k).map parent) : Forest lookup' parent bound := by
  have relabelled : ∀ start path, Path lookup parent start path →
      ∃ path', Path lookup' parent start path' ∧ path'.length = path.length := by
    intro start path complete
    induction complete with
    | root => exact ⟨[], Path.root, rfl⟩
    | @up k v above found rest ih =>
      obtain ⟨above', complete', eq⟩ := ih
      have here := same k
      rw [found, Option.map_some, Option.map_eq_some_iff] at here
      obtain ⟨v', found', up⟩ := here
      rw [← up] at complete'
      exact ⟨_, Path.up found' complete', by simp [eq]⟩
  intro k v' found'
  have here := same k
  rw [found', Option.map_some, eq_comm, Option.map_eq_some_iff] at here
  obtain ⟨v, found, up⟩ := here
  obtain ⟨above, complete, short⟩ := forest k v found
  obtain ⟨above', complete', eq⟩ := relabelled _ _ complete
  rw [up] at complete'
  exact ⟨above', complete', by rw [eq]; exact short⟩

end Forests
