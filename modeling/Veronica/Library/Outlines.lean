import Mathlib.Data.List.Nodup
import Mathlib.Data.List.Perm.Basic

/- Outlines of forests: every node on a line of its own, indented by its depth, the lines below it
   right after its own. From the indentation the forest can be read back. -/
namespace Outlines
variable {V : Type}

/-- The nodes in order, each followed by its children one level deeper, down to `fuel` levels. -/
def outline (children : V → List V) : Nat → Nat → List V → List (V × Nat)
  | 0, _, _ => []
  | fuel + 1, level, nodes =>
    nodes.flatMap fun node => (node, level) :: outline children fuel (level + 1) (children node)

/-- The node that a line below these is under, if it is indented as far as `level`: the last line
    that is indented less. -/
def above (lines : List (V × Nat)) (level : Nat) : Option V :=
  (lines.reverse.find? fun line => decide (line.2 < level)).map Prod.fst

/-- Under the lines of `context`, each of these lines is under the parent of its node. -/
def Indented (up : V → Option V) : List (V × Nat) → List (V × Nat) → Prop
  | _, [] => True
  | context, line :: rest =>
    above context line.2 = up line.1 ∧ Indented up (context ++ [line]) rest

section Above
variable {lines context : List (V × Nat)} {node : V} {level : Nat}

theorem above_append_deep (deep : ∀ line ∈ lines, level ≤ line.2) :
    above (context ++ lines) level = above context level := by
  have none : lines.reverse.find? (fun line => decide (line.2 < level)) = none := by
    rw [List.find?_eq_none]
    intro line member
    simpa using deep line (List.mem_reverse.mp member)
  rw [above, List.reverse_append, List.find?_append, none, Option.none_or, above]

theorem above_append_self : above (context ++ [(node, level)]) (level + 1) = some node := by
  rw [above, List.reverse_append, List.find?_append]
  simp

theorem indented_append {up : V → Option V} {first second : List (V × Nat)} :
    Indented up context (first ++ second) ↔
      Indented up context first ∧ Indented up (context ++ first) second := by
  induction first generalizing context with
  | nil => simp [Indented]
  | cons line rest ih => simp [Indented, ih, and_assoc]

theorem indented_split {up : V → Option V} {before after : List (V × Nat)}
    (indented : Indented up context (before ++ (node, level) :: after)) :
    above (context ++ before) level = up node :=
  (indented_append.mp indented).2.1

end Above

def Siblings (up : V → Option V) (depth : V → Nat) (nodes : List V) (parent : Option V)
    (level : Nat) (siblings : List V) : Prop :=
  siblings.Nodup ∧ ∀ v ∈ siblings, v ∈ nodes ∧ up v = parent ∧ depth v = level

def climb (up : V → Option V) : Nat → V → Option V
  | 0, v => some v
  | n + 1, v => (climb up n v).bind up

section Forest
variable (up : V → Option V) (depth : V → Nat) (nodes roots : List V) (children : V → List V)

structure Laid : Prop where
  parents : ∀ v ∈ nodes, ∀ p, up v = some p → p ∈ nodes ∧ depth v = depth p + 1
  tops : ∀ v ∈ nodes, up v = none → depth v = 0
  mem_roots : ∀ v, v ∈ roots ↔ v ∈ nodes ∧ up v = none
  mem_children : ∀ p ∈ nodes, ∀ v, v ∈ children p ↔ v ∈ nodes ∧ up v = some p
  nodup_roots : roots.Nodup
  nodup_children : ∀ p ∈ nodes, (children p).Nodup

variable {up depth nodes roots children} (laid : Laid up depth nodes roots children) {fuel : Nat}
include laid

theorem siblings_roots : Siblings up depth nodes none 0 roots := by
  refine ⟨laid.nodup_roots, ?_⟩
  intro v member
  obtain ⟨known, top⟩ := (laid.mem_roots v).mp member
  exact ⟨known, top, laid.tops v known top⟩

theorem siblings_children {p : V} (known : p ∈ nodes) :
    Siblings up depth nodes (some p) (depth p + 1) (children p) := by
  refine ⟨laid.nodup_children p known, ?_⟩
  intro v member
  obtain ⟨among, child⟩ := (laid.mem_children p known v).mp member
  exact ⟨among, child, (laid.parents v among p child).2⟩

theorem outline_depth {parent : Option V} {level : Nat} {siblings : List V}
    (alike : Siblings up depth nodes parent level siblings) :
    ∀ line ∈ outline children fuel level siblings,
      line.1 ∈ nodes ∧ line.2 = depth line.1 ∧ level ≤ line.2 := by
  induction fuel generalizing parent level siblings with
  | zero => exact fun line member => absurd member List.not_mem_nil
  | succ fuel ih =>
    intro line member
    obtain ⟨v, among, shown⟩ := List.mem_flatMap.mp member
    obtain ⟨known, _, rfl⟩ := alike.2 v among
    rcases List.mem_cons.mp shown with rfl | below
    · exact ⟨known, rfl, Nat.le_refl _⟩
    · obtain ⟨listed, level, deeper⟩ := ih (siblings_children laid known) line below
      exact ⟨listed, level, by omega⟩

/-- The indentation of every line is that of a line under the parent of its node. -/
theorem outline_indented {parent : Option V} {level : Nat} {siblings : List V}
    (alike : Siblings up depth nodes parent level siblings) {context : List (V × Nat)}
    (under : above context level = parent) :
    Indented up context (outline children fuel level siblings) := by
  induction fuel generalizing parent level siblings context with
  | zero => trivial
  | succ fuel ih =>
    rw [outline]
    induction siblings generalizing context with
    | nil => trivial
    | cons v rest later =>
      obtain ⟨known, parentOf, rfl⟩ := alike.2 v List.mem_cons_self
      have restAlike : Siblings up depth nodes parent (depth v) rest :=
        ⟨alike.1.of_cons, fun w member => alike.2 w (List.mem_cons_of_mem _ member)⟩
      have block : Indented up context
          ((v, depth v) :: outline children fuel (depth v + 1) (children v)) :=
        ⟨under.trans parentOf.symm, ih (siblings_children laid known) above_append_self⟩
      rw [List.flatMap_cons, indented_append]
      refine ⟨block, later restAlike ?_⟩
      rw [above_append_deep, under]
      intro line member
      rcases List.mem_cons.mp member with rfl | below
      · exact Nat.le_refl _
      · exact Nat.le_of_succ_le (outline_depth laid (siblings_children laid known) line below).2.2

abbrev block (children : V → List V) (fuel : Nat) (level : Nat) (v : V) : List (V × Nat) :=
  (v, level) :: outline children fuel (level + 1) (children v)

theorem climb_block {v : V} (known : v ∈ nodes) :
    ∀ line ∈ block children fuel (depth v) v,
      climb up (depth line.1 - depth v) line.1 = some v := by
  induction fuel generalizing v with
  | zero =>
    intro line member
    rw [List.mem_singleton.mp member, Nat.sub_self]
    rfl
  | succ fuel ih =>
    intro line member
    rcases List.mem_cons.mp member with rfl | below
    · rw [Nat.sub_self]
      rfl
    · obtain ⟨c, among, shown⟩ := List.mem_flatMap.mp below
      obtain ⟨listed, child⟩ := (laid.mem_children v known c).mp among
      have deeper : depth c = depth v + 1 := (laid.parents c listed v child).2
      rw [← deeper] at shown
      have alike : Siblings up depth nodes (some v) (depth c) [c] := by
        refine ⟨List.nodup_singleton c, ?_⟩
        intro w same
        rw [List.mem_singleton.mp same]
        exact ⟨listed, child, rfl⟩
      have below : line ∈ outline children (fuel + 1) (depth c) [c] := by
        rw [outline, List.flatMap_singleton]
        exact shown
      obtain ⟨_, level, least⟩ := outline_depth laid alike line below
      have reached := ih listed line shown
      have steps : depth line.1 - depth v = depth line.1 - depth c + 1 := by omega
      rw [steps, climb, reached]
      exact child

theorem outline_nodup {parent : Option V} {level : Nat} {siblings : List V}
    (alike : Siblings up depth nodes parent level siblings) :
    (outline children fuel level siblings).Nodup := by
  induction fuel generalizing parent level siblings with
  | zero => exact List.nodup_nil
  | succ fuel ih =>
    rw [outline, List.nodup_flatMap]
    constructor
    · intro v among
      obtain ⟨known, _, rfl⟩ := alike.2 v among
      refine List.nodup_cons.mpr ⟨?_, ih (siblings_children laid known)⟩
      intro again
      have deeper := (outline_depth laid (siblings_children laid known) _ again).2.2
      exact Nat.not_succ_le_self _ deeper
    · refine List.Pairwise.imp_of_mem ?_ alike.1
      intro v w first second ne line inFirst inSecond
      obtain ⟨known, _, rfl⟩ := alike.2 v first
      obtain ⟨known', _, level⟩ := alike.2 w second
      have up := climb_block laid known line inFirst
      rw [← level] at up inSecond
      rw [climb_block laid known' line inSecond] at up
      exact ne (Option.some.inj up).symm

theorem child_line {parent : Option V} {level : Nat} {siblings : List V}
    (alike : Siblings up depth nodes parent level siblings) {p c : V}
    (shown : (p, depth p) ∈ outline children fuel level siblings) (listed : c ∈ nodes)
    (child : up c = some p) (room : depth c < level + fuel) :
    (c, depth c) ∈ outline children fuel level siblings := by
  induction fuel generalizing parent level siblings with
  | zero => cases shown
  | succ fuel ih =>
    obtain ⟨v, among, inBlock⟩ := List.mem_flatMap.mp shown
    obtain ⟨known, _, rfl⟩ := alike.2 v among
    refine List.mem_flatMap.mpr ⟨v, among, List.mem_cons_of_mem _ ?_⟩
    rcases List.mem_cons.mp inBlock with own | below
    · cases own
      have member : c ∈ children p := (laid.mem_children p known c).mpr ⟨listed, child⟩
      have deeper : depth c = depth p + 1 := (laid.parents c listed p child).2
      cases fuel with
      | zero => omega
      | succ fuel =>
        rw [deeper]
        exact List.mem_flatMap.mpr ⟨c, member, List.mem_cons_self⟩
    · exact ih (siblings_children laid known) below (by omega)

theorem line_of_node (deep : ∀ v ∈ nodes, depth v < fuel) {v : V} (known : v ∈ nodes) :
    (v, depth v) ∈ outline children fuel 0 roots := by
  induction level : depth v generalizing v with
  | zero =>
    have top : up v = none := by
      cases parent : up v with
      | none => rfl
      | some p =>
        have deeper := (laid.parents v known p parent).2
        omega
    have member : v ∈ roots := (laid.mem_roots v).mpr ⟨known, top⟩
    cases fuel with
    | zero => exact absurd (deep v known) (Nat.not_lt_zero _)
    | succ fuel => exact List.mem_flatMap.mpr ⟨v, member, List.mem_cons_self⟩
  | succ n ih =>
    cases parent : up v with
    | none =>
      rw [laid.tops v known parent] at level
      cases level
    | some p =>
      obtain ⟨listed, deeper⟩ := laid.parents v known p parent
      have depthOf : depth p = n := by omega
      have shown := ih listed depthOf
      rw [← depthOf] at shown
      have room : depth v < 0 + fuel := by
        rw [Nat.zero_add]
        exact deep v known
      have line := child_line laid (siblings_roots laid) shown known parent room
      rwa [level] at line

theorem outline_perm (distinct : nodes.Nodup) (deep : ∀ v ∈ nodes, depth v < fuel) :
    (outline children fuel 0 roots).Perm (nodes.map fun v => (v, depth v)) := by
  refine (List.perm_ext_iff_of_nodup (outline_nodup laid (siblings_roots laid)) ?_).mpr ?_
  · exact distinct.map fun v w same => (Prod.mk.inj same).1
  · intro line
    constructor
    · intro shown
      obtain ⟨known, level, _⟩ := outline_depth laid (siblings_roots laid) line shown
      exact List.mem_map.mpr ⟨line.1, known, Prod.ext rfl level.symm⟩
    · intro listed
      obtain ⟨v, known, rfl⟩ := List.mem_map.mp listed
      exact line_of_node laid deep known

end Forest

end Outlines
