import Veronica.Library.KeyedSort
import Veronica.Library.Outlines
import Veronica.TenantAnswers

/- The tenants page: what GET /tenants lists, as the tree of lines it draws. How the browser
   compares names is left open. -/
namespace VeronicaTenantsPage
open VeronicaTenants VeronicaTenantApi

section Page
variable {K : Type} [LinearOrder K] (collate : String → K) (tenants : List TenantNode)

/-- `byId[id]`; of two entries with one id the later is kept. -/
def byId (id : String) : Option TenantNode := (tenants.filter fun t => t.id = id).getLast?

/-- The node whose children a tenant is pushed to, if it is not pushed to the roots. -/
def parentOf (t : TenantNode) : Option TenantNode := t.parentId.bind (byId tenants)

/-- `a.name || a.id` -/
def label (t : TenantNode) : String := if t.name = "" then t.id else t.name

def sortLevel (nodes : List TenantNode) : List TenantNode :=
  KeyedSort.sorted (fun t => collate (label t)) nodes

def roots : List TenantNode :=
  sortLevel collate (tenants.filter fun t => (parentOf tenants t).isNone)

def children (node : TenantNode) : List TenantNode :=
  sortLevel collate (tenants.filter fun t =>
    (parentOf tenants t).any fun parent => decide (parent.id = node.id))

/-- The lines of the tree with their depths; nothing is deeper than there are tenants. -/
def renderTree : List (TenantNode × Nat) :=
  Outlines.outline (children collate tenants) tenants.length 0 (roots collate tenants)

end Page

section Listed
variable {K : Type} [LinearOrder K] {collate : String → K} {r : TenantRegistry}

/-- What GET /tenants lists. -/
def listed (r : TenantRegistry) : List TenantNode := r.tenants.values

theorem mem_listed (inv : Inv r) {t : TenantNode} : t ∈ listed r ↔ r.get t.id = some t := by
  constructor
  · intro member
    obtain ⟨entry, among, rfl⟩ := List.mem_map.mp member
    have found : r.tenants.get? entry.1 = some entry.2 := Dict.get?_eq_some_iff.mpr among
    rw [inv.keyed entry.1 entry.2 found]
    exact found
  · intro found
    exact List.mem_map.mpr ⟨(t.id, t), Dict.get?_eq_some_iff.mp found, rfl⟩

theorem ids_nodup (inv : Inv r) : ((listed r).map TenantNode.id).Nodup := by
  have keys : (listed r).map TenantNode.id = r.tenants.keys := by
    rw [listed, Dict.values, Dict.keys, List.map_map]
    refine List.map_congr_left fun entry member => ?_
    exact inv.keyed entry.1 entry.2 (Dict.get?_eq_some_iff.mpr member)
  rw [keys]
  exact r.tenants.distinct

theorem byId_listed (inv : Inv r) (id : String) : byId (listed r) id = r.get id := by
  have only : ∀ t ∈ (listed r).filter fun t => t.id = id, r.get id = some t := by
    intro t member
    obtain ⟨among, same⟩ := List.mem_filter.mp member
    rw [← of_decide_eq_true same]
    exact (mem_listed inv).mp among
  rw [byId]
  cases last : ((listed r).filter fun t => t.id = id).getLast? with
  | some t => exact (only t (List.mem_of_getLast? last)).symm
  | none =>
    cases found : r.get id with
    | none => rfl
    | some t =>
      have own : t.id = id := inv.keyed id t found
      have member : t ∈ (listed r).filter fun t => t.id = id := by
        refine List.mem_filter.mpr ⟨(mem_listed inv).mpr ?_, decide_eq_true own⟩
        rw [own, found]
      rw [List.getLast?_eq_none_iff.mp last] at member
      cases member

theorem parentOf_listed (inv : Inv r) (t : TenantNode) :
    parentOf (listed r) t = t.parentId.bind r.get := by
  rw [parentOf, funext (byId_listed inv)]

theorem parent_listed (inv : Inv r) {t p : TenantNode} (up : parentOf (listed r) t = some p) :
    t.parentId = some p.id ∧ r.get p.id = some p := by
  rw [parentOf_listed inv] at up
  obtain ⟨id, named, found⟩ := Option.bind_eq_some_iff.mp up
  have own : p.id = id := inv.keyed id p found
  rw [own]
  exact ⟨named, found⟩

theorem parentId_of_top (inv : Inv r) {t : TenantNode} (known : t ∈ listed r)
    (top : parentOf (listed r) t = none) : t.parentId = none := by
  cases named : t.parentId with
  | none => rfl
  | some id =>
    obtain ⟨p, found⟩ := Forests.parent_known inv.forest ⟨t, (mem_listed inv).mp known, named⟩
    have up : parentOf (listed r) t = some p := by
      rw [parentOf_listed inv, named]
      exact found
    rw [top] at up
    cases up

theorem depthOf_child (inv : Inv r) {t p : TenantNode} (known : t ∈ listed r)
    (up : parentOf (listed r) t = some p) : depthOf r t.id = depthOf r p.id + 1 := by
  obtain ⟨named, found⟩ := parent_listed inv up
  obtain ⟨path, complete, length, _⟩ := depthOf_le inv ((mem_listed inv).mp known)
  obtain ⟨above, completeAbove, lengthAbove, _⟩ := depthOf_le inv found
  rw [← named] at completeAbove
  have same := Forests.path_unique complete (.up ((mem_listed inv).mp known) completeAbove)
  rw [same, List.length_cons, lengthAbove] at length
  omega

theorem depthOf_top (inv : Inv r) {t : TenantNode} (known : t ∈ listed r)
    (top : t.parentId = none) : depthOf r t.id = 0 := by
  obtain ⟨path, complete, length, _⟩ := depthOf_le inv ((mem_listed inv).mp known)
  have alone : Path r (some t.id) [(t.id, t)] := by
    refine .up ((mem_listed inv).mp known) ?_
    rw [top]
    exact .root
  rw [Forests.path_unique complete alone, List.length_singleton] at length
  omega

theorem depthOf_lt (inv : Inv r) {t : TenantNode} (known : t ∈ listed r) :
    depthOf r t.id < (listed r).length := by
  obtain ⟨path, complete, length, _⟩ := depthOf_le inv ((mem_listed inv).mp known)
  have within : path.map Prod.fst ⊆ (listed r).map TenantNode.id := by
    intro id member
    obtain ⟨entry, among, rfl⟩ := List.mem_map.mp member
    have found : r.get entry.1 = some entry.2 := Forests.known_of_path complete among
    have own : entry.2.id = entry.1 := inv.keyed entry.1 entry.2 found
    refine List.mem_map.mpr ⟨entry.2, (mem_listed inv).mpr ?_, own⟩
    rw [own, found]
  have shorter := (List.subperm_of_subset (Forests.keys_nodup complete) within).length_le
  rw [List.length_map, List.length_map] at shorter
  omega

theorem laid (inv : Inv r) : Outlines.Laid (parentOf (listed r)) (fun t => depthOf r t.id)
    (listed r) (roots collate (listed r)) (children collate (listed r)) := by
  have distinct : (listed r).Nodup := (ids_nodup inv).of_map
  constructor
  case parents =>
    intro t known p up
    exact ⟨(mem_listed inv).mpr (parent_listed inv up).2, depthOf_child inv known up⟩
  case tops => exact fun t known top => depthOf_top inv known (parentId_of_top inv known top)
  case mem_roots =>
    intro t
    rw [roots, sortLevel, (KeyedSort.sorted_perm _ _).mem_iff, List.mem_filter,
      Option.isNone_iff_eq_none]
  case mem_children =>
    intro p known t
    rw [children, sortLevel, (KeyedSort.sorted_perm _ _).mem_iff, List.mem_filter,
      Option.any_eq_true]
    refine and_congr_right fun _ => ?_
    constructor
    · rintro ⟨q, up, same⟩
      have found := (parent_listed inv up).2
      rw [of_decide_eq_true same, (mem_listed inv).mp known] at found
      rw [up, found]
    · exact fun up => ⟨p, up, decide_eq_true rfl⟩
  case nodup_roots => exact (KeyedSort.sorted_perm _ _).nodup_iff.mpr (distinct.filter _)
  case nodup_children =>
    exact fun p _ => (KeyedSort.sorted_perm _ _).nodup_iff.mpr (distinct.filter _)

/-- After any requests the page draws every tenant once, indented by the number of its ancestors;
    the last line above it that is indented less is its parent's. -/
theorem page_draws_forest (collate : String → K) (floatAsInt : ℚ → Option Int)
    (requests : List Request) :
    let r := Runs.run (serve floatAsInt) TenantRegistry.empty requests
    (renderTree collate (listed r)).Perm ((listed r).map fun t => (t, depthOf r t.id)) ∧
    ∀ before t level after, renderTree collate (listed r) = before ++ (t, level) :: after →
      (Outlines.above before level).map TenantNode.id = t.parentId := by
  intro r
  have inv : Inv r := (kept_run requests).inv
  have layout : Outlines.Laid (parentOf (listed r)) (fun t => depthOf r t.id)
    (listed r) (roots collate (listed r)) (children collate (listed r)) := laid inv
  refine ⟨Outlines.outline_perm layout (ids_nodup inv).of_map fun t => depthOf_lt inv, ?_⟩
  intro before t level after split
  have shown : (t, level) ∈ renderTree collate (listed r) := by simp [split]
  have known : t ∈ listed r :=
    (Outlines.outline_depth layout (Outlines.siblings_roots layout) _ shown).1
  have indented : Outlines.Indented (parentOf (listed r)) [] (renderTree collate (listed r)) :=
    Outlines.outline_indented layout (Outlines.siblings_roots layout) rfl
  rw [split] at indented
  have under := Outlines.indented_split indented
  rw [List.nil_append] at under
  rw [under]
  cases up : parentOf (listed r) t with
  | none => exact (parentId_of_top inv known up).symm
  | some p => exact (parent_listed inv up).1.symm

end Listed

end VeronicaTenantsPage
