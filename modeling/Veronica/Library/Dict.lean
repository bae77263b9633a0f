import Mathlib.Algebra.BigOperators.Group.List.Basic
import Mathlib.Algebra.Order.BigOperators.Group.List
import Mathlib.Data.List.Nodup

/- Insertion-ordered dictionaries: assigning to a present key keeps its place, assigning to
   an absent key appends it. That no key occurs twice is a field, so sums over the entries
   are sums over the keys. -/
structure Dict (K V : Type) where
  entries : List (K × V)
  distinct : (entries.map Prod.fst).Nodup

namespace Dict
variable {K V M : Type}

def empty : Dict K V := ⟨[], by simp⟩

instance : EmptyCollection (Dict K V) := ⟨empty⟩

def keys (d : Dict K V) : List K := d.entries.map Prod.fst
def values (d : Dict K V) : List V := d.entries.map Prod.snd
def size (d : Dict K V) : Nat := d.entries.length

theorem ext_entries {d e : Dict K V} (same : d.entries = e.entries) : d = e := by
  cases d; cases e
  simp_all

def sumOf [AddCommMonoid M] (d : Dict K V) (f : K → V → M) : M :=
  (d.entries.map fun e => f e.1 e.2).sum

/-- Every value replaced by its image; keys and their order stay. -/
def mapValues {W : Type} (f : V → W) (d : Dict K V) : Dict K W :=
  ⟨d.entries.map fun e => (e.1, f e.2), by
    simpa [List.map_map, Function.comp_def] using d.distinct⟩

@[simp] theorem mapValues_empty {W : Type} (f : V → W) : (∅ : Dict K V).mapValues f = ∅ := rfl

@[simp] theorem keys_mapValues {W : Type} (f : V → W) (d : Dict K V) :
    (d.mapValues f).keys = d.keys := by
  simp [keys, mapValues, List.map_map, Function.comp_def]

theorem sumOf_mapValues {W : Type} [AddCommMonoid M] (g : V → W) (d : Dict K V)
    (f : K → W → M) : (d.mapValues g).sumOf f = d.sumOf fun k v => f k (g v) := by
  simp [sumOf, mapValues, List.map_map, Function.comp_def]

theorem map_sumOf {N : Type} [AddCommMonoid M] [AddCommMonoid N] (h : M →+ N) (d : Dict K V)
    (f : K → V → M) : h (d.sumOf f) = d.sumOf fun k v => h (f k v) := by
  simp only [sumOf, map_list_sum, List.map_map, Function.comp_def]

theorem size_eq_keys (d : Dict K V) : d.size = d.keys.length := by
  rw [size, keys, List.length_map]

section Lookup
variable [DecidableEq K]

def get? (d : Dict K V) (k : K) : Option V := d.entries.lookup k
def getD (d : Dict K V) (k : K) (fallback : V) : V := (d.get? k).getD fallback

def replaceEntry (k : K) (v : V) (e : K × V) : K × V := if e.1 = k then (e.1, v) else e

theorem keys_replaceEntry (k : K) (v : V) (l : List (K × V)) :
    (l.map (replaceEntry k v)).map Prod.fst = l.map Prod.fst := by
  rw [List.map_map]
  apply List.map_congr_left
  intro e _
  simp only [Function.comp, replaceEntry]
  split <;> rfl

def set (d : Dict K V) (k : K) (v : V) : Dict K V :=
  if present : k ∈ d.keys then
    ⟨d.entries.map (replaceEntry k v), by rw [keys_replaceEntry]; exact d.distinct⟩
  else
    ⟨d.entries ++ [(k, v)], by
      simpa [List.nodup_append, d.distinct] using fun a b m eq => present (by
        simp only [keys, List.mem_map]; exact ⟨(a, b), m, eq⟩)⟩

def erase (d : Dict K V) (k : K) : Dict K V :=
  ⟨d.entries.filter fun e => e.1 ≠ k, d.distinct.sublist (List.filter_sublist.map _)⟩

theorem get?_eq_none_iff {d : Dict K V} {k : K} : d.get? k = none ↔ k ∉ d.keys := by
  simp only [get?, keys, List.lookup_eq_none_iff, List.mem_map, not_exists, not_and]
  constructor
  · intro h e m eq
    simpa [eq] using h e m
  · intro h e m
    simpa using fun eq => h e m eq.symm

theorem lookup_of_mem {l : List (K × V)} {k : K} {v : V} (distinct : (l.map Prod.fst).Nodup)
    (member : (k, v) ∈ l) : l.lookup k = some v := by
  induction l with
  | nil => simp at member
  | cons e rest ih =>
    obtain ⟨key, value⟩ := e
    simp only [List.map_cons, List.nodup_cons] at distinct
    rcases List.mem_cons.mp member with eq | later
    · cases eq; simp
    · have other : (k == key) = false := by
        rw [beq_eq_false_iff_ne]
        rintro rfl
        exact distinct.1 (List.mem_map.mpr ⟨(k, v), later, rfl⟩)
      simp only [List.lookup_cons, other]
      exact ih distinct.2 later

theorem mem_of_lookup {l : List (K × V)} {k : K} {v : V} (found : l.lookup k = some v) :
    (k, v) ∈ l := by
  obtain ⟨front, back, eq, _⟩ := List.lookup_eq_some_iff.mp found
  simp [eq]

theorem get?_eq_some_iff {d : Dict K V} {k : K} {v : V} :
    d.get? k = some v ↔ (k, v) ∈ d.entries :=
  ⟨mem_of_lookup, lookup_of_mem d.distinct⟩

@[simp] theorem get?_empty (k : K) : (∅ : Dict K V).get? k = none := rfl

theorem set_entries_present {d : Dict K V} {k : K} {v : V} (present : k ∈ d.keys) :
    (d.set k v).entries = d.entries.map (replaceEntry k v) := by
  simp [set, present]

theorem set_entries_absent {d : Dict K V} {k : K} {v : V} (absent : k ∉ d.keys) :
    (d.set k v).entries = d.entries ++ [(k, v)] := by
  simp [set, absent]

theorem keys_set (d : Dict K V) (k : K) (v : V) :
    (d.set k v).keys = if k ∈ d.keys then d.keys else d.keys ++ [k] := by
  split
  · rename_i present
    rw [keys, set_entries_present present, keys_replaceEntry, keys]
  · rename_i absent
    rw [keys, set_entries_absent absent, List.map_append, List.map_singleton, keys]

@[simp] theorem get?_set_self (d : Dict K V) (k : K) (v : V) :
    (d.set k v).get? k = some v := by
  rw [get?_eq_some_iff]
  by_cases present : k ∈ d.keys
  · rw [set_entries_present present]
    obtain ⟨e, member, rfl⟩ := List.mem_map.mp present
    exact List.mem_map.mpr ⟨e, member, by simp [replaceEntry]⟩
  · simp [set_entries_absent present]

theorem get?_set_of_ne {d : Dict K V} {k j : K} (v : V) (ne : j ≠ k) :
    (d.set k v).get? j = d.get? j := by
  apply Option.ext
  intro w
  rw [get?_eq_some_iff, get?_eq_some_iff]
  by_cases present : k ∈ d.keys
  · rw [set_entries_present present, List.mem_map]
    constructor
    · intro among
      obtain ⟨e, member, eq⟩ := among
      simp only [replaceEntry] at eq
      split at eq
      · rename_i same
        cases eq
        exact absurd same ne
      · exact eq ▸ member
    · intro member
      exact ⟨(j, w), member, by simp [replaceEntry, ne]⟩
  · simp [set_entries_absent present, ne]

theorem get?_set (d : Dict K V) (k j : K) (v : V) :
    (d.set k v).get? j = if j = k then some v else d.get? j := by
  split
  · rename_i same
    rw [same, get?_set_self]
  · rename_i ne
    exact get?_set_of_ne v ne

theorem get?_erase (d : Dict K V) (k j : K) :
    (d.erase k).get? j = if j = k then none else d.get? j := by
  apply Option.ext
  intro w
  rw [get?_eq_some_iff]
  simp only [erase, List.mem_filter, ne_eq, decide_not, Bool.not_eq_eq_eq_not, Bool.not_true,
    decide_eq_false_iff_not]
  split
  · rename_i same
    simp [same]
  · rename_i ne
    simp [ne, get?_eq_some_iff]

theorem get?_of_erase {d : Dict K V} {k j : K} {v : V} (kept : (d.erase k).get? j = some v) :
    j ≠ k ∧ d.get? j = some v := by
  rw [get?_erase] at kept
  split at kept
  · cases kept
  · rename_i ne
    exact ⟨ne, kept⟩

/-- What holds of every entry and of a new one holds of every entry once that one is set. -/
theorem forall_set {holds : K → V → Prop} {d : Dict K V} {k : K} {v : V} (new : holds k v)
    (all : ∀ j w, d.get? j = some w → holds j w) :
    ∀ j w, (d.set k v).get? j = some w → holds j w := by
  intro j w found
  rw [get?_set] at found
  split at found
  · rename_i same
    cases found
    rw [same]
    exact new
  · exact all j w found

theorem forall_erase {holds : K → V → Prop} {d : Dict K V} (k : K)
    (all : ∀ j w, d.get? j = some w → holds j w) :
    ∀ j w, (d.erase k).get? j = some w → holds j w := by
  intro j w kept
  exact all j w (get?_of_erase kept).2

/-- The entries whose value passes a test. -/
def filterValues (keep : V → Bool) (d : Dict K V) : Dict K V :=
  ⟨d.entries.filter fun e => keep e.2, d.distinct.sublist (List.filter_sublist.map _)⟩

theorem get?_filterValues (keep : V → Bool) (d : Dict K V) (k : K) :
    (d.filterValues keep).get? k = (d.get? k).filter keep := by
  apply Option.ext
  intro w
  rw [get?_eq_some_iff, Option.filter_eq_some_iff, get?_eq_some_iff]
  simp [filterValues]

theorem erase_of_get?_none {d : Dict K V} {k : K} (absent : d.get? k = none) :
    d.erase k = d := by
  apply ext_entries
  apply List.filter_eq_self.mpr
  intro e member
  have := get?_eq_none_iff.mp absent
  simpa using fun eq => this (List.mem_map.mpr ⟨e, member, eq⟩)

theorem erase_set (d : Dict K V) (k : K) (v : V) : (d.set k v).erase k = d.erase k := by
  apply ext_entries
  by_cases present : k ∈ d.keys
  · have key : ∀ e : K × V, (replaceEntry k v e).1 = e.1 := by
      intro e
      unfold replaceEntry
      split <;> rfl
    have other : ∀ e ∈ d.entries.filter (fun e => e.1 ≠ k), replaceEntry k v e = e := by
      intro e member
      exact if_neg (by simpa using (List.mem_filter.mp member).2)
    simp only [erase, set_entries_present present, List.filter_map, Function.comp_def, key]
    rw [List.map_congr_left other, List.map_id']
  · simp [erase, set_entries_absent present]

theorem get?_mapValues {W : Type} (f : V → W) (d : Dict K V) (k : K) :
    (d.mapValues f).get? k = (d.get? k).map f := by
  apply Option.ext
  intro w
  rw [get?_eq_some_iff, Option.map_eq_some_iff]
  simp only [mapValues, List.mem_map, Prod.mk.injEq]
  constructor
  · intro among
    obtain ⟨⟨key, v⟩, member, rfl, rfl⟩ := among
    exact ⟨v, get?_eq_some_iff.mpr member, rfl⟩
  · intro among
    obtain ⟨v, found, rfl⟩ := among
    exact ⟨(k, v), get?_eq_some_iff.mp found, rfl, rfl⟩

theorem mapValues_set {W : Type} (f : V → W) {d : Dict K V} {k : K}
    (absent : d.get? k = none) (v : V) :
    (d.set k v).mapValues f = (d.mapValues f).set k (f v) := by
  have missing := get?_eq_none_iff.mp absent
  have missing' : k ∉ (d.mapValues f).keys := by rwa [keys_mapValues]
  apply ext_entries
  rw [set_entries_absent missing']
  simp [mapValues, set_entries_absent missing]

theorem mapValues_erase {W : Type} (f : V → W) (d : Dict K V) (k : K) :
    (d.erase k).mapValues f = (d.mapValues f).erase k := by
  apply ext_entries
  simp [mapValues, erase, List.filter_map, Function.comp_def]

theorem eq_empty_of_get? {d : Dict K V} (absent : ∀ k, d.get? k = none) : d = ∅ := by
  apply ext_entries
  apply List.eq_nil_iff_forall_not_mem.mpr
  rintro ⟨k, v⟩ member
  have found := get?_eq_some_iff.mpr member
  rw [absent k] at found
  exact Option.some_ne_none v found.symm

theorem size_eq_of_get? {W : Type} {d : Dict K V} {e : Dict K W}
    (same : ∀ k, d.get? k = none ↔ e.get? k = none) : d.size = e.size := by
  have shared : ∀ k, k ∈ d.keys ↔ k ∈ e.keys := fun k =>
    not_iff_not.mp (by rw [← get?_eq_none_iff, same, get?_eq_none_iff])
  have perm : d.keys.Perm e.keys := (List.perm_ext_iff_of_nodup d.distinct e.distinct).mpr shared
  rw [size_eq_keys, size_eq_keys, perm.length_eq]

/-- Entries assigned one after another. -/
def ofEntries (entries : List (K × V)) : Dict K V :=
  entries.foldl (fun d e => d.set e.1 e.2) ∅

theorem foldl_set_entries {entries : List (K × V)} {d : Dict K V}
    (distinct : (d.keys ++ entries.map Prod.fst).Nodup) :
    (entries.foldl (fun d e => d.set e.1 e.2) d).entries = d.entries ++ entries := by
  induction entries generalizing d with
  | nil => simp
  | cons e rest ih =>
    have fresh : e.1 ∉ d.keys := by
      intro present
      exact (List.nodup_append.mp distinct).2.2 e.1 present e.1 (by simp) rfl
    have appended := set_entries_absent (v := e.2) fresh
    rw [List.foldl_cons, ih, appended]
    · simp
    · simpa [keys, appended] using distinct

theorem ofEntries_entries {entries : List (K × V)} (distinct : (entries.map Prod.fst).Nodup) :
    (ofEntries entries).entries = entries :=
  foldl_set_entries distinct

theorem forall_foldl_set {holds : K → V → Prop} {entries : List (K × V)} {d : Dict K V}
    (each : ∀ e ∈ entries, holds e.1 e.2) (all : ∀ j w, d.get? j = some w → holds j w) :
    ∀ j w, (entries.foldl (fun d e => d.set e.1 e.2) d).get? j = some w → holds j w := by
  induction entries generalizing d with
  | nil => exact all
  | cons e rest ih =>
    have first := forall_set (each e List.mem_cons_self) all
    exact ih (fun later member => each later (List.mem_cons_of_mem _ member)) first

theorem forall_ofEntries {holds : K → V → Prop} {entries : List (K × V)}
    (each : ∀ e ∈ entries, holds e.1 e.2) :
    ∀ j w, (ofEntries entries).get? j = some w → holds j w := by
  refine forall_foldl_set each ?_
  intro j w found
  cases found

theorem get?_foldl_set {entries : List (K × V)} (distinct : (entries.map Prod.fst).Nodup)
    (d : Dict K V) (k : K) :
    (entries.foldl (fun d e => d.set e.1 e.2) d).get? k = (entries.lookup k).or (d.get? k) := by
  induction entries generalizing d with
  | nil => rfl
  | cons e rest ih =>
    obtain ⟨key, value⟩ := e
    obtain ⟨fresh, distinct⟩ := List.nodup_cons.mp distinct
    rw [List.foldl_cons, ih distinct, get?_set, List.lookup_cons]
    by_cases here : k = key
    · have absent : rest.lookup k = none := by
        rw [List.lookup_eq_none_iff]
        intro e member
        rw [bne_iff_ne, here]
        intro same
        exact fresh (List.mem_map.mpr ⟨e, member, same.symm⟩)
      rw [absent, if_pos here, beq_iff_eq.mpr here]
      rfl
    · rw [if_neg here, beq_eq_false_iff_ne.mpr here]

theorem perm_erase {d : Dict K V} {k : K} {v : V} (found : d.get? k = some v) :
    d.entries.Perm ((k, v) :: (d.erase k).entries) := by
  have absent : (k, v) ∉ (d.erase k).entries := by simp [erase]
  refine (List.perm_ext_iff_of_nodup d.distinct.of_map
    (List.nodup_cons.mpr ⟨absent, (d.erase k).distinct.of_map⟩)).mpr fun e => ?_
  rw [List.mem_cons, erase, List.mem_filter, decide_eq_true_eq]
  constructor
  · intro member
    by_cases same : e.1 = k
    · have value := get?_eq_some_iff.mpr member
      rw [same, found, Option.some.injEq] at value
      exact Or.inl (Prod.ext same value.symm)
    · exact Or.inr ⟨member, same⟩
  · rintro (rfl | ⟨member, _⟩)
    · exact get?_eq_some_iff.mp found
    · exact member

theorem single_entries (k : K) (v : V) : ((∅ : Dict K V).set k v).entries = [(k, v)] := rfl

end Lookup

section Sums
variable [AddCommMonoid M]

@[simp] theorem sumOf_empty (f : K → V → M) : (∅ : Dict K V).sumOf f = 0 := rfl

variable [DecidableEq K]

theorem sumOf_set_new {d : Dict K V} {k : K} (absent : d.get? k = none) (v : V)
    (f : K → V → M) : (d.set k v).sumOf f = d.sumOf f + f k v := by
  simp [sumOf, set_entries_absent (get?_eq_none_iff.mp absent)]

theorem sumOf_erase {d : Dict K V} {k : K} {v : V} (found : d.get? k = some v)
    (f : K → V → M) : (d.erase k).sumOf f + f k v = d.sumOf f := by
  rw [sumOf, sumOf, ((perm_erase found).map _).sum_eq, List.map_cons, List.sum_cons, add_comm]

theorem sumOf_set (d : Dict K V) (k : K) (v : V) (f : K → V → M) :
    (d.set k v).sumOf f = (d.erase k).sumOf f + f k v := by
  rw [← erase_set d k v, sumOf_erase (get?_set_self d k v)]

theorem sumOf_congr {d : Dict K V} {f g : K → V → M}
    (same : ∀ k v, d.get? k = some v → f k v = g k v) : d.sumOf f = d.sumOf g := by
  simp only [sumOf]
  congr 1
  apply List.map_congr_left
  intro e member
  exact same e.1 e.2 (get?_eq_some_iff.mpr member)

theorem sumOf_le_sumOf [PartialOrder M] [IsOrderedAddMonoid M] {d : Dict K V} {f g : K → V → M}
    (le : ∀ k v, d.get? k = some v → f k v ≤ g k v) : d.sumOf f ≤ d.sumOf g := by
  apply List.sum_le_sum
  intro e member
  exact le e.1 e.2 (get?_eq_some_iff.mpr member)

theorem sumOf_nonneg [PartialOrder M] [IsOrderedAddMonoid M] {d : Dict K V} {f : K → V → M}
    (nonneg : ∀ k v, d.get? k = some v → 0 ≤ f k v) : 0 ≤ d.sumOf f := by
  apply List.sum_nonneg
  intro x member
  obtain ⟨e, m, rfl⟩ := List.mem_map.mp member
  exact nonneg e.1 e.2 (get?_eq_some_iff.mpr m)

omit [DecidableEq K] in
/-- If every entry has an owner among the entries of another dictionary, and an owner owns one
    key, the sum over the owned entries is at most the sum over the owners. -/
theorem sum_le_of_owners {J W : Type} [DecidableEq J] [PartialOrder M] [IsOrderedAddMonoid M]
    {l : List (K × V)} {e : Dict J W} {f : K → V → M} {g : J → W → M} (owned : J → K)
    (distinct : (l.map Prod.fst).Nodup)
    (nonneg : ∀ j w, e.get? j = some w → 0 ≤ g j w)
    (owners : ∀ k v, (k, v) ∈ l → ∃ j w, e.get? j = some w ∧ owned j = k ∧ f k v ≤ g j w) :
    (l.map fun p => f p.1 p.2).sum ≤ e.sumOf g := by
  induction l generalizing e with
  | nil => exact sumOf_nonneg nonneg
  | cons p rest ih =>
    obtain ⟨k, v⟩ := p
    simp only [List.map_cons, List.nodup_cons] at distinct
    obtain ⟨j, w, found, rfl, le⟩ := owners k v List.mem_cons_self
    have later : (rest.map fun p => f p.1 p.2).sum ≤ (e.erase j).sumOf g := by
      refine ih distinct.2 ?_ ?_
      · intro i x kept
        rw [get?_erase] at kept
        split at kept
        · cases kept
        · exact nonneg i x kept
      · intro k' v' member
        obtain ⟨i, x, present, same, le'⟩ := owners k' v' (List.mem_cons_of_mem _ member)
        refine ⟨i, x, ?_, same, le'⟩
        have other : i ≠ j := by
          rintro rfl
          exact distinct.1 (List.mem_map.mpr ⟨(k', v'), member, same.symm⟩)
        rw [get?_erase, if_neg other, present]
    rw [List.map_cons, List.sum_cons, ← sumOf_erase found g, add_comm]
    exact add_le_add later le

theorem sumOf_le_of_owners {J W : Type} [DecidableEq J] [PartialOrder M]
    [IsOrderedAddMonoid M] {d : Dict K V} {e : Dict J W} {f : K → V → M} {g : J → W → M}
    (owned : J → K) (nonneg : ∀ j w, e.get? j = some w → 0 ≤ g j w)
    (owners : ∀ k v, d.get? k = some v → ∃ j w, e.get? j = some w ∧ owned j = k ∧ f k v ≤ g j w) :
    d.sumOf f ≤ e.sumOf g :=
  sum_le_of_owners owned d.distinct nonneg fun k v member =>
    owners k v (get?_eq_some_iff.mpr member)

end Sums
end Dict
