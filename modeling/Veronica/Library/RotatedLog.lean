import Mathlib.Data.List.DropRight
import Veronica.Library.Dict

/- A log in two files: lines are appended to the active one, which is moved over the rotated one
   when it has reached its size. Between them the two keep the lines of one full file at least. -/
namespace RotatedLog
variable {K T U : Type} [DecidableEq K]

def append (files : Dict K (List T)) (path : K) (line : T) : Dict K (List T) :=
  files.set path (files.getD path [] ++ [line])

/-- The old rotated file goes, the active file takes its name. -/
def rotate (files : Dict K (List T)) (active rotated : K) : Dict K (List T) :=
  match files.get? active with
  | none => files.erase rotated
  | some lines => ((files.erase rotated).erase active).set rotated lines

def write (files : Dict K (List T)) (active rotated : K) (line : T) (full : Bool) :
    Dict K (List T) :=
  if full then rotate (append files active line) active rotated else append files active line

theorem write_get? (files : Dict K (List T)) (active rotated : K) (line : T) (full : Bool)
    (path : K) : (write files active rotated line full).get? path =
      if full ∧ path = rotated then some (files.getD active [] ++ [line])
      else if path = active then (if full then none else some (files.getD active [] ++ [line]))
      else files.get? path := by
  have lines : (append files active line).get? active = some (files.getD active [] ++ [line]) :=
    Dict.get?_set_self _ _ _
  cases full with
  | false => simp only [write, append, Dict.get?_set, Bool.false_eq_true, false_and, if_false]
  | true =>
    simp only [write, if_true, rotate, lines, true_and, Dict.get?_set, Dict.get?_erase]
    split
    · rfl
    · split
      · rfl
      · rename_i elsewhere
        rw [append, Dict.get?_set_of_ne _ elsewhere]

section Paths
variable (files : Dict K (List T)) {active rotated : K} (line : T) (full : Bool)

theorem write_active (apart : active ≠ rotated) :
    (write files active rotated line full).getD active [] =
      if full then [] else files.getD active [] ++ [line] := by
  rw [Dict.getD, write_get?, if_neg (fun both => apart both.2), if_pos rfl]
  cases full <;> rfl

theorem write_rotated (apart : active ≠ rotated) :
    (write files active rotated line full).getD rotated [] =
      if full then files.getD active [] ++ [line] else files.getD rotated [] := by
  rw [Dict.getD, write_get?, if_neg apart.symm]
  cases full with
  | true => simp
  | false => simp [Dict.getD]

end Paths

theorem getD_map {files : Dict K (List T)} {images : Dict K (List U)} {f : T → U}
    (same : ∀ path, images.get? path = (files.get? path).map (List.map f)) (path : K) :
    images.getD path [] = (files.getD path []).map f := by
  rw [Dict.getD, Dict.getD, same]
  cases files.get? path <;> rfl

theorem write_map {files : Dict K (List T)} {images : Dict K (List U)} {f : T → U}
    (same : ∀ path, images.get? path = (files.get? path).map (List.map f)) (active rotated : K)
    (line : T) (full : Bool) (path : K) :
    (write images active rotated (f line) full).get? path =
      ((write files active rotated line full).get? path).map (List.map f) := by
  have written : images.getD active [] ++ [f line] = (files.getD active [] ++ [line]).map f := by
    rw [getD_map same, List.map_append, List.map_singleton]
  rw [write_get?, write_get?, written]
  split
  · rfl
  · split
    · cases full <;> rfl
    · exact same path

/-- What the two files of a log of `size` lines a file hold of all lines written. -/
structure Holds (size : Nat) (written active rotated : List T) : Prop where
  latest : rotated ++ active <:+ written
  below : active.length < size
  enough : rotated ++ active = written ∨ size ≤ rotated.length

theorem holds_none {size : Nat} (positive : 0 < size) : Holds size ([] : List T) [] [] :=
  ⟨List.suffix_refl _, positive, Or.inl rfl⟩

section Writing
variable {size : Nat} {written active rotated : List T} (line : T)

theorem latest_concat (holds : Holds size written active rotated) :
    rotated ++ (active ++ [line]) <:+ written ++ [line] := by
  obtain ⟨older, split⟩ := holds.latest
  exact ⟨older, by rw [← split]; simp⟩

theorem Holds.appended (holds : Holds size written active rotated)
    (short : active.length + 1 < size) : Holds size (written ++ [line]) (active ++ [line]) rotated
    where
  latest := latest_concat line holds
  below := by
    rw [List.length_append, List.length_singleton]
    exact short
  enough := holds.enough.imp_left fun all => by rw [← all, List.append_assoc]

theorem Holds.moved (holds : Holds size written active rotated)
    (full : size ≤ active.length + 1) :
    Holds size (written ++ [line]) [] (active ++ [line]) where
  latest := by
    rw [List.append_nil]
    exact (List.suffix_append _ _).trans (latest_concat line holds)
  below := (Nat.zero_le _).trans_lt holds.below
  enough := by
    right
    rw [List.length_append, List.length_singleton]
    exact full

end Writing

theorem rtake_of_suffix {latest written : List T} {limit : Nat} (suffix : latest <:+ written)
    (enough : latest = written ∨ limit ≤ latest.length) :
    latest.rtake limit = written.rtake limit := by
  rcases enough with rfl | le
  · rfl
  · obtain ⟨older, rfl⟩ := suffix
    rw [List.rtake, List.rtake, List.length_append, List.drop_append,
      List.drop_of_length_le (show older.length ≤ older.length + latest.length - limit by omega),
      List.nil_append]
    congr 1
    omega

/-- Reading the active file, and the rotated one where that is too short, gives the last lines
    written. -/
theorem Holds.window {size limit : Nat} {written active rotated : List T}
    (holds : Holds size written active rotated) (le : limit ≤ size) :
    (if active.length < limit then rotated ++ active else active).rtake limit =
      written.rtake limit := by
  split
  · refine rtake_of_suffix holds.latest (holds.enough.imp_right fun block => ?_)
    rw [List.length_append]
    omega
  · rename_i enough
    exact rtake_of_suffix ((List.suffix_append _ _).trans holds.latest)
      (Or.inr (not_lt.mp enough))

end RotatedLog
