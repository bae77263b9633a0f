import Veronica.FileStore
import Veronica.Library.Runs

/- Which chains a commit can be seen from. The rotated file of a chain is the active file of the
   chain whose id has ".1" at its end. -/
namespace VeronicaChainIsolation
open VeronicaTypes VeronicaStages VeronicaFileStore FileStore

inductive Action where
  | commit (o : FileOutcome)
  | setBudgetContext (ceilingUsd remainingUsd : ℚ)
  | close
  | reopen (flushInterval : Nat) (maxLines : Int)

def act (fs : FileStore) : Action → FileStore
  | .commit o => (fs.commit o).1
  | .setBudgetContext ceilingUsd remainingUsd => fs.setBudgetContext ceilingUsd remainingUsd
  | .close => fs.close
  | .reopen flushInterval maxLines => fs.reopen flushInterval maxLines

def openedIn (flushInterval : Nat) (maxLines : Int) : FileStore := { flushInterval, maxLines }

/-- No chain's history shows an outcome of another chain. -/
def OwnOnly (fs : FileStore) : Prop :=
  ∀ c limit view, fs.buildHistory c limit = .ok view → ∀ o ∈ view.lastN, o.chainId = c

/-- A commit leaves every other chain's history as it was. -/
def Isolated (fs : FileStore) (a : Action) : Prop :=
  OwnOnly (act fs a) ∧ ∀ o, a = .commit o → ∀ c limit, c ≠ o.chainId →
    (act fs a).buildHistory c limit = fs.buildHistory c limit

/-- A commit that rotates its file is on a chain whose id takes no ".1"; one that does not
    rotate is not on the ".1" of a chain with fewer than 50,000 outcomes in its active file. -/
def Apart (fs : FileStore) : Action → Prop
  | .commit o => fs.refusal o.chainId = none →
    if fs.Rotates o.chainId then isSafeChainId (o.chainId ++ ".1") = false
    else ∀ c, isSafeChainId c → o.chainId = c ++ ".1" →
      maxHistoryLimit ≤ (fs.readOutcomes (activePath c)).length
  | _ => True

/-- Active files hold their own chain's outcomes, and so do rotated files that are read. -/
structure Sorted (fs : FileStore) : Prop where
  active : ∀ c, isSafeChainId c → ∀ o ∈ fs.readOutcomes (activePath c), o.chainId = c
  rotated : ∀ c, isSafeChainId c →
    (∀ o ∈ fs.readOutcomes (rotatedPath c), o.chainId = c) ∨
    maxHistoryLimit ≤ (fs.readOutcomes (activePath c)).length

theorem mem_lastOf {T : Type} {limit : Nat} {outcomes : List T} {o : T}
    (member : o ∈ lastOf limit outcomes) : o ∈ outcomes :=
  List.mem_of_mem_drop member

/-- The limit `build_history` works with. -/
def clamped (limit : Int) : Nat := (max 1 (min limit maxHistoryLimit)).toNat

theorem clamped_le (limit : Int) : clamped limit ≤ maxHistoryLimit := by
  unfold clamped maxHistoryLimit
  omega

theorem buildHistory_ok {fs : FileStore} {c : String} {limit : Int} {view : FileHistoryView}
    (ok : fs.buildHistory c limit = .ok view) :
    isSafeChainId c ∧ view.lastN = fs.loadRecentOutcomes c (clamped limit) := by
  unfold FileStore.buildHistory at ok
  split at ok
  · rename_i safe
    cases ok
    exact ⟨safe, rfl⟩
  · cases ok

theorem buildHistory_safe (fs : FileStore) {c : String} (safe : isSafeChainId c) (limit : Int) :
    ∃ view, fs.buildHistory c limit = .ok view ∧
      view.lastN = fs.loadRecentOutcomes c (clamped limit) := by
  simp only [FileStore.buildHistory, safe, if_true]
  exact ⟨_, rfl, rfl⟩

theorem sorted_ownOnly {fs : FileStore} (sorted : Sorted fs) : OwnOnly fs := by
  intro c limit view ok o member
  obtain ⟨safe, lastN⟩ := buildHistory_ok ok
  rw [lastN] at member
  unfold FileStore.loadRecentOutcomes at member
  have among := mem_lastOf member
  split at among
  · rename_i short
    rcases List.mem_append.mp among with older | recent
    · rcases sorted.rotated c safe with own | long
      · exact own o older
      · have := clamped_le limit
        omega
    · exact sorted.active c safe o recent
  · exact sorted.active c safe o among

/-- Two stores show a chain the same history when its statistics and its active file agree, and
    its rotated file does or is not read. -/
theorem buildHistory_congr {fs fs' : FileStore} {c : String}
    (stats : fs'.statsOf c = fs.statsOf c)
    (active : fs'.readOutcomes (activePath c) = fs.readOutcomes (activePath c))
    (rotated : fs'.readOutcomes (rotatedPath c) = fs.readOutcomes (rotatedPath c) ∨
      maxHistoryLimit ≤ (fs.readOutcomes (activePath c)).length) (limit : Int) :
    fs'.buildHistory c limit = fs.buildHistory c limit := by
  have loaded : fs'.loadRecentOutcomes c (clamped limit) =
      fs.loadRecentOutcomes c (clamped limit) := by
    simp only [FileStore.loadRecentOutcomes, active]
    split
    · rename_i short
      rcases rotated with same | long
      · rw [same]
      · have := clamped_le limit
        omega
    · rfl
  unfold clamped at loaded
  simp only [FileStore.buildHistory, stats, loaded]

theorem readOutcomes_unfold {fs fs' : FileStore} (files : fs'.files = fs.files) (path : String) :
    fs'.readOutcomes path = fs.readOutcomes path := by
  simp only [FileStore.readOutcomes, files]

theorem sorted_of_files {fs fs' : FileStore} (sorted : Sorted fs) (files : fs'.files = fs.files) :
    Sorted fs' := by
  constructor
  case active =>
    intro c safe
    rw [readOutcomes_unfold files]
    exact sorted.active c safe
  case rotated =>
    intro c safe
    rw [readOutcomes_unfold files, readOutcomes_unfold files]
    exact sorted.rotated c safe

theorem own_append {outcomes : List FileOutcome} {o : FileOutcome}
    (own : ∀ p ∈ outcomes, p.chainId = o.chainId) :
    ∀ p ∈ outcomes ++ [readBack o], p.chainId = o.chainId := by
  intro p member
  rcases List.mem_append.mp member with earlier | last
  · exact own p earlier
  · rw [List.mem_singleton.mp last]
    rfl

section Kept
variable {fs : FileStore} {o : FileOutcome}

theorem kept_active (kept : ¬ fs.Rotates o.chainId) {c : String} (other : c ≠ o.chainId) :
    (fs.accept o).readOutcomes (activePath c) = fs.readOutcomes (activePath c) := by
  rw [accept_kept kept, if_neg (fun same => other (activePath_inj.mp same))]

theorem kept_rotated (kept : ¬ fs.Rotates o.chainId)
    (apart : ∀ c, isSafeChainId c → o.chainId = c ++ ".1" →
      maxHistoryLimit ≤ (fs.readOutcomes (activePath c)).length) {c : String}
    (safe : isSafeChainId c) :
    (fs.accept o).readOutcomes (rotatedPath c) = fs.readOutcomes (rotatedPath c) ∨
      maxHistoryLimit ≤ (fs.readOutcomes (activePath c)).length := by
  rw [accept_kept kept]
  split
  · rename_i same
    exact Or.inr (apart c safe ((activePath_eq_rotatedPath_iff c o.chainId).mp same.symm))
  · exact Or.inl rfl

theorem kept_longer (kept : ¬ fs.Rotates o.chainId) (c : String) :
    (fs.readOutcomes (activePath c)).length ≤
      ((fs.accept o).readOutcomes (activePath c)).length := by
  by_cases same : c = o.chainId
  · rw [same, accept_kept kept, if_pos rfl, List.length_append]
    exact Nat.le_add_right _ _
  · rw [kept_active kept same]

theorem accept_kept_sorted (sorted : Sorted fs) (safe : isSafeChainId o.chainId)
    (kept : ¬ fs.Rotates o.chainId)
    (apart : ∀ c, isSafeChainId c → o.chainId = c ++ ".1" →
      maxHistoryLimit ≤ (fs.readOutcomes (activePath c)).length) : Sorted (fs.accept o) := by
  constructor
  case active =>
    intro c safeC
    by_cases same : c = o.chainId
    · rw [same, accept_kept kept, if_pos rfl]
      exact own_append (sorted.active o.chainId safe)
    · rw [kept_active kept same]
      exact sorted.active c safeC
  case rotated =>
    intro c safeC
    rcases kept_rotated kept apart safeC with unchanged | long
    · rw [unchanged]
      rcases sorted.rotated c safeC with own | long
      · exact Or.inl own
      · exact Or.inr (long.trans (kept_longer kept c))
    · exact Or.inr (long.trans (kept_longer kept c))

end Kept

section Rotated
variable {fs : FileStore} {o : FileOutcome}

theorem rotated_active (rotates : fs.Rotates o.chainId)
    (apart : isSafeChainId (o.chainId ++ ".1") = false) {c : String} (safe : isSafeChainId c)
    (other : c ≠ o.chainId) :
    (fs.accept o).readOutcomes (activePath c) = fs.readOutcomes (activePath c) := by
  have elsewhere : activePath c ≠ rotatedPath o.chainId := by
    intro same
    rw [(activePath_eq_rotatedPath_iff o.chainId c).mp same, apart] at safe
    cases safe
  rw [accept_rotated rotates, if_neg elsewhere,
    if_neg (fun same => other (activePath_inj.mp same))]

theorem rotated_rotated (sorted : Sorted fs) (safeO : isSafeChainId o.chainId)
    (rotates : fs.Rotates o.chainId) {c : String} (safe : isSafeChainId c)
    (other : c ≠ o.chainId) :
    (fs.accept o).readOutcomes (rotatedPath c) = fs.readOutcomes (rotatedPath c) ∨
      maxHistoryLimit ≤ (fs.readOutcomes (activePath c)).length := by
  rw [accept_rotated rotates, if_neg (fun same => other (rotatedPath_inj.mp same))]
  split
  · rename_i shared
    rcases sorted.rotated c safe with own | long
    · left
      symm
      apply List.eq_nil_iff_forall_not_mem.mpr
      intro p member
      have mine := own p member
      rw [shared] at member
      exact other (mine.symm.trans (sorted.active o.chainId safeO p member))
    · exact Or.inr long
  · exact Or.inl rfl

theorem accept_rotated_sorted (sorted : Sorted fs) (safe : isSafeChainId o.chainId)
    (rotates : fs.Rotates o.chainId) (apart : isSafeChainId (o.chainId ++ ".1") = false) :
    Sorted (fs.accept o) := by
  constructor
  case active =>
    intro c safeC
    by_cases same : c = o.chainId
    · rw [same, accept_rotated rotates, if_neg (activePath_ne_rotatedPath _), if_pos rfl]
      simp
    · rw [rotated_active rotates apart safeC same]
      exact sorted.active c safeC
  case rotated =>
    intro c safeC
    by_cases same : c = o.chainId
    · left
      rw [same, accept_rotated rotates, if_pos rfl]
      exact own_append (sorted.active o.chainId safe)
    · rw [rotated_active rotates apart safeC same]
      rcases rotated_rotated sorted safe rotates safeC same with unchanged | long
      · rw [unchanged]
        exact sorted.rotated c safeC
      · exact Or.inr long

end Rotated

theorem accept_history {fs : FileStore} {o : FileOutcome} {c : String} (other : c ≠ o.chainId)
    (active : isSafeChainId c →
      (fs.accept o).readOutcomes (activePath c) = fs.readOutcomes (activePath c))
    (rotated : isSafeChainId c →
      (fs.accept o).readOutcomes (rotatedPath c) = fs.readOutcomes (rotatedPath c) ∨
        maxHistoryLimit ≤ (fs.readOutcomes (activePath c)).length) (limit : Int) :
    (fs.accept o).buildHistory c limit = fs.buildHistory c limit := by
  by_cases safe : isSafeChainId c
  · exact buildHistory_congr (accept_statsOf_other fs o other) (active safe) (rotated safe) limit
  · simp only [FileStore.buildHistory, safe, if_false, Bool.false_eq_true]

theorem apart_isolated {fs : FileStore} (sorted : Sorted fs) {a : Action} (apart : Apart fs a) :
    Sorted (act fs a) ∧ Isolated fs a := by
  have quiet : (act fs a).files = fs.files → (∀ o, a ≠ .commit o) →
      Sorted (act fs a) ∧ Isolated fs a := by
    intro files other
    have sorted' : Sorted (act fs a) := sorted_of_files sorted files
    exact ⟨sorted', sorted_ownOnly sorted', fun o same => absurd same (other o)⟩
  cases a with
  | commit o =>
    by_cases accepted : fs.refusal o.chainId = none
    · have safe := refusal_none_safe accepted
      have stored : Sorted (fs.accept o) ∧ ∀ c limit, c ≠ o.chainId →
          (fs.accept o).buildHistory c limit = fs.buildHistory c limit := by
        have condition := apart accepted
        split at condition
        · rename_i rotates
          refine ⟨accept_rotated_sorted sorted safe rotates condition, ?_⟩
          intro c limit other
          exact accept_history other
            (fun safeC => rotated_active rotates condition safeC other)
            (fun safeC => rotated_rotated sorted safe rotates safeC other) limit
        · rename_i kept
          refine ⟨accept_kept_sorted sorted safe kept condition, ?_⟩
          intro c limit other
          exact accept_history other (fun _ => kept_active kept other)
            (kept_rotated kept condition) limit
      have eq : act fs (.commit o) = fs.accept o := commit_accepted accepted
      rw [Isolated, eq]
      refine ⟨stored.1, sorted_ownOnly stored.1, ?_⟩
      intro o' same
      cases same
      exact stored.2
    · have eq : act fs (.commit o) = fs := commit_refused accepted
      rw [Isolated, eq]
      exact ⟨sorted, sorted_ownOnly sorted, fun _ _ _ _ _ => rfl⟩
  | setBudgetContext ceilingUsd remainingUsd => exact quiet rfl (by simp)
  | close => exact quiet rfl (by simp)
  | reopen flushInterval maxLines => exact quiet rfl (by simp)

theorem last_shown {fs : FileStore} {c : String} {older : List FileOutcome} {o : FileOutcome}
    (rotated : fs.readOutcomes (rotatedPath c) = older ++ [o])
    (short : (fs.readOutcomes (activePath c)).length < maxHistoryLimit) :
    o ∈ fs.loadRecentOutcomes c maxHistoryLimit := by
  simp only [FileStore.loadRecentOutcomes, if_pos short, rotated, lastOf]
  rw [List.append_assoc, List.singleton_append]
  apply List.mem_of_mem_drop (i := older.length -
    ((older ++ o :: fs.readOutcomes (activePath c)).length - maxHistoryLimit))
  rw [List.drop_drop]
  have position : (older ++ o :: fs.readOutcomes (activePath c)).length - maxHistoryLimit +
      (older.length - ((older ++ o :: fs.readOutcomes (activePath c)).length - maxHistoryLimit)) =
        older.length := by
    simp only [List.length_append, List.length_cons]
    omega
  rw [position, List.drop_left]
  exact List.mem_cons_self

section Shown
variable {fs : FileStore} {o : FileOutcome} (own : OwnOnly (fs.accept o))

include own

/-- A chain of the rotated file's name would be shown the outcome that was moved there. -/
theorem rotates_apart (rotates : fs.Rotates o.chainId) :
    isSafeChainId (o.chainId ++ ".1") = false := by
  cases collides : isSafeChainId (o.chainId ++ ".1") with
  | false => rfl
  | true =>
    exfalso
    have file : (fs.accept o).readOutcomes (activePath (o.chainId ++ ".1")) =
        fs.readOutcomes (activePath o.chainId) ++ [readBack o] := by
      rw [(activePath_eq_rotatedPath_iff o.chainId _).mpr rfl, accept_rotated rotates, if_pos rfl]
    obtain ⟨view, shown, lastN⟩ := buildHistory_safe (fs.accept o) collides 1
    have one : clamped 1 = 1 := rfl
    have member : readBack o ∈ view.lastN := by
      rw [lastN, FileStore.loadRecentOutcomes, file, one]
      simp [lastOf]
    have mine : (readBack o).chainId = o.chainId ++ ".1" :=
      own _ 1 view shown (readBack o) member
    exact ne_append_dot_one o.chainId mine

/-- A chain whose rotated file is the active file of the commit would be shown its outcome. -/
theorem kept_apart (kept : ¬ fs.Rotates o.chainId) {c : String} (safe : isSafeChainId c)
    (shared : o.chainId = c ++ ".1") :
    maxHistoryLimit ≤ (fs.readOutcomes (activePath c)).length := by
  by_contra short
  have other : c ≠ o.chainId := by
    intro same
    rw [same] at shared
    exact ne_append_dot_one _ shared
  have file : (fs.accept o).readOutcomes (rotatedPath c) =
      fs.readOutcomes (activePath o.chainId) ++ [readBack o] := by
    rw [← (activePath_eq_rotatedPath_iff c o.chainId).mpr shared, accept_kept kept, if_pos rfl]
  obtain ⟨view, shown, lastN⟩ := buildHistory_safe (fs.accept o) safe maxHistoryLimit
  have member : readBack o ∈ view.lastN := by
    rw [lastN]
    refine last_shown file ?_
    rw [kept_active kept other]
    omega
  have mine : (readBack o).chainId = c := own c _ view shown (readBack o) member
  exact other mine.symm

end Shown

/-- An isolated action meets the condition: the two names of one file would show it elsewhere. -/
theorem isolated_apart {fs : FileStore} {a : Action} (isolated : Isolated fs a) :
    Apart fs a := by
  cases a with
  | commit o =>
    intro accepted
    obtain ⟨own, _⟩ := isolated
    have eq : act fs (.commit o) = fs.accept o := commit_accepted accepted
    rw [eq] at own
    split
    · rename_i rotates
      exact rotates_apart own rotates
    · rename_i kept
      intro c safe shared
      exact kept_apart own kept safe shared
  | setBudgetContext ceilingUsd remainingUsd => trivial
  | close => trivial
  | reopen flushInterval maxLines => trivial

/-- All commits of a run are isolated exactly when each of them keeps to its own files. -/
theorem chains_isolated_iff (flushInterval : Nat) (maxLines : Int) (actions : List Action) :
    Runs.EachStep act Isolated (openedIn flushInterval maxLines) actions ↔
      Runs.EachStep act Apart (openedIn flushInterval maxLines) actions := by
  have first : Sorted (openedIn flushInterval maxLines) := by
    constructor
    case active => intro c _ o member; simp [openedIn, FileStore.readOutcomes, Dict.getD] at member
    case rotated =>
      intro c _
      left
      intro o member
      simp [openedIn, FileStore.readOutcomes, Dict.getD] at member
  exact Runs.eachStep_exact
    (fun fs a sorted _ isolated => (apart_isolated sorted (isolated_apart isolated)).1)
    (fun fs a sorted _ => ⟨isolated_apart, fun apart => (apart_isolated sorted apart).2⟩)
    first (Runs.eachStep_true _ _)

def lookup (chainId : String) : FileOutcome where
  stepId := "s1"
  requestId := "r1"
  chainId
  kind := .tool
  status := .ok
  costUsd := .finite 0
  tokensIn := 0
  tokensOut := 0
  elapsedMs := .finite 1
  timestampMs := 0

/-- The chain "a" has run nothing, and its history shows the step of the chain "a.1". -/
theorem dotted_chain_seen :
    ¬ Runs.EachStep act Isolated (openedIn 10 10000) [.commit (lookup "a.1")] := by
  intro isolated
  obtain ⟨⟨own, _⟩, _⟩ := isolated
  have shown : ∃ view, (act (openedIn 10 10000) (.commit (lookup "a.1"))).buildHistory "a" 50 =
      .ok view ∧ (readBack (lookup "a.1")) ∈ view.lastN := by
    refine ⟨_, rfl, ?_⟩
    exact List.mem_singleton.mpr rfl
  obtain ⟨view, ok, member⟩ := shown
  have mine : "a.1" = "a" := own "a" 50 view ok _ member
  exact absurd mine (by decide)

end VeronicaChainIsolation
