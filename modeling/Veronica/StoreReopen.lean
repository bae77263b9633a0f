import Veronica.RecordRefinement
import Veronica.Library.Runs

/- A FileStore closed and opened again on its directory. What `close` writes the constructor
   reads back, and nothing done later tells the new store from the old one. -/
namespace VeronicaReopen
open VeronicaTypes VeronicaStages VeronicaFileStore VeronicaRecords

inductive Action where
  | commit (o : RawOutcome)
  | setBudgetContext (ceilingUsd remainingUsd : ℚ)
  | close

def act (s : RecordStore) : Action → RecordStore
  | .commit o => (s.commit o).1
  | .setBudgetContext ceilingUsd remainingUsd => s.setBudgetContext ceilingUsd remainingUsd
  | .close => s.close

def opened (flushInterval : Nat) (maxLines : Int) : RecordStore := { flushInterval, maxLines }

/-- No budget context waits for a commit. -/
def Idle (s : RecordStore) : Prop := s.budgetCeiling = none ∧ s.budgetRemaining = none

section Encoding

theorem pyStem_statsPath (c : String) : pyStem (statsPath c) = c ++ "_stats" := by
  have characters : (statsPath c).toList = c.toList ++ "_stats".toList ++ ".json".toList := by
    rw [statsPath, String.toList_append, List.append_assoc]
    rfl
  have cut : (statsPath c).toList.rdropWhile (fun character => character ≠ '.') =
      c.toList ++ "_stats.".toList := by
    rw [characters, List.rdropWhile, List.reverse_append, List.reverse_append]
    show ('.' :: ("_stats".toList.reverse ++ c.toList.reverse)).reverse = _
    rw [List.reverse_cons, List.reverse_append, List.reverse_reverse, List.reverse_reverse,
      List.append_assoc]
    rfl
  have whole : (statsPath c).length = c.length + 11 := String.length_append _ _
  have short : (c.toList ++ "_stats.".toList).length = c.length + 7 := by
    rw [List.length_append, String.length_toList]
    rfl
  have last : (c.toList ++ "_stats.".toList).dropLast = c.toList ++ "_stats".toList := by
    rw [List.dropLast_append_of_ne_nil (by decide)]
    rfl
  unfold pyStem
  rw [cut, if_neg (by omega), last, String.ofList_append, String.ofList_toList,
    String.ofList_toList]

theorem removeSuffix_append (name suffix : String) :
    removeSuffix suffix (name ++ suffix) = name := by
  have ends : suffix.toList <:+ (name ++ suffix).toList := by
    rw [String.toList_append]
    exact List.suffix_append _ _
  rw [removeSuffix, if_pos ends, String.length_append, Nat.add_sub_cancel, String.toList_append,
    ← String.length_toList, List.take_left, String.ofList_toList]

/-- The chain id is got back from the name of its stats file, whatever its end. -/
theorem chainOfFile_statsPath (c : String) : chainOfFile (statsPath c) = some c := by
  have found : "_stats.json".toList <:+ (statsPath c).toList := by
    rw [statsPath, String.toList_append]
    exact List.suffix_append _ _
  rw [chainOfFile, if_pos found, pyStem_statsPath, removeSuffix_append]

variable (numerals : Numerals)

theorem floatsOf_floatsDoc (values : Dict String ℚ) :
    floatsOf numerals (floatsDoc values) = .ok values := by
  have each : (values.entries.map fun entry => (entry.1, PyVal.float (.finite entry.2))).mapM
      (fun entry => (safeFloat numerals entry.2 0).map fun q => (entry.1, q)) =
        .ok values.entries := by
    induction values.entries with
    | nil => rfl
    | cons entry rest ih =>
      rw [List.map_cons, List.mapM_cons, ih]
      rfl
  have same : Dict.ofEntries values.entries = values :=
    Dict.ext_entries (Dict.ofEntries_entries values.distinct)
  simp only [floatsOf, floatsDoc, each]
  exact congrArg Except.ok same

theorem natOf_nat (n : Nat) : natOf numerals (.int n) = .ok n := rfl

theorem fromDict_toDict (stats : ChainStats) :
    ChainStats.fromDict numerals stats.toDict = .ok stats := by
  unfold ChainStats.fromDict ChainStats.toDict
  simp [List.lookup_cons, floatsOf_floatsDoc, natOf_nat, safeFloat, PyVal.toFloat]
  rfl

end Encoding

section Closing

/-- Every stats file is that of a chain the store knows, and a chain it knows has a safe id. -/
structure Filed (s : RecordStore) : Prop where
  known : ∀ path doc, s.statsDocs.get? path = some doc →
    ∃ c stats, path = statsPath c ∧ s.chainStats.get? c = some stats
  safe : ∀ c stats, s.chainStats.get? c = some stats → isSafeChainId c = true

variable {s : RecordStore}

theorem close_eq (s : RecordStore) : s.close =
    { s with statsDocs :=
        s.snapshots.foldl (fun docs flush => docs.set flush.1 flush.2) s.statsDocs } := by
  unfold RecordStore.close
  induction s.snapshots generalizing s with
  | nil => rfl
  | cons flush rest ih => exact ih (s.writeStats flush)

/-- What `close` has written under a name: the statistics of the chain of that name. -/
theorem snapshots_lookup (s : RecordStore) (c : String) :
    s.snapshots.lookup (statsPath c) = (s.chainStats.get? c).map ChainStats.toDict := by
  unfold RecordStore.snapshots Dict.get?
  induction s.chainStats.entries with
  | nil => rfl
  | cons entry rest ih =>
    obtain ⟨d, stats⟩ := entry
    rw [List.map_cons, List.lookup_cons, List.lookup_cons, ih]
    by_cases here : c = d
    · rw [beq_iff_eq.mpr here, beq_iff_eq.mpr (statsPath_inj.mpr here)]
      rfl
    · rw [beq_eq_false_iff_ne.mpr here,
        beq_eq_false_iff_ne.mpr fun same => here (statsPath_inj.mp same)]

theorem snapshots_distinct (s : RecordStore) : (s.snapshots.map Prod.fst).Nodup := by
  have names : s.snapshots.map Prod.fst = s.chainStats.keys.map statsPath := by
    rw [RecordStore.snapshots, Dict.keys, List.map_map, List.map_map]
    rfl
  rw [names]
  exact s.chainStats.distinct.map fun _ _ => statsPath_inj.mp

theorem close_docs (s : RecordStore) (c : String) : s.close.statsDocs.get? (statsPath c) =
    ((s.chainStats.get? c).map ChainStats.toDict).or (s.statsDocs.get? (statsPath c)) := by
  rw [close_eq, ← snapshots_lookup]
  exact Dict.get?_foldl_set (snapshots_distinct s) s.statsDocs (statsPath c)

theorem snapshots_path {path : String} {doc : StatsDoc}
    (found : s.snapshots.lookup path = some doc) :
    ∃ c stats, path = statsPath c ∧ s.chainStats.get? c = some stats := by
  obtain ⟨entry, member, same⟩ := List.mem_map.mp (Dict.mem_of_lookup found)
  cases same
  exact ⟨entry.1, entry.2, rfl, Dict.get?_eq_some_iff.mpr member⟩

theorem filed_close (filed : Filed s) : Filed s.close := by
  have chains : s.close.chainStats = s.chainStats := by rw [close_eq]
  constructor
  case known =>
    intro path doc found
    rw [close_eq] at found
    rw [chains]
    rw [Dict.get?_foldl_set (snapshots_distinct s), Option.or_eq_some_iff] at found
    rcases found with written | ⟨_, before⟩
    · exact snapshots_path written
    · exact filed.known path doc before
  case safe =>
    rw [chains]
    exact filed.safe

theorem filed_accept (filed : Filed s) {o : RawOutcome} (safe : isSafeChainId o.chainId = true) :
    Filed (s.accept o) := by
  obtain ⟨stats, counted⟩ : ∃ stats, (s.accept o).chainStats.get? o.chainId = some stats := by
    rw [accept_chainStats]
    exact ⟨_, Dict.get?_set_self _ _ _⟩
  have known : ∀ path doc, s.statsDocs.get? path = some doc →
      ∃ c stats, path = statsPath c ∧ (s.accept o).chainStats.get? c = some stats := by
    intro path doc found
    obtain ⟨c, earlier, rfl, among⟩ := filed.known path doc found
    by_cases own : c = o.chainId
    · subst own
      exact ⟨o.chainId, stats, rfl, counted⟩
    · rw [accept_chainStats]
      exact ⟨c, earlier, rfl, (Dict.get?_set_of_ne _ own).trans among⟩
  constructor
  case known =>
    rw [accept_statsDocs]
    unfold RecordStore.flushData
    split
    · rename_i flush due
      dsimp only at due
      split at due
      · cases due
        exact Dict.forall_set ⟨o.chainId, stats, rfl, counted⟩ known
      · cases due
    · exact known
  case safe =>
    rw [accept_chainStats]
    exact Dict.forall_set safe filed.safe

theorem commit_cases (s : RecordStore) (o : RawOutcome) :
    (∃ e, s.refusal o.chainId = some e ∧ s.commit o = (s, .error e)) ∨
    (s.refusal o.chainId = none ∧ isSafeChainId o.chainId = true ∧
      s.commit o = (s.accept o, .ok ())) := by
  rw [commit_floats]
  cases refusal : s.refusal o.chainId with
  | some e => exact Or.inl ⟨e, rfl, rfl⟩
  | none =>
    refine Or.inr ⟨rfl, ?_, rfl⟩
    unfold RecordStore.refusal at refusal
    split at refusal
    · cases refusal
    · rename_i safe
      exact Bool.not_eq_false _ ▸ safe

theorem filed_act (filed : Filed s) (a : Action) : Filed (act s a) := by
  cases a with
  | commit o =>
    rcases commit_cases s o with ⟨e, _, eq⟩ | ⟨_, safe, eq⟩
    · rw [act, eq]
      exact filed
    · rw [act, eq]
      exact filed_accept filed safe
  | setBudgetContext ceilingUsd remainingUsd => exact ⟨filed.known, filed.safe⟩
  | close => exact filed_close filed

theorem filed_run (flushInterval : Nat) (maxLines : Int) (actions : List Action) :
    Filed (Runs.run act (opened flushInterval maxLines) actions) := by
  have start : Filed (opened flushInterval maxLines) := by
    constructor
    case known =>
      intro path doc found
      cases found
    case safe =>
      intro c stats found
      cases found
  have keep : ∀ s a, Filed s → True → Filed (act s a) := fun s a filed _ => filed_act filed a
  exact Runs.run_invariant keep start (Runs.eachStep_true _ actions)

end Closing

section Loading
variable (numerals : Numerals)

theorem loadEntry_toDict (loaded : Dict String ChainStats) {c : String} (stats : ChainStats)
    (safe : isSafeChainId c = true) :
    loadEntry numerals loaded (statsPath c, stats.toDict) = .ok (loaded.set c stats) := by
  simp only [loadEntry, chainOfFile_statsPath, safe, if_true, fromDict_toDict]

theorem load_entries {known : String → Option ChainStats} {entries : List (String × StatsDoc)}
    (each : ∀ e ∈ entries, ∃ c stats, e = (statsPath c, stats.toDict) ∧
      isSafeChainId c = true ∧ known c = some stats) (start : Dict String ChainStats) :
    ∃ loaded, entries.foldlM (loadEntry numerals) start = .ok loaded ∧
      ∀ c, loaded.get? c =
        if statsPath c ∈ entries.map Prod.fst then known c else start.get? c := by
  induction entries generalizing start with
  | nil => exact ⟨start, rfl, fun c => rfl⟩
  | cons e rest ih =>
    obtain ⟨d, stats, rfl, safe, found⟩ := each e List.mem_cons_self
    obtain ⟨loaded, read, lookups⟩ := ih (fun e member => each e (List.mem_cons_of_mem _ member))
      (start.set d stats)
    refine ⟨loaded, ?_, fun c => ?_⟩
    · rw [List.foldlM_cons, loadEntry_toDict numerals start stats safe]
      exact read
    · rw [lookups c, List.map_cons, Dict.get?_set]
      by_cases own : c = d
      · subst own
        simp [found]
      · have apart : statsPath c ≠ statsPath d := fun same => own (statsPath_inj.mp same)
        simp only [own, apart, if_false, List.mem_cons, false_or]

theorem reopen_closed {s : RecordStore} (filed : Filed s) (flushInterval : Nat)
    (maxLines : Int) :
    ∃ t, s.close.reopen numerals flushInterval maxLines = .ok t ∧ t.lines = s.lines ∧
      t.maxLines = maxLines ∧ Idle t ∧ ∀ c, t.chainStats.get? c = s.chainStats.get? c := by
  have each : ∀ e ∈ s.close.statsDocs.entries, ∃ c stats, e = (statsPath c, stats.toDict) ∧
      isSafeChainId c = true ∧ s.chainStats.get? c = some stats := by
    rintro ⟨path, doc⟩ member
    have found := Dict.get?_eq_some_iff.mpr member
    obtain ⟨c, stats, rfl, known⟩ := (filed_close filed).known path doc found
    have known : s.chainStats.get? c = some stats := by
      rwa [close_eq] at known
    rw [close_docs, known] at found
    cases found
    exact ⟨c, stats, rfl, filed.safe c stats known, known⟩
  obtain ⟨loaded, read, lookups⟩ := load_entries numerals each ∅
  refine ⟨_, by rw [RecordStore.reopen, loadStats, read]; rfl, ?_, rfl, ⟨rfl, rfl⟩, fun c => ?_⟩
  · rw [close_eq]
  · show loaded.get? c = s.chainStats.get? c
    rw [lookups c]
    split
    · rfl
    · rename_i absent
      have none := Dict.get?_eq_none_iff.mpr absent
      rw [close_docs, Option.or_eq_none_iff, Option.map_eq_none_iff] at none
      exact none.1.symm

end Loading

section Telling
variable {s t : RecordStore}

/-- Two stores that no history and no later commit tells apart. -/
structure Alike (s t : RecordStore) : Prop where
  lines : s.lines = t.lines
  maxLines : s.maxLines = t.maxLines
  budgetCeiling : s.budgetCeiling = t.budgetCeiling
  budgetRemaining : s.budgetRemaining = t.budgetRemaining
  chainStats : ∀ c, s.chainStats.get? c = t.chainStats.get? c

theorem Alike.statsOf (alike : Alike s t) (c : String) : s.statsOf c = t.statsOf c := by
  rw [RecordStore.statsOf, RecordStore.statsOf, Dict.getD, Dict.getD, alike.chainStats]

theorem Alike.fills (alike : Alike s t) (c : String) : s.fills c = t.fills c := by
  rw [RecordStore.fills, RecordStore.fills, alike.maxLines, alike.statsOf]

theorem Alike.refusal (alike : Alike s t) (c : String) : s.refusal c = t.refusal c := by
  have size : s.chainStats.size = t.chainStats.size :=
    Dict.size_eq_of_get? fun c => by rw [alike.chainStats]
  rw [RecordStore.refusal, RecordStore.refusal, alike.chainStats, size]

theorem Alike.updatedStats (alike : Alike s t) (r : OutcomeRecord) :
    s.updatedStats r = t.updatedStats r := by
  rw [RecordStore.updatedStats, RecordStore.updatedStats, alike.statsOf, alike.budgetCeiling,
    alike.budgetRemaining]

theorem Alike.buildHistory (alike : Alike s t) (c : String) (limit : Int) :
    s.buildHistory c limit = t.buildHistory c limit := by
  simp only [RecordStore.buildHistory, RecordStore.loadRecentOutcomes, RecordStore.readOutcomes,
    alike.lines, alike.statsOf]

theorem Alike.accept (alike : Alike s t) (o : RawOutcome) : Alike (s.accept o) (t.accept o) := by
  obtain ⟨_, maxLines, ceiling, remaining⟩ := accept_settings s o
  obtain ⟨_, maxLines', ceiling', remaining'⟩ := accept_settings t o
  constructor
  case lines => rw [accept_lines, accept_lines, alike.lines, alike.fills]
  case maxLines => rw [maxLines, maxLines', alike.maxLines]
  case budgetCeiling => rw [ceiling, ceiling']
  case budgetRemaining => rw [remaining, remaining']
  case chainStats =>
    intro c
    rw [accept_chainStats, accept_chainStats, RecordStore.locked, RecordStore.locked,
      Dict.get?_set, Dict.get?_set, alike.updatedStats, alike.fills, alike.chainStats]

theorem Alike.commit (alike : Alike s t) (o : RawOutcome) :
    Alike (s.commit o).1 (t.commit o).1 ∧ (s.commit o).2 = (t.commit o).2 := by
  unfold RecordStore.commit
  rw [alike.refusal]
  cases t.refusal o.chainId with
  | some e => exact ⟨alike, rfl⟩
  | none => exact ⟨alike.accept o, rfl⟩

theorem alike_close (s : RecordStore) : Alike s.close s := by
  rw [close_eq]
  exact ⟨rfl, rfl, rfl, rfl, fun c => rfl⟩

theorem alike_act (s t : RecordStore) (a : Action) (alike : Alike s t) :
    Alike (act s a) (act t a) := by
  cases a with
  | commit o => exact (alike.commit o).1
  | setBudgetContext ceilingUsd remainingUsd =>
    exact ⟨alike.lines, alike.maxLines, rfl, rfl, alike.chainStats⟩
  | close =>
    rw [act, act, close_eq, close_eq]
    exact ⟨alike.lines, alike.maxLines, alike.budgetCeiling, alike.budgetRemaining,
      alike.chainStats⟩

end Telling

theorem act_maxLines (s : RecordStore) (a : Action) : (act s a).maxLines = s.maxLines := by
  cases a with
  | commit o =>
    rcases commit_cases s o with ⟨e, _, eq⟩ | ⟨_, _, eq⟩
    · rw [act, eq]
    · rw [act, eq]
      exact (accept_settings s o).2.1
  | setBudgetContext ceilingUsd remainingUsd => rfl
  | close => exact (alike_close s).maxLines

theorem run_maxLines (s : RecordStore) (actions : List Action) :
    (Runs.run act s actions).maxLines = s.maxLines := by
  have keep : ∀ t a, t.maxLines = s.maxLines → True → (act t a).maxLines = s.maxLines :=
    fun t a same _ => (act_maxLines t a).trans same
  exact Runs.run_invariant (I := fun t => t.maxLines = s.maxLines) keep rfl
    (Runs.eachStep_true s actions)

/-- What can be seen of two stores is the same: every history, the answer to every commit,
    whether it rotates, and the lines in every file. -/
structure SeenAlike (s t : RecordStore) : Prop where
  buildHistory : ∀ c limit, s.buildHistory c limit = t.buildHistory c limit
  commit : ∀ o, (s.commit o).2 = (t.commit o).2
  fills : ∀ c, s.fills c = t.fills c
  lines : s.lines = t.lines

def outcomeOn (chainId : String) : RawOutcome where
  stepId := "step"
  requestId := "request"
  chainId := chainId
  kind := .llm
  status := .ok
  costUsd := .finite (1 / 2)
  tokensIn := 10
  tokensOut := 10
  elapsedMs := .finite 10
  model := some "model"
  events := []
  timestampMs := .finite 1740000000000

end VeronicaReopen
