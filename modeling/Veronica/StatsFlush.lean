import Veronica.StoreReopen
import Veronica.Library.Runs

/- Threads on one FileStore. A commit, or a close, takes its snapshots of the statistics under
   the lock and writes them to their files when it has left it, in its own time. -/
namespace VeronicaFlush
open VeronicaTypes VeronicaStages VeronicaFileStore VeronicaRecords VeronicaReopen

/-- `writes` is what each thread has still to write before it can start another call. -/
structure Threads where
  store : RecordStore
  writes : Dict Nat (List FlushData) := ∅

inductive Action where
  | commit (thread : Nat) (o : RawOutcome)
  | setBudgetContext (thread : Nat) (ceilingUsd remainingUsd : ℚ)
  | close (thread : Nat)
  | write (thread : Nat)

namespace Threads

def writesOf (s : Threads) (thread : Nat) : List FlushData := s.writes.getD thread []

def call (s : Threads) (thread : Nat) (store : RecordStore) (flushes : List FlushData) :
    Threads :=
  if (s.writesOf thread).isEmpty then { store, writes := s.writes.set thread flushes } else s

end Threads

def act (s : Threads) : Action → Threads
  | .commit thread o =>
    match s.store.refusal o.chainId with
    | some _ => s
    | none => s.call thread (s.store.locked o) (s.store.flushData o).toList
  | .setBudgetContext thread ceilingUsd remainingUsd =>
    s.call thread (s.store.setBudgetContext ceilingUsd remainingUsd) []
  | .close thread => s.call thread s.store s.store.snapshots
  | .write thread =>
    match s.writesOf thread with
    | [] => s
    | flush :: later =>
      { store := s.store.writeStats flush, writes := s.writes.set thread later }

/-- The commits a document counts. -/
def totalCommits (doc : StatsDoc) : Int :=
  match doc.lookup "total_commits" with
  | some (.int n) => n
  | _ => 0

/-- The commits recorded in a chain's stats file, none where there is no file. -/
def recorded (s : Threads) (chainId : String) : Int :=
  ((s.store.statsDocs.get? (statsPath chainId)).map totalCommits).getD 0

def NotBackwards (s t : Threads) : Prop := ∀ c, recorded s c ≤ recorded t c

def Waiting (s : Threads) (flush : FlushData) : Prop :=
  ∃ thread, flush ∈ s.writesOf thread

/-- No snapshot that waits counts fewer commits of its chain than the first of these. -/
def Foremost (s : Threads) : List FlushData → Prop
  | [] => True
  | flush :: _ => ∀ e ∈ s.writes.entries, ∀ other ∈ e.2, other.1 = flush.1 →
      totalCommits flush.2 ≤ totalCommits other.2

/-- No snapshot is written while one of the same chain that counts fewer commits waits. -/
def InTurn (s : Threads) : Action → Prop
  | .write thread => Foremost s (s.writesOf thread)
  | _ => True

instance decidableForemost (s : Threads) : ∀ flushes, Decidable (Foremost s flushes)
  | [] => inferInstanceAs (Decidable True)
  | _ :: _ => inferInstanceAs (Decidable (∀ e ∈ s.writes.entries, _))

instance decidableInTurn (s : Threads) : ∀ a, Decidable (InTurn s a)
  | .commit _ _ | .setBudgetContext _ _ _ | .close _ => inferInstanceAs (Decidable True)
  | .write thread => decidableForemost s (s.writesOf thread)

/-- Nothing counts more commits than the store itself, and no snapshot that waits counts fewer
    than its file. -/
structure Queued (s : Threads) : Prop where
  files : ∀ c, recorded s c ≤ (s.store.statsOf c).totalCommits
  taken : ∀ flush, Waiting s flush → ∀ c, flush.1 = statsPath c →
    totalCommits flush.2 ≤ (s.store.statsOf c).totalCommits
  ahead : ∀ flush, Waiting s flush → ∀ c, flush.1 = statsPath c →
    recorded s c ≤ totalCommits flush.2

section Steps
variable {s : Threads} {thread : Nat}

theorem writesOf_set (s : Threads) (store : RecordStore) (thread other : Nat)
    (flushes : List FlushData) :
    Threads.writesOf { store, writes := s.writes.set thread flushes } other =
      if other = thread then flushes else s.writesOf other := by
  rw [Threads.writesOf, Dict.getD, Dict.get?_set]
  split <;> rfl

theorem waiting_iff (flush : FlushData) :
    Waiting s flush ↔ ∃ e ∈ s.writes.entries, flush ∈ e.2 := by
  constructor
  · rintro ⟨thread, member⟩
    rw [Threads.writesOf, Dict.getD] at member
    cases found : s.writes.get? thread with
    | none =>
      rw [found] at member
      cases member
    | some flushes =>
      rw [found] at member
      exact ⟨(thread, flushes), Dict.get?_eq_some_iff.mp found, member⟩
  · rintro ⟨⟨thread, flushes⟩, entry, member⟩
    refine ⟨thread, ?_⟩
    rwa [Threads.writesOf, Dict.getD, Dict.get?_eq_some_iff.mpr entry]

theorem recorded_of_docs {t : Threads} (docs : t.store.statsDocs = s.store.statsDocs) (c : String) :
    recorded t c = recorded s c := by
  rw [recorded, recorded, docs]

theorem recorded_writeStats (s : Threads) (flush : FlushData)
    (writes : Dict Nat (List FlushData)) (c : String) :
    recorded { store := s.store.writeStats flush, writes } c =
      if statsPath c = flush.1 then totalCommits flush.2 else recorded s c := by
  rw [recorded, RecordStore.writeStats, Dict.get?_set]
  split <;> rfl

theorem act_write {flush : FlushData} {later : List FlushData}
    (next : s.writesOf thread = flush :: later) : act s (.write thread) =
      { store := s.store.writeStats flush, writes := s.writes.set thread later } := by
  unfold act
  dsimp only
  rw [next]

theorem act_write_nothing (next : s.writesOf thread = []) : act s (.write thread) = s := by
  unfold act
  dsimp only
  rw [next]

/-- A call takes snapshots that count what the store does, and writes nothing yet. -/
theorem queued_call (queued : Queued s) {store : RecordStore} {flushes : List FlushData}
    (docs : store.statsDocs = s.store.statsDocs)
    (grows : ∀ c, (s.store.statsOf c).totalCommits ≤ (store.statsOf c).totalCommits)
    (counts : ∀ flush ∈ flushes, ∀ c, flush.1 = statsPath c →
      totalCommits flush.2 = (store.statsOf c).totalCommits) :
    Queued (s.call thread store flushes) := by
  unfold Threads.call
  split
  · have same : ∀ c, recorded { store, writes := s.writes.set thread flushes } c = recorded s c :=
      recorded_of_docs docs
    have above : ∀ c, recorded s c ≤ (store.statsOf c).totalCommits := fun c =>
      (queued.files c).trans (Int.ofNat_le.mpr (grows c))
    have split : ∀ flush,
        Waiting { store, writes := s.writes.set thread flushes } flush →
          flush ∈ flushes ∨ Waiting s flush := by
      rintro flush ⟨other, member⟩
      rw [writesOf_set] at member
      split at member
      · exact Or.inl member
      · exact Or.inr ⟨other, member⟩
    constructor
    case files =>
      intro c
      rw [same]
      exact above c
    case taken =>
      intro flush waiting c own
      rcases split flush waiting with new | old
      · exact (counts flush new c own).le
      · exact (queued.taken flush old c own).trans (Int.ofNat_le.mpr (grows c))
    case ahead =>
      intro flush waiting c own
      rw [same]
      rcases split flush waiting with new | old
      · rw [counts flush new c own]
        exact above c
      · exact queued.ahead flush old c own
  · exact queued

theorem queued_write (queued : Queued s) {flush : FlushData} {later : List FlushData}
    (next : s.writesOf thread = flush :: later)
    (turn : ∀ other, Waiting s other → other.1 = flush.1 →
      totalCommits flush.2 ≤ totalCommits other.2) :
    Queued { store := s.store.writeStats flush, writes := s.writes.set thread later } := by
  have first : Waiting s flush := ⟨thread, by rw [next]; exact List.mem_cons_self⟩
  have before : ∀ other,
      Waiting { store := s.store.writeStats flush, writes := s.writes.set thread later } other →
        Waiting s other := by
    rintro other ⟨owner, member⟩
    rw [writesOf_set] at member
    split at member
    · exact ⟨thread, by rw [next]; exact List.mem_cons_of_mem _ member⟩
    · exact ⟨owner, member⟩
  constructor
  case files =>
    intro c
    rw [recorded_writeStats]
    split
    · rename_i own
      exact queued.taken flush first c own.symm
    · exact queued.files c
  case taken => exact fun other waiting => queued.taken other (before other waiting)
  case ahead =>
    intro other waiting c own
    rw [recorded_writeStats]
    split
    · rename_i same
      exact turn other (before other waiting) (own.trans same)
    · exact queued.ahead other (before other waiting) c own

theorem totalCommits_toDict (stats : ChainStats) :
    totalCommits stats.toDict = stats.totalCommits := rfl

theorem updatedStats_total (s : RecordStore) (r : OutcomeRecord) :
    (s.updatedStats r).totalCommits = (s.statsOf r.chainId).totalCommits + 1 := by
  rw [RecordStore.updatedStats, consume_eq]
  rfl

theorem locked_total (s : RecordStore) (o : RawOutcome) (c : String) :
    ((s.locked o).statsOf c).totalCommits =
      (s.statsOf c).totalCommits + if c = o.chainId then 1 else 0 := by
  have counted : (s.updatedStats o.toOutcomeRecord).totalCommits =
    (s.statsOf o.chainId).totalCommits + 1 := updatedStats_total s o.toOutcomeRecord
  rw [RecordStore.statsOf, RecordStore.locked, Dict.getD, Dict.get?_set]
  split
  · rename_i own
    rw [own]
    exact counted
  · rfl

theorem flushData_cases {s : RecordStore} {o : RawOutcome} {flush : FlushData}
    (due : flush ∈ (s.flushData o).toList) :
    flush = (statsPath o.chainId, (s.updatedStats o.toOutcomeRecord).toDict) := by
  unfold RecordStore.flushData at due
  dsimp only at due
  split at due
  · exact List.mem_singleton.mp due
  · cases due

theorem queued_commit (queued : Queued s) (thread : Nat) (o : RawOutcome) :
    Queued (s.call thread (s.store.locked o) (s.store.flushData o).toList) := by
  refine queued_call queued rfl (fun c => ?_) ?_
  · rw [locked_total]
    exact Nat.le_add_right _ _
  · intro flush due c own
    rw [flushData_cases due] at own ⊢
    rw [← statsPath_inj.mp own, locked_total, if_pos rfl, totalCommits_toDict]
    exact congrArg Int.ofNat (updatedStats_total s.store o.toOutcomeRecord)

theorem queued_close (queued : Queued s) (thread : Nat) :
    Queued (s.call thread s.store s.store.snapshots) := by
  refine queued_call queued rfl (fun c => Nat.le_refl _) ?_
  intro flush taken c own
  obtain ⟨⟨d, stats⟩, entry, rfl⟩ := List.mem_map.mp taken
  rw [← statsPath_inj.mp own, totalCommits_toDict, RecordStore.statsOf, Dict.getD,
    Dict.get?_eq_some_iff.mpr entry, Option.getD_some]

theorem foremost_iff {flush : FlushData} {later : List FlushData} :
    Foremost s (flush :: later) ↔ ∀ other, Waiting s other → other.1 = flush.1 →
      totalCommits flush.2 ≤ totalCommits other.2 := by
  constructor
  · intro foremost other waiting
    obtain ⟨e, entry, member⟩ := (waiting_iff other).mp waiting
    exact foremost e entry other member
  · intro least e entry other member
    exact least other ((waiting_iff other).mpr ⟨e, entry, member⟩)

theorem queued_act (s : Threads) (a : Action) (queued : Queued s) (turn : InTurn s a) :
    Queued (act s a) := by
  cases a with
  | commit thread o =>
    unfold act
    dsimp only
    split
    · exact queued
    · exact queued_commit queued thread o
  | setBudgetContext thread ceilingUsd remainingUsd =>
    refine queued_call queued rfl (fun c => Nat.le_refl _) ?_
    intro flush taken
    cases taken
  | close thread => exact queued_close queued thread
  | write thread =>
    unfold InTurn at turn
    dsimp only at turn
    cases next : s.writesOf thread with
    | nil => rwa [act_write_nothing next]
    | cons flush later =>
      rw [next] at turn
      rw [act_write next]
      exact queued_write queued next (foremost_iff.mp turn)

theorem recorded_call (s : Threads) (thread : Nat) (store : RecordStore)
    (docs : store.statsDocs = s.store.statsDocs) (flushes : List FlushData) (c : String) :
    recorded (s.call thread store flushes) c = recorded s c := by
  unfold Threads.call
  split
  · exact recorded_of_docs docs c
  · rfl

theorem recorded_act (s : Threads) (a : Action) (c : String) :
    recorded (act s a) c = recorded s c ∨ ∃ thread flush later, a = .write thread ∧
      s.writesOf thread = flush :: later ∧ flush.1 = statsPath c ∧
      recorded (act s a) c = totalCommits flush.2 := by
  cases a with
  | commit thread o =>
    left
    unfold act
    dsimp only
    split
    · rfl
    · exact recorded_call s thread (s.store.locked o) rfl _ c
  | setBudgetContext thread ceilingUsd remainingUsd =>
    exact Or.inl (recorded_call s thread (s.store.setBudgetContext ceilingUsd remainingUsd) rfl _ c)
  | close thread => exact Or.inl (recorded_call s thread s.store rfl _ c)
  | write thread =>
    cases next : s.writesOf thread with
    | nil =>
      rw [act_write_nothing next]
      exact Or.inl rfl
    | cons flush later =>
      rw [act_write next, recorded_writeStats]
      split
      · rename_i own
        exact Or.inr ⟨thread, flush, later, rfl, next, own.symm, rfl⟩
      · exact Or.inl rfl

theorem notBackwards_act (s : Threads) (a : Action) (queued : Queued s) :
    NotBackwards s (act s a) := by
  intro c
  rcases recorded_act s a c with same | ⟨thread, flush, later, _, next, own, written⟩
  · exact same.ge
  · rw [written]
    exact queued.ahead flush ⟨thread, by rw [next]; exact List.mem_cons_self⟩ c own

theorem waiting_call {flush : FlushData} (waiting : Waiting s flush) (thread : Nat)
    (store : RecordStore) (flushes : List FlushData) :
    Waiting (s.call thread store flushes) flush := by
  obtain ⟨owner, member⟩ := waiting
  unfold Threads.call
  split
  · rename_i free
    refine ⟨owner, ?_⟩
    rw [writesOf_set]
    split
    · rename_i same
      rw [same, List.isEmpty_iff.mp free] at member
      cases member
    · exact member
  · exact ⟨owner, member⟩

theorem waiting_act {flush : FlushData} {c : String} (own : flush.1 = statsPath c)
    (waiting : Waiting s flush) (a : Action) :
    Waiting (act s a) flush ∨ recorded (act s a) c = totalCommits flush.2 := by
  cases a with
  | commit thread o =>
    left
    unfold act
    dsimp only
    split
    · exact waiting
    · exact waiting_call waiting thread _ _
  | setBudgetContext thread ceilingUsd remainingUsd =>
    exact Or.inl (waiting_call waiting thread _ _)
  | close thread => exact Or.inl (waiting_call waiting thread _ _)
  | write thread =>
    obtain ⟨owner, member⟩ := waiting
    cases next : s.writesOf thread with
    | nil =>
      rw [act_write_nothing next]
      exact Or.inl ⟨owner, member⟩
    | cons first later =>
      rw [act_write next]
      by_cases mine : owner = thread
      · rw [mine, next] at member
        rcases List.mem_cons.mp member with rfl | still
        · right
          rw [recorded_writeStats, if_pos own.symm]
        · exact Or.inl ⟨thread, by rwa [writesOf_set, if_pos rfl]⟩
      · exact Or.inl ⟨owner, by rwa [writesOf_set, if_neg mine]⟩

/-- In a run that leaves nothing to write, what waits is written at some point. -/
theorem waiting_written {flush : FlushData} {c : String} (own : flush.1 = statsPath c)
    {actions : List Action} (waiting : Waiting s flush)
    (finished : ¬ Waiting (Runs.run act s actions) flush) :
    ∃ first rest, actions = first ++ rest ∧
      recorded (Runs.run act s first) c = totalCommits flush.2 := by
  induction actions generalizing s with
  | nil => exact absurd waiting finished
  | cons a rest ih =>
    rcases waiting_act own waiting a with still | written
    · obtain ⟨first, later, rfl, same⟩ := ih still finished
      exact ⟨a :: first, later, rfl, same⟩
    · exact ⟨[a], rest, rfl, written⟩

end Steps

theorem ordered_iff_steps {s : Threads} {actions : List Action} :
    Runs.Ordered act NotBackwards s actions ↔
      Runs.EachStep act (fun s a => NotBackwards s (act s a)) s actions :=
  Runs.ordered_iff_eachStep (fun _ _ => le_rfl)
    fun _ _ _ first second c => (first c).trans (second c)

theorem ordered_of_inTurn {s : Threads} {actions : List Action} (queued : Queued s)
    (turns : Runs.EachStep act InTurn s actions) : Runs.Ordered act NotBackwards s actions :=
  ordered_iff_steps.mpr
    (Runs.eachStep_invariant queued_act (fun s a held _ => notBackwards_act s a held) queued turns)

/-- Every snapshot that waits goes to the stats file of a chain. -/
def Named (s : Threads) : Prop := ∀ flush, Waiting s flush → ∃ c, flush.1 = statsPath c

theorem named_call {s : Threads} (named : Named s) (thread : Nat) (store : RecordStore)
    {flushes : List FlushData} (new : ∀ flush ∈ flushes, ∃ c, flush.1 = statsPath c) :
    Named (s.call thread store flushes) := by
  unfold Threads.call
  split
  · rintro flush ⟨owner, member⟩
    rw [writesOf_set] at member
    split at member
    · exact new flush member
    · exact named flush ⟨owner, member⟩
  · exact named

theorem named_act (s : Threads) (a : Action) (named : Named s) : Named (act s a) := by
  cases a with
  | commit thread o =>
    unfold act
    dsimp only
    split
    · exact named
    · exact named_call named thread _ fun flush due => ⟨o.chainId, by rw [flushData_cases due]⟩
  | setBudgetContext thread ceilingUsd remainingUsd =>
    refine named_call named thread _ ?_
    intro flush taken
    cases taken
  | close thread =>
    refine named_call named thread _ ?_
    intro flush taken
    obtain ⟨entry, _, rfl⟩ := List.mem_map.mp taken
    exact ⟨entry.1, rfl⟩
  | write thread =>
    cases next : s.writesOf thread with
    | nil => rwa [act_write_nothing next]
    | cons first later =>
      rw [act_write next]
      rintro flush ⟨owner, member⟩
      rw [writesOf_set] at member
      split at member
      · exact named flush ⟨thread, by rw [next]; exact List.mem_cons_of_mem _ member⟩
      · exact named flush ⟨owner, member⟩

theorem inTurn_of_ordered {s : Threads} {actions : List Action} (named : Named s)
    (finished : ∀ flush, ¬ Waiting (Runs.run act s actions) flush)
    (ordered : Runs.Ordered act NotBackwards s actions) : Runs.EachStep act InTurn s actions := by
  rw [Runs.eachStep_iff_splits]
  rintro first a rest rfl
  have here : Named (Runs.run act s first) :=
    Runs.run_invariant (fun s a held _ => named_act s a held) named (Runs.eachStep_true s first)
  cases a with
  | write thread =>
    unfold InTurn
    dsimp only
    cases next : (Runs.run act s first).writesOf thread with
    | nil => trivial
    | cons flush later =>
      refine foremost_iff.mpr fun other waiting same => ?_
      obtain ⟨c, own⟩ := here other waiting
      have written : recorded (act (Runs.run act s first) (.write thread)) c =
          totalCommits flush.2 := by
        rw [act_write next, recorded_writeStats, if_pos (own.symm.trans same)]
      rcases waiting_act own waiting (.write thread) with still | last
      · have gone : ¬ Waiting (Runs.run act (act (Runs.run act s first) (.write thread)) rest)
            other := by
          have ended := finished other
          rwa [Runs.run_append] at ended
        obtain ⟨second, third, rfl, later⟩ := waiting_written own still gone
        have order := ordered (first ++ [.write thread]) second third (by simp) c
        simp only [Runs.run_append] at order
        calc totalCommits flush.2
            = recorded (Runs.run act (Runs.run act s first) [.write thread]) c := written.symm
          _ ≤ recorded (Runs.run act (act (Runs.run act s first) (.write thread)) second) c := order
          _ = totalCommits other.2 := later
      · exact (written.symm.trans last).le
  | _ => trivial

section Opening

/-- A document of a store, under the name of its chain. -/
def Stats (e : String × StatsDoc) : Prop :=
  ∃ c stats, e = (statsPath c, ChainStats.toDict stats) ∧ isSafeChainId c = true

/-- A store opened on the files of earlier ones counts from where they were written. -/
theorem opened_counts (numerals : Numerals) {s : RecordStore}
    (earlier : ∀ e ∈ s.statsDocs.entries, Stats e) {flushInterval : Nat} {maxLines : Int}
    {start : RecordStore} (opened : s.reopen numerals flushInterval maxLines = .ok start)
    (c : String) :
    recorded { store := start } c ≤ (start.statsOf c).totalCommits := by
  let known (c : String) : Option ChainStats :=
    (s.statsDocs.get? (statsPath c)).bind fun doc => (ChainStats.fromDict numerals doc).toOption
  have each : ∀ e ∈ s.statsDocs.entries, ∃ c stats, e = (statsPath c, stats.toDict) ∧
      isSafeChainId c = true ∧ known c = some stats := by
    intro e member
    obtain ⟨c, stats, rfl, safe⟩ := earlier e member
    refine ⟨c, stats, rfl, safe, ?_⟩
    show (s.statsDocs.get? (statsPath c)).bind _ = some stats
    rw [Dict.get?_eq_some_iff.mpr member, Option.bind_some, fromDict_toDict]
    rfl
  obtain ⟨loaded, read, lookups⟩ := load_entries numerals each ∅
  have start_eq : start =
      { flushInterval, maxLines, lines := s.lines, statsDocs := s.statsDocs,
        chainStats := loaded } := by
    rw [RecordStore.reopen, loadStats, read] at opened
    exact (Except.ok.inj opened).symm
  cases found : s.statsDocs.get? (statsPath c) with
  | none =>
    rw [start_eq, recorded, found]
    exact Int.natCast_nonneg _
  | some doc =>
    have member := Dict.get?_eq_some_iff.mp found
    obtain ⟨d, stats, same, safe, counted⟩ := each _ member
    cases statsPath_inj.mp (Prod.mk.inj same).1
    have among : statsPath c ∈ s.statsDocs.entries.map Prod.fst :=
      List.mem_map.mpr ⟨_, member, rfl⟩
    rw [start_eq, recorded, found, RecordStore.statsOf, Dict.getD, lookups c, if_pos among, counted,
      (Prod.mk.inj same).2]
    exact le_rfl

end Opening

/-- Threads commit to one store and close it in any order. While snapshots of a chain are written
    in turn, what its stats file records never decreases; in a run that leaves nothing to write
    that is the only way. -/
theorem recorded_never_decreases (numerals : Numerals) {s : RecordStore}
    (earlier : ∀ e ∈ s.statsDocs.entries, Stats e) {flushInterval : Nat} {maxLines : Int}
    {start : RecordStore} (opened : s.reopen numerals flushInterval maxLines = .ok start)
    (actions : List Action) :
    (Runs.EachStep act InTurn { store := start } actions →
      Runs.Ordered act NotBackwards { store := start } actions) ∧
    ((∀ flush, ¬ Waiting (Runs.run act { store := start } actions) flush) →
      Runs.Ordered act NotBackwards { store := start } actions →
      Runs.EachStep act InTurn { store := start } actions) := by
  have idle : ∀ flush, ¬ Waiting { store := start } flush := by
    rintro flush ⟨thread, member⟩
    cases member
  have queued : Queued { store := start } :=
    ⟨opened_counts numerals earlier opened, fun flush waiting => absurd waiting (idle flush),
      fun flush waiting => absurd waiting (idle flush)⟩
  exact ⟨ordered_of_inTurn queued,
    inTurn_of_ordered fun flush waiting => absurd waiting (idle flush)⟩

/-- Two threads, each with a commit whose snapshot is written at once. -/
theorem snapshots_in_turn :
    Runs.Ordered act NotBackwards { store := opened 1 10000 }
      [.commit 0 (outcomeOn "chain"), .write 0, .commit 1 (outcomeOn "chain"), .write 1, .close 0,
        .write 0] :=
  (recorded_never_decreases ⟨fun _ => none, fun _ => none⟩ (s := {})
    (fun _ member => absurd member List.not_mem_nil) rfl _).1 (by decide +kernel)

/-- The second thread writes first; the first thread's snapshot counts one commit. -/
theorem overtaken_snapshot_written_last :
    let actions := [.commit 0 (outcomeOn "chain"), .commit 1 (outcomeOn "chain"), .write 1,
      .write 0]
    ¬ Runs.Ordered act NotBackwards { store := opened 1 10000 } actions := by
  intro actions ordered
  have two : recorded (Runs.run act { store := opened 1 10000 } (actions.take 3)) "chain" = 2 := by
    decide +kernel
  have one : recorded (Runs.run act { store := opened 1 10000 } actions) "chain" = 1 := by
    decide +kernel
  have le := ordered (actions.take 3) [.write 0] [] rfl "chain"
  rw [two] at le
  exact absurd (le.trans one.le) (by decide)

end VeronicaFlush
