import Veronica.PolicyUpdates
import Veronica.Library.Pages

/- The collection loop of the export endpoint, which reads the registry page by page while
   other threads register and update policies. -/
namespace VeronicaExport
open VeronicaDistribution VeronicaPolicyUpdates

def policyPageSize : Nat := 1000
def maxPolicyPages : Nat := 1000

/-- `list_policies`; pages are counted from 1. -/
def listPolicies (r : PolicyRegistry) (page perPage : Nat) : List PolicyBundle × Nat :=
  (Pages.page perPage (page - 1) r.store.values, r.store.values.length)

/-- The variables of the loop in `export_data`, and whether it is over. -/
structure Loop where
  page : Nat := 1
  allBundles : List PolicyBundle := []
  done : Bool := false

/-- One pass of the loop; its condition is tested again at the end. -/
def readPage (r : PolicyRegistry) (loop : Loop) : Loop :=
  if loop.done then loop
  else
    let read := listPolicies r loop.page policyPageSize
    let allBundles := loop.allBundles ++ read.1
    if read.2 ≤ allBundles.length ∨ read.1 = [] then { loop with allBundles, done := true }
    else { page := loop.page + 1, allBundles, done := decide (maxPolicyPages < loop.page + 1) }

/-- A policy as the response has it. -/
def exportEntry (bundle : PolicyBundle) : List (String × PyVal) :=
  let p := bundle.policy
  [("chain_id", .str p.chainId), ("ceiling_usd", p.ceilingUsd), ("on_exceed", p.onExceed),
    ("issued_at", p.issuedAt), ("ceiling_tokens_out", p.ceilingTokensOut),
    ("ceiling_steps", p.ceilingSteps), ("fallback_model", p.fallbackModel),
    ("timeout_ms", p.timeoutMs), ("rate_window_seconds", p.rateWindowSeconds),
    ("rate_ceiling_calls", p.rateCeilingCalls), ("priority", p.priority),
    ("deadline_ts", p.deadlineTs), ("expires_at", p.expiresAt),
    ("planner_version", p.plannerVersion), ("policy_hash", .str bundle.policyHash),
    ("version", .int bundle.version)]

structure Exporting where
  clients : Clients
  loop : Loop := {}

/-- A page read, or a step of a call that another thread makes. -/
inductive Step where
  | readPage
  | other (a : Action)

def step (rt : Runtime) (s : Exporting) : Step → Exporting
  | .readPage => { s with loop := readPage s.clients.registry s.loop }
  | .other a => { s with clients := act rt s.clients a }

def Step.isRead : Step → Bool
  | .readPage => true
  | .other _ => false

def pagesRead (steps : List Step) : Nat := steps.countP Step.isRead

/-- The "policies" of the response. -/
def exported (s : Exporting) : List (List (String × PyVal)) := s.loop.allBundles.map exportEntry

/-- The "chain_id" of each. -/
def exportedChains (s : Exporting) : List (Option PyVal) :=
  (exported s).map fun entry => entry.lookup "chain_id"

def chains (s : Clients) : List String := s.registry.store.keys

def Named : Pending → Prop
  | .registering policy bundle => bundle.policy.chainId = policy.chainId
  | .updating chainId _ _ _ updatedPolicy => updatedPolicy.chainId = chainId
  | .distributed chainId _ _ _ newBundle => newBundle.policy.chainId = chainId

/-- Every bundle is stored under the chain of its policy, or on its way there. -/
structure Inv (s : Clients) : Prop where
  stored : ∀ chainId bundle, s.registry.store.get? chainId = some bundle →
    bundle.policy.chainId = chainId
  named : ∀ ticket call, s.calls.get? ticket = some call → Named call

section Store
variable {s : Clients}

theorem inv_opened (distributor : PolicyDistributor) : Inv (opened distributor) := by
  constructor <;> simp [opened]

theorem inv_suspend (inv : Inv s) (ticket : Nat) {call : Pending} (named : Named call) :
    Inv (s.suspend ticket call) where
  stored := inv.stored
  named := Dict.forall_set named inv.named

theorem inv_drop (inv : Inv s) (ticket : Nat) : Inv (s.drop ticket) where
  stored := inv.stored
  named := Dict.forall_erase ticket inv.named

theorem inv_withDistributor (inv : Inv s) (distributor : PolicyDistributor) :
    Inv (s.withDistributor distributor) := ⟨inv.stored, inv.named⟩

theorem inv_publish (inv : Inv s) {chainId : String} {bundle : PolicyBundle}
    (own : bundle.policy.chainId = chainId) : Inv (s.publish chainId bundle) where
  stored := Dict.forall_set own inv.stored
  named := inv.named

theorem act_inv (rt : Runtime) (inv : Inv s) (a : Action) : Inv (act rt s a) := by
  cases a with
  | registerDistribute ticket policy now =>
    simp only [act]
    split
    · exact inv_withDistributor inv _
    · rename_i distributor bundle distributed
      refine inv_suspend (inv_withDistributor inv distributor) ticket ?_
      show bundle.policy.chainId = policy.chainId
      rw [(distribute_ok distributed).1]
  | registerStore ticket =>
    simp only [act]
    split
    · rename_i policy bundle waiting
      exact inv_publish (inv_drop inv ticket) (inv.named ticket _ waiting)
    · exact inv
  | updateRead ticket chainId currentVersion fields now =>
    simp only [act]
    split
    · exact inv
    · rename_i updated ok
      obtain ⟨existing, found, _, replaced⟩ := updateRead_ok ok
      exact inv_suspend inv ticket (replaced.1.trans (inv.stored chainId existing found))
  | updateDistribute ticket now =>
    simp only [act]
    split
    · rename_i chainId currentVersion fields issuedAt updated waiting
      have own : updated.chainId = chainId := inv.named ticket _ waiting
      split
      · exact inv_drop (inv_withDistributor inv _) ticket
      · rename_i distributor newBundle distributed
        refine inv_suspend (inv_withDistributor inv distributor) ticket ?_
        show newBundle.policy.chainId = chainId
        rw [(distribute_ok distributed).1, own]
    · exact inv
  | updateWrite ticket =>
    simp only [act]
    split
    · rename_i chainId currentVersion fields issuedAt newBundle waiting
      rcases updateWrite_cases s.registry chainId currentVersion newBundle with
        ⟨e, eq⟩ | ⟨current, _, _, eq⟩
      · rw [eq]
        exact inv_drop inv ticket
      · rw [eq]
        have written := inv_publish (inv_drop inv ticket) (inv.named ticket _ waiting)
        exact ⟨written.stored, written.named⟩
    · exact inv
  | distribute policy now => exact inv_withDistributor inv _

theorem chains_set (store : Dict String PolicyBundle) (chainId : String) (bundle : PolicyBundle) :
    store.keys <+: (store.set chainId bundle).keys := by
  rw [Dict.keys_set]
  split
  · exact List.prefix_rfl
  · exact List.prefix_append _ _

theorem chains_grown (rt : Runtime) (s : Clients) (a : Action) :
    chains s <+: chains (act rt s a) := by
  cases a with
  | registerDistribute ticket policy now =>
    simp only [act]
    split <;> exact List.prefix_rfl
  | registerStore ticket =>
    simp only [act]
    split
    · exact chains_set _ _ _
    · exact List.prefix_rfl
  | updateRead ticket chainId currentVersion fields now =>
    simp only [act]
    split <;> exact List.prefix_rfl
  | updateDistribute ticket now =>
    simp only [act]
    split
    · split <;> exact List.prefix_rfl
    · exact List.prefix_rfl
  | updateWrite ticket =>
    simp only [act]
    split
    · rename_i chainId currentVersion fields issuedAt newBundle waiting
      rcases updateWrite_cases s.registry chainId currentVersion newBundle with
        ⟨e, eq⟩ | ⟨current, _, _, eq⟩
      · rw [eq]
        exact List.prefix_rfl
      · rw [eq]
        exact chains_set _ _ _
    · exact List.prefix_rfl
  | distribute policy now => exact List.prefix_rfl

theorem Inv.values_chains (inv : Inv s) :
    s.registry.store.values.map (fun bundle => bundle.policy.chainId) = chains s := by
  rw [Dict.values, chains, Dict.keys, List.map_map]
  refine List.map_congr_left fun entry member => ?_
  exact inv.stored entry.1 entry.2 (Dict.get?_eq_some_iff.mpr member)

end Store

def collectedChains (loop : Loop) : List String :=
  loop.allBundles.map fun bundle => bundle.policy.chainId

/-- While the loop runs it has the chains of the pages before; when it is over it has all that
    were there at the last read. -/
structure Collecting (first : List String) (s : Exporting) : Prop where
  clients : Inv s.clients
  grown : first <+: chains s.clients
  started : 1 ≤ s.loop.page
  running : s.loop.done = false →
    Pages.Collected policyPageSize (s.loop.page - 1) (chains s.clients) (collectedChains s.loop)
  complete : s.loop.done = true →
    first <+: collectedChains s.loop ∧ (collectedChains s.loop).Nodup

/-- Fewer chains than the loop has pages for. -/
def Few (s : Exporting) : Prop := (chains s.clients).length < maxPolicyPages * policyPageSize

instance (s : Exporting) : Decidable (Few s) := inferInstanceAs (Decidable (_ < _))

section Collecting
variable {first : List String} {s : Exporting}

theorem collecting_begun {clients : Clients} (inv : Inv clients) :
    Collecting (chains clients) { clients } where
  clients := inv
  grown := List.prefix_rfl
  started := Nat.le_refl _
  running _ := Pages.collected_nil _ _
  complete done := by cases done

theorem Collecting.other (collecting : Collecting first s) (rt : Runtime) (a : Action) :
    Collecting first (step rt s (.other a)) where
  clients := act_inv rt collecting.clients a
  grown := collecting.grown.trans (chains_grown rt s.clients a)
  started := collecting.started
  running runs := (collecting.running runs).grown (chains_grown rt s.clients a)
  complete := collecting.complete

theorem readPage_cases (r : PolicyRegistry) (loop : Loop) (runs : loop.done = false) :
    let read := listPolicies r loop.page policyPageSize
    let allBundles := loop.allBundles ++ read.1
    ((read.2 ≤ allBundles.length ∨ read.1 = []) ∧
        VeronicaExport.readPage r loop = { loop with allBundles, done := true }) ∨
      (allBundles.length < read.2 ∧ VeronicaExport.readPage r loop =
        { page := loop.page + 1, allBundles,
          done := decide (maxPolicyPages < loop.page + 1) }) := by
  intro read allBundles
  rw [VeronicaExport.readPage, if_neg (by rw [runs]; exact Bool.false_ne_true)]
  by_cases stops : read.2 ≤ allBundles.length ∨ read.1 = []
  · exact .inl ⟨stops, if_pos stops⟩
  · exact .inr ⟨not_le.mp (not_or.mp stops).1, if_neg stops⟩

theorem Inv.collected_read {clients : Clients} (inv : Inv clients) (loop : Loop) :
    let read := listPolicies clients.registry loop.page policyPageSize
    (loop.allBundles ++ read.1).map (fun bundle => bundle.policy.chainId) =
        collectedChains loop ++ Pages.page policyPageSize (loop.page - 1) (chains clients) ∧
      read.2 = (chains clients).length := by
  constructor
  · rw [List.map_append, listPolicies, Pages.map_page, inv.values_chains]
    rfl
  · rw [← inv.values_chains, List.length_map]
    rfl

theorem Collecting.whole (collecting : Collecting first s) (runs : s.loop.done = false)
    (stops : let read := listPolicies s.clients.registry s.loop.page policyPageSize
      read.2 ≤ (s.loop.allBundles ++ read.1).length ∨ read.1 = []) :
    collectedChains s.loop ++ Pages.page policyPageSize (s.loop.page - 1) (chains s.clients) =
      chains s.clients := by
  have before := collecting.running runs
  obtain ⟨all, total⟩ := collecting.clients.collected_read s.loop
  rcases stops with enough | none
  · apply before.all_of_length_le
    rw [← all, List.length_map, ← total]
    exact enough
  · rw [none, List.append_nil] at all
    exact before.all_of_page_empty (by decide) (List.append_right_eq_self.mp all.symm)

theorem Collecting.readPage (collecting : Collecting first s) (rt : Runtime) (few : Few s) :
    Collecting first (step rt s .readPage) := by
  cases runs : s.loop.done with
  | true =>
    have same : step rt s .readPage = s := by
      simp only [step, VeronicaExport.readPage, runs, if_true]
    rw [same]
    exact collecting
  | false =>
    obtain ⟨all, total⟩ := collecting.clients.collected_read s.loop
    rw [step]
    rcases readPage_cases s.clients.registry s.loop runs with ⟨stops, eq⟩ | ⟨less, eq⟩
    · rw [eq]
      rw [collecting.whole runs stops] at all
      constructor
      case clients => exact collecting.clients
      case grown => exact collecting.grown
      case started => exact collecting.started
      case running => exact fun runs => by cases runs
      case complete =>
        intro _
        rw [collectedChains, all]
        exact ⟨collecting.grown, s.clients.registry.store.distinct⟩
    · rw [eq]
      rw [total, ← List.length_map (f := fun b => b.policy.chainId), all] at less
      have next := (collecting.running runs).next less
      have pages : s.loop.page - 1 + 1 = s.loop.page := Nat.sub_add_cancel collecting.started
      rw [pages] at next
      -- the page cap is not reached, since the pages read so far were full
      have within : s.loop.page < maxPolicyPages := by
        have more := next.2.resolve_left (Nat.ne_of_gt collecting.started)
        exact Nat.lt_of_mul_lt_mul_right (Nat.lt_trans more few)
      have goesOn : decide (maxPolicyPages < s.loop.page + 1) = false :=
        decide_eq_false (by omega)
      rw [goesOn]
      constructor
      case clients => exact collecting.clients
      case grown => exact collecting.grown
      case started => exact Nat.le_add_left 1 _
      case running =>
        intro _
        rw [collectedChains, all]
        exact next
      case complete => exact fun done => by cases done

theorem collecting_run (rt : Runtime) {steps : List Step} (collecting : Collecting first s)
    (few : Runs.EachState (step rt) Few s steps) :
    Collecting first (Runs.run (step rt) s steps) := by
  induction steps generalizing s with
  | nil => exact collecting
  | cons a rest ih =>
    refine ih ?_ few.2
    cases a with
    | readPage => exact collecting.readPage rt few.1
    | other a => exact collecting.other rt a

theorem page_readPage (r : PolicyRegistry) (loop : Loop)
    (runs : (VeronicaExport.readPage r loop).done = false) :
    loop.done = false ∧ (VeronicaExport.readPage r loop).page = loop.page + 1 := by
  cases before : loop.done with
  | true =>
    rw [VeronicaExport.readPage, if_pos before] at runs
    exact absurd (before.symm.trans runs) (by decide)
  | false =>
    refine ⟨rfl, ?_⟩
    rcases readPage_cases r loop before with ⟨_, eq⟩ | ⟨_, eq⟩
    · rw [eq] at runs
      cases runs
    · rw [eq]

theorem page_run (rt : Runtime) (steps : List Step)
    (runs : (Runs.run (step rt) s steps).loop.done = false) : s.loop.done = false ∧
      (Runs.run (step rt) s steps).loop.page = s.loop.page + pagesRead steps := by
  induction steps generalizing s with
  | nil => exact ⟨runs, rfl⟩
  | cons a rest ih =>
    obtain ⟨running, page⟩ := ih runs
    cases a with
    | readPage =>
      obtain ⟨before, next⟩ := page_readPage _ _ running
      have counted : pagesRead (.readPage :: rest) = pagesRead rest + 1 :=
        List.countP_cons_of_pos rfl
      have moved : (step rt s .readPage).loop.page = s.loop.page + 1 := next
      exact ⟨before, page.trans (by omega)⟩
    | other a => exact ⟨running, page⟩

theorem Collecting.page_lt (collecting : Collecting first s) (few : Few s)
    (runs : s.loop.done = false) : s.loop.page - 1 < maxPolicyPages := by
  rcases (collecting.running runs).2 with start | more
  · rw [start]
    decide
  · exact Nat.lt_of_mul_lt_mul_right (Nat.lt_trans more few)

end Collecting

theorem act_run_inv (rt : Runtime) (distributor : PolicyDistributor) (actions : List Action) :
    Inv (Runs.run (act rt) (opened distributor) actions) := by
  have keep : ∀ s a, Inv s → True → Inv (act rt s a) := by
    intro s a inv _
    exact act_inv rt inv a
  exact Runs.run_invariant keep (inv_opened distributor) (Runs.eachStep_true _ actions)

theorem exportedChains_eq (s : Exporting) :
    exportedChains s = (collectedChains s.loop).map fun chainId => some (.str chainId) := by
  rw [exportedChains, exported, collectedChains, List.map_map, List.map_map]
  rfl

theorem some_str_injective : Function.Injective fun chainId => some (PyVal.str chainId) := by
  intro c d same
  cases same
  rfl

/-- Whatever other threads register and update between the page reads, the loop ends, and what
    it has then holds every chain that was registered before it began, and no chain twice. -/
theorem export_complete (rt : Runtime) (distributor : PolicyDistributor) (before : List Action)
    (steps : List Step) :
    let clients := Runs.run (act rt) (opened distributor) before
    let s := Runs.run (step rt) { clients } steps
    Runs.EachState (step rt) Few { clients } steps →
      (maxPolicyPages ≤ pagesRead steps → s.loop.done = true) ∧
      (s.loop.done = true → (exportedChains s).Nodup ∧
        ∀ chainId ∈ chains clients, some (.str chainId) ∈ exportedChains s) := by
  intro clients s few
  have begun := collecting_begun (act_run_inv rt distributor before)
  have collecting : Collecting (chains clients) s := collecting_run rt begun few
  constructor
  · intro enough
    rw [← Bool.not_eq_false]
    intro runs
    have below := collecting.page_lt (Runs.eachState_last few) runs
    have counted : s.loop.page = 1 + pagesRead steps := (page_run rt steps runs).2
    omega
  · intro done
    obtain ⟨⟨later, whole⟩, distinct⟩ := collecting.complete done
    rw [exportedChains_eq]
    refine ⟨distinct.map some_str_injective, ?_⟩
    intro chainId member
    refine List.mem_map_of_mem ?_
    rw [← whole]
    exact List.mem_append_left later member

section TwoChains

def agentPolicy (chainId : String) : PolicyConfig where
  chainId := chainId
  ceilingUsd := .float (.finite 1)
  onExceed := .str "halt"
  issuedAt := .float (.finite 1740000000)

/-- A chain is registered while the export runs, after the only page was read. -/
theorem registration_after_page :
    let before : List Action :=
      [.registerDistribute 1 (agentPolicy "first") 1740000001, .registerStore 1]
    let steps : List Step := [.readPage,
      .other (.registerDistribute 2 (agentPolicy "second") 1740000002), .other (.registerStore 2)]
    let clients := Runs.run (act plainRuntime) (opened lenient) before
    let s := Runs.run (step plainRuntime) { clients } steps
    (maxPolicyPages ≤ pagesRead steps → s.loop.done = true) ∧
      (s.loop.done = true → (exportedChains s).Nodup ∧
        ∀ chainId ∈ chains clients, some (.str chainId) ∈ exportedChains s) :=
  export_complete plainRuntime { strict := false, version := 0, signingKey := none }
    [.registerDistribute 1 (agentPolicy "first") 1740000001, .registerStore 1]
    [.readPage, .other (.registerDistribute 2 (agentPolicy "second") 1740000002),
      .other (.registerStore 2)]
    ⟨by decide +kernel, by decide +kernel, by decide +kernel,
      show Few _ from by decide +kernel⟩

end TwoChains

end VeronicaExport
