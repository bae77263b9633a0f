import Mathlib.Data.List.Induction

/- Runs of a deterministic step function over a finite list of actions. An action carries
   everything the environment chooses (who moves, timings, outcomes), so quantifying over
   action lists quantifies over every interleaving. -/
namespace Runs
variable {State Action : Type}

def run (step : State → Action → State) (s : State) (actions : List Action) : State :=
  actions.foldl step s

/-- `holds` is true of every action of the run at the state the action is taken from. -/
def EachStep (step : State → Action → State) (holds : State → Action → Prop) :
    State → List Action → Prop
  | _, [] => True
  | s, a :: rest => holds s a ∧ EachStep step holds (step s a) rest

/-- `holds` is true of every state the run passes through, its two ends included. -/
def EachState (step : State → Action → State) (holds : State → Prop) :
    State → List Action → Prop
  | s, [] => holds s
  | s, a :: rest => holds s ∧ EachState step holds (step s a) rest

/-- `rel` relates each state of the run to every later one. -/
def Ordered (step : State → Action → State) (rel : State → State → Prop) (s : State)
    (actions : List Action) : Prop :=
  ∀ first second rest, actions = first ++ second ++ rest →
    rel (run step s first) (run step s (first ++ second))

/-- What the actions of a run show, each at the state it is taken from. -/
def shown {Shown : Type} (step : State → Action → State) (shows : State → Action → List Shown) :
    State → List Action → List Shown
  | _, [] => []
  | s, a :: rest => shows s a ++ shown step shows (step s a) rest

def Reachable (step : State → Action → State) (legal : State → Action → Prop)
    (start s : State) : Prop :=
  ∃ actions, EachStep step legal start actions ∧ run step start actions = s

variable {step : State → Action → State} {legal good cond : State → Action → Prop}
  {I holds : State → Prop}

instance decidableEachStep [∀ s a, Decidable (cond s a)] :
    ∀ s (actions : List Action), Decidable (EachStep step cond s actions)
  | _, [] => inferInstanceAs (Decidable True)
  | s, a :: rest =>
    have : Decidable (EachStep step cond (step s a) rest) := decidableEachStep (step s a) rest
    inferInstanceAs (Decidable (cond s a ∧ EachStep step cond (step s a) rest))

theorem eachStep_true (s : State) (actions : List Action) :
    EachStep step (fun _ _ => True) s actions := by
  induction actions generalizing s with
  | nil => trivial
  | cons a rest ih => exact ⟨trivial, ih (step s a)⟩

theorem reachable_run {start : State} (actions : List Action) :
    Reachable step (fun _ _ => True) start (run step start actions) :=
  ⟨actions, eachStep_true start actions, rfl⟩

theorem eachStep_and {s : State} {actions : List Action} :
    EachStep step (fun s a => good s a ∧ cond s a) s actions ↔
      EachStep step good s actions ∧ EachStep step cond s actions := by
  induction actions generalizing s with
  | nil => simp [EachStep]
  | cons a rest ih => simp [EachStep, ih, and_and_and_comm]

theorem eachStep_append {s : State} {earlier later : List Action} :
    EachStep step good s (earlier ++ later) ↔
      EachStep step good s earlier ∧ EachStep step good (run step s earlier) later := by
  induction earlier generalizing s with
  | nil => simp [EachStep, run]
  | cons a rest ih => simp [EachStep, run, ih, and_assoc]

@[simp] theorem run_append (s : State) (earlier later : List Action) :
    run step s (earlier ++ later) = run step (run step s earlier) later :=
  List.foldl_append

theorem shown_append {Shown : Type} {shows : State → Action → List Shown} (s : State)
    (earlier later : List Action) : shown step shows s (earlier ++ later) =
      shown step shows s earlier ++ shown step shows (run step s earlier) later := by
  induction earlier generalizing s with
  | nil => rfl
  | cons a rest ih => rw [List.cons_append, shown, shown, ih, List.append_assoc]; rfl

theorem mem_shown {Shown : Type} {shows : State → Action → List Shown} {x : Shown} {s : State}
    {actions : List Action} (member : x ∈ shown step shows s actions) :
    ∃ before, ∃ a ∈ actions, x ∈ shows before a := by
  induction actions generalizing s with
  | nil => cases member
  | cons a rest ih =>
    rcases List.mem_append.mp member with here | later
    · exact ⟨s, a, List.mem_cons_self, here⟩
    · obtain ⟨before, b, among, showsX⟩ := ih later
      exact ⟨before, b, List.mem_cons_of_mem a among, showsX⟩

/-- The last action adds what it shows at the state the others have led to. -/
theorem shown_concat {Shown : Type} {shows : State → Action → List Shown} (s : State)
    (earlier : List Action) (a : Action) : shown step shows s (earlier ++ [a]) =
      shown step shows s earlier ++ shows (run step s earlier) a := by
  rw [shown_append, shown, shown, List.append_nil]

theorem eachState_last {s : State} {actions : List Action}
    (each : EachState step holds s actions) : holds (run step s actions) := by
  induction actions generalizing s with
  | nil => exact each
  | cons a rest ih => exact ih each.2

theorem eachState_imp {weaker : State → Prop} (imp : ∀ s, holds s → weaker s) {s : State}
    {actions : List Action} (each : EachState step holds s actions) :
    EachState step weaker s actions := by
  induction actions generalizing s with
  | nil => exact imp s each
  | cons a rest ih => exact ⟨imp s each.1, ih each.2⟩

theorem eachState_and {also : State → Prop} {s : State} {actions : List Action}
    (each : EachState step holds s actions) (other : EachState step also s actions) :
    EachState step (fun s => holds s ∧ also s) s actions := by
  induction actions generalizing s with
  | nil => exact ⟨each, other⟩
  | cons a rest ih => exact ⟨⟨each.1, other.1⟩, ih each.2 other.2⟩

theorem eachState_iff_eachStep {s : State} {actions : List Action} :
    EachState step holds s actions ↔
      holds s ∧ EachStep step (fun s a => holds (step s a)) s actions := by
  induction actions generalizing s with
  | nil => simp [EachState, EachStep]
  | cons a rest ih => simp [EachState, EachStep, ih]

theorem eachStep_iff_splits {s : State} {actions : List Action} :
    EachStep step good s actions ↔
      ∀ first a rest, actions = first ++ a :: rest → good (run step s first) a := by
  induction actions generalizing s with
  | nil => simp [EachStep]
  | cons b later ih =>
    constructor
    · intro each first a rest eq
      cases first with
      | nil =>
        cases eq
        exact each.1
      | cons c first =>
        cases eq
        exact ih.mp each.2 first a rest rfl
    · intro splits
      refine ⟨splits [] b later rfl, ih.mpr ?_⟩
      intro first a rest eq
      exact splits (b :: first) a rest (by rw [eq]; rfl)

theorem ordered_iff_eachStep {rel : State → State → Prop} (refl : ∀ s, rel s s)
    (trans : ∀ s t u, rel s t → rel t u → rel s u) {s : State} {actions : List Action} :
    Ordered step rel s actions ↔ EachStep step (fun s a => rel s (step s a)) s actions := by
  rw [eachStep_iff_splits]
  constructor
  · intro ordered first a rest eq
    have pair := ordered first [a] rest (by simp [eq])
    rw [run_append] at pair
    exact pair
  · intro steps first second rest eq
    induction second generalizing first with
    | nil =>
      rw [List.append_nil]
      exact refl _
    | cons a second ih =>
      have here := steps first a (second ++ rest) (by simp [eq])
      have later := ih (first ++ [a]) (by simp [eq])
      have joined : first ++ [a] ++ second = first ++ a :: second := by simp
      rw [joined, run_append s first [a]] at later
      exact trans _ _ _ here later

/-- The induction over runs: what a legal step keeps, a legal run keeps. -/
theorem eachState_invariant (keep : ∀ s a, I s → legal s a → I (step s a))
    {s : State} {actions : List Action} (start : I s)
    (legalRun : EachStep step legal s actions) : EachState step I s actions := by
  induction actions generalizing s with
  | nil => exact start
  | cons a rest ih => exact ⟨start, ih (keep s a start legalRun.1) legalRun.2⟩

theorem run_invariant (keep : ∀ s a, I s → legal s a → I (step s a))
    {s : State} {actions : List Action} (start : I s)
    (legalRun : EachStep step legal s actions) : I (run step s actions) :=
  eachState_last (eachState_invariant keep start legalRun)

/-- The induction over runs for what is true of the actions taken and the state they lead to. -/
theorem traced_invariant {I : List Action → State → Prop} {start : State}
    (keep : ∀ earlier s a, I earlier s → run step start earlier = s → legal s a →
      I (earlier ++ [a]) (step s a)) {actions : List Action} (first : I [] start)
    (legalRun : EachStep step legal start actions) : I actions (run step start actions) := by
  induction actions using List.reverseRecOn with
  | nil => exact first
  | append_singleton earlier a ih =>
    obtain ⟨before, last⟩ := eachStep_append.mp legalRun
    rw [run_append]
    exact keep earlier _ a (ih before) rfl last.1

theorem reachable_invariant (keep : ∀ s a, I s → legal s a → I (step s a))
    {start s : State} (first : I start) (reached : Reachable step legal start s) : I s := by
  obtain ⟨actions, legalRun, rfl⟩ := reached
  exact run_invariant keep first legalRun

/-- What one machine does step by step and another follows, it follows along a run. -/
theorem run_simulated {State' Action' : Type} {step' : State' → Action' → State'}
    {f : Action → Action'} {rel : State → State' → Prop}
    (keep : ∀ s t a, rel s t → rel (step s a) (step' t (f a))) {s : State} {t : State'}
    (actions : List Action) (start : rel s t) :
    rel (run step s actions) (run step' t (actions.map f)) := by
  induction actions generalizing s t with
  | nil => exact start
  | cons a rest ih => exact ih (keep s t a start)

/-- Two states that every step keeps related stay related under the same actions. -/
theorem run_related {rel : State → State → Prop}
    (keep : ∀ s t a, rel s t → rel (step s a) (step t a)) {s t : State} (actions : List Action)
    (start : rel s t) : rel (run step s actions) (run step t actions) := by
  have simulated := run_simulated (f := id) keep actions start
  rwa [List.map_id] at simulated

/-- What holds of a legal action wherever the invariant does, holds along a legal run. -/
theorem eachStep_invariant (keep : ∀ s a, I s → legal s a → I (step s a))
    (ok : ∀ s a, I s → legal s a → good s a) {s : State} {actions : List Action} (start : I s)
    (legalRun : EachStep step legal s actions) : EachStep step good s actions := by
  induction actions generalizing s with
  | nil => trivial
  | cons a rest ih =>
    exact ⟨ok s a start legalRun.1, ih (keep s a start legalRun.1) legalRun.2⟩

/-- The exact-condition rule. If, under an invariant that good legal steps keep, a legal step
    is good exactly when `cond` holds of it, then all steps of a legal run are good exactly
    when `cond` holds of all of them. -/
theorem eachStep_exact (keep : ∀ s a, I s → legal s a → good s a → I (step s a))
    (exact_step : ∀ s a, I s → legal s a → (good s a ↔ cond s a))
    {s : State} {actions : List Action} (start : I s)
    (legalRun : EachStep step legal s actions) :
    EachStep step good s actions ↔ EachStep step cond s actions := by
  induction actions generalizing s with
  | nil => simp [EachStep]
  | cons a rest ih =>
    have here := exact_step s a start legalRun.1
    constructor
    · intro goods
      obtain ⟨first, later⟩ := goods
      exact ⟨here.mp first, (ih (keep s a start legalRun.1 first) legalRun.2).mp later⟩
    · intro conds
      obtain ⟨first, later⟩ := conds
      have ok := here.mpr first
      exact ⟨ok, (ih (keep s a start legalRun.1 ok) legalRun.2).mpr later⟩

/-- The exact-condition rule for a property of the last state that no step restores. -/
theorem run_exact (keep : ∀ s a, I s → legal s a → I (step s a))
    (exact_step : ∀ s a, I s → legal s a → (holds (step s a) ↔ holds s ∧ cond s a))
    {s : State} {actions : List Action} (start : I s)
    (legalRun : EachStep step legal s actions) :
    holds (run step s actions) ↔ holds s ∧ EachStep step cond s actions := by
  induction actions generalizing s with
  | nil => exact (and_iff_left trivial).symm
  | cons a rest ih =>
    have later := ih (keep s a start legalRun.1) legalRun.2
    have here := exact_step s a start legalRun.1
    calc holds (run step (step s a) rest)
        ↔ (holds s ∧ cond s a) ∧ EachStep step cond (step s a) rest := by rw [later, here]
      _ ↔ holds s ∧ EachStep step cond s (a :: rest) := and_assoc

end Runs
