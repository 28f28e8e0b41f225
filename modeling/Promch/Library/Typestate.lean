import Promch.Library.EventLoop

/-!
# Programs that pass through modes

A protocol assigns a mode to every task: what it has begun and not finished, such
as the locks that it holds.  Every write and every await is allowed in some modes
only, and leads to another mode.  If all programs keep to the protocol, and are
safe for a contract, then in every run each task has a mode, and the modes and the
shared state satisfy together what every single move preserves.
-/

namespace EventLoop

variable {σ η ρ κ ε υ α β μ : Type} {ω : ρ → Type}

/-- Apart from one task, how many tasks are in a mode that meets a test. -/
theorem exists_countP_rest
    {modes : List μ}
    {task : Nat}
    {mode : μ}
    (test : μ → Bool)
    (here : modes[task]? = some mode) :
    ∃ rest, modes.countP test = rest + (if test mode then 1 else 0) ∧
      ∀ later, (modes.set task later).countP test = rest + if test later then 1 else 0 := by
  obtain ⟨inside, rfl⟩ := List.getElem?_eq_some_iff.mp here
  have among : (if test modes[task] then 1 else 0) ≤ modes.countP test := by
    split
    · next meets => exact List.countP_pos_iff.mpr ⟨_, List.getElem_mem inside, meets⟩
    · exact Nat.zero_le _
  exact ⟨_, (Nat.sub_add_cancel among).symm, fun later => List.countP_set inside⟩

/-- The modes that the tasks of a machine pass through, and what they have to do
with the shared state, as long as the tasks respect a contract.  The modes of all
tasks are listed in the order of the tasks. -/
structure Protocol {machine : Machine σ η ρ ω κ ε υ} (contract : Contract machine) (μ : Type)
    where
  /-- The mode in which a call begins. -/
  initial : κ → μ
  mayWrite : Nat → μ → η → Prop
  write : Nat → μ → η → List Nat → μ
  mayAwait : Nat → μ → ρ → Prop
  await : μ → (request : ρ) → Except ε (ω request) → μ
  mayJoin : μ → List Nat → Prop
  join : μ → μ
  mayEnd : μ → Prop
  inv : σ → List μ → Prop
  inv_start : ∀ {state modes} call, inv state modes → inv state (modes ++ [initial call])
  inv_write : ∀ {state modes task mode effect}, inv state modes → modes[task]? = some mode →
    mayWrite task mode effect → contract.may task effect state →
      inv (machine.apply effect state)
        (modes.set task (write task mode effect
          (List.range' modes.length (machine.forks effect state).length)) ++
            (machine.forks effect state).map initial)
  inv_await : ∀ {state modes task mode request} outcome, inv state modes →
    modes[task]? = some mode → mayAwait task mode request →
      machine.admits task request outcome state = true →
        inv state (modes.set task (await mode request outcome))
  inv_join : ∀ {state modes task mode children}, inv state modes → modes[task]? = some mode →
    mayJoin mode children → inv state (modes.set task (join mode))

namespace Protocol

variable {machine : Machine σ η ρ ω κ ε υ} {contract : Contract machine}
variable (protocol : Protocol contract μ) (task : Nat)

/-- In a mode a program keeps to the protocol, and it returns or raises only in
modes that meet the goal. -/
def Keeps : Coroutine σ η ρ ω ε υ α → (Except ε α → μ → Prop) → μ → Prop
  | .done outcome, goal, mode => goal outcome mode
  | .current next, goal, mode => Keeps (next task) goal mode
  | .read next, goal, mode => ∀ state, Keeps (next state) goal mode
  | .write effect next, goal, mode =>
      protocol.mayWrite task mode effect ∧
        ∀ created, Keeps (next created) goal (protocol.write task mode effect created)
  | .suspend request next, goal, mode =>
      protocol.mayAwait task mode request ∧
        ∀ outcome, Keeps (next outcome) goal (protocol.await mode request outcome)
  | .join children next, goal, mode =>
      protocol.mayJoin mode children ∧
        ∀ outcome, Keeps (next outcome) goal (protocol.join mode)

variable {protocol task}

/-! ## Rules -/

@[simp] theorem keeps_handle
    (program : Coroutine σ η ρ ω ε υ α)
    (resume : Except ε α → Coroutine σ η ρ ω ε υ β)
    (goal : Except ε β → μ → Prop)
    (mode : μ) :
    protocol.Keeps task (program.handle resume) goal mode ↔
      protocol.Keeps task program
        (fun outcome later => protocol.Keeps task (resume outcome) goal later) mode := by
  induction program generalizing mode with
  | done outcome => rfl
  | current next inductionHypothesis => exact inductionHypothesis task mode
  | read next inductionHypothesis => exact forall_congr' fun state => inductionHypothesis state mode
  | write effect next inductionHypothesis | suspend request next inductionHypothesis
  | join children next inductionHypothesis =>
      simp only [Coroutine.handle, Keeps, inductionHypothesis]

@[simp] theorem keeps_andThen_ok
    (next : α → Coroutine σ η ρ ω ε υ β)
    (value : α) :
    protocol.Keeps task (Coroutine.andThen next (.ok value)) =
      protocol.Keeps task (next value) := rfl

@[simp] theorem keeps_bind
    (program : Coroutine σ η ρ ω ε υ α)
    (next : α → Coroutine σ η ρ ω ε υ β)
    (goal : Except ε β → μ → Prop)
    (mode : μ) :
    protocol.Keeps task (program >>= next) goal mode ↔
      protocol.Keeps task program
        (fun outcome later => protocol.Keeps task (Coroutine.andThen next outcome) goal later)
        mode :=
  keeps_handle program (Coroutine.andThen next) goal mode

@[simp] theorem keeps_attempt
    (program : Coroutine σ η ρ ω ε υ α)
    (goal : Except ε (Except ε α) → μ → Prop)
    (mode : μ) :
    protocol.Keeps task program.attempt goal mode ↔
      protocol.Keeps task program (fun outcome later => goal (.ok outcome) later) mode :=
  keeps_handle program _ goal mode

@[simp] theorem keeps_conclude
    (outcome : Except ε α)
    (goal : Except ε α → μ → Prop)
    (mode : μ) :
    protocol.Keeps task (Coroutine.conclude outcome : Coroutine σ η ρ ω ε υ α) goal mode ↔
      goal outcome mode := Iff.rfl

@[simp] theorem keeps_emit
    (effect : η)
    (goal : Except ε Unit → μ → Prop)
    (mode : μ) :
    protocol.Keeps task (Coroutine.emit effect : Coroutine σ η ρ ω ε υ Unit) goal mode ↔
      protocol.mayWrite task mode effect ∧
        ∀ created, goal (.ok ()) (protocol.write task mode effect created) := Iff.rfl

/-- A program keeps to the protocol for every weaker goal. -/
theorem Keeps.mono
    {program : Coroutine σ η ρ ω ε υ α}
    {goal weaker : Except ε α → μ → Prop}
    {mode : μ}
    (keeps : protocol.Keeps task program goal mode)
    (weakens : ∀ outcome later, goal outcome later → weaker outcome later) :
    protocol.Keeps task program weaker mode := by
  induction program generalizing mode with
  | done outcome => exact weakens outcome mode keeps
  | current next inductionHypothesis => exact inductionHypothesis task keeps
  | read next inductionHypothesis =>
      exact fun state => inductionHypothesis state (keeps state)
  | write effect next inductionHypothesis | suspend request next inductionHypothesis
  | join children next inductionHypothesis =>
      exact ⟨keeps.1, fun value => inductionHypothesis value (keeps.2 value)⟩

/-- A program whose writes and awaits leave a mode alone keeps it. -/
theorem keeps_of_writes
    {program : Coroutine σ η ρ ω ε υ α}
    {kind : η → Prop}
    {mode : μ}
    (writes : program.Writes kind)
    (written : ∀ effect, kind effect → protocol.mayWrite task mode effect ∧
      ∀ created, protocol.write task mode effect created = mode)
    (awaited : ∀ request, protocol.mayAwait task mode request ∧
      ∀ outcome, protocol.await mode request outcome = mode)
    (joined : ∀ children, protocol.mayJoin mode children ∧ protocol.join mode = mode) :
    protocol.Keeps task program (fun _ later => later = mode) mode := by
  induction program with
  | done outcome => rfl
  | current next inductionHypothesis => exact inductionHypothesis task (writes task)
  | read next inductionHypothesis =>
      exact fun state => inductionHypothesis state (writes state)
  | write effect next inductionHypothesis =>
      obtain ⟨permitted, same⟩ := written effect writes.1
      refine ⟨permitted, fun created => ?_⟩
      rw [same]
      exact inductionHypothesis created (writes.2 created)
  | suspend request next inductionHypothesis =>
      obtain ⟨permitted, same⟩ := awaited request
      refine ⟨permitted, fun outcome => ?_⟩
      rw [same]
      exact inductionHypothesis outcome (writes outcome)
  | join children next inductionHypothesis =>
      obtain ⟨permitted, same⟩ := joined children
      refine ⟨permitted, fun outcome => ?_⟩
      rw [same]
      exact inductionHypothesis outcome (writes outcome)

end Protocol

/-! ## Runs -/

namespace Protocol

variable {machine : Machine σ η ρ ω κ ε υ} {contract : Contract machine}
variable (protocol : Protocol contract μ)

/-- What a task has yet to do keeps to the protocol, from its mode on. -/
def Fits (task : Nat) (entry : Task σ η ρ ω κ ε υ) (mode : μ) : Prop :=
  match entry.status with
  | .created => mode = protocol.initial entry.call
  | .awaiting request next =>
      protocol.mayAwait task mode request ∧
        ∀ outcome, protocol.Keeps task (next outcome) (fun _ => protocol.mayEnd)
          (protocol.await mode request outcome)
  | .joining children next =>
      protocol.mayJoin mode children ∧
        ∀ outcome, protocol.Keeps task (next outcome) (fun _ => protocol.mayEnd)
          (protocol.join mode)
  | .ended _ => protocol.mayEnd mode

/-- A task of a call can come into a mode. -/
inductive Passes (call : κ) : μ → Prop
  | initial : Passes call (protocol.initial call)
  | write {mode : μ} (passes : Passes call mode) (task : Nat) (effect : η) (created : List Nat) :
      Passes call (protocol.write task mode effect created)
  | await {mode : μ} (passes : Passes call mode) (request : ρ)
      (outcome : Except ε (ω request)) : Passes call (protocol.await mode request outcome)
  | join {mode : μ} (passes : Passes call mode) : Passes call (protocol.join mode)

/-- Every task of the system fits its mode, and the modes fit the state. -/
structure Describes (modes : List μ) (system : System σ η ρ ω κ ε υ) : Prop where
  length : modes.length = system.tasks.length
  passes : ∀ (task : Nat) entry mode, system.tasks[task]? = some entry →
    modes[task]? = some mode → protocol.Passes entry.call mode
  fits : ∀ (task : Nat) entry mode, system.tasks[task]? = some entry →
    modes[task]? = some mode → protocol.Fits task entry mode
  inv : protocol.inv system.state modes

/-- The same, but for one task, which is being run in the given mode. -/
structure DescribesBut
    (task : Nat)
    (call : κ)
    (mode : μ)
    (modes : List μ)
    (system : System σ η ρ ω κ ε υ) : Prop where
  length : modes.length = system.tasks.length
  passes : ∀ (other : Nat) entry mode, system.tasks[other]? = some entry →
    modes[other]? = some mode → protocol.Passes entry.call mode
  running : ∃ status, system.tasks[task]? = some ⟨call, status⟩
  here : modes[task]? = some mode
  fits : ∀ (other : Nat) entry mode, other ≠ task → system.tasks[other]? = some entry →
    modes[other]? = some mode → protocol.Fits other entry mode
  inv : protocol.inv system.state modes

variable {protocol} {task : Nat} {mode : μ} {modes : List μ}
variable {system next : System σ η ρ ω κ ε υ} {call : κ}

/-- Every task has a mode. -/
theorem Describes.exists_mode
    {entry : Task σ η ρ ω κ ε υ}
    (describes : protocol.Describes modes system)
    (found : system.tasks[task]? = some entry) :
    ∃ mode, modes[task]? = some mode ∧ protocol.Fits task entry mode := by
  have inside : task < modes.length :=
    describes.length ▸ (List.getElem?_eq_some_iff.mp found).1
  have here := List.getElem?_eq_getElem inside
  exact ⟨modes[task], here, describes.fits task entry _ found here⟩

/-- A system without tasks is described by no modes. -/
theorem describes_idle {state : σ} (inv : protocol.inv state []) :
    protocol.Describes [] (.idle state : System σ η ρ ω κ ε υ) where
  length := rfl
  passes := by simp [System.idle]
  fits := by simp [System.idle]
  inv := inv

theorem Describes.create
    (describes : protocol.Describes modes system)
    (call : κ) :
    protocol.Describes (modes ++ [protocol.initial call]) (system.create [call]) where
  length := by simp [System.create, describes.length]
  passes task entry mode found here :=
    System.forall_create protocol.initial (fun _ => True)
      (fun _ entry => protocol.Passes entry.call) describes.length
      (fun task entry mode _ => describes.passes task entry mode) (fun _ _ => .initial) [call]
      task entry mode trivial found here
  fits task entry mode found here :=
    System.forall_create protocol.initial (fun _ => True) protocol.Fits describes.length
      (fun task entry mode _ => describes.fits task entry mode) (fun _ _ => rfl) [call]
      task entry mode trivial found here
  inv := protocol.inv_start call describes.inv

/-- While one task runs, the others are as before. -/
theorem Describes.but
    (describes : protocol.Describes modes system)
    (found : system.tasks[task]? = some ⟨call, status⟩)
    (here : modes[task]? = some mode) :
    protocol.DescribesBut task call mode modes system where
  length := describes.length
  passes := describes.passes
  running := ⟨status, found⟩
  here := here
  fits := fun other entry mode _ => describes.fits other entry mode
  inv := describes.inv

namespace DescribesBut

theorem passes_set
    {later : μ}
    (describes : protocol.DescribesBut task call mode modes system)
    (passes : ∀ call, protocol.Passes call mode → protocol.Passes call later) :
    ∀ (other : Nat) entry before, system.tasks[other]? = some entry →
      (modes.set task later)[other]? = some before → protocol.Passes entry.call before := by
  intro other entry before found here
  by_cases same : task = other
  · subst same
    obtain ⟨inside, _⟩ := List.getElem?_eq_some_iff.mp describes.here
    rw [List.getElem?_set_self inside] at here
    cases here
    exact passes _ (describes.passes task entry mode found describes.here)
  · rw [List.getElem?_set_ne same] at here
    exact describes.passes other entry before found here

/-- The running task passes into another mode. -/
theorem pass
    {later : μ}
    (describes : protocol.DescribesBut task call mode modes system)
    (passes : ∀ call, protocol.Passes call mode → protocol.Passes call later)
    (inv : protocol.inv system.state (modes.set task later)) :
    protocol.DescribesBut task call later (modes.set task later) system where
  length := by rw [List.length_set, describes.length]
  passes := describes.passes_set passes
  running := describes.running
  here := by
    obtain ⟨inside, _⟩ := List.getElem?_eq_some_iff.mp describes.here
    exact List.getElem?_set_self inside
  fits := by
    intro other entry mode apart found here
    rw [List.getElem?_set_ne apart.symm] at here
    exact describes.fits other entry mode apart found here
  inv := inv

/-- The running task performs an effect. -/
theorem perform
    {effect : η}
    (describes : protocol.DescribesBut task call mode modes system)
    (fitting : protocol.mayWrite task mode effect)
    (permitted : contract.may task effect system.state) :
    protocol.DescribesBut task call
      (protocol.write task mode effect (machine.created effect system))
      (modes.set task (protocol.write task mode effect (machine.created effect system)) ++
        (machine.forks effect system.state).map protocol.initial)
      (machine.perform effect system) := by
  have created : machine.created effect system =
      List.range' modes.length (machine.forks effect system.state).length := by
    rw [describes.length]
    rfl
  obtain ⟨inside, _⟩ := List.getElem?_eq_some_iff.mp describes.here
  constructor
  · simp [Machine.perform, System.create, describes.length]
  · intro other entry mode found here
    exact System.forall_create protocol.initial (fun _ => True)
      (fun _ entry => protocol.Passes entry.call) (by rw [List.length_set, describes.length])
      (fun other entry mode _ => describes.passes_set
        (fun _ passes => .write passes task effect _) other entry mode)
      (fun _ _ => .initial) _ other entry mode trivial found here
  · obtain ⟨status, found⟩ := describes.running
    exact ⟨status, System.getElem?_create found _⟩
  · rw [List.getElem?_append_left (by rwa [List.length_set]), List.getElem?_set_self inside]
  · refine System.forall_create protocol.initial (· ≠ task) protocol.Fits
      (by rw [List.length_set, describes.length]) ?_ (fun _ _ => rfl) _
    intro other entry mode apart found here
    rw [List.getElem?_set_ne (Ne.symm apart)] at here
    exact describes.fits other entry mode apart found here
  · rw [created]
    exact protocol.inv_write describes.inv describes.here fitting permitted

/-- The running task comes to rest. -/
theorem settle
    {status : Status σ η ρ ω ε υ}
    (describes : protocol.DescribesBut task call mode modes system)
    (fits : protocol.Fits task ⟨call, status⟩ mode) :
    protocol.Describes modes (system.settle task status) where
  length := by simp [System.settle, describes.length]
  passes := by
    intro other entry mode found here
    obtain ⟨_, older⟩ | ⟨rfl, before, running, rfl⟩ := System.getElem?_settle_cases found
    · exact describes.passes other entry mode older here
    · exact describes.passes other before mode running here
  fits := by
    intro other entry mode found here
    obtain ⟨apart, older⟩ | ⟨rfl, before, running, rfl⟩ := System.getElem?_settle_cases found
    · exact describes.fits other entry mode apart older here
    · obtain ⟨status, same⟩ := describes.running
      cases running.symm.trans same
      cases here.symm.trans describes.here
      exact fits
  inv := describes.inv

/-- A safe program that keeps to the protocol leaves a mode behind that its task
fits. -/
theorem advance
    {program : Coroutine σ η ρ ω ε υ υ}
    (describes : protocol.DescribesBut task call mode modes system)
    (keeps : protocol.Keeps task program (fun _ => protocol.mayEnd) mode)
    (sound : contract.SoundBut task call system)
    (safe : contract.Safe task program (contract.ends task call) system.state) :
    ∃ modes, protocol.Describes modes (machine.advance task program system) := by
  induction program generalizing mode modes system with
  | done outcome => exact ⟨modes, describes.settle keeps⟩
  | current next inductionHypothesis => exact inductionHypothesis task describes keeps sound safe
  | read next inductionHypothesis =>
      exact inductionHypothesis system.state describes (keeps system.state) sound safe
  | write effect next inductionHypothesis =>
      exact inductionHypothesis _ (describes.perform keeps.1 safe.1) (keeps.2 _)
        (sound.perform safe.1) (safe.2 _)
  | suspend request next _ => exact ⟨modes, describes.settle keeps⟩
  | join children next _ => exact ⟨modes, describes.settle keeps⟩

end DescribesBut

variable [DecidableEq ρ]

/-- The programs of all calls keep to the protocol. -/
def KeepingBodies (protocol : Protocol contract μ) : Prop :=
  ∀ task call, protocol.Keeps task (machine.body call) (fun _ => protocol.mayEnd)
    (protocol.initial call)

/-- Every allowed step leaves a mode for every task. -/
theorem Describes.step
    {action : Action ρ ω κ ε}
    (bodies : contract.SafeBodies)
    (keeping : protocol.KeepingBodies)
    (describes : protocol.Describes modes system)
    (sound : contract.Sound system)
    (permits : contract.Permits system action)
    (stepped : machine.step system action = some next) :
    ∃ modes, protocol.Describes modes next := by
  obtain ⟨call, _, rfl⟩ | ⟨task, call, program, runs, rfl⟩ := Machine.step_cases stepped
  · exact ⟨_, describes.create call⟩
  have safe := sound.safe_of_runs bodies permits runs
  cases runs with
  | begins found =>
      obtain ⟨mode, here, rfl⟩ := describes.exists_mode found
      exact (describes.but found here).advance (keeping task call) (sound.but found) safe
  | answered found admitted =>
      obtain ⟨mode, here, asks, resumes⟩ := describes.exists_mode found
      exact ((describes.but found here).pass (fun _ passes => .await passes _ _)
        (protocol.inv_await _ describes.inv here asks admitted)).advance (resumes _)
        (sound.but found) safe
  | joined found joined =>
      obtain ⟨mode, here, joins, resumes⟩ := describes.exists_mode found
      exact ((describes.but found here).pass (fun _ passes => .join passes)
        (protocol.inv_join describes.inv here joins)).advance (resumes _) (sound.but found) safe

/-- In every run whose steps are allowed each task has a mode. -/
theorem describes_of_reaches
    {condition : System σ η ρ ω κ ε υ → Action ρ ω κ ε → Prop}
    {start : System σ η ρ ω κ ε υ}
    (bodies : contract.SafeBodies)
    (keeping : protocol.KeepingBodies)
    (describes : protocol.Describes modes start)
    (sound : contract.Sound start)
    (permits : ∀ before action, condition before action → contract.Permits before action)
    (reaches : machine.Reaches condition start system) :
    ∃ modes, protocol.Describes modes system := by
  have both : contract.Sound system ∧ ∃ modes, protocol.Describes modes system := by
    induction reaches with
    | refl => exact ⟨sound, modes, describes⟩
    | step _ met stepped inductionHypothesis =>
        obtain ⟨sound, modes, describes⟩ := inductionHypothesis
        exact ⟨sound.step bodies (permits _ _ met) stepped,
          describes.step bodies keeping sound (permits _ _ met) stepped⟩
  exact both.2

end Protocol

end EventLoop
