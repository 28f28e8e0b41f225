import Mathlib.Logic.Relation
import Promch.Library.EventLoop

/-!
# Simulation of an event loop by a plain state machine

The programs of an event loop are compared with a machine whose steps are not
programs.  Every task is in a mode, which says what it stands for in the plain
machine, and every effect of a task is matched by steps of the plain machine.  This
is shown program by program, from what the other tasks leave true at the awaits; then
every run of the event loop is matched by a run of the plain machine.
-/

namespace EventLoop

variable {σ η ρ κ ε υ α β μ τ : Type} {ω : ρ → Type}

/-! ## Assumptions on the answers -/

namespace Contract

variable {machine : Machine σ η ρ ω κ ε υ} {contract : Contract machine}

/-- A contract together with an assumption on the answers. -/
def assuming
    (contract : Contract machine)
    (answers : (request : ρ) → Except ε (ω request) → σ → Prop) : Contract machine :=
  { contract with
    allowed := fun task cause state => contract.allowed task cause state ∧
      ∀ request outcome, cause = .answered request outcome → answers request outcome state }

variable {answers : (request : ρ) → Except ε (ω request) → σ → Prop}

/-- A safe program stays safe under an assumption. -/
theorem Safe.assuming
    {task : Nat}
    {program : Coroutine σ η ρ ω ε υ α}
    {goal : Except ε α → σ → Prop}
    {state : σ}
    (safe : contract.Safe task program goal state) :
    (contract.assuming answers).Safe task program goal state := by
  induction program generalizing state with
  | done outcome => exact safe
  | current next inductionHypothesis => exact inductionHypothesis task safe
  | read next inductionHypothesis => exact inductionHypothesis state safe
  | write effect next inductionHypothesis =>
      exact ⟨safe.1, fun created => inductionHypothesis created (safe.2 created)⟩
  | suspend request next inductionHypothesis =>
      obtain ⟨asked, frame, stable, framed, resumes⟩ := safe
      refine ⟨asked, frame, stable, framed, ?_⟩
      intro later outcome invariant askedLater framedLater admitted allowed
      exact inductionHypothesis outcome
        (resumes later outcome invariant askedLater framedLater admitted allowed.1)
  | join children next inductionHypothesis =>
      obtain ⟨joins, frame, stable, framed, resumes⟩ := safe
      refine ⟨joins, frame, stable, framed, ?_⟩
      intro later outcome invariant joinsLater framedLater allowed
      exact inductionHypothesis outcome
        (resumes later outcome invariant joinsLater framedLater allowed.1)

theorem SafeBodies.assuming (bodies : contract.SafeBodies) :
    (contract.assuming answers).SafeBodies :=
  fun task call state invariant begins unnamed allowed =>
    (bodies task call state invariant begins unnamed allowed.1).assuming

/-- A permitted step is permitted under an assumption that its answer meets. -/
theorem permits_assuming
    {system : System σ η ρ ω κ ε υ}
    {action : Action ρ ω κ ε}
    (permits : contract.Permits system action)
    (answered : ∀ task request outcome, action = .answer task request outcome →
      answers request outcome system.state) :
    (contract.assuming answers).Permits system action := by
  cases action with
  | start call => exact permits
  | begin task =>
      refine fun entry found => ⟨permits entry found, ?_⟩
      rintro request outcome ⟨⟩
  | answer task request outcome =>
      refine ⟨permits, ?_⟩
      rintro other answer same
      cases same
      exact answered task request outcome rfl
  | join task failed =>
      refine ⟨permits, ?_⟩
      rintro request outcome ⟨⟩

end Contract

/-! ## Matching programs -/

/-- How the tasks of an event loop are matched by a plain machine, as long as they
respect a contract. -/
structure Simulation {machine : Machine σ η ρ ω κ ε υ} (contract : Contract machine) (μ τ : Type)
    where
  /-- The mode in which a call begins. -/
  initial : κ → μ
  /-- The calls that the environment starts. -/
  mayStart : κ → Prop
  /-- In a shared state a task may have an effect, which changes its mode. -/
  moves : μ → η → σ → μ → Prop
  /-- The modes in which a task of a call awaits. -/
  rests : κ → μ → Prop
  /-- The modes in which a task ends. -/
  ends : μ → Prop
  /-- The steps of the plain machine. -/
  step : τ → τ → Prop
  /-- The plain state of a shared state and the modes of all tasks, in their order. -/
  appears : σ → List μ → τ → Prop
  appears_start : ∀ {state modes plain} call, mayStart call → appears state modes plain →
    appears state (modes ++ [initial call]) plain
  appears_move : ∀ {state modes plain task mode effect later}, appears state modes plain →
    modes[task]? = some mode → moves mode effect state later → contract.inv state →
      contract.may task effect state →
        ∃ next, Relation.ReflTransGen step plain next ∧
          appears (machine.apply effect state)
            (modes.set task later ++ (machine.forks effect state).map initial) next

namespace Simulation

variable {machine : Machine σ η ρ ω κ ε υ} {contract : Contract machine}
variable (simulation : Simulation contract μ τ) (task : Nat) (call : κ)

/-- From a mode and a shared state on, the effects of a program are matched, and it
returns or raises only where the goal is met. -/
def Tracks : Coroutine σ η ρ ω ε υ α → (Except ε α → μ → σ → Prop) → μ → σ → Prop
  | .done outcome, goal, mode, state => goal outcome mode state
  | .current next, goal, mode, state => Tracks (next task) goal mode state
  | .read next, goal, mode, state => Tracks (next state) goal mode state
  | .write effect next, goal, mode, state =>
      ∃ later, simulation.moves mode effect state later ∧
        ∀ created, Tracks (next created) goal later (machine.apply effect state)
  | .suspend request next, goal, mode, state =>
      simulation.rests call mode ∧
        ∃ frame, contract.Stable task frame ∧ frame state ∧
          ∀ later outcome, contract.inv later → frame later →
            contract.allowed task (.answered request outcome) later →
            Tracks (next outcome) goal mode later
  | .join _ next, goal, mode, state =>
      simulation.rests call mode ∧
        ∃ frame, contract.Stable task frame ∧ frame state ∧
          ∀ later outcome, contract.inv later → frame later →
            Tracks (next outcome) goal mode later

variable {simulation task call}

/-! ## Rules -/

@[simp] theorem tracks_handle
    (program : Coroutine σ η ρ ω ε υ α)
    (resume : Except ε α → Coroutine σ η ρ ω ε υ β)
    (goal : Except ε β → μ → σ → Prop)
    (mode : μ)
    (state : σ) :
    simulation.Tracks task call (program.handle resume) goal mode state ↔
      simulation.Tracks task call program
        (fun outcome later now => simulation.Tracks task call (resume outcome) goal later now)
        mode state := by
  induction program generalizing mode state with
  | done outcome => rfl
  | current next inductionHypothesis => exact inductionHypothesis task mode state
  | read next inductionHypothesis => exact inductionHypothesis state mode state
  | write effect next inductionHypothesis | suspend request next inductionHypothesis
  | join children next inductionHypothesis =>
      simp only [Coroutine.handle, Tracks, inductionHypothesis]

@[simp] theorem tracks_andThen_ok
    (next : α → Coroutine σ η ρ ω ε υ β)
    (value : α) :
    simulation.Tracks task call (Coroutine.andThen next (.ok value)) =
      simulation.Tracks task call (next value) := rfl

@[simp] theorem tracks_bind
    (program : Coroutine σ η ρ ω ε υ α)
    (next : α → Coroutine σ η ρ ω ε υ β)
    (goal : Except ε β → μ → σ → Prop)
    (mode : μ)
    (state : σ) :
    simulation.Tracks task call (program >>= next) goal mode state ↔
      simulation.Tracks task call program
        (fun outcome later now =>
          simulation.Tracks task call (Coroutine.andThen next outcome) goal later now)
        mode state :=
  tracks_handle program (Coroutine.andThen next) goal mode state

@[simp] theorem tracks_attempt
    (program : Coroutine σ η ρ ω ε υ α)
    (goal : Except ε (Except ε α) → μ → σ → Prop)
    (mode : μ)
    (state : σ) :
    simulation.Tracks task call program.attempt goal mode state ↔
      simulation.Tracks task call program
        (fun outcome later now => goal (.ok outcome) later now) mode state :=
  tracks_handle program _ goal mode state

@[simp] theorem tracks_pure
    (value : α)
    (goal : Except ε α → μ → σ → Prop)
    (mode : μ)
    (state : σ) :
    simulation.Tracks task call (pure value : Coroutine σ η ρ ω ε υ α) goal mode state ↔
      goal (.ok value) mode state := Iff.rfl

@[simp] theorem tracks_conclude
    (outcome : Except ε α)
    (goal : Except ε α → μ → σ → Prop)
    (mode : μ)
    (state : σ) :
    simulation.Tracks task call (Coroutine.conclude outcome : Coroutine σ η ρ ω ε υ α) goal
        mode state ↔
      goal outcome mode state := Iff.rfl

@[simp] theorem tracks_gets
    (part : σ → α)
    (goal : Except ε α → μ → σ → Prop)
    (mode : μ)
    (state : σ) :
    simulation.Tracks task call (Coroutine.gets part : Coroutine σ η ρ ω ε υ α) goal mode
        state ↔
      goal (.ok (part state)) mode state := Iff.rfl

@[simp] theorem tracks_emit
    (effect : η)
    (goal : Except ε Unit → μ → σ → Prop)
    (mode : μ)
    (state : σ) :
    simulation.Tracks task call (Coroutine.emit effect : Coroutine σ η ρ ω ε υ Unit) goal mode
        state ↔
      ∃ later, simulation.moves mode effect state later ∧
        goal (.ok ()) later (machine.apply effect state) := by
  simp [Coroutine.emit, Tracks]

/-- To await an answer: a mode to rest in, and a frame that the other tasks leave
true. -/
theorem tracks_await
    {request : ρ}
    {goal : Except ε (ω request) → μ → σ → Prop}
    {mode : μ}
    {state : σ}
    (frame : σ → Prop)
    (rests : simulation.rests call mode)
    (stable : contract.Stable task frame)
    (framed : frame state)
    (answered : ∀ later outcome, contract.inv later → frame later →
      contract.allowed task (.answered request outcome) later → goal outcome mode later) :
    simulation.Tracks task call
      (Coroutine.await request : Coroutine σ η ρ ω ε υ (ω request)) goal mode state :=
  ⟨rests, frame, stable, framed, answered⟩

/-- A program whose effects are matched in one mode stays in it. -/
theorem tracks_of_writes
    {program : Coroutine σ η ρ ω ε υ α}
    {kind : η → Prop}
    {mode : μ}
    (writes : program.Writes kind)
    (rests : simulation.rests call mode)
    (moves : ∀ effect state, kind effect → simulation.moves mode effect state mode)
    (state : σ) :
    simulation.Tracks task call program (fun _ later _ => later = mode) mode state := by
  have stable : contract.Stable task fun _ => True := fun _ _ _ _ _ _ _ => trivial
  induction program generalizing state with
  | done outcome => rfl
  | current next inductionHypothesis => exact inductionHypothesis task (writes task) state
  | read next inductionHypothesis => exact inductionHypothesis state (writes state) state
  | write effect next inductionHypothesis =>
      exact ⟨mode, moves effect state writes.1,
        fun created => inductionHypothesis created (writes.2 created) _⟩
  | suspend request next inductionHypothesis =>
      exact ⟨rests, _, stable, trivial,
        fun later outcome _ _ _ => inductionHypothesis outcome (writes outcome) later⟩
  | join children next inductionHypothesis =>
      exact ⟨rests, _, stable, trivial,
        fun later outcome _ _ => inductionHypothesis outcome (writes outcome) later⟩

/-- What a program tracks, it tracks for every weaker goal. -/
theorem Tracks.mono
    {program : Coroutine σ η ρ ω ε υ α}
    {goal weaker : Except ε α → μ → σ → Prop}
    {mode : μ}
    {state : σ}
    (tracks : simulation.Tracks task call program goal mode state)
    (weakens : ∀ outcome later now, goal outcome later now → weaker outcome later now) :
    simulation.Tracks task call program weaker mode state := by
  induction program generalizing mode state with
  | done outcome => exact weakens outcome mode state tracks
  | current next inductionHypothesis => exact inductionHypothesis task tracks
  | read next inductionHypothesis => exact inductionHypothesis state tracks
  | write effect next inductionHypothesis =>
      obtain ⟨later, moves, follows⟩ := tracks
      exact ⟨later, moves, fun created => inductionHypothesis created (follows created)⟩
  | suspend request next inductionHypothesis =>
      obtain ⟨rests, frame, stable, framed, resumes⟩ := tracks
      refine ⟨rests, frame, stable, framed, ?_⟩
      exact fun later outcome invariant framedLater allowed =>
        inductionHypothesis outcome (resumes later outcome invariant framedLater allowed)
  | join children next inductionHypothesis =>
      obtain ⟨rests, frame, stable, framed, resumes⟩ := tracks
      refine ⟨rests, frame, stable, framed, ?_⟩
      exact fun later outcome invariant framedLater =>
        inductionHypothesis outcome (resumes later outcome invariant framedLater)

end Simulation

/-! ## Runs -/

namespace Simulation

variable {machine : Machine σ η ρ ω κ ε υ} {contract : Contract machine}
variable (simulation : Simulation contract μ τ)

/-- What a task has yet to do is tracked from its mode on. -/
def Fits (task : Nat) (entry : Task σ η ρ ω κ ε υ) (mode : μ) (state : σ) : Prop :=
  match entry.status with
  | .created => mode = simulation.initial entry.call
  | .awaiting request next =>
      simulation.rests entry.call mode ∧
        ∃ frame, contract.Stable task frame ∧ frame state ∧
          ∀ later outcome, contract.inv later → frame later →
            contract.allowed task (.answered request outcome) later →
            simulation.Tracks task entry.call (next outcome)
              (fun _ mode _ => simulation.ends mode) mode later
  | .joining _ next =>
      simulation.rests entry.call mode ∧
        ∃ frame, contract.Stable task frame ∧ frame state ∧
          ∀ later outcome, contract.inv later → frame later →
            simulation.Tracks task entry.call (next outcome)
              (fun _ mode _ => simulation.ends mode) mode later
  | .ended _ => simulation.ends mode

/-- The other tasks leave true that a task fits its mode. -/
theorem fits_stable (task : Nat) (entry : Task σ η ρ ω κ ε υ) (mode : μ) :
    contract.Stable task (simulation.Fits task entry mode) := by
  intro other effect state different invariant permitted fits
  obtain ⟨call, status⟩ := entry
  cases status with
  | created => exact fits
  | awaiting request next | joining children next =>
      obtain ⟨rests, frame, stable, framed, resumes⟩ := fits
      exact ⟨rests, frame, stable, stable different invariant permitted framed, resumes⟩
  | ended outcome => exact fits

/-- Every task of the system fits its mode, and the modes and the shared state appear
as a plain state. -/
structure Describes (modes : List μ) (plain : τ) (system : System σ η ρ ω κ ε υ) : Prop where
  length : modes.length = system.tasks.length
  fits : ∀ (task : Nat) entry mode, system.tasks[task]? = some entry →
    modes[task]? = some mode → simulation.Fits task entry mode system.state
  appears : simulation.appears system.state modes plain

/-- The same, but for one task, which is being run in the given mode. -/
structure DescribesBut
    (task : Nat)
    (call : κ)
    (mode : μ)
    (modes : List μ)
    (plain : τ)
    (system : System σ η ρ ω κ ε υ) : Prop where
  length : modes.length = system.tasks.length
  running : ∃ status, system.tasks[task]? = some ⟨call, status⟩
  here : modes[task]? = some mode
  fits : ∀ (other : Nat) entry mode, other ≠ task → system.tasks[other]? = some entry →
    modes[other]? = some mode → simulation.Fits other entry mode system.state
  appears : simulation.appears system.state modes plain

variable {simulation} {task : Nat} {mode : μ} {modes : List μ} {plain : τ} {call : κ}
variable {system next : System σ η ρ ω κ ε υ}

/-- A system without tasks is described by no modes. -/
theorem describes_idle {state : σ} (appears : simulation.appears state [] plain) :
    simulation.Describes [] plain (.idle state : System σ η ρ ω κ ε υ) where
  length := rfl
  fits := by simp [System.idle]
  appears := appears

/-- Every task has a mode. -/
theorem Describes.exists_mode
    {entry : Task σ η ρ ω κ ε υ}
    (describes : simulation.Describes modes plain system)
    (found : system.tasks[task]? = some entry) :
    ∃ mode, modes[task]? = some mode ∧ simulation.Fits task entry mode system.state := by
  have inside : task < modes.length :=
    describes.length ▸ (List.getElem?_eq_some_iff.mp found).1
  have here := List.getElem?_eq_getElem inside
  exact ⟨modes[task], here, describes.fits task entry _ found here⟩

theorem Describes.create
    (describes : simulation.Describes modes plain system)
    (started : simulation.mayStart call) :
    simulation.Describes (modes ++ [simulation.initial call]) plain (system.create [call]) where
  length := by simp [System.create, describes.length]
  fits task entry mode found here :=
    System.forall_create simulation.initial (fun _ => True)
      (fun task entry mode => simulation.Fits task entry mode system.state) describes.length
      (fun task entry mode _ => describes.fits task entry mode) (fun _ _ => rfl) [call]
      task entry mode trivial found here
  appears := simulation.appears_start call started describes.appears

/-- While one task runs, the others are as before. -/
theorem Describes.but
    (describes : simulation.Describes modes plain system)
    (found : system.tasks[task]? = some ⟨call, status⟩)
    (here : modes[task]? = some mode) :
    simulation.DescribesBut task call mode modes plain system where
  length := describes.length
  running := ⟨status, found⟩
  here := here
  fits := fun other entry mode _ => describes.fits other entry mode
  appears := describes.appears

namespace DescribesBut

/-- An effect of the running task is matched by steps of the plain machine. -/
theorem perform
    {effect : η}
    {later : μ}
    (describes : simulation.DescribesBut task call mode modes plain system)
    (moves : simulation.moves mode effect system.state later)
    (invariant : contract.inv system.state)
    (permitted : contract.may task effect system.state) :
    ∃ after, Relation.ReflTransGen simulation.step plain after ∧
      simulation.DescribesBut task call later
        (modes.set task later ++ (machine.forks effect system.state).map simulation.initial)
        after (machine.perform effect system) := by
  obtain ⟨after, steps, appears⟩ :=
    simulation.appears_move describes.appears describes.here moves invariant permitted
  obtain ⟨inside, _⟩ := List.getElem?_eq_some_iff.mp describes.here
  refine ⟨after, steps, ?_, ?_, ?_, ?_, appears⟩
  · simp [Machine.perform, System.create, describes.length]
  · obtain ⟨status, found⟩ := describes.running
    exact ⟨status, System.getElem?_create found _⟩
  · rw [List.getElem?_append_left (by rwa [List.length_set]), List.getElem?_set_self inside]
  · refine System.forall_create simulation.initial (· ≠ task)
      (fun task entry mode => simulation.Fits task entry mode (machine.apply effect system.state))
      (by rw [List.length_set, describes.length]) ?_ (fun _ _ => rfl) _
    intro other entry mode apart found here
    rw [List.getElem?_set_ne (Ne.symm apart)] at here
    exact simulation.fits_stable other entry mode apart.symm invariant permitted
      (describes.fits other entry mode apart found here)

/-- The running task comes to rest. -/
theorem settle
    {status : Status σ η ρ ω ε υ}
    (describes : simulation.DescribesBut task call mode modes plain system)
    (fits : simulation.Fits task ⟨call, status⟩ mode system.state) :
    simulation.Describes modes plain (system.settle task status) where
  length := by simp [System.settle, describes.length]
  fits := by
    intro other entry mode found here
    obtain ⟨apart, older⟩ | ⟨rfl, before, running, rfl⟩ := System.getElem?_settle_cases found
    · exact describes.fits other entry mode apart older here
    · obtain ⟨status, same⟩ := describes.running
      cases running.symm.trans same
      cases here.symm.trans describes.here
      exact fits
  appears := describes.appears

/-- Running a safe program that is tracked is matched by steps of the plain
machine. -/
theorem advance
    {program : Coroutine σ η ρ ω ε υ υ}
    (describes : simulation.DescribesBut task call mode modes plain system)
    (tracks : simulation.Tracks task call program (fun _ mode _ => simulation.ends mode) mode
      system.state)
    (sound : contract.SoundBut task call system)
    (safe : contract.Safe task program (contract.ends task call) system.state) :
    ∃ modes after, Relation.ReflTransGen simulation.step plain after ∧
      simulation.Describes modes after (machine.advance task program system) := by
  induction program generalizing mode modes plain system with
  | done outcome => exact ⟨modes, plain, .refl, describes.settle tracks⟩
  | current next inductionHypothesis => exact inductionHypothesis task describes tracks sound safe
  | read next inductionHypothesis =>
      exact inductionHypothesis system.state describes tracks sound safe
  | write effect next inductionHypothesis =>
      obtain ⟨later, moves, follows⟩ := tracks
      obtain ⟨between, first, performed⟩ := describes.perform moves sound.invariant safe.1
      obtain ⟨modes, after, rest, described⟩ :=
        inductionHypothesis _ performed (follows _) (sound.perform safe.1) (safe.2 _)
      exact ⟨modes, after, first.trans rest, described⟩
  | suspend request next _ | join children next _ =>
      exact ⟨modes, plain, .refl, describes.settle tracks⟩

end DescribesBut

/-- The program of every call is tracked from the mode in which the call begins. -/
def TrackingBodies (simulation : Simulation contract μ τ) : Prop :=
  ∀ task call state, contract.inv state → contract.allowed task (.began call) state →
    simulation.Tracks task call (machine.body call) (fun _ mode _ => simulation.ends mode)
      (simulation.initial call) state

variable [DecidableEq ρ]

/-- Every allowed step of the event loop is matched. -/
theorem Describes.step
    {action : Action ρ ω κ ε}
    (bodies : contract.SafeBodies)
    (tracking : simulation.TrackingBodies)
    (describes : simulation.Describes modes plain system)
    (sound : contract.Sound system)
    (permits : contract.Permits system action)
    (started : ∀ call, action = .start call → simulation.mayStart call)
    (stepped : machine.step system action = some next) :
    ∃ modes after, Relation.ReflTransGen simulation.step plain after ∧
      simulation.Describes modes after next := by
  obtain ⟨call, rfl, rfl⟩ | ⟨task, call, program, runs, rfl⟩ := Machine.step_cases stepped
  · exact ⟨_, plain, .refl, describes.create (started call rfl)⟩
  have safe := sound.safe_of_runs bodies permits runs
  cases runs with
  | begins found =>
      obtain ⟨mode, here, rfl⟩ := describes.exists_mode found
      exact (describes.but found here).advance
        (tracking task call system.state sound.invariant (permits _ found)) (sound.but found) safe
  | answered found admitted =>
      obtain ⟨mode, here, _, frame, _, framed, resumes⟩ := describes.exists_mode found
      exact (describes.but found here).advance
        (resumes system.state _ sound.invariant framed permits) (sound.but found) safe
  | joined found joined =>
      obtain ⟨mode, here, _, frame, _, framed, resumes⟩ := describes.exists_mode found
      exact (describes.but found here).advance
        (resumes system.state _ sound.invariant framed) (sound.but found) safe

/-- Every run whose steps are allowed is matched by a run of the plain machine. -/
theorem describes_of_reaches
    {condition : System σ η ρ ω κ ε υ → Action ρ ω κ ε → Prop}
    {start : System σ η ρ ω κ ε υ}
    (bodies : contract.SafeBodies)
    (tracking : simulation.TrackingBodies)
    (describes : simulation.Describes modes plain start)
    (sound : contract.Sound start)
    (permits : ∀ before action, condition before action → contract.Permits before action)
    (started : ∀ before call, condition before (.start call) → simulation.mayStart call)
    (reaches : machine.Reaches condition start system) :
    ∃ modes after, Relation.ReflTransGen simulation.step plain after ∧
      simulation.Describes modes after system := by
  have both : contract.Sound system ∧ ∃ modes after,
      Relation.ReflTransGen simulation.step plain after ∧
        simulation.Describes modes after system := by
    induction reaches with
    | refl => exact ⟨sound, modes, plain, .refl, describes⟩
    | @step before next action _ met stepped inductionHypothesis =>
        obtain ⟨sound, modes, between, first, describes⟩ := inductionHypothesis
        have starts : ∀ call, action = .start call → simulation.mayStart call :=
          fun call same => started before call (same ▸ met)
        obtain ⟨modes, after, rest, described⟩ := describes.step bodies tracking sound
          (permits _ _ met) starts stepped
        exact ⟨sound.step bodies (permits _ _ met) stepped, modes, after, first.trans rest,
          described⟩
  exact both.2

end Simulation

end EventLoop
