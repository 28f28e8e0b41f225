import Mathlib.Data.List.Basic

/-!
# Coroutines and event loops

A coroutine is a program that gives up control only where it awaits.  Between
two awaits it reads and changes a shared state without interruption.  Every
change is a named effect, so that what a program may do to the state can be
stated effect by effect.  A machine runs any number of such programs as tasks
of one event loop: at every step one task that is able to go on runs up to its
next await, and the environment chooses the task and the answer it receives.
-/

namespace EventLoop

/-- A program over a shared state `σ` with effects `η`.  It awaits answers to
requests `ρ`, or the results `υ` of other tasks; every await may raise an
exception `ε`. -/
inductive Coroutine (σ η ρ : Type) (ω : ρ → Type) (ε υ α : Type) : Type
  /-- Return a value or raise an exception. -/
  | done (outcome : Except ε α)
  /-- Ask for the number of the running task. -/
  | current (next : Nat → Coroutine σ η ρ ω ε υ α)
  /-- Read the shared state. -/
  | read (next : σ → Coroutine σ η ρ ω ε υ α)
  /-- Change the shared state; the program goes on with the tasks created. -/
  | write (effect : η) (next : List Nat → Coroutine σ η ρ ω ε υ α)
  /-- Await the answer to a request. -/
  | suspend (request : ρ) (next : Except ε (ω request) → Coroutine σ η ρ ω ε υ α)
  /-- Await other tasks. -/
  | join (children : List Nat) (next : Except ε (List υ) → Coroutine σ η ρ ω ε υ α)

namespace Coroutine

variable {σ η ρ ε υ α β : Type} {ω : ρ → Type}

/-- Go on with what a program returned or raised. -/
def handle
    (program : Coroutine σ η ρ ω ε υ α)
    (resume : Except ε α → Coroutine σ η ρ ω ε υ β) : Coroutine σ η ρ ω ε υ β :=
  match program with
  | .done outcome => resume outcome
  | .current next => .current fun task => (next task).handle resume
  | .read next => .read fun state => (next state).handle resume
  | .write effect next => .write effect fun created => (next created).handle resume
  | .suspend request next => .suspend request fun answer => (next answer).handle resume
  | .join children next => .join children fun results => (next results).handle resume

/-- What follows a program that raised nothing. -/
def andThen (next : α → Coroutine σ η ρ ω ε υ β) : Except ε α → Coroutine σ η ρ ω ε υ β
  | .ok value => next value
  | .error fault => .done (.error fault)

instance : Monad (Coroutine σ η ρ ω ε υ) where
  pure value := .done (.ok value)
  bind program next := program.handle (andThen next)

/-- Raise an exception. -/
def raise (fault : ε) : Coroutine σ η ρ ω ε υ α :=
  .done (.error fault)

/-- Return or raise what another program did. -/
def conclude (outcome : Except ε α) : Coroutine σ η ρ ω ε υ α :=
  .done outcome

/-- Run a program and catch what it raises. -/
def attempt (program : Coroutine σ η ρ ω ε υ α) : Coroutine σ η ρ ω ε υ (Except ε α) :=
  program.handle fun outcome => .done (.ok outcome)

/-- The number of the running task. -/
def currentTask : Coroutine σ η ρ ω ε υ Nat :=
  .current pure

/-- A part of the shared state. -/
def gets (part : σ → α) : Coroutine σ η ρ ω ε υ α :=
  .read fun state => pure (part state)

/-- Change the shared state. -/
def emit (effect : η) : Coroutine σ η ρ ω ε υ Unit :=
  .write effect fun _ => pure ()

/-- Change the shared state and await the tasks created on the way. -/
def emitAndJoin (effect : η) : Coroutine σ η ρ ω ε υ (List υ) :=
  .write effect fun created => .join created .done

/-- Await the answer to a request. -/
def await (request : ρ) : Coroutine σ η ρ ω ε υ (ω request) :=
  .suspend request .done

end Coroutine

/-- How far a task has come. -/
inductive Status (σ η ρ : Type) (ω : ρ → Type) (ε υ : Type) : Type
  | created
  | awaiting (request : ρ) (next : Except ε (ω request) → Coroutine σ η ρ ω ε υ υ)
  | joining (children : List Nat) (next : Except ε (List υ) → Coroutine σ η ρ ω ε υ υ)
  | ended (outcome : Except ε υ)

namespace Status

variable {σ η ρ ε υ : Type} {ω : ρ → Type}

/-- The request that a task awaits the answer to. -/
def request? : Status σ η ρ ω ε υ → Option ρ
  | .awaiting request _ => some request
  | _ => none

/-- A task has run its first part. -/
def isBegun : Status σ η ρ ω ε υ → Bool
  | .created => false
  | _ => true

/-- What a task returned or raised. -/
def outcome? : Status σ η ρ ω ε υ → Option (Except ε υ)
  | .ended outcome => some outcome
  | _ => none

end Status

/-- A task: the call it runs and how far it has come. -/
structure Task (σ η ρ : Type) (ω : ρ → Type) (κ ε υ : Type) where
  call : κ
  status : Status σ η ρ ω ε υ

/-- The shared state and all tasks ever created; a task is its position. -/
structure System (σ η ρ : Type) (ω : ρ → Type) (κ ε υ : Type) where
  state : σ
  tasks : List (Task σ η ρ ω κ ε υ)

/-- What the environment does next. -/
inductive Action (ρ : Type) (ω : ρ → Type) (κ ε : Type) : Type
  /-- Create a task. -/
  | start (call : κ)
  /-- Run the first part of a created task. -/
  | begin (task : Nat)
  /-- Answer the request that a task awaits. -/
  | answer (task : Nat) (request : ρ) (outcome : Except ε (ω request))
  /-- Wake a task whose children have all returned, or one of them, the given
  one, has raised. -/
  | join (task : Nat) (failed : Option Nat)

/-- The task that goes on. -/
def Action.task? : Action ρ ω κ ε → Option Nat
  | .start _ => none
  | .begin task => some task
  | .answer task _ _ => some task
  | .join task _ => some task

/-- An event loop: what effects do, which tasks they create, the program of
every call, and which answers a request can receive. -/
structure Machine (σ η ρ : Type) (ω : ρ → Type) (κ ε υ : Type) where
  apply : η → σ → σ
  forks : η → σ → List κ
  body : κ → Coroutine σ η ρ ω ε υ υ
  admits : Nat → (request : ρ) → Except ε (ω request) → σ → Bool

namespace System

variable {σ η ρ κ ε υ : Type} {ω : ρ → Type}

/-- A system without tasks. -/
def idle (state : σ) : System σ η ρ ω κ ε υ where
  state := state
  tasks := []

/-- The calls of all tasks ever created. -/
def calls (system : System σ η ρ ω κ ε υ) : List κ :=
  system.tasks.map Task.call

/-- The status of a task. -/
def status? (system : System σ η ρ ω κ ε υ) (task : Nat) : Option (Status σ η ρ ω ε υ) :=
  system.tasks[task]?.map Task.status

/-- Create tasks. -/
def create (system : System σ η ρ ω κ ε υ) (calls : List κ) : System σ η ρ ω κ ε υ :=
  { system with tasks := system.tasks ++ calls.map fun call => ⟨call, .created⟩ }

/-- Record how far a task has come. -/
def settle
    (system : System σ η ρ ω κ ε υ)
    (task : Nat)
    (status : Status σ η ρ ω ε υ) : System σ η ρ ω κ ε υ :=
  { system with tasks := system.tasks.modify task fun entry => { entry with status := status } }

section Tasks

variable {system : System σ η ρ ω κ ε υ} {task other : Nat} {entry : Task σ η ρ ω κ ε υ}

/-- The tasks there are go on to be there. -/
theorem getElem?_create
    (found : system.tasks[task]? = some entry)
    (calls : List κ) :
    (system.create calls).tasks[task]? = some entry := by
  have inside := (List.getElem?_eq_some_iff.mp found).1
  exact (List.getElem?_append_left inside).trans found

theorem getElem?_create_cases
    {calls : List κ}
    (found : (system.create calls).tasks[task]? = some entry) :
    system.tasks[task]? = some entry ∨ ∃ call ∈ calls, entry = ⟨call, .created⟩ := by
  simp only [create, List.getElem?_append] at found
  split at found
  · exact .inl found
  · obtain ⟨call, member, rfl⟩ := List.mem_map.mp (List.mem_of_getElem? found)
    exact .inr ⟨call, member, rfl⟩

/-- What holds of the tasks and their modes holds of tasks that are created in the
modes in which their calls begin. -/
theorem forall_create
    {μ : Type}
    {modes : List μ}
    (initial : κ → μ)
    (among : Nat → Prop)
    (fact : Nat → Task σ η ρ ω κ ε υ → μ → Prop)
    (length : modes.length = system.tasks.length)
    (holds : ∀ (task : Nat) entry mode, among task → system.tasks[task]? = some entry →
      modes[task]? = some mode → fact task entry mode)
    (begins : ∀ task call, fact task ⟨call, .created⟩ (initial call))
    (calls : List κ) :
    ∀ (task : Nat) entry mode, among task → (system.create calls).tasks[task]? = some entry →
      (modes ++ calls.map initial)[task]? = some mode → fact task entry mode := by
  intro task entry mode member found here
  rw [create, List.getElem?_append] at found
  rw [List.getElem?_append, length] at here
  by_cases inside : task < system.tasks.length
  · rw [if_pos inside] at found here
    exact holds task entry mode member found here
  · rw [if_neg inside, List.getElem?_map, Option.map_eq_some_iff] at found here
    obtain ⟨call, position, rfl⟩ := found
    obtain ⟨_, same, rfl⟩ := here
    cases position.symm.trans same
    exact begins task call

theorem getElem?_settle_self
    (found : system.tasks[task]? = some entry)
    (status : Status σ η ρ ω ε υ) :
    (system.settle task status).tasks[task]? = some ⟨entry.call, status⟩ := by
  simp [settle, found]

theorem getElem?_settle_of_ne
    (apart : other ≠ task)
    (status : Status σ η ρ ω ε υ) :
    (system.settle task status).tasks[other]? = system.tasks[other]? := by
  simp [settle, apart.symm]

theorem getElem?_settle_cases
    {status : Status σ η ρ ω ε υ}
    (found : (system.settle task status).tasks[other]? = some entry) :
    (other ≠ task ∧ system.tasks[other]? = some entry) ∨
      other = task ∧ ∃ before, system.tasks[task]? = some before ∧
        entry = ⟨before.call, status⟩ := by
  by_cases same : other = task
  · subst same
    simp only [settle, List.getElem?_modify_eq, Option.map_eq_map,
      Option.map_eq_some_iff] at found
    obtain ⟨before, position, rfl⟩ := found
    exact .inr ⟨rfl, before, position, rfl⟩
  · rw [getElem?_settle_of_ne same] at found
    exact .inl ⟨same, found⟩

end Tasks

/-- What a child returned, once it has. -/
def returned (system : System σ η ρ ω κ ε υ) (child : Nat) : Option υ :=
  match system.status? child with
  | some (.ended (.ok value)) => some value
  | _ => none

/-- What a child raised, once it has. -/
def raisedBy (system : System σ η ρ ω κ ε υ) (child : Nat) : Option ε :=
  match system.status? child with
  | some (.ended (.error fault)) => some fault
  | _ => none

/-- The outcome that awaiting children has when it is over: all results, or the
exception of a child that failed. -/
def joined
    (system : System σ η ρ ω κ ε υ)
    (children : List Nat)
    (failed : Option Nat) : Option (Except ε (List υ)) :=
  match failed with
  | none => (children.mapM system.returned).map .ok
  | some child =>
      if child ∈ children then (system.raisedBy child).map .error else none

/-- Awaiting children raises exactly when a failed one is given. -/
theorem isOk_of_joined
    {system : System σ η ρ ω κ ε υ}
    {children : List Nat}
    {failed : Option Nat}
    {outcome : Except ε (List υ)}
    (joined : system.joined children failed = some outcome) :
    outcome.isOk = failed.isNone := by
  cases failed with
  | none =>
      obtain ⟨results, _, rfl⟩ := Option.map_eq_some_iff.mp joined
      rfl
  | some child =>
      simp only [System.joined] at joined
      split at joined
      · obtain ⟨fault, _, rfl⟩ := Option.map_eq_some_iff.mp joined
        rfl
      · cases joined

/-- No task is under way any more. -/
def Finished (system : System σ η ρ ω κ ε υ) : Prop :=
  ∀ task ∈ system.tasks, task.status.outcome?.isSome

instance (system : System σ η ρ ω κ ε υ) : Decidable system.Finished :=
  inferInstanceAs (Decidable (∀ task ∈ system.tasks, task.status.outcome?.isSome))

/-- Every task has ended without an exception. -/
def Succeeded (system : System σ η ρ ω κ ε υ) : Prop :=
  ∀ task ∈ system.tasks, task.status.outcome?.any Except.isOk

instance (system : System σ η ρ ω κ ε υ) : Decidable system.Succeeded :=
  inferInstanceAs (Decidable (∀ task ∈ system.tasks, task.status.outcome?.any Except.isOk))

end System

namespace Machine

variable {σ η ρ κ ε υ : Type} {ω : ρ → Type}

/-- Perform one effect. -/
def perform
    (machine : Machine σ η ρ ω κ ε υ)
    (effect : η)
    (system : System σ η ρ ω κ ε υ) : System σ η ρ ω κ ε υ :=
  { system with state := machine.apply effect system.state }.create
    (machine.forks effect system.state)

/-- The positions of the tasks that an effect creates. -/
def created
    (machine : Machine σ η ρ ω κ ε υ)
    (effect : η)
    (system : System σ η ρ ω κ ε υ) : List Nat :=
  List.range' system.tasks.length (machine.forks effect system.state).length

/-- Run a task up to its next await. -/
def advance
    (machine : Machine σ η ρ ω κ ε υ)
    (task : Nat)
    (program : Coroutine σ η ρ ω ε υ υ)
    (system : System σ η ρ ω κ ε υ) : System σ η ρ ω κ ε υ :=
  match program with
  | .done outcome => system.settle task (.ended outcome)
  | .current next => machine.advance task (next task) system
  | .read next => machine.advance task (next system.state) system
  | .write effect next =>
      machine.advance task (next (machine.created effect system))
        (machine.perform effect system)
  | .suspend request next => system.settle task (.awaiting request next)
  | .join children next => system.settle task (.joining children next)

/-- One step of the event loop; `none` when the action is not possible. -/
def step [DecidableEq ρ]
    (machine : Machine σ η ρ ω κ ε υ)
    (system : System σ η ρ ω κ ε υ) :
    Action ρ ω κ ε → Option (System σ η ρ ω κ ε υ)
  | .start call => some (system.create [call])
  | .begin task =>
      match system.tasks[task]? with
      | some ⟨call, .created⟩ => some (machine.advance task (machine.body call) system)
      | _ => none
  | .answer task request outcome =>
      match system.tasks[task]? with
      | some ⟨_, .awaiting asked next⟩ =>
          if same : request = asked then
            if machine.admits task request outcome system.state then
              some (machine.advance task (next (same ▸ outcome)) system)
            else none
          else none
      | _ => none
  | .join task failed =>
      match system.tasks[task]? with
      | some ⟨_, .joining children next⟩ =>
          (system.joined children failed).map fun outcome =>
            machine.advance task (next outcome) system
      | _ => none

/-- The part of its program that an action has a task run. -/
inductive Runs
    (machine : Machine σ η ρ ω κ ε υ)
    (system : System σ η ρ ω κ ε υ) :
    Action ρ ω κ ε → Nat → κ → Coroutine σ η ρ ω ε υ υ → Prop
  | begins {task : Nat} {call : κ}
      (found : system.tasks[task]? = some ⟨call, .created⟩) :
      Runs machine system (.begin task) task call (machine.body call)
  | answered {task : Nat} {call : κ} {request : ρ} {outcome : Except ε (ω request)}
      {next : Except ε (ω request) → Coroutine σ η ρ ω ε υ υ}
      (found : system.tasks[task]? = some ⟨call, .awaiting request next⟩)
      (admitted : machine.admits task request outcome system.state = true) :
      Runs machine system (.answer task request outcome) task call (next outcome)
  | joined {task : Nat} {call : κ} {children : List Nat} {failed : Option Nat}
      {outcome : Except ε (List υ)}
      {next : Except ε (List υ) → Coroutine σ η ρ ω ε υ υ}
      (found : system.tasks[task]? = some ⟨call, .joining children next⟩)
      (joined : system.joined children failed = some outcome) :
      Runs machine system (.join task failed) task call (next outcome)

/-- A step creates a task, or runs a part of the program of one task. -/
theorem step_cases [DecidableEq ρ]
    {machine : Machine σ η ρ ω κ ε υ}
    {system next : System σ η ρ ω κ ε υ}
    {action : Action ρ ω κ ε}
    (stepped : machine.step system action = some next) :
    (∃ call, action = .start call ∧ next = system.create [call]) ∨
      ∃ task call program, machine.Runs system action task call program ∧
        next = machine.advance task program system := by
  cases action with
  | start call =>
      cases stepped
      exact .inl ⟨call, rfl, rfl⟩
  | begin task =>
      simp only [step] at stepped
      split at stepped
      · next call found =>
          cases stepped
          exact .inr ⟨task, call, _, .begins found, rfl⟩
      · cases stepped
  | answer task request outcome =>
      simp only [step] at stepped
      split at stepped
      · next call asked resume found =>
          split at stepped
          · next same =>
              subst same
              split at stepped
              · next admitted =>
                  cases stepped
                  exact .inr ⟨task, call, _, .answered found admitted, rfl⟩
              · cases stepped
          · cases stepped
      · cases stepped
  | join task failed =>
      simp only [step] at stepped
      split at stepped
      · next call children resume found =>
          obtain ⟨outcome, joined, rfl⟩ := Option.map_eq_some_iff.mp stepped
          exact .inr ⟨task, call, _, .joined found joined, rfl⟩
      · cases stepped

/-- The answer to what a task awaits has it go on, if the answer is possible. -/
theorem step_answer [DecidableEq ρ]
    {machine : Machine σ η ρ ω κ ε υ}
    {system : System σ η ρ ω κ ε υ}
    {task : Nat}
    {request : ρ}
    {next : Except ε (ω request) → Coroutine σ η ρ ω ε υ υ}
    (found : system.tasks[task]? = some ⟨call, .awaiting request next⟩)
    (outcome : Except ε (ω request)) :
    machine.step system (.answer task request outcome) =
      if machine.admits task request outcome system.state then
        some (machine.advance task (next outcome) system)
      else none := by
  simp [step, found]

/-- A task that has been answered has gone on with an answer that was possible. -/
theorem next_of_answer [DecidableEq ρ]
    {machine : Machine σ η ρ ω κ ε υ}
    {system next : System σ η ρ ω κ ε υ}
    {task : Nat}
    {request : ρ}
    {outcome : Except ε (ω request)}
    {rest : Except ε (ω request) → Coroutine σ η ρ ω ε υ υ}
    (found : system.tasks[task]? = some ⟨call, .awaiting request rest⟩)
    (stepped : machine.step system (.answer task request outcome) = some next) :
    machine.admits task request outcome system.state = true ∧
      next = machine.advance task (rest outcome) system := by
  rw [step_answer found] at stepped
  split at stepped
  · next admitted => exact ⟨admitted, (Option.some.inj stepped).symm⟩
  · cases stepped

/-- Several steps of the event loop, as long as they meet a condition. -/
def run [DecidableEq ρ]
    (machine : Machine σ η ρ ω κ ε υ)
    (condition : System σ η ρ ω κ ε υ → Action ρ ω κ ε → Prop)
    [∀ system action, Decidable (condition system action)]
    (system : System σ η ρ ω κ ε υ) :
    List (Action ρ ω κ ε) → Option (System σ η ρ ω κ ε υ)
  | [] => some system
  | action :: rest =>
      if condition system action then
        (machine.step system action).bind fun next => machine.run condition next rest
      else none

/-- A system is reached by a run all of whose steps meet a condition. -/
inductive Reaches [DecidableEq ρ]
    (machine : Machine σ η ρ ω κ ε υ)
    (condition : System σ η ρ ω κ ε υ → Action ρ ω κ ε → Prop)
    (start : System σ η ρ ω κ ε υ) : System σ η ρ ω κ ε υ → Prop
  | refl : Reaches machine condition start start
  | step {system next : System σ η ρ ω κ ε υ} {action : Action ρ ω κ ε} :
      Reaches machine condition start system →
      condition system action →
      machine.step system action = some next →
      Reaches machine condition start next

/-- A weaker condition is met by more runs. -/
theorem Reaches.mono [DecidableEq ρ]
    {machine : Machine σ η ρ ω κ ε υ}
    {condition weaker : System σ η ρ ω κ ε υ → Action ρ ω κ ε → Prop}
    {start system : System σ η ρ ω κ ε υ}
    (weakens : ∀ before action, condition before action → weaker before action)
    (reaches : machine.Reaches condition start system) :
    machine.Reaches weaker start system := by
  induction reaches with
  | refl => exact .refl
  | step _ met stepped inductionHypothesis =>
      exact .step inductionHypothesis (weakens _ _ met) stepped

/-- What a run computes is reached. -/
theorem Reaches.of_run [DecidableEq ρ]
    {machine : Machine σ η ρ ω κ ε υ}
    {condition : System σ η ρ ω κ ε υ → Action ρ ω κ ε → Prop}
    [∀ system action, Decidable (condition system action)]
    {start middle system : System σ η ρ ω κ ε υ}
    {actions : List (Action ρ ω κ ε)}
    (before : machine.Reaches condition start middle)
    (ran : machine.run condition middle actions = some system) :
    machine.Reaches condition start system := by
  induction actions generalizing middle with
  | nil =>
      cases ran
      exact before
  | cons action rest inductionHypothesis =>
      simp only [run] at ran
      split at ran
      · next met =>
          obtain ⟨next, stepped, continued⟩ := Option.bind_eq_some_iff.mp ran
          exact inductionHypothesis (before.step met stepped) continued
      · cases ran

/-- A run that computes to a system with some property reaches such a system. -/
theorem exists_reaches_of_run [DecidableEq ρ]
    {machine : Machine σ η ρ ω κ ε υ}
    {condition : System σ η ρ ω κ ε υ → Action ρ ω κ ε → Prop}
    [∀ system action, Decidable (condition system action)]
    {start : System σ η ρ ω κ ε υ}
    (actions : List (Action ρ ω κ ε))
    (property : System σ η ρ ω κ ε υ → Bool)
    (ran : (machine.run condition start actions).any property = true) :
    ∃ system, machine.Reaches condition start system ∧ property system = true := by
  obtain ⟨system, computed, holds⟩ := (Option.any_eq_true _ _).mp ran
  exact ⟨system, Reaches.refl.of_run computed, holds⟩

end Machine

end EventLoop
