import Promch.Library.AsyncLock

/-!
# Programs that follow a pattern

A pattern tells how a program may go on after a write and with the answer to a
request, whatever a caller does afterwards; so it can say that a request is
awaited inside calls of one subroutine only.  If all programs follow a pattern,
then so does everything at which the tasks of a run have come to rest.
-/

namespace EventLoop

variable {σ η ρ κ ε υ α β γ : Type} {ω : ρ → Type}

namespace Coroutine

@[simp] theorem handle_done (program : Coroutine σ η ρ ω ε υ α) :
    program.handle .done = program := by
  induction program with
  | done outcome => rfl
  | current next inductionHypothesis | read next inductionHypothesis
  | write effect next inductionHypothesis | suspend request next inductionHypothesis
  | join children next inductionHypothesis =>
      simp only [handle, inductionHypothesis]

theorem handle_handle
    (program : Coroutine σ η ρ ω ε υ α)
    (first : Except ε α → Coroutine σ η ρ ω ε υ β)
    (second : Except ε β → Coroutine σ η ρ ω ε υ γ) :
    (program.handle first).handle second =
      program.handle fun outcome => (first outcome).handle second := by
  induction program with
  | done outcome => rfl
  | current next inductionHypothesis | read next inductionHypothesis
  | write effect next inductionHypothesis | suspend request next inductionHypothesis
  | join children next inductionHypothesis =>
      simp only [handle, inductionHypothesis]

end Coroutine

/-- A pattern: what a task may write and await, and how it goes on.  A caller may
add anything to the end. -/
structure Pattern (σ η ρ : Type) (ω : ρ → Type) (ε υ : Type) where
  writes : {α : Type} → Nat → η → (List Nat → Coroutine σ η ρ ω ε υ α) → Prop
  awaits : {α : Type} → Nat → (request : ρ) →
    (Except ε (ω request) → Coroutine σ η ρ ω ε υ α) → Prop
  writes_handle : ∀ {α β : Type} {task : Nat} {effect : η}
    {next : List Nat → Coroutine σ η ρ ω ε υ α}
    (resume : Except ε α → Coroutine σ η ρ ω ε υ β),
    writes task effect next → writes task effect fun created => (next created).handle resume
  awaits_handle : ∀ {α β : Type} {task : Nat} {request : ρ}
    {next : Except ε (ω request) → Coroutine σ η ρ ω ε υ α}
    (resume : Except ε α → Coroutine σ η ρ ω ε υ β),
    awaits task request next → awaits task request fun answer => (next answer).handle resume

/-- Every write and every await of a program that a task runs follows a pattern. -/
def Coroutine.Follows (pattern : Pattern σ η ρ ω ε υ) (task : Nat) :
    Coroutine σ η ρ ω ε υ α → Prop
  | .done _ => True
  | .current next => (next task).Follows pattern task
  | .read next => ∀ state, (next state).Follows pattern task
  | .write effect next =>
      pattern.writes task effect next ∧ ∀ created, (next created).Follows pattern task
  | .suspend request next =>
      pattern.awaits task request next ∧ ∀ answer, (next answer).Follows pattern task
  | .join _ next => ∀ results, (next results).Follows pattern task

namespace Coroutine

variable {pattern : Pattern σ η ρ ω ε υ} {task : Nat}

theorem Follows.handle
    {program : Coroutine σ η ρ ω ε υ α}
    {resume : Except ε α → Coroutine σ η ρ ω ε υ β}
    (follows : program.Follows pattern task)
    (resumes : ∀ outcome, (resume outcome).Follows pattern task) :
    (program.handle resume).Follows pattern task := by
  induction program with
  | done outcome => exact resumes outcome
  | current next inductionHypothesis => exact inductionHypothesis task follows
  | read next inductionHypothesis | join children next inductionHypothesis =>
      exact fun value => inductionHypothesis value (follows value)
  | write effect next inductionHypothesis =>
      exact ⟨pattern.writes_handle resume follows.1,
        fun created => inductionHypothesis created (follows.2 created)⟩
  | suspend request next inductionHypothesis =>
      exact ⟨pattern.awaits_handle resume follows.1,
        fun answer => inductionHypothesis answer (follows.2 answer)⟩

theorem Follows.bind
    {program : Coroutine σ η ρ ω ε υ α}
    {next : α → Coroutine σ η ρ ω ε υ β}
    (follows : program.Follows pattern task)
    (continues : ∀ value, (next value).Follows pattern task) :
    (program >>= next).Follows pattern task := by
  apply Follows.handle follows
  intro outcome
  cases outcome with
  | ok value => exact continues value
  | error fault => trivial

theorem Follows.attempt
    {program : Coroutine σ η ρ ω ε υ α}
    (follows : program.Follows pattern task) :
    program.attempt.Follows pattern task :=
  follows.handle fun _ => trivial

theorem follows_pure (value : α) :
    (pure value : Coroutine σ η ρ ω ε υ α).Follows pattern task := trivial

theorem follows_raise (fault : ε) :
    (raise fault : Coroutine σ η ρ ω ε υ α).Follows pattern task := trivial

theorem follows_conclude (outcome : Except ε α) :
    (conclude outcome : Coroutine σ η ρ ω ε υ α).Follows pattern task := trivial

theorem follows_currentTask :
    (currentTask : Coroutine σ η ρ ω ε υ Nat).Follows pattern task := trivial

theorem follows_gets (part : σ → α) :
    (gets part : Coroutine σ η ρ ω ε υ α).Follows pattern task := fun _ => trivial

theorem follows_emit
    {effect : η}
    (writes : pattern.writes task effect
      (fun _ => .done (.ok ()) : List Nat → Coroutine σ η ρ ω ε υ Unit)) :
    (emit effect : Coroutine σ η ρ ω ε υ Unit).Follows pattern task :=
  ⟨writes, fun _ => trivial⟩

theorem follows_emitAndJoin
    {effect : η}
    (writes : pattern.writes task effect
      (fun created => .join created .done :
        List Nat → Coroutine σ η ρ ω ε υ (List υ))) :
    (emitAndJoin effect : Coroutine σ η ρ ω ε υ (List υ)).Follows pattern task :=
  ⟨writes, fun _ _ => trivial⟩

theorem follows_await
    {request : ρ}
    (awaits : pattern.awaits task request
      (.done : Except ε (ω request) → Coroutine σ η ρ ω ε υ (ω request))) :
    (await request : Coroutine σ η ρ ω ε υ (ω request)).Follows pattern task :=
  ⟨awaits, fun _ => trivial⟩

section Locks

variable {lockOf : σ → AsyncLock} {op : LockOp → η} {turn : ρ}

theorem follows_holding
    {program : Coroutine σ η ρ ω ε υ α}
    (releases : pattern.writes task (op .release)
      (fun _ => .done (.ok ()) : List Nat → Coroutine σ η ρ ω ε υ Unit))
    (follows : program.Follows pattern task) :
    (holding op program).Follows pattern task := by
  apply Follows.bind follows.attempt
  intro outcome
  exact Follows.bind (follows_emit releases) fun _ => follows_conclude outcome

/-- A program under a lock about which the pattern says nothing. -/
theorem follows_withLock
    {program : Coroutine σ η ρ ω ε υ α}
    (writes : ∀ operation (next : List Nat → Coroutine σ η ρ ω ε υ α),
      pattern.writes task (op operation) next)
    (releases : pattern.writes task (op .release)
      (fun _ => .done (.ok ()) : List Nat → Coroutine σ η ρ ω ε υ Unit))
    (awaits : ∀ next : Except ε (ω turn) → Coroutine σ η ρ ω ε υ α,
      pattern.awaits task turn next)
    (follows : program.Follows pattern task) :
    (withLock lockOf op turn program).Follows pattern task := by
  rw [withLock_eq]
  intro state
  dsimp only
  split
  · exact ⟨writes _ _, fun _ => follows_holding releases follows⟩
  · refine ⟨writes _ _, fun _ => ⟨awaits _, fun answer => ?_⟩⟩
    cases answer with
    | ok value => exact ⟨writes _ _, fun _ => follows_holding releases follows⟩
    | error fault => exact ⟨writes _ _, fun _ => trivial⟩

end Locks

end Coroutine

/-- What a task has yet to do follows a pattern. -/
def Status.Follows (pattern : Pattern σ η ρ ω ε υ) (task : Nat) :
    Status σ η ρ ω ε υ → Prop
  | .awaiting request next =>
      pattern.awaits task request next ∧ ∀ answer, (next answer).Follows pattern task
  | .joining _ next => ∀ results, (next results).Follows pattern task
  | _ => True

/-- What the tasks have yet to do follows a pattern. -/
def System.Follows (pattern : Pattern σ η ρ ω ε υ) (system : System σ η ρ ω κ ε υ) : Prop :=
  ∀ (task : Nat) (entry : Task σ η ρ ω κ ε υ), system.tasks[task]? = some entry →
    entry.status.Follows pattern task

section Runs

variable {machine : Machine σ η ρ ω κ ε υ} {pattern : Pattern σ η ρ ω ε υ}
variable {system : System σ η ρ ω κ ε υ} {task : Nat}

theorem System.Follows.create
    (follows : system.Follows pattern)
    (calls : List κ) :
    (system.create calls).Follows pattern := by
  intro task entry found
  obtain older | ⟨call, _, rfl⟩ := System.getElem?_create_cases found
  · exact follows task entry older
  · trivial

theorem System.Follows.settle
    {status : Status σ η ρ ω ε υ}
    (follows : system.Follows pattern)
    (here : status.Follows pattern task) :
    (system.settle task status).Follows pattern := by
  intro other entry found
  obtain ⟨_, older⟩ | ⟨rfl, _, _, rfl⟩ := System.getElem?_settle_cases found
  · exact follows other entry older
  · exact here

/-- A program that follows a pattern leaves the rest of itself behind, which
follows it too. -/
theorem System.Follows.advance
    {program : Coroutine σ η ρ ω ε υ υ}
    (follows : system.Follows pattern)
    (here : program.Follows pattern task) :
    (machine.advance task program system).Follows pattern := by
  induction program generalizing system with
  | done outcome => exact follows.settle trivial
  | current next inductionHypothesis => exact inductionHypothesis task follows here
  | read next inductionHypothesis =>
      exact inductionHypothesis system.state follows (here system.state)
  | write effect next inductionHypothesis =>
      have performed : (machine.perform effect system).Follows pattern :=
        System.Follows.create follows _
      exact inductionHypothesis _ performed (here.2 _)
  | suspend request next _ => exact follows.settle here
  | join children next _ => exact follows.settle here

/-- What a task runs in a step follows the pattern. -/
theorem Machine.Runs.follows
    {action : Action ρ ω κ ε}
    {call : κ}
    {program : Coroutine σ η ρ ω ε υ υ}
    (runs : machine.Runs system action task call program)
    (bodies : ∀ task call, (machine.body call).Follows pattern task)
    (follows : system.Follows pattern) :
    program.Follows pattern task := by
  cases runs with
  | begins found => exact bodies task call
  | answered found admitted => exact (follows task _ found).2 _
  | joined found joined => exact follows task _ found _

/-- Every step leaves programs behind that follow the pattern. -/
theorem System.Follows.step [DecidableEq ρ]
    {next : System σ η ρ ω κ ε υ}
    {action : Action ρ ω κ ε}
    (follows : system.Follows pattern)
    (bodies : ∀ task call, (machine.body call).Follows pattern task)
    (stepped : machine.step system action = some next) :
    next.Follows pattern := by
  obtain ⟨call, _, rfl⟩ | ⟨task, call, program, runs, rfl⟩ := Machine.step_cases stepped
  · exact follows.create [call]
  · exact follows.advance (runs.follows bodies follows)

end Runs

end EventLoop
