import Mathlib.Data.List.Nodup
import Promch.Library.Subroutines

/-!
# The queue of a lock

A task that queues up for a lock awaits its turn at once, and goes on by taking
the lock or by leaving the queue.  If all programs of a machine keep to this,
then in every run the queue of the lock consists of tasks that await their turn,
each of which stands in it once.
-/

namespace EventLoop

variable {σ η ρ κ ε υ α : Type} {ω : ρ → Type}
variable {machine : Machine σ η ρ ω κ ε υ} {pattern : Pattern σ η ρ ω ε υ}
variable {lockOf : σ → AsyncLock} {op : LockOp → η} {turn : ρ}
variable {system : System σ η ρ ω κ ε υ} {task other : Nat}

namespace System

/-- A task awaits the answer to a request. -/
def IsAwaiting (system : System σ η ρ ω κ ε υ) (task : Nat) (request : ρ) : Prop :=
  ∃ call next, system.tasks[task]? = some ⟨call, .awaiting request next⟩

theorem IsAwaiting.settle
    {request : ρ}
    (awaiting : system.IsAwaiting other request)
    (apart : other ≠ task)
    (status : Status σ η ρ ω ε υ) :
    (system.settle task status).IsAwaiting other request := by
  obtain ⟨call, next, found⟩ := awaiting
  exact ⟨call, next, (getElem?_settle_of_ne apart status).trans found⟩

theorem IsAwaiting.create
    {request : ρ}
    (awaiting : system.IsAwaiting task request)
    (calls : List κ) :
    (system.create calls).IsAwaiting task request := by
  obtain ⟨call, next, found⟩ := awaiting
  exact ⟨call, next, getElem?_create found calls⟩

/-- The queue of a lock is in order. -/
structure Queue
    (lockOf : σ → AsyncLock)
    (turn : ρ)
    (system : System σ η ρ ω κ ε υ) : Prop where
  nodup : (lockOf system.state).waiters.Nodup
  awaiting : ∀ waiter ∈ (lockOf system.state).waiters, system.IsAwaiting waiter turn

end System

/-- A machine whose programs follow the pattern queues up for a lock in order. -/
structure Queueing
    (machine : Machine σ η ρ ω κ ε υ)
    (pattern : Pattern σ η ρ ω ε υ)
    (lockOf : σ → AsyncLock)
    (op : LockOp → η)
    (turn : ρ) : Prop where
  follows : ∀ task call, (machine.body call).Follows pattern task
  lock_apply : ∀ operation state,
    lockOf (machine.apply (op operation) state) = (lockOf state).apply operation
  /-- Only by queueing up the queue grows. -/
  shrinks : ∀ effect state, (∀ waiter, effect ≠ op (.enqueue waiter)) →
    (lockOf (machine.apply effect state)).waiters.Sublist (lockOf state).waiters
  /-- A task that queues up awaits its turn at once. -/
  queues : ∀ {α : Type} {task waiter : Nat} {next : List Nat → Coroutine σ η ρ ω ε υ α},
    pattern.writes task (op (.enqueue waiter)) next →
      waiter = task ∧ ∃ rest, next = fun _ => .suspend turn rest
  /-- A task that awaited its turn takes the lock or leaves the queue at once. -/
  goesOn : ∀ {α : Type} {task : Nat} {next : Except ε (ω turn) → Coroutine σ η ρ ω ε υ α}
    (answer : Except ε (ω turn)), pattern.awaits task turn next →
      ∃ operation rest, next answer = .write (op operation) rest ∧
        (operation = .wake task ∨ operation = .leave task)

namespace Queueing

/-- A task that stands in no queue leaves the queue in order when it runs to
its next await. -/
theorem advance
    {entry : Task σ η ρ ω κ ε υ}
    {program : Coroutine σ η ρ ω ε υ υ}
    (queueing : Queueing machine pattern lockOf op turn)
    (follows : program.Follows pattern task)
    (found : system.tasks[task]? = some entry)
    (absent : task ∉ (lockOf system.state).waiters)
    (queue : system.Queue lockOf turn) :
    (machine.advance task program system).Queue lockOf turn := by
  have settled : ∀ {system : System σ η ρ ω κ ε υ} (status : Status σ η ρ ω ε υ),
      task ∉ (lockOf system.state).waiters → system.Queue lockOf turn →
        (system.settle task status).Queue lockOf turn := by
    intro system status absent queue
    refine ⟨queue.nodup, fun waiter member => ?_⟩
    have apart : waiter ≠ task := fun same => absent (same ▸ member)
    exact (queue.awaiting waiter member).settle apart status
  induction program generalizing system with
  | done outcome => exact settled _ absent queue
  | current next inductionHypothesis => exact inductionHypothesis task follows found absent queue
  | read next inductionHypothesis =>
      exact inductionHypothesis system.state (follows _) found absent queue
  | suspend request next _ => exact settled _ absent queue
  | join children next _ => exact settled _ absent queue
  | write effect next inductionHypothesis =>
      have kept : (machine.perform effect system).tasks[task]? = some entry :=
        System.getElem?_create found _
      by_cases grows : ∃ waiter, effect = op (.enqueue waiter)
      · -- the task queues up, so it comes to rest at the await of its turn
        obtain ⟨waiter, rfl⟩ := grows
        obtain ⟨rfl, rest, rfl⟩ := queueing.queues follows.1
        have waiters : (lockOf (machine.perform (op (.enqueue waiter)) system).state).waiters =
            (lockOf system.state).waiters ++ [waiter] :=
          congrArg AsyncLock.waiters (queueing.lock_apply _ system.state)
        change ((machine.perform (op (.enqueue waiter)) system).settle waiter
          (.awaiting turn rest)).Queue lockOf turn
        constructor
        · change (lockOf (machine.perform _ system).state).waiters.Nodup
          rw [waiters]
          exact queue.nodup.append (List.nodup_singleton waiter) (by simpa using absent)
        · intro member inside
          change member ∈ (lockOf (machine.perform _ system).state).waiters at inside
          rw [waiters] at inside
          obtain older | new := List.mem_append.mp inside
          · have apart : member ≠ waiter := fun same => absent (same ▸ older)
            exact ((queue.awaiting member older).create _).settle apart _
          · rw [List.mem_singleton.mp new]
            exact ⟨_, _, System.getElem?_settle_self kept _⟩
      · have sublist := queueing.shrinks effect system.state
          fun waiter same => grows ⟨waiter, same⟩
        refine inductionHypothesis _ (follows.2 _) kept (fun member => absent (sublist.mem member))
          ⟨queue.nodup.sublist sublist, fun waiter member => ?_⟩
        exact (queue.awaiting waiter (sublist.mem member)).create _

variable [DecidableEq ρ]

/-- Every step leaves the queue in order. -/
theorem step
    {next : System σ η ρ ω κ ε υ}
    {action : Action ρ ω κ ε}
    (queueing : Queueing machine pattern lockOf op turn)
    (follows : system.Follows pattern)
    (queue : system.Queue lockOf turn)
    (stepped : machine.step system action = some next) :
    next.Queue lockOf turn := by
  obtain ⟨call, rfl, rfl⟩ | ⟨task, call, program, runs, rfl⟩ := Machine.step_cases stepped
  · exact ⟨queue.nodup, fun waiter member => (queue.awaiting waiter member).create _⟩
  have here := runs.follows queueing.follows follows
  have absentUnless : ∀ {status : Status σ η ρ ω ε υ}, status.request? ≠ some turn →
      system.tasks[task]? = some ⟨call, status⟩ → task ∉ (lockOf system.state).waiters := by
    intro status otherwise found member
    obtain ⟨_, _, same⟩ := queue.awaiting task member
    cases found.symm.trans same
    exact otherwise rfl
  cases runs with
  | begins found | joined found joined =>
      exact queueing.advance here found (absentUnless (by simp [Status.request?]) found) queue
  | @answered _ _ request outcome rest found admitted =>
      by_cases same : turn = request
      · subst same
        obtain ⟨operation, after, written, leaves⟩ :=
          queueing.goesOn outcome (follows task _ found).1
        rw [written] at here ⊢
        have waiters : (lockOf (machine.perform (op operation) system).state).waiters =
            (lockOf system.state).waiters.erase task := by
          have served := queueing.lock_apply operation system.state
          obtain rfl | rfl := leaves <;> exact congrArg AsyncLock.waiters served
        have sublist : (lockOf (machine.perform (op operation) system).state).waiters.Sublist
            (lockOf system.state).waiters := waiters ▸ List.erase_sublist
        have kept : (machine.perform (op operation) system).tasks[task]? =
            some ⟨call, .awaiting turn rest⟩ := System.getElem?_create found _
        apply queueing.advance (here.2 (machine.created (op operation) system)) kept
        · rw [waiters]
          exact queue.nodup.not_mem_erase
        · exact ⟨queue.nodup.sublist sublist, fun waiter member =>
            (queue.awaiting waiter (sublist.mem member)).create _⟩
      · exact queueing.advance here found
          (absentUnless (by simpa [Status.request?] using Ne.symm same) found) queue

/-- In every run the queue stays in order, and the programs that are left follow
the pattern. -/
theorem reaches
    {condition : System σ η ρ ω κ ε υ → Action ρ ω κ ε → Prop}
    {state : σ}
    (queueing : Queueing machine pattern lockOf op turn)
    (nobody : (lockOf state).waiters = [])
    (reaches : machine.Reaches condition (.idle state) system) :
    system.Follows pattern ∧ system.Queue lockOf turn := by
  induction reaches with
  | refl =>
      refine ⟨by simp [System.Follows, System.idle], ?_, ?_⟩ <;> simp [System.idle, nobody]
  | step _ _ stepped inductionHypothesis =>
      obtain ⟨follows, queue⟩ := inductionHypothesis
      exact ⟨follows.step queueing.follows stepped, queueing.step follows queue stepped⟩

end Queueing

end EventLoop
