import Promch.Library.Turns

/-!
# Locks of an event loop

A lock serves its waiters in the order in which they came.  It is taken without
an await when it is free and nobody waits for it.  A task that has to wait
queues up; it takes the lock when the lock is free again and its turn has come,
or leaves the queue when its wait is cut short.
-/

namespace EventLoop

/-- A lock: the task that holds it, and the tasks that wait for it. -/
structure AsyncLock where
  holder : Option Nat := none
  waiters : List Nat := []
  deriving DecidableEq

/-- The atomic operations on a lock. -/
inductive LockOp
  /-- Take a free lock at once. -/
  | take (task : Nat)
  | enqueue (task : Nat)
  /-- Take the lock after a wait. -/
  | wake (task : Nat)
  /-- Give up waiting. -/
  | leave (task : Nat)
  | release
  deriving DecidableEq

namespace AsyncLock

/-- The lock after an operation. -/
def apply (lock : AsyncLock) : LockOp → AsyncLock
  | .take task => { lock with holder := some task }
  | .enqueue task => { lock with waiters := lock.waiters ++ [task] }
  | .wake task => { holder := some task, waiters := lock.waiters.erase task }
  | .leave task => { lock with waiters := lock.waiters.erase task }
  | .release => { lock with holder := none }

/-- Nobody holds the lock or waits for it. -/
def isFree (lock : AsyncLock) : Bool :=
  lock.holder.isNone && lock.waiters.isEmpty

/-- The lock is free and the task is the first that waits for it. -/
def isTurn (lock : AsyncLock) (task : Nat) : Bool :=
  lock.holder.isNone && lock.waiters.head? == some task

/-- A task speaks for itself only, takes the lock when it is free or when its turn
has come, and releases its own. -/
def Permits (task : Nat) (lock : AsyncLock) : LockOp → Prop
  | .take taker => taker = task ∧ lock.isFree
  | .enqueue waiter => waiter = task
  | .wake taker => taker = task ∧ lock.isTurn taker
  | .leave waiter => waiter = task
  | .release => lock.holder = some task

variable {lock : AsyncLock} {task other : Nat} {op : LockOp}

theorem isFree_iff : lock.isFree = true ↔ lock.holder = none ∧ lock.waiters = [] := by
  simp [isFree]

theorem isTurn_iff :
    lock.isTurn task = true ↔ lock.holder = none ∧ lock.waiters.head? = some task := by
  simp [isTurn]

/-- Nobody else takes the lock from its holder. -/
theorem holder_apply_of_held
    (permitted : lock.Permits other op)
    (different : other ≠ task)
    (held : lock.holder = some task) :
    (lock.apply op).holder = some task := by
  cases op with
  | take taker => simp [(isFree_iff.mp permitted.2).1] at held
  | wake taker => simp [(isTurn_iff.mp permitted.2).1] at held
  | enqueue waiter | leave waiter => exact held
  | release =>
      have same : other = task := Option.some.inj (permitted.symm.trans held)
      exact absurd same different

/-- Nobody else passes by a task whose turn has come. -/
theorem isTurn_apply
    (permitted : lock.Permits other op)
    (different : other ≠ task)
    (turn : lock.isTurn task = true) :
    (lock.apply op).isTurn task = true := by
  obtain ⟨vacant, first⟩ := isTurn_iff.mp turn
  obtain ⟨rest, waiters⟩ := List.head?_eq_some_iff.mp first
  rw [isTurn_iff]
  cases op with
  | take taker =>
      have nobody := (isFree_iff.mp permitted.2).2
      cases nobody.symm.trans waiters
  | wake taker =>
      obtain ⟨rfl, granted⟩ := permitted
      have same := (isTurn_iff.mp granted).2.symm.trans first
      exact absurd (Option.some.inj same) different
  | enqueue waiter => exact ⟨vacant, by simp [apply, waiters]⟩
  | leave waiter =>
      cases permitted
      have apart : (task == other) = false := beq_false_of_ne fun same => different same.symm
      exact ⟨vacant, by simp [apply, waiters, apart]⟩
  | release => exact ⟨rfl, first⟩

end AsyncLock

section WithLock

open Coroutine

variable {σ η ρ κ ε υ α β : Type} {ω : ρ → Type}

/-- Wait for a lock and take it. -/
def acquire
    (lockOf : σ → AsyncLock)
    (op : LockOp → η)
    (turn : ρ) : Coroutine σ η ρ ω ε υ Unit := do
  let task ← currentTask
  if ← gets fun state => (lockOf state).isFree then
    emit (op (.take task))
  else
    emit (op (.enqueue task))
    match ← attempt (await turn) with
    | .ok _ => emit (op (.wake task))
    | .error fault =>
        emit (op (.leave task))
        raise fault

/-- Run a program while holding a lock; the lock is released however the
program ends. -/
def withLock
    (lockOf : σ → AsyncLock)
    (op : LockOp → η)
    (turn : ρ)
    (program : Coroutine σ η ρ ω ε υ α) : Coroutine σ η ρ ω ε υ α := do
  acquire lockOf op turn
  let outcome ← attempt program
  emit (op .release)
  conclude outcome

/-- The part of a program under a lock from where the lock is held. -/
def holding
    (op : LockOp → η)
    (program : Coroutine σ η ρ ω ε υ α) : Coroutine σ η ρ ω ε υ α := do
  let outcome ← attempt program
  emit (op .release)
  conclude outcome

/-- The part of a program under a lock from where the turn of the task has come, or
its wait is cut short. -/
def onTurn
    (op : LockOp → η)
    (task : Nat)
    (program : Coroutine σ η ρ ω ε υ α)
    (answer : Except ε β) : Coroutine σ η ρ ω ε υ α :=
  match answer with
  | .ok _ => .write (op (.wake task)) fun _ => holding op program
  | .error fault => .write (op (.leave task)) fun _ => raise fault

/-- A program under a lock takes the lock at once, or queues up. -/
theorem withLock_eq
    (lockOf : σ → AsyncLock)
    (op : LockOp → η)
    (turn : ρ)
    (program : Coroutine σ η ρ ω ε υ α) :
    withLock lockOf op turn program = .current fun task => .read fun state =>
      if (lockOf state).isFree then .write (op (.take task)) fun _ => holding op program
      else .write (op (.enqueue task)) fun _ => .suspend turn (onTurn op task program) := by
  have acquired : withLock lockOf op turn program =
      .current fun task => .read fun state =>
        (if (lockOf state).isFree then emit (op (.take task))
          else do
            emit (op (.enqueue task))
            match ← attempt (await turn) with
            | .ok _ => emit (op (.wake task))
            | .error fault =>
                emit (op (.leave task))
                raise fault).handle (andThen fun _ => holding op program) := rfl
  rw [acquired]
  congr 1
  funext task
  congr 1
  funext state
  split
  · rfl
  · have queued : ∀ answer : Except ε (ω turn),
        (match answer with
          | .ok _ => emit (op (.wake task))
          | .error fault => do
              emit (op (.leave task))
              raise fault).handle (andThen fun _ => holding op program) =
          onTurn op task program answer := by
      intro answer
      cases answer <;> rfl
    exact congrArg (fun next => Coroutine.write _ fun _ => Coroutine.suspend turn next)
      (funext queued)

/-- The contract lets a task use a lock as it is meant to be used, as long as
the task may wait for its turn on the lock. -/
structure Lockable
    {machine : Machine σ η ρ ω κ ε υ}
    (contract : Contract machine)
    (lockOf : σ → AsyncLock)
    (op : LockOp → η)
    (turn : ρ) : Prop where
  permits : ∀ task operation state, contract.asks task turn state →
    operation ≠ .release → (lockOf state).Permits task operation →
      contract.may task (op operation) state
  asks_enqueue : ∀ task state, contract.asks task turn state →
    contract.asks task turn (machine.apply (op (.enqueue task)) state)
  isTurn : ∀ task value state, machine.admits task turn (.ok value) state = true →
    (lockOf state).isTurn task

variable {machine : Machine σ η ρ ω κ ε υ} {contract : Contract machine}
variable {lockOf : σ → AsyncLock} {op : LockOp → η} {turn : ρ}

/-- A task gets the lock at once, gets it when its turn has come, or its wait
is cut short. -/
theorem safe_acquire
    {goal : Except ε Unit → σ → Prop}
    {state : σ}
    (lockable : Lockable contract lockOf op turn)
    (asks : contract.asks task turn state)
    (taken : (lockOf state).isFree = true →
      goal (.ok ()) (machine.apply (op (.take task)) state))
    (admitted : ∀ value before, contract.inv before → contract.asks task turn before →
      (lockOf before).isTurn task = true →
      contract.allowed task (.answered turn (.ok value)) before →
      goal (.ok ()) (machine.apply (op (.wake task)) before))
    (cut : ∀ fault before, contract.inv before → contract.asks task turn before →
      machine.admits task turn (.error fault) before = true →
      contract.allowed task (.answered turn (.error fault)) before →
      goal (.error fault) (machine.apply (op (.leave task)) before)) :
    contract.Safe task (acquire lockOf op turn) goal state := by
  unfold acquire
  simp only [Contract.safe_bind, Contract.safe_currentTask, Contract.safe_andThen_ok,
    Contract.safe_gets]
  by_cases free : (lockOf state).isFree = true
  · rw [if_pos free]
    rw [Contract.safe_emit]
    exact ⟨lockable.permits _ _ _ asks (by simp) ⟨rfl, free⟩, taken free⟩
  · rw [if_neg free]
    simp only [Contract.safe_bind, Contract.safe_emit, Contract.safe_andThen_ok,
      Contract.safe_attempt]
    refine ⟨lockable.permits _ _ _ asks (by simp) rfl, ?_⟩
    apply Contract.safe_await (fun _ => True) (fun _ _ _ _ _ _ _ => trivial)
      (lockable.asks_enqueue _ _ asks) trivial
    intro later outcome invariant asks _ granted allowed
    cases outcome with
    | ok value =>
        have turnNow := lockable.isTurn _ _ _ granted
        simp only [Contract.safe_emit]
        exact ⟨lockable.permits _ _ _ asks (by simp) ⟨rfl, turnNow⟩,
          admitted value later invariant asks turnNow allowed⟩
    | error fault =>
        simp only [Contract.safe_bind, Contract.safe_emit, Contract.safe_andThen_ok,
          Contract.safe_raise]
        exact ⟨lockable.permits _ _ _ asks (by simp) rfl,
          cut fault later invariant asks granted allowed⟩

/-- A program under a lock has to be safe when it starts with the lock taken,
at once or after a wait, and it has to leave the lock with its holder. -/
theorem safe_withLock
    {program : Coroutine σ η ρ ω ε υ α}
    {goal : Except ε α → σ → Prop}
    {state : σ}
    (lockable : Lockable contract lockOf op turn)
    (asks : contract.asks task turn state)
    (taken : (lockOf state).isFree = true →
      contract.Safe task program (fun outcome later =>
        contract.may task (op .release) later ∧
          goal outcome (machine.apply (op .release) later))
        (machine.apply (op (.take task)) state))
    (admitted : ∀ value before, contract.inv before → contract.asks task turn before →
      (lockOf before).isTurn task = true →
      contract.allowed task (.answered turn (.ok value)) before →
      contract.Safe task program (fun outcome later =>
        contract.may task (op .release) later ∧
          goal outcome (machine.apply (op .release) later))
        (machine.apply (op (.wake task)) before))
    (cut : ∀ fault before, contract.inv before → contract.asks task turn before →
      machine.admits task turn (.error fault) before = true →
      contract.allowed task (.answered turn (.error fault)) before →
      goal (.error fault) (machine.apply (op (.leave task)) before)) :
    contract.Safe task (withLock lockOf op turn program) goal state := by
  unfold withLock
  rw [Contract.safe_bind]
  apply safe_acquire lockable asks
  · intro free
    simpa using taken free
  · intro value before invariant asks turnNow allowed
    simpa using admitted value before invariant asks turnNow allowed
  · exact cut

theorem writes_acquire
    {kind : η → Prop}
    (ofKind : ∀ operation, kind (op operation)) :
    (acquire lockOf op turn : Coroutine σ η ρ ω ε υ Unit).Writes kind := by
  apply Writes.bind writes_currentTask
  intro task
  apply Writes.bind (writes_gets _)
  intro free
  split
  · exact writes_emit (ofKind _)
  · apply Writes.bind (writes_emit (ofKind _))
    intro _
    apply Writes.bind (writes_await _).attempt
    intro outcome
    cases outcome with
    | ok value => exact writes_emit (ofKind _)
    | error fault => exact Writes.bind (writes_emit (ofKind _)) fun _ => writes_raise fault

theorem writes_withLock
    {kind : η → Prop}
    {program : Coroutine σ η ρ ω ε υ α}
    (ofKind : ∀ operation, kind (op operation))
    (writes : program.Writes kind) :
    (withLock lockOf op turn program).Writes kind := by
  apply Writes.bind (writes_acquire ofKind)
  intro _
  apply Writes.bind writes.attempt
  intro outcome
  exact Writes.bind (writes_emit (ofKind _)) fun _ => writes_conclude outcome

/-- A program under a lock keeps to a rule if it does so from where it has the lock,
in the turn in which it asks for the lock or in the one in which it gets it. -/
theorem obeys_withLock
    {machine : Machine σ η ρ ω κ ε υ}
    {rule : TurnRule σ η ρ ω κ ε}
    {program : Coroutine σ η ρ ω ε υ α}
    {goal : Except ε α → Cause ρ ω κ ε → σ → Prop}
    (mayLock : ∀ cause operation, rule.may cause (op operation))
    (queues : ∀ state, rule.rests turn state)
    (holds : ∀ cause state, (cause = started ∨ ∃ value, cause = .answered turn (.ok value)) →
      program.Obeys machine rule
        (fun outcome later after =>
          rule.may later (op .release) ∧
            goal outcome later (machine.apply (op .release) after))
        cause state)
    (cut : ∀ fault state, goal (.error fault) (.answered turn (.error fault)) state)
    (state : σ) :
    (withLock lockOf op turn program).Obeys machine rule goal started state := by
  have held : ∀ cause state, (cause = started ∨ ∃ value, cause = .answered turn (.ok value)) →
      (holding op program).Obeys machine rule goal cause state := by
    intro cause state known
    simpa [holding] using holds cause state known
  rw [withLock_eq]
  intro task
  simp only [Obeys]
  split
  · exact ⟨mayLock _ _, fun _ => held _ _ (.inl rfl)⟩
  · refine ⟨mayLock _ _, fun _ => ⟨queues _, fun outcome later => ?_⟩⟩
    cases outcome with
    | ok value => exact ⟨mayLock _ _, fun _ => held _ _ (.inr ⟨value, rfl⟩)⟩
    | error fault => exact ⟨mayLock _ _, fun _ => cut fault _⟩

end WithLock

end EventLoop
