import Promch.Library.Coroutine

/-!
# Contracts of coroutines

A contract says which effects a task may have in which states, and thereby what
every other task can rely on.  A program is safe for a contract when it has
only permitted effects, provided that whenever it resumes it finds the facts
that the other tasks cannot disturb.  Safe programs keep the invariant of the
contract over every run of the event loop, in any order of the tasks.
-/

namespace EventLoop

variable {σ η ρ κ ε υ α β : Type} {ω : ρ → Type}

/-- Why a task goes on. -/
inductive Cause (ρ : Type) (ω : ρ → Type) (κ ε : Type) : Type
  | began (call : κ)
  | answered (request : ρ) (outcome : Except ε (ω request))
  /-- The tasks that were awaited have returned, or one of them has raised. -/
  | joined (returned : Bool)

/-- The effects that tasks may have, and what they leave true. -/
structure Discipline (machine : Machine σ η ρ ω κ ε υ) where
  /-- The effects a task may have in a state. -/
  may : Nat → η → σ → Prop
  /-- What holds whenever no effect is half done. -/
  inv : σ → Prop
  keeps : ∀ {task effect state},
    inv state → may task effect state → inv (machine.apply effect state)

variable {machine : Machine σ η ρ ω κ ε υ}

/-- The other tasks leave a fact true. -/
def Discipline.Stable
    (discipline : Discipline machine)
    (task : Nat)
    (fact : σ → Prop) : Prop :=
  ∀ ⦃other effect state⦄, other ≠ task → discipline.inv state →
    discipline.may other effect state → fact state → fact (machine.apply effect state)

/-- A discipline together with what is known of the tasks themselves. -/
structure Contract (machine : Machine σ η ρ ω κ ε υ) extends Discipline machine where
  /-- The condition under which a task may go on. -/
  allowed : Nat → Cause ρ ω κ ε → σ → Prop
  /-- What holds as long as a task awaits the answer to a request. -/
  asks : Nat → ρ → σ → Prop
  /-- What holds as long as a task awaits other tasks. -/
  joins : Nat → σ → Prop
  /-- What holds as long as the task of a call has not begun. -/
  begins : κ → σ → Prop
  /-- What holds once a task has ended. -/
  ends : Nat → κ → Except ε υ → σ → Prop
  /-- The state names a task; only the task itself brings its number there. -/
  mentions : Nat → σ → Prop
  asks_stable : ∀ task request, toDiscipline.Stable task (asks task request)
  joins_stable : ∀ task, toDiscipline.Stable task (joins task)
  begins_stable : ∀ {task effect state call}, inv state → may task effect state →
    begins call state → begins call (machine.apply effect state)
  begins_forked : ∀ {task effect state}, inv state → may task effect state →
    ∀ call ∈ machine.forks effect state, begins call (machine.apply effect state)
  ends_stable : ∀ task call outcome, toDiscipline.Stable task (ends task call outcome)
  unmentioned_stable : ∀ task, toDiscipline.Stable task fun state => ¬mentions task state

namespace Discipline

variable {discipline : Discipline machine}

theorem Stable.and
    {first second : σ → Prop}
    (firstStable : discipline.Stable task first)
    (secondStable : discipline.Stable task second) :
    discipline.Stable task fun state => first state ∧ second state := by
  intro other effect state different invariant permitted facts
  exact ⟨firstStable different invariant permitted facts.1,
    secondStable different invariant permitted facts.2⟩

end Discipline

namespace Contract

variable (contract : Contract machine) (task : Nat)

/-- From this state on the program has only permitted effects, and it returns
or raises only in states that meet the goal. -/
def Safe :
    Coroutine σ η ρ ω ε υ α → (Except ε α → σ → Prop) → σ → Prop
  | .done outcome, goal, state => goal outcome state
  | .current next, goal, state => Safe (next task) goal state
  | .read next, goal, state => Safe (next state) goal state
  | .write effect next, goal, state =>
      contract.may task effect state ∧
        ∀ created, Safe (next created) goal (machine.apply effect state)
  | .suspend request next, goal, state =>
      contract.asks task request state ∧
        ∃ frame, contract.Stable task frame ∧ frame state ∧
          ∀ later outcome, contract.inv later → contract.asks task request later →
            frame later → machine.admits task request outcome later = true →
            contract.allowed task (.answered request outcome) later →
            Safe (next outcome) goal later
  | .join _ next, goal, state =>
      contract.joins task state ∧
        ∃ frame, contract.Stable task frame ∧ frame state ∧
          ∀ later outcome, contract.inv later → contract.joins task later → frame later →
            contract.allowed task (.joined outcome.isOk) later → Safe (next outcome) goal later

variable {contract task}

/-! ## Rules -/

@[simp] theorem safe_handle
    (program : Coroutine σ η ρ ω ε υ α)
    (resume : Except ε α → Coroutine σ η ρ ω ε υ β)
    (goal : Except ε β → σ → Prop)
    (state : σ) :
    contract.Safe task (program.handle resume) goal state ↔
      contract.Safe task program
        (fun outcome later => contract.Safe task (resume outcome) goal later) state := by
  induction program generalizing state with
  | done outcome => rfl
  | current next inductionHypothesis => exact inductionHypothesis task state
  | read next inductionHypothesis => exact inductionHypothesis state state
  | write effect next inductionHypothesis =>
      simp only [Coroutine.handle, Safe, inductionHypothesis]
  | suspend request next inductionHypothesis =>
      simp only [Coroutine.handle, Safe, inductionHypothesis]
  | join children next inductionHypothesis =>
      simp only [Coroutine.handle, Safe, inductionHypothesis]

@[simp] theorem safe_andThen_ok
    (next : α → Coroutine σ η ρ ω ε υ β)
    (value : α) :
    contract.Safe task (Coroutine.andThen next (.ok value)) =
      contract.Safe task (next value) := rfl

@[simp] theorem safe_bind
    (program : Coroutine σ η ρ ω ε υ α)
    (next : α → Coroutine σ η ρ ω ε υ β)
    (goal : Except ε β → σ → Prop)
    (state : σ) :
    contract.Safe task (program >>= next) goal state ↔
      contract.Safe task program
        (fun outcome later => contract.Safe task (Coroutine.andThen next outcome) goal later)
        state :=
  safe_handle program (Coroutine.andThen next) goal state

@[simp] theorem safe_attempt
    (program : Coroutine σ η ρ ω ε υ α)
    (goal : Except ε (Except ε α) → σ → Prop)
    (state : σ) :
    contract.Safe task program.attempt goal state ↔
      contract.Safe task program (fun outcome later => goal (.ok outcome) later) state :=
  safe_handle program _ goal state

@[simp] theorem safe_pure
    (value : α)
    (goal : Except ε α → σ → Prop)
    (state : σ) :
    contract.Safe task (pure value : Coroutine σ η ρ ω ε υ α) goal state ↔
      goal (.ok value) state := Iff.rfl

@[simp] theorem safe_raise
    (fault : ε)
    (goal : Except ε α → σ → Prop)
    (state : σ) :
    contract.Safe task (Coroutine.raise fault : Coroutine σ η ρ ω ε υ α) goal state ↔
      goal (.error fault) state := Iff.rfl

@[simp] theorem safe_conclude
    (outcome : Except ε α)
    (goal : Except ε α → σ → Prop)
    (state : σ) :
    contract.Safe task (Coroutine.conclude outcome : Coroutine σ η ρ ω ε υ α) goal state ↔
      goal outcome state := Iff.rfl

@[simp] theorem safe_currentTask
    (goal : Except ε Nat → σ → Prop)
    (state : σ) :
    contract.Safe task (Coroutine.currentTask : Coroutine σ η ρ ω ε υ Nat) goal state ↔
      goal (.ok task) state := Iff.rfl

@[simp] theorem safe_gets
    (part : σ → α)
    (goal : Except ε α → σ → Prop)
    (state : σ) :
    contract.Safe task (Coroutine.gets part : Coroutine σ η ρ ω ε υ α) goal state ↔
      goal (.ok (part state)) state := Iff.rfl

@[simp] theorem safe_emit
    (effect : η)
    (goal : Except ε Unit → σ → Prop)
    (state : σ) :
    contract.Safe task (Coroutine.emit effect : Coroutine σ η ρ ω ε υ Unit) goal state ↔
      contract.may task effect state ∧ goal (.ok ()) (machine.apply effect state) := by
  simp [Coroutine.emit, Safe]

/-- To await an answer: the fact of the request, and a frame that the other
tasks leave true. -/
theorem safe_await
    {request : ρ}
    {goal : Except ε (ω request) → σ → Prop}
    {state : σ}
    (frame : σ → Prop)
    (stable : contract.Stable task frame)
    (asked : contract.asks task request state)
    (framed : frame state)
    (answered : ∀ later outcome, contract.inv later → contract.asks task request later →
      frame later → machine.admits task request outcome later = true →
      contract.allowed task (.answered request outcome) later → goal outcome later) :
    contract.Safe task (Coroutine.await request : Coroutine σ η ρ ω ε υ (ω request))
      goal state :=
  ⟨asked, frame, stable, framed, answered⟩

/-- To have an effect and await the tasks it creates. -/
theorem safe_emitAndJoin
    {effect : η}
    {goal : Except ε (List υ) → σ → Prop}
    {state : σ}
    (frame : σ → Prop)
    (stable : contract.Stable task frame)
    (permitted : contract.may task effect state)
    (joins : contract.joins task (machine.apply effect state))
    (framed : frame (machine.apply effect state))
    (joined : ∀ later outcome, contract.inv later → contract.joins task later →
      frame later → contract.allowed task (.joined outcome.isOk) later →
      goal outcome later) :
    contract.Safe task (Coroutine.emitAndJoin effect : Coroutine σ η ρ ω ε υ (List υ))
      goal state :=
  ⟨permitted, fun _ => ⟨joins, frame, stable, framed, joined⟩⟩

/-- A safe program stays safe for a weaker goal; the invariant holds where the
goal has to be met. -/
theorem Safe.mono
    {program : Coroutine σ η ρ ω ε υ α}
    {goal weaker : Except ε α → σ → Prop}
    {state : σ}
    (safe : contract.Safe task program goal state)
    (invariant : contract.inv state)
    (weakens : ∀ outcome later, contract.inv later → goal outcome later →
      weaker outcome later) :
    contract.Safe task program weaker state := by
  induction program generalizing state with
  | done outcome => exact weakens outcome state invariant safe
  | current next inductionHypothesis => exact inductionHypothesis task safe invariant
  | read next inductionHypothesis => exact inductionHypothesis state safe invariant
  | write effect next inductionHypothesis =>
      refine ⟨safe.1, fun created => ?_⟩
      exact inductionHypothesis created (safe.2 created) (contract.keeps invariant safe.1)
  | suspend request next inductionHypothesis =>
      obtain ⟨asked, frame, stable, framed, resumes⟩ := safe
      refine ⟨asked, frame, stable, framed, ?_⟩
      intro later outcome invariantLater askedLater framedLater admitted allowed
      exact inductionHypothesis outcome
        (resumes later outcome invariantLater askedLater framedLater admitted allowed)
        invariantLater
  | join children next inductionHypothesis =>
      obtain ⟨joins, frame, stable, framed, resumes⟩ := safe
      refine ⟨joins, frame, stable, framed, ?_⟩
      intro later outcome invariantLater joinsLater framedLater allowed
      exact inductionHypothesis outcome
        (resumes later outcome invariantLater joinsLater framedLater allowed) invariantLater

/-- The goal may be shown under the invariant, and under a fact that no
permitted effect of any task disturbs. -/
theorem Safe.using
    {program : Coroutine σ η ρ ω ε υ α}
    {goal : Except ε α → σ → Prop}
    {fact : σ → Prop}
    {state : σ}
    (kept : ∀ ⦃other effect before⦄, contract.inv before →
      contract.may other effect before → fact before → fact (machine.apply effect before))
    (invariant : contract.inv state)
    (holds : fact state)
    (safe : contract.Safe task program
      (fun outcome later => contract.inv later → fact later → goal outcome later) state) :
    contract.Safe task program goal state := by
  induction program generalizing state with
  | done outcome => exact safe invariant holds
  | current next inductionHypothesis => exact inductionHypothesis task invariant holds safe
  | read next inductionHypothesis => exact inductionHypothesis state invariant holds safe
  | write effect next inductionHypothesis =>
      refine ⟨safe.1, fun created => ?_⟩
      exact inductionHypothesis created (contract.keeps invariant safe.1)
        (kept invariant safe.1 holds) (safe.2 created)
  | suspend request next inductionHypothesis =>
      obtain ⟨asked, frame, stable, framed, resumes⟩ := safe
      have factStable : contract.Stable task fact :=
        fun _ _ _ _ before permitted => kept before permitted
      refine ⟨asked, _, stable.and factStable, ⟨framed, holds⟩, ?_⟩
      intro later outcome invariantLater askedLater framedLater admitted allowed
      exact inductionHypothesis outcome invariantLater framedLater.2
        (resumes later outcome invariantLater askedLater framedLater.1 admitted allowed)
  | join children next inductionHypothesis =>
      obtain ⟨joins, frame, stable, framed, resumes⟩ := safe
      have factStable : contract.Stable task fact :=
        fun _ _ _ _ before permitted => kept before permitted
      refine ⟨joins, _, stable.and factStable, ⟨framed, holds⟩, ?_⟩
      intro later outcome invariantLater joinsLater framedLater allowed
      exact inductionHypothesis outcome invariantLater framedLater.2
        (resumes later outcome invariantLater joinsLater framedLater.1 allowed)

/-- The goal may be shown under the invariant. -/
theorem Safe.using_inv
    {program : Coroutine σ η ρ ω ε υ α}
    {goal : Except ε α → σ → Prop}
    {state : σ}
    (invariant : contract.inv state)
    (safe : contract.Safe task program
      (fun outcome later => contract.inv later → goal outcome later) state) :
    contract.Safe task program goal state :=
  safe.mono invariant fun _ _ invariantLater goal => goal invariantLater

end Contract

/-! ## Frames -/

/-- Every effect of a program is one of the given kind. -/
def Coroutine.Writes (kind : η → Prop) : Coroutine σ η ρ ω ε υ α → Prop
  | .done _ => True
  | .current next => ∀ task, (next task).Writes kind
  | .read next => ∀ state, (next state).Writes kind
  | .write effect next => kind effect ∧ ∀ created, (next created).Writes kind
  | .suspend _ next => ∀ outcome, (next outcome).Writes kind
  | .join _ next => ∀ outcome, (next outcome).Writes kind

namespace Coroutine

variable {kind : η → Prop}

/-- A program whose effects are of one kind has effects of every wider kind. -/
theorem Writes.mono
    {program : Coroutine σ η ρ ω ε υ α}
    {wider : η → Prop}
    (writes : program.Writes kind)
    (widens : ∀ effect, kind effect → wider effect) :
    program.Writes wider := by
  induction program with
  | done outcome => trivial
  | current next inductionHypothesis =>
      exact fun task => inductionHypothesis task (writes task)
  | read next inductionHypothesis =>
      exact fun state => inductionHypothesis state (writes state)
  | write effect next inductionHypothesis =>
      exact ⟨widens effect writes.1, fun created => inductionHypothesis created (writes.2 created)⟩
  | suspend request next inductionHypothesis =>
      exact fun outcome => inductionHypothesis outcome (writes outcome)
  | join children next inductionHypothesis =>
      exact fun outcome => inductionHypothesis outcome (writes outcome)

theorem Writes.handle
    {program : Coroutine σ η ρ ω ε υ α}
    {resume : Except ε α → Coroutine σ η ρ ω ε υ β}
    (writes : program.Writes kind)
    (resumes : ∀ outcome, (resume outcome).Writes kind) :
    (program.handle resume).Writes kind := by
  induction program with
  | done outcome => exact resumes outcome
  | current next inductionHypothesis =>
      exact fun task => inductionHypothesis task (writes task)
  | read next inductionHypothesis =>
      exact fun state => inductionHypothesis state (writes state)
  | write effect next inductionHypothesis =>
      exact ⟨writes.1, fun created => inductionHypothesis created (writes.2 created)⟩
  | suspend request next inductionHypothesis =>
      exact fun outcome => inductionHypothesis outcome (writes outcome)
  | join children next inductionHypothesis =>
      exact fun outcome => inductionHypothesis outcome (writes outcome)

theorem Writes.bind
    {program : Coroutine σ η ρ ω ε υ α}
    {next : α → Coroutine σ η ρ ω ε υ β}
    (writes : program.Writes kind)
    (continues : ∀ value, (next value).Writes kind) :
    (program >>= next).Writes kind := by
  apply Writes.handle writes
  intro outcome
  cases outcome with
  | ok value => exact continues value
  | error fault => trivial

theorem Writes.attempt
    {program : Coroutine σ η ρ ω ε υ α}
    (writes : program.Writes kind) :
    program.attempt.Writes kind :=
  writes.handle fun _ => trivial

theorem writes_pure (value : α) :
    (pure value : Coroutine σ η ρ ω ε υ α).Writes kind := trivial

theorem writes_raise (fault : ε) :
    (raise fault : Coroutine σ η ρ ω ε υ α).Writes kind := trivial

theorem writes_conclude (outcome : Except ε α) :
    (conclude outcome : Coroutine σ η ρ ω ε υ α).Writes kind := trivial

theorem writes_currentTask :
    (currentTask : Coroutine σ η ρ ω ε υ Nat).Writes kind := fun _ => trivial

theorem writes_gets (part : σ → α) :
    (gets part : Coroutine σ η ρ ω ε υ α).Writes kind := fun _ => trivial

theorem writes_await (request : ρ) :
    (await request : Coroutine σ η ρ ω ε υ (ω request)).Writes kind := fun _ => trivial

theorem writes_emit {effect : η} (ofKind : kind effect) :
    (emit effect : Coroutine σ η ρ ω ε υ Unit).Writes kind :=
  ⟨ofKind, fun _ => trivial⟩

end Coroutine

/-- A fact that neither the other tasks nor the effects of the program disturb
still holds when the program returns. -/
theorem Contract.Safe.frame
    {contract : Contract machine}
    {program : Coroutine σ η ρ ω ε υ α}
    {goal : Except ε α → σ → Prop}
    {kind : η → Prop}
    (fact : σ → Prop)
    (safe : contract.Safe task program goal state)
    (writes : program.Writes kind)
    (stable : contract.Stable task fact)
    (own : ∀ effect before, kind effect → contract.may task effect before →
      fact before → fact (machine.apply effect before))
    (holds : fact state) :
    contract.Safe task program
      (fun outcome later => goal outcome later ∧ fact later) state := by
  induction program generalizing state with
  | done outcome => exact ⟨safe, holds⟩
  | current next inductionHypothesis =>
      exact inductionHypothesis task safe (writes task) holds
  | read next inductionHypothesis =>
      exact inductionHypothesis state safe (writes state) holds
  | write effect next inductionHypothesis =>
      refine ⟨safe.1, fun created => ?_⟩
      exact inductionHypothesis created (safe.2 created) (writes.2 created)
        (own effect state writes.1 safe.1 holds)
  | suspend request next inductionHypothesis =>
      obtain ⟨asked, frame, frameStable, framed, resumes⟩ := safe
      refine ⟨asked, _, frameStable.and stable, ⟨framed, holds⟩, ?_⟩
      intro later outcome invariant askedLater framedLater admitted allowed
      exact inductionHypothesis outcome
        (resumes later outcome invariant askedLater framedLater.1 admitted allowed)
        (writes outcome) framedLater.2
  | join children next inductionHypothesis =>
      obtain ⟨joins, frame, frameStable, framed, resumes⟩ := safe
      refine ⟨joins, _, frameStable.and stable, ⟨framed, holds⟩, ?_⟩
      intro later outcome invariant joinsLater framedLater allowed
      exact inductionHypothesis outcome
        (resumes later outcome invariant joinsLater framedLater.1 allowed)
        (writes outcome) framedLater.2

end EventLoop
