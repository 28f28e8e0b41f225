import Promch.Library.EventLoop

/-!
# Turns

A turn is what a task does from where it goes on up to its next await.  A rule
says which effects a turn may have, by why it began, and what holds of the shared
state where a turn ends with a request.  Unlike a contract, a rule is kept whatever
the other tasks have done in the meantime, so it holds of every run, and a fact
about a single step follows from the cause of the step.
-/

namespace EventLoop

variable {σ η ρ κ ε υ α β : Type} {ω : ρ → Type}

/-- What an action has a task go on for. -/
def Action.cause (call : κ) : Action ρ ω κ ε → Cause ρ ω κ ε
  | .start _ => .began call
  | .begin _ => .began call
  | .answer _ request outcome => .answered request outcome
  | .join _ failed => .joined failed.isNone

/-- What a task does in its turns. -/
structure TurnRule (σ η ρ : Type) (ω : ρ → Type) (κ ε : Type) where
  /-- The effects of a turn, by what the task goes on for. -/
  may : Cause ρ ω κ ε → η → Prop
  /-- What holds where a turn ends with a request. -/
  rests : ρ → σ → Prop := fun _ _ => True

section Programs

variable (machine : Machine σ η ρ ω κ ε υ) (rule : TurnRule σ η ρ ω κ ε)

/-- From a state on, in a turn with the given cause, the program keeps to the rule,
and in all turns that follow, whatever state it finds; and it returns or raises only
as the goal says. -/
def Coroutine.Obeys :
    Coroutine σ η ρ ω ε υ α → (Except ε α → Cause ρ ω κ ε → σ → Prop) →
      Cause ρ ω κ ε → σ → Prop
  | .done outcome, goal, cause, state => goal outcome cause state
  | .current next, goal, cause, state => ∀ task, (next task).Obeys goal cause state
  | .read next, goal, cause, state => (next state).Obeys goal cause state
  | .write effect next, goal, cause, state =>
      rule.may cause effect ∧
        ∀ created, (next created).Obeys goal cause (machine.apply effect state)
  | .suspend request next, goal, _, state =>
      rule.rests request state ∧
        ∀ outcome later, (next outcome).Obeys goal (.answered request outcome) later
  | .join _ next, goal, _, _ =>
      ∀ outcome later, (next outcome).Obeys goal (.joined outcome.isOk) later

/-- A task that rests keeps to the rule whenever it goes on. -/
def Status.Obeys : Status σ η ρ ω ε υ → Prop
  | .awaiting request next =>
      ∀ outcome later, (next outcome).Obeys machine rule (fun _ _ _ => True)
        (.answered request outcome) later
  | .joining _ next =>
      ∀ outcome later, (next outcome).Obeys machine rule (fun _ _ _ => True)
        (.joined outcome.isOk) later
  | _ => True

end Programs

namespace Coroutine

variable {machine : Machine σ η ρ ω κ ε υ} {rule : TurnRule σ η ρ ω κ ε}

/-! ## Rules -/

@[simp] theorem obeys_handle
    (program : Coroutine σ η ρ ω ε υ α)
    (resume : Except ε α → Coroutine σ η ρ ω ε υ β)
    (goal : Except ε β → Cause ρ ω κ ε → σ → Prop)
    (cause : Cause ρ ω κ ε)
    (state : σ) :
    (program.handle resume).Obeys machine rule goal cause state ↔
      program.Obeys machine rule
        (fun outcome later after => (resume outcome).Obeys machine rule goal later after)
        cause state := by
  induction program generalizing cause state with
  | done outcome => rfl
  | current next inductionHypothesis =>
      exact forall_congr' fun task => inductionHypothesis task cause state
  | read next inductionHypothesis => exact inductionHypothesis state cause state
  | write effect next inductionHypothesis | suspend request next inductionHypothesis
  | join children next inductionHypothesis =>
      simp only [handle, Obeys, inductionHypothesis]

@[simp] theorem obeys_andThen_ok
    (next : α → Coroutine σ η ρ ω ε υ β)
    (value : α) :
    (andThen next (.ok value)).Obeys machine rule = (next value).Obeys machine rule := rfl

@[simp] theorem obeys_bind
    (program : Coroutine σ η ρ ω ε υ α)
    (next : α → Coroutine σ η ρ ω ε υ β)
    (goal : Except ε β → Cause ρ ω κ ε → σ → Prop)
    (cause : Cause ρ ω κ ε)
    (state : σ) :
    (program >>= next).Obeys machine rule goal cause state ↔
      program.Obeys machine rule
        (fun outcome later after => (andThen next outcome).Obeys machine rule goal later after)
        cause state :=
  obeys_handle program (andThen next) goal cause state

@[simp] theorem obeys_attempt
    (program : Coroutine σ η ρ ω ε υ α)
    (goal : Except ε (Except ε α) → Cause ρ ω κ ε → σ → Prop)
    (cause : Cause ρ ω κ ε)
    (state : σ) :
    program.attempt.Obeys machine rule goal cause state ↔
      program.Obeys machine rule (fun outcome later after => goal (.ok outcome) later after)
        cause state :=
  obeys_handle program _ goal cause state

@[simp] theorem obeys_pure
    (value : α)
    (goal : Except ε α → Cause ρ ω κ ε → σ → Prop)
    (cause : Cause ρ ω κ ε)
    (state : σ) :
    (pure value : Coroutine σ η ρ ω ε υ α).Obeys machine rule goal cause state ↔
      goal (.ok value) cause state := Iff.rfl

@[simp] theorem obeys_raise
    (fault : ε)
    (goal : Except ε α → Cause ρ ω κ ε → σ → Prop)
    (cause : Cause ρ ω κ ε)
    (state : σ) :
    (raise fault : Coroutine σ η ρ ω ε υ α).Obeys machine rule goal cause state ↔
      goal (.error fault) cause state := Iff.rfl

@[simp] theorem obeys_conclude
    (outcome : Except ε α)
    (goal : Except ε α → Cause ρ ω κ ε → σ → Prop)
    (cause : Cause ρ ω κ ε)
    (state : σ) :
    (conclude outcome : Coroutine σ η ρ ω ε υ α).Obeys machine rule goal cause state ↔
      goal outcome cause state := Iff.rfl

@[simp] theorem obeys_currentTask
    (goal : Except ε Nat → Cause ρ ω κ ε → σ → Prop)
    (cause : Cause ρ ω κ ε)
    (state : σ) :
    (currentTask : Coroutine σ η ρ ω ε υ Nat).Obeys machine rule goal cause state ↔
      ∀ task, goal (.ok task) cause state := Iff.rfl

@[simp] theorem obeys_gets
    (part : σ → α)
    (goal : Except ε α → Cause ρ ω κ ε → σ → Prop)
    (cause : Cause ρ ω κ ε)
    (state : σ) :
    (gets part : Coroutine σ η ρ ω ε υ α).Obeys machine rule goal cause state ↔
      goal (.ok (part state)) cause state := Iff.rfl

@[simp] theorem obeys_emit
    (effect : η)
    (goal : Except ε Unit → Cause ρ ω κ ε → σ → Prop)
    (cause : Cause ρ ω κ ε)
    (state : σ) :
    (emit effect : Coroutine σ η ρ ω ε υ Unit).Obeys machine rule goal cause state ↔
      rule.may cause effect ∧ goal (.ok ()) cause (machine.apply effect state) := by
  simp [emit, Obeys]

@[simp] theorem obeys_await
    (request : ρ)
    (goal : Except ε (ω request) → Cause ρ ω κ ε → σ → Prop)
    (cause : Cause ρ ω κ ε)
    (state : σ) :
    (await request : Coroutine σ η ρ ω ε υ (ω request)).Obeys machine rule goal cause state ↔
      rule.rests request state ∧
        ∀ outcome later, goal outcome (.answered request outcome) later := Iff.rfl

@[simp] theorem obeys_emitAndJoin
    (effect : η)
    (goal : Except ε (List υ) → Cause ρ ω κ ε → σ → Prop)
    (cause : Cause ρ ω κ ε)
    (state : σ) :
    (emitAndJoin effect : Coroutine σ η ρ ω ε υ (List υ)).Obeys machine rule goal cause state ↔
      rule.may cause effect ∧
        ∀ outcome later, goal outcome (.joined outcome.isOk) later := by
  simp [emitAndJoin, Obeys]

/-- A program all of whose effects every turn may have keeps to a rule that asks for
nothing else. -/
theorem Writes.obeys
    {program : Coroutine σ η ρ ω ε υ α}
    {goal : Except ε α → Cause ρ ω κ ε → σ → Prop}
    {kind : η → Prop}
    (writes : program.Writes kind)
    (may : ∀ cause effect, kind effect → rule.may cause effect)
    (rests : ∀ request state, rule.rests request state)
    (returns : ∀ outcome cause state, goal outcome cause state)
    (cause : Cause ρ ω κ ε)
    (state : σ) :
    program.Obeys machine rule goal cause state := by
  induction program generalizing cause state with
  | done outcome => exact returns outcome cause state
  | current next inductionHypothesis =>
      exact fun task => inductionHypothesis task (writes task) cause state
  | read next inductionHypothesis =>
      exact inductionHypothesis state (writes state) cause state
  | write effect next inductionHypothesis =>
      exact ⟨may cause effect writes.1,
        fun created => inductionHypothesis created (writes.2 created) cause _⟩
  | suspend request next inductionHypothesis =>
      exact ⟨rests request state,
        fun outcome later => inductionHypothesis outcome (writes outcome) _ later⟩
  | join children next inductionHypothesis =>
      exact fun outcome later => inductionHypothesis outcome (writes outcome) _ later

end Coroutine

/-! ## Runs -/

/-- A task that a step has go on was there before. -/
theorem Machine.Runs.exists_status
    {machine : Machine σ η ρ ω κ ε υ}
    {system : System σ η ρ ω κ ε υ}
    {action : Action ρ ω κ ε}
    {task : Nat}
    {call : κ}
    {program : Coroutine σ η ρ ω ε υ υ}
    (runs : machine.Runs system action task call program) :
    ∃ status, system.tasks[task]? = some ⟨call, status⟩ := by
  cases runs with
  | begins found => exact ⟨_, found⟩
  | answered found admitted => exact ⟨_, found⟩
  | joined found joined => exact ⟨_, found⟩

/-- A task whose turn it is not is as it was, unless it has been created. -/
theorem Machine.getElem?_advance_cases
    {machine : Machine σ η ρ ω κ ε υ}
    {system : System σ η ρ ω κ ε υ}
    {task other : Nat}
    {program : Coroutine σ η ρ ω ε υ υ}
    {entry : Task σ η ρ ω κ ε υ}
    (different : other ≠ task)
    (found : (machine.advance task program system).tasks[other]? = some entry) :
    system.tasks[other]? = some entry ∨ entry.status = .created := by
  induction program generalizing system with
  | done outcome => exact .inl ((System.getElem?_settle_of_ne different _).symm.trans found)
  | current next inductionHypothesis => exact inductionHypothesis task found
  | read next inductionHypothesis => exact inductionHypothesis system.state found
  | write effect next inductionHypothesis =>
      obtain performed | created := inductionHypothesis _ found
      · obtain older | ⟨call, _, rfl⟩ := System.getElem?_create_cases performed
        · exact .inl older
        · exact .inr rfl
      · exact .inr created
  | suspend request next _ =>
      exact .inl ((System.getElem?_settle_of_ne different _).symm.trans found)
  | join children next _ =>
      exact .inl ((System.getElem?_settle_of_ne different _).symm.trans found)

/-- The calls of a machine, each with a rule that its body keeps to. -/
structure Regime (machine : Machine σ η ρ ω κ ε υ) where
  /-- The calls that are made. -/
  among : κ → Prop := fun _ => True
  rule : κ → TurnRule σ η ρ ω κ ε
  bodies : ∀ {call} state, among call →
    (machine.body call).Obeys machine (rule call) (fun _ _ _ => True) (.began call) state
  /-- No other calls are made on the way. -/
  forked : ∀ {call cause effect} state, among call → (rule call).may cause effect →
    ∀ other ∈ machine.forks effect state, among other

namespace Regime

variable {machine : Machine σ η ρ ω κ ε υ} (regime : Regime machine)
variable {system : System σ η ρ ω κ ε υ} {task : Nat} {call : κ}
variable {program : Coroutine σ η ρ ω ε υ υ} {cause : Cause ρ ω κ ε}

/-- Every task keeps to the rule of its call whenever it goes on. -/
def Governs (system : System σ η ρ ω κ ε υ) : Prop :=
  ∀ (task : Nat) (entry : Task σ η ρ ω κ ε υ), system.tasks[task]? = some entry →
    regime.among entry.call ∧ entry.status.Obeys machine (regime.rule entry.call)

variable {regime}

theorem Governs.create
    {calls : List κ}
    (governs : regime.Governs system)
    (among : ∀ call ∈ calls, regime.among call) :
    regime.Governs (system.create calls) := by
  intro task entry found
  obtain older | ⟨call, member, rfl⟩ := System.getElem?_create_cases found
  · exact governs task entry older
  · exact ⟨among call member, trivial⟩

theorem Governs.settle
    {status : Status σ η ρ ω ε υ}
    (governs : regime.Governs system)
    (running : ∃ before, system.tasks[task]? = some ⟨call, before⟩)
    (obeys : status.Obeys machine (regime.rule call)) :
    regime.Governs (system.settle task status) := by
  obtain ⟨before, here⟩ := running
  intro other entry found
  obtain ⟨_, older⟩ | ⟨rfl, _, same, rfl⟩ := System.getElem?_settle_cases found
  · exact governs other entry older
  · cases here.symm.trans same
    exact ⟨(governs other _ here).1, obeys⟩

/-- A task that has had a turn goes on to keep to its rule. -/
theorem Governs.advance
    (governs : regime.Governs system)
    (running : ∃ before, system.tasks[task]? = some ⟨call, before⟩)
    (obeys : program.Obeys machine (regime.rule call) (fun _ _ _ => True) cause
      system.state) :
    regime.Governs (machine.advance task program system) := by
  induction program generalizing system with
  | done outcome => exact governs.settle running trivial
  | current next inductionHypothesis =>
      exact inductionHypothesis task governs running (obeys task)
  | read next inductionHypothesis =>
      exact inductionHypothesis system.state governs running obeys
  | write effect next inductionHypothesis =>
      obtain ⟨before, here⟩ := running
      have changed : regime.Governs
          { system with state := machine.apply effect system.state } := governs
      have performed : regime.Governs (machine.perform effect system) :=
        changed.create (regime.forked system.state (governs task _ here).1 obeys.1)
      exact inductionHypothesis _ performed ⟨before, System.getElem?_create here _⟩ (obeys.2 _)
  | suspend request next _ => exact governs.settle running obeys.2
  | join children next _ => exact governs.settle running obeys

/-- What a task runs in a step keeps to the rule of its call. -/
theorem Governs.obeys_of_runs
    {action : Action ρ ω κ ε}
    (governs : regime.Governs system)
    (runs : machine.Runs system action task call program) :
    program.Obeys machine (regime.rule call) (fun _ _ _ => True) (action.cause call)
      system.state := by
  cases runs with
  | begins found => exact regime.bodies system.state (governs task _ found).1
  | answered found admitted => exact (governs task _ found).2 _ system.state
  | joined found joined =>
      rw [Action.cause, ← System.isOk_of_joined joined]
      exact (governs task _ found).2 _ system.state

/-- Every run keeps to the regime, as long as only its calls are started. -/
theorem governs_of_reaches [DecidableEq ρ]
    {condition : System σ η ρ ω κ ε υ → Action ρ ω κ ε → Prop}
    {state : σ}
    (starts : ∀ before call, condition before (.start call) → regime.among call)
    (reaches : machine.Reaches condition (System.idle state) system) :
    regime.Governs system := by
  induction reaches with
  | refl =>
      intro task entry found
      simp [System.idle] at found
  | step _ met stepped inductionHypothesis =>
      obtain ⟨call, rfl, rfl⟩ | ⟨task, call, program, runs, rfl⟩ := Machine.step_cases stepped
      · refine inductionHypothesis.create fun made member => ?_
        rw [List.mem_singleton.mp member]
        exact starts _ call met
      · exact inductionHypothesis.advance runs.exists_status
          (inductionHypothesis.obeys_of_runs runs)

end Regime

variable {machine : Machine σ η ρ ω κ ε υ} {rule : TurnRule σ η ρ ω κ ε}
variable {system : System σ η ρ ω κ ε υ} {task : Nat} {call : κ}
variable {program : Coroutine σ η ρ ω ε υ υ} {cause : Cause ρ ω κ ε}

/-- Where a turn ends with a request, the state is as the rule says. -/
theorem Coroutine.Obeys.rests
    {status : Status σ η ρ ω ε υ}
    {request : ρ}
    (obeys : program.Obeys machine rule (fun _ _ _ => True) cause system.state)
    (running : ∃ entry, system.tasks[task]? = some entry)
    (found : (machine.advance task program system).status? task = some status)
    (awaits : status.request? = some request) :
    rule.rests request (machine.advance task program system).state := by
  have settled : ∀ {middle : System σ η ρ ω κ ε υ} {last : Status σ η ρ ω ε υ},
      (∃ entry, middle.tasks[task]? = some entry) →
      (middle.settle task last).status? task = some status → last = status := by
    rintro middle last ⟨entry, here⟩ same
    rw [System.status?, System.getElem?_settle_self here] at same
    exact Option.some.inj same
  induction program generalizing system with
  | done outcome =>
      obtain rfl := settled running found
      cases awaits
  | current next inductionHypothesis => exact inductionHypothesis task (obeys task) running found
  | read next inductionHypothesis => exact inductionHypothesis system.state obeys running found
  | write effect next inductionHypothesis =>
      refine inductionHypothesis _ (obeys.2 _) ?_ found
      exact running.imp fun _ here => System.getElem?_create here _
  | suspend asked next _ =>
      obtain rfl := settled running found
      cases awaits
      exact obeys.1
  | join children next _ =>
      obtain rfl := settled running found
      cases awaits

/-- What none of the effects disturbs that a turn may have, by the rule and by the
contract, is as true after the turn as before. -/
theorem Coroutine.Obeys.keeps
    {contract : Contract machine}
    (fact : σ → Prop)
    (obeys : program.Obeys machine rule (fun _ _ _ => True) cause system.state)
    (sound : contract.SoundBut task call system)
    (safe : contract.Safe task program (contract.ends task call) system.state)
    (kept : ∀ effect state, contract.inv state → contract.may task effect state →
      rule.may cause effect → fact state → fact (machine.apply effect state))
    (holds : fact system.state) :
    fact (machine.advance task program system).state := by
  induction program generalizing system with
  | done outcome => exact holds
  | current next inductionHypothesis =>
      exact inductionHypothesis task (obeys task) sound safe holds
  | read next inductionHypothesis =>
      exact inductionHypothesis system.state obeys sound safe holds
  | write effect next inductionHypothesis =>
      exact inductionHypothesis _ (obeys.2 _) (sound.perform safe.1) (safe.2 _)
        (kept effect system.state sound.invariant safe.1 obeys.1 holds)
  | suspend request next _ => exact holds
  | join children next _ => exact holds

/-! ## Calls that wait -/

/-- A fact about every call that waits for its first turn. -/
def System.Waits (fact : κ → σ → Prop) (system : System σ η ρ ω κ ε υ) : Prop :=
  ∀ (task : Nat) waiting, system.tasks[task]? = some ⟨waiting, .created⟩ →
    fact waiting system.state

/-- A task that comes to rest no longer waits. -/
theorem System.Waits.settle
    {fact : κ → σ → Prop}
    {status : Status σ η ρ ω ε υ}
    (waits : system.Waits fact)
    (begun : status.isBegun = true) :
    (system.settle task status).Waits fact := by
  intro other waiting found
  obtain ⟨_, older⟩ | ⟨_, _, _, same⟩ := System.getElem?_settle_cases found
  · exact waits other waiting older
  · cases same
    cases begun

/-- A fact about the waiting calls that the effects of a turn leave alone, and that the
calls meet that they create, holds of all that wait after the turn. -/
theorem Coroutine.Obeys.waits
    {contract : Contract machine}
    (fact : κ → σ → Prop)
    (obeys : program.Obeys machine rule (fun _ _ _ => True) cause system.state)
    (sound : contract.SoundBut task call system)
    (safe : contract.Safe task program (contract.ends task call) system.state)
    (kept : ∀ waiting effect state, contract.inv state → contract.may task effect state →
      rule.may cause effect → fact waiting state → fact waiting (machine.apply effect state))
    (forked : ∀ waiting effect state, contract.may task effect state →
      rule.may cause effect → waiting ∈ machine.forks effect state →
      fact waiting (machine.apply effect state))
    (holds : system.Waits fact) :
    (machine.advance task program system).Waits fact := by
  induction program generalizing system with
  | done outcome => exact holds.settle rfl
  | current next inductionHypothesis =>
      exact inductionHypothesis task (obeys task) sound safe holds
  | read next inductionHypothesis =>
      exact inductionHypothesis system.state obeys sound safe holds
  | write effect next inductionHypothesis =>
      refine inductionHypothesis _ (obeys.2 _) (sound.perform safe.1) (safe.2 _) ?_
      intro other waiting found
      obtain older | ⟨_, member, same⟩ := System.getElem?_create_cases found
      · exact kept waiting effect _ sound.invariant safe.1 obeys.1 (holds other waiting older)
      · cases same
        exact forked waiting effect _ safe.1 obeys.1 member
  | suspend request next _ => exact holds.settle rfl
  | join children next _ => exact holds.settle rfl

end EventLoop
