import Promch.Library.EventLoop

/-!
# Where the effects and results of programs come from

If the answers that a program receives have some property, then so have the effects
that it computes from them, and what it returns.  This is shown program by program,
without regard to the other tasks.  It holds of every run of the event loop in which
the programs keep to a contract, in any order of the tasks.
-/

namespace EventLoop

variable {σ η ρ κ ε υ α β : Type} {ω : ρ → Type}

/-- What is known of the answers, and what follows for the effects, the shared
state, and the results of the calls, as long as the tasks keep to a contract. -/
structure Provenance {machine : Machine σ η ρ ω κ ε υ} (contract : Contract machine) where
  answers : (request : ρ) → Except ε (ω request) → Prop := fun _ _ => True
  effects : η → Prop := fun _ => True
  results : κ → Except ε υ → Prop := fun _ _ => True
  inv : σ → Prop := fun _ => True
  keeps : ∀ {task effect state}, contract.inv state → inv state →
    contract.may task effect state → effects effect → inv (machine.apply effect state)

namespace Provenance

variable {machine : Machine σ η ρ ω κ ε υ} {contract : Contract machine}
variable (provenance : Provenance contract)

/-- As long as the program receives such answers, it has such effects, and what it
returns or raises meets the goal. -/
def Derives (task : Nat) : Coroutine σ η ρ ω ε υ α → (Except ε α → Prop) → Prop
  | .done outcome, goal => goal outcome
  | .current next, goal => Derives task (next task) goal
  | .read next, goal =>
      ∀ state, contract.inv state → provenance.inv state → Derives task (next state) goal
  | .write effect next, goal =>
      provenance.effects effect ∧ ∀ created, Derives task (next created) goal
  | .suspend request next, goal =>
      ∀ outcome, provenance.answers request outcome → Derives task (next outcome) goal
  | .join _ next, goal => ∀ outcome, Derives task (next outcome) goal

variable {provenance} {task : Nat}

/-! ## Rules -/

@[simp] theorem derives_handle
    (program : Coroutine σ η ρ ω ε υ α)
    (resume : Except ε α → Coroutine σ η ρ ω ε υ β)
    (goal : Except ε β → Prop) :
    provenance.Derives task (program.handle resume) goal ↔
      provenance.Derives task program fun outcome =>
        provenance.Derives task (resume outcome) goal := by
  induction program with
  | done outcome => rfl
  | current next inductionHypothesis => exact inductionHypothesis task
  | read next inductionHypothesis =>
      exact forall_congr' fun state => forall_congr' fun _ => forall_congr' fun _ =>
        inductionHypothesis state
  | write effect next inductionHypothesis | suspend request next inductionHypothesis
  | join children next inductionHypothesis =>
      simp only [Coroutine.handle, Derives, inductionHypothesis]

@[simp] theorem derives_andThen_ok
    (next : α → Coroutine σ η ρ ω ε υ β)
    (value : α) :
    provenance.Derives task (Coroutine.andThen next (.ok value)) =
      provenance.Derives task (next value) := rfl

@[simp] theorem derives_bind
    (program : Coroutine σ η ρ ω ε υ α)
    (next : α → Coroutine σ η ρ ω ε υ β)
    (goal : Except ε β → Prop) :
    provenance.Derives task (program >>= next) goal ↔
      provenance.Derives task program fun outcome =>
        provenance.Derives task (Coroutine.andThen next outcome) goal :=
  derives_handle program (Coroutine.andThen next) goal

@[simp] theorem derives_attempt
    (program : Coroutine σ η ρ ω ε υ α)
    (goal : Except ε (Except ε α) → Prop) :
    provenance.Derives task program.attempt goal ↔
      provenance.Derives task program fun outcome => goal (.ok outcome) :=
  derives_handle program _ goal

@[simp] theorem derives_pure
    (value : α)
    (goal : Except ε α → Prop) :
    provenance.Derives task (pure value : Coroutine σ η ρ ω ε υ α) goal ↔
      goal (.ok value) := Iff.rfl

@[simp] theorem derives_raise
    (fault : ε)
    (goal : Except ε α → Prop) :
    provenance.Derives task (Coroutine.raise fault : Coroutine σ η ρ ω ε υ α) goal ↔
      goal (.error fault) := Iff.rfl

@[simp] theorem derives_conclude
    (outcome : Except ε α)
    (goal : Except ε α → Prop) :
    provenance.Derives task (Coroutine.conclude outcome : Coroutine σ η ρ ω ε υ α) goal ↔
      goal outcome := Iff.rfl

@[simp] theorem derives_currentTask (goal : Except ε Nat → Prop) :
    provenance.Derives task (Coroutine.currentTask : Coroutine σ η ρ ω ε υ Nat) goal ↔
      goal (.ok task) := Iff.rfl

@[simp] theorem derives_gets
    (part : σ → α)
    (goal : Except ε α → Prop) :
    provenance.Derives task (Coroutine.gets part : Coroutine σ η ρ ω ε υ α) goal ↔
      ∀ state, contract.inv state → provenance.inv state → goal (.ok (part state)) := Iff.rfl

@[simp] theorem derives_emit
    (effect : η)
    (goal : Except ε Unit → Prop) :
    provenance.Derives task (Coroutine.emit effect : Coroutine σ η ρ ω ε υ Unit) goal ↔
      provenance.effects effect ∧ goal (.ok ()) := by
  simp [Coroutine.emit, Derives]

@[simp] theorem derives_await
    (request : ρ)
    (goal : Except ε (ω request) → Prop) :
    provenance.Derives task
        (Coroutine.await request : Coroutine σ η ρ ω ε υ (ω request)) goal ↔
      ∀ outcome, provenance.answers request outcome → goal outcome := Iff.rfl

@[simp] theorem derives_emitAndJoin
    (effect : η)
    (goal : Except ε (List υ) → Prop) :
    provenance.Derives task
        (Coroutine.emitAndJoin effect : Coroutine σ η ρ ω ε υ (List υ)) goal ↔
      provenance.effects effect ∧ ∀ outcome, goal outcome := by
  simp [Coroutine.emitAndJoin, Derives]

/-- What follows from the goal is derived as well. -/
theorem Derives.mono
    {program : Coroutine σ η ρ ω ε υ α}
    {goal weaker : Except ε α → Prop}
    (derives : provenance.Derives task program goal)
    (weakens : ∀ outcome, goal outcome → weaker outcome) :
    provenance.Derives task program weaker := by
  induction program with
  | done outcome => exact weakens outcome derives
  | current next inductionHypothesis => exact inductionHypothesis task derives
  | read next inductionHypothesis =>
      exact fun state kept holds => inductionHypothesis state (derives state kept holds)
  | write effect next inductionHypothesis =>
      exact ⟨derives.1, fun created => inductionHypothesis created (derives.2 created)⟩
  | suspend request next inductionHypothesis =>
      exact fun outcome genuine => inductionHypothesis outcome (derives outcome genuine)
  | join children next inductionHypothesis =>
      exact fun outcome => inductionHypothesis outcome (derives outcome)

/-- A program whose result does not matter, and what follows it. -/
theorem Derives.bind
    {program : Coroutine σ η ρ ω ε υ α}
    {next : α → Coroutine σ η ρ ω ε υ β}
    {goal : Except ε β → Prop}
    (derives : provenance.Derives task program fun _ => True)
    (fails : ∀ fault, goal (.error fault))
    (follows : ∀ value, provenance.Derives task (next value) goal) :
    provenance.Derives task (program >>= next) goal := by
  rw [derives_bind]
  apply derives.mono
  intro outcome _
  cases outcome with
  | ok value => exact follows value
  | error fault => exact fails fault

/-! ## Runs -/

/-- The contract together with what is known of the answers. -/
def refined (provenance : Provenance contract) : Contract machine where
  may task effect state := contract.may task effect state ∧ provenance.effects effect
  inv state := contract.inv state ∧ provenance.inv state
  keeps invariant permitted :=
    ⟨contract.keeps invariant.1 permitted.1,
      provenance.keeps invariant.1 invariant.2 permitted.1 permitted.2⟩
  allowed task cause state := contract.allowed task cause state ∧
    ∀ request outcome, cause = .answered request outcome → provenance.answers request outcome
  asks := contract.asks
  joins := contract.joins
  begins := contract.begins
  ends task call outcome state :=
    contract.ends task call outcome state ∧ provenance.results call outcome
  mentions := contract.mentions
  asks_stable task request _ _ _ different invariant permitted :=
    contract.asks_stable task request different invariant.1 permitted.1
  joins_stable task _ _ _ different invariant permitted :=
    contract.joins_stable task different invariant.1 permitted.1
  begins_stable invariant permitted := contract.begins_stable invariant.1 permitted.1
  begins_forked invariant permitted := contract.begins_forked invariant.1 permitted.1
  ends_stable task call outcome _ _ _ different invariant permitted ended :=
    ⟨contract.ends_stable task call outcome different invariant.1 permitted.1 ended.1, ended.2⟩
  unmentioned_stable task _ _ _ different invariant permitted :=
    contract.unmentioned_stable task different invariant.1 permitted.1

theorem stable_refined
    {fact : σ → Prop}
    (stable : contract.Stable task fact) :
    provenance.refined.Stable task fact :=
  fun _ _ _ different invariant permitted => stable different invariant.1 permitted.1

theorem safe_of_derives
    {program : Coroutine σ η ρ ω ε υ α}
    {goal : Except ε α → σ → Prop}
    {wanted : Except ε α → Prop}
    {state : σ}
    (safe : contract.Safe task program goal state)
    (derives : provenance.Derives task program wanted)
    (invariant : provenance.refined.inv state) :
    provenance.refined.Safe task program
      (fun outcome later => goal outcome later ∧ wanted outcome) state := by
  induction program generalizing state with
  | done outcome => exact ⟨safe, derives⟩
  | current next inductionHypothesis => exact inductionHypothesis task safe derives invariant
  | read next inductionHypothesis =>
      exact inductionHypothesis state safe (derives state invariant.1 invariant.2) invariant
  | write effect next inductionHypothesis =>
      have permitted : provenance.refined.may task effect state := ⟨safe.1, derives.1⟩
      refine ⟨permitted, fun created => ?_⟩
      exact inductionHypothesis created (safe.2 created) (derives.2 created)
        (provenance.refined.keeps invariant permitted)
  | suspend request next inductionHypothesis =>
      obtain ⟨asked, frame, stable, framed, resumes⟩ := safe
      refine ⟨asked, frame, stable_refined stable, framed, ?_⟩
      intro later outcome invariantLater askedLater framedLater admitted allowed
      exact inductionHypothesis outcome
        (resumes later outcome invariantLater.1 askedLater framedLater admitted allowed.1)
        (derives outcome (allowed.2 request outcome rfl)) invariantLater
  | join children next inductionHypothesis =>
      obtain ⟨joins, frame, stable, framed, resumes⟩ := safe
      refine ⟨joins, frame, stable_refined stable, framed, ?_⟩
      intro later outcome invariantLater joinsLater framedLater allowed
      exact inductionHypothesis outcome
        (resumes later outcome invariantLater.1 joinsLater framedLater allowed.1)
        (derives outcome) invariantLater

variable [DecidableEq ρ]

/-- In every run in which all answers have the property, the shared state and the
results of the calls have theirs. -/
theorem of_reaches
    {condition : System σ η ρ ω κ ε υ → Action ρ ω κ ε → Prop}
    {state : σ}
    {system : System σ η ρ ω κ ε υ}
    (bodies : contract.SafeBodies)
    (derives : ∀ task call, provenance.Derives task (machine.body call)
      (provenance.results call))
    (initial : provenance.refined.inv state)
    (nobody : ∀ task, ¬contract.mentions task state)
    (permits : ∀ before action, condition before action → contract.Permits before action)
    (genuine : ∀ before task request outcome,
      condition before (.answer task request outcome) → provenance.answers request outcome)
    (reaches : machine.Reaches condition (.idle state) system) :
    provenance.inv system.state ∧
      ∀ (task : Nat) call outcome, system.tasks[task]? = some ⟨call, .ended outcome⟩ →
        provenance.results call outcome := by
  have refinedBodies : provenance.refined.SafeBodies :=
    fun task call state invariant begins unnamed allowed =>
      safe_of_derives (bodies task call state invariant.1 begins unnamed allowed.1)
        (derives task call) invariant
  have refinedPermits : ∀ before action, condition before action →
      provenance.refined.Permits before action := by
    intro before action met
    have permitted := permits before action met
    cases action with
    | start call => exact permitted
    | begin task =>
        exact fun entry found => ⟨permitted entry found, fun _ _ began => nomatch began⟩
    | answer task request outcome =>
        refine ⟨permitted, ?_⟩
        rintro other answer same
        cases same
        exact genuine before task request outcome met
    | join task failed => exact ⟨permitted, fun _ _ joined => nomatch joined⟩
  have start : provenance.refined.Sound (.idle state) := Contract.sound_idle initial nobody
  have sound := start.reaches refinedBodies refinedPermits reaches
  exact ⟨sound.invariant.2, fun task call outcome found => (sound.tasks task _ found).2⟩

end Provenance

end EventLoop
