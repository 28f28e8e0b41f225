import Promch.Library.AsyncLock

/-!
# Replays of one program

A replay follows one program from its start to its end.  A script says what
happens at every await: what the other tasks make of the shared state meanwhile,
and how the request is answered.  The trace of a replay lists the effects of the
program and the answers it got.  What a program ensures in given surroundings
holds of every replay whose script stays within them.
-/

namespace EventLoop

variable {σ η ρ κ ε υ α β : Type} {ω : ρ → Type}

/-- What happens while a program awaits the answer to a request. -/
structure Resumption (σ ρ : Type) (ω : ρ → Type) (ε : Type) where
  /-- What the other tasks make of the shared state. -/
  meanwhile : σ → σ := id
  request : ρ
  outcome : Except ε (ω request)

/-- What a program does, or gets for an answer. -/
inductive Happening (η ρ : Type) (ω : ρ → Type) (ε : Type) : Type
  | did (effect : η)
  | got (request : ρ) (outcome : Except ε (ω request))

/-- The effect of a happening, if it is one. -/
def Happening.effect? : Happening η ρ ω ε → Option η
  | .did effect => some effect
  | .got _ _ => none

section Answers

/-- Some answer in a trace has a property. -/
def SomeAnswer
    (property : (request : ρ) → Except ε (ω request) → Prop)
    (trace : List (Happening η ρ ω ε)) : Prop :=
  ∃ request outcome, .got request outcome ∈ trace ∧ property request outcome

/-- Every answer in a trace has a property. -/
def EveryAnswer
    (property : (request : ρ) → Except ε (ω request) → Prop)
    (trace : List (Happening η ρ ω ε)) : Prop :=
  ∀ request outcome, .got request outcome ∈ trace → property request outcome

variable {property : (request : ρ) → Except ε (ω request) → Prop}
variable {trace more : List (Happening η ρ ω ε)}

@[simp] theorem everyAnswer_nil :
    EveryAnswer property ([] : List (Happening η ρ ω ε)) :=
  fun _ _ member => nomatch member

@[simp] theorem everyAnswer_cons_did (effect : η) :
    EveryAnswer property (.did effect :: trace) ↔ EveryAnswer property trace := by
  simp [EveryAnswer]

@[simp] theorem everyAnswer_cons_got (request : ρ) (outcome : Except ε (ω request)) :
    EveryAnswer property (.got request outcome :: trace) ↔
      property request outcome ∧ EveryAnswer property trace := by
  constructor
  · intro every
    exact ⟨every request outcome List.mem_cons_self,
      fun asked answer later => every asked answer (List.mem_cons_of_mem _ later)⟩
  · rintro ⟨here, rest⟩ asked answer member
    obtain same | later := List.mem_cons.mp member
    · cases same
      exact here
    · exact rest asked answer later

@[simp] theorem everyAnswer_append :
    EveryAnswer property (trace ++ more) ↔
      EveryAnswer property trace ∧ EveryAnswer property more := by
  constructor
  · intro every
    exact ⟨fun request outcome member =>
        every request outcome (List.mem_append_left _ member),
      fun request outcome member => every request outcome (List.mem_append_right _ member)⟩
  · rintro ⟨first, second⟩ request outcome member
    exact (List.mem_append.mp member).elim (first request outcome) (second request outcome)

theorem EveryAnswer.mono
    {weaker : (request : ρ) → Except ε (ω request) → Prop}
    (every : EveryAnswer property trace)
    (weakens : ∀ request outcome, property request outcome → weaker request outcome) :
    EveryAnswer weaker trace :=
  fun request outcome member => weakens request outcome (every request outcome member)

theorem everyAnswer_not_iff :
    EveryAnswer (fun request outcome => ¬property request outcome) trace ↔
      ¬SomeAnswer property trace := by
  simp [EveryAnswer, SomeAnswer]

@[simp] theorem not_someAnswer_nil :
    ¬SomeAnswer property ([] : List (Happening η ρ ω ε)) := by
  simp [← everyAnswer_not_iff]

@[simp] theorem someAnswer_cons_did (effect : η) :
    SomeAnswer property (.did effect :: trace) ↔ SomeAnswer property trace := by
  simp [SomeAnswer]

@[simp] theorem someAnswer_cons_got (request : ρ) (outcome : Except ε (ω request)) :
    SomeAnswer property (.got request outcome :: trace) ↔
      property request outcome ∨ SomeAnswer property trace := by
  rw [← not_iff_not, not_or, ← everyAnswer_not_iff, ← everyAnswer_not_iff,
    everyAnswer_cons_got]

@[simp] theorem someAnswer_append :
    SomeAnswer property (trace ++ more) ↔
      SomeAnswer property trace ∨ SomeAnswer property more := by
  rw [← not_iff_not, not_or, ← everyAnswer_not_iff, ← everyAnswer_not_iff,
    ← everyAnswer_not_iff, everyAnswer_append]

end Answers

/-- A replay that has come to its end. -/
structure Replayed (σ η ρ : Type) (ω : ρ → Type) (ε α : Type) where
  trace : List (Happening η ρ ω ε)
  outcome : Except ε α
  state : σ

/-- A replay with something that happened before it. -/
def Replayed.after
    (happening : Happening η ρ ω ε)
    (run : Replayed σ η ρ ω ε α) : Replayed σ η ρ ω ε α :=
  { run with trace := happening :: run.trace }

namespace Machine

variable (machine : Machine σ η ρ ω κ ε υ)

/-- Replay a program that awaits no other tasks; `none` when the script does not
fit the program. -/
def replay [DecidableEq ρ] (task : Nat) :
    Coroutine σ η ρ ω ε υ α → List (Resumption σ ρ ω ε) → σ →
      Option (Replayed σ η ρ ω ε α)
  | .done outcome, script, state =>
      if script.isEmpty then some { trace := [], outcome := outcome, state := state } else none
  | .current next, script, state => replay task (next task) script state
  | .read next, script, state => replay task (next state) script state
  | .write effect next, script, state =>
      (replay task (next []) script (machine.apply effect state)).map (.after (.did effect))
  | .suspend _ _, [], _ => none
  | .suspend request next, ⟨meanwhile, answered, outcome⟩ :: rest, state =>
      if same : answered = request then
        if machine.admits task answered outcome (meanwhile state) then
          (replay task (next (same ▸ outcome)) rest (meanwhile state)).map
            (.after (.got answered outcome))
        else none
      else none
  | .join _ _, _, _ => none

/-- What the other tasks and the environment may do while a program awaits. -/
structure Surroundings (σ ρ : Type) (ω : ρ → Type) (ε : Type) where
  meanwhile : σ → σ → Prop
  answers : (request : ρ) → Except ε (ω request) → Prop

/-- A resumption stays within the surroundings. -/
def Surroundings.Include
    (surroundings : Surroundings σ ρ ω ε)
    (resumption : Resumption σ ρ ω ε) : Prop :=
  (∀ state, surroundings.meanwhile state (resumption.meanwhile state)) ∧
    surroundings.answers resumption.request resumption.outcome

/-- In the surroundings the program ends only with a trace, an outcome and a
state that meet the goal. -/
def Ensures (surroundings : Surroundings σ ρ ω ε) (task : Nat) :
    Coroutine σ η ρ ω ε υ α →
      (List (Happening η ρ ω ε) → Except ε α → σ → Prop) → σ → Prop
  | .done outcome, goal, state => goal [] outcome state
  | .current next, goal, state => Ensures surroundings task (next task) goal state
  | .read next, goal, state => Ensures surroundings task (next state) goal state
  | .write effect next, goal, state =>
      Ensures surroundings task (next []) (fun trace => goal (.did effect :: trace))
        (machine.apply effect state)
  | .suspend request next, goal, state =>
      ∀ later outcome, surroundings.meanwhile state later →
        machine.admits task request outcome later = true →
        surroundings.answers request outcome →
        Ensures surroundings task (next outcome)
          (fun trace => goal (.got request outcome :: trace)) later
  | .join _ _, _, _ => True

variable {machine} {surroundings : Surroundings σ ρ ω ε} {task : Nat}

/-- What a program ensures holds of its replays. -/
theorem Ensures.of_replay [DecidableEq ρ]
    {program : Coroutine σ η ρ ω ε υ α}
    {goal : List (Happening η ρ ω ε) → Except ε α → σ → Prop}
    {state : σ}
    {script : List (Resumption σ ρ ω ε)}
    {run : Replayed σ η ρ ω ε α}
    (ensures : machine.Ensures surroundings task program goal state)
    (within : ∀ resumption ∈ script, surroundings.Include resumption)
    (ran : machine.replay task program script state = some run) :
    goal run.trace run.outcome run.state := by
  induction program generalizing goal state script run with
  | done outcome =>
      simp only [replay] at ran
      split at ran
      · cases ran
        exact ensures
      · cases ran
  | current next inductionHypothesis => exact inductionHypothesis task ensures within ran
  | read next inductionHypothesis => exact inductionHypothesis state ensures within ran
  | write effect next inductionHypothesis =>
      obtain ⟨later, ranLater, rfl⟩ := Option.map_eq_some_iff.mp ran
      exact @inductionHypothesis [] (fun trace => goal (.did effect :: trace)) _ _ _
        ensures within ranLater
  | suspend request next inductionHypothesis =>
      cases script with
      | nil => cases ran
      | cons resumption rest =>
          obtain ⟨meanwhile, answered, outcome⟩ := resumption
          simp only [replay] at ran
          split at ran
          · next same =>
              subst same
              split at ran
              · next admitted =>
                  obtain ⟨later, ranLater, rfl⟩ := Option.map_eq_some_iff.mp ran
                  obtain ⟨changes, answers⟩ := within _ List.mem_cons_self
                  exact @inductionHypothesis outcome
                    (fun trace => goal (.got answered outcome :: trace)) _ _ _
                    (ensures (meanwhile state) outcome (changes state) admitted answers)
                    (fun other member => within other (List.mem_cons_of_mem _ member)) ranLater
              · cases ran
          · cases ran
  | join children next _ => cases ran

/-! ## Rules -/

@[simp] theorem ensures_handle
    (program : Coroutine σ η ρ ω ε υ α)
    (resume : Except ε α → Coroutine σ η ρ ω ε υ β)
    (goal : List (Happening η ρ ω ε) → Except ε β → σ → Prop)
    (state : σ) :
    machine.Ensures surroundings task (program.handle resume) goal state ↔
      machine.Ensures surroundings task program
        (fun trace outcome later =>
          machine.Ensures surroundings task (resume outcome)
            (fun more => goal (trace ++ more)) later)
        state := by
  induction program generalizing goal state with
  | done outcome => rfl
  | current next inductionHypothesis => exact inductionHypothesis task goal state
  | read next inductionHypothesis => exact inductionHypothesis state goal state
  | write effect next inductionHypothesis =>
      exact inductionHypothesis [] (fun trace => goal (.did effect :: trace))
        (machine.apply effect state)
  | suspend request next inductionHypothesis =>
      simp only [Coroutine.handle, Ensures, inductionHypothesis, List.cons_append]
  | join children next inductionHypothesis => rfl

@[simp] theorem ensures_andThen_ok
    (next : α → Coroutine σ η ρ ω ε υ β)
    (value : α) :
    machine.Ensures surroundings task (Coroutine.andThen next (.ok value)) =
      machine.Ensures surroundings task (next value) := rfl

@[simp] theorem ensures_andThen_error
    (next : α → Coroutine σ η ρ ω ε υ β)
    (fault : ε)
    (goal : List (Happening η ρ ω ε) → Except ε β → σ → Prop)
    (state : σ) :
    machine.Ensures surroundings task (Coroutine.andThen next (.error fault)) goal state ↔
      goal [] (.error fault) state := Iff.rfl

@[simp] theorem ensures_bind
    (program : Coroutine σ η ρ ω ε υ α)
    (next : α → Coroutine σ η ρ ω ε υ β)
    (goal : List (Happening η ρ ω ε) → Except ε β → σ → Prop)
    (state : σ) :
    machine.Ensures surroundings task (program >>= next) goal state ↔
      machine.Ensures surroundings task program
        (fun trace outcome later =>
          machine.Ensures surroundings task (Coroutine.andThen next outcome)
            (fun more => goal (trace ++ more)) later)
        state :=
  ensures_handle program (Coroutine.andThen next) goal state

@[simp] theorem ensures_attempt
    (program : Coroutine σ η ρ ω ε υ α)
    (goal : List (Happening η ρ ω ε) → Except ε (Except ε α) → σ → Prop)
    (state : σ) :
    machine.Ensures surroundings task program.attempt goal state ↔
      machine.Ensures surroundings task program
        (fun trace outcome later => goal trace (.ok outcome) later) state := by
  rw [Coroutine.attempt, ensures_handle]
  simp only [Ensures, List.append_nil]

@[simp] theorem ensures_pure
    (value : α)
    (goal : List (Happening η ρ ω ε) → Except ε α → σ → Prop)
    (state : σ) :
    machine.Ensures surroundings task (pure value : Coroutine σ η ρ ω ε υ α) goal state ↔
      goal [] (.ok value) state := Iff.rfl

@[simp] theorem ensures_raise
    (fault : ε)
    (goal : List (Happening η ρ ω ε) → Except ε α → σ → Prop)
    (state : σ) :
    machine.Ensures surroundings task (Coroutine.raise fault : Coroutine σ η ρ ω ε υ α)
      goal state ↔ goal [] (.error fault) state := Iff.rfl

@[simp] theorem ensures_conclude
    (outcome : Except ε α)
    (goal : List (Happening η ρ ω ε) → Except ε α → σ → Prop)
    (state : σ) :
    machine.Ensures surroundings task (Coroutine.conclude outcome : Coroutine σ η ρ ω ε υ α)
      goal state ↔ goal [] outcome state := Iff.rfl

@[simp] theorem ensures_currentTask
    (goal : List (Happening η ρ ω ε) → Except ε Nat → σ → Prop)
    (state : σ) :
    machine.Ensures surroundings task (Coroutine.currentTask : Coroutine σ η ρ ω ε υ Nat)
      goal state ↔ goal [] (.ok task) state := Iff.rfl

@[simp] theorem ensures_gets
    (part : σ → α)
    (goal : List (Happening η ρ ω ε) → Except ε α → σ → Prop)
    (state : σ) :
    machine.Ensures surroundings task (Coroutine.gets part : Coroutine σ η ρ ω ε υ α)
      goal state ↔ goal [] (.ok (part state)) state := Iff.rfl

@[simp] theorem ensures_emit
    (effect : η)
    (goal : List (Happening η ρ ω ε) → Except ε Unit → σ → Prop)
    (state : σ) :
    machine.Ensures surroundings task (Coroutine.emit effect : Coroutine σ η ρ ω ε υ Unit)
      goal state ↔ goal [.did effect] (.ok ()) (machine.apply effect state) := Iff.rfl

@[simp] theorem ensures_await
    (request : ρ)
    (goal : List (Happening η ρ ω ε) → Except ε (ω request) → σ → Prop)
    (state : σ) :
    machine.Ensures surroundings task
        (Coroutine.await request : Coroutine σ η ρ ω ε υ (ω request)) goal state ↔
      ∀ later outcome, surroundings.meanwhile state later →
        machine.admits task request outcome later = true →
        surroundings.answers request outcome → goal [.got request outcome] outcome later :=
  Iff.rfl

/-- A program ensures a weaker goal. -/
theorem Ensures.mono
    {program : Coroutine σ η ρ ω ε υ α}
    {goal weaker : List (Happening η ρ ω ε) → Except ε α → σ → Prop}
    {state : σ}
    (ensures : machine.Ensures surroundings task program goal state)
    (weakens : ∀ trace outcome later, goal trace outcome later → weaker trace outcome later) :
    machine.Ensures surroundings task program weaker state := by
  induction program generalizing goal weaker state with
  | done outcome => exact weakens [] outcome state ensures
  | current next inductionHypothesis => exact inductionHypothesis task ensures weakens
  | read next inductionHypothesis => exact inductionHypothesis state ensures weakens
  | write effect next inductionHypothesis =>
      exact inductionHypothesis [] ensures fun trace => weakens (.did effect :: trace)
  | suspend request next inductionHypothesis =>
      intro later outcome changed admitted answered
      exact inductionHypothesis outcome (ensures later outcome changed admitted answered)
        fun trace => weakens (.got request outcome :: trace)
  | join children next _ => trivial

/-- A fact that neither the surroundings nor the effects of the program disturb
still holds when the program ends. -/
theorem Ensures.frame
    {program : Coroutine σ η ρ ω ε υ α}
    {goal : List (Happening η ρ ω ε) → Except ε α → σ → Prop}
    {kind : η → Prop}
    {state : σ}
    (fact : σ → Prop)
    (stable : ∀ before after, surroundings.meanwhile before after → fact before → fact after)
    (own : ∀ effect before, kind effect → fact before → fact (machine.apply effect before))
    (writes : program.Writes kind)
    (holds : fact state)
    (ensures : machine.Ensures surroundings task program
      (fun trace outcome later => fact later → goal trace outcome later) state) :
    machine.Ensures surroundings task program goal state := by
  induction program generalizing goal state with
  | done outcome => exact ensures holds
  | current next inductionHypothesis =>
      exact inductionHypothesis task (writes task) holds ensures
  | read next inductionHypothesis =>
      exact inductionHypothesis state (writes state) holds ensures
  | write effect next inductionHypothesis =>
      exact inductionHypothesis [] (writes.2 []) (own effect state writes.1 holds) ensures
  | suspend request next inductionHypothesis =>
      intro later outcome changed admitted answered
      exact inductionHypothesis outcome (writes outcome) (stable state later changed holds)
        (ensures later outcome changed admitted answered)
  | join children next _ => trivial

section Locks

variable {lockOf : σ → AsyncLock} {op : LockOp → η} {turn : ρ}

/-- A program under a lock gets the lock at once, gets it when its turn has come,
or its wait is cut short. -/
theorem ensures_withLock
    {program : Coroutine σ η ρ ω ε υ α}
    {goal : List (Happening η ρ ω ε) → Except ε α → σ → Prop}
    {state : σ}
    (taken : machine.Ensures surroundings task program
      (fun trace outcome later =>
        goal (.did (op (.take task)) :: trace ++ [.did (op .release)]) outcome
          (machine.apply (op .release) later))
      (machine.apply (op (.take task)) state))
    (woken : ∀ before value,
      surroundings.meanwhile (machine.apply (op (.enqueue task)) state) before →
      machine.admits task turn (.ok value) before = true →
      machine.Ensures surroundings task program
        (fun trace outcome later =>
          goal (.did (op (.enqueue task)) :: .got turn (.ok value) ::
            .did (op (.wake task)) :: trace ++ [.did (op .release)]) outcome
              (machine.apply (op .release) later))
        (machine.apply (op (.wake task)) before))
    (cut : ∀ before fault,
      surroundings.meanwhile (machine.apply (op (.enqueue task)) state) before →
      machine.admits task turn (.error fault) before = true →
      goal [.did (op (.enqueue task)), .got turn (.error fault), .did (op (.leave task))]
        (.error fault) (machine.apply (op (.leave task)) before)) :
    machine.Ensures surroundings task (withLock lockOf op turn program) goal state := by
  unfold withLock acquire
  simp only [ensures_bind, ensures_currentTask, ensures_andThen_ok, ensures_gets]
  by_cases free : (lockOf state).isFree = true
  · rw [if_pos free]
    simpa using taken
  · rw [if_neg free]
    simp only [ensures_bind, ensures_emit, ensures_andThen_ok, ensures_attempt, ensures_await]
    intro before outcome changed admitted _
    cases outcome with
    | ok value => simpa using woken before value changed admitted
    | error fault => simpa using cut before fault changed admitted

end Locks

/-- The answers in the trace of a replay are those of its script. -/
theorem got_mem_trace_iff [DecidableEq ρ]
    {program : Coroutine σ η ρ ω ε υ α}
    {script : List (Resumption σ ρ ω ε)}
    {state : σ}
    {run : Replayed σ η ρ ω ε α}
    (ran : machine.replay task program script state = some run)
    (request : ρ)
    (outcome : Except ε (ω request)) :
    .got request outcome ∈ run.trace ↔
      ∃ meanwhile : σ → σ, ⟨meanwhile, request, outcome⟩ ∈ script := by
  induction program generalizing script state run with
  | done ended =>
      simp only [replay] at ran
      split at ran
      · next used =>
          cases ran
          simp [List.isEmpty_iff.mp used]
      · cases ran
  | current next inductionHypothesis => exact inductionHypothesis task ran
  | read next inductionHypothesis => exact inductionHypothesis state ran
  | write effect next inductionHypothesis =>
      obtain ⟨later, ranLater, rfl⟩ := Option.map_eq_some_iff.mp ran
      simpa [Replayed.after] using inductionHypothesis [] ranLater
  | suspend asked next inductionHypothesis =>
      cases script with
      | nil => cases ran
      | cons resumption rest =>
          obtain ⟨meanwhile, answered, answer⟩ := resumption
          simp only [replay] at ran
          split at ran
          · next same =>
              subst same
              split at ran
              · obtain ⟨later, ranLater, rfl⟩ := Option.map_eq_some_iff.mp ran
                have found := inductionHypothesis answer ranLater
                simp only [Replayed.after, List.mem_cons, found, Happening.got.injEq,
                  Resumption.mk.injEq]
                constructor
                · rintro (here | ⟨change, later⟩)
                  · exact ⟨meanwhile, .inl ⟨rfl, here⟩⟩
                  · exact ⟨change, .inr later⟩
                · rintro ⟨change, ⟨rfl, here⟩ | later⟩
                  · exact .inl here
                  · exact .inr ⟨change, later⟩
              · cases ran
          · cases ran
  | join children next _ => cases ran

/-- Some answer in the trace of a replay has a property exactly if one of its
script has. -/
theorem someAnswer_trace_iff [DecidableEq ρ]
    {program : Coroutine σ η ρ ω ε υ α}
    {script : List (Resumption σ ρ ω ε)}
    {state : σ}
    {run : Replayed σ η ρ ω ε α}
    {property : (request : ρ) → Except ε (ω request) → Prop}
    (ran : machine.replay task program script state = some run) :
    SomeAnswer property run.trace ↔
      ∃ resumption ∈ script, property resumption.request resumption.outcome := by
  constructor
  · rintro ⟨request, outcome, got, holds⟩
    obtain ⟨meanwhile, member⟩ := (got_mem_trace_iff ran request outcome).mp got
    exact ⟨_, member, holds⟩
  · rintro ⟨⟨meanwhile, request, outcome⟩, member, holds⟩
    exact ⟨request, outcome, (got_mem_trace_iff ran request outcome).mpr ⟨meanwhile, member⟩,
      holds⟩

end Machine

end EventLoop
