import Promch.Library.Contract

/-!
# Runs of safe programs

When the program of every call is safe for a contract, then every run of the
event loop whose steps are allowed keeps the invariant of the contract, and
what the contract says of every single task.  Effects that are related to the
state before them by a preorder relate all later states of a run.
-/

namespace EventLoop

variable {σ η ρ κ ε υ : Type} {ω : ρ → Type}
variable {machine : Machine σ η ρ ω κ ε υ}

namespace Contract

variable (contract : Contract machine)

/-- What holds of a task in a shared state. -/
def Holds (task : Nat) (entry : Task σ η ρ ω κ ε υ) (state : σ) : Prop :=
  match entry.status with
  | .created => contract.begins entry.call state
  | .awaiting request next =>
      contract.asks task request state ∧
        ∃ frame, contract.Stable task frame ∧ frame state ∧
          ∀ later outcome, contract.inv later → contract.asks task request later →
            frame later → machine.admits task request outcome later = true →
            contract.allowed task (.answered request outcome) later →
            contract.Safe task (next outcome) (contract.ends task entry.call) later
  | .joining _ next =>
      contract.joins task state ∧
        ∃ frame, contract.Stable task frame ∧ frame state ∧
          ∀ later outcome, contract.inv later → contract.joins task later → frame later →
            contract.allowed task (.joined outcome.isOk) later →
            contract.Safe task (next outcome) (contract.ends task entry.call) later
  | .ended outcome => contract.ends task entry.call outcome state

/-- The other tasks leave true what holds of a task. -/
theorem holds_stable (task : Nat) (entry : Task σ η ρ ω κ ε υ) :
    contract.Stable task (contract.Holds task entry) := by
  intro other effect state different invariant permitted holds
  obtain ⟨call, status⟩ := entry
  cases status with
  | created => exact contract.begins_stable invariant permitted holds
  | awaiting request next =>
      obtain ⟨asked, frame, stable, framed, resumes⟩ := holds
      exact ⟨contract.asks_stable task request different invariant permitted asked,
        frame, stable, stable different invariant permitted framed, resumes⟩
  | joining children next =>
      obtain ⟨joins, frame, stable, framed, resumes⟩ := holds
      exact ⟨contract.joins_stable task different invariant permitted joins,
        frame, stable, stable different invariant permitted framed, resumes⟩
  | ended outcome =>
      exact contract.ends_stable task call outcome different invariant permitted holds

/-- The invariant holds, and of every task what its status promises; the state
names only tasks that have begun. -/
structure Sound (system : System σ η ρ ω κ ε υ) : Prop where
  invariant : contract.inv system.state
  tasks : ∀ task entry, system.tasks[task]? = some entry →
    contract.Holds task entry system.state
  named : ∀ task, contract.mentions task system.state →
    ∃ entry, system.tasks[task]? = some entry ∧ entry.status.isBegun = true

/-- The system is sound except that the given task is being run. -/
structure SoundBut (task : Nat) (call : κ) (system : System σ η ρ ω κ ε υ) : Prop where
  invariant : contract.inv system.state
  tasks : ∀ other entry, other ≠ task → system.tasks[other]? = some entry →
    contract.Holds other entry system.state
  named : ∀ other, other ≠ task → contract.mentions other system.state →
    ∃ entry, system.tasks[other]? = some entry ∧ entry.status.isBegun = true
  running : ∃ status, system.tasks[task]? = some ⟨call, status⟩

variable {contract}

/-- While one task runs the others are as sound as before. -/
theorem Sound.but
    {task : Nat}
    {system : System σ η ρ ω κ ε υ}
    (sound : contract.Sound system)
    (running : system.tasks[task]? = some ⟨call, status⟩) :
    contract.SoundBut task call system where
  invariant := sound.invariant
  tasks := fun other entry _ found => sound.tasks other entry found
  named := fun other _ named => sound.named other named
  running := ⟨status, running⟩

/-- A permitted effect of the running task keeps the others sound. -/
theorem SoundBut.perform
    {task : Nat}
    {system : System σ η ρ ω κ ε υ}
    (sound : contract.SoundBut task call system)
    (permitted : contract.may task effect system.state) :
    contract.SoundBut task call (machine.perform effect system) := by
  obtain ⟨status, running⟩ := sound.running
  constructor
  · exact contract.keeps sound.invariant permitted
  · intro other entry different found
    obtain older | ⟨call, forked, rfl⟩ := System.getElem?_create_cases found
    · exact contract.holds_stable other entry (Ne.symm different) sound.invariant permitted
        (sound.tasks other entry different older)
    · exact contract.begins_forked sound.invariant permitted call forked
  · intro other different named
    have before : contract.mentions other system.state :=
      Classical.byContradiction fun unnamed =>
        contract.unmentioned_stable other (Ne.symm different) sound.invariant permitted unnamed
          named
    obtain ⟨entry, found, begun⟩ := sound.named other different before
    exact ⟨entry, System.getElem?_create found _, begun⟩
  · exact ⟨status, System.getElem?_create running _⟩

/-- The running task comes to rest in a status of which everything promised
holds. -/
theorem SoundBut.settle
    {task : Nat}
    {system : System σ η ρ ω κ ε υ}
    (sound : contract.SoundBut task call system)
    (begun : status.isBegun = true)
    (holds : contract.Holds task ⟨call, status⟩ system.state) :
    contract.Sound (system.settle task status) := by
  obtain ⟨before, running⟩ := sound.running
  constructor
  · exact sound.invariant
  · intro other entry found
    obtain ⟨apart, older⟩ | ⟨rfl, _, same, rfl⟩ := System.getElem?_settle_cases found
    · exact sound.tasks other entry apart older
    · cases running.symm.trans same
      exact holds
  · intro other named
    by_cases same : other = task
    · subst same
      exact ⟨⟨call, status⟩, System.getElem?_settle_self running status, begun⟩
    · obtain ⟨entry, found, begunEntry⟩ := sound.named other same named
      exact ⟨entry, (System.getElem?_settle_of_ne same status).trans found, begunEntry⟩

/-- Running a safe program to its next await makes the system sound again. -/
theorem SoundBut.advance
    {task : Nat}
    {program : Coroutine σ η ρ ω ε υ υ}
    {system : System σ η ρ ω κ ε υ}
    (sound : contract.SoundBut task call system)
    (safe : contract.Safe task program (contract.ends task call) system.state) :
    contract.Sound (machine.advance task program system) := by
  induction program generalizing system with
  | done outcome => exact sound.settle rfl safe
  | current next inductionHypothesis => exact inductionHypothesis task sound safe
  | read next inductionHypothesis =>
      exact inductionHypothesis system.state sound safe
  | write effect next inductionHypothesis =>
      exact inductionHypothesis _ (sound.perform safe.1) (safe.2 _)
  | suspend request next _ => exact sound.settle rfl safe
  | join children next _ => exact sound.settle rfl safe

/-- What the effects of the other tasks leave true is true when the running task
comes to rest. -/
theorem SoundBut.stable_advance
    {task other : Nat}
    {fact : σ → Prop}
    {program : Coroutine σ η ρ ω ε υ υ}
    {system : System σ η ρ ω κ ε υ}
    (stable : contract.Stable task fact)
    (different : other ≠ task)
    (sound : contract.SoundBut other call system)
    (safe : contract.Safe other program (contract.ends other call) system.state)
    (holds : fact system.state) :
    fact (machine.advance other program system).state := by
  induction program generalizing system with
  | done outcome => exact holds
  | current next inductionHypothesis => exact inductionHypothesis other sound safe holds
  | read next inductionHypothesis => exact inductionHypothesis system.state sound safe holds
  | write effect next inductionHypothesis =>
      exact inductionHypothesis _ (sound.perform safe.1) (safe.2 _)
        (stable different sound.invariant safe.1 holds)
  | suspend request next _ => exact holds
  | join children next _ => exact holds

/-- What a step needs of the environment. -/
def Permits (contract : Contract machine) (system : System σ η ρ ω κ ε υ) :
    Action ρ ω κ ε → Prop
  | .start call => contract.begins call system.state
  | .begin task =>
      ∀ entry, system.tasks[task]? = some entry →
        contract.allowed task (.began entry.call) system.state
  | .answer task request outcome =>
      contract.allowed task (.answered request outcome) system.state
  | .join task failed => contract.allowed task (.joined failed.isNone) system.state

/-- The program of every call is safe when it begins. -/
def SafeBodies (contract : Contract machine) : Prop :=
  ∀ task call state, contract.inv state → contract.begins call state →
    ¬contract.mentions task state → contract.allowed task (.began call) state →
    contract.Safe task (machine.body call) (contract.ends task call) state

/-- What a task runs in an allowed step is safe. -/
theorem Sound.safe_of_runs
    {system : System σ η ρ ω κ ε υ}
    {action : Action ρ ω κ ε}
    {task : Nat}
    {call : κ}
    {program : Coroutine σ η ρ ω ε υ υ}
    (sound : contract.Sound system)
    (bodies : contract.SafeBodies)
    (permits : contract.Permits system action)
    (runs : machine.Runs system action task call program) :
    contract.Safe task program (contract.ends task call) system.state := by
  cases runs with
  | begins found =>
      have unnamed : ¬contract.mentions task system.state := by
        intro named
        obtain ⟨entry, same, begun⟩ := sound.named task named
        cases found.symm.trans same
        cases begun
      exact bodies task call system.state sound.invariant (sound.tasks task _ found) unnamed
        (permits _ found)
  | answered found admitted =>
      obtain ⟨asks, frame, stable, framed, resumes⟩ := sound.tasks task _ found
      exact resumes system.state _ sound.invariant asks framed admitted permits
  | @joined _ _ _ _ outcome _ found joined =>
      obtain ⟨joins, frame, stable, framed, resumes⟩ := sound.tasks task _ found
      have permitted : contract.allowed task (.joined outcome.isOk) system.state := by
        rw [System.isOk_of_joined joined]
        exact permits
      exact resumes system.state outcome sound.invariant joins framed permitted

theorem Sound.create
    {system : System σ η ρ ω κ ε υ}
    {call : κ}
    (sound : contract.Sound system)
    (begins : contract.begins call system.state) :
    contract.Sound (system.create [call]) := by
  constructor
  · exact sound.invariant
  · intro task entry found
    obtain older | ⟨created, member, rfl⟩ := System.getElem?_create_cases found
    · exact sound.tasks task entry older
    · rw [List.mem_singleton.mp member]
      exact begins
  · intro task named
    obtain ⟨entry, found, begun⟩ := sound.named task named
    exact ⟨entry, System.getElem?_create found _, begun⟩

/-- A system without tasks is sound as soon as the shared state is. -/
theorem sound_idle
    {state : σ}
    (invariant : contract.inv state)
    (nobody : ∀ task, ¬contract.mentions task state) :
    contract.Sound (System.idle state) where
  invariant := invariant
  tasks := by simp [System.idle]
  named := fun task named => absurd named (nobody task)

/-- A task that awaits an answer relies on what it asked for. -/
theorem Sound.asks_of_status
    {system : System σ η ρ ω κ ε υ}
    {task : Nat}
    {request : ρ}
    (sound : contract.Sound system)
    (found : system.status? task = some status)
    (awaits : status.request? = some request) :
    contract.asks task request system.state := by
  obtain ⟨⟨call, status⟩, position, rfl⟩ := Option.map_eq_some_iff.mp found
  have holds := sound.tasks task ⟨call, status⟩ position
  cases status with
  | awaiting asked next =>
      cases awaits
      exact holds.1
  | created | joining children next | ended outcome => cases awaits

/-- Once no task is under way any more, every call has ended as the contract
says. -/
theorem Sound.ends_of_finished
    {system : System σ η ρ ω κ ε υ}
    (sound : contract.Sound system)
    (finished : system.Finished)
    (started : call ∈ system.calls) :
    ∃ task outcome, contract.ends task call outcome system.state := by
  obtain ⟨⟨call, status⟩, member, rfl⟩ := List.mem_map.mp started
  obtain ⟨task, position, found⟩ := List.getElem_of_mem member
  have holds := sound.tasks task _ (List.getElem?_eq_some_iff.mpr ⟨position, found⟩)
  have ended := finished _ member
  cases status with
  | ended outcome => exact ⟨task, outcome, holds⟩
  | created | awaiting request next | joining children next => cases ended

/-- Once every task has ended without an exception, a task that the state names
has ended so, as the contract says. -/
theorem Sound.ends_of_succeeded
    {system : System σ η ρ ω κ ε υ}
    {task : Nat}
    (sound : contract.Sound system)
    (succeeded : system.Succeeded)
    (named : contract.mentions task system.state) :
    ∃ call value, contract.ends task call (.ok value) system.state := by
  obtain ⟨⟨call, status⟩, found, _⟩ := sound.named task named
  have holds := sound.tasks task _ found
  have ended := succeeded _ (List.mem_of_getElem? found)
  cases status with
  | ended outcome =>
      cases outcome with
      | ok value => exact ⟨call, value, holds⟩
      | error fault => cases ended
  | created | awaiting request next | joining children next => cases ended

variable [DecidableEq ρ]

/-- An allowed step creates a task, or runs a safe program of one task to where
the task comes to rest. -/
theorem Sound.step_cases
    {system next : System σ η ρ ω κ ε υ}
    {action : Action ρ ω κ ε}
    (bodies : contract.SafeBodies)
    (sound : contract.Sound system)
    (permits : contract.Permits system action)
    (stepped : machine.step system action = some next) :
    (∃ call, action = .start call ∧ next = system.create [call]) ∨
      ∃ task call program, action.task? = some task ∧ contract.SoundBut task call system ∧
        contract.Safe task program (contract.ends task call) system.state ∧
        next = machine.advance task program system := by
  obtain started | ⟨task, call, program, runs, rfl⟩ := Machine.step_cases stepped
  · exact .inl started
  right
  cases runs with
  | begins found =>
      have unnamed : ¬contract.mentions task system.state := by
        intro named
        obtain ⟨entry, same, begun⟩ := sound.named task named
        cases found.symm.trans same
        cases begun
      exact ⟨task, call, _, rfl, sound.but found,
        bodies task call system.state sound.invariant
          (sound.tasks task _ found) unnamed (permits _ found), rfl⟩
  | answered found admitted =>
      obtain ⟨asks, frame, stable, framed, resumes⟩ := sound.tasks task _ found
      exact ⟨task, call, _, rfl, sound.but found,
        resumes system.state _ sound.invariant asks framed admitted permits, rfl⟩
  | @joined _ _ _ _ outcome _ found joined =>
      obtain ⟨joins, frame, stable, framed, resumes⟩ := sound.tasks task _ found
      have permitted : contract.allowed task (.joined outcome.isOk) system.state := by
        rw [System.isOk_of_joined joined]
        exact permits
      exact ⟨task, call, _, rfl, sound.but found,
        resumes system.state outcome sound.invariant joins framed permitted, rfl⟩

/-- Every allowed step of the event loop keeps the system sound. -/
theorem Sound.step
    {system next : System σ η ρ ω κ ε υ}
    {action : Action ρ ω κ ε}
    (bodies : contract.SafeBodies)
    (sound : contract.Sound system)
    (permits : contract.Permits system action)
    (stepped : machine.step system action = some next) :
    contract.Sound next := by
  obtain ⟨call, rfl, rfl⟩ | ⟨task, call, program, _, but, safe, rfl⟩ :=
    sound.step_cases bodies permits stepped
  · exact sound.create permits
  · exact but.advance safe

/-- Every run whose steps are allowed keeps the system sound. -/
theorem Sound.reaches
    {condition : System σ η ρ ω κ ε υ → Action ρ ω κ ε → Prop}
    {start system : System σ η ρ ω κ ε υ}
    (bodies : contract.SafeBodies)
    (sound : contract.Sound start)
    (permits : ∀ before action, condition before action → contract.Permits before action)
    (reaches : machine.Reaches condition start system) :
    contract.Sound system := by
  induction reaches with
  | refl => exact sound
  | step _ met stepped inductionHypothesis =>
      exact inductionHypothesis.step bodies (permits _ _ met) stepped

/-- What the effects of the other tasks leave true outlasts their steps. -/
theorem Sound.stable_step
    {task : Nat}
    {fact : σ → Prop}
    {system next : System σ η ρ ω κ ε υ}
    {action : Action ρ ω κ ε}
    (bodies : contract.SafeBodies)
    (stable : contract.Stable task fact)
    (sound : contract.Sound system)
    (permits : contract.Permits system action)
    (apart : action.task? ≠ some task)
    (stepped : machine.step system action = some next)
    (holds : fact system.state) :
    fact next.state := by
  obtain ⟨call, rfl, rfl⟩ | ⟨other, call, program, acts, but, safe, rfl⟩ :=
    sound.step_cases bodies permits stepped
  · exact holds
  · have different : other ≠ task := fun same => apart (same ▸ acts)
    exact but.stable_advance stable different safe holds

/-- What the effects of the other tasks leave true outlasts every run in which
the task itself takes no part. -/
theorem Sound.stable_reaches
    {condition : System σ η ρ ω κ ε υ → Action ρ ω κ ε → Prop}
    {task : Nat}
    {fact : σ → Prop}
    {start system : System σ η ρ ω κ ε υ}
    (bodies : contract.SafeBodies)
    (stable : contract.Stable task fact)
    (sound : contract.Sound start)
    (permits : ∀ before action, condition before action → contract.Permits before action)
    (apart : ∀ before action, condition before action → action.task? ≠ some task)
    (reaches : machine.Reaches condition start system)
    (holds : fact start.state) :
    fact system.state := by
  have both : contract.Sound system ∧ fact system.state := by
    induction reaches with
    | refl => exact ⟨sound, holds⟩
    | step _ met stepped inductionHypothesis =>
        obtain ⟨sound, holds⟩ := inductionHypothesis
        exact ⟨sound.step bodies (permits _ _ met) stepped,
          sound.stable_step bodies stable (permits _ _ met) (apart _ _ met) stepped holds⟩
  exact both.2

end Contract

namespace Machine

/-- A property of the state and of the calls created so far that every effect
keeps is kept by running a program. -/
theorem advance_keeps
    {property : σ → List κ → Prop}
    {task : Nat}
    {program : Coroutine σ η ρ ω ε υ υ}
    {system : System σ η ρ ω κ ε υ}
    (keeps : ∀ effect state calls, property state calls →
      property (machine.apply effect state) (calls ++ machine.forks effect state))
    (holds : property system.state system.calls) :
    property (machine.advance task program system).state
      (machine.advance task program system).calls := by
  have settled : ∀ (status : Status σ η ρ ω ε υ) (system : System σ η ρ ω κ ε υ),
      property system.state system.calls →
        property (system.settle task status).state (system.settle task status).calls := by
    intro status system holds
    have same : (system.settle task status).calls = system.calls := by
      apply List.ext_getElem?
      intro position
      simp only [System.calls, System.settle, List.getElem?_map, List.getElem?_modify]
      split <;> cases system.tasks[position]? <;> rfl
    rw [same]
    exact holds
  induction program generalizing system with
  | done outcome => exact settled _ system holds
  | current next inductionHypothesis => exact inductionHypothesis task holds
  | read next inductionHypothesis => exact inductionHypothesis system.state holds
  | write effect next inductionHypothesis =>
      apply inductionHypothesis
      have created : (machine.perform effect system).calls =
          system.calls ++ machine.forks effect system.state := by
        simp [perform, System.create, System.calls, Function.comp_def]
      rw [created]
      exact keeps effect system.state system.calls holds
  | suspend request next _ => exact settled _ system holds
  | join children next _ => exact settled _ system holds

variable [DecidableEq ρ]

/-- A property of the state and of the calls created so far that every effect
keeps, and that further calls keep, is kept by every run. -/
theorem Reaches.keeps
    {condition : System σ η ρ ω κ ε υ → Action ρ ω κ ε → Prop}
    (property : σ → List κ → Prop)
    {start system : System σ η ρ ω κ ε υ}
    (reaches : machine.Reaches condition start system)
    (keeps : ∀ effect state calls, property state calls →
      property (machine.apply effect state) (calls ++ machine.forks effect state))
    (started : ∀ state calls call, property state calls → property state (calls ++ [call]))
    (initial : property start.state start.calls) :
    property system.state system.calls := by
  induction reaches with
  | refl => exact initial
  | @step system next action _ _ stepped inductionHypothesis =>
      obtain ⟨call, _, rfl⟩ | ⟨task, call, program, _, rfl⟩ := step_cases stepped
      · have created : (system.create [call]).calls = system.calls ++ [call] := by
          simp [System.create, System.calls]
        rw [created]
        exact started _ _ _ inductionHypothesis
      · exact advance_keeps keeps inductionHypothesis

theorem Reaches.trans
    {condition : System σ η ρ ω κ ε υ → Action ρ ω κ ε → Prop}
    {start middle system : System σ η ρ ω κ ε υ}
    (first : machine.Reaches condition start middle)
    (second : machine.Reaches condition middle system) :
    machine.Reaches condition start system := by
  induction second with
  | refl => exact first
  | step _ met stepped inductionHypothesis => exact .step inductionHypothesis met stepped

end Machine

end EventLoop
