import Mathlib.Data.List.Forall2
import Promch.Library.AsyncLock
import Promch.Library.EventLoop

/-!
# What tasks attain, by themselves and through the tasks that they await

A target says what holds once a task of a call has returned, and goes on holding
whatever the tasks do.  A program that awaits other tasks may rely on their targets.
It is shown of every call by itself that it attains its target, as long as all tasks
keep to a contract; then it holds of every task in every run of the event loop.
-/

namespace EventLoop

variable {σ η ρ κ ε υ α β : Type} {ω : ρ → Type}

/-- What the calls of a machine attain, and what no task disturbs meanwhile. -/
structure Attainment {machine : Machine σ η ρ ω κ ε υ} (contract : Contract machine) where
  target : κ → Except ε υ → σ → Prop
  inv : σ → Prop := fun _ => True
  keeps : ∀ {task effect state}, contract.inv state → inv state →
    contract.may task effect state → inv (machine.apply effect state)
  lasts : ∀ {task effect state call outcome}, contract.inv state → inv state →
    contract.may task effect state → target call outcome state →
      target call outcome (machine.apply effect state)

namespace Attainment

variable {machine : Machine σ η ρ ω κ ε υ} {contract : Contract machine}
variable (attainment : Attainment contract)

/-- Nothing that the other tasks may do disturbs a fact. -/
def Stable (task : Nat) (fact : σ → Prop) : Prop :=
  ∀ ⦃other effect state⦄, other ≠ task → contract.inv state → attainment.inv state →
    contract.may other effect state → fact state → fact (machine.apply effect state)

/-- What the awaited tasks have returned is what their calls attain, as far as the
calls are known. -/
def Returned
    (known : List (Nat × κ))
    (children : List Nat)
    (outcome : Except ε (List υ))
    (state : σ) : Prop :=
  ∀ values, outcome = .ok values →
    List.Forall₂ (fun child value => ∀ call, (child, call) ∈ known →
      attainment.target call (.ok value) state) children values

/-- From this state on the program returns or raises only in states that meet the
goal.  The calls of the given tasks are known. -/
def Attains (task : Nat) :
    List (Nat × κ) → Coroutine σ η ρ ω ε υ α → (Except ε α → σ → Prop) → σ → Prop
  | _, .done outcome, goal, state => goal outcome state
  | known, .current next, goal, state => Attains task known (next task) goal state
  | known, .read next, goal, state => Attains task known (next state) goal state
  | known, .write effect next, goal, state =>
      contract.may task effect state → ∀ created,
        created.length = (machine.forks effect state).length →
          Attains task (created.zip (machine.forks effect state) ++ known) (next created) goal
            (machine.apply effect state)
  | known, .suspend request next, goal, state =>
      ∃ frame, attainment.Stable task frame ∧ frame state ∧
        ∀ later outcome, contract.inv later → attainment.inv later → frame later →
          machine.admits task request outcome later = true →
            Attains task known (next outcome) goal later
  | known, .join children next, goal, state =>
      ∃ frame, attainment.Stable task frame ∧ frame state ∧
        ∀ later outcome, contract.inv later → attainment.inv later → frame later →
          attainment.Returned known children outcome later →
            Attains task known (next outcome) goal later

variable {attainment} {task : Nat} {known : List (Nat × κ)} {state : σ}

/-! ## Rules -/

theorem Stable.and
    {first second : σ → Prop}
    (firstStable : attainment.Stable task first)
    (secondStable : attainment.Stable task second) :
    attainment.Stable task fun state => first state ∧ second state :=
  fun _ _ _ different kept invariant permitted both =>
    ⟨firstStable different kept invariant permitted both.1,
      secondStable different kept invariant permitted both.2⟩

theorem stable_true : attainment.Stable task fun _ => True :=
  fun _ _ _ _ _ _ _ _ => trivial

/-- To know more calls does no harm. -/
theorem Attains.knowing
    {program : Coroutine σ η ρ ω ε υ α}
    {goal : Except ε α → σ → Prop}
    {more : List (Nat × κ)}
    (attains : attainment.Attains task known program goal state)
    (known_subset : known ⊆ more) :
    attainment.Attains task more program goal state := by
  induction program generalizing known more state with
  | done outcome => exact attains
  | current next inductionHypothesis => exact inductionHypothesis task attains known_subset
  | read next inductionHypothesis => exact inductionHypothesis state attains known_subset
  | write effect next inductionHypothesis =>
      intro permitted created length
      exact inductionHypothesis created (attains permitted created length)
        (List.append_subset.mpr ⟨List.subset_append_left _ _,
          List.Subset.trans known_subset (List.subset_append_right _ _)⟩)
  | suspend request next inductionHypothesis =>
      obtain ⟨frame, stable, framed, resumes⟩ := attains
      refine ⟨frame, stable, framed, ?_⟩
      intro later outcome kept invariant framedLater admitted
      exact inductionHypothesis outcome
        (resumes later outcome kept invariant framedLater admitted) known_subset
  | join children next inductionHypothesis =>
      obtain ⟨frame, stable, framed, resumes⟩ := attains
      refine ⟨frame, stable, framed, ?_⟩
      intro later outcome kept invariant framedLater returned
      refine inductionHypothesis outcome (resumes later outcome kept invariant framedLater ?_)
        known_subset
      intro values same
      exact (returned values same).imp fun child value attained call member =>
        attained call (known_subset member)

theorem attains_handle
    {program : Coroutine σ η ρ ω ε υ α}
    {resume : Except ε α → Coroutine σ η ρ ω ε υ β}
    {goal : Except ε β → σ → Prop}
    (attains : attainment.Attains task known program
      (fun outcome later => attainment.Attains task [] (resume outcome) goal later) state) :
    attainment.Attains task known (program.handle resume) goal state := by
  induction program generalizing known state with
  | done outcome =>
      have follows : attainment.Attains task [] (resume outcome) goal state := attains
      exact follows.knowing (List.nil_subset _)
  | current next inductionHypothesis => exact inductionHypothesis task attains
  | read next inductionHypothesis => exact inductionHypothesis state attains
  | write effect next inductionHypothesis =>
      exact fun permitted created length =>
        inductionHypothesis created (attains permitted created length)
  | suspend request next inductionHypothesis =>
      obtain ⟨frame, stable, framed, resumes⟩ := attains
      exact ⟨frame, stable, framed, fun later outcome kept invariant framedLater admitted =>
        inductionHypothesis outcome (resumes later outcome kept invariant framedLater admitted)⟩
  | join children next inductionHypothesis =>
      obtain ⟨frame, stable, framed, resumes⟩ := attains
      exact ⟨frame, stable, framed, fun later outcome kept invariant framedLater returned =>
        inductionHypothesis outcome (resumes later outcome kept invariant framedLater returned)⟩

theorem attains_bind
    {program : Coroutine σ η ρ ω ε υ α}
    {next : α → Coroutine σ η ρ ω ε υ β}
    {goal : Except ε β → σ → Prop}
    (attains : attainment.Attains task known program
      (fun outcome later =>
        attainment.Attains task [] (Coroutine.andThen next outcome) goal later) state) :
    attainment.Attains task known (program >>= next) goal state :=
  attains_handle attains

theorem attains_attempt
    {program : Coroutine σ η ρ ω ε υ α}
    {goal : Except ε (Except ε α) → σ → Prop}
    (attains : attainment.Attains task known program
      (fun outcome later => goal (.ok outcome) later) state) :
    attainment.Attains task known program.attempt goal state :=
  attains_handle attains

@[simp] theorem attains_gets
    (part : σ → α)
    (goal : Except ε α → σ → Prop)
    (state : σ) :
    attainment.Attains task known (Coroutine.gets part : Coroutine σ η ρ ω ε υ α) goal state ↔
      goal (.ok (part state)) state := Iff.rfl

@[simp] theorem attains_currentTask
    (goal : Except ε Nat → σ → Prop)
    (state : σ) :
    attainment.Attains task known (Coroutine.currentTask : Coroutine σ η ρ ω ε υ Nat) goal
      state ↔ goal (.ok task) state := Iff.rfl

theorem attains_emit
    {effect : η}
    {goal : Except ε Unit → σ → Prop}
    (attains : contract.may task effect state → goal (.ok ()) (machine.apply effect state)) :
    attainment.Attains task known (Coroutine.emit effect : Coroutine σ η ρ ω ε υ Unit) goal
      state :=
  fun permitted _ _ => attains permitted

/-- To await an answer, with a fact that the other tasks leave true. -/
theorem attains_await
    {request : ρ}
    {goal : Except ε (ω request) → σ → Prop}
    (frame : σ → Prop)
    (stable : attainment.Stable task frame)
    (framed : frame state)
    (answered : ∀ later outcome, contract.inv later → attainment.inv later → frame later →
      goal outcome later) :
    attainment.Attains task known
      (Coroutine.await request : Coroutine σ η ρ ω ε υ (ω request)) goal state :=
  ⟨frame, stable, framed, fun later outcome kept invariant framedLater _ =>
    answered later outcome kept invariant framedLater⟩

private theorem forall₂_of_zip
    {property : κ → υ → Prop}
    {created : List Nat}
    {calls : List κ}
    {values : List υ}
    (length : created.length = calls.length)
    (each : List.Forall₂ (fun child value => ∀ call, (child, call) ∈ created.zip calls →
      property call value) created values) :
    List.Forall₂ property calls values := by
  induction calls generalizing created values with
  | nil =>
      obtain rfl := List.length_eq_zero_iff.mp length
      cases each
      exact .nil
  | cons call calls inductionHypothesis =>
      cases each with
      | nil => cases length
      | cons first rest =>
          refine .cons (first call List.mem_cons_self)
            (inductionHypothesis (Nat.succ.inj length) ?_)
          exact rest.imp fun child value attained other member =>
            attained other (List.mem_cons_of_mem _ member)

/-- To have an effect and await the tasks it creates: each has attained its target. -/
theorem attains_emitAndJoin
    {effect : η}
    {goal : Except ε (List υ) → σ → Prop}
    (frame : σ → Prop)
    (stable : attainment.Stable task frame)
    (framed : contract.may task effect state → frame (machine.apply effect state))
    (failed : ∀ fault later, contract.inv later → attainment.inv later → frame later →
      goal (.error fault) later)
    (joined : ∀ values later, contract.inv later → attainment.inv later → frame later →
      List.Forall₂ (fun call value => attainment.target call (.ok value) later)
        (machine.forks effect state) values →
      goal (.ok values) later) :
    attainment.Attains task known
      (Coroutine.emitAndJoin effect : Coroutine σ η ρ ω ε υ (List υ)) goal state := by
  intro permitted created length
  refine ⟨frame, stable, framed permitted, ?_⟩
  intro later outcome kept invariant framedLater returned
  cases outcome with
  | error fault => exact failed fault later kept invariant framedLater
  | ok values =>
      apply joined values later kept invariant framedLater
      apply forall₂_of_zip length
      exact (returned values rfl).imp fun child value attained call member =>
        attained call (List.mem_append_left _ member)

/-- A program attains a weaker goal; the invariants hold where it has to be met. -/
theorem Attains.mono
    {program : Coroutine σ η ρ ω ε υ α}
    {goal weaker : Except ε α → σ → Prop}
    (attains : attainment.Attains task known program goal state)
    (kept : contract.inv state)
    (invariant : attainment.inv state)
    (weakens : ∀ outcome later, contract.inv later → attainment.inv later →
      goal outcome later → weaker outcome later) :
    attainment.Attains task known program weaker state := by
  induction program generalizing known state with
  | done outcome => exact weakens outcome state kept invariant attains
  | current next inductionHypothesis => exact inductionHypothesis task attains kept invariant
  | read next inductionHypothesis => exact inductionHypothesis state attains kept invariant
  | write effect next inductionHypothesis =>
      intro permitted created length
      exact inductionHypothesis created (attains permitted created length)
        (contract.keeps kept permitted) (attainment.keeps kept invariant permitted)
  | suspend request next inductionHypothesis =>
      obtain ⟨frame, stable, framed, resumes⟩ := attains
      refine ⟨frame, stable, framed, ?_⟩
      intro later outcome keptLater invariantLater framedLater admitted
      exact inductionHypothesis outcome
        (resumes later outcome keptLater invariantLater framedLater admitted) keptLater
        invariantLater
  | join children next inductionHypothesis =>
      obtain ⟨frame, stable, framed, resumes⟩ := attains
      refine ⟨frame, stable, framed, ?_⟩
      intro later outcome keptLater invariantLater framedLater returned
      exact inductionHypothesis outcome
        (resumes later outcome keptLater invariantLater framedLater returned) keptLater
        invariantLater

/-- What a program attains on two accounts it attains together. -/
theorem Attains.and
    {program : Coroutine σ η ρ ω ε υ α}
    {first second : Except ε α → σ → Prop}
    (attainsFirst : attainment.Attains task known program first state)
    (attainsSecond : attainment.Attains task known program second state) :
    attainment.Attains task known program
      (fun outcome later => first outcome later ∧ second outcome later) state := by
  induction program generalizing known state with
  | done outcome => exact ⟨attainsFirst, attainsSecond⟩
  | current next inductionHypothesis =>
      exact inductionHypothesis task attainsFirst attainsSecond
  | read next inductionHypothesis =>
      exact inductionHypothesis state attainsFirst attainsSecond
  | write effect next inductionHypothesis =>
      exact fun permitted created length => inductionHypothesis created
        (attainsFirst permitted created length) (attainsSecond permitted created length)
  | suspend request next inductionHypothesis =>
      obtain ⟨frame, stable, framed, resumes⟩ := attainsFirst
      obtain ⟨other, otherStable, otherFramed, otherResumes⟩ := attainsSecond
      refine ⟨_, stable.and otherStable, ⟨framed, otherFramed⟩, ?_⟩
      intro later outcome kept invariant both admitted
      exact inductionHypothesis outcome
        (resumes later outcome kept invariant both.1 admitted)
        (otherResumes later outcome kept invariant both.2 admitted)
  | join children next inductionHypothesis =>
      obtain ⟨frame, stable, framed, resumes⟩ := attainsFirst
      obtain ⟨other, otherStable, otherFramed, otherResumes⟩ := attainsSecond
      refine ⟨_, stable.and otherStable, ⟨framed, otherFramed⟩, ?_⟩
      intro later outcome kept invariant both returned
      exact inductionHypothesis outcome
        (resumes later outcome kept invariant both.1 returned)
        (otherResumes later outcome kept invariant both.2 returned)

/-- A fact that neither the other tasks nor the effects of the program disturb still
holds when the program returns. -/
theorem attains_of_writes
    {program : Coroutine σ η ρ ω ε υ α}
    {kind : η → Prop}
    (fact : σ → Prop)
    (writes : program.Writes kind)
    (stable : attainment.Stable task fact)
    (own : ∀ effect before, kind effect → contract.inv before → attainment.inv before →
      contract.may task effect before → fact before → fact (machine.apply effect before))
    (kept : contract.inv state)
    (invariant : attainment.inv state)
    (holds : fact state) :
    attainment.Attains task known program
      (fun _ later => contract.inv later ∧ attainment.inv later ∧ fact later) state := by
  induction program generalizing known state with
  | done outcome => exact ⟨kept, invariant, holds⟩
  | current next inductionHypothesis =>
      exact inductionHypothesis task (writes task) kept invariant holds
  | read next inductionHypothesis =>
      exact inductionHypothesis state (writes state) kept invariant holds
  | write effect next inductionHypothesis =>
      intro permitted created _
      exact inductionHypothesis created (writes.2 created) (contract.keeps kept permitted)
        (attainment.keeps kept invariant permitted)
        (own effect state writes.1 kept invariant permitted holds)
  | suspend request next inductionHypothesis =>
      refine ⟨fact, stable, holds, ?_⟩
      intro later outcome keptLater invariantLater factLater _
      exact inductionHypothesis outcome (writes outcome) keptLater invariantLater factLater
  | join children next inductionHypothesis =>
      refine ⟨fact, stable, holds, ?_⟩
      intro later outcome keptLater invariantLater factLater _
      exact inductionHypothesis outcome (writes outcome) keptLater invariantLater factLater

/-- Nothing has to be shown for a goal that is always met. -/
theorem attains_of_forall
    {program : Coroutine σ η ρ ω ε υ α}
    {goal : Except ε α → σ → Prop}
    (always : ∀ outcome later, goal outcome later) :
    attainment.Attains task known program goal state := by
  induction program generalizing known state with
  | done outcome => exact always outcome state
  | current next inductionHypothesis => exact inductionHypothesis task
  | read next inductionHypothesis => exact inductionHypothesis state
  | write effect next inductionHypothesis =>
      exact fun _ created _ => inductionHypothesis created
  | suspend request next inductionHypothesis =>
      exact ⟨_, stable_true, trivial, fun _ outcome _ _ _ _ => inductionHypothesis outcome⟩
  | join children next inductionHypothesis =>
      exact ⟨_, stable_true, trivial, fun _ outcome _ _ _ _ => inductionHypothesis outcome⟩

section WithLock

variable {lockOf : σ → AsyncLock} {op : LockOp → η} {turn : ρ}

/-- A program under a lock has to attain the goal when it starts with the lock taken,
at once or after a wait. -/
theorem attains_withLock
    {program : Coroutine σ η ρ ω ε υ α}
    {goal : Except ε α → σ → Prop}
    (applies : ∀ operation before, lockOf (machine.apply (op operation) before) =
      (lockOf before).apply operation)
    (kept : contract.inv state)
    (invariant : attainment.inv state)
    (held : ∀ before, contract.inv before → attainment.inv before →
      (lockOf before).holder = some task →
        attainment.Attains task [] program
          (fun outcome later => goal outcome (machine.apply (op .release) later)) before)
    (cut : ∀ fault later, goal (.error fault) later) :
    attainment.Attains task known (withLock lockOf op turn program) goal state := by
  have holds : ∀ before more, contract.inv before → attainment.inv before →
      (lockOf before).holder = some task →
        attainment.Attains task more (holding op program) goal before := by
    intro before more keptBefore invariantBefore heldBefore
    have released : ∀ outcome later, goal outcome (machine.apply (op .release) later) →
        attainment.Attains task [] (Coroutine.emit (op .release) >>= fun _ =>
          Coroutine.conclude outcome : Coroutine σ η ρ ω ε υ α) goal later :=
      fun outcome later met => attains_bind (attains_emit fun _ => met)
    have inside := (held before keptBefore invariantBefore heldBefore).mono keptBefore
      invariantBefore fun outcome later _ _ met => released outcome later met
    exact attains_bind (attains_attempt (inside.knowing (List.nil_subset _)))
  rw [withLock_eq]
  change attainment.Attains task known (if (lockOf state).isFree then _ else _) goal state
  split
  · intro permitted created _
    apply holds _ _ (contract.keeps kept permitted) (attainment.keeps kept invariant permitted)
    rw [applies]
    rfl
  · intro _ created _
    refine ⟨_, stable_true, trivial, ?_⟩
    intro later outcome keptLater invariantLater _ _
    cases outcome with
    | ok value =>
        intro permitted _ _
        apply holds _ _ (contract.keeps keptLater permitted)
          (attainment.keeps keptLater invariantLater permitted)
        rw [applies]
        rfl
    | error fault => exact fun _ _ _ => cut fault _

end WithLock

/-! ## Runs -/

variable (attainment)

/-- The tasks were created for the given calls, and not before a certain task. -/
def Knows
    (first : Nat)
    (known : List (Nat × κ))
    (system : System σ η ρ ω κ ε υ) : Prop :=
  ∀ child call, (child, call) ∈ known →
    first ≤ child ∧ ∃ status, system.tasks[child]? = some ⟨call, status⟩

/-- What a task has yet to do attains the target of its call. -/
def Fits
    (first task : Nat)
    (entry : Task σ η ρ ω κ ε υ)
    (system : System σ η ρ ω κ ε υ) : Prop :=
  match entry.status with
  | .created => True
  | .awaiting request next =>
      ∃ known, Knows first known system ∧
        attainment.Attains task known (.suspend request next) (attainment.target entry.call)
          system.state
  | .joining children next =>
      ∃ known, Knows first known system ∧
        attainment.Attains task known (.join children next) (attainment.target entry.call)
          system.state
  | .ended outcome => attainment.target entry.call outcome system.state

/-- All tasks from the given one on fit. -/
structure Follows (first : Nat) (system : System σ η ρ ω κ ε υ) : Prop where
  inv : attainment.inv system.state
  fits : ∀ (task : Nat) entry, first ≤ task → system.tasks[task]? = some entry →
    attainment.Fits first task entry system

/-- The same, but for one task, which is being run. -/
structure FollowsBut (first task : Nat) (system : System σ η ρ ω κ ε υ) : Prop where
  inv : attainment.inv system.state
  fits : ∀ (other : Nat) entry, other ≠ task → first ≤ other →
    system.tasks[other]? = some entry → attainment.Fits first other entry system

variable {attainment} {first : Nat} {system next : System σ η ρ ω κ ε υ} {call : κ}

theorem Knows.of_kept
    (knows : Knows first known system)
    (kept : ∀ (child : Nat) entry, system.tasks[child]? = some entry →
      ∃ status, next.tasks[child]? = some ⟨entry.call, status⟩) :
    Knows first known next := by
  intro child call member
  obtain ⟨later, status, found⟩ := knows child call member
  exact ⟨later, kept child ⟨call, status⟩ found⟩

/-- What a task relies on outlasts a change that leaves its frames true. -/
theorem Fits.of_kept
    {entry : Task σ η ρ ω κ ε υ}
    (fits : attainment.Fits first task entry system)
    (kept : ∀ (child : Nat) entry, system.tasks[child]? = some entry →
      ∃ status, next.tasks[child]? = some ⟨entry.call, status⟩)
    (frames : ∀ frame : σ → Prop, attainment.Stable task frame → frame system.state →
      frame next.state)
    (lasts : ∀ outcome, attainment.target entry.call outcome system.state →
      attainment.target entry.call outcome next.state) :
    attainment.Fits first task entry next := by
  obtain ⟨call, status⟩ := entry
  cases status with
  | created => trivial
  | awaiting request resume | joining children resume =>
      obtain ⟨known, knows, frame, stable, framed, resumes⟩ := fits
      exact ⟨known, knows.of_kept kept, frame, stable, frames frame stable framed, resumes⟩
  | ended outcome => exact lasts outcome fits

/-- The tasks that an effect creates are those of its calls. -/
theorem mem_zip_created
    {effect : η}
    {child : Nat}
    (member : (child, call) ∈
      (machine.created effect system).zip (machine.forks effect system.state)) :
    system.tasks.length ≤ child ∧
      (machine.perform effect system).tasks[child]? = some ⟨call, .created⟩ := by
  obtain ⟨position, found⟩ := List.mem_iff_getElem?.mp member
  obtain ⟨here, there⟩ := List.getElem?_zip_eq_some.mp found
  have inside := (List.getElem?_eq_some_iff.mp there).1
  simp only [Machine.created] at here
  rw [List.getElem?_range' inside] at here
  obtain rfl := Option.some.inj here
  refine ⟨by omega, ?_⟩
  simp only [Machine.perform, System.create]
  rw [List.getElem?_append_right (by omega)]
  simp [there]

namespace FollowsBut

/-- The running task performs an effect. -/
theorem perform
    {effect : η}
    (follows : attainment.FollowsBut first task system)
    (sound : contract.SoundBut task call system)
    (permitted : contract.may task effect system.state) :
    attainment.FollowsBut first task (machine.perform effect system) where
  inv := attainment.keeps sound.invariant follows.inv permitted
  fits := by
    intro other entry apart from_first found
    obtain older | ⟨created, _, rfl⟩ := System.getElem?_create_cases found
    · refine (follows.fits other entry apart from_first older).of_kept ?_ ?_ ?_
      · exact fun child entry found => ⟨entry.status, System.getElem?_create found _⟩
      · exact fun frame stable framed =>
          stable apart.symm sound.invariant follows.inv permitted framed
      · exact fun outcome attained =>
          attainment.lasts sound.invariant follows.inv permitted attained
    · trivial

/-- The running task comes to rest. -/
theorem settle
    {status : Status σ η ρ ω ε υ}
    (follows : attainment.FollowsBut first task system)
    (running : ∃ before, system.tasks[task]? = some ⟨call, before⟩)
    (fits : first ≤ task → attainment.Fits first task ⟨call, status⟩ system) :
    attainment.Follows first (system.settle task status) where
  inv := follows.inv
  fits := by
    obtain ⟨before, running⟩ := running
    have kept : ∀ (child : Nat) entry, system.tasks[child]? = some entry →
        ∃ later, (system.settle task status).tasks[child]? = some ⟨entry.call, later⟩ := by
      intro child entry found
      by_cases same : child = task
      · subst same
        exact ⟨status, System.getElem?_settle_self found status⟩
      · exact ⟨entry.status, (System.getElem?_settle_of_ne same status).trans found⟩
    intro other entry from_first found
    obtain ⟨apart, older⟩ | ⟨rfl, earlier, same, rfl⟩ := System.getElem?_settle_cases found
    · exact (follows.fits other entry apart from_first older).of_kept kept
        (fun _ _ framed => framed) fun _ attained => attained
    · cases running.symm.trans same
      exact (fits from_first).of_kept kept (fun _ _ framed => framed) fun _ attained => attained

/-- A safe program that attains the target of its call leaves all tasks fitting. -/
theorem advance
    {program : Coroutine σ η ρ ω ε υ υ}
    (follows : attainment.FollowsBut first task system)
    (sound : contract.SoundBut task call system)
    (safe : contract.Safe task program (contract.ends task call) system.state)
    (attains : first ≤ task → ∃ known, Knows first known system ∧
      attainment.Attains task known program (attainment.target call) system.state) :
    attainment.Follows first (machine.advance task program system) := by
  induction program generalizing system with
  | done outcome =>
      refine follows.settle sound.running fun from_first => ?_
      obtain ⟨known, _, attained⟩ := attains from_first
      exact attained
  | current next inductionHypothesis => exact inductionHypothesis task follows sound safe attains
  | read next inductionHypothesis =>
      exact inductionHypothesis system.state follows sound safe attains
  | write effect next inductionHypothesis =>
      refine inductionHypothesis _ (follows.perform sound safe.1) (sound.perform safe.1)
        (safe.2 _) fun from_first => ?_
      obtain ⟨known, knows, attained⟩ := attains from_first
      refine ⟨_, ?_, attained safe.1 (machine.created effect system) (by simp [Machine.created])⟩
      intro child created member
      obtain new | old := List.mem_append.mp member
      · obtain ⟨later, found⟩ := mem_zip_created new
        obtain ⟨before, running⟩ := sound.running
        have inside := (List.getElem?_eq_some_iff.mp running).1
        exact ⟨by omega, .created, found⟩
      · obtain ⟨later, status, found⟩ := knows child created old
        exact ⟨later, status, System.getElem?_create found _⟩
  | suspend request next _ => exact follows.settle sound.running attains
  | join children next _ => exact follows.settle sound.running attains

end FollowsBut

private theorem forall₂_of_mapM
    {convert : α → Option β}
    {list : List α}
    {values : List β}
    (converted : list.mapM convert = some values) :
    List.Forall₂ (fun element value => convert element = some value) list values := by
  induction list generalizing values with
  | nil =>
      cases converted
      exact .nil
  | cons element rest inductionHypothesis =>
      rw [List.mapM_cons] at converted
      obtain ⟨value, here, continued⟩ := Option.bind_eq_some_iff.mp converted
      obtain ⟨others, there, same⟩ := Option.bind_eq_some_iff.mp continued
      cases same
      exact .cons here (inductionHypothesis there)

/-- Children that have returned have attained the targets of their calls. -/
theorem Follows.returned
    {children : List Nat}
    {failed : Option Nat}
    {outcome : Except ε (List υ)}
    (follows : attainment.Follows first system)
    (knows : Knows first known system)
    (joined : system.joined children failed = some outcome) :
    attainment.Returned known children outcome system.state := by
  rintro values rfl
  cases failed with
  | some child =>
      simp only [System.joined] at joined
      split at joined
      · obtain ⟨fault, _, same⟩ := Option.map_eq_some_iff.mp joined
        cases same
      · cases joined
  | none =>
      obtain ⟨results, collected, same⟩ := Option.map_eq_some_iff.mp joined
      cases same
      refine (forall₂_of_mapM collected).imp fun child value returned call member => ?_
      obtain ⟨from_first, status, found⟩ := knows child call member
      simp only [System.returned, System.status?, found, Option.map_some] at returned
      split at returned
      · next ended =>
          cases Option.some.inj ended
          cases returned
          exact follows.fits child _ from_first found
      · cases returned

/-- Every call attains its target by itself. -/
def AttainingBodies (attainment : Attainment contract) : Prop :=
  ∀ task call state, contract.inv state → attainment.inv state → contract.begins call state →
    attainment.Attains task [] (machine.body call) (attainment.target call) state

variable [DecidableEq ρ]

theorem Follows.step
    {action : Action ρ ω κ ε}
    (follows : attainment.Follows first system)
    (bodies : contract.SafeBodies)
    (attaining : attainment.AttainingBodies)
    (sound : contract.Sound system)
    (permits : contract.Permits system action)
    (stepped : machine.step system action = some next) :
    attainment.Follows first next := by
  obtain ⟨call, _, rfl⟩ | ⟨task, call, program, runs, rfl⟩ := Machine.step_cases stepped
  · refine ⟨follows.inv, fun other entry from_first found => ?_⟩
    obtain older | ⟨created, _, rfl⟩ := System.getElem?_create_cases found
    · refine (follows.fits other entry from_first older).of_kept ?_ (fun _ _ framed => framed)
        fun _ attained => attained
      exact fun child entry found => ⟨entry.status, System.getElem?_create found _⟩
    · trivial
  have safe := sound.safe_of_runs bodies permits runs
  have but : attainment.FollowsBut first task system :=
    ⟨follows.inv, fun other entry _ => follows.fits other entry⟩
  cases runs with
  | begins found =>
      have nobody : Knows first [] system := fun _ _ member => absurd member List.not_mem_nil
      have begins : contract.begins _ system.state := sound.tasks task _ found
      exact but.advance (sound.but found) safe fun _ =>
        ⟨[], nobody, attaining task _ system.state sound.invariant follows.inv begins⟩
  | answered found admitted =>
      refine but.advance (sound.but found) safe fun from_first => ?_
      obtain ⟨known, knows, frame, _, framed, resumes⟩ := follows.fits task _ from_first found
      exact ⟨known, knows, resumes system.state _ sound.invariant follows.inv framed admitted⟩
  | joined found joined =>
      refine but.advance (sound.but found) safe fun from_first => ?_
      obtain ⟨known, knows, frame, _, framed, resumes⟩ := follows.fits task _ from_first found
      exact ⟨known, knows, resumes system.state _ sound.invariant follows.inv framed
        (follows.returned knows joined)⟩

/-- Every task created in a run whose steps are allowed has attained the target of its
call once it has ended. -/
theorem target_of_reaches
    {condition : System σ η ρ ω κ ε υ → Action ρ ω κ ε → Prop}
    {start : System σ η ρ ω κ ε υ}
    {outcome : Except ε υ}
    (bodies : contract.SafeBodies)
    (attaining : attainment.AttainingBodies)
    (sound : contract.Sound start)
    (initial : attainment.inv start.state)
    (permits : ∀ before action, condition before action → contract.Permits before action)
    (reaches : machine.Reaches condition start system)
    (new : start.tasks.length ≤ task)
    (ended : system.tasks[task]? = some ⟨call, .ended outcome⟩) :
    attainment.target call outcome system.state := by
  have both : contract.Sound system ∧ attainment.Follows start.tasks.length system := by
    clear ended
    induction reaches with
    | refl =>
        refine ⟨sound, initial, fun other entry from_first found => ?_⟩
        have inside := (List.getElem?_eq_some_iff.mp found).1
        omega
    | step _ met stepped inductionHypothesis =>
        obtain ⟨sound, follows⟩ := inductionHypothesis
        exact ⟨sound.step bodies (permits _ _ met) stepped,
          follows.step bodies attaining sound (permits _ _ met) stepped⟩
  exact both.2.fits task _ new ended

end Attainment

end EventLoop
