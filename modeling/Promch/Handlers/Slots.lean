import Promch.Handlers.ConnectionEffects
import Promch.Handlers.Concurrency
import Promch.Library.Typestate

/-!
# The slots of a query

A scheduler counts its executions: a launch takes a slot, and the callback of an
execution that is over gives it back.  However the executions end, and whatever
happens to the query meanwhile, no slot is lost: the count never exceeds the number
of executions that are not over.
-/

namespace Promch

open EventLoop EventLoop.Coroutine

/-- The query whose slot a call begins with. -/
def RegistryCall.slot? : RegistryCall → Option String
  | .execute key _ _ _ _ _ => some key
  | .doneCallback key => some key
  | _ => none

namespace RegistryEffect

/-- A task with some slot may have an effect: it gives back no slot but its own. -/
def MayWrite (slot : Option String) : RegistryEffect → Prop
  | .finish key => slot = some key
  | .collect (.decInflight key) => slot = some key
  | .collect (.incInflight _) => False
  | _ => True

/-- The slot that a task has after an effect. -/
def slotAfter (slot : Option String) : RegistryEffect → Option String
  | .finish _ => none
  | .collect (.decInflight _) => none
  | _ => slot

end RegistryEffect

/-- Only a launch adds to a count. -/
theorem HandlerOp.inflight_apply_le
    {config : OperatorConfig}
    {collector : Collector}
    {op : HandlerOp}
    (takesNone : ∀ other, op ≠ .incInflight other)
    (key : String) :
    (op.apply config collector).1.inflight key ≤ collector.inflight key := by
  rw [Collector.inflight, Collector.inflight, get?_apply]
  split
  · cases collector.entries.get? key with
    | none =>
        cases op with
        | register other spec queryType => exact Nat.le_refl _
        | _ => exact Nat.zero_le _
    | some entry =>
        cases op with
        | incInflight other => exact absurd rfl (takesNone other)
        | decInflight other => exact Nat.sub_le _ _
        | unregister other => exact Nat.zero_le _
        | update other rows durationSeconds tickTs failedNodes now =>
            refine Nat.le_of_eq ?_
            simp only [change, CachedMetric.update, Option.map_some, Option.getD_some]
            split <;> rfl
        | fail other errorType message failedNodes now =>
            refine Nat.le_of_eq ?_
            simp only [change, CachedMetric.fail_eq]
            rfl
        | _ => exact Nat.le_refl _
  · exact Nat.le_refl _

/-- A launch adds one to the count of its query at most. -/
theorem Collector.inflight_incInflight_le
    (collector : Collector)
    (other key : String) :
    (collector.incInflight other).inflight key ≤
      collector.inflight key + if other = key then 1 else 0 := by
  by_cases registered : ∃ entry, collector.entries.get? key = some entry
  · exact Nat.le_of_eq (Collector.inflight_incInflight fun _ => registered)
  · have absent : collector.entries.get? key = none :=
      Option.eq_none_iff_forall_ne_some.mpr fun entry found => registered ⟨entry, found⟩
    rw [incInflight, inflight, get?_modifyEntry]
    split
    · next same =>
        subst same
        simp [absent]
    · exact Nat.le_add_right _ _

namespace RegistryState

variable {state : RegistryState} {effect : RegistryEffect} {slot : Option String}

/-- If the slots of the other tasks and that of the running task cover a count, they
cover it after an effect, with those of the new tasks. -/
theorem inflight_apply_le
    {key : String}
    {others : Nat}
    (permitted : effect.MayWrite slot)
    (covered : state.collector.inflight key ≤ others + if slot = some key then 1 else 0) :
    (state.apply effect).collector.inflight key ≤
      others + (if effect.slotAfter slot = some key then 1 else 0) +
        ((forks effect state).map RegistryCall.slot?).count (some key) := by
  cases effect with
  | collect op =>
      cases op with
      | incInflight other => exact permitted.elim
      | decInflight other =>
          obtain rfl : slot = some other := permitted
          have given : (state.collector.decInflight other).inflight key = _ :=
            state.collector.inflight_decInflight other
          simp only [Option.some.injEq] at covered
          change (state.collector.decInflight other).inflight key ≤ _
          rw [given]
          have back := Nat.sub_le_of_le_add covered
          exact Nat.le_add_right_of_le (Nat.le_add_right_of_le back)
      | _ =>
          exact (HandlerOp.inflight_apply_le (by simp) key).trans
            (Nat.le_add_right_of_le covered)
  | launch other query tickTs =>
      have taken := state.collector.inflight_incInflight_le other key
      refine taken.trans (Nat.add_le_add covered ?_)
      simp [forks, RegistryCall.slot?, List.count_cons]
  | report other obtained ended tickTs now =>
      refine Nat.le_trans (Nat.le_of_eq ?_) (Nat.le_add_right_of_le covered)
      exact ExecutionEnd.inflight_apply _ _ ended other key tickTs now
  | finish other =>
      obtain rfl : slot = some other := permitted
      refine covered.trans ?_
      simp [forks, RegistryCall.slot?, List.count_cons, RegistryEffect.slotAfter]
  | _ => exact Nat.le_add_right_of_le covered

end RegistryState

/-- Apart from one task, how many have the slot of a query. -/
private theorem exists_others
    {slots : List (Option String)}
    {task : Nat}
    {slot : Option String}
    (here : slots[task]? = some slot)
    (key : String) :
    ∃ others, slots.count (some key) = others + (if slot = some key then 1 else 0) ∧
      ∀ later, (slots.set task later).count (some key) =
        others + if later = some key then 1 else 0 := by
  simpa only [List.count, beq_iff_eq] using exists_countP_rest (· == some key) here

/-- Every execution and every callback has one slot until it has given it back. -/
def slotProtocol : Protocol freePolicy.contract (Option String) where
  initial := RegistryCall.slot?
  mayWrite _ slot effect := effect.MayWrite slot
  write _ slot effect _ := effect.slotAfter slot
  mayAwait _ _ _ := True
  await slot _ _ := slot
  mayJoin _ _ := True
  join slot := slot
  mayEnd slot := slot = none
  inv state slots := ∀ key, state.collector.inflight key ≤ slots.count (some key)
  inv_start call covered key := by
    rw [List.count_append]
    exact Nat.le_add_right_of_le (covered key)
  inv_write {state slots task slot effect} covered here permitted _ key := by
    obtain ⟨others, before, after⟩ := exists_others here key
    rw [List.count_append, after]
    exact RegistryState.inflight_apply_le permitted (before ▸ covered key)
  inv_await {state slots task slot request} outcome covered here _ _ key := by
    obtain ⟨others, before, after⟩ := exists_others here key
    rw [after, ← before]
    exact covered key
  inv_join {state slots task slot children} covered here _ key := by
    obtain ⟨others, before, after⟩ := exists_others here key
    rw [after, ← before]
    exact covered key

namespace slotProtocol

variable {task : Nat}

/-- An effect that has nothing to do with the slot of the task. -/
private def Unslotted : RegistryEffect → Prop
  | .finish _ => False
  | .collect (.decInflight _) => False
  | .collect (.incInflight _) => False
  | _ => True

/-- A program without such effects keeps the slot of its task. -/
private theorem keeps_of_unslotted
    {program : Handler α}
    (writes : program.Writes Unslotted)
    (slot : Option String) :
    slotProtocol.Keeps task program (fun _ later => later = slot) slot := by
  refine Protocol.keeps_of_writes writes ?_ (fun _ => ⟨trivial, fun _ => rfl⟩)
    fun _ => ⟨trivial, rfl⟩
  intro effect unslotted
  cases effect with
  | finish key => exact unslotted.elim
  | collect op =>
      cases op with
      | incInflight key | decInflight key => exact unslotted.elim
      | _ => exact ⟨trivial, fun _ => rfl⟩
  | _ => exact ⟨trivial, fun _ => rfl⟩

/-! ## What the handlers write -/

/-- What the connection handlers do has nothing to do with a slot. -/
private theorem unslotted_of_connections
    {effect : RegistryEffect}
    (ofConnections : effect.OfConnections) :
    Unslotted effect := by
  cases effect with
  | collect op => exact ofConnections.elim
  | finish key => exact ofConnections.elim
  | _ => trivial

/-- Neither has what an execution does before it is over. -/
private theorem unslotted_of_executions
    {effect : RegistryEffect}
    (ofExecutions : effect.OfExecutions) :
    Unslotted effect := by
  cases effect with
  | collect op => exact ofExecutions.elim
  | finish key => exact ofExecutions.elim
  | _ => trivial

private theorem writes_tick (key : String) (query : ScheduledQuery) :
    (Registry.tick key query).Writes Unslotted := by
  apply Writes.bind (writes_gets _)
  intro invalid
  cases invalid with
  | some reason => trivial
  | none =>
      apply Writes.bind (writes_gets _)
      intro serving
      split
      · exact Writes.bind (writes_emit trivial) fun _ => writes_pure _
      · apply Writes.bind (writes_gets _)
        intro limit
        apply Writes.bind (writes_gets _)
        intro inflight
        apply Writes.bind (Registry.writes_readClock.mono fun _ => unslotted_of_executions)
        intro reading
        split <;> exact Writes.bind (writes_emit trivial) fun _ => writes_pure _

/-- The programs of all calls give back the slots that they begin with. -/
private theorem keepingBodies : slotProtocol.KeepingBodies := by
  intro task call
  have unslotted : call.slot? = none → call.body.Writes Unslotted →
      slotProtocol.Keeps task call.body (fun _ => slotProtocol.mayEnd)
        (slotProtocol.initial call) := by
    intro none writes
    exact (keeps_of_unslotted writes _).mono fun _ later same => same.trans none
  have ofConnections : call.isOfConnections = true → call.slot? = none →
      slotProtocol.Keeps task call.body (fun _ => slotProtocol.mayEnd)
        (slotProtocol.initial call) := by
    intro connections none
    exact unslotted none ((RegistryCall.writes_ofConnections connections).mono
      fun _ => unslotted_of_connections)
  cases call with
  | present resourceNamespace name spec | update resourceNamespace name spec
  | recheck resourceNamespace name spec | topology resourceNamespace name spec
  | delete resourceNamespace name | cleanup | closeBounded conn => exact ofConnections rfl rfl
  | registerQuery key spec queryType | deregisterQuery key =>
      exact unslotted rfl (Writes.bind (writes_emit trivial) fun _ => writes_pure _)
  | tick key query => exact unslotted rfl (writes_tick key query)
  | execute key connRef queryType sql timeout tickTs =>
      have runs : slotProtocol.Keeps task _ _ (some key) :=
        keeps_of_unslotted
          ((Registry.writes_executeQuery key connRef queryType sql timeout tickTs).mono
            fun _ => unslotted_of_executions) _
      change slotProtocol.Keeps task (Registry.execute key connRef queryType sql timeout tickTs)
        _ (some key)
      simp only [Registry.execute, Protocol.keeps_bind, Protocol.keeps_attempt,
        Protocol.keeps_andThen_ok]
      refine runs.mono ?_
      rintro outcome _ rfl
      simp only [Protocol.keeps_bind, Protocol.keeps_emit, Protocol.keeps_andThen_ok,
        Protocol.keeps_conclude]
      refine ⟨rfl, fun _ => ?_⟩
      cases outcome <;> exact rfl
  | doneCallback key =>
      change slotProtocol.Keeps task (Registry.doneCallback key) _ (some key)
      simp only [Registry.doneCallback, Protocol.keeps_bind, Protocol.keeps_emit,
        Protocol.keeps_andThen_ok]
      exact ⟨rfl, fun _ => rfl⟩

/-- A task has no slot, or the one that its call began with. -/
private theorem slot_of_passes
    {call : RegistryCall}
    {slot : Option String}
    (passes : slotProtocol.Passes call slot) :
    slot = none ∨ slot = call.slot? := by
  induction passes with
  | initial => exact .inr rfl
  | @write slot _ task effect created inductionHypothesis =>
      have kept : effect.slotAfter slot = none ∨ effect.slotAfter slot = slot := by
        cases effect with
        | finish key => exact .inl rfl
        | collect op =>
            cases op with
            | decInflight key => exact .inl rfl
            | _ => exact .inr rfl
        | _ => exact .inr rfl
      obtain none | same := kept
      · exact .inl none
      · exact inductionHypothesis.imp same.trans same.trans
  | await _ _ _ inductionHypothesis | join _ inductionHypothesis => exact inductionHypothesis

end slotProtocol

private theorem count_le_countP
    {slots : List (Option String)}
    {tasks : List β}
    {slot : Option String}
    {holds : β → Bool}
    (length : slots.length = tasks.length)
    (has : ∀ (position : Nat) entry, slots[position]? = some slot →
      tasks[position]? = some entry → holds entry = true) :
    slots.count slot ≤ tasks.countP holds := by
  induction slots generalizing tasks with
  | nil => exact Nat.zero_le _
  | cons first rest inductionHypothesis =>
      cases tasks with
      | nil => cases length
      | cons entry tasks =>
          have others := inductionHypothesis (Nat.succ.inj length)
            fun position => has (position + 1)
          rw [List.count_cons, List.countP_cons]
          refine Nat.add_le_add others ?_
          split
          · next same =>
              rw [beq_iff_eq] at same
              rw [if_pos (has 0 entry (congrArg some same) rfl)]
          · exact Nat.zero_le _

/-- The executions of a query that are not over, and the callbacks of those that are
over and have not run. -/
def RegistrySystem.outstanding (system : RegistrySystem) (key : String) : Nat :=
  system.tasks.countP fun entry =>
    entry.call.slot? = some key ∧ entry.status.outcome?.isNone

section Runs

variable {config : SchedulerConfig} {operatorNamespace : String}
variable {clock : Nat → ClockReading} {memberHosts : Nat → Nat → List String}
variable {system : RegistrySystem}

/-- In every run the count of a query never exceeds its executions that are not over,
so that no slot is lost; once all tasks have ended every count is zero. -/
theorem inflight_le_outstanding
    {condition : RegistrySystem → RegistryAction → Prop}
    (reaches : registryLoop.Reaches condition
      (RegistrySystem.start config operatorNamespace clock memberHosts) system) :
    (∀ key, system.state.collector.inflight key ≤ RegistrySystem.outstanding system key) ∧
      (system.Finished → ∀ key, system.state.collector.inflight key = 0) := by
  have nothing : slotProtocol.inv
      (RegistryState.start config operatorNamespace clock memberHosts) [] :=
    fun _ => Nat.le_refl _
  have sound : freePolicy.contract.Sound
      (RegistrySystem.start config operatorNamespace clock memberHosts) :=
    Contract.sound_idle
      ⟨RegistryState.wellformed_start config operatorNamespace clock memberHosts, trivial⟩
      (RegistryState.not_mentions_start config operatorNamespace clock memberHosts)
  obtain ⟨slots, describes⟩ := Protocol.describes_of_reaches freePolicy.safeBodies
    slotProtocol.keepingBodies (Protocol.describes_idle nothing) sound
    (fun before action _ => freePolicy_permits before action) reaches
  have covered : ∀ key, system.state.collector.inflight key ≤
      RegistrySystem.outstanding system key := by
    intro key
    refine (describes.inv key).trans (count_le_countP describes.length ?_)
    intro task entry here found
    have passes := describes.passes task entry _ found here
    have fits := describes.fits task entry _ found here
    have own : entry.call.slot? = some key :=
      ((slotProtocol.slot_of_passes passes).resolve_left nofun).symm
    have running : entry.status.outcome?.isNone = true := by
      obtain ⟨call, status⟩ := entry
      cases status with
      | ended outcome => exact absurd fits nofun
      | _ => rfl
    exact decide_eq_true ⟨own, running⟩
  refine ⟨covered, fun finished key => Nat.le_zero.mp ((covered key).trans ?_)⟩
  refine Nat.le_of_eq (List.countP_eq_zero.mpr fun entry member => ?_)
  have ended := finished entry member
  rw [decide_eq_true_eq, not_and, Option.isNone_iff_eq_none]
  intro _ running
  rw [running] at ended
  cases ended

end Runs

/-- A query that a scheduler runs twice at a time. -/
def slotQuery : ScheduledQuery :=
  { connectionRef := "main", sql := "SELECT 1", timeout := 30 }

/-- Of two executions one is cancelled, and its callback has run. -/
theorem inflight_le_outstanding_after_cancellation :
    ∃ system : RegistrySystem,
      system.state.collector.inflight "ns/q" = 1 ∧
        (∀ key, system.state.collector.inflight key ≤ RegistrySystem.outstanding system key) ∧
        (system.Finished → ∀ key, system.state.collector.inflight key = 0) := by
  obtain ⟨system, reaches, found⟩ := RegistrySystem.exists_reached callsHandlers
    [.start (.registerQuery "ns/q" { name := "hits" } .data), .begin 0,
      .start (.present none "main" openResource), .begin 1,
      .answer 1 (.discover .refresh 0)
        (.ok
          { phase := "Down"
            totalNodes := 1
            aliveNodes := 0
            lastDiscovery := none
            nodes := [] }),
      .start (.tick "ns/q" slotQuery), .begin 2, .begin 3,
      .start (.tick "ns/q" slotQuery), .begin 4, .begin 5,
      .answer 3 (.executeDataQuery 0 "SELECT 1" 30) (.error .cancelled), .begin 6]
    (fun system => system.state.collector.inflight "ns/q" = 1)
    (by decide +kernel)
  obtain ⟨covered, finished⟩ := inflight_le_outstanding reaches
  exact ⟨system, of_decide_eq_true found, covered, finished⟩

end Promch
