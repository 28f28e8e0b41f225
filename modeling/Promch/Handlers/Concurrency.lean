import Promch.Handlers.Scheduler

/-!
# The limit on concurrent executions

The counter of an entry is raised by the launching tick and lowered by the
done-callback of a detached execution.  As long as the key stays registered it
is the number of executions whose callback has not run, so that the check of a
tick bounds that number.
-/

namespace Promch

namespace Operator

/-- The executions of the key whose done-callback has not run. -/
def pendingCount (operator : Operator) (key : String) : Nat :=
  operator.pending.entries.countP fun entry => entry.2.key = key

/-- What a tick with the given decision finds and leaves. -/
def TickDoes
    (config : SchedulerConfig)
    (key : String)
    (spec : QuerySpec)
    (wallTime : Time)
    (before after : Operator)
    (entry : CachedMetric) : TickAction → Prop
  | .nothing => entry.invalidReason ≠ none ∧ after = before
  | .markWaiting reason =>
      entry.invalidReason = none ∧ before.isReady spec.connectionRef = false ∧
        reason = waitingForConnection spec.connectionRef ∧
        after.collector.entries.get? key = some (entry.markWaiting reason) ∧
        after.pending = before.pending
  | .recordSkip =>
      entry.invalidReason = none ∧ before.isReady spec.connectionRef = true ∧
        spec.limit config ≤ before.pendingCount key ∧
        after.collector.entries.get? key =
          some { entry with skippedTotal := entry.skippedTotal + 1, lastSkipTs := some wallTime } ∧
        after.pending = before.pending
  | .launch =>
      entry.invalidReason = none ∧ before.isReady spec.connectionRef = true ∧
        before.pendingCount key < spec.limit config ∧
        after.collector.entries.get? key = some { entry with inflight := entry.inflight + 1 } ∧
        after.pendingCount key = before.pendingCount key + 1

section Counts

variable {config : SchedulerConfig} {operator : Operator} {key : String}

/-- A launch counts for its own key. -/
theorem pendingCount_launch (task : Task) :
    (operator.launch task).pendingCount key =
      operator.pendingCount key + if task.key = key then 1 else 0 := by
  have fresh : operator.launched ∉ operator.pending.keys := fun member =>
    (operator.pending_lt _ member).false
  have counted := Dict.countP_entries_set
    (fun entry : Nat × Task => decide (entry.2.key = key)) fresh task
  simp only [decide_eq_true_eq] at counted
  exact counted

/-- An execution that goes on or reports is counted until its callback runs. -/
theorem pendingCount_execute
    (id : Nat)
    (connection : Option ClickHouseConnection)
    (encounter : Encounter)
    (now : Time) :
    (operator.execute config id connection encounter now).pendingCount key =
      operator.pendingCount key := by
  unfold execute
  split
  · rfl
  · split
    · rfl
    · split
      · rfl
      · exact Dict.countP_entries_modify (fun entry : Nat × Task => decide (entry.2.key = key))
          fun _ => rfl

/-- A done-callback is no longer counted for its key. -/
theorem pendingCount_doneCallback
    {id : Nat}
    {task : Task}
    (pending : operator.pending.get? id = some task)
    (key : String) :
    (operator.doneCallback id).pendingCount key + (if task.key = key then 1 else 0) =
      operator.pendingCount key := by
  have erased : (operator.doneCallback id).pending = operator.pending.erase id := by
    simp only [doneCallback, pending]
  have counted := Dict.countP_entries_erase
    (fun entry : Nat × Task => decide (entry.2.key = key)) pending
  simp only [decide_eq_true_eq] at counted
  rw [pendingCount, erased]
  exact counted

end Counts

end Operator

namespace Collector

variable {collector : Collector} {key : String} {entry : CachedMetric}

theorem inflight_of_registered (registered : collector.entries.get? key = some entry) :
    collector.inflight key = entry.inflight := by
  rw [inflight, registered]
  rfl

/-- A change of one entry that keeps its counter keeps every counter. -/
theorem inflight_modifyEntry
    {other : String}
    {change : CachedMetric → CachedMetric}
    (kept : ∀ entry, (change entry).inflight = entry.inflight) :
    (collector.modifyEntry other change).inflight key = collector.inflight key := by
  rw [inflight, get?_modifyEntry]
  split
  · next same =>
      subst same
      cases stored : collector.entries.get? key <;> simp [inflight, stored, kept]
  · rfl

theorem inflight_markWaiting (other reason : String) :
    (collector.markWaiting other reason).inflight key = collector.inflight key :=
  inflight_modifyEntry fun _ => rfl

theorem inflight_recordSkip (other : String) (now : Time) :
    (collector.recordSkip other now).inflight key = collector.inflight key :=
  inflight_modifyEntry fun _ => rfl

/-- A launch is counted for its key, if there is an entry to count it. -/
theorem inflight_incInflight
    {other : String}
    (registered : other = key → ∃ entry, collector.entries.get? key = some entry) :
    (collector.incInflight other).inflight key =
      collector.inflight key + if other = key then 1 else 0 := by
  rw [incInflight, inflight, get?_modifyEntry]
  by_cases same : other = key
  · obtain ⟨entry, stored⟩ := registered same
    simp [same, inflight, stored, CachedMetric.incInflight]
  · rw [if_neg (Ne.symm same), if_neg same]
    rfl

/-- The end of an execution is discounted for its key. -/
theorem inflight_decInflight (other : String) :
    (collector.decInflight other).inflight key =
      collector.inflight key - if other = key then 1 else 0 := by
  rw [decInflight, inflight, get?_modifyEntry]
  by_cases same : other = key
  · cases stored : collector.entries.get? key <;>
      simp [same, inflight, stored, CachedMetric.decInflight]
  · rw [if_neg (Ne.symm same), if_neg same]
    rfl

/-- A registration keeps every counter: a fresh one is zero like a missing
one. -/
theorem inflight_register
    (other name help : String)
    (labels : Dict String String)
    (invalidReason : Option String) :
    (collector.register other name help labels invalidReason).inflight key =
      collector.inflight key := by
  rw [inflight, get?_register]
  split
  · next same =>
      subst same
      cases stored : collector.entries.get? key <;>
        simp [inflight, stored, CachedMetric.edit]
  · rfl

end Collector

/-- No end of an execution touches the counter. -/
theorem ExecutionEnd.inflight_change
    (config : OperatorConfig)
    (ended : ExecutionEnd)
    (entry : CachedMetric)
    (tickTs now : Time) :
    (ended.change config entry tickTs now).inflight = entry.inflight := by
  cases ended with
  | connectionGone message => rfl
  | reported outcome =>
      cases outcome with
      | success rows durationSeconds failedNodes =>
          simp only [change, CachedMetric.update]
          split <;> rfl
      | failure errorType message failedNodes =>
          rw [change, entry.fail_eq config errorType message failedNodes now]
          rfl

theorem ExecutionEnd.inflight_apply
    (config : OperatorConfig)
    (collector : Collector)
    (ended : ExecutionEnd)
    (key other : String)
    (tickTs now : Time) :
    (ended.apply config collector key tickTs now).inflight other = collector.inflight other := by
  rw [Collector.inflight, ExecutionEnd.get?_apply]
  split
  · next same =>
      subst same
      cases stored : collector.entries.get? other <;>
        simp [Collector.inflight, stored, inflight_change]
  · rfl

namespace Operator

section Counted

variable (config : SchedulerConfig) {operator : Operator} {key : String}

/-- A registered key stays registered until it is removed. -/
theorem registered_step
    {step : OperatorStep}
    (registered : ∃ entry, operator.collector.entries.get? key = some entry)
    (stays : step ≠ .deregister key) :
    ∃ entry, (operator.step config step).collector.entries.get? key = some entry := by
  obtain ⟨entry, found⟩ := registered
  have stepped := Operator.entryStep config found step
  generalize (operator.step config step).collector.entries.get? key = after at stepped ⊢
  cases stepped with
  | removed => exact absurd rfl stays
  | kept | edited | heldBack | skipped | launched | ended | finished => exact ⟨_, rfl⟩

/-- A key is registered from its first registration on. -/
theorem registered_run
    (operator : Operator)
    {steps : List OperatorStep}
    {metric : MetricSpec}
    {queryType : QueryType}
    (registers : .register key metric queryType ∈ steps)
    (stays : .deregister key ∉ steps) :
    ∃ entry, (operator.run config steps).collector.entries.get? key = some entry := by
  induction steps using List.reverseRecOn with
  | nil => cases registers
  | append_singleton earlier step inductionHypothesis =>
      simp only [List.mem_append, List.mem_singleton, not_or] at registers stays
      obtain ⟨earlierStays, stepStays⟩ := stays
      rw [run_append_singleton]
      obtain inEarlier | rfl := registers
      · exact registered_step config (inductionHypothesis inEarlier earlierStays)
          (Ne.symm stepStays)
      · rw [step, register, Collector.get?_register, if_pos rfl]
        exact ⟨_, rfl⟩

/-- The counter follows the executions of the key through every step, provided
that a launch finds its entry and the entry is not removed. -/
theorem inflight_step
    {step : OperatorStep}
    (stays : step ≠ .deregister key)
    (tickRegistered : ∀ spec loopTime wallTime, step = .tick key spec loopTime wallTime →
      ∃ entry, operator.collector.entries.get? key = some entry)
    (counted : operator.collector.inflight key = operator.pendingCount key) :
    (operator.step config step).collector.inflight key =
      (operator.step config step).pendingCount key := by
  cases step with
  | register other spec queryType =>
      rw [Operator.step, register, Collector.inflight_register]
      exact counted
  | deregister other =>
      have different : key ≠ other := fun same => stays (by rw [same])
      rw [Operator.step, Collector.inflight, Collector.get?_unregister, if_neg different]
      exact counted
  | tick other spec loopTime wallTime =>
      simp only [Operator.step, tick]
      cases operator.tickAction config other spec with
      | nothing => exact counted
      | markWaiting reason =>
          simp only [Collector.inflight_markWaiting]
          exact counted
      | recordSkip =>
          simp only [Collector.inflight_recordSkip]
          exact counted
      | launch =>
          simp only [pendingCount_launch]
          rw [launch, Collector.inflight_incInflight, counted]
          exact fun same => tickRegistered spec loopTime wallTime (same ▸ rfl)
  | execute id connection encounter now =>
      rw [Operator.step, pendingCount_execute, ← counted]
      obtain unchanged | ⟨task, ended, -, -, -, applied⟩ :=
        operator.collector_execute config id connection encounter now
      · rw [unchanged]
      · rw [applied, ExecutionEnd.inflight_apply]
  | doneCallback id =>
      rw [Operator.step]
      cases pending : operator.pending.get? id with
      | none => simpa only [doneCallback, pending] using counted
      | some task =>
          have released := pendingCount_doneCallback pending key
          have discounted : (operator.doneCallback id).collector =
              operator.collector.decInflight task.key := by
            rw [collector_doneCallback, pending]
          rw [discounted, Collector.inflight_decInflight, counted]
          omega
  | connectionPresent name =>
      rw [Operator.step]
      cases operator.connections.get? name <;> exact counted
  | connectionReady name | connectionGone name => exact counted

/-- In every state of a run that registers the key before its ticks and does not
remove it, the counter is the number of pending executions. -/
theorem inflight_run
    {steps : List OperatorStep}
    (registeredFirst : ∀ first spec loopTime wallTime rest,
      steps = first ++ .tick key spec loopTime wallTime :: rest →
        ∃ metric queryType, .register key metric queryType ∈ first)
    (stays : .deregister key ∉ steps) :
    ((startOperator config).run config steps).collector.inflight key =
      ((startOperator config).run config steps).pendingCount key := by
  induction steps using List.reverseRecOn with
  | nil => rfl
  | append_singleton earlier step inductionHypothesis =>
      simp only [List.mem_append, List.mem_singleton, not_or] at stays
      obtain ⟨earlierStays, stepStays⟩ := stays
      have counted := inductionHypothesis
        (fun first spec loopTime wallTime rest split =>
          registeredFirst first spec loopTime wallTime (rest ++ [step]) (by simp [split]))
        earlierStays
      rw [run_append_singleton]
      refine inflight_step config (Ne.symm stepStays) ?_ counted
      rintro spec loopTime wallTime rfl
      obtain ⟨metric, queryType, registers⟩ :=
        registeredFirst earlier spec loopTime wallTime [] rfl
      exact registered_run config _ registers earlierStays

/-- A tick does what it decides, and nothing else fits what it finds. -/
theorem tickDoes_iff
    {entry : CachedMetric}
    (registered : operator.collector.entries.get? key = some entry)
    (counted : operator.collector.inflight key = operator.pendingCount key)
    (spec : QuerySpec)
    (loopTime wallTime : Time)
    (action : TickAction) :
    TickDoes config key spec wallTime operator
        (operator.tick config key spec loopTime wallTime) entry action ↔
      operator.tickAction config key spec = action := by
  rw [Collector.inflight_of_registered registered] at counted
  cases action with
  | nothing =>
      rw [tickAction_eq_nothing_iff config registered spec]
      refine ⟨fun does => does.1, fun invalid => ⟨invalid, ?_⟩⟩
      rw [tick, (tickAction_eq_nothing_iff config registered spec).mpr invalid]
  | markWaiting reason =>
      constructor
      · rintro ⟨valid, waiting, text, -⟩
        exact (tickAction_eq_markWaiting_iff config registered spec reason).mpr
          ⟨valid, waiting, text⟩
      · intro decided
        obtain ⟨valid, waiting, text⟩ :=
          (tickAction_eq_markWaiting_iff config registered spec reason).mp decided
        refine ⟨valid, waiting, text, ?_, ?_⟩
        · simp [tick, decided, Collector.markWaiting, registered]
        · simp only [tick, decided]
  | recordSkip =>
      constructor
      · rintro ⟨valid, ready, reached, -⟩
        exact (tickAction_eq_recordSkip_iff config registered spec).mpr
          ⟨valid, ready, by rw [counted]; exact reached⟩
      · intro decided
        obtain ⟨valid, ready, reached⟩ :=
          (tickAction_eq_recordSkip_iff config registered spec).mp decided
        refine ⟨valid, ready, by rw [← counted]; exact reached, ?_, ?_⟩
        · simp [tick, decided, Collector.recordSkip, registered, CachedMetric.recordSkip]
        · simp only [tick, decided]
  | launch =>
      constructor
      · rintro ⟨valid, ready, below, -⟩
        exact (tickAction_eq_launch_iff config registered spec).mpr
          ⟨valid, ready, by rw [counted]; exact below⟩
      · intro decided
        obtain ⟨valid, ready, below⟩ :=
          (tickAction_eq_launch_iff config registered spec).mp decided
        refine ⟨valid, ready, by rw [← counted]; exact below, ?_, ?_⟩
        · simp [tick, decided, launch, Collector.incInflight, registered,
            CachedMetric.incInflight]
        · simp only [tick, decided, pendingCount_launch, if_true]

end Counted

/-- While a key stays registered its counter is the number of its pending
executions, a done-callback never finds it at zero, and every tick does one
thing: it is idle because of an invalid entry, waits for the connection, skips
because the limit is reached, or launches within the limit. -/
theorem maxConcurrent_respected
    (config : SchedulerConfig)
    (key : String)
    (steps : List OperatorStep)
    (registeredFirst : ∀ first spec loopTime wallTime rest,
      steps = first ++ .tick key spec loopTime wallTime :: rest →
        ∃ metric queryType, .register key metric queryType ∈ first)
    (stays : .deregister key ∉ steps) :
    (∀ first rest, steps = first ++ rest →
      ((startOperator config).run config first).collector.inflight key =
        ((startOperator config).run config first).pendingCount key) ∧
    (∀ first id rest, steps = first ++ .doneCallback id :: rest →
      ∀ task, ((startOperator config).run config first).pending.get? id = some task →
        task.key = key →
          ((startOperator config).run config first).collector.inflight key =
            (((startOperator config).run config first).doneCallback id).collector.inflight key
              + 1) ∧
    ∀ first spec loopTime wallTime rest,
      steps = first ++ .tick key spec loopTime wallTime :: rest →
        ∃ entry, ((startOperator config).run config first).collector.entries.get? key =
            some entry ∧
          (∃! action, TickDoes config key spec wallTime
            ((startOperator config).run config first)
            (((startOperator config).run config first).tick config key spec loopTime wallTime)
            entry action) ∧
          (TickDoes config key spec wallTime
              ((startOperator config).run config first)
              (((startOperator config).run config first).tick config key spec loopTime wallTime)
              entry .recordSkip ↔
            entry.invalidReason = none ∧
              ((startOperator config).run config first).isReady spec.connectionRef = true ∧
              spec.limit config ≤ entry.inflight) := by
  have counted : ∀ first rest, steps = first ++ rest →
      ((startOperator config).run config first).collector.inflight key =
        ((startOperator config).run config first).pendingCount key := by
    rintro first rest rfl
    refine inflight_run config (fun start spec loopTime wallTime later split => ?_)
      fun member => stays (List.mem_append_left _ member)
    exact registeredFirst start spec loopTime wallTime (later ++ rest) (by simp [split])
  refine ⟨counted, fun first id rest split task pending ofKey => ?_,
    fun first spec loopTime wallTime rest split => ?_⟩
  · have before := counted first (.doneCallback id :: rest) split
    have after := counted (first ++ [.doneCallback id]) rest (by simp [split])
    rw [run_append_singleton, Operator.step] at after
    have released := pendingCount_doneCallback pending key
    rw [if_pos ofKey] at released
    rw [before, after, released]
  · obtain ⟨metric, queryType, registers⟩ :=
      registeredFirst first spec loopTime wallTime rest split
    obtain ⟨entry, registered⟩ := registered_run config (startOperator config) registers
      fun member => stays (by rw [split]; exact List.mem_append_left _ member)
    have does := tickDoes_iff config registered (counted first _ split) spec
      loopTime wallTime
    refine ⟨entry, registered, ⟨_, (does _).mpr rfl, fun other fits => ((does other).mp fits).symm⟩,
      ?_⟩
    rw [does, tickAction_eq_recordSkip_iff config registered spec]

/-- Three ticks of a query whose executions do not end, and a cancelled one. -/
def overlap : List OperatorStep :=
  [.register "ns/q" { name := "hits" } .data, .connectionPresent "main",
    .connectionReady "main",
    .tick "ns/q" { connectionRef := "main" } 1 1, .tick "ns/q" { connectionRef := "main" } 2 2,
    .tick "ns/q" { connectionRef := "main" } 3 3, .doneCallback 0]

/-- The third tick is skipped, so that one execution is left after the
cancellation. -/
theorem maxConcurrent_respected_overlap :
    ((startOperator defaultSchedulerConfig).run defaultSchedulerConfig overlap).collector.inflight
        "ns/q" =
      ((startOperator defaultSchedulerConfig).run defaultSchedulerConfig overlap).pendingCount
        "ns/q" ∧
    ((startOperator defaultSchedulerConfig).run defaultSchedulerConfig overlap).pendingCount
      "ns/q" = 1 := by
  have registeredFirst : ∀ first spec loopTime wallTime rest,
      overlap = first ++ .tick "ns/q" spec loopTime wallTime :: rest →
        ∃ metric queryType, .register "ns/q" metric queryType ∈ first := by
    intro first spec loopTime wallTime rest split
    cases first with
    | nil => cases split
    | cons head later =>
        obtain ⟨rfl, -⟩ := List.cons.inj split
        exact ⟨_, _, List.mem_cons_self⟩
  have stays : .deregister "ns/q" ∉ overlap := by simp [overlap]
  obtain ⟨counted, -, -⟩ := maxConcurrent_respected defaultSchedulerConfig "ns/q" overlap
    registeredFirst stays
  exact ⟨counted overlap [] (by simp), by decide⟩

end Operator

end Promch
