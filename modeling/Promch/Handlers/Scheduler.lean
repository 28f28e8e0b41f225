import Promch.Handlers.Execute

/-!
# The operator

The handlers of one operator run interleaved.  Resources are registered and
removed, connections appear, become ready and go, and a tick of a resource may
launch an execution.  An execution is detached: it reports to the collector when
it ends, and its done-callback runs later still, or without a report when the
execution is cancelled.
-/

namespace Promch

/-- The settings of the operator with the default limit of the scheduler. -/
structure SchedulerConfig extends OperatorConfig where
  defaultMaxConcurrent : Int := 2

/-- The settings of a scheduler without environment variables. -/
def defaultSchedulerConfig : SchedulerConfig where
  toOperatorConfig := defaultConfig

/-- The part of a query resource that a tick reads. -/
structure QuerySpec where
  connectionRef : String
  queryType : QueryType := .data
  maxConcurrent : Option Int := none

/-- The limit of a tick; zero counts as missing. -/
def QuerySpec.limit (spec : QuerySpec) (config : SchedulerConfig) : Int :=
  match spec.maxConcurrent with
  | none => config.defaultMaxConcurrent
  | some limit => if limit = 0 then config.defaultMaxConcurrent else limit

/-- A launched execution. -/
structure Task where
  key : String
  connRef : String
  queryType : QueryType
  /-- The loop time of the launching tick. -/
  tickTs : Time
  /-- The execution has reported; its done-callback has not run. -/
  reported : Bool := false

/-- The state that the handlers share. -/
structure Operator where
  collector : Collector
  /-- The registered connections and whether they finished their first check. -/
  connections : Dict String Bool := Dict.empty
  /-- The executions whose done-callback has not run. -/
  pending : Dict Nat Task := Dict.empty
  /-- The number of executions launched so far. -/
  launched : Nat := 0
  pending_lt : ∀ id ∈ pending.keys, id < launched := by simp [Dict.keys]

/-- The operator after its start. -/
def startOperator (config : SchedulerConfig) : Operator where
  collector := startCollector config.toOperatorConfig

/-- What a tick does. -/
inductive TickAction
  | nothing
  | markWaiting (reason : String)
  | recordSkip
  | launch
  deriving DecidableEq

/-- One step of the operator. -/
inductive OperatorStep
  | register (key : String) (spec : MetricSpec) (queryType : QueryType)
  | deregister (key : String)
  /-- One turn of a daemon of the key, with the resource as it reads it. -/
  | tick (key : String) (spec : QuerySpec) (loopTime wallTime : Time)
  /-- An execution goes on with its connection, and reports if it ends. -/
  | execute
      (id : Nat)
      (connection : Option ClickHouseConnection)
      (encounter : Encounter)
      (now : Time)
  /-- An execution has ended or is cancelled, and its callbacks run. -/
  | doneCallback (id : Nat)
  | connectionPresent (name : String)
  | connectionReady (name : String)
  | connectionGone (name : String)

/-- The reason of a tick whose connection is not ready. -/
def waitingForConnection (connRef : String) : String :=
  "Waiting for connection " ++ PyText.quoted connRef ++ " to complete its first " ++
    "topology/liveness check after operator start"

namespace Operator

variable (config : SchedulerConfig) (operator : Operator)

/-- The connection of the resource is registered and ready. -/
def isReady (connRef : String) : Bool :=
  (operator.connections.get? connRef).getD false

/-- The decision of a tick. -/
def tickAction (key : String) (spec : QuerySpec) : TickAction :=
  match operator.collector.invalidReason key with
  | some _ => .nothing
  | none =>
      if operator.isReady spec.connectionRef = false then
        .markWaiting (waitingForConnection spec.connectionRef)
      else if spec.limit config ≤ operator.collector.inflight key then .recordSkip
      else .launch

/-- Count an execution and start it. -/
def launch (task : Task) : Operator where
  collector := operator.collector.incInflight task.key
  connections := operator.connections
  pending := operator.pending.set operator.launched task
  launched := operator.launched + 1
  pending_lt := by
    intro id member
    obtain rfl | earlier := (Dict.mem_keys_set _ _ _ _).mp member
    · exact Nat.lt_succ_self _
    · exact Nat.lt_succ_of_lt (operator.pending_lt id earlier)

/-- One turn of a daemon. -/
def tick (key : String) (spec : QuerySpec) (loopTime wallTime : Time) : Operator :=
  match operator.tickAction config key spec with
  | .nothing => operator
  | .markWaiting reason =>
      { operator with collector := operator.collector.markWaiting key reason }
  | .recordSkip =>
      { operator with collector := operator.collector.recordSkip key wallTime }
  | .launch =>
      operator.launch
        { key := key
          connRef := spec.connectionRef
          queryType := spec.queryType
          tickTs := loopTime }

/-- Let an execution go on; an execution that ends reports to the collector. -/
def execute
    (id : Nat)
    (connection : Option ClickHouseConnection)
    (encounter : Encounter)
    (now : Time) : Operator :=
  match operator.pending.get? id with
  | none => operator
  | some task =>
      if task.reported then operator
      else
        match Promch.execute config.toOperatorConfig task.connRef task.queryType connection
            encounter with
        | none => operator
        | some ended =>
            { operator with
              collector := ended.apply config.toOperatorConfig operator.collector task.key
                task.tickTs now
              pending := operator.pending.modify id fun task => { task with reported := true }
              pending_lt := fun other member =>
                operator.pending_lt other ((Dict.mem_keys_modify _ _ _ _).mp member) }

/-- Forget an execution that has ended or is cancelled. -/
def doneCallback (id : Nat) : Operator :=
  match operator.pending.get? id with
  | none => operator
  | some task =>
      { operator with
        collector := operator.collector.decInflight task.key
        pending := operator.pending.erase id
        pending_lt := fun other member =>
          operator.pending_lt other (Dict.mem_keys_of_mem_keys_erase member) }

/-- The operator after one step. -/
def step : OperatorStep → Operator
  | .register key spec queryType =>
      { operator with
        collector := register config.toOperatorConfig operator.collector key spec queryType }
  | .deregister key => { operator with collector := operator.collector.unregister key }
  | .tick key spec loopTime wallTime => operator.tick config key spec loopTime wallTime
  | .execute id connection encounter now => operator.execute config id connection encounter now
  | .doneCallback id => operator.doneCallback id
  | .connectionPresent name =>
      match operator.connections.get? name with
      | some _ => operator
      | none => { operator with connections := operator.connections.set name false }
  | .connectionReady name =>
      { operator with connections := operator.connections.modify name fun _ => true }
  | .connectionGone name =>
      { operator with connections := operator.connections.erase name }

/-- The operator after several steps. -/
def run (steps : List OperatorStep) : Operator :=
  steps.foldl (step config) operator

theorem run_append (first second : List OperatorStep) :
    operator.run config (first ++ second) = (operator.run config first).run config second :=
  List.foldl_append

theorem run_append_singleton (steps : List OperatorStep) (step : OperatorStep) :
    operator.run config (steps ++ [step]) = (operator.run config steps).step config step := by
  rw [run_append]
  rfl

/-! ## The decision of a tick -/

section TickAction

variable {operator : Operator} {key : String} {entry : CachedMetric}
  (registered : operator.collector.entries.get? key = some entry) (spec : QuerySpec)
include registered

/-- The decision of a tick reads the entry, the connection and the limit. -/
theorem tickAction_eq :
    operator.tickAction config key spec =
      if entry.invalidReason = none then
        if operator.isReady spec.connectionRef = false then
          .markWaiting (waitingForConnection spec.connectionRef)
        else if spec.limit config ≤ entry.inflight then .recordSkip
        else .launch
      else .nothing := by
  simp only [tickAction, Collector.invalidReason, Collector.inflight, registered,
    Option.bind_some, Option.map_some, Option.getD_some]
  cases entry.invalidReason <;> rfl

theorem tickAction_eq_nothing_iff :
    operator.tickAction config key spec = .nothing ↔ entry.invalidReason ≠ none := by
  rw [tickAction_eq config registered]
  grind

theorem tickAction_eq_markWaiting_iff (reason : String) :
    operator.tickAction config key spec = .markWaiting reason ↔
      entry.invalidReason = none ∧ operator.isReady spec.connectionRef = false ∧
        reason = waitingForConnection spec.connectionRef := by
  rw [tickAction_eq config registered]
  grind

theorem tickAction_eq_recordSkip_iff :
    operator.tickAction config key spec = .recordSkip ↔
      entry.invalidReason = none ∧ operator.isReady spec.connectionRef = true ∧
        spec.limit config ≤ entry.inflight := by
  rw [tickAction_eq config registered]
  grind

theorem tickAction_eq_launch_iff :
    operator.tickAction config key spec = .launch ↔
      entry.invalidReason = none ∧ operator.isReady spec.connectionRef = true ∧
        entry.inflight < spec.limit config := by
  rw [tickAction_eq config registered]
  grind

end TickAction

/-- A tick issues at most one operation of the collector, on its own key. -/
theorem collector_tick (key : String) (spec : QuerySpec) (loopTime wallTime : Time) :
    (operator.tick config key spec loopTime wallTime).collector =
      match operator.tickAction config key spec with
      | .nothing => operator.collector
      | .markWaiting reason => operator.collector.markWaiting key reason
      | .recordSkip => operator.collector.recordSkip key wallTime
      | .launch => operator.collector.incInflight key := by
  unfold tick
  cases operator.tickAction config key spec <;> rfl

/-- A pending execution that has not reported acts on the collector when it
ends. -/
theorem collector_execute_of_pending
    {id : Nat}
    {task : Task}
    (pending : operator.pending.get? id = some task)
    (connection : Option ClickHouseConnection)
    (encounter : Encounter)
    (now : Time) :
    (operator.execute config id connection encounter now).collector =
      if task.reported then operator.collector
      else
        match Promch.execute config.toOperatorConfig task.connRef task.queryType connection
            encounter with
        | none => operator.collector
        | some ended =>
            ended.apply config.toOperatorConfig operator.collector task.key task.tickTs now := by
  simp only [execute, pending]
  split
  · rfl
  · split <;> rfl

/-- The collector after an execution went on. -/
theorem collector_execute
    (id : Nat)
    (connection : Option ClickHouseConnection)
    (encounter : Encounter)
    (now : Time) :
    (operator.execute config id connection encounter now).collector = operator.collector ∨
      ∃ task ended, operator.pending.get? id = some task ∧ task.reported = false ∧
        Promch.execute config.toOperatorConfig task.connRef task.queryType connection encounter =
          some ended ∧
        (operator.execute config id connection encounter now).collector =
          ended.apply config.toOperatorConfig operator.collector task.key task.tickTs now := by
  cases pending : operator.pending.get? id with
  | none => exact .inl (by simp only [execute, pending])
  | some task =>
      rw [operator.collector_execute_of_pending config pending]
      cases isReported : task.reported with
      | true => exact .inl (if_pos rfl)
      | false =>
          cases executed : Promch.execute config.toOperatorConfig task.connRef task.queryType
              connection encounter with
          | none => exact .inl rfl
          | some ended => exact .inr ⟨task, ended, rfl, isReported, executed, rfl⟩

/-- The collector after a done-callback. -/
theorem collector_doneCallback (id : Nat) :
    (operator.doneCallback id).collector =
      match operator.pending.get? id with
      | none => operator.collector
      | some task => operator.collector.decInflight task.key := by
  unfold doneCallback
  cases operator.pending.get? id <;> rfl

end Operator

/-! ## What one step does to the collector -/

/-- What a step does to the collector: at most one operation of a handler, or the
bare failure mark of an execution whose connection is gone. -/
inductive CollectorStep
    (config : OperatorConfig)
    (collector : Collector) : OperatorStep → Collector → Prop
  | kept (step : OperatorStep) : CollectorStep config collector step collector
  | registered (key : String) (spec : MetricSpec) (queryType : QueryType) :
      CollectorStep config collector (.register key spec queryType)
        (register config collector key spec queryType)
  | changed
      (step : OperatorStep)
      (op : HandlerOp)
      (createsNone : op.created config = none) :
      CollectorStep config collector step (op.apply config collector).1
  | connectionGone
      (step : OperatorStep)
      (key message : String)
      (now : Time) :
      CollectorStep config collector step
        (collector.markFailure key .connectionNotReady message none now)

/-- Every step acts on the collector in one of these ways. -/
theorem Operator.collectorStep
    (config : SchedulerConfig)
    (operator : Operator)
    (step : OperatorStep) :
    CollectorStep config.toOperatorConfig operator.collector step
      (operator.step config step).collector := by
  cases step with
  | register key spec queryType => exact .registered key spec queryType
  | deregister key => exact .changed _ (.unregister key) rfl
  | tick key spec loopTime wallTime =>
      rw [Operator.step, collector_tick]
      cases operator.tickAction config key spec with
      | nothing => exact .kept _
      | markWaiting reason => exact .changed _ (.markWaiting key reason) rfl
      | recordSkip => exact .changed _ (.recordSkip key wallTime) rfl
      | launch => exact .changed _ (.incInflight key) rfl
  | execute id connection encounter now =>
      rw [Operator.step]
      obtain unchanged | ⟨task, ended, -, -, -, applied⟩ :=
        operator.collector_execute config id connection encounter now
      · rw [unchanged]
        exact .kept _
      · rw [applied]
        cases ended with
        | connectionGone message => exact .connectionGone _ task.key message now
        | reported outcome =>
            refine .changed _ (outcome.op task.key task.tickTs now) ?_
            cases outcome <;> rfl
  | doneCallback id =>
      rw [Operator.step, collector_doneCallback]
      cases operator.pending.get? id with
      | none => exact .kept _
      | some task => exact .changed _ (.decInflight task.key) rfl
  | connectionPresent name =>
      rw [Operator.step]
      cases operator.connections.get? name <;> exact .kept _
  | connectionReady name | connectionGone name => exact .kept _

/-! ## What one step does to an entry -/

/-- What the end of an execution does to a registered entry of its key. -/
def ExecutionEnd.change
    (config : OperatorConfig)
    (entry : CachedMetric)
    (tickTs now : Time) : ExecutionEnd → CachedMetric
  | .connectionGone message => entry.markFailure .connectionNotReady message none now
  | .reported (.success rows durationSeconds failedNodes) =>
      (entry.update rows durationSeconds tickTs failedNodes now).1
  | .reported (.failure errorType message failedNodes) =>
      entry.fail config errorType message failedNodes now

/-- The end of an execution acts on the entry of its key alone. -/
theorem ExecutionEnd.get?_apply
    (config : OperatorConfig)
    (collector : Collector)
    (ended : ExecutionEnd)
    (key other : String)
    (tickTs now : Time) :
    (ended.apply config collector key tickTs now).entries.get? other =
      if other = key then
        (collector.entries.get? key).map fun entry => ended.change config entry tickTs now
      else collector.entries.get? other := by
  cases ended with
  | connectionGone message => exact collector.get?_modifyEntry key other _
  | reported outcome =>
      cases outcome with
      | success rows durationSeconds failedNodes =>
          exact collector.get?_update key other rows durationSeconds tickTs failedNodes now
      | failure errorType message failedNodes =>
          exact get?_fail config collector key other errorType message failedNodes now

/-- What a step does to the registered entry of a key: most steps leave it
alone. -/
inductive EntryStep
    (config : SchedulerConfig)
    (operator : Operator)
    (key : String)
    (entry : CachedMetric) : OperatorStep → Option CachedMetric → Prop
  | kept (step : OperatorStep) : EntryStep config operator key entry step (some entry)
  | edited
      (spec : MetricSpec)
      (queryType : QueryType)
      (name help : String)
      (labels : Dict String String)
      (invalidReason : Option String) :
      EntryStep config operator key entry (.register key spec queryType)
        (some (entry.edit name help labels invalidReason))
  | removed : EntryStep config operator key entry (.deregister key) none
  | heldBack
      (spec : QuerySpec)
      (loopTime wallTime : Time)
      (valid : entry.invalidReason = none)
      (waiting : operator.isReady spec.connectionRef = false) :
      EntryStep config operator key entry (.tick key spec loopTime wallTime)
        (some (entry.markWaiting (waitingForConnection spec.connectionRef)))
  | skipped
      (spec : QuerySpec)
      (loopTime wallTime : Time)
      (valid : entry.invalidReason = none) :
      EntryStep config operator key entry (.tick key spec loopTime wallTime)
        (some (entry.recordSkip wallTime))
  | launched
      (spec : QuerySpec)
      (loopTime wallTime : Time)
      (valid : entry.invalidReason = none) :
      EntryStep config operator key entry (.tick key spec loopTime wallTime)
        (some entry.incInflight)
  | ended
      {id : Nat}
      {task : Task}
      {connection : Option ClickHouseConnection}
      {encounter : Encounter}
      {ended : ExecutionEnd}
      (now : Time)
      (pending : operator.pending.get? id = some task)
      (ofKey : task.key = key)
      (executed : execute config.toOperatorConfig task.connRef task.queryType connection
        encounter = some ended) :
      EntryStep config operator key entry (.execute id connection encounter now)
        (some (ended.change config.toOperatorConfig entry task.tickTs now))
  | finished
      {id : Nat}
      {task : Task}
      (pending : operator.pending.get? id = some task)
      (ofKey : task.key = key) :
      EntryStep config operator key entry (.doneCallback id) (some entry.decInflight)

section EntryStep

variable (config : SchedulerConfig) {operator : Operator} {key : String} {entry : CachedMetric}

/-- Every step acts on a registered entry in one of these ways. -/
theorem Operator.entryStep
    (registered : operator.collector.entries.get? key = some entry)
    (step : OperatorStep) :
    EntryStep config operator key entry step
      ((operator.step config step).collector.entries.get? key) := by
  cases step with
  | register other spec queryType =>
      simp only [Operator.step, register, Collector.get?_register]
      split
      · next same =>
          subst same
          rw [registered]
          exact .edited _ _ _ _ _ _
      · rw [registered]
        exact .kept _
  | deregister other =>
      rw [Operator.step, Collector.get?_unregister]
      split
      · next same =>
          subst same
          exact .removed
      · rw [registered]
        exact .kept _
  | tick other spec loopTime wallTime =>
      rw [Operator.step, Operator.collector_tick]
      by_cases same : key = other
      · subst same
        cases action : operator.tickAction config key spec with
        | nothing =>
            simp only [registered]
            exact .kept _
        | markWaiting reason =>
            obtain ⟨valid, waiting, rfl⟩ :=
              (Operator.tickAction_eq_markWaiting_iff config registered spec reason).mp action
            simp only [Collector.markWaiting, Collector.get?_modifyEntry, if_true, registered,
              Option.map_some]
            exact .heldBack spec loopTime wallTime valid waiting
        | recordSkip =>
            obtain ⟨valid, -⟩ :=
              (Operator.tickAction_eq_recordSkip_iff config registered spec).mp action
            simp only [Collector.recordSkip, Collector.get?_modifyEntry, if_true, registered,
              Option.map_some]
            exact .skipped spec loopTime wallTime valid
        | launch =>
            obtain ⟨valid, -⟩ :=
              (Operator.tickAction_eq_launch_iff config registered spec).mp action
            simp only [Collector.incInflight, Collector.get?_modifyEntry, if_true, registered,
              Option.map_some]
            exact .launched spec loopTime wallTime valid
      · cases operator.tickAction config other spec <;>
          simpa only [Collector.markWaiting, Collector.recordSkip, Collector.incInflight,
            Collector.get?_modifyEntry, same, if_false, registered] using EntryStep.kept _
  | execute id connection encounter now =>
      obtain unchanged | ⟨task, ended, pending, -, executed, applied⟩ :=
        operator.collector_execute config id connection encounter now
      · rw [Operator.step, unchanged, registered]
        exact .kept _
      · rw [Operator.step, applied, ExecutionEnd.get?_apply]
        split
        · next same =>
            subst same
            rw [registered]
            exact .ended now pending rfl executed
        · rw [registered]
          exact .kept _
  | doneCallback id =>
      rw [Operator.step, Operator.collector_doneCallback]
      cases pending : operator.pending.get? id with
      | none =>
          simp only [registered]
          exact .kept _
      | some task =>
          simp only [Collector.decInflight, Collector.get?_modifyEntry]
          split
          · next same =>
              subst same
              rw [registered]
              exact .finished pending rfl
          · rw [registered]
            exact .kept _
  | connectionPresent name =>
      rw [Operator.step]
      cases operator.connections.get? name <;>
        simpa only [registered] using EntryStep.kept _
  | connectionReady name | connectionGone name =>
      simp only [Operator.step, registered]
      exact .kept _

variable {config}

/-- Only a registration creates an entry, and a fresh one. -/
theorem Operator.get?_step_of_unknown
    (unknown : operator.collector.entries.get? key = none)
    {step : OperatorStep}
    (created : (operator.step config step).collector.entries.get? key = some entry) :
    (∃ spec queryType, step = .register key spec queryType) ∧
      ∃ name help labels invalidReason,
        entry =
          { name := name, help := help, labels := labels, invalidReason := invalidReason } := by
  have stepped := operator.collectorStep config step
  generalize (operator.step config step).collector = after at stepped created
  cases stepped with
  | kept => cases unknown.symm.trans created
  | registered other spec queryType =>
      rw [register, Collector.get?_register] at created
      split at created
      · next same =>
          subst same
          rw [unknown] at created
          cases created
          exact ⟨⟨spec, queryType, rfl⟩, _, _, _, _, rfl⟩
      · cases unknown.symm.trans created
  | changed _ op createsNone =>
      rw [get?_apply] at created
      simp [unknown, createsNone] at created
  | connectionGone _ failedKey message now =>
      rw [Collector.markFailure, Collector.get?_modifyEntry] at created
      split at created
      · next same =>
          subst same
          rw [unknown] at created
          cases created
      · cases unknown.symm.trans created

/-- A property of a run and an entry holds of every entry that a run registers, if
fresh entries have it and every step keeps it. -/
theorem Operator.entry_run_induction
    {motive : List OperatorStep → CachedMetric → Prop}
    (fresh : ∀ steps name help labels invalidReason,
      motive steps
        { name := name, help := help, labels := labels, invalidReason := invalidReason })
    (kept : ∀ steps step before after,
      ((startOperator config).run config steps).collector.entries.get? key = some before →
        motive steps before →
          EntryStep config ((startOperator config).run config steps) key before step
            (some after) →
            motive (steps ++ [step]) after)
    {steps : List OperatorStep}
    (registered : ((startOperator config).run config steps).collector.entries.get? key =
      some entry) :
    motive steps entry := by
  induction steps using List.reverseRecOn generalizing entry with
  | nil => cases registered
  | append_singleton earlier step inductionHypothesis =>
      rw [Operator.run_append_singleton] at registered
      cases found :
          ((startOperator config).run config earlier).collector.entries.get? key with
      | none =>
          obtain ⟨-, name, help, labels, reason, rfl⟩ := get?_step_of_unknown found registered
          exact fresh _ name help labels reason
      | some before =>
          have stepped := Operator.entryStep config found step
          rw [registered] at stepped
          exact kept earlier step before entry found (inductionHypothesis found) stepped

end EntryStep

/-! ## The collectors of a run -/

namespace Operator

variable {config : SchedulerConfig} {operator : Operator}

/-- One step keeps the collector within what the handlers can reach. -/
theorem reachable_step
    (reachable : Reachable config.toOperatorConfig operator.collector)
    (step : OperatorStep) :
    Reachable config.toOperatorConfig (operator.step config step).collector := by
  have stepped := operator.collectorStep config step
  generalize (operator.step config step).collector = after at stepped ⊢
  cases stepped with
  | kept => exact reachable
  | registered key spec queryType => exact reachable.op (.register key spec queryType)
  | changed _ op => exact reachable.op op
  | connectionGone _ key message now => exact reachable.connectionGone key message now

/-- Every run of an operator reaches a collector of the handlers. -/
theorem reachable_run (config : SchedulerConfig) (steps : List OperatorStep) :
    Reachable config.toOperatorConfig ((startOperator config).run config steps).collector :=
  List.foldlRecOn steps (Operator.step config)
    (motive := fun operator => Reachable config.toOperatorConfig operator.collector)
    .start (fun _ reachable step _ => reachable_step reachable step)

end Operator

end Promch
