import Promch.Handlers.ConnectionEffects
import Promch.Handlers.Concurrency
import Promch.Library.Typestate

/-!
# The event loop seen as the operator

The operator knows the connections without a namespace and the executions that are
pending, and nothing of tasks.  A task is for it idle, executing, or the callback of an
execution that is over; every effect of a task is then some steps of the operator, or
none.
-/

namespace Promch

open EventLoop EventLoop.Coroutine

/-- What a task of the event loop is for the operator. -/
inductive Stage
  /-- Nothing that is pending. -/
  | idle
  /-- A pending execution. -/
  | executing (task : Promch.Task)
  /-- The callback of a pending execution that is over. -/
  | finished (key : String)

namespace Stage

/-- The query that a task is pending for. -/
def key? : Stage → Option String
  | .idle => none
  | .executing task => some task.key
  | .finished key => some key

/-- The stage in which a call begins. -/
def initial : RegistryCall → Stage
  | .execute key connRef queryType _ _ tickTs =>
      .executing { key := key, connRef := connRef, queryType := queryType, tickTs := tickTs }
  | .doneCallback key => .finished key
  | _ => .idle

/-- A task in a stage stands for the pending execution of a number. -/
def StandsFor (pending : Dict Nat Promch.Task) : Stage → Option Nat → Prop
  | .idle, number => number = none
  | .executing task, number => ∃ id, number = some id ∧ pending.get? id = some task
  | .finished key, number =>
      ∃ id task, number = some id ∧ pending.get? id = some task ∧ task.key = key

/-- What the effects of the programs are for the operator, and in which states. -/
inductive Moves (state : RegistryState) : Stage → RegistryEffect → Stage → Prop
  | ofConnections {effect : RegistryEffect} (connections : effect.OfConnections) :
      Moves state .idle effect .idle
  | lookAtClock (stage : Stage) : Moves state stage .lookAtClock stage
  | register (key : String) (spec : MetricSpec) (queryType : QueryType) :
      Moves state .idle (.collect (.register key spec queryType)) .idle
  | unregister (key : String) : Moves state .idle (.collect (.unregister key)) .idle
  | markWaiting
      {key : String}
      (query : ScheduledQuery)
      (valid : state.collector.invalidReason key = none)
      (waiting : state.isServing query.connectionRef = false) :
      Moves state .idle
        (.collect (.markWaiting key (waitingForConnection query.connectionRef))) .idle
  | recordSkip
      {key : String}
      (query : ScheduledQuery)
      (now : Time)
      (valid : state.collector.invalidReason key = none)
      (serving : state.isServing query.connectionRef = true)
      (full : query.limit state.config ≤ state.collector.inflight key) :
      Moves state .idle (.collect (.recordSkip key now)) .idle
  | launch
      {key : String}
      (query : ScheduledQuery)
      (tickTs : Time)
      (valid : state.collector.invalidReason key = none)
      (serving : state.isServing query.connectionRef = true)
      (room : ¬query.limit state.config ≤ state.collector.inflight key) :
      Moves state .idle (.launch key query tickTs) .idle
  | report
      {task : Promch.Task}
      {ended : ExecutionEnd}
      (obtained : Option (Nat × Bool))
      (connection : Option ClickHouseConnection)
      (encounter : Encounter)
      (now : Time)
      (unreported : task.reported = false)
      (executed : Promch.execute state.config.toOperatorConfig task.connRef task.queryType
        connection encounter = some ended) :
      Moves state (.executing task) (.report task.key obtained ended task.tickTs now)
        (.executing { task with reported := true })
  | finish (task : Promch.Task) : Moves state (.executing task) (.finish task.key) .idle
  | callBack (key : String) :
      Moves state (.finished key) (.collect (.decInflight key)) .idle

variable {pending after : Dict Nat Promch.Task} {number : Option Nat}

theorem StandsFor.mono
    {stage : Stage}
    (stands : stage.StandsFor pending number)
    (kept : ∀ id task, number = some id → pending.get? id = some task →
      after.get? id = some task) :
    stage.StandsFor after number := by
  cases stage with
  | idle => exact stands
  | executing task =>
      obtain ⟨id, numbered, found⟩ := stands
      exact ⟨id, numbered, kept id task numbered found⟩
  | finished key =>
      obtain ⟨id, task, numbered, found, same⟩ := stands
      exact ⟨id, task, numbered, kept id task numbered found, same⟩

end Stage

/-! ## The numbers of the pending executions -/

/-- Every task that is not idle stands for a pending execution of its own. -/
structure Numbering
    (stages : List Stage)
    (pending : Dict Nat Promch.Task)
    (number : Nat → Option Nat) : Prop where
  stands : ∀ (position : Nat) stage, stages[position]? = some stage →
    stage.StandsFor pending (number position)
  apart : ∀ first second id, number first = some id → number second = some id → first = second
  inside : ∀ position, stages.length ≤ position → number position = none

namespace Numbering

variable {stages more : List Stage} {pending after : Dict Nat Promch.Task}
variable {number : Nat → Option Nat} {task id : Nat} {stage : Stage}

/-- Idle tasks need no number. -/
theorem append_idle
    (numbering : Numbering stages pending number)
    (idle : ∀ stage ∈ more, stage = .idle) :
    Numbering (stages ++ more) pending number where
  stands := by
    intro position stage found
    rw [List.getElem?_append] at found
    split at found
    · exact numbering.stands position stage found
    · next beyond =>
        rw [idle stage (List.mem_of_getElem? found)]
        exact numbering.inside position (Nat.le_of_not_lt beyond)
  apart := numbering.apart
  inside := by
    intro position beyond
    rw [List.length_append] at beyond
    exact numbering.inside position (Nat.le_trans (Nat.le_add_right _ _) beyond)

/-- A task comes to stand for another state of its execution. -/
theorem change
    {later : Stage}
    (numbering : Numbering stages pending number)
    (numbered : number task = some id)
    (stands : later.StandsFor after (some id))
    (kept : ∀ other, other ≠ id → after.get? other = pending.get? other) :
    Numbering (stages.set task later) after number where
  stands := by
    intro position stage found
    by_cases same : task = position
    · subst same
      rw [List.getElem?_set_self'] at found
      obtain ⟨_, _, rfl⟩ := Option.map_eq_some_iff.mp found
      rw [numbered]
      exact stands
    · rw [List.getElem?_set_ne same] at found
      apply (numbering.stands position stage found).mono
      intro other execution own present
      rw [kept other, present]
      rintro rfl
      exact same (numbering.apart task position _ numbered own)
  apart := numbering.apart
  inside := by
    intro position beyond
    rw [List.length_set] at beyond
    exact numbering.inside position beyond

/-- A task gives up its number. -/
theorem release
    (numbering : Numbering stages pending number)
    (task : Nat)
    (kept : ∀ other execution, number task ≠ some other → pending.get? other = some execution →
      after.get? other = some execution) :
    Numbering (stages.set task .idle) after (Function.update number task none) where
  stands := by
    intro position stage found
    by_cases same : position = task
    · subst same
      rw [List.getElem?_set_self'] at found
      obtain ⟨_, _, rfl⟩ := Option.map_eq_some_iff.mp found
      exact Function.update_self _ _ _
    · rw [List.getElem?_set_ne (Ne.symm same)] at found
      rw [Function.update_of_ne same]
      apply (numbering.stands position stage found).mono
      intro other execution own present
      exact kept other execution (fun taken => same (numbering.apart _ _ _ own taken)) present
  apart := by
    intro first second id ofFirst ofSecond
    have unchanged : ∀ position, Function.update number task none position = some id →
        number position = some id := by
      intro position own
      by_cases same : position = task
      · rw [same, Function.update_self] at own
        cases own
      · rwa [Function.update_of_ne same] at own
    exact numbering.apart first second id (unchanged first ofFirst) (unchanged second ofSecond)
  inside := by
    intro position beyond
    rw [List.length_set] at beyond
    by_cases same : position = task
    · rw [same, Function.update_self]
    · rw [Function.update_of_ne same]
      exact numbering.inside position beyond

/-- A new task gets a number that no other has. -/
theorem append
    (numbering : Numbering stages pending number)
    (id : Nat)
    (free : ∀ position, number position ≠ some id)
    (stands : stage.StandsFor after (some id))
    (kept : ∀ other execution, (∃ position, number position = some other) →
      pending.get? other = some execution → after.get? other = some execution) :
    Numbering (stages ++ [stage]) after (Function.update number stages.length (some id)) where
  stands := by
    intro position other found
    by_cases same : position = stages.length
    · subst same
      rw [List.getElem?_concat_length] at found
      cases found
      rw [Function.update_self]
      exact stands
    · rw [Function.update_of_ne same]
      obtain before | beyond := Nat.lt_or_gt_of_ne same
      · rw [List.getElem?_append_left before] at found
        exact (numbering.stands position other found).mono
          fun id execution own present => kept id execution ⟨position, own⟩ present
      · have outside : (stages ++ [stage]).length ≤ position := by
          simpa using Nat.succ_le_of_lt beyond
        rw [List.getElem?_eq_none outside] at found
        cases found
  apart := by
    intro first second other ofFirst ofSecond
    by_cases firstNew : first = stages.length <;> by_cases secondNew : second = stages.length
    · rw [firstNew, secondNew]
    · rw [firstNew, Function.update_self] at ofFirst
      rw [Function.update_of_ne secondNew] at ofSecond
      cases ofFirst
      exact absurd ofSecond (free second)
    · rw [secondNew, Function.update_self] at ofSecond
      rw [Function.update_of_ne firstNew] at ofFirst
      cases ofSecond
      exact absurd ofFirst (free first)
    · rw [Function.update_of_ne firstNew] at ofFirst
      rw [Function.update_of_ne secondNew] at ofSecond
      exact numbering.apart first second other ofFirst ofSecond
  inside := by
    intro position beyond
    rw [List.length_append, List.length_singleton] at beyond
    rw [Function.update_of_ne (Nat.ne_of_gt beyond)]
    exact numbering.inside position (Nat.le_of_succ_le beyond)

/-- The number of a task is that of a pending execution. -/
theorem exists_pending
    {position : Nat}
    (numbering : Numbering stages pending number)
    (numbered : number position = some id) :
    ∃ execution, pending.get? id = some execution := by
  by_cases inside : position < stages.length
  · have stands := numbering.stands position _ (List.getElem?_eq_getElem inside)
    rw [numbered] at stands
    cases here : stages[position] with
    | idle =>
        rw [here] at stands
        cases stands
    | executing execution =>
        rw [here] at stands
        obtain ⟨_, same, found⟩ := stands
        cases same
        exact ⟨execution, found⟩
    | finished key =>
        rw [here] at stands
        obtain ⟨_, execution, same, found, _⟩ := stands
        cases same
        exact ⟨execution, found⟩
  · rw [numbering.inside position (Nat.le_of_not_lt inside)] at numbered
    cases numbered

end Numbering

/-! ## The operator of an event loop -/

namespace Operator

/-- The operator makes one step. -/
def StepsTo (config : SchedulerConfig) (before after : Operator) : Prop :=
  ∃ step, after = before.step config step

/-- What several steps lead to is the result of a run. -/
theorem exists_run_of_steps
    {config : SchedulerConfig}
    {operator : Operator}
    (steps : Relation.ReflTransGen (StepsTo config) (startOperator config) operator) :
    ∃ taken, operator = (startOperator config).run config taken := by
  induction steps with
  | refl => exact ⟨[], rfl⟩
  | tail _ last inductionHypothesis =>
      obtain ⟨taken, rfl⟩ := inductionHypothesis
      obtain ⟨step, rfl⟩ := last
      exact ⟨taken ++ [step], (Operator.run_append_singleton _ _ _ _).symm⟩

/-- Connections can go one after the other. -/
theorem exists_gone
    (config : SchedulerConfig)
    (operator : Operator)
    (names : List String) :
    ∃ after, Relation.ReflTransGen (StepsTo config) operator after ∧
      after.collector = operator.collector ∧ after.pending = operator.pending ∧
      ∀ name, after.connections.get? name =
        if name ∈ names then none else operator.connections.get? name := by
  induction names generalizing operator with
  | nil => exact ⟨operator, .refl, rfl, rfl, fun _ => rfl⟩
  | cons first rest inductionHypothesis =>
      obtain ⟨after, steps, collector, pending, connections⟩ :=
        inductionHypothesis (operator.step config (.connectionGone first))
      refine ⟨after, .head ⟨.connectionGone first, rfl⟩ steps, collector, pending, ?_⟩
      intro name
      rw [connections]
      simp only [step, Dict.get?_erase, List.mem_cons]
      by_cases same : name = first <;> by_cases member : name ∈ rest <;> simp [same, member]

end Operator

namespace RegistryState

/-- The names of the connections without a namespace, with whether they are ready. -/
def ShowsConnections (state : RegistryState) (connections : Dict String Bool) : Prop :=
  ∀ name, connections.get? name = (state.getConnection name).map state.isReady

/-- The shared state, with the stages of all tasks, appears as the operator. -/
structure AppearsAs
    (config : SchedulerConfig)
    (state : RegistryState)
    (stages : List Stage)
    (operator : Operator) : Prop where
  config : state.config = config
  collector : operator.collector = state.collector
  connections : state.ShowsConnections operator.connections
  numbered : ∃ number, Numbering stages operator.pending number
  counted : ∀ key, operator.pendingCount key =
    stages.countP fun stage => decide (stage.key? = some key)

variable {config : SchedulerConfig} {state next : RegistryState} {operator after : Operator}
variable {stages more : List Stage} {effect : RegistryEffect} {task : Nat}

theorem isReady_of_shown
    (shown : state.ShowsConnections operator.connections)
    (connRef : String) :
    operator.isReady connRef = state.isServing connRef := by
  rw [Operator.isReady, shown connRef, isServing]
  cases state.getConnection connRef <;> rfl

theorem resourceKey_none_injective : Function.Injective (resourceKey none) :=
  fun _ _ same => (Prod.mk.inj same).2

theorem config_apply : (state.apply effect).config = state.config := by
  cases effect <;> rfl

/-! ### The connections -/

/-- A connection that is registered under a key that no name stands for is not shown. -/
private theorem shown_of_unnamed
    {connections : Dict String Bool}
    (shown : state.ShowsConnections connections)
    (same : ∀ name, next.getConnection name = state.getConnection name)
    (ready : ∀ name conn, state.getConnection name = some conn →
      next.isReady conn = state.isReady conn) :
    next.ShowsConnections connections := by
  intro name
  rw [shown name, same name]
  cases found : state.getConnection name with
  | none => rfl
  | some conn => rw [Option.map_some, Option.map_some, ready name conn found]

/-- Popping the connection of a name is its disappearance. -/
private theorem exists_withdrawn
    {remover : Nat}
    {key : ResourceKey}
    {spec : Option ConnectionResource}
    (config : SchedulerConfig)
    (shown : state.ShowsConnections operator.connections) :
    ∃ after, Relation.ReflTransGen (Operator.StepsTo config) operator after ∧
      after.collector = operator.collector ∧ after.pending = operator.pending ∧
      (state.apply (.withdraw remover key spec)).ShowsConnections after.connections := by
  have withdrawn : ∀ name, (state.apply (.withdraw remover key spec)).getConnection name =
      if resourceKey none name = key then none else state.getConnection name :=
    fun name => Dict.get?_erase _ _ _
  by_cases named : ∃ name, resourceKey none name = key
  · obtain ⟨name, rfl⟩ := named
    refine ⟨operator.step config (.connectionGone name), .single ⟨_, rfl⟩, rfl, rfl, ?_⟩
    intro other
    rw [withdrawn, Operator.step, Dict.get?_erase]
    by_cases same : other = name
    · rw [if_pos same, if_pos (congrArg _ same)]
      rfl
    · rw [if_neg same, if_neg fun equal => same (resourceKey_none_injective equal)]
      exact shown other
  · refine ⟨operator, .refl, rfl, rfl, shown_of_unnamed shown ?_ fun _ _ _ => rfl⟩
    intro name
    rw [withdrawn, if_neg fun same => named ⟨name, same⟩]

/-- Emptying the registry is the disappearance of all connections. -/
private theorem exists_cleared
    {remover : Nat}
    (config : SchedulerConfig)
    (operator : Operator) :
    ∃ after, Relation.ReflTransGen (Operator.StepsTo config) operator after ∧
      after.collector = operator.collector ∧ after.pending = operator.pending ∧
      (state.apply (.clear remover)).ShowsConnections after.connections := by
  obtain ⟨after, steps, collector, pending, connections⟩ :=
    operator.exists_gone config operator.connections.keys
  refine ⟨after, steps, collector, pending, fun name => ?_⟩
  have gone : (state.apply (.clear remover)).getConnection name = none := rfl
  rw [gone, connections]
  split
  · rfl
  · next absent => exact (Dict.get?_eq_none_iff _ _).mpr absent

/-- Building the connection of a name is its appearance. -/
private theorem exists_constructed
    {builder : Nat}
    {key : ResourceKey}
    {spec : ConnectionResource}
    {credentials : Credentials}
    (config : SchedulerConfig)
    (wellformed : state.Wellformed)
    (free : state.connections.get? key = none)
    (shown : state.ShowsConnections operator.connections) :
    ∃ after, Relation.ReflTransGen (Operator.StepsTo config) operator after ∧
      after.collector = operator.collector ∧ after.pending = operator.pending ∧
      (state.apply (.construct builder key spec credentials)).ShowsConnections
        after.connections := by
  have constructed : ∀ name,
      (state.apply (.construct builder key spec credentials)).getConnection name =
        if resourceKey none name = key then some state.built.length
        else state.getConnection name :=
    fun name => Dict.get?_set _ _ _ _
  have readyBefore : ∀ name conn, state.getConnection name = some conn →
      (state.apply (.construct builder key spec credentials)).isReady conn =
        state.isReady conn := by
    intro name conn found
    have inside := wellformed.lt_of_isRegistered ⟨_, found⟩
    simp only [isReady, RegistryState.apply, List.getElem?_append_left inside]
  have notReady : (state.apply (.construct builder key spec credentials)).isReady
      state.built.length = false := by
    simp only [isReady, RegistryState.apply, List.getElem?_concat_length]
  by_cases named : ∃ name, resourceKey none name = key
  · obtain ⟨name, rfl⟩ := named
    have absent : operator.connections.get? name = none := by
      rw [shown name, getConnection, free]
      rfl
    have appeared : operator.step config (.connectionPresent name) =
        { operator with connections := operator.connections.set name false } := by
      simp only [Operator.step, absent]
    refine ⟨operator.step config (.connectionPresent name), .single ⟨_, rfl⟩, ?_, ?_, ?_⟩
    · rw [appeared]
    · rw [appeared]
    · intro other
      rw [appeared, constructed, Dict.get?_set]
      by_cases same : other = name
      · rw [if_pos same, if_pos (congrArg _ same), Option.map_some, notReady]
      · rw [if_neg same, if_neg fun equal => same (resourceKey_none_injective equal),
          shown other]
        cases found : state.getConnection other with
        | none => rfl
        | some conn => rw [Option.map_some, Option.map_some, readyBefore other conn found]
  · refine ⟨operator, .refl, rfl, rfl, shown_of_unnamed shown ?_ readyBefore⟩
    intro name
    rw [constructed, if_neg fun same => named ⟨name, same⟩]

/-- The first discovery cycle of the connection of a name makes it ready. -/
private theorem exists_becomeReady
    {conn : Nat}
    (config : SchedulerConfig)
    (wellformed : state.Wellformed)
    (shown : state.ShowsConnections operator.connections) :
    ∃ after, Relation.ReflTransGen (Operator.StepsTo config) operator after ∧
      after.collector = operator.collector ∧ after.pending = operator.pending ∧
      (state.apply (.becomeReady conn)).ShowsConnections after.connections := by
  have readyOther : ∀ other, other ≠ conn →
      (state.apply (.becomeReady conn)).isReady other = state.isReady other := by
    intro other apart
    simp only [isReady, RegistryState.apply, List.getElem?_modify_ne _ _ (Ne.symm apart)]
  have sameConnection : ∀ name, (state.apply (.becomeReady conn)).getConnection name =
      state.getConnection name := fun _ => rfl
  by_cases named : ∃ name, state.getConnection name = some conn
  · obtain ⟨name, found⟩ := named
    have ready : (state.apply (.becomeReady conn)).isReady conn = true := by
      obtain ⟨connection, position, _⟩ := wellformed.keyed _ conn found
      simp only [isReady, RegistryState.apply, List.getElem?_modify_eq, position]
      rfl
    refine ⟨operator.step config (.connectionReady name), .single ⟨_, rfl⟩, rfl, rfl, ?_⟩
    intro other
    rw [sameConnection, Operator.step, Dict.get?_modify, shown name, shown other]
    by_cases same : other = name
    · subst same
      rw [if_pos rfl, found, Option.map_some, Option.map_some, Option.map_some, ready]
    · rw [if_neg same]
      cases present : state.getConnection other with
      | none => rfl
      | some served =>
          have apart : served ≠ conn := by
            rintro rfl
            exact same (resourceKey_none_injective (wellformed.injective present found))
          rw [Option.map_some, Option.map_some, readyOther served apart]
  · refine ⟨operator, .refl, rfl, rfl, shown_of_unnamed shown sameConnection ?_⟩
    intro name served present
    apply readyOther
    rintro rfl
    exact named ⟨name, present⟩

/-- The effects of the connection handlers are steps of the operator. -/
private theorem exists_ofConnections
    (config : SchedulerConfig)
    (ofConnections : effect.OfConnections)
    (wellformed : state.Wellformed)
    (permitted : state.Permits task effect)
    (shown : state.ShowsConnections operator.connections) :
    ∃ after, Relation.ReflTransGen (Operator.StepsTo config) operator after ∧
      after.collector = operator.collector ∧ after.pending = operator.pending ∧
      (state.apply effect).ShowsConnections after.connections := by
  cases effect with
  | withdraw remover key spec => exact exists_withdrawn config shown
  | clear remover => exact exists_cleared config operator
  | construct builder key spec credentials =>
      exact exists_constructed config wellformed permitted.2.1 shown
  | becomeReady conn => exact exists_becomeReady config wellformed shown
  | observe observer key spec | callClose closer conn | receiveSecret secretNamespace name data
  | failToResolve failed | give key conn => exact ⟨operator, .refl, rfl, rfl, shown⟩
  | lookAtClock | collect op | launch key query tickTs | report key obtained ended tickTs now
  | finish key => exact ofConnections.elim

/-! ### The effects -/

/-- A step that leaves the pending executions alone, next to new tasks that are idle. -/
private theorem AppearsAs.replace
    (appears : state.AppearsAs config stages operator)
    (sameConfig : next.config = state.config)
    (collector : after.collector = next.collector)
    (shown : next.ShowsConnections after.connections)
    (pending : after.pending = operator.pending)
    (idle : ∀ stage ∈ more, stage = .idle) :
    next.AppearsAs config (stages ++ more) after where
  config := sameConfig.trans appears.config
  collector := collector
  connections := shown
  numbered := by
    obtain ⟨number, numbering⟩ := appears.numbered
    exact ⟨number, pending ▸ numbering.append_idle idle⟩
  counted := by
    intro key
    have none : more.countP (fun stage => decide (stage.key? = some key)) = 0 := by
      refine List.countP_eq_zero.mpr fun stage member => ?_
      rw [idle stage member]
      simp [Stage.key?]
    rw [List.countP_append, none, Nat.add_zero, ← appears.counted key, Operator.pendingCount,
      pending]
    rfl

/-- A handler that is started is idle, which the operator does not see. -/
theorem AppearsAs.start
    {call : RegistryCall}
    (appears : state.AppearsAs config stages operator)
    (handler : call.isHandler = true) :
    state.AppearsAs config (stages ++ [Stage.initial call]) operator := by
  have idle : Stage.initial call = .idle := by cases call <;> first | rfl | cases handler
  refine appears.replace rfl appears.collector appears.connections rfl ?_
  intro stage member
  rw [List.mem_singleton.mp member, idle]

/-- A collector operation that is one step of the operator. -/
private theorem AppearsAs.collect
    {op : HandlerOp}
    {step : OperatorStep}
    (appears : state.AppearsAs config stages operator)
    (collector : (operator.step config step).collector =
      (op.apply config.toOperatorConfig operator.collector).1)
    (connections : (operator.step config step).connections = operator.connections)
    (pending : (operator.step config step).pending = operator.pending) :
    ∃ after, Relation.ReflTransGen (Operator.StepsTo config) operator after ∧
      (state.apply (.collect op)).AppearsAs config (stages ++ []) after := by
  refine ⟨operator.step config step, .single ⟨step, rfl⟩, ?_⟩
  refine appears.replace config_apply ?_ ?_ pending ?_
  · rw [collector, appears.collector, ← appears.config]
    rfl
  · rw [connections]
    exact appears.connections
  · rintro stage ⟨⟩

/-- An effect of a connection handler; the tasks that close connections are idle. -/
private theorem AppearsAs.ofConnections
    (appears : state.AppearsAs config stages operator)
    (ofConnections : effect.OfConnections)
    (wellformed : state.Wellformed)
    (permitted : state.Permits task effect) :
    ∃ after, Relation.ReflTransGen (Operator.StepsTo config) operator after ∧
      (state.apply effect).AppearsAs config
        (stages ++ (registryLoop.forks effect state).map Stage.initial) after := by
  obtain ⟨after, steps, collector, pending, shown⟩ :=
    exists_ofConnections config ofConnections wellformed permitted appears.connections
  refine ⟨after, steps, appears.replace config_apply ?_ shown pending ?_⟩
  · have untouched : (state.apply effect).collector = state.collector := by
      cases effect <;> first | rfl | exact ofConnections.elim
    rw [collector, appears.collector]
    exact untouched.symm
  · intro stage member
    obtain ⟨call, forked, rfl⟩ := List.mem_map.mp member
    cases effect with
    | clear remover =>
        obtain ⟨conn, _, rfl⟩ := List.mem_map.mp forked
        rfl
    | _ => first | exact ofConnections.elim | cases forked

/-- A turn of the scheduler that finds the connection not ready. -/
private theorem AppearsAs.markWaiting
    {key : String}
    {query : ScheduledQuery}
    (appears : state.AppearsAs config stages operator)
    (valid : state.collector.invalidReason key = none)
    (waiting : state.isServing query.connectionRef = false) :
    ∃ after, Relation.ReflTransGen (Operator.StepsTo config) operator after ∧
      (state.apply (.collect (.markWaiting key (waitingForConnection
        query.connectionRef)))).AppearsAs config (stages ++ []) after := by
  have ready := (isReady_of_shown appears.connections query.connectionRef).trans waiting
  rw [← appears.collector] at valid
  have decides : operator.tickAction config key query.toQuerySpec =
      .markWaiting (waitingForConnection query.connectionRef) := by
    simp only [Operator.tickAction, valid, ready, if_true]
  have ticked : operator.step config (.tick key query.toQuerySpec 0 0) =
      { operator with
        collector := operator.collector.markWaiting key
          (waitingForConnection query.connectionRef) } := by
    simp only [Operator.step, Operator.tick, decides]
  apply appears.collect
  · rw [ticked]
    rfl
  · rw [ticked]
  · rw [ticked]

/-- A turn of the scheduler that finds the limit reached. -/
private theorem AppearsAs.recordSkip
    {key : String}
    {query : ScheduledQuery}
    {now : Time}
    (appears : state.AppearsAs config stages operator)
    (valid : state.collector.invalidReason key = none)
    (serving : state.isServing query.connectionRef = true)
    (full : query.limit state.config ≤ state.collector.inflight key) :
    ∃ after, Relation.ReflTransGen (Operator.StepsTo config) operator after ∧
      (state.apply (.collect (.recordSkip key now))).AppearsAs config (stages ++ []) after := by
  have ready := (isReady_of_shown appears.connections query.connectionRef).trans serving
  rw [← appears.collector] at valid full
  rw [appears.config] at full
  have decides : operator.tickAction config key query.toQuerySpec = .recordSkip := by
    simp only [Operator.tickAction, valid, ready, Bool.true_eq_false, if_false, if_pos full]
  have ticked : operator.step config (.tick key query.toQuerySpec now now) =
      { operator with collector := operator.collector.recordSkip key now } := by
    simp only [Operator.step, Operator.tick, decides]
  apply appears.collect
  · rw [ticked]
    rfl
  · rw [ticked]
  · rw [ticked]

/-- A launch is a turn of the scheduler. -/
private theorem AppearsAs.launch
    {key : String}
    {query : ScheduledQuery}
    {tickTs : Time}
    (appears : state.AppearsAs config stages operator)
    (valid : state.collector.invalidReason key = none)
    (serving : state.isServing query.connectionRef = true)
    (room : ¬query.limit state.config ≤ state.collector.inflight key) :
    ∃ after, Relation.ReflTransGen (Operator.StepsTo config) operator after ∧
      (state.apply (.launch key query tickTs)).AppearsAs config
        (stages ++ [Stage.initial (.execute key query.connectionRef query.queryType query.sql
          query.timeout tickTs)]) after := by
  have ready := (isReady_of_shown appears.connections query.connectionRef).trans serving
  rw [← appears.collector] at valid room
  rw [appears.config] at room
  have decides : operator.tickAction config key query.toQuerySpec = .launch := by
    simp only [Operator.tickAction, valid, ready, Bool.true_eq_false, if_false, if_neg room]
  have launched : operator.step config (.tick key query.toQuerySpec tickTs tickTs) =
      operator.launch
        { key := key
          connRef := query.connectionRef
          queryType := query.queryType
          tickTs := tickTs } := by
    simp only [Operator.step, Operator.tick, decides]
  refine ⟨_, .single ⟨.tick key query.toQuerySpec tickTs tickTs, rfl⟩, ?_⟩
  rw [launched]
  constructor
  · exact appears.config
  · exact congrArg (fun collector => collector.incInflight key) appears.collector
  · exact appears.connections
  · obtain ⟨number, numbering⟩ := appears.numbered
    have earlier : ∀ id execution, operator.pending.get? id = some execution →
        id ≠ operator.launched := by
      rintro id execution found rfl
      exact Nat.lt_irrefl _ (operator.pending_lt _ ((Dict.mem_keys_iff _ _).mpr ⟨_, found⟩))
    refine ⟨_, numbering.append operator.launched ?_ ?_ ?_⟩
    · intro position numbered
      obtain ⟨execution, found⟩ := numbering.exists_pending numbered
      exact earlier _ execution found rfl
    · exact ⟨_, rfl, Dict.get?_set_self _ _ _⟩
    · intro id execution _ found
      rw [Operator.launch, Dict.get?_set, if_neg (earlier id execution found), found]
  · intro other
    rw [Operator.pendingCount_launch, appears.counted other, List.countP_append,
      List.countP_singleton]
    simp only [Stage.initial, Stage.key?, Option.some.injEq, decide_eq_true_eq]

/-- A report is the end of an execution. -/
private theorem AppearsAs.report
    {execution : Promch.Task}
    {ended : ExecutionEnd}
    {obtained : Option (Nat × Bool)}
    {connection : Option ClickHouseConnection}
    {encounter : Encounter}
    {now : Time}
    (appears : state.AppearsAs config stages operator)
    (here : stages[task]? = some (.executing execution))
    (unreported : execution.reported = false)
    (executed : Promch.execute state.config.toOperatorConfig execution.connRef
      execution.queryType connection encounter = some ended) :
    ∃ after, Relation.ReflTransGen (Operator.StepsTo config) operator after ∧
      (state.apply (.report execution.key obtained ended execution.tickTs now)).AppearsAs config
        (stages.set task (.executing { execution with reported := true })) after := by
  obtain ⟨number, numbering⟩ := appears.numbered
  obtain ⟨id, numbered, pending⟩ := numbering.stands task _ here
  rw [appears.config] at executed
  have collector : (operator.execute config id connection encounter now).collector =
      ended.apply config.toOperatorConfig operator.collector execution.key execution.tickTs
        now := by
    rw [operator.collector_execute_of_pending config pending, executed, unreported]
    rfl
  have later : (operator.execute config id connection encounter now).pending =
      operator.pending.modify id fun task => { task with reported := true } := by
    simp only [Operator.execute, pending, unreported, executed, Bool.false_eq_true, if_false]
  have connections : (operator.execute config id connection encounter now).connections =
      operator.connections := by
    simp only [Operator.execute, pending, unreported, executed, Bool.false_eq_true, if_false]
  refine ⟨_, .single ⟨.execute id connection encounter now, rfl⟩, ?_⟩
  constructor
  · exact appears.config
  · refine collector.trans ?_
    rw [appears.collector, ← appears.config]
    rfl
  · rw [Operator.step, connections]
    exact appears.connections
  · refine ⟨number, numbering.change numbered ⟨id, rfl, ?_⟩ ?_⟩
    · rw [Operator.step, later, Dict.get?_modify, if_pos rfl, pending]
      rfl
    · intro other apart
      rw [Operator.step, later, Dict.get?_modify, if_neg apart]
  · intro key
    obtain ⟨rest, before, after⟩ :=
      exists_countP_rest (fun stage : Stage => decide (stage.key? = some key)) here
    rw [Operator.step, Operator.pendingCount_execute, appears.counted key, before, after]
    rfl

/-- An execution that is over is followed by its callback. -/
private theorem AppearsAs.finish
    {execution : Promch.Task}
    (appears : state.AppearsAs config stages operator)
    (here : stages[task]? = some (.executing execution)) :
    (state.apply (.finish execution.key)).AppearsAs config
      (stages.set task .idle ++ [.finished execution.key]) operator where
  config := appears.config
  collector := appears.collector
  connections := appears.connections
  numbered := by
    obtain ⟨number, numbering⟩ := appears.numbered
    obtain ⟨id, numbered, pending⟩ := numbering.stands task _ here
    have released : Numbering (stages.set task .idle) operator.pending
        (Function.update number task none) :=
      numbering.release task fun _ _ _ found => found
    refine ⟨_, released.append id ?_ ⟨id, execution, rfl, pending, rfl⟩ ?_⟩
    · intro position taken
      by_cases same : position = task
      · rw [same, Function.update_self] at taken
        cases taken
      · rw [Function.update_of_ne same] at taken
        exact same (numbering.apart position task id taken numbered)
    · exact fun _ _ _ found => found
  counted := by
    intro key
    obtain ⟨rest, before, after⟩ :=
      exists_countP_rest (fun stage : Stage => decide (stage.key? = some key)) here
    rw [appears.counted key, List.countP_append, before, after, List.countP_singleton]
    simp [Stage.key?]

/-- The callback of an execution forgets it. -/
private theorem AppearsAs.callBack
    {key : String}
    (appears : state.AppearsAs config stages operator)
    (here : stages[task]? = some (.finished key)) :
    ∃ after, Relation.ReflTransGen (Operator.StepsTo config) operator after ∧
      (state.apply (.collect (.decInflight key))).AppearsAs config (stages.set task .idle)
        after := by
  obtain ⟨number, numbering⟩ := appears.numbered
  obtain ⟨id, execution, numbered, pending, rfl⟩ := numbering.stands task _ here
  have forgotten : (operator.doneCallback id).pending = operator.pending.erase id := by
    simp only [Operator.doneCallback, pending]
  have connections : (operator.doneCallback id).connections = operator.connections := by
    simp only [Operator.doneCallback, pending]
  have collector : (operator.doneCallback id).collector =
      operator.collector.decInflight execution.key := by
    rw [operator.collector_doneCallback, pending]
  refine ⟨_, .single ⟨.doneCallback id, rfl⟩, ?_⟩
  constructor
  · exact appears.config
  · refine collector.trans ?_
    rw [appears.collector]
    rfl
  · rw [Operator.step, connections]
    exact appears.connections
  · refine ⟨_, numbering.release task ?_⟩
    intro other present apart found
    rw [Operator.step, forgotten, Dict.get?_erase, if_neg, found]
    rintro rfl
    exact apart numbered
  · intro other
    obtain ⟨rest, before, after⟩ :=
      exists_countP_rest (fun stage : Stage => decide (stage.key? = some other)) here
    have discounted := Operator.pendingCount_doneCallback pending other
    have counted := appears.counted other
    rw [before] at counted
    rw [Operator.step, after]
    simp only [Stage.key?, Option.some.injEq, reduceCtorEq, decide_false, decide_eq_true_eq,
      Bool.false_eq_true, if_false] at counted ⊢
    omega

/-! ### Every effect -/

/-- Whatever effect a task has in its stage, the operator follows by steps. -/
theorem AppearsAs.move
    {stage later : Stage}
    (appears : state.AppearsAs config stages operator)
    (here : stages[task]? = some stage)
    (moves : Stage.Moves state stage effect later)
    (wellformed : state.Wellformed)
    (permitted : state.Permits task effect) :
    ∃ after, Relation.ReflTransGen (Operator.StepsTo config) operator after ∧
      (registryLoop.apply effect state).AppearsAs config
        (stages.set task later ++ (registryLoop.forks effect state).map Stage.initial) after := by
  have same : ∀ {stage : Stage}, stages[task]? = some stage → stages.set task stage = stages := by
    intro stage here
    obtain ⟨inside, rfl⟩ := List.getElem?_eq_some_iff.mp here
    exact List.set_getElem_self inside
  cases moves with
  | ofConnections ofConnections =>
      rw [same here]
      exact appears.ofConnections ofConnections wellformed permitted
  | lookAtClock =>
      refine ⟨operator, .refl, ?_⟩
      rw [same here]
      refine appears.replace config_apply appears.collector appears.connections rfl ?_
      rintro stage ⟨⟩
  | register key spec queryType =>
      rw [same here]
      have registers : (operator.step config (.register key spec queryType)).collector =
          ((HandlerOp.register key spec queryType).apply config.toOperatorConfig
            operator.collector).1 := rfl
      exact appears.collect registers rfl rfl
  | unregister key =>
      rw [same here]
      have unregisters : (operator.step config (.deregister key)).collector =
          ((HandlerOp.unregister key).apply config.toOperatorConfig operator.collector).1 := rfl
      exact appears.collect unregisters rfl rfl
  | markWaiting query valid waiting =>
      rw [same here]
      exact appears.markWaiting valid waiting
  | recordSkip query now valid serving full =>
      rw [same here]
      exact appears.recordSkip valid serving full
  | launch query tickTs valid serving room =>
      rw [same here]
      exact appears.launch valid serving room
  | report obtained connection encounter now unreported executed =>
      rw [show (registryLoop.forks _ state).map Stage.initial = [] from rfl, List.append_nil]
      exact appears.report here unreported executed
  | finish execution => exact ⟨operator, .refl, appears.finish here⟩
  | callBack key =>
      rw [show (registryLoop.forks _ state).map Stage.initial = [] from rfl, List.append_nil]
      exact appears.callBack here

end RegistryState

end Promch
