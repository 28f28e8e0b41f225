import Promch.Collector.Labels
import Promch.Handlers.Scheduler
import Promch.Handlers.SystemReports

/-!
# Where an exported row comes from

The rows of an entry were stored by an execution of its key, and the rows of a
system execution are those of the answering nodes, each labelled with the host
of its node.  Both labels reach the exported sample: the exporter writes
`query_key` last, and a row column wins against the static labels of the
family.
-/

namespace Promch

/-- The rows of all answers with the nodes that returned them, in pool order. -/
def answeredRows (outcomes : List (Node × NodeOutcome)) : List (Node × Row) :=
  outcomes.flatMap fun call => (call.2.answer.getD []).map fun row => (call.1, row)

/-- A result that was returned to an execution, before any label is added. -/
inductive RawResult (connection : ClickHouseConnection) (encounter : Encounter) :
    QueryType → List Row → Prop
  | system
      {outcomes : List (Node × NodeOutcome)}
      (completed : connection.topology.Completed encounter.fanOut outcomes) :
      RawResult connection encounter .system ((answeredRows outcomes).map Prod.snd)
  | data
      {run : DataQueryRun}
      {raws : List Row}
      (ran : connection.topology.executeDataQuery connection.spec.maxFailovers encounter.script =
        some run)
      (returned : run.result = .ok raws) :
      RawResult connection encounter .data raws

/-- In the run an execution of the key reported the rows as a success. -/
structure StoredBy
    (config : SchedulerConfig)
    (steps : List OperatorStep)
    (key : String)
    (rows : List QueryResult)
    (task : Task)
    (connection : ClickHouseConnection)
    (encounter : Encounter) : Prop where
  ofKey : task.key = key
  executed : ∃ durationSeconds failedNodes,
    execute config.toOperatorConfig task.connRef task.queryType (some connection) encounter =
      some (.reported (.success rows durationSeconds failedNodes))
  inRun : ∃ first id now rest,
    steps = first ++ .execute id (some connection) encounter now :: rest ∧
      ((startOperator config).run config first).pending.get? id = some task

/-- Every exported sample is that of a row of an execution of its `query_key`,
and if that was a system execution its node label is the host that returned the
row. -/
def SourceLabelsKept (config : SchedulerConfig) (steps : List OperatorStep) : Prop :=
  ∀ name sample,
    (name, sample) ∈ ((startOperator config).run config steps).collector.userSamples →
      ∃ key entry rows row, ∃ index : Nat,
        ((startOperator config).run config steps).collector.entries.get? key = some entry ∧
        entry.rows = some rows ∧ rows[index]? = some row ∧
        sample = rowSample (((startOperator config).run config steps).collector.group name)
          (key, entry) row ∧
        sample.labels.get? "query_key" = some key ∧
        ∃ task connection encounter, StoredBy config steps key rows task connection encounter ∧
          (task.queryType = .system →
            ∃ outcomes source, connection.topology.Completed encounter.fanOut outcomes ∧
              (answeredRows outcomes)[index]? = some source ∧
              buildRow (stampRow config.nodeLabel source.1.host source.2) = .ok row ∧
              sample.labels.get? config.nodeLabel = some source.1.host)

/-! ## The rows of a system execution -/

section System

variable {nodeLabel : String} {outcomes : List (Node × NodeOutcome)}

theorem stampedRows_eq_map :
    stampedRows nodeLabel outcomes =
      (answeredRows outcomes).map fun source => stampRow nodeLabel source.1.host source.2 := by
  simp [stampedRows, answeredRows, List.map_flatMap, Function.comp_def]

theorem mem_answeredRows_iff (source : Node × Row) :
    source ∈ answeredRows outcomes ↔
      ∃ call ∈ outcomes, call.1 = source.1 ∧ source.2 ∈ call.2.answer.getD [] := by
  obtain ⟨node, raw⟩ := source
  simp only [answeredRows, List.mem_flatMap, List.mem_map, Prod.mk.injEq]
  constructor
  · rintro ⟨call, member, row, answered, sameNode, rfl⟩
    exact ⟨call, member, sameNode, answered⟩
  · rintro ⟨call, member, sameNode, answered⟩
    exact ⟨call, member, raw, answered, sameNode, rfl⟩

/-- A node label column of an answered row is seen by the merge. -/
theorem not_labelFree_of_column
    (labelled : ∃ source ∈ answeredRows outcomes, nodeLabel ∈ source.2.keys) :
    ¬LabelFree nodeLabel outcomes := by
  obtain ⟨source, member, column⟩ := labelled
  obtain ⟨call, called, -, answered⟩ := (mem_answeredRows_iff source).mp member
  exact fun labelFree => labelFree call called source.2 answered column

/-- A mapped row keeps its node label. -/
theorem nodeLabel_of_buildRow
    {host : String}
    {raw : Row}
    {row : QueryResult}
    (usable : nodeLabel ≠ "value")
    (built : buildRow (stampRow nodeLabel host raw) = .ok row) :
    row.dynamicLabels.get? nodeLabel = some host := by
  rw [dynamicLabels_of_buildRow built, Dict.get?_mapValues, Dict.get?_erase, if_neg usable,
    stampRow, Dict.get?_set_self]
  rfl

end System

/-- The rows of a successful system execution are the mapped answers. -/
theorem completed_of_system_success
    {config : OperatorConfig}
    {connRef : String}
    {connection : ClickHouseConnection}
    {encounter : Encounter}
    {rows : List QueryResult}
    {durationSeconds : Time}
    {failedNodes : Option (List String)}
    (executed : execute config connRef .system (some connection) encounter =
      some (.reported (.success rows durationSeconds failedNodes))) :
    ∃ outcomes, connection.topology.Completed encounter.fanOut outcomes ∧
      buildRows (stampedRows config.nodeLabel outcomes) = .ok rows := by
  simp only [execute, Option.map_eq_some_iff, ExecutionEnd.reported.injEq] at executed
  obtain ⟨queried, returned, reported⟩ := executed
  cases queried with
  | error raised => cases raised <;> cases reported
  | ok result =>
      obtain ⟨outcomes, completed, -, rowsEq, -⟩ :=
        ClusterTopology.executeSystemQuery_eq_ok returned
      refine ⟨outcomes, completed, ?_⟩
      rw [← rowsEq]
      simp only [reportSystem] at reported
      split at reported
      · cases reported
      · cases built : buildRows result.rows with
        | error raised =>
            simp only [reportRows, built] at reported
            cases raised <;> cases reported
        | ok mapped =>
            simp only [reportRows, built, ExecutionOutcome.success.injEq] at reported
            rw [reported.1]

/-- The row at a position of a successful system execution is the mapped answer
at that position. -/
theorem source_of_system_row
    {config : OperatorConfig}
    {outcomes : List (Node × NodeOutcome)}
    {rows : List QueryResult}
    {index : Nat}
    {row : QueryResult}
    (built : buildRows (stampedRows config.nodeLabel outcomes) = .ok rows)
    (present : rows[index]? = some row) :
    ∃ source, (answeredRows outcomes)[index]? = some source ∧
      buildRow (stampRow config.nodeLabel source.1.host source.2) = .ok row := by
  obtain ⟨sameLength, mapped⟩ :=
    List.forall₂_iff_get.mp (forall₂_of_buildRows built)
  obtain ⟨inside, found⟩ := List.getElem?_eq_some_iff.mp present
  have stampedInside : index < (stampedRows config.nodeLabel outcomes).length := by
    rw [sameLength]
    exact inside
  have here := mapped index stampedInside inside
  rw [List.get_eq_getElem, List.get_eq_getElem, found] at here
  have answeredInside : index < (answeredRows outcomes).length := by
    simpa [stampedRows_eq_map] using stampedInside
  refine ⟨(answeredRows outcomes)[index], List.getElem?_eq_getElem answeredInside, ?_⟩
  simpa [stampedRows_eq_map] using here

/-! ## The rows of an entry -/

/-- Only a success changes the rows. -/
theorem ExecutionEnd.rows_change
    (config : OperatorConfig)
    (ended : ExecutionEnd)
    (entry : CachedMetric)
    (tickTs now : Time) :
    (ended.change config entry tickTs now).rows = entry.rows ∨
      ∃ rows durationSeconds failedNodes,
        ended = .reported (.success rows durationSeconds failedNodes) ∧
          (ended.change config entry tickTs now).rows = some rows := by
  cases ended with
  | connectionGone message => exact .inl rfl
  | reported outcome =>
      cases outcome with
      | success rows durationSeconds failedNodes =>
          simp only [change, CachedMetric.update]
          split
          · exact .inl rfl
          · exact .inr ⟨rows, durationSeconds, failedNodes, rfl, rfl⟩
      | failure errorType message failedNodes =>
          rw [change, entry.fail_eq config errorType message failedNodes now]
          exact .inl rfl

section Run

variable {config : SchedulerConfig} {steps : List OperatorStep} {key : String}
  {entry : CachedMetric} {rows : List QueryResult}

/-- What stored the rows is still in a longer run. -/
theorem StoredBy.append
    {task : Task}
    {connection : ClickHouseConnection}
    {encounter : Encounter}
    (stored : StoredBy config steps key rows task connection encounter)
    (step : OperatorStep) :
    StoredBy config (steps ++ [step]) key rows task connection encounter := by
  obtain ⟨ofKey, executed, first, id, now, rest, rfl, pending⟩ := stored
  exact ⟨ofKey, executed, first, id, now, rest ++ [step], by simp, pending⟩

/-- The rows of an entry were stored by an execution of its key. -/
theorem exists_storedBy
    (registered : ((startOperator config).run config steps).collector.entries.get? key =
      some entry)
    (cached : entry.rows = some rows) :
    ∃ task connection encounter, StoredBy config steps key rows task connection encounter := by
  refine Operator.entry_run_induction
    (motive := fun steps entry => entry.rows = some rows →
      ∃ task connection encounter, StoredBy config steps key rows task connection encounter)
    (fun _ _ _ _ _ cached => nomatch cached) ?_ registered cached
  intro earlier step before after found stored stepped cached
  have kept (same : before.rows = some rows) : ∃ task connection encounter,
      StoredBy config (earlier ++ [step]) key rows task connection encounter := by
    obtain ⟨task, connection, encounter, storedBy⟩ := stored same
    exact ⟨task, connection, encounter, storedBy.append step⟩
  cases stepped with
  | kept | edited | heldBack | skipped | launched | finished => exact kept cached
  | @ended id task connection encounter ended now pending ofKey executed =>
      obtain same | ⟨storedRows, durationSeconds, failedNodes, rfl, same⟩ :=
        ended.rows_change config.toOperatorConfig before task.tickTs now
      · exact kept (same.symm.trans cached)
      · obtain rfl := Option.some.inj (same.symm.trans cached)
        cases connection with
        | none => simp [execute] at executed
        | some connection =>
            exact ⟨task, connection, encounter, ofKey, ⟨_, _, executed⟩,
              earlier, id, now, [], rfl, pending⟩

end Run

/-! ## Rejected results -/

section Rejected

variable {config : OperatorConfig} {connection : ClickHouseConnection} {encounter : Encounter}
  {queryType : QueryType} {raws : List Row}

/-- A node label column in a system result is a node query error. -/
theorem execute_of_nodeLabel_column
    (connRef : String)
    (result : RawResult connection encounter .system raws)
    (labelled : ∃ raw ∈ raws, config.nodeLabel ∈ raw.keys) :
    ∃ message,
      connection.topology.executeSystemQuery config.nodeLabel encounter.fanOut =
        some (.error (.nodeQueryError message)) ∧
      execute config connRef .system (some connection) encounter =
        some (.reported (.failure .queryError message none)) := by
  obtain @⟨outcomes, completed⟩ := result
  obtain ⟨raw, member, column⟩ := labelled
  obtain ⟨source, answered, rfl⟩ := List.mem_map.mp member
  have live : connection.topology.allLive ≠ [] := by
    obtain ⟨call, called, -⟩ := (mem_answeredRows_iff source).mp answered
    rw [← completed.map_fst]
    exact List.ne_nil_of_mem (List.mem_map_of_mem called)
  obtain ⟨message, rejected⟩ :=
    mergeAnswers_of_not_labelFree (not_labelFree_of_column ⟨source, answered, column⟩)
  have raised : connection.topology.executeSystemQuery config.nodeLabel encounter.fanOut =
      some (.error (.nodeQueryError message)) := by
    rw [ClusterTopology.executeSystemQuery_of_completed completed live, rejected]
    rfl
  exact ⟨message, raised, by simp [execute, raised, reportSystem, reportRaised]⟩

/-- A `query_key` column in a result that reaches the mapping is a failure. -/
theorem reportRows_of_reserved
    (reserved : ∃ raw ∈ raws, "query_key" ∈ raw.keys)
    (failedNodes : List String)
    (durationSeconds : Time) :
    ∃ errorType message,
      reportRows raws failedNodes durationSeconds = .failure errorType message none := by
  obtain ⟨message, raised⟩ | ⟨_, _, _, _, message, -, -, -, -, raised⟩ :=
    buildRows_of_reserved reserved
  · exact ⟨.invalidResult, message, by simp [reportRows, raised, reportRaised]⟩
  · exact ⟨.queryError, message, by simp [reportRows, raised, reportRaised]⟩

/-- A `query_key` column in the result of an execution is a failure. -/
theorem execute_of_reserved_column
    (connRef : String)
    (result : RawResult connection encounter queryType raws)
    (reserved : ∃ raw ∈ raws, "query_key" ∈ raw.keys) :
    ∃ errorType message,
      execute config connRef queryType (some connection) encounter =
        some (.reported (.failure errorType message none)) := by
  cases result with
  | @system outcomes completed =>
      obtain ⟨raw, member, column⟩ := reserved
      obtain ⟨source, answered, rfl⟩ := List.mem_map.mp member
      obtain ⟨call, called, -⟩ := (mem_answeredRows_iff source).mp answered
      have live : connection.topology.allLive ≠ [] := by
        rw [← completed.map_fst]
        exact List.ne_nil_of_mem (List.mem_map_of_mem called)
      have stamped : stampRow config.nodeLabel source.1.host source.2 ∈
          stampedRows config.nodeLabel outcomes := by
        rw [stampedRows_eq_map]
        exact List.mem_map_of_mem answered
      have notAccepted : ¬(RowsAccepted config.nodeLabel outcomes ∧
          ¬NothingButMissing connection.topology encounter.fanOut outcomes) := by
        rintro ⟨⟨-, contract⟩, -⟩
        exact (contract _ stamped).1 ((Dict.mem_keys_set _ _ _ _).mpr (.inr column))
      obtain ⟨errorType, message, reported, -⟩ := reportSystem_of_not_accepted completed live
        notAccepted encounter.durationSeconds
      exact ⟨errorType, message, execute_of_reportSystem connRef reported⟩
  | data ran returned =>
      obtain ⟨errorType, message, reported⟩ :=
        reportRows_of_reserved reserved [] encounter.durationSeconds
      exact ⟨errorType, message, by simp [execute, ran, reportData, returned, reported]⟩

/-- A failure report leaves the rows of every entry in the cache. -/
theorem rows_execute_of_failure
    {config : SchedulerConfig}
    {operator : Operator}
    {id : Nat}
    {task : Task}
    {connection : Option ClickHouseConnection}
    {errorType : ErrorType}
    {message : String}
    {failedNodes : Option (List String)}
    (pending : operator.pending.get? id = some task)
    (executed : execute config.toOperatorConfig task.connRef task.queryType connection encounter =
      some (.reported (.failure errorType message failedNodes)))
    (now : Time)
    (key : String) :
    ((operator.execute config id connection encounter now).collector.entries.get? key).map
        CachedMetric.rows =
      (operator.collector.entries.get? key).map CachedMetric.rows := by
  rw [operator.collector_execute_of_pending config pending, executed]
  cases task.reported with
  | true => rfl
  | false =>
      simp only [Bool.false_eq_true, if_false, ExecutionEnd.get?_apply]
      split
      · next same =>
          subst same
          rw [Option.map_map]
          refine Option.map_congr fun entry _ => ?_
          obtain same | ⟨_, _, _, success, -⟩ := (ExecutionEnd.reported
            (.failure errorType message failedNodes)).rows_change config.toOperatorConfig entry
              task.tickTs now
          · exact same
          · cases success
      · rfl

end Rejected

/-! ## The guarantee -/

/-- A read with one of its rows is labelled with its key, and with the host that
returned the row if a system execution stored it. -/
theorem sourceLabelsKept
    (config : SchedulerConfig)
    (usable : config.nodeLabel ≠ "value")
    (steps : List OperatorStep) :
    SourceLabelsKept config steps := by
  intro name sample exported
  obtain ⟨⟨key, entry⟩, inGroup, row, inRows, rfl⟩ :=
    (Collector.mem_userSamples_iff _ name sample).mp exported
  obtain ⟨present, isExported, -⟩ := (Collector.mem_group_iff _ name _).mp inGroup
  have registered := (Collector.mem_reads_iff _ key entry).mp present
  cases cached : entry.rows with
  | none => simp [Read.rows, cached] at inRows
  | some rows =>
      have inCache : row ∈ rows := by simpa [Read.rows, cached] using inRows
      obtain ⟨index, atIndex⟩ := List.mem_iff_getElem?.mp inCache
      obtain ⟨task, connection, encounter, stored⟩ := exists_storedBy registered cached
      refine ⟨key, entry, rows, row, index, registered, cached, atIndex, rfl,
        Collector.get?_rowSample_queryKey _ _ row, task, connection, encounter, stored, ?_⟩
      intro isSystem
      obtain ⟨durationSeconds, failedNodes, executed⟩ := stored.executed
      rw [isSystem] at executed
      obtain ⟨outcomes, completed, built⟩ := completed_of_system_success executed
      obtain ⟨source, answered, mapped⟩ := source_of_system_row built atIndex
      exact ⟨outcomes, source, completed, answered, mapped,
        Collector.get?_rowSample_of_column inGroup inRows (nodeLabel_of_buildRow usable mapped)
          config.nodeLabel_valid.2⟩

/-- Source labels cannot be forged: exported samples keep them, a system result
is the answers in pool order with one label each, and a result that brings a
label of its own is rejected without touching the cache; the rejection of a
`query_key` column is a value error unless the value of an earlier row raises
something else. -/
theorem sourceLabels_unforgeable
    (config : SchedulerConfig)
    (usable : config.nodeLabel ≠ "value") :
    (∀ steps, SourceLabelsKept config steps) ∧
    (∀ topology events result,
      ClusterTopology.executeSystemQuery topology config.nodeLabel events = some (.ok result) →
        ∃ outcomes, topology.Completed events outcomes ∧
          outcomes.map Prod.fst = topology.allLive ∧
          result.rows = (answeredRows outcomes).map fun source =>
            source.2.set config.nodeLabel (.str source.1.host)) ∧
    (∀ connRef connection encounter raws, RawResult connection encounter .system raws →
      (∃ raw ∈ raws, config.nodeLabel ∈ raw.keys) →
        ∃ message,
          connection.topology.executeSystemQuery config.nodeLabel encounter.fanOut =
            some (.error (.nodeQueryError message)) ∧
          execute config.toOperatorConfig connRef .system (some connection) encounter =
            some (.reported (.failure .queryError message none))) ∧
    (∀ raws, (∃ raw ∈ raws, "query_key" ∈ raw.keys) →
      (∃ message, buildRows raws = .error (.valueError message)) ∨
        ∃ first raw rest cell message, raws = first ++ raw :: rest ∧
          (∃ later ∈ rest, "query_key" ∈ later.keys) ∧
          raw.get? "value" = some cell ∧ cell.float = .error (.raised message) ∧
          buildRows raws = .error (.exception message)) ∧
    (∀ connRef connection encounter queryType raws,
      RawResult connection encounter queryType raws → (∃ raw ∈ raws, "query_key" ∈ raw.keys) →
        ∃ errorType message,
          execute config.toOperatorConfig connRef queryType (some connection) encounter =
            some (.reported (.failure errorType message none))) ∧
    ∀ operator id task connection encounter now errorType message failedNodes,
      Dict.get? (Operator.pending operator) id = some task →
        execute config.toOperatorConfig task.connRef task.queryType connection encounter =
          some (.reported (.failure errorType message failedNodes)) →
            ∀ key,
              ((operator.execute config id connection encounter now).collector.entries.get?
                  key).map CachedMetric.rows =
                (operator.collector.entries.get? key).map CachedMetric.rows := by
  refine ⟨sourceLabelsKept config usable, ?_, ?_, fun raws => buildRows_of_reserved, ?_, ?_⟩
  · intro topology events result returned
    obtain ⟨outcomes, completed, -, rowsEq, -⟩ := ClusterTopology.executeSystemQuery_eq_ok returned
    exact ⟨outcomes, completed, completed.map_fst, rowsEq.trans stampedRows_eq_map⟩
  · intro connRef connection encounter raws result labelled
    exact execute_of_nodeLabel_column connRef result labelled
  · intro connRef connection encounter queryType raws result reserved
    exact execute_of_reserved_column connRef result reserved
  · intro operator id task connection encounter now errorType message failedNodes pending
      executed key
    exact rows_execute_of_failure pending executed now key

/-- A system query whose first node answers one row. -/
def labelledRun : List OperatorStep :=
  [.register "ns/s" { name := "parts" } .system, .connectionPresent "c", .connectionReady "c",
    .tick "ns/s" { connectionRef := "c", queryType := .system } 1 1,
    .execute 0 (some twoLiveNodes) (oneAnswers [ClusterTopology.unitRow]) 2]

/-- Its sample carries the key and the host of the first node. -/
theorem sourceLabels_unforgeable_labelledRun :
    SourceLabelsKept defaultSchedulerConfig labelledRun ∧
      (((startOperator defaultSchedulerConfig).run defaultSchedulerConfig
        labelledRun).collector.userSamples.map fun pair =>
          (pair.2.labels.get? "query_key", pair.2.labels.get? "clickhouse_node")) =
        [(some "ns/s", some "h1")] :=
  ⟨(sourceLabels_unforgeable defaultSchedulerConfig (by decide)).1 labelledRun, by decide⟩

/-- A row whose value is the integer `10 ^ 309`, which no float can hold. -/
def overflowRow : Row :=
  let digits := String.ofList ('1' :: List.replicate 309 '0')
  Dict.ofList [("value", .object digits digits
    (.error (.raised "int too large to convert to float")))]

/-- A row that brings its own key. -/
def keyedRow : Row :=
  Dict.ofList [("value", .ofNat 1), ("query_key", .str "ns/other")]

/-- Behind a value that overflows the reserved column is rejected with another
error than a value error. -/
theorem not_valueError_of_overflow :
    ¬∀ raws : List Row, (∃ raw ∈ raws, "query_key" ∈ raw.keys) →
      ∃ message, buildRows raws = .error (.valueError message) := by
  intro rejected
  obtain ⟨message, raised⟩ := rejected [overflowRow, keyedRow] ⟨keyedRow, by simp, by decide⟩
  have overflows : buildRows [overflowRow, keyedRow] =
      .error (.exception "int too large to convert to float") := rfl
  rw [overflows] at raised
  cases raised

end Promch
