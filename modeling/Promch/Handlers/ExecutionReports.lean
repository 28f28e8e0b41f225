import Promch.Library.Replay
import Promch.Handlers.WarmUp

/-!
# The reports of the executions

An execution is accounted for by one update or one failure report, or not at all
if it is cancelled.  An execution whose connection is gone makes a bare failure
mark instead, which neither of the two reports amounts to: an entry that reaches
the limit by it does not expire.
-/

namespace Promch

open EventLoop EventLoop.Machine

/-- What happens in a replay of a handler. -/
abbrev RegistryHappening : Type :=
  Happening RegistryEffect RegistryRequest RegistryRequest.Answer HandlerFault

/-- What a replay of a handler is given at an await. -/
abbrev RegistryResumption : Type :=
  Resumption RegistryState RegistryRequest RegistryRequest.Answer HandlerFault

/-! ## Reports -/

namespace RegistryEffect

/-- An effect of an execution other than reading the clock and having its
callbacks scheduled. -/
def isAccount : RegistryEffect → Bool
  | .lookAtClock => false
  | .finish _ => false
  | _ => true

/-- In every state the effect is that of an operation on the collector. -/
def Performs (effect : RegistryEffect) (op : HandlerOp) : Prop :=
  ∀ moment : RegistryState, (moment.apply effect).collector =
    (op.apply moment.config.toOperatorConfig moment.collector).1

end RegistryEffect

namespace Collector

/-- The cached rows of a key and the tick that produced them. -/
def cached (collector : Collector) (key : String) : Option (Option (List QueryResult) × Time) :=
  (collector.entries.get? key).map fun entry => (entry.rows, entry.tickTs)

end Collector

/-- A result has the numeric value of a raw row, and its other columns as text
labels. -/
structure MapsRow (raw : Row) (row : QueryResult) : Prop where
  value : ∃ cell, raw.get? "value" = some cell ∧ cell.float = .ok row.value
  labels : row.dynamicLabels = (raw.erase "value").mapValues Cell.toText

theorem mapsRow_of_buildRow
    {raw : Row}
    {row : QueryResult}
    (built : buildRow raw = .ok row) :
    MapsRow raw row := by
  refine ⟨?_, dynamicLabels_of_buildRow built⟩
  unfold buildRow at built
  split at built
  · cases built
  · split at built
    · cases built
    · next cell stored =>
        split at built
        · next value converted =>
            cases built
            exact ⟨cell, stored, converted⟩
        · cases built
        · cases built

section Cached

variable {collector : Collector} {outcome : ExecutionOutcome}
variable {key : String} {tickTs now : Time}

/-- A failure report leaves what is cached. -/
theorem cached_apply_of_failure
    (config : OperatorConfig)
    (failed : outcome.isSuccess = false)
    (other : String) :
    ((outcome.op key tickTs now).apply config collector).1.cached other =
      collector.cached other := by
  cases outcome with
  | success rows durationSeconds failedNodes => cases failed
  | failure errorType message failedNodes =>
      rw [Collector.cached, get?_apply]
      split
      · cases stored : collector.entries.get? other with
        | none => simp [Collector.cached, stored, ExecutionOutcome.op, HandlerOp.created]
        | some entry =>
            simp [Collector.cached, stored, ExecutionOutcome.op, HandlerOp.change,
              CachedMetric.fail_eq, CachedMetric.markFailure]
      · rfl

/-- An update that is not out of date caches its rows. -/
theorem cached_apply_of_success
    (config : OperatorConfig)
    {rows : List QueryResult}
    {duration : Time}
    {failedNodes : Option (List String)}
    {entry : CachedMetric}
    (registered : collector.entries.get? key = some entry)
    (current : entry.tickTs ≤ tickTs) :
    (((ExecutionOutcome.success rows duration failedNodes).op key tickTs now).apply config
      collector).1.cached key = some (some rows, tickTs) := by
  rw [Collector.cached, ExecutionOutcome.get?_apply_op _ _ _ _ registered]
  simp [ExecutionOutcome.op, HandlerOp.change, CachedMetric.update, not_lt.mpr current]

end Cached

/-- The rows that a connection returns to an execution, unless they are those of
a system query that no node has answered. -/
def RegistryRequest.Returns
    (request : RegistryRequest)
    (answer : Except HandlerFault request.Answer)
    (raws : List Row) : Prop :=
  match request, answer with
  | .executeSystemQuery _ _ _ _, .ok result =>
      result.rows = raws ∧ ¬(result.rows = [] ∧ result.failedNodes ≠ [])
  | .executeDataQuery _ _ _, .ok rows => rows = raws
  | _, _ => False

/-- The report that an execution makes of the answer of its connection. -/
def RegistryRequest.LeadsTo
    (request : RegistryRequest)
    (answer : Except HandlerFault request.Answer)
    (outcome : ExecutionOutcome) : Prop :=
  match request, answer with
  | .executeSystemQuery _ _ _ _, .ok result =>
      ∃ duration, outcome = reportSystem (.ok result) [] duration
  | .executeDataQuery _ _ _, .ok rows => ∃ duration, outcome = reportData (.ok rows) duration
  | _, .ok _ => False
  | _, .error fault =>
      ∃ exception members, fault.exception? = some exception ∧
        outcome = reportRaised exception members

namespace RegistryRequest

variable {request : RegistryRequest} {answer : Except HandlerFault request.Answer}
variable {fault : HandlerFault} {outcome : ExecutionOutcome} {raws : List Row}

theorem leadsTo_error :
    request.LeadsTo (.error fault) outcome ↔
      ∃ exception members, fault.exception? = some exception ∧
        outcome = reportRaised exception members := by
  cases request <;> rfl

theorem not_returns_error : ¬request.Returns (.error fault) raws := by
  cases request <;> exact id

theorem Returns.eq
    {others : List Row}
    (returns : request.Returns answer raws)
    (returnsToo : request.Returns answer others) :
    others = raws := by
  cases answer with
  | error fault => exact absurd returns not_returns_error
  | ok result =>
      cases request with
      | executeSystemQuery conn sql timeout nodeLabel => exact returnsToo.1.symm.trans returns.1
      | executeDataQuery conn sql timeout => exact returnsToo.symm.trans returns
      | _ => exact returns.elim

/-- A success holds the rows that were returned; a failure is reported if there
are none or one of them is bad. -/
theorem LeadsTo.success_or_failure (leads : request.LeadsTo answer outcome) :
    (∃ raws rows duration failedNodes, request.Returns answer raws ∧ buildRows raws = .ok rows ∧
      outcome = .success rows duration failedNodes) ∨
    (∃ errorType message failedNodes, outcome = .failure errorType message failedNodes) ∧
      ∀ raws, request.Returns answer raws → ¬∀ raw ∈ raws, MeetsContract raw := by
  have ofRows : ∀ {raws : List Row} {failedNodes duration},
      request.Returns answer raws → outcome = reportRows raws failedNodes duration →
      (∃ raws rows duration failedNodes, request.Returns answer raws ∧
        buildRows raws = .ok rows ∧ outcome = .success rows duration failedNodes) ∨
      (∃ errorType message failedNodes, outcome = .failure errorType message failedNodes) ∧
        ∀ raws, request.Returns answer raws → ¬∀ raw ∈ raws, MeetsContract raw := by
    rintro raws failedNodes duration returns rfl
    by_cases contract : ∀ raw ∈ raws, MeetsContract raw
    · obtain ⟨rows, built, reported⟩ :=
        reportRows_of_meetsContract contract failedNodes duration
      exact .inl ⟨raws, rows, duration, some failedNodes, returns, built, reported⟩
    · obtain ⟨errorType, message, reported, -⟩ :=
        reportRows_of_not_meetsContract contract failedNodes duration
      refine .inr ⟨⟨errorType, message, none, reported⟩, fun others returnsToo => ?_⟩
      rwa [returns.eq returnsToo]
  cases answer with
  | error fault =>
      obtain ⟨exception, members, _, rfl⟩ := leadsTo_error.mp leads
      refine .inr ⟨?_, fun raws returns => absurd returns not_returns_error⟩
      cases exception <;> exact ⟨_, _, _, rfl⟩
  | ok result =>
      cases request with
      | executeSystemQuery conn sql timeout nodeLabel =>
          obtain ⟨duration, rfl⟩ := leads
          by_cases nothing : result.rows = [] ∧ result.failedNodes ≠ []
          · refine .inr ⟨?_, fun raws returns => absurd nothing returns.2⟩
            simp [reportSystem, nothing]
          · have answered : ¬(result.rows.isEmpty && !result.failedNodes.isEmpty) = true := by
              simpa using nothing
            exact ofRows ⟨rfl, nothing⟩ (if_neg answered)
      | executeDataQuery conn sql timeout =>
          obtain ⟨duration, rfl⟩ := leads
          exact ofRows rfl rfl
      | _ => exact leads.elim

end RegistryRequest

/-- One execution of a query, from its start to its end. -/
structure ExecutionReplay where
  task : Nat
  key : String
  connRef : String
  queryType : QueryType
  sql : String
  timeout : Time
  tickTs : Time
  before : RegistryState
  script : List RegistryResumption
  run : Replayed RegistryState RegistryEffect RegistryRequest RegistryRequest.Answer
    HandlerFault HandlerValue
  ran : registryLoop.replay task
    (Registry.execute key connRef queryType sql timeout tickTs) script before = some run

namespace ExecutionReplay

variable (execution : ExecutionReplay)

/-- What the execution has told the collector. -/
def accounts : List RegistryEffect :=
  (execution.run.trace.filterMap Happening.effect?).filter RegistryEffect.isAccount

/-- The task was cancelled. -/
def Cancelled : Prop :=
  ∃ resumption ∈ execution.script, resumption.outcome = .error .cancelled

/-- The connection is found, and it returns rows. -/
def Obtains (raws : List Row) : Prop :=
  execution.before.getConnection execution.connRef ≠ none ∧
    ∃ resumption ∈ execution.script, resumption.request.Returns resumption.outcome raws

/-- The execution ends without an exception, with one report: an update exactly
if rows within the contract are returned. -/
structure ReportedOnce (outcome : ExecutionOutcome) (account : RegistryEffect) (now : Time) :
    Prop where
  returns : execution.run.outcome = .ok .nothing
  single : execution.accounts = [account]
  report : account.Performs (outcome.op execution.key execution.tickTs now)
  updates : outcome.isSuccess = true ↔
    ∃ raws, execution.Obtains raws ∧ ∀ raw ∈ raws, MeetsContract raw
  /-- A bad row, wherever it stands, leaves everything that is cached. -/
  rejects : ∀ raws, execution.Obtains raws → ∀ raw ∈ raws, ¬MeetsContract raw →
    ∀ (moment : RegistryState) (other : String),
      (moment.apply account).collector.cached other = moment.collector.cached other
  /-- An update that is not out of date caches the returned rows, in order. -/
  accepts : ∀ raws, execution.Obtains raws → (∀ raw ∈ raws, MeetsContract raw) →
    ∀ (moment : RegistryState) (entry : CachedMetric),
      moment.collector.entries.get? execution.key = some entry →
      entry.tickTs ≤ execution.tickTs →
      ∃ rows, (moment.apply account).collector.cached execution.key =
          some (some rows, execution.tickTs) ∧
        List.Forall₂ MapsRow raws rows

/-- An execution reports once, unless it is cancelled; then it does not report. -/
structure AccountedFor : Prop where
  cancelled : execution.Cancelled → execution.accounts = []
  reported : ¬execution.Cancelled → ∃ outcome account now,
    execution.ReportedOnce outcome account now

end ExecutionReplay

/-- How an execution ends. -/
inductive ExecutionEnds
    (key connRef : String)
    (tickTs : Time)
    (before : RegistryState)
    (trace : List RegistryHappening)
    (outcome : Except HandlerFault HandlerValue) : Prop
  | gone
      {message : String}
      {now : Time}
      (missing : before.getConnection connRef = none)
      (trace_eq : trace = [.did .lookAtClock, .did .lookAtClock,
        .did (.report key none (.connectionGone message) tickTs now), .did (.finish key)])
      (returns : outcome = .ok .nothing)
  | cancelled
      {request : RegistryRequest}
      (found : before.getConnection connRef ≠ none)
      (trace_eq : trace = [.did .lookAtClock, .got request (.error .cancelled),
        .did (.finish key)])
      (raises : outcome = .error .cancelled)
  | reported
      {request : RegistryRequest}
      {answer : Except HandlerFault request.Answer}
      {obtained : Option (Nat × Bool)}
      {report : ExecutionOutcome}
      {now : Time}
      (found : before.getConnection connRef ≠ none)
      (leads : request.LeadsTo answer report)
      (trace_eq : trace = [.did .lookAtClock, .got request answer, .did .lookAtClock,
        .did (.report key obtained (.reported report) tickTs now), .did (.finish key)])
      (returns : outcome = .ok .nothing)

section Executions

variable {task : Nat} {key connRef : String} {queryType : QueryType} {sql : String}
variable {timeout tickTs : Time} {before : RegistryState}

/-- What `runQuery` awaits leads to the report that it returns. -/
private theorem ensures_runQuery
    {conn : Nat}
    {state : RegistryState}
    {goal : List RegistryHappening → Except HandlerFault (Time → ExecutionOutcome) →
      RegistryState → Prop}
    (answered : ∀ request answer report later, (∀ duration, RegistryRequest.LeadsTo request
      (.ok answer) (report duration)) → goal [.got request (.ok answer)] (.ok report) later)
    (failed : ∀ request fault later, goal [.got request (.error fault)] (.error fault) later) :
    registryLoop.Ensures ⟨fun _ _ => True, fun _ _ => True⟩ task
      (Registry.runQuery conn queryType sql timeout) goal state := by
  cases queryType with
  | system =>
      simp only [Registry.runQuery, ensures_bind, ensures_gets, ensures_andThen_ok, ensures_await]
      intro later answer _ _ _
      cases answer with
      | ok result => exact answered _ result _ later fun duration => ⟨duration, rfl⟩
      | error fault => exact failed _ fault later
  | data =>
      simp only [Registry.runQuery, ensures_bind, ensures_await]
      intro later answer _ _ _
      cases answer with
      | ok rows => exact answered _ rows _ later fun duration => ⟨duration, rfl⟩
      | error fault => exact failed _ fault later

/-- The report of an exception is that of `reportRaised`, with or without the
members. -/
private theorem ensures_reportException
    {exception : Raised}
    {state : RegistryState}
    {goal : List RegistryHappening → Except HandlerFault ExecutionOutcome → RegistryState → Prop}
    (reports : ∀ members, goal [] (.ok (reportRaised exception members)) state) :
    registryLoop.Ensures ⟨fun _ _ => True, fun _ _ => True⟩ task
      (Registry.reportException connRef queryType exception) goal state := by
  simp only [Registry.reportException, ensures_bind, ensures_gets, ensures_andThen_ok]
  split
  · exact reports _
  · exact reports none

/-- Every execution ends in one of these ways. -/
private theorem ensures_execute :
    registryLoop.Ensures ⟨fun _ _ => True, fun _ _ => True⟩ task
      (Registry.execute key connRef queryType sql timeout tickTs)
      (fun trace outcome _ => ExecutionEnds key connRef tickTs before trace outcome) before := by
  simp only [Registry.execute, Registry.executeQuery, Registry.readClock, ensures_bind,
    ensures_attempt, ensures_gets, ensures_emit, ensures_andThen_ok, ensures_pure]
  cases found : (registryLoop.apply .lookAtClock before).getConnection connRef with
  | none =>
      simp only [ensures_bind, ensures_gets, ensures_emit, ensures_andThen_ok, ensures_pure]
      exact .gone found rfl rfl
  | some conn =>
      have registered : before.getConnection connRef ≠ none := by
        intro missing
        cases missing.symm.trans found
      simp only [ensures_bind, ensures_gets, ensures_andThen_ok, ensures_attempt]
      apply ensures_runQuery
      · intro request answer report later leads
        simp only [ensures_bind, ensures_gets, ensures_emit, ensures_andThen_ok, ensures_pure]
        exact .reported registered (leads _) rfl rfl
      · intro request fault later
        cases caught : fault.exception? with
        | none =>
            have cancelled : fault = .cancelled := by
              cases fault <;> first | rfl | cases caught
            subst cancelled
            simp only [caught, ensures_raise, ensures_conclude, ensures_andThen_error]
            exact .cancelled registered rfl rfl
        | some exception =>
            simp only [caught, ensures_bind]
            apply ensures_reportException
            intro members
            simp only [ensures_bind, ensures_gets, ensures_emit, ensures_andThen_ok, ensures_pure,
              ensures_conclude]
            have leads : request.LeadsTo (.error fault) (reportRaised exception members) :=
              RegistryRequest.leadsTo_error.mpr ⟨exception, members, caught, rfl⟩
            exact .reported registered leads rfl rfl

end Executions

/-- In a state in which the first failure of a key is one too many, the bare failure
mark leaves an entry that neither an update nor a failure report leaves. -/
private theorem not_performs_connectionGone
    {key message : String}
    {obtained : Option (Nat × Bool)}
    {tickTs now later : Time}
    (outcome : ExecutionOutcome) :
    ¬(RegistryEffect.report key obtained (.connectionGone message) tickTs now).Performs
      (outcome.op key tickTs later) := by
  let entry : CachedMetric := { name := "", help := "", labels := Dict.empty }
  let config : SchedulerConfig := { defaultSchedulerConfig with expireAfterFailures := 1 }
  let moment : RegistryState :=
    { RegistryState.start config "" (fun _ => ⟨0, 0⟩) (fun _ _ => []) with
      collector := { entries := Dict.empty.set key entry, metricPrefix := "" } }
  have registered : moment.collector.entries.get? key = some entry := by
    simp [moment]
  intro performs
  have same := congrArg (fun collector : Collector => collector.entries.get? key)
    (performs moment)
  have marked : (moment.apply (.report key obtained (.connectionGone message) tickTs
      now)).collector.entries.get? key =
        some (entry.markFailure .connectionNotReady message none now) := by
    simp [RegistryState.apply, ExecutionEnd.apply, Collector.markFailure, registered]
  simp only [marked, ExecutionOutcome.get?_apply_op _ _ _ _ registered] at same
  cases outcome with
  | success rows duration failedNodes =>
      simp only [ExecutionOutcome.op, HandlerOp.change, CachedMetric.update] at same
      split at same
      · simpa [entry, CachedMetric.markFailure] using
          congrArg CachedMetric.consecutiveFailures (Option.some.inj same)
      · simpa [entry, CachedMetric.markFailure] using
          congrArg CachedMetric.consecutiveFailures (Option.some.inj same)
  | failure errorType text failedNodes =>
      simp only [ExecutionOutcome.op, HandlerOp.change, CachedMetric.fail_eq] at same
      simpa [entry, moment, config, RegistryState.start, CachedMetric.markFailure] using
        congrArg CachedMetric.expired (Option.some.inj same)

namespace ExecutionReplay

variable {execution : ExecutionReplay}

private theorem cancelled_iff :
    execution.Cancelled ↔
      SomeAnswer (fun _ answer => answer = .error .cancelled) execution.run.trace := by
  rw [someAnswer_trace_iff execution.ran, Cancelled]

private theorem obtains_iff
    {raws : List Row}
    (found : execution.before.getConnection execution.connRef ≠ none) :
    execution.Obtains raws ↔
      SomeAnswer (fun request answer => request.Returns answer raws) execution.run.trace := by
  rw [someAnswer_trace_iff execution.ran, Obtains, and_iff_right found]

/-- The report that the answer of the connection leads to accounts for the
execution. -/
private theorem reportedOnce_of_leads
    {request : RegistryRequest}
    {answer : Except HandlerFault request.Answer}
    {obtained : Option (Nat × Bool)}
    {outcome : ExecutionOutcome}
    {now : Time}
    (obtains : ∀ raws, execution.Obtains raws ↔ request.Returns answer raws)
    (leads : request.LeadsTo answer outcome)
    (returns : execution.run.outcome = .ok .nothing)
    (single : execution.accounts =
      [.report execution.key obtained (.reported outcome) execution.tickTs now]) :
    execution.ReportedOnce outcome
      (.report execution.key obtained (.reported outcome) execution.tickTs now) now := by
  obtain ⟨raws, rows, duration, failedNodes, returned, built, rfl⟩ |
    ⟨⟨errorType, message, failedNodes, rfl⟩, bad⟩ := leads.success_or_failure
  · have contract := (buildRows_eq_ok_iff raws).mp ⟨rows, built⟩
    refine ⟨returns, single, fun _ => rfl, ?_, ?_, ?_⟩
    · exact iff_of_true rfl ⟨raws, (obtains raws).mpr returned, contract⟩
    · intro others obtained raw member broken
      rw [returned.eq ((obtains others).mp obtained)] at member
      exact absurd (contract raw member) broken
    · intro others obtained _ moment entry registered current
      rw [returned.eq ((obtains others).mp obtained)]
      exact ⟨rows, cached_apply_of_success moment.config.toOperatorConfig registered current,
        (forall₂_of_buildRows built).imp fun _ _ => mapsRow_of_buildRow⟩
  · refine ⟨returns, single, fun _ => rfl, ?_, ?_, ?_⟩
    · refine iff_of_false Bool.false_ne_true ?_
      rintro ⟨raws, obtained, contract⟩
      exact bad raws ((obtains raws).mp obtained) contract
    · exact fun _ _ _ _ _ _ other => cached_apply_of_failure _ rfl other
    · intro raws obtained contract
      exact absurd contract (bad raws ((obtains raws).mp obtained))

/-- What a finished execution says of how it went. -/
private theorem ends (execution : ExecutionReplay) :
    ExecutionEnds execution.key execution.connRef execution.tickTs execution.before
      execution.run.trace execution.run.outcome :=
  Ensures.of_replay ensures_execute (fun _ _ => ⟨fun _ => trivial, trivial⟩) execution.ran

/-- A bare failure mark does not account for an execution. -/
private theorem not_accountedFor_of_missing
    (missing : execution.before.getConnection execution.connRef = none) :
    ¬execution.AccountedFor := by
  intro accounted
  cases execution.ends with
  | gone _ trace_eq returns =>
      have uncancelled : ¬execution.Cancelled := by
        rw [cancelled_iff, trace_eq]
        simp
      obtain ⟨outcome, account, now, once⟩ := accounted.reported uncancelled
      have single := once.single
      simp only [accounts, trace_eq] at single
      obtain rfl := (List.cons.inj single).1
      exact not_performs_connectionGone outcome once.report
  | cancelled found trace_eq raises => exact found missing
  | reported found leads trace_eq returns => exact found missing

/-- With its connection an execution is accounted for. -/
private theorem accountedFor_of_found
    (found : execution.before.getConnection execution.connRef ≠ none) :
    execution.AccountedFor := by
  cases execution.ends with
  | gone missing trace_eq returns => exact absurd missing found
  | cancelled found trace_eq raises =>
      have cancelled : execution.Cancelled := by
        rw [cancelled_iff, trace_eq]
        simp
      refine ⟨fun _ => ?_, fun uncancelled => absurd cancelled uncancelled⟩
      rw [accounts, trace_eq]
      rfl
  | @reported request answer obtained report now found leads trace_eq returns =>
      have obtains : ∀ raws, execution.Obtains raws ↔ request.Returns answer raws := by
        intro raws
        rw [obtains_iff found, trace_eq]
        simp
      have uncancelled : ¬execution.Cancelled := by
        rw [cancelled_iff, trace_eq]
        suffices answer ≠ .error .cancelled by simpa using this
        rintro rfl
        obtain ⟨exception, members, caught, -⟩ := RegistryRequest.leadsTo_error.mp leads
        cases caught
      have single : execution.accounts =
          [.report execution.key obtained (.reported report) execution.tickTs now] := by
        rw [accounts, trace_eq]
        rfl
      exact ⟨fun cancelled => absurd cancelled uncancelled, fun _ => ⟨_, _, _,
        reportedOnce_of_leads obtains leads returns single⟩⟩

/-- An execution is accounted for exactly if its connection is registered when it
looks it up. -/
theorem accountedFor_iff (execution : ExecutionReplay) :
    execution.AccountedFor ↔
      execution.before.getConnection execution.connRef ≠ none := by
  constructor
  · exact fun accounted missing => not_accountedFor_of_missing missing accounted
  · exact accountedFor_of_found

end ExecutionReplay

/-- The second of two rows has no value. -/
def badRowScript : List RegistryResumption :=
  [{ request := .executeDataQuery 0 "q" 10
     outcome := .ok [Dict.ofList [("value", .ofNat 1)], Dict.ofList [("other", .ofNat 2)]] }]

theorem accountedFor_of_bad_row :
    ∃ execution : ExecutionReplay,
      execution.script.map Resumption.request = [.executeDataQuery 0 "q" 10] ∧
        execution.run.state.charges = [⟨"k", .invalidResult, some (0, true)⟩] ∧
        execution.AccountedFor := by
  obtain ⟨system, _, found⟩ := RegistrySystem.exists_reached callsHandlers launchOnReady
    (fun system => system.state.getConnection "x" = some 0 ∧
      (registryLoop.replay 3 (Registry.execute "k" "x" .data "q" 10 0) badRowScript
        system.state).any fun run =>
          run.state.charges = [⟨"k", .invalidResult, some (0, true)⟩])
    (by decide +kernel)
  obtain ⟨registered, replays⟩ := of_decide_eq_true found
  obtain ⟨run, ran, charged⟩ := (Option.any_eq_true _ _).mp replays
  let execution : ExecutionReplay := {
    task := 3
    key := "k"
    connRef := "x"
    queryType := .data
    sql := "q"
    timeout := 10
    tickTs := 0
    before := system.state
    script := badRowScript
    run := run
    ran := ran }
  refine ⟨execution, rfl, of_decide_eq_true charged, execution.accountedFor_iff.mpr ?_⟩
  exact fun missing => Option.some_ne_none 0 (registered.symm.trans missing)

/-- A tick launches an execution that fails; the task of the tick has the given
number. -/
def failedRun (task : Nat) : List RegistryAction :=
  [.start (.tick "k" queryOnX), .begin task, .begin (task + 1),
    .answer (task + 1) (.executeDataQuery 0 "q" 10)
      (.error (.raised (.noLiveNodesError "no live nodes"))),
    .begin (task + 2)]

/-- After four failures the connection is deleted before the fifth execution begins;
the fifth failure is marked, and the query does not expire. -/
theorem not_accountedFor_of_deletion :
    ∃ (system : RegistrySystem) (execution : ExecutionReplay),
      registryLoop.Reaches (fun before action => callsHandlers before action)
        (RegistrySystem.start defaultSchedulerConfig "operator"
          (fun reading => ⟨reading, reading⟩) fun _ _ => []) system ∧
      execution.before = system.state ∧ execution.script = [] ∧
      ((execution.run.state.collector.entries.get? "k").map fun entry =>
        (entry.consecutiveFailures, entry.expired)) = some (5, false) ∧
      ¬execution.AccountedFor := by
  obtain ⟨system, reached, found⟩ := RegistrySystem.exists_reached callsHandlers
    ([.start (.registerQuery "k" { name := "m" } .data), .begin 0,
        .start (.present none "x" openResource), .begin 1,
        .answer 1 (.discover .refresh 0) (.ok noNodes)] ++
      failedRun 2 ++ failedRun 5 ++ failedRun 8 ++ failedRun 11 ++
      [.start (.tick "k" queryOnX), .begin 14, .start (.delete none "x"), .begin 16])
    (fun system => system.state.getConnection "x" = none ∧
      (registryLoop.replay 15 (Registry.execute "k" "x" .data "q" 10 0) []
        system.state).any fun run =>
          (run.state.collector.entries.get? "k").map (fun entry =>
            (entry.consecutiveFailures, entry.expired)) = some (5, false))
    (by decide +kernel)
  obtain ⟨missing, replays⟩ := of_decide_eq_true found
  obtain ⟨run, ran, marked⟩ := (Option.any_eq_true _ _).mp replays
  let execution : ExecutionReplay := {
    task := 15
    key := "k"
    connRef := "x"
    queryType := .data
    sql := "q"
    timeout := 10
    tickTs := 0
    before := system.state
    script := []
    run := run
    ran := ran }
  exact ⟨system, execution, reached, rfl, rfl, of_decide_eq_true marked,
    ExecutionReplay.not_accountedFor_of_missing missing⟩

end Promch
