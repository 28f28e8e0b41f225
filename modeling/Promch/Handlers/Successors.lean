import Promch.Handlers.DataReports
import Promch.Handlers.Scheduler

/-!
# The entry of a recreated resource

A detached execution finds its entry by key when it ends.  An execution of a
removed resource therefore reports to the entry of a resource that was created
under the same key in the meantime.
-/

namespace Promch

/-- The two entries agree on the state that executions write. -/
structure CachedMetric.SameState (entry other : CachedMetric) : Prop where
  rows : other.rows = entry.rows
  tickTs : other.tickTs = entry.tickTs
  up : other.up = entry.up
  consecutiveFailures : other.consecutiveFailures = entry.consecutiveFailures
  lastError : other.lastError = entry.lastError
  failedNodes : other.failedNodes = entry.failedNodes
  inflight : other.inflight = entry.inflight

/-- A success of the tick would store what the entry holds already. -/
structure CachedMetric.HoldsAlready
    (entry : CachedMetric)
    (rows : List QueryResult)
    (tickTs : Time)
    (failedNodes : Option (List String)) : Prop where
  rows : entry.rows = some rows
  tickTs : entry.tickTs = tickTs
  up : entry.up = true
  consecutiveFailures : entry.consecutiveFailures = 0
  failedNodes : entry.failedNodes = failedNodes.getD []

/-- The execution that a step goes on with or forgets. -/
def OperatorStep.execution : OperatorStep → Option Nat
  | .execute id _ _ _ => some id
  | .doneCallback id => some id
  | _ => none

/-- An execution of a removed resource meets an entry under its key: after the
steps it is the turn of an execution of the key that was launched before a
removal of the key. -/
structure MeetsSuccessor
    (config : SchedulerConfig)
    (key : String)
    (steps : List OperatorStep)
    (step : OperatorStep)
    (task : Task)
    (entry : CachedMetric) : Prop where
  launchedBefore : ∃ id, step.execution = some id ∧
    ((startOperator config).run config steps).pending.get? id = some task ∧
      ∃ before after, steps = before ++ .deregister key :: after ∧
        id < ((startOperator config).run config before).launched
  ofKey : task.key = key
  registered : ((startOperator config).run config steps).collector.entries.get? key = some entry

/-- No execution of a removed resource changes the entry of its successor. -/
def SuccessorsUntouched
    (config : SchedulerConfig)
    (key : String)
    (steps : List OperatorStep) : Prop :=
  ∀ first step rest, steps = first ++ step :: rest → ∀ task entry,
    MeetsSuccessor config key first step task entry →
      ∃ after, ((startOperator config).run config (first ++ [step])).collector.entries.get? key =
          some after ∧
        entry.SameState after

/-- The turn of the execution does not end it, or it ends in a success of a tick
older than that of the entry, or of exactly what the entry holds; a callback
finds no execution counted. -/
def EndsHarmlessly
    (config : SchedulerConfig)
    (task : Task)
    (entry : CachedMetric) : OperatorStep → Prop
  | .execute _ connection encounter _ =>
      task.reported = true ∨
        match execute config.toOperatorConfig task.connRef task.queryType connection
            encounter with
        | none => True
        | some (.reported (.success rows _ failedNodes)) =>
            task.tickTs < entry.tickTs ∨ entry.HoldsAlready rows task.tickTs failedNodes
        | some (.reported (.failure _ _ _)) => False
        | some (.connectionGone _) => False
  | .doneCallback _ => entry.inflight = 0
  | _ => True

namespace CachedMetric

theorem sameState_refl (entry : CachedMetric) : entry.SameState entry :=
  ⟨rfl, rfl, rfl, rfl, rfl, rfl, rfl⟩

/-- A success keeps the state exactly when it is stale or holds already. -/
theorem sameState_update_iff
    (entry : CachedMetric)
    (rows : List QueryResult)
    (durationSeconds tickTs : Time)
    (failedNodes : Option (List String))
    (now : Time) :
    entry.SameState (entry.update rows durationSeconds tickTs failedNodes now).1 ↔
      tickTs < entry.tickTs ∨ entry.HoldsAlready rows tickTs failedNodes := by
  obtain stale | current := lt_or_ge tickTs entry.tickTs
  · rw [entry.update_of_stale rows durationSeconds failedNodes now stale]
    exact iff_of_true entry.sameState_refl (.inl stale)
  · rw [entry.update_of_current rows durationSeconds failedNodes now current]
    constructor
    · intro same
      exact .inr ⟨same.rows.symm, same.tickTs.symm, same.up.symm,
        same.consecutiveFailures.symm, same.failedNodes.symm⟩
    · rintro (stale | holds)
      · exact absurd stale (not_lt.mpr current)
      · exact ⟨holds.rows.symm, holds.tickTs.symm, holds.up.symm,
          holds.consecutiveFailures.symm, rfl, holds.failedNodes.symm, rfl⟩

/-- A failure never keeps the state. -/
theorem not_sameState_markFailure
    (entry : CachedMetric)
    (errorType : ErrorType)
    (message : String)
    (failedNodes : Option (List String))
    (now : Time) :
    ¬entry.SameState (entry.markFailure errorType message failedNodes now) := fun same =>
  absurd same.consecutiveFailures (Nat.succ_ne_self entry.consecutiveFailures)

theorem not_sameState_fail
    (entry : CachedMetric)
    (config : OperatorConfig)
    (errorType : ErrorType)
    (message : String)
    (failedNodes : Option (List String))
    (now : Time) :
    ¬entry.SameState (entry.fail config errorType message failedNodes now) := by
  intro same
  have counted := same.consecutiveFailures
  rw [entry.fail_eq config errorType message failedNodes now] at counted
  exact absurd counted (Nat.succ_ne_self entry.consecutiveFailures)

/-- A done-callback keeps the state exactly when nothing is counted. -/
theorem sameState_decInflight_iff (entry : CachedMetric) :
    entry.SameState entry.decInflight ↔ entry.inflight = 0 := by
  constructor
  · intro same
    have counted : entry.inflight - 1 = entry.inflight := same.inflight
    omega
  · intro none
    exact ⟨rfl, rfl, rfl, rfl, rfl, rfl, by rw [decInflight, none]⟩

end CachedMetric

section Step

variable {config : SchedulerConfig} {operator : Operator} {task : Task} {entry : CachedMetric}

/-- The turn of a pending execution keeps the state of the entry of its key
exactly when it ends harmlessly. -/
theorem sameState_step_iff
    {step : OperatorStep}
    {id : Nat}
    (isTurn : step.execution = some id)
    (pending : operator.pending.get? id = some task)
    (registered : operator.collector.entries.get? task.key = some entry) :
    (∃ after, (operator.step config step).collector.entries.get? task.key = some after ∧
        entry.SameState after) ↔
      EndsHarmlessly config task entry step := by
  cases step with
  | execute other connection encounter now =>
      cases isTurn
      rw [Operator.step, operator.collector_execute_of_pending config pending, EndsHarmlessly]
      cases task.reported with
      | true => simp [registered, entry.sameState_refl]
      | false =>
          cases execute config.toOperatorConfig task.connRef task.queryType connection
              encounter with
          | none => simp [registered, entry.sameState_refl]
          | some ended =>
              simp only [Bool.false_eq_true, if_false, false_or, ExecutionEnd.get?_apply,
                if_true, registered, Option.map_some, Option.some.injEq, exists_eq_left']
              cases ended with
              | connectionGone message =>
                  exact iff_of_false (entry.not_sameState_markFailure _ _ _ _) not_false
              | reported outcome =>
                  cases outcome with
                  | success rows durationSeconds failedNodes =>
                      exact entry.sameState_update_iff rows durationSeconds task.tickTs
                        failedNodes now
                  | failure errorType message failedNodes =>
                      exact iff_of_false (entry.not_sameState_fail _ _ _ _ _) not_false
  | doneCallback other =>
      cases isTurn
      rw [Operator.step, operator.collector_doneCallback, pending, EndsHarmlessly]
      simpa [Collector.decInflight, registered] using entry.sameState_decInflight_iff
  | register | deregister | tick | connectionPresent | connectionReady | connectionGone =>
      cases isTurn

end Step

/-- In a run the entries of recreated resources are left alone exactly when every
execution of a removed resource that meets such an entry ends harmlessly. -/
theorem successorsUntouched_iff
    (config : SchedulerConfig)
    (key : String)
    (steps : List OperatorStep) :
    SuccessorsUntouched config key steps ↔
      ∀ first step rest, steps = first ++ step :: rest → ∀ task entry,
        MeetsSuccessor config key first step task entry →
          EndsHarmlessly config task entry step := by
  have turn : ∀ first step task entry, MeetsSuccessor config key first step task entry →
      ((∃ after,
          ((startOperator config).run config (first ++ [step])).collector.entries.get? key =
            some after ∧ entry.SameState after) ↔
        EndsHarmlessly config task entry step) := by
    rintro first step task entry ⟨⟨id, isTurn, pending, -⟩, rfl, registered⟩
    rw [Operator.run_append_singleton]
    exact sameState_step_iff isTurn pending registered
  constructor
  · intro untouched first step rest split task entry meets
    exact (turn first step task entry meets).mp (untouched first step rest split task entry meets)
  · intro harmless first step rest split task entry meets
    exact (turn first step task entry meets).mpr (harmless first step rest split task entry meets)

/-- A query is removed while its execution runs and is created again, and then
the execution ends with one row. -/
def recreation : List OperatorStep :=
  [.register "ns/q" { name := "hits" } .data, .connectionPresent "c", .connectionReady "c",
    .tick "ns/q" { connectionRef := "c" } 1 1, .deregister "ns/q",
    .register "ns/q" { name := "misses" } .data]

/-- The row that the late execution answers. -/
def lateAnswer : OperatorStep :=
  .execute 0 (some oneLiveNode)
    (oneAttempt (.answered [Dict.ofList [("value", .str "7")]])) 9

/-- The late execution gives its row to the new resource. -/
theorem not_successorsUntouched_of_recreation :
    ¬SuccessorsUntouched defaultSchedulerConfig "ns/q" (recreation ++ [lateAnswer]) := by
  intro untouched
  obtain ⟨after, registered, same⟩ := untouched recreation lateAnswer [] rfl
    { key := "ns/q", connRef := "c", queryType := .data, tickTs := 1 }
    { name := "clickhouse_misses", help := "", labels := Dict.empty }
    { launchedBefore := ⟨0, rfl, rfl, recreation.take 4, recreation.drop 5, rfl, by decide⟩
      ofKey := rfl
      registered := rfl }
  have hasRows : ((((startOperator defaultSchedulerConfig).run defaultSchedulerConfig
      (recreation ++ [lateAnswer])).collector.entries.get? "ns/q").map
        fun entry => entry.rows.isSome) = some true := by decide
  rw [registered, Option.map_some, same.rows] at hasRows
  cases hasRows

end Promch
