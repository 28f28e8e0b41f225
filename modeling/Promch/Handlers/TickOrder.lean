import Promch.Collector.Collect
import Promch.Handlers.Execute
import Promch.Library.StampedFlag

/-!
# Overlapping executions of one query

Executions of a query overlap and complete in any order.  A success is stored
only if no newer tick has been stored, a failure always takes the entry down.
The health of the entry is a stamped flag, so that the newest tick decides it
exactly in the orders that respect the newest success.
-/

namespace Promch

/-- A completed execution: its tick, its outcome and the time of completion. -/
structure Execution where
  tickTs : Time
  outcome : ExecutionOutcome
  now : Time

namespace Execution

/-- The execution ends in a success. -/
def succeeded (execution : Execution) : Bool :=
  execution.outcome.isSuccess

/-- What the execution reports to the collector. -/
def op (execution : Execution) (key : String) : HandlerOp :=
  execution.outcome.op key execution.tickTs execution.now

/-- The execution as a report on the health of the query. -/
def report (execution : Execution) : StampedReport Time where
  stamp := execution.tickTs
  good := execution.succeeded

end Execution

/-- The health of an entry with the tick of its rows. -/
def CachedMetric.health (entry : CachedMetric) : StampedFlag Time where
  stamp := entry.tickTs
  flag := entry.up

/-- The collector after executions of one query, in order of completion. -/
def complete
    (config : OperatorConfig)
    (collector : Collector)
    (key : String)
    (order : List Execution) : Collector :=
  runOps config collector (order.map fun execution => execution.op key)

/-- The scrape has a health sample for the key, and every one has the value. -/
def Collector.ExportsUp (collector : Collector) (key : String) (value : PyFloat) : Prop :=
  let samples := (upFamily collector.metricPrefix collector.reads).samples
  (∃ sample ∈ samples, sample.labels.get? "query_key" = some key) ∧
    ∀ sample ∈ samples, sample.labels.get? "query_key" = some key → sample.value = value

/-- After the last completion the execution with the newest tick decides the
health of the entry and the exported gauge. -/
def NewestTickDecides
    (config : OperatorConfig)
    (collector : Collector)
    (key : String)
    (order : List Execution) : Prop :=
  ∀ newest ∈ order, (∀ other ∈ order, other.tickTs ≤ newest.tickTs) →
    ∃ entry, (complete config collector key order).entries.get? key = some entry ∧
      (entry.up = true ↔ newest.succeeded = true) ∧
      (entry.isInvalid = false →
        (complete config collector key order).ExportsUp key (flagValue newest.succeeded))

/-- A registered query has one health sample. -/
theorem Collector.exportsUp_iff
    {collector : Collector}
    {key : String}
    {entry : CachedMetric}
    (registered : collector.entries.get? key = some entry)
    (value : PyFloat) :
    collector.ExportsUp key value ↔ flagValue (!entry.isInvalid && entry.up) = value := by
  have keyed : ∀ other : String,
      (addMetric ["query_key"] [other] value).labels.get? "query_key" = some other := fun _ => rfl
  have samples : ∀ sample,
      sample ∈ (upFamily collector.metricPrefix collector.reads).samples ↔
        ∃ read ∈ collector.reads, sample =
          addMetric ["query_key"] [read.1] (flagValue (!read.2.isInvalid && read.2.up)) := by
    intro sample
    simp only [upFamily, systemFamily, List.mem_filterMap, Option.map_some, Option.some.injEq,
      eq_comm]
  have own := (samples _).mpr
    ⟨(key, entry), (collector.mem_reads_iff key entry).mpr registered, rfl⟩
  constructor
  · rintro ⟨-, unique⟩
    exact unique _ own rfl
  · rintro rfl
    refine ⟨⟨_, own, rfl⟩, fun sample member sampleKeyed => ?_⟩
    obtain ⟨⟨otherKey, other⟩, otherMember, rfl⟩ := (samples sample).mp member
    obtain rfl : otherKey = key := Option.some.inj sampleKeyed
    rw [collector.mem_reads_iff, registered] at otherMember
    cases otherMember
    rfl

section Completion

variable {collector : Collector} {key : String}

/-- One completion acts on the health of the entry as its report. -/
theorem health_of_op
    (config : OperatorConfig)
    (key : String)
    (execution : Execution)
    (entry : CachedMetric) :
    ∃ changed, (execution.op key).change config entry = some changed ∧
      changed.health = entry.health.observe execution.report := by
  obtain ⟨tickTs, outcome, now⟩ := execution
  cases outcome with
  | success rows durationSeconds failedNodes =>
      refine ⟨_, rfl, ?_⟩
      by_cases stale : tickTs < entry.tickTs
      · simp [CachedMetric.health, StampedFlag.observe, Execution.report, Execution.succeeded,
          ExecutionOutcome.isSuccess, CachedMetric.update, stale]
      · simp [CachedMetric.health, StampedFlag.observe, Execution.report, Execution.succeeded,
          ExecutionOutcome.isSuccess, CachedMetric.update, stale]
  | failure errorType message failedNodes =>
      refine ⟨_, rfl, ?_⟩
      rw [entry.fail_eq config errorType message failedNodes now]
      rfl

/-- The completions act on the health of the entry as their reports. -/
theorem health_complete
    (config : OperatorConfig)
    {entry : CachedMetric}
    (registered : collector.entries.get? key = some entry)
    (order : List Execution) :
    ∃ final, (complete config collector key order).entries.get? key = some final ∧
      final.health = entry.health.observeAll (order.map Execution.report) := by
  induction order generalizing collector entry with
  | nil => exact ⟨entry, registered, rfl⟩
  | cons execution rest inductionHypothesis =>
      obtain ⟨changed, stepped, health⟩ := health_of_op config key execution entry
      have afterFirst :
          ((execution.op key).apply config collector).1.entries.get? key = some changed :=
        (execution.outcome.get?_apply_op config execution.tickTs execution.now registered).trans
          stepped
      obtain ⟨final, finalRegistered, finalHealth⟩ := inductionHypothesis afterFirst
      exact ⟨final, finalRegistered, by rw [finalHealth, health]; rfl⟩

/-- The newest tick decides the health of a query exactly when the newest
success is the newest of all ticks precisely if no failure completes after
it. -/
theorem newestTickDecides_iff_orderRespected
    (config : OperatorConfig)
    (collector : Collector)
    (key : String)
    (entry : CachedMetric)
    (registered : collector.entries.get? key = some entry)
    (order : List Execution)
    (distinct : order.Pairwise fun execution other => execution.tickTs ≠ other.tickTs)
    (current : ∀ execution ∈ order, entry.tickTs ≤ execution.tickTs) :
    NewestTickDecides config collector key order ↔
      StampedFlag.OrderRespected (order.map Execution.report) := by
  obtain ⟨final, finalRegistered, health⟩ := health_complete config registered order
  have reportsDistinct : (order.map Execution.report).Pairwise
      fun report other => report.stamp ≠ other.stamp := List.pairwise_map.mpr distinct
  have reportsCurrent : ∀ report ∈ order.map Execution.report,
      entry.health.stamp ≤ report.stamp := by
    intro report member
    obtain ⟨execution, present, rfl⟩ := List.mem_map.mp member
    exact current execution present
  rw [← StampedFlag.followsNewest_iff_orderRespected reportsDistinct reportsCurrent]
  simp only [StampedFlag.FollowsNewest, List.forall_mem_map, ← health]
  constructor
  · intro decides newest member isNewest
    obtain ⟨other, otherRegistered, up, -⟩ := decides newest member isNewest
    obtain rfl := Option.some.inj (finalRegistered.symm.trans otherRegistered)
    exact up
  · intro follows newest member isNewest
    have up : final.up = true ↔ newest.succeeded = true := follows newest member isNewest
    refine ⟨final, finalRegistered, up, fun valid => ?_⟩
    rw [Collector.exportsUp_iff finalRegistered, valid, Bool.not_false, Bool.true_and,
      Bool.eq_iff_iff.mpr up]

end Completion

/-- A collector with one freshly registered query. -/
def freshQuery : Collector :=
  register defaultConfig (startCollector defaultConfig) "ns/q" { name := "hits" } .data

/-- A success of the given tick without rows. -/
def successAt (tickTs : Time) : Execution where
  tickTs := tickTs
  outcome := .success [] 1 none
  now := 3

/-- A failure of the given tick. -/
def failureAt (tickTs : Time) : Execution where
  tickTs := tickTs
  outcome := .failure .queryError "boom" none
  now := 4

/-- Two successes may complete in either order. -/
theorem newestTickDecides_of_successes :
    NewestTickDecides defaultConfig freshQuery "ns/q" [successAt 2, successAt 1] := by
  refine (newestTickDecides_iff_orderRespected defaultConfig freshQuery "ns/q" _ rfl _
    (by decide) (by decide)).mpr ?_
  intro earlier success later split good newestGood
  have allGood : ∀ report ∈ [successAt 2, successAt 1].map Execution.report,
      report.good = true := by decide
  refine iff_of_true (fun other member => newestGood other member (allGood other member)) ?_
  exact fun other member => allGood other (by rw [split]; simp [member])

/-- The older run fails after the newer one has succeeded, and the query is
down. -/
theorem not_newestTickDecides_of_late_failure :
    ((complete defaultConfig freshQuery "ns/q" [successAt 2, failureAt 1]).entries.get? "ns/q").map
        CachedMetric.up = some false ∧
      ¬NewestTickDecides defaultConfig freshQuery "ns/q" [successAt 2, failureAt 1] := by
  have down : ((complete defaultConfig freshQuery "ns/q" [successAt 2, failureAt 1]).entries.get?
      "ns/q").map CachedMetric.up = some false := by decide
  refine ⟨down, fun decides => ?_⟩
  obtain ⟨entry, registered, up, -⟩ := decides (successAt 2) (by simp) (by decide)
  rw [registered, Option.map_some, Option.some.injEq] at down
  simp [down, Execution.succeeded, ExecutionOutcome.isSuccess, successAt] at up

end Promch
