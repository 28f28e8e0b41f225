import Promch.Clickhouse.Types

/-!
# The metrics cache

One entry per registered query resource holds the last good rows and the
runtime state that the status is derived from.  Every operation looks its entry
up and changes it under a lock, so it is one atomic step; an operation on a key
that is not registered does nothing.
-/

namespace Promch

/-- One row of a successful query execution, one time series. -/
structure QueryResult where
  value : PyFloat
  dynamicLabels : Dict String String

/-- The error types that the handlers record. -/
inductive ErrorType
  | connectionNotReady
  | nodesUnreachable
  | noLiveNodes
  | queryError
  | invalidResult
  deriving DecidableEq

/-- The text under which an error type is reported. -/
def ErrorType.text : ErrorType → String
  | .connectionNotReady => "ConnectionNotReady"
  | .nodesUnreachable => "NodesUnreachable"
  | .noLiveNodes => "NoLiveNodes"
  | .queryError => "QueryError"
  | .invalidResult => "InvalidResult"

/-- The detail of a recorded failure. -/
structure LastError where
  type : ErrorType
  message : String
  timestamp : Time
  deriving DecidableEq

/-- The last known good rows and the runtime state of one query resource. -/
structure CachedMetric where
  name : String
  help : String
  /-- Static labels from the resource, merged into every row. -/
  labels : Dict String String
  /-- `none` until the first success. -/
  rows : Option (List QueryResult) := none
  lastSuccessTs : Option Time := none
  lastDurationSeconds : Option Time := none
  up : Bool := false
  expired : Bool := false
  consecutiveFailures : Nat := 0
  lastError : Option LastError := none
  inflight : Nat := 0
  skippedTotal : Nat := 0
  lastSkipTs : Option Time := none
  /-- The hosts that did not respond in the last run. -/
  failedNodes : List String := []
  waitingReason : Option String := none
  /-- Set while the resource is misconfigured. -/
  invalidReason : Option String := none
  /-- The tick that produced the current rows. -/
  tickTs : Time := 0

namespace CachedMetric

/-- A live edit of the resource; runtime state is kept. -/
def edit
    (entry : CachedMetric)
    (name help : String)
    (labels : Dict String String)
    (invalidReason : Option String) : CachedMetric :=
  { entry with
    name := name
    help := help
    labels := labels
    invalidReason := invalidReason }

/-- Store the rows of a success.  The result of an older tick is discarded; the
flag says that the query became healthy. -/
def update
    (entry : CachedMetric)
    (rows : List QueryResult)
    (durationSeconds tickTs : Time)
    (failedNodes : Option (List String))
    (now : Time) : CachedMetric × Bool :=
  if tickTs < entry.tickTs then (entry, false)
  else
    ({ entry with
        tickTs := tickTs
        rows := some rows
        lastSuccessTs := some now
        lastDurationSeconds := some durationSeconds
        up := true
        expired := false
        consecutiveFailures := 0
        failedNodes := failedNodes.getD []
        waitingReason := none },
      !entry.up)

/-- Count a failure and keep its detail; the node list changes only if one is
given. -/
def markFailure
    (entry : CachedMetric)
    (errorType : ErrorType)
    (message : String)
    (failedNodes : Option (List String))
    (now : Time) : CachedMetric :=
  { entry with
    up := false
    consecutiveFailures := entry.consecutiveFailures + 1
    lastError := some { type := errorType, message := message, timestamp := now }
    waitingReason := none
    failedNodes := failedNodes.getD entry.failedNodes }

/-- The query is intentionally not running yet. -/
def markWaiting (entry : CachedMetric) (reason : String) : CachedMetric :=
  { entry with waitingReason := some reason }

/-- Too many failures: the user metrics are removed from the output. -/
def expire (entry : CachedMetric) : CachedMetric :=
  { entry with expired := true, up := false }

def incInflight (entry : CachedMetric) : CachedMetric :=
  { entry with inflight := entry.inflight + 1 }

/-- One execution ended; the count does not fall below zero. -/
def decInflight (entry : CachedMetric) : CachedMetric :=
  { entry with inflight := entry.inflight - 1 }

/-- A tick was skipped because too many executions are in flight. -/
def recordSkip (entry : CachedMetric) (now : Time) : CachedMetric :=
  { entry with
    skippedTotal := entry.skippedTotal + 1
    lastSkipTs := some now }

/-- A misconfigured entry emits nothing but a zero health gauge. -/
def isInvalid (entry : CachedMetric) : Bool :=
  PyText.truthy entry.invalidReason

end CachedMetric

/-- The collector: the entries of the registered resources and the namespace of
its own system metrics. -/
structure Collector where
  entries : Dict String CachedMetric := Dict.empty
  metricPrefix : String

/-- A consistent read of one entry for the status reflector. -/
structure Snapshot where
  up : Bool
  expired : Bool
  consecutiveFailures : Nat
  lastError : Option LastError
  lastSuccessTs : Option Time
  rowCount : Nat
  duration : Option Time
  skippedTotal : Nat
  lastSkipTs : Option Time
  failedNodes : List String
  waitingReason : Option String
  invalidReason : Option String

/-- The state that one entry shows to the status reflector. -/
def CachedMetric.snapshot (entry : CachedMetric) : Snapshot where
  up := entry.up
  expired := entry.expired
  consecutiveFailures := entry.consecutiveFailures
  lastError := entry.lastError
  lastSuccessTs := entry.lastSuccessTs
  rowCount := (entry.rows.map List.length).getD 0
  duration := entry.lastDurationSeconds
  skippedTotal := entry.skippedTotal
  lastSkipTs := entry.lastSkipTs
  failedNodes := entry.failedNodes
  waitingReason := entry.waitingReason
  invalidReason := entry.invalidReason

namespace Collector

/-- The text without its trailing underscores. -/
def rstripUnderscore (text : String) : String :=
  String.ofList (text.toList.reverse.dropWhile (· = '_')).reverse

/-- A collector without entries; a trailing underscore of the prefix is
ignored. -/
def create (metricPrefix : String) : Collector where
  metricPrefix := rstripUnderscore metricPrefix

/-- Change the entry of a registered key. -/
def modifyEntry
    (collector : Collector)
    (key : String)
    (change : CachedMetric → CachedMetric) : Collector :=
  { collector with entries := collector.entries.modify key change }

/-- Add a resource, or refresh its identity in place. -/
def register
    (collector : Collector)
    (key name help : String)
    (labels : Dict String String)
    (invalidReason : Option String) : Collector :=
  match collector.entries.get? key with
  | none =>
      { collector with
        entries := collector.entries.set key
          { name := name, help := help, labels := labels,
            invalidReason := invalidReason } }
  | some entry =>
      { collector with
        entries := collector.entries.set key
          (entry.edit name help labels invalidReason) }

/-- Remove a resource. -/
def unregister (collector : Collector) (key : String) : Collector :=
  { collector with entries := collector.entries.erase key }

/-- Store successful query results; a deleted resource is left alone. -/
def update
    (collector : Collector)
    (key : String)
    (rows : List QueryResult)
    (durationSeconds tickTs : Time)
    (failedNodes : Option (List String))
    (now : Time) : Collector × Bool :=
  match collector.entries.get? key with
  | none => (collector, false)
  | some entry =>
      let (changed, recovered) :=
        entry.update rows durationSeconds tickTs failedNodes now
      ({ collector with entries := collector.entries.set key changed }, recovered)

/-- Record a failure. -/
def markFailure
    (collector : Collector)
    (key : String)
    (errorType : ErrorType)
    (message : String)
    (failedNodes : Option (List String))
    (now : Time) : Collector :=
  collector.modifyEntry key fun entry =>
    entry.markFailure errorType message failedNodes now

/-- Mark the query as waiting. -/
def markWaiting (collector : Collector) (key reason : String) : Collector :=
  collector.modifyEntry key fun entry => entry.markWaiting reason

/-- Mark a query as expired. -/
def expire (collector : Collector) (key : String) : Collector :=
  collector.modifyEntry key CachedMetric.expire

def incInflight (collector : Collector) (key : String) : Collector :=
  collector.modifyEntry key CachedMetric.incInflight

def decInflight (collector : Collector) (key : String) : Collector :=
  collector.modifyEntry key CachedMetric.decInflight

/-- The number of executions in flight. -/
def inflight (collector : Collector) (key : String) : Nat :=
  ((collector.entries.get? key).map CachedMetric.inflight).getD 0

/-- Why the resource is misconfigured, if it is. -/
def invalidReason (collector : Collector) (key : String) : Option String :=
  (collector.entries.get? key).bind CachedMetric.invalidReason

/-- Record a skipped tick. -/
def recordSkip (collector : Collector) (key : String) (now : Time) : Collector :=
  collector.modifyEntry key fun entry => entry.recordSkip now

/-- The state of one entry, if the key is registered. -/
def snapshot (collector : Collector) (key : String) : Option Snapshot :=
  (collector.entries.get? key).map CachedMetric.snapshot

end Collector

/-! ## One entry under the operations -/

namespace CachedMetric

variable (entry : CachedMetric)

/-- An older tick leaves the entry as it is. -/
theorem update_of_stale
    {tickTs : Time}
    (rows : List QueryResult)
    (durationSeconds : Time)
    (failedNodes : Option (List String))
    (now : Time)
    (stale : tickTs < entry.tickTs) :
    entry.update rows durationSeconds tickTs failedNodes now = (entry, false) := by
  rw [update, if_pos stale]

/-- A current tick is stored and clears the failure state. -/
theorem update_of_current
    {tickTs : Time}
    (rows : List QueryResult)
    (durationSeconds : Time)
    (failedNodes : Option (List String))
    (now : Time)
    (current : entry.tickTs ≤ tickTs) :
    entry.update rows durationSeconds tickTs failedNodes now =
      ({ entry with
          tickTs := tickTs
          rows := some rows
          lastSuccessTs := some now
          lastDurationSeconds := some durationSeconds
          up := true
          expired := false
          consecutiveFailures := 0
          failedNodes := failedNodes.getD []
          waitingReason := none },
        !entry.up) := by
  rw [update, if_neg (not_lt.mpr current)]

end CachedMetric

namespace Collector

variable (collector : Collector)

@[simp] theorem get?_modifyEntry
    (key other : String)
    (change : CachedMetric → CachedMetric) :
    (collector.modifyEntry key change).entries.get? other =
      if other = key then (collector.entries.get? key).map change
      else collector.entries.get? other :=
  Dict.get?_modify collector.entries key other change

/-- Registration changes the identity of a known key and creates an unknown
one. -/
theorem get?_register
    (key other name help : String)
    (labels : Dict String String)
    (invalidReason : Option String) :
    (collector.register key name help labels invalidReason).entries.get? other =
      if other = key then
        some (((collector.entries.get? key).map fun entry =>
          entry.edit name help labels invalidReason).getD
            { name := name, help := help, labels := labels,
              invalidReason := invalidReason })
      else collector.entries.get? other := by
  unfold register
  cases stored : collector.entries.get? key with
  | none => simp [Dict.get?_set]
  | some entry => simp [Dict.get?_set]

@[simp] theorem get?_unregister (key other : String) :
    (collector.unregister key).entries.get? other =
      if other = key then none else collector.entries.get? other :=
  Dict.get?_erase collector.entries key other

/-- An update changes only the entry of its key. -/
theorem get?_update
    (key other : String)
    (rows : List QueryResult)
    (durationSeconds tickTs : Time)
    (failedNodes : Option (List String))
    (now : Time) :
    (collector.update key rows durationSeconds tickTs failedNodes now).1.entries.get? other =
      if other = key then
        (collector.entries.get? key).map fun entry =>
          (entry.update rows durationSeconds tickTs failedNodes now).1
      else collector.entries.get? other := by
  unfold update
  cases stored : collector.entries.get? key with
  | none =>
      by_cases same : other = key
      · simp [same, stored]
      · simp [same]
  | some entry => simp [Dict.get?_set]

/-- The value of an update is that of its entry; without one it is false. -/
theorem snd_update
    (key : String)
    (rows : List QueryResult)
    (durationSeconds tickTs : Time)
    (failedNodes : Option (List String))
    (now : Time) :
    (collector.update key rows durationSeconds tickTs failedNodes now).2 =
      ((collector.entries.get? key).map fun entry =>
        (entry.update rows durationSeconds tickTs failedNodes now).2).getD false := by
  unfold update
  cases collector.entries.get? key <;> rfl

/-- A stale result leaves the collector as it is. -/
theorem update_of_stale
    {collector : Collector}
    {key : String}
    {entry : CachedMetric}
    {tickTs : Time}
    (rows : List QueryResult)
    (durationSeconds : Time)
    (failedNodes : Option (List String))
    (now : Time)
    (registered : collector.entries.get? key = some entry)
    (stale : tickTs < entry.tickTs) :
    collector.update key rows durationSeconds tickTs failedNodes now = (collector, false) := by
  simp only [update, registered, entry.update_of_stale rows durationSeconds failedNodes now stale,
    Dict.set_of_get?_eq registered]

/-- A registered key shows the snapshot of its entry. -/
theorem snapshot_of_registered
    {collector : Collector}
    {key : String}
    {entry : CachedMetric}
    (registered : collector.entries.get? key = some entry) :
    collector.snapshot key = some entry.snapshot := by
  rw [snapshot, registered, Option.map_some]

end Collector

end Promch
