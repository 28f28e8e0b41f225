import Mathlib.Data.List.Sort
import Promch.Config
import Promch.Library.Grouping

/-!
# Metric identity, row mapping and status derivation

The pure helpers of the query path: the final name and labels of a metric, the
rows of a result with the value contract enforced, and the resource status that
a collector snapshot shows.
-/

namespace Promch

/-! ## Metric identity -/

/-- What happens to a name that already starts with the prefix. -/
inductive PrefixPolicy
  | skip
  | append
  | fail
  deriving DecidableEq

/-- How a query is run. -/
inductive QueryType
  | data
  | system
  deriving DecidableEq

/-- The metric part of a query resource. -/
structure MetricSpec where
  name : String
  help : String := ""
  labels : Dict String String := Dict.empty
  prefixPolicy : PrefixPolicy := .fail

/-- Final metric identity after prefixing and static-label validation. -/
structure ResolvedMetric where
  name : String
  help : String
  labels : Dict String String
  invalidReason : Option String

/-- The message of the `fail` policy. -/
def prefixCollision (name metricPrefix : String) : String :=
  "metric name " ++ PyText.quoted name ++ " already starts with the configured prefix " ++
    PyText.quoted metricPrefix ++
    "; set spec.metric.prefixPolicy to 'skip' to keep the name or 'append' to add it anyway"

/-- Namespace a metric name under the prefix. -/
def applyPrefix
    (name metricPrefix : String)
    (policy : PrefixPolicy) : Except Raised String :=
  if metricPrefix = "" then .ok name
  else if PyText.startsWith name (metricPrefix ++ "_") then
    match policy with
    | .skip => .ok name
    | .append => .ok (metricPrefix ++ "_" ++ name)
    | .fail => .error (.valueError (prefixCollision name metricPrefix))
  else .ok (metricPrefix ++ "_" ++ name)

/-- Labels the exporter injects and users must not define themselves. -/
def reservedLabelNames (nodeLabel : String) (queryType : QueryType) : List String :=
  match queryType with
  | .data => ["query_key"]
  | .system => ["query_key", nodeLabel]

/-- The reserved names among the labels, in order. -/
def labelClashes
    (labels : Dict String String)
    (nodeLabel : String)
    (queryType : QueryType) : List String :=
  sortedSet (labels.keys.filter (· ∈ reservedLabelNames nodeLabel queryType))

/-- Compute the final metric identity, or mark it invalid with a reason. -/
def resolveMetric
    (spec : MetricSpec)
    (queryType : QueryType)
    (metricPrefix nodeLabel : String) : ResolvedMetric :=
  let clashes := labelClashes spec.labels nodeLabel queryType
  if clashes ≠ [] then
    { name := spec.name
      help := spec.help
      labels := spec.labels
      invalidReason := some
        ("metric.labels use reserved label name(s) " ++ PyText.quotedList clashes ++
          "; these are added by the exporter and must not be set") }
  else
    match applyPrefix spec.name metricPrefix spec.prefixPolicy with
    | .ok finalName =>
        { name := finalName
          help := spec.help
          labels := spec.labels
          invalidReason := none }
    | .error raised =>
        { name := spec.name
          help := spec.help
          labels := spec.labels
          invalidReason := some raised.message }

/-! ## Rows -/

/-- Map one raw row; every row must have a numeric `value`, and all other
columns become labels. -/
def buildRow (raw : Row) : Except Raised QueryResult :=
  if "query_key" ∈ raw.keys then
    .error (.valueError
      ("query result uses reserved column 'query_key' " ++
        "(added by the exporter to identify the resource)"))
  else
    match raw.get? "value" with
    | none =>
        .error (.valueError
          ("query result row missing 'value' column: " ++ PyText.quotedList raw.keys))
    | some cell =>
        match cell.float with
        | .ok value =>
            .ok { value := value
                  dynamicLabels := (raw.erase "value").mapValues Cell.toText }
        | .error .notNumeric =>
            .error (.valueError ("'value' is not numeric: " ++ cell.toRepr))
        | .error (.raised message) => .error (.exception message)

/-- Map raw query rows; the first bad row rejects the result. -/
def buildRows : List Row → Except Raised (List QueryResult)
  | [] => .ok []
  | raw :: rest =>
      match buildRow raw with
      | .error raised => .error raised
      | .ok row => (buildRows rest).map (row :: ·)

/-! ## Status -/

inductive Phase
  | pending
  | healthy
  | degraded
  | failing
  | expired
  | invalid
  deriving DecidableEq

inductive ConditionType
  | valid
  | querySucceeded
  | keepingUp
  | ready
  | allNodesResponding
  deriving DecidableEq

/-- A status condition; the status value is `True` or `False`. -/
structure Condition where
  type : ConditionType
  status : Bool
  lastTransitionTime : Time
  reason : String
  message : String
  deriving DecidableEq

/-- The last success as the status shows it. -/
structure LastSuccess where
  timestamp : Time
  rowCount : Nat
  durationMs : Int
  deriving DecidableEq

/-- A status patch or a stored status: every key may be absent.  A present
`lastError` may be null. -/
structure Status where
  phase : Option Phase := none
  invalidReason : Option String := none
  consecutiveFailures : Option Nat := none
  skippedTicks : Option Nat := none
  lastSuccess : Option LastSuccess := none
  lastError : Option (Option LastError) := none
  failedNodes : Option (List String) := none
  conditions : Option (List Condition) := none

/-- The status of a new resource. -/
def Status.empty : Status := {}

/-- The clock readings of one status derivation, in order. -/
structure StatusClock where
  freshError : Time
  querySucceeded : Time
  keepingUp : Time
  ready : Time
  allNodesResponding : Time
  valid : Time

/-- The readings of a derivation that takes no time. -/
def StatusClock.still (now : Time) : StatusClock where
  freshError := now
  querySucceeded := now
  keepingUp := now
  ready := now
  allNodesResponding := now
  valid := now

/-- Errors meaning that the cluster or the connection is not ready yet, as
opposed to a broken query. -/
def ErrorType.isAvailability : ErrorType → Bool
  | .noLiveNodes => true
  | .connectionNotReady => true
  | .nodesUnreachable => true
  | .queryError => false
  | .invalidResult => false

/-- The error while it is younger than the time to live. -/
def freshError
    (lastError : Option LastError)
    (ttlSeconds now : Time) : Option LastError :=
  lastError.filter fun error => now - error.timestamp < ttlSeconds

/-- Write one condition.  The transition time changes only when the status
value flips. -/
def setCondition
    (out current : Status)
    (type : ConditionType)
    (status : Bool)
    (reason message : String)
    (now : Time) : Status :=
  let present := match out.conditions with
    | none | some [] => current.conditions.getD []
    | some conditions => conditions
  let byType := Dict.ofList (present.map fun condition => (condition.type, condition))
  let transition := match byType.get? type with
    | some prev => if prev.status = status then prev.lastTransitionTime else now
    | none => now
  { out with
    conditions := some (byType.set type
      { type := type
        status := status
        lastTransitionTime := transition
        reason := reason
        message := message }).values }

/-- Newest transition first. -/
def sortConditions (status : Status) : Status :=
  { status with
    conditions := status.conditions.map fun conditions =>
      conditions.insertionSort fun condition other =>
        other.lastTransitionTime ≤ condition.lastTransitionTime }

/-- The phase of a valid query. -/
def derivePhase (snap : Snapshot) : Phase :=
  if snap.expired then .expired
  else if snap.up then
    if snap.failedNodes = [] then .healthy else .degraded
  else if PyText.truthy snap.waitingReason then .pending
  else
    match snap.lastError with
    | some error =>
        if error.type.isAvailability && snap.lastSuccessTs.isNone then .pending
        else .failing
    | none => .pending

/-- A skip at or after the last success means that the query is behind. -/
def isBehind (snap : Snapshot) : Bool :=
  match snap.lastSkipTs, snap.lastSuccessTs with
  | none, _ => false
  | some _, none => true
  | some skip, some success => success ≤ skip

/-- The status of a misconfigured query. -/
def invalidStatus (reason : String) (current : Status) (clock : StatusClock) : Status :=
  sortConditions (setCondition
    { phase := some .invalid, invalidReason := some reason }
    current .valid false "InvalidConfiguration" reason clock.valid)

/-- The status of a valid query, without its conditions. -/
def runtimeStatus (snap : Snapshot) (config : OperatorConfig) (clock : StatusClock) : Status where
  phase := some (derivePhase snap)
  consecutiveFailures := some snap.consecutiveFailures
  skippedTicks := some snap.skippedTotal
  lastSuccess := snap.lastSuccessTs.map fun timestamp =>
    { timestamp := timestamp
      rowCount := snap.rowCount
      durationMs := PyFloat.truncate (PyFloat.nearest (snap.duration.getD 0 * 1000)) }
  lastError := some (freshError snap.lastError config.lastErrorTtlSeconds clock.freshError)
  failedNodes := some snap.failedNodes

/-- Build the status patch from a collector snapshot. -/
def deriveStatus
    (snap : Option Snapshot)
    (current : Status)
    (config : OperatorConfig)
    (clock : StatusClock) : Status :=
  match snap with
  | none => { phase := some .pending }
  | some snap =>
      if PyText.truthy snap.invalidReason then
        invalidStatus (snap.invalidReason.getD "") current clock
      else
        let waiting := PyText.truthy snap.waitingReason
        let out := setCondition (runtimeStatus snap config clock) current .querySucceeded
          snap.up
          (if snap.up then "QueryOK"
            else (snap.lastError.map fun error => error.type.text).getD "Unknown")
          (if snap.up then "Last query succeeded"
            else (snap.lastError.map LastError.message).getD "")
          clock.querySucceeded
        let out := setCondition out current .keepingUp
          (!isBehind snap)
          (if isBehind snap then "MaxConcurrentReached" else "OnSchedule")
          (if isBehind snap then
            "Query runs longer than interval x maxConcurrent; ticks skipped"
            else "Keeping up")
          clock.keepingUp
        let out := setCondition out current .ready
          (!waiting)
          (if waiting then "WaitingForConnection" else "Ready")
          (if waiting then snap.waitingReason.getD "" else "Query is running")
          clock.ready
        let out := setCondition out current .allNodesResponding
          (snap.failedNodes = [])
          (if snap.failedNodes = [] then "AllResponding" else "NodesUnreachable")
          (if snap.failedNodes = [] then "All cluster nodes responded"
            else "nodes not responding: " ++ ", ".intercalate snap.failedNodes)
          clock.allNodesResponding
        sortConditions out

/-! ## What a derived status shows -/

/-- The status has a condition of the type, and every one has the value. -/
def Status.Shows (status : Status) (type : ConditionType) (value : Bool) : Prop :=
  ∃ conditions, status.conditions = some conditions ∧
    (∃ condition ∈ conditions, condition.type = type) ∧
      ∀ condition ∈ conditions, condition.type = type → condition.status = value

/-- A status shows at most one value of a condition. -/
theorem Status.Shows.iff_eq
    {status : Status}
    {type : ConditionType}
    {value : Bool}
    (shown : status.Shows type value)
    (other : Bool) :
    status.Shows type other ↔ other = value := by
  constructor
  · rintro ⟨conditions, stored, ⟨condition, member, sameType⟩, values⟩
    obtain ⟨shownConditions, shownStored, -, shownValues⟩ := shown
    obtain rfl := Option.some.inj (stored.symm.trans shownStored)
    exact (values condition member sameType).symm.trans (shownValues condition member sameType)
  · rintro rfl
    exact shown

/-! ## The value contract -/

/-- The row has a numeric value and no reserved column. -/
def MeetsContract (raw : Row) : Prop :=
  "query_key" ∉ raw.keys ∧
    ∃ cell value, raw.get? "value" = some cell ∧ cell.float = .ok value

/-- A row is mapped exactly when it meets the contract. -/
theorem buildRow_eq_ok_iff (raw : Row) :
    (∃ row, buildRow raw = .ok row) ↔ MeetsContract raw := by
  unfold buildRow MeetsContract
  by_cases reserved : "query_key" ∈ raw.keys
  · simp [reserved]
  · cases stored : raw.get? "value" with
    | none => simp [reserved]
    | some cell =>
        cases converted : cell.float with
        | ok value => simp [reserved, converted]
        | error failure => cases failure <;> simp [reserved, converted]

/-- A result is mapped exactly when all its rows meet the contract. -/
theorem buildRows_eq_ok_iff (raws : List Row) :
    (∃ rows, buildRows raws = .ok rows) ↔ ∀ raw ∈ raws, MeetsContract raw := by
  induction raws with
  | nil => simp [buildRows]
  | cons raw rest inductionHypothesis =>
      rw [List.forall_mem_cons, ← buildRow_eq_ok_iff, ← inductionHypothesis]
      cases built : buildRow raw with
      | error raised => simp [buildRows, built]
      | ok row =>
          cases mapped : buildRows rest with
          | error raised => simp [buildRows, built, mapped, Except.map]
          | ok rows => simp [buildRows, built, mapped, Except.map]

/-- A rejected result raises a value error or an error of the cell itself. -/
theorem buildRows_eq_error
    {raws : List Row}
    {raised : Raised}
    (rejected : buildRows raws = .error raised) :
    (∃ message, raised = .valueError message) ∨ ∃ message, raised = .exception message := by
  induction raws with
  | nil => cases rejected
  | cons raw rest inductionHypothesis =>
      cases built : buildRow raw with
      | ok row =>
          cases mapped : buildRows rest with
          | ok rows => simp [buildRows, built, mapped, Except.map] at rejected
          | error other =>
              simp only [buildRows, built, mapped, Except.map, Except.error.injEq] at rejected
              exact inductionHypothesis (by rw [mapped, rejected])
      | error other =>
          simp only [buildRows, built, Except.error.injEq] at rejected
          subst rejected
          unfold buildRow at built
          split at built
          · cases built
            exact .inl ⟨_, rfl⟩
          · split at built
            · cases built
              exact .inl ⟨_, rfl⟩
            · split at built
              · cases built
              · cases built
                exact .inl ⟨_, rfl⟩
              · cases built
                exact .inr ⟨_, rfl⟩

/-- The labels of a mapped row are its other columns. -/
theorem dynamicLabels_of_buildRow
    {raw : Row}
    {row : QueryResult}
    (built : buildRow raw = .ok row) :
    row.dynamicLabels = (raw.erase "value").mapValues Cell.toText := by
  unfold buildRow at built
  split at built
  · cases built
  · split at built
    · cases built
    · split at built
      · cases built
        rfl
      · cases built
      · cases built

/-- The mapped rows stand in the order of the raw rows. -/
theorem forall₂_of_buildRows
    {raws : List Row}
    {rows : List QueryResult}
    (built : buildRows raws = .ok rows) :
    List.Forall₂ (fun raw row => buildRow raw = .ok row) raws rows := by
  induction raws generalizing rows with
  | nil =>
      cases built
      exact .nil
  | cons raw rest inductionHypothesis =>
      cases head : buildRow raw with
      | error raised => simp [buildRows, head] at built
      | ok row =>
          cases mapped : buildRows rest with
          | error raised => simp [buildRows, head, mapped, Except.map] at built
          | ok later =>
              simp only [buildRows, head, mapped, Except.map, Except.ok.injEq] at built
              subst built
              exact .cons head (inductionHypothesis mapped)

/-- A reserved column in any row rejects the result: with a value error, unless
the value of an earlier row raises something else. -/
theorem buildRows_of_reserved
    {raws : List Row}
    (reserved : ∃ raw ∈ raws, "query_key" ∈ raw.keys) :
    (∃ message, buildRows raws = .error (.valueError message)) ∨
      ∃ first raw rest cell message, raws = first ++ raw :: rest ∧
        (∃ later ∈ rest, "query_key" ∈ later.keys) ∧
        raw.get? "value" = some cell ∧ cell.float = .error (.raised message) ∧
        buildRows raws = .error (.exception message) := by
  induction raws with
  | nil => simp at reserved
  | cons raw rest inductionHypothesis =>
      by_cases head : "query_key" ∈ raw.keys
      · exact .inl ⟨_, by rw [buildRows, buildRow, if_pos head]⟩
      · have later : ∃ other ∈ rest, "query_key" ∈ other.keys := by
          simpa [head] using reserved
        cases stored : raw.get? "value" with
        | none => exact .inl ⟨_, by simp [buildRows, buildRow, head, stored]; rfl⟩
        | some cell =>
            cases converted : cell.float with
            | error failure =>
                cases failure with
                | notNumeric =>
                    exact .inl ⟨_, by simp [buildRows, buildRow, head, stored, converted]; rfl⟩
                | raised message =>
                    exact .inr ⟨[], raw, rest, cell, message, rfl, later, stored, converted,
                      by simp [buildRows, buildRow, head, stored, converted]⟩
            | ok value =>
                obtain ⟨message, rejected⟩ |
                    ⟨first, other, tail, otherCell, message, rfl, keyed, otherStored,
                      otherConverted, rejected⟩ := inductionHypothesis later
                · exact .inl ⟨message, by
                    simp [buildRows, buildRow, head, stored, converted, rejected, Except.map]⟩
                · exact .inr ⟨raw :: first, other, tail, otherCell, message, rfl, keyed,
                    otherStored, otherConverted, by
                    simp [buildRows, buildRow, head, stored, converted, rejected, Except.map]⟩

end Promch
