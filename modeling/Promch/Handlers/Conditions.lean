import Promch.Handlers.QueryStatus

/-!
# The conditions of a status

A derivation turns the stored conditions into a table by type, writes one entry
after the other and sorts the result.  The table is the stored list up to order,
so that the next derivation starts from what this one left.
-/

namespace Promch

/-- One condition that a derivation writes, and the clock reading it takes. -/
structure ConditionWrite where
  type : ConditionType
  status : Bool
  reason : String
  message : String
  now : Time

/-- Conditions by type. -/
structure ConditionTable where
  byType : Dict ConditionType Condition
  /-- Every condition stands under its own type. -/
  typed : ∀ type condition, byType.get? type = some condition → condition.type = type

namespace ConditionTable

/-- The conditions of a list by type. -/
def ofList (conditions : List Condition) : ConditionTable where
  byType := Dict.ofList (conditions.map fun condition => (condition.type, condition))
  typed := by
    intro type condition stored
    obtain ⟨kept, -, pair⟩ := List.mem_map.mp (Dict.mem_of_get?_ofList stored)
    cases pair
    rfl

variable (table : ConditionTable)

/-- The condition that a write stores: its transition time is kept with its
status. -/
def written (write : ConditionWrite) : Condition where
  type := write.type
  status := write.status
  lastTransitionTime :=
    match table.byType.get? write.type with
    | some prev => if prev.status = write.status then prev.lastTransitionTime else write.now
    | none => write.now
  reason := write.reason
  message := write.message

/-- The table after one write. -/
def write (write : ConditionWrite) : ConditionTable where
  byType := table.byType.set write.type (table.written write)
  typed := by
    intro type condition stored
    rw [Dict.get?_set] at stored
    split at stored
    · next same =>
        cases stored
        exact same.symm
    · exact table.typed type condition stored

/-- The table after several writes. -/
def writeAll (writes : List ConditionWrite) : ConditionTable :=
  writes.foldl ConditionTable.write table

/-- The conditions of the table, newest transition first. -/
def sorted : List Condition :=
  table.byType.values.insertionSort fun condition other =>
    other.lastTransitionTime ≤ condition.lastTransitionTime

variable {table}

theorem get?_write (write : ConditionWrite) (type : ConditionType) :
    (table.write write).byType.get? type =
      if type = write.type then some (table.written write) else table.byType.get? type :=
  Dict.get?_set table.byType write.type type (table.written write)

/-- A type that is not written keeps its condition. -/
theorem get?_writeAll_of_notMem
    {writes : List ConditionWrite}
    {type : ConditionType}
    (absent : ∀ write ∈ writes, write.type ≠ type) :
    (table.writeAll writes).byType.get? type = table.byType.get? type := by
  induction writes generalizing table with
  | nil => rfl
  | cons write rest inductionHypothesis =>
      obtain ⟨headDiffers, restDiffer⟩ := List.forall_mem_cons.mp absent
      rw [writeAll, List.foldl_cons, ← writeAll, inductionHypothesis restDiffer, get?_write,
        if_neg headDiffers.symm]

/-- A type that is written once holds what the write stores over the old
table. -/
theorem get?_writeAll_of_mem
    (table : ConditionTable)
    {writes : List ConditionWrite}
    {write : ConditionWrite}
    (distinct : (writes.map ConditionWrite.type).Nodup)
    (member : write ∈ writes) :
    (table.writeAll writes).byType.get? write.type = some (table.written write) := by
  induction writes generalizing table with
  | nil => cases member
  | cons head rest inductionHypothesis =>
      obtain ⟨headAbsent, restDistinct⟩ := List.nodup_cons.mp distinct
      rw [writeAll, List.foldl_cons, ← writeAll]
      obtain rfl | inRest := List.mem_cons.mp member
      · have othersDiffer : ∀ other ∈ rest, other.type ≠ write.type := fun other inRest same =>
          headAbsent (same ▸ List.mem_map_of_mem inRest)
        rw [get?_writeAll_of_notMem othersDiffer, get?_write, if_pos rfl]
      · have different : write.type ≠ head.type := fun same =>
          headAbsent (same ▸ List.mem_map_of_mem inRest)
        rw [inductionHypothesis _ restDistinct inRest, written, written, get?_write,
          if_neg different]

/-! ## The table as a list -/

theorem values_eq_map_type (table : ConditionTable) :
    table.byType.values.map Condition.type = table.byType.keys := by
  rw [Dict.values, Dict.keys, List.map_map]
  refine List.map_congr_left fun entry member => ?_
  exact table.typed entry.1 entry.2 ((Dict.mem_entries_iff _ _ _).mp member)

/-- No type stands twice in the list. -/
theorem nodup_map_type_sorted (table : ConditionTable) :
    (table.sorted.map Condition.type).Nodup := by
  have permuted : (table.sorted.map Condition.type).Perm table.byType.keys := by
    rw [← values_eq_map_type]
    exact (List.perm_insertionSort _ _).map Condition.type
  exact permuted.nodup_iff.mpr table.byType.nodup_keys

theorem mem_sorted_iff (table : ConditionTable) (condition : Condition) :
    condition ∈ table.sorted ↔ table.byType.get? condition.type = some condition := by
  rw [sorted, List.mem_insertionSort, Dict.values, List.mem_map]
  constructor
  · rintro ⟨⟨type, stored⟩, member, rfl⟩
    rw [Dict.mem_entries_iff] at member
    rwa [table.typed type stored member]
  · intro stored
    exact ⟨(condition.type, condition), (Dict.mem_entries_iff _ _ _).mpr stored, rfl⟩

theorem pairwise_sorted (table : ConditionTable) :
    table.sorted.Pairwise fun condition other =>
      other.lastTransitionTime ≤ condition.lastTransitionTime :=
  List.pairwise_insertionSort _ _

/-- A list without repeated types is the list of its table. -/
theorem values_ofList
    {conditions : List Condition}
    (nodup : (conditions.map Condition.type).Nodup) :
    (ofList conditions).byType.values = conditions := by
  have distinct : ((conditions.map fun condition => (condition.type, condition)).map
      Prod.fst).Nodup := by
    simpa [Function.comp_def] using nodup
  rw [ofList, Dict.values, Dict.entries_ofList distinct]
  simp [Function.comp_def]

/-- The sorted list holds the same table. -/
theorem get?_ofList_sorted (table : ConditionTable) (type : ConditionType) :
    (ofList table.sorted).byType.get? type = table.byType.get? type := by
  have distinct : ((table.sorted.map fun condition => (condition.type, condition)).map
      Prod.fst).Nodup := by
    simpa [Function.comp_def] using table.nodup_map_type_sorted
  refine Option.ext fun condition => ?_
  rw [← Dict.mem_entries_iff, ofList, Dict.entries_ofList distinct, List.mem_map]
  constructor
  · rintro ⟨stored, member, pair⟩
    cases pair
    exact (table.mem_sorted_iff condition).mp member
  · intro stored
    have ownType := table.typed type condition stored
    subst ownType
    exact ⟨condition, (table.mem_sorted_iff condition).mpr stored, rfl⟩

/-- Sorting again changes nothing. -/
theorem sorted_ofList_sorted (table : ConditionTable) :
    (ofList table.sorted).sorted = table.sorted := by
  rw [sorted, values_ofList table.nodup_map_type_sorted]
  exact table.pairwise_sorted.insertionSort_eq

/-- Writes that the table holds already change nothing. -/
theorem writeAll_of_held
    {writes : List ConditionWrite}
    (held : ∀ write ∈ writes, ∃ condition,
      table.byType.get? write.type = some condition ∧ condition.status = write.status ∧
        condition.reason = write.reason ∧ condition.message = write.message) :
    table.writeAll writes = table := by
  induction writes with
  | nil => rfl
  | cons write rest inductionHypothesis =>
      obtain ⟨⟨condition, stored, status, reason, message⟩, restHeld⟩ :=
        List.forall_mem_cons.mp held
      have ownType := table.typed write.type condition stored
      have same : table.written write = condition := by
        cases condition
        cases write
        simp_all [written]
      have unchanged : table.write write = table := by
        obtain ⟨byType, typed⟩ := table
        simp only [ConditionTable.write, same, Dict.set_of_get?_eq stored]
      rw [writeAll, List.foldl_cons, unchanged]
      exact inductionHypothesis restHeld

/-- The table of its own values is the table again. -/
theorem ofList_values (table : ConditionTable) :
    ofList table.byType.values = table := by
  have pairs : (table.byType.values.map fun condition => (condition.type, condition)) =
      table.byType.entries := by
    rw [Dict.values, List.map_map]
    refine (List.map_congr_left fun entry member => ?_).trans (List.map_id _)
    have ownType := table.typed entry.1 entry.2 ((Dict.mem_entries_iff _ _ _).mp member)
    simp [ownType]
  have same : (ofList table.byType.values).byType = table.byType := by
    calc
      (ofList table.byType.values).byType
          = Dict.ofList (table.byType.values.map fun condition => (condition.type, condition)) :=
        rfl
      _ = Dict.ofList table.byType.entries := by rw [pairs]
      _ = table.byType := Dict.ext_entries (Dict.entries_ofList table.byType.nodupKeys)
  cases table
  simpa [ofList] using same

end ConditionTable

/-! ## The conditions of a derivation -/

/-- The condition that a misconfigured query writes. -/
def invalidWrite (reason : String) (clock : StatusClock) : ConditionWrite where
  type := .valid
  status := false
  reason := "InvalidConfiguration"
  message := reason
  now := clock.valid

def querySucceededWrite (snap : Snapshot) (clock : StatusClock) : ConditionWrite where
  type := .querySucceeded
  status := snap.up
  reason := if snap.up then "QueryOK"
    else (snap.lastError.map fun error => error.type.text).getD "Unknown"
  message := if snap.up then "Last query succeeded"
    else (snap.lastError.map LastError.message).getD ""
  now := clock.querySucceeded

def keepingUpWrite (snap : Snapshot) (clock : StatusClock) : ConditionWrite where
  type := .keepingUp
  status := !isBehind snap
  reason := if isBehind snap then "MaxConcurrentReached" else "OnSchedule"
  message := if isBehind snap then
    "Query runs longer than interval x maxConcurrent; ticks skipped" else "Keeping up"
  now := clock.keepingUp

def readyWrite (snap : Snapshot) (clock : StatusClock) : ConditionWrite where
  type := .ready
  status := !PyText.truthy snap.waitingReason
  reason := if PyText.truthy snap.waitingReason then "WaitingForConnection" else "Ready"
  message := if PyText.truthy snap.waitingReason then snap.waitingReason.getD ""
    else "Query is running"
  now := clock.ready

def allNodesRespondingWrite (snap : Snapshot) (clock : StatusClock) : ConditionWrite where
  type := .allNodesResponding
  status := snap.failedNodes = []
  reason := if snap.failedNodes = [] then "AllResponding" else "NodesUnreachable"
  message := if snap.failedNodes = [] then "All cluster nodes responded"
    else "nodes not responding: " ++ ", ".intercalate snap.failedNodes
  now := clock.allNodesResponding

/-- The conditions that a valid query writes, in order. -/
def runtimeWrites (snap : Snapshot) (clock : StatusClock) : List ConditionWrite :=
  [querySucceededWrite snap clock, keepingUpWrite snap clock, readyWrite snap clock,
    allNodesRespondingWrite snap clock]

/-- The conditions that a derivation writes. -/
def conditionWrites (snap : Snapshot) (clock : StatusClock) : List ConditionWrite :=
  if PyText.truthy snap.invalidReason then [invalidWrite (snap.invalidReason.getD "") clock]
  else runtimeWrites snap clock

/-- The reading that a derivation takes for a condition. -/
def StatusClock.reading (clock : StatusClock) : ConditionType → Time
  | .valid => clock.valid
  | .querySucceeded => clock.querySucceeded
  | .keepingUp => clock.keepingUp
  | .ready => clock.ready
  | .allNodesResponding => clock.allNodesResponding

/-- At another clock a derivation writes the same conditions with the readings
of that clock. -/
theorem conditionWrites_eq_map (snap : Snapshot) (clock later : StatusClock) :
    conditionWrites snap later =
      (conditionWrites snap clock).map fun write =>
        { write with now := later.reading write.type } := by
  unfold conditionWrites
  cases PyText.truthy snap.invalidReason <;> rfl

/-- The derived status of a query, without its conditions. -/
def plainStatus (snap : Snapshot) (config : OperatorConfig) (clock : StatusClock) : Status :=
  if PyText.truthy snap.invalidReason then
    { phase := some .invalid, invalidReason := some (snap.invalidReason.getD "") }
  else runtimeStatus snap config clock

/-- The stored conditions by type. -/
def Status.table (status : Status) : ConditionTable :=
  .ofList (status.conditions.getD [])

section DeriveStatus

variable (out current : Status)

/-- The first write of a derivation starts from the stored conditions. -/
theorem conditions_setCondition_first
    (none : out.conditions = none)
    (write : ConditionWrite) :
    (setCondition out current write.type write.status write.reason write.message
        write.now).conditions =
      some (current.table.write write).byType.values := by
  simp only [setCondition, none]
  rfl

variable {out}

/-- A further write starts from what the writes before it left. -/
theorem conditions_setCondition_next
    {table : ConditionTable}
    {previous : ConditionWrite}
    (written : out.conditions = some (table.write previous).byType.values)
    (write : ConditionWrite) :
    (setCondition out current write.type write.status write.reason write.message
        write.now).conditions =
      some ((table.write previous).write write).byType.values := by
  have nonempty : (table.write previous).byType.values ≠ [] :=
    List.ne_nil_of_mem (List.mem_map_of_mem
      ((Dict.mem_entries_iff _ _ _).mpr (Dict.get?_set_self _ previous.type _)))
  have fromList : (setCondition out current write.type write.status write.reason write.message
      write.now).conditions =
        some ((ConditionTable.ofList (table.write previous).byType.values).write
          write).byType.values := by
    unfold setCondition
    rw [written]
    cases values : (table.write previous).byType.values with
    | nil => exact absurd values nonempty
    | cons head rest => rfl
  rw [fromList, ConditionTable.ofList_values]

theorem conditions_sortConditions
    {table : ConditionTable}
    (written : out.conditions = some table.byType.values) :
    (sortConditions out).conditions = some table.sorted := by
  rw [sortConditions, written]
  rfl

/-- The derived conditions are the stored ones with the writes of the
derivation. -/
theorem conditions_deriveStatus
    (snap : Snapshot)
    (config : OperatorConfig)
    (clock : StatusClock) :
    (deriveStatus (some snap) current config clock).conditions =
      some (current.table.writeAll (conditionWrites snap clock)).sorted := by
  cases invalid : PyText.truthy snap.invalidReason with
  | true =>
      simp only [deriveStatus, conditionWrites, invalid, if_true]
      exact conditions_sortConditions
        (conditions_setCondition_first _ current rfl (invalidWrite _ clock))
  | false =>
      have first := conditions_setCondition_first (runtimeStatus snap config clock) current rfl
        (querySucceededWrite snap clock)
      have second := conditions_setCondition_next current first (keepingUpWrite snap clock)
      have third := conditions_setCondition_next current second (readyWrite snap clock)
      have fourth := conditions_setCondition_next current third
        (allNodesRespondingWrite snap clock)
      simp only [deriveStatus, conditionWrites, invalid, Bool.false_eq_true, if_false]
      exact conditions_sortConditions fourth

/-- A derivation writes each type once. -/
theorem nodup_map_type_conditionWrites (snap : Snapshot) (clock : StatusClock) :
    ((conditionWrites snap clock).map ConditionWrite.type).Nodup := by
  unfold conditionWrites
  split
  · exact List.nodup_singleton _
  · simp [runtimeWrites, querySucceededWrite, keepingUpWrite, readyWrite,
      allNodesRespondingWrite]

/-- A derived status is the part that ignores the stored one, and the
conditions. -/
theorem deriveStatus_some
    (snap : Snapshot)
    (config : OperatorConfig)
    (clock : StatusClock) :
    deriveStatus (some snap) current config clock =
      { plainStatus snap config clock with
        conditions := some (current.table.writeAll (conditionWrites snap clock)).sorted } := by
  rw [← conditions_deriveStatus current snap config clock]
  cases invalid : PyText.truthy snap.invalidReason with
  | true =>
      simp only [deriveStatus, plainStatus, invalid, if_true]
      rfl
  | false =>
      simp only [deriveStatus, plainStatus, invalid, Bool.false_eq_true, if_false]
      rfl

/-- The derived status shows every condition that was written. -/
theorem shows_deriveStatus
    {snap : Snapshot}
    {clock : StatusClock}
    {write : ConditionWrite}
    (member : write ∈ conditionWrites snap clock)
    (config : OperatorConfig) :
    (deriveStatus (some snap) current config clock).Shows write.type write.status := by
  have stored := ConditionTable.get?_writeAll_of_mem current.table
    (nodup_map_type_conditionWrites snap clock) member
  refine ⟨_, conditions_deriveStatus current snap config clock,
    ⟨current.table.written write, (ConditionTable.mem_sorted_iff _ _).mpr stored, rfl⟩, ?_⟩
  intro condition inSorted sameType
  rw [ConditionTable.mem_sorted_iff, sameType, stored] at inSorted
  cases inSorted
  rfl

section Fields

variable {snap : Snapshot} (config : OperatorConfig) (clock : StatusClock)

/-- An invalid query shows the invalid phase. -/
theorem phase_deriveStatus_of_invalid (invalid : PyText.truthy snap.invalidReason = true) :
    (deriveStatus (some snap) current config clock).phase = some .invalid := by
  simp [deriveStatus_some, plainStatus, invalid]

variable (valid : PyText.truthy snap.invalidReason = false)
include valid

/-- A valid query shows the phase of its snapshot. -/
theorem phase_deriveStatus :
    (deriveStatus (some snap) current config clock).phase = some (derivePhase snap) := by
  simp [deriveStatus_some, plainStatus, runtimeStatus, valid]

/-- A valid query shows the last success of its snapshot. -/
theorem lastSuccess_deriveStatus :
    (deriveStatus (some snap) current config clock).lastSuccess =
      (runtimeStatus snap config clock).lastSuccess := by
  simp [deriveStatus_some, plainStatus, valid]

/-- A valid query shows the node list of its snapshot. -/
theorem failedNodes_deriveStatus :
    (deriveStatus (some snap) current config clock).failedNodes = some snap.failedNodes := by
  simp [deriveStatus_some, plainStatus, runtimeStatus, valid]

/-- A valid query shows all nodes as responding exactly when none is listed. -/
theorem shows_allNodesResponding_deriveStatus :
    (deriveStatus (some snap) current config clock).Shows .allNodesResponding
      (snap.failedNodes = []) := by
  have member : allNodesRespondingWrite snap clock ∈ conditionWrites snap clock := by
    simp [conditionWrites, runtimeWrites, valid]
  exact shows_deriveStatus current member config

end Fields

end DeriveStatus

end Promch
