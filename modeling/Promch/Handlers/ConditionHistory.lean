import Promch.Handlers.Reflections
import Promch.Library.LastChange

/-!
# The history of the conditions

Along the runs of the reflector each condition is a register of its own: a run
that writes it takes a reading, and its transition time is the stamp of the last
change.
-/

namespace Promch

/-- The stored condition of a type. -/
def Status.condition (status : Status) (type : ConditionType) : Option Condition :=
  (status.conditions.getD []).find? fun condition => condition.type = type

/-- The status value of a type after some runs. -/
def statusAfter (runs : List Reflection) (type : ConditionType) : Option Bool :=
  ((reflectAll runs).condition type).map Condition.status

/-- The transition time of a type after some runs. -/
def transitionTimeAfter (runs : List Reflection) (type : ConditionType) : Option Time :=
  ((reflectAll runs).condition type).map Condition.lastTransitionTime

/-- Every reading that the later run takes for a condition is later than those of
the earlier one. -/
def Reflection.Before (earlier later : Reflection) : Prop :=
  ∀ write ∈ earlier.writes, ∀ other ∈ later.writes, write.now < other.now

instance : DecidableRel Reflection.Before := fun earlier later =>
  inferInstanceAs (Decidable
    (∀ write ∈ earlier.writes, ∀ other ∈ later.writes, write.now < other.now))

/-- What the stored conditions tell about the runs so far. -/
structure ConditionLaw (runs : List Reflection) : Prop where
  nodup : (((reflectAll runs).conditions.getD []).map Condition.type).Nodup
  newestFirst : ((reflectAll runs).conditions.getD []).Pairwise fun condition other =>
    other.lastTransitionTime ≤ condition.lastTransitionTime
  runtimeTypes : ∀ run ∈ runs, run.IsValid → ∀ type ≠ .valid,
    ((reflectAll runs).condition type).isSome
  validType : ∀ run ∈ runs, run.IsInvalid → ((reflectAll runs).condition .valid).isSome
  /-- The transition time is that of the run since which the status is what it
  is. -/
  lastChange : ∀ type condition, (reflectAll runs).condition type = some condition →
    ∃ first run rest, runs = first ++ run :: rest ∧
      condition.lastTransitionTime = run.clock.reading type ∧
      statusAfter first type ≠ some condition.status ∧
      ∀ start tail, rest = start ++ tail →
        statusAfter (first ++ run :: start) type = some condition.status
  /-- A run changes the transition time exactly when it changes the status. -/
  changes : ∀ first run rest, runs = first ++ run :: rest → ∀ type,
    transitionTimeAfter (first ++ [run]) type ≠ transitionTimeAfter first type ↔
      statusAfter (first ++ [run]) type ≠ statusAfter first type
  /-- A run loses no type. -/
  kept : ∀ first run rest, runs = first ++ run :: rest → ∀ type,
    ((reflectAll first).condition type).isSome →
      ((reflectAll (first ++ [run])).condition type).isSome

/-! ## Conditions as registers -/

/-- The status of a condition, stamped with its transition time. -/
def Condition.stamped (condition : Condition) : Stamped Time Bool where
  stamp := condition.lastTransitionTime
  value := condition.status

/-- The reading that a run takes for a type. -/
def Reflection.reading (run : Reflection) (type : ConditionType) : Option (Stamped Time Bool) :=
  (run.writes.find? fun write => write.type = type).map fun write =>
    { stamp := write.now, value := write.status }

/-- The readings that some runs take for a type. -/
def readings (runs : List Reflection) (type : ConditionType) : List (Option (Stamped Time Bool)) :=
  runs.map fun run => run.reading type

/-- A write takes the reading of its type. -/
theorem now_of_mem_writes
    {run : Reflection}
    {write : ConditionWrite}
    (member : write ∈ run.writes) :
    write.now = run.clock.reading write.type := by
  unfold Reflection.writes at member
  cases found : run.snap with
  | none => simp [found] at member
  | some snap =>
      simp only [found] at member
      rw [conditionWrites_eq_map snap run.clock run.clock] at member
      obtain ⟨first, -, rfl⟩ := List.mem_map.mp member
      rfl

theorem exists_write_of_reading
    {run : Reflection}
    {type : ConditionType}
    {taken : Stamped Time Bool}
    (reading : run.reading type = some taken) :
    ∃ write ∈ run.writes, write.type = type ∧ write.now = taken.stamp := by
  obtain ⟨write, found, rfl⟩ := Option.map_eq_some_iff.mp reading
  exact ⟨write, List.mem_of_find?_eq_some found, by simpa using List.find?_some found, rfl⟩

theorem exists_reading_of_write
    {run : Reflection}
    {write : ConditionWrite}
    (member : write ∈ run.writes) :
    ∃ taken, run.reading write.type = some taken := by
  have found : (run.writes.find? fun other => other.type = write.type).isSome := by
    rw [List.find?_isSome]
    exact ⟨write, member, by simp⟩
  obtain ⟨first, isFirst⟩ := Option.isSome_iff_exists.mp found
  exact ⟨_, by rw [Reflection.reading, isFirst, Option.map_some]⟩

/-- A run writes no type twice. -/
theorem nodup_map_type_writes (run : Reflection) :
    (run.writes.map ConditionWrite.type).Nodup := by
  unfold Reflection.writes
  cases run.snap with
  | none => exact List.nodup_nil
  | some snap => exact nodup_map_type_conditionWrites snap run.clock

/-- A stored condition is found in the table. -/
theorem condition_reflectAll (runs : List Reflection) (type : ConditionType) :
    (reflectAll runs).condition type = (reflectAll runs).table.byType.get? type := by
  rw [Status.condition, conditions_reflectAll]
  refine Option.ext fun condition => ⟨fun found => ?_, fun stored => ?_⟩
  · have ownType : condition.type = type := by simpa using List.find?_some found
    rw [← ownType]
    exact (ConditionTable.mem_sorted_iff _ _).mp (List.mem_of_find?_eq_some found)
  · have ownType := (reflectAll runs).table.typed type condition stored
    subst ownType
    have member := (ConditionTable.mem_sorted_iff _ _).mpr stored
    obtain ⟨other, found⟩ := Option.isSome_iff_exists.mp
      (List.find?_isSome.mpr ⟨condition, member, by simp⟩ :
        ((reflectAll runs).table.sorted.find? fun other =>
          other.type = condition.type).isSome)
    have sameType : other.type = condition.type := by simpa using List.find?_some found
    have otherStored := (ConditionTable.mem_sorted_iff _ _).mp (List.mem_of_find?_eq_some found)
    rw [sameType, stored] at otherStored
    rw [found, Option.some.inj otherStored]

/-- One run records its reading of a type. -/
theorem stamped_writeAll
    (table : ConditionTable)
    (run : Reflection)
    (type : ConditionType) :
    ((table.writeAll run.writes).byType.get? type).map Condition.stamped =
      Stamped.recordStep ((table.byType.get? type).map Condition.stamped)
        (run.reading type) := by
  cases found : run.writes.find? fun write => write.type = type with
  | none =>
      have unwritten : ∀ write ∈ run.writes, write.type ≠ type := by
        simpa using List.find?_eq_none.mp found
      rw [ConditionTable.get?_writeAll_of_notMem unwritten, Reflection.reading, found]
      rfl
  | some write =>
      have ownType : write.type = type := by simpa using List.find?_some found
      subst ownType
      rw [ConditionTable.get?_writeAll_of_mem table (nodup_map_type_writes run)
        (List.mem_of_find?_eq_some found), Reflection.reading, found]
      simp only [Option.map_some, Stamped.recordStep, Stamped.record,
        ConditionTable.written, Condition.stamped]
      cases table.byType.get? write.type with
      | none => rfl
      | some old =>
          by_cases same : old.status = write.status <;> simp [same, Condition.stamped]

/-- After some runs a condition shows what its readings record. -/
theorem stamped_reflectAll (runs : List Reflection) (type : ConditionType) :
    ((reflectAll runs).condition type).map Condition.stamped =
      Stamped.recordAll (readings runs type) := by
  induction runs using List.reverseRecOn with
  | nil => rfl
  | append_singleton runs run inductionHypothesis =>
      rw [condition_reflectAll] at inductionHypothesis
      rw [condition_reflectAll, get?_table_reflectAll_append_singleton, stamped_writeAll,
        inductionHypothesis, readings, readings, List.map_append]
      exact (Stamped.recordAll_append_singleton _ _).symm

theorem statusAfter_eq (runs : List Reflection) (type : ConditionType) :
    statusAfter runs type = (Stamped.recordAll (readings runs type)).map Stamped.value := by
  rw [← stamped_reflectAll, Option.map_map]
  rfl

theorem transitionTimeAfter_eq (runs : List Reflection) (type : ConditionType) :
    transitionTimeAfter runs type =
      (Stamped.recordAll (readings runs type)).map Stamped.stamp := by
  rw [← stamped_reflectAll, Option.map_map]
  rfl

theorem isSome_condition_iff (runs : List Reflection) (type : ConditionType) :
    ((reflectAll runs).condition type).isSome ↔
      (Stamped.recordAll (readings runs type)).isSome := by
  rw [← stamped_reflectAll, Option.isSome_map]

theorem recordAll_readings_append_singleton
    (runs : List Reflection)
    (run : Reflection)
    (type : ConditionType) :
    Stamped.recordAll (readings (runs ++ [run]) type) =
      Stamped.recordStep (Stamped.recordAll (readings runs type)) (run.reading type) := by
  rw [readings, List.map_append]
  exact Stamped.recordAll_append_singleton _ _

/-! ## The law -/

section Law

variable {runs first rest : List Reflection} {run : Reflection} {type : ConditionType}

/-- A type is stored once a run has written it. -/
theorem isSome_condition_of_write
    (member : run ∈ runs)
    (writes : ∃ write ∈ run.writes, write.type = type) :
    ((reflectAll runs).condition type).isSome := by
  obtain ⟨write, inWrites, rfl⟩ := writes
  obtain ⟨taken, reading⟩ := exists_reading_of_write inWrites
  rw [isSome_condition_iff]
  exact Stamped.isSome_recordAll_of_mem (List.mem_map.mpr ⟨run, member, reading⟩)

/-- A stored status goes back to the run that last changed it. -/
theorem exists_lastChange
    {condition : Condition}
    (stored : (reflectAll runs).condition type = some condition) :
    ∃ first run rest, runs = first ++ run :: rest ∧
      condition.lastTransitionTime = run.clock.reading type ∧
      statusAfter first type ≠ some condition.status ∧
      ∀ start tail, rest = start ++ tail →
        statusAfter (first ++ run :: start) type = some condition.status := by
  have recorded : Stamped.recordAll (readings runs type) = some condition.stamped := by
    rw [← stamped_reflectAll, stored, Option.map_some]
  obtain ⟨firstReadings, restReadings, split, differs, since⟩ :=
    Stamped.recordAll_eq_some recorded
  obtain ⟨first, tail, rfl, rfl, tailReadings⟩ := List.map_eq_append_iff.mp split
  obtain ⟨run, rest, rfl, reading, rfl⟩ := List.map_eq_cons_iff.mp tailReadings
  obtain ⟨write, inWrites, rfl, time⟩ := exists_write_of_reading reading
  refine ⟨first, run, rest, rfl, ?_, ?_, ?_⟩
  · rw [← now_of_mem_writes inWrites, time]
    rfl
  · rw [statusAfter_eq]
    exact differs
  · rintro start later rfl
    have kept := since (readings start write.type) (readings later write.type)
      (by simp [readings])
    rw [statusAfter_eq, readings, List.map_append, List.map_cons, reading]
    exact congrArg (Option.map Stamped.value) kept

/-- What is stored of a type is the reading of an earlier run. -/
theorem exists_write_of_recordAll
    {old : Stamped Time Bool}
    (held : Stamped.recordAll (readings runs type) = some old) :
    ∃ run ∈ runs, ∃ write ∈ run.writes, write.now = old.stamp := by
  obtain ⟨firstReadings, restReadings, split, -⟩ := Stamped.recordAll_eq_some held
  have taken : some old ∈ readings runs type := by simp [split]
  obtain ⟨run, member, reading⟩ := List.mem_map.mp taken
  obtain ⟨write, inWrites, -, time⟩ := exists_write_of_reading reading
  exact ⟨run, member, write, inWrites, time⟩

/-- A run that is later than those before it changes a transition time exactly
when it changes the status. -/
theorem transitionTimeAfter_ne_iff
    (later : ∀ earlier ∈ first, earlier.Before run) :
    transitionTimeAfter (first ++ [run]) type ≠ transitionTimeAfter first type ↔
      statusAfter (first ++ [run]) type ≠ statusAfter first type := by
  rw [transitionTimeAfter_eq, transitionTimeAfter_eq, statusAfter_eq, statusAfter_eq,
    recordAll_readings_append_singleton]
  refine Stamped.map_stamp_recordStep_ne_iff fun old taken held reading => ?_
  obtain ⟨earlier, member, write, inEarlier, earlierTime⟩ := exists_write_of_recordAll held
  obtain ⟨other, inRun, -, time⟩ := exists_write_of_reading reading
  rw [← earlierTime, ← time]
  exact later earlier member write inEarlier other inRun

/-- A run loses no condition. -/
theorem isSome_condition_append_singleton
    (stored : ((reflectAll first).condition type).isSome) :
    ((reflectAll (first ++ [run])).condition type).isSome := by
  rw [isSome_condition_iff] at stored ⊢
  rw [recordAll_readings_append_singleton]
  exact Stamped.isSome_recordStep stored

end Law

/-- After any runs at ever later times the stored conditions obey the law. -/
theorem conditionLaw_reflectAll
    (runs : List Reflection)
    (ordered : runs.Pairwise Reflection.Before) :
    ConditionLaw runs where
  nodup := by
    rw [conditions_reflectAll]
    exact ConditionTable.nodup_map_type_sorted _
  newestFirst := by
    rw [conditions_reflectAll]
    exact ConditionTable.pairwise_sorted _
  runtimeTypes run member valid type runtime :=
    isSome_condition_of_write member (exists_writes_of_isValid valid runtime)
  validType run member invalid :=
    isSome_condition_of_write member ((exists_writes_valid_iff run).mpr invalid)
  lastChange _ _ stored := exists_lastChange stored
  changes first run rest split type := by
    subst split
    have across := (List.pairwise_append.mp ordered).2.2
    exact transitionTimeAfter_ne_iff fun earlier member => across earlier member run (by simp)
  kept _ _ _ _ _ stored := isSome_condition_append_singleton stored

/-- A query is registered, fails and is misconfigured. -/
theorem conditionLaw_reflectAll_misconfigured :
    ConditionLaw
      [⟨snapshotAfter (failedOnce.take 1), defaultConfig, .still 1⟩,
        ⟨snapshotAfter failedOnce, defaultConfig, .still 2⟩,
        ⟨snapshotAfter failedThenMisconfigured, defaultConfig, .still 3⟩] :=
  conditionLaw_reflectAll _ (by decide +kernel)

end Promch
