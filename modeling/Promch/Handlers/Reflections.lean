import Promch.Handlers.Operations
import Promch.Handlers.Reflector

/-!
# Runs of the status reflector

What one run leaves in the stored status, and what the next run makes of it: a
second run on the same snapshot finds nothing to patch.  Events and the markers
of a misconfigured query are another matter, since the patch leaves the stored
fields of the other path alone.
-/

namespace Promch

/-! ## The stored conditions -/

/-- The run finds a query that is configured well. -/
def Reflection.IsValid (run : Reflection) : Prop :=
  ∃ snap, run.snap = some snap ∧ PyText.truthy snap.invalidReason = false

/-- The run finds a misconfigured query. -/
def Reflection.IsInvalid (run : Reflection) : Prop :=
  ∃ snap, run.snap = some snap ∧ PyText.truthy snap.invalidReason = true

theorem isValid_or_isInvalid {run : Reflection} (registered : run.snap.isSome) :
    run.IsValid ∨ run.IsInvalid := by
  obtain ⟨snap, found⟩ := Option.isSome_iff_exists.mp registered
  cases validity : PyText.truthy snap.invalidReason with
  | true => exact .inr ⟨snap, found, validity⟩
  | false => exact .inl ⟨snap, found, validity⟩

theorem not_isInvalid_of_isValid {run : Reflection} (valid : run.IsValid) :
    ¬run.IsInvalid := by
  rintro ⟨other, otherFound, invalid⟩
  obtain ⟨snap, found, noReason⟩ := valid
  obtain rfl := Option.some.inj (found.symm.trans otherFound)
  exact Bool.noConfusion (noReason.symm.trans invalid)

/-- The conditions that a run writes. -/
def Reflection.writes (run : Reflection) : List ConditionWrite :=
  match run.snap with
  | none => []
  | some snap => conditionWrites snap run.clock

/-- A run leaves the table of the stored conditions with its writes. -/
theorem get?_table_applyPatch_desired
    (status : Status)
    (run : Reflection)
    (type : ConditionType) :
    (status.applyPatch (run.desired status)).table.byType.get? type =
      (status.table.writeAll run.writes).byType.get? type := by
  unfold Reflection.desired Reflection.writes
  cases run.snap with
  | none => rfl
  | some snap =>
      simp only [deriveStatus_some, Status.applyPatch, Status.table, Option.some_or,
        Option.getD_some]
      exact ConditionTable.get?_ofList_sorted _ type

/-- A run writes the condition of a misconfigured query exactly when it finds
one. -/
theorem exists_writes_valid_iff (run : Reflection) :
    (∃ write ∈ run.writes, write.type = .valid) ↔ run.IsInvalid := by
  unfold Reflection.writes Reflection.IsInvalid conditionWrites
  cases run.snap with
  | none => simp
  | some snap =>
      cases validity : PyText.truthy snap.invalidReason <;>
        simp [validity, runtimeWrites, invalidWrite, querySucceededWrite, keepingUpWrite,
          readyWrite, allNodesRespondingWrite]

/-- A run on a query that is configured well writes the four other conditions. -/
theorem exists_writes_of_isValid
    {run : Reflection}
    {type : ConditionType}
    (valid : run.IsValid)
    (runtime : type ≠ .valid) :
    ∃ write ∈ run.writes, write.type = type := by
  obtain ⟨snap, found, validity⟩ := valid
  unfold Reflection.writes conditionWrites
  simp only [found, validity, Bool.false_eq_true, if_false]
  cases type with
  | valid => exact absurd rfl runtime
  | querySucceeded => exact ⟨querySucceededWrite snap run.clock, by simp [runtimeWrites], rfl⟩
  | keepingUp => exact ⟨keepingUpWrite snap run.clock, by simp [runtimeWrites], rfl⟩
  | ready => exact ⟨readyWrite snap run.clock, by simp [runtimeWrites], rfl⟩
  | allNodesResponding =>
      exact ⟨allNodesRespondingWrite snap run.clock, by simp [runtimeWrites], rfl⟩

/-- The stored conditions are their own table, sorted. -/
theorem conditions_reflectAll (runs : List Reflection) :
    (reflectAll runs).conditions.getD [] = (reflectAll runs).table.sorted := by
  induction runs using List.reverseRecOn with
  | nil => rfl
  | append_singleton runs run inductionHypothesis =>
      rw [reflectAll_append_singleton, reflect_reflectAll, Reflection.desired]
      cases run.snap with
      | none => exact inductionHypothesis
      | some snap =>
          rw [deriveStatus_some]
          exact (ConditionTable.sorted_ofList_sorted _).symm

/-- A run leaves the stored table with its writes. -/
theorem get?_table_reflectAll_append_singleton
    (runs : List Reflection)
    (run : Reflection)
    (type : ConditionType) :
    (reflectAll (runs ++ [run])).table.byType.get? type =
      ((reflectAll runs).table.writeAll run.writes).byType.get? type := by
  rw [reflectAll_append_singleton, reflect_reflectAll, get?_table_applyPatch_desired]

/-! ## Convergence -/

/-- At the later clock the freshness of the error is judged as before. -/
def Reflection.SameVerdict (run : Reflection) (later : StatusClock) : Prop :=
  ∀ snap, run.snap = some snap →
    freshError snap.lastError run.config.lastErrorTtlSeconds later.freshError =
      freshError snap.lastError run.config.lastErrorTtlSeconds run.clock.freshError

/-- Every field of the desired status reads the same in the stored one; a null
error reads like a missing one. -/
structure Status.Holds (stored desired : Status) : Prop where
  phase : ∀ phase ∈ desired.phase, stored.phase = some phase
  invalidReason : ∀ reason ∈ desired.invalidReason, stored.invalidReason = some reason
  consecutiveFailures : ∀ count ∈ desired.consecutiveFailures,
    stored.consecutiveFailures = some count
  skippedTicks : ∀ count ∈ desired.skippedTicks, stored.skippedTicks = some count
  lastSuccess : ∀ success ∈ desired.lastSuccess, stored.lastSuccess = some success
  lastError : ∀ error ∈ desired.lastError, stored.lastError.join = error
  failedNodes : ∀ hosts ∈ desired.failedNodes, stored.failedNodes = some hosts
  conditions : ∀ conditions ∈ desired.conditions, stored.conditions = some conditions

/-- A desired status is held once it is applied. -/
theorem holds_applyPatch (status desired : Status) :
    (status.applyPatch desired).Holds desired where
  phase _ wanted := by rw [Status.applyPatch, wanted, Option.some_or]
  invalidReason _ wanted := by rw [Status.applyPatch, wanted, Option.some_or]
  consecutiveFailures _ wanted := by rw [Status.applyPatch, wanted, Option.some_or]
  skippedTicks _ wanted := by rw [Status.applyPatch, wanted, Option.some_or]
  lastSuccess _ wanted := by rw [Status.applyPatch, wanted, Option.some_or]
  lastError error wanted := by
    rw [Status.applyPatch, wanted]
    cases error <;> rfl
  failedNodes _ wanted := by rw [Status.applyPatch, wanted, Option.some_or]
  conditions _ wanted := by rw [Status.applyPatch, wanted, Option.some_or]

/-- Conditions that were just written are held at any clock. -/
theorem writeAll_table_applyPatch_desired
    (status : Status)
    {run : Reflection}
    {snap : Snapshot}
    (registered : run.snap = some snap)
    (later : StatusClock) :
    (status.applyPatch (run.desired status)).table.writeAll (conditionWrites snap later) =
      (status.applyPatch (run.desired status)).table := by
  refine ConditionTable.writeAll_of_held fun write member => ?_
  rw [conditionWrites_eq_map snap run.clock later] at member
  obtain ⟨first, firstMember, rfl⟩ := List.mem_map.mp member
  have writes : run.writes = conditionWrites snap run.clock := by
    rw [Reflection.writes, registered]
  refine ⟨status.table.written first, ?_, rfl, rfl, rfl⟩
  rw [get?_table_applyPatch_desired, writes]
  exact ConditionTable.get?_writeAll_of_mem status.table
    (nodup_map_type_conditionWrites snap run.clock) firstMember

/-- A status that was just applied is derived again at any clock with the same
verdict. -/
theorem deriveStatus_applyPatch_desired
    (status : Status)
    {run : Reflection}
    {later : StatusClock}
    (verdict : run.SameVerdict later) :
    deriveStatus run.snap (status.applyPatch (run.desired status)) run.config later =
      run.desired status := by
  cases registered : run.snap with
  | none =>
      rw [Reflection.desired, registered]
      rfl
  | some snap =>
      have samePlain : plainStatus snap run.config later =
          plainStatus snap run.config run.clock := by
        simp only [plainStatus, runtimeStatus, verdict snap registered]
      have desired : run.desired status =
          { plainStatus snap run.config run.clock with
            conditions :=
              some (status.table.writeAll (conditionWrites snap run.clock)).sorted } := by
        rw [Reflection.desired, registered, deriveStatus_some]
      have sortedAgain : (status.applyPatch (run.desired status)).table.sorted =
          (status.table.writeAll (conditionWrites snap run.clock)).sorted := by
        rw [desired]
        exact ConditionTable.sorted_ofList_sorted _
      rw [deriveStatus_some, writeAll_table_applyPatch_desired status registered later,
        sortedAgain, samePlain, ← desired]

/-- After any runs, one run converges: its patch merges into the stored status so
that every desired field is held, and a later run on the same snapshot desires
the same status and patches nothing. -/
theorem reflect_converges
    (runs : List Reflection)
    (run : Reflection)
    (later : StatusClock)
    (verdict : run.SameVerdict later) :
    (∀ name, (Json.mergeMembers
        (statusReflector run.snap (reflectAll runs) run.config run.clock).1.members
        (reflectAll runs).members).lookup name =
      (reflect (reflectAll runs) run).members.lookup name) ∧
    (reflect (reflectAll runs) run).Holds (run.desired (reflectAll runs)) ∧
    deriveStatus run.snap (reflect (reflectAll runs) run) run.config later =
      run.desired (reflectAll runs) ∧
    (statusReflector run.snap (reflect (reflectAll runs) run) run.config later).1 =
      Status.empty := by
  have again : deriveStatus run.snap (reflect (reflectAll runs) run) run.config later =
      run.desired (reflectAll runs) := by
    rw [reflect_reflectAll]
    exact deriveStatus_applyPatch_desired (reflectAll runs) verdict
  refine ⟨?_, ?_, again, ?_⟩
  · exact lookup_mergeMembers_members _ (lastError_reflectAll_ne runs)
  · rw [reflect_reflectAll]
    exact holds_applyPatch _ _
  · rw [statusReflector, again, reflect_reflectAll]
    exact statusPatch_applyPatch _ _

/-- The snapshot that a collector shows of a query after some operations. -/
def snapshotAfter (ops : List HandlerOp) : Option Snapshot :=
  (runOps defaultConfig (startCollector defaultConfig) ops).snapshot "ns/q"

/-- A query that has failed once. -/
def failedOnce : List HandlerOp :=
  [.register "ns/q" { name := "hits" } .data, .fail "ns/q" .queryError "boom" none 1]

/-- A failure is reflected twice, after the query was first seen without a run. -/
theorem reflect_converges_failedOnce :
    let first : Reflection := ⟨snapshotAfter (failedOnce.take 1), defaultConfig, .still 0⟩
    let run : Reflection := ⟨snapshotAfter failedOnce, defaultConfig, .still 2⟩
    (reflect (reflectAll [first]) run).Holds (run.desired (reflectAll [first])) ∧
      (statusReflector run.snap (reflect (reflectAll [first]) run) run.config (.still 3)).1 =
        Status.empty := by
  intro first run
  have verdict : run.SameVerdict (.still 3) := by
    intro snap registered
    obtain rfl := Option.some.inj registered
    decide +kernel
  obtain ⟨-, held, -, nothing⟩ := reflect_converges [first] run (.still 3) verdict
  exact ⟨held, nothing⟩

/-! ## Repeated events -/

/-- The status has neither failed nodes nor an error. -/
def Status.ShowsNoFailure (status : Status) : Prop :=
  status.failedNodes.getD [] = [] ∧ status.lastError.join = none

/-- A second run on the same snapshot emits no event. -/
def QuietRepeat (status : Status) (run : Reflection) (later : StatusClock) : Prop :=
  (statusReflector run.snap (reflect status run) run.config later).2 = none

/-- Every desired status has a phase. -/
theorem exists_phase_desired (status : Status) (run : Reflection) :
    ∃ phase, (run.desired status).phase = some phase := by
  unfold Reflection.desired
  cases run.snap with
  | none => exact ⟨.pending, rfl⟩
  | some snap =>
      rw [deriveStatus_some, plainStatus]
      split
      · exact ⟨.invalid, rfl⟩
      · exact ⟨derivePhase snap, rfl⟩

section Signature

variable {desired : Status} (status : Status)

/-- A desired status that reports nodes and an error is signed as it stands. -/
theorem eventSignature_applyPatch_of_reported
    (phase : desired.phase = some newPhase)
    (nodes : desired.failedNodes = some hosts)
    (error : desired.lastError = some lastError) :
    eventSignature (status.applyPatch desired) = eventSignature desired := by
  cases lastError <;>
    simp [eventSignature, Status.applyPatch, phase, nodes, error]

/-- Nodes and an error that a desired status does not report stay in the
signature. -/
theorem eventSignature_applyPatch_eq_iff
    (phase : desired.phase = some newPhase)
    (nodes : desired.failedNodes = none)
    (error : desired.lastError = none) :
    eventSignature (status.applyPatch desired) = eventSignature desired ↔
      status.ShowsNoFailure := by
  have sortedNil (hosts : List String) :
      hosts.insertionSort (· ≤ ·) = [] ↔ hosts = [] := by
    rw [← List.length_eq_zero_iff, List.length_insertionSort, List.length_eq_zero_iff]
  simp [eventSignature, Status.applyPatch, Status.ShowsNoFailure, phase, nodes, error, sortedNil]

end Signature

/-- A query that is configured well reports its failed nodes and its error. -/
theorem reported_desired
    (status : Status)
    {run : Reflection}
    (valid : run.IsValid) :
    ∃ hosts error, (run.desired status).failedNodes = some hosts ∧
      (run.desired status).lastError = some error := by
  obtain ⟨snap, found, validity⟩ := valid
  unfold Reflection.desired
  rw [found, deriveStatus_some, plainStatus, validity]
  exact ⟨_, _, rfl, rfl⟩

/-- Any other query reports neither. -/
theorem silent_desired
    (status : Status)
    {run : Reflection}
    (notValid : ¬run.IsValid) :
    (run.desired status).failedNodes = none ∧ (run.desired status).lastError = none := by
  unfold Reflection.desired
  cases found : run.snap with
  | none => exact ⟨rfl, rfl⟩
  | some snap =>
      have invalid : PyText.truthy snap.invalidReason = true := by
        by_contra validity
        exact notValid ⟨snap, found, Bool.eq_false_iff.mpr validity⟩
      rw [deriveStatus_some, plainStatus, invalid]
      exact ⟨rfl, rfl⟩

/-- After any runs, a second run on the same snapshot emits no event exactly when
the query is configured well, or the status stored before had neither failed
nodes nor an error. -/
theorem quietRepeat_iff
    (runs : List Reflection)
    (run : Reflection)
    (later : StatusClock)
    (verdict : run.SameVerdict later) :
    QuietRepeat (reflectAll runs) run later ↔
      run.IsValid ∨ (reflectAll runs).ShowsNoFailure := by
  obtain ⟨phase, hasPhase⟩ := exists_phase_desired (reflectAll runs) run
  have emits : QuietRepeat (reflectAll runs) run later ↔
      eventSignature ((reflectAll runs).applyPatch (run.desired (reflectAll runs))) =
        eventSignature (run.desired (reflectAll runs)) := by
    rw [QuietRepeat, statusReflector, reflect_reflectAll,
      deriveStatus_applyPatch_desired (reflectAll runs) verdict, hasPhase]
    simp
  rw [emits]
  by_cases valid : run.IsValid
  · obtain ⟨hosts, lastError, nodes, error⟩ := reported_desired (reflectAll runs) valid
    exact iff_of_true (eventSignature_applyPatch_of_reported _ hasPhase nodes error) (.inl valid)
  · obtain ⟨nodes, error⟩ := silent_desired (reflectAll runs) valid
    rw [eventSignature_applyPatch_eq_iff _ hasPhase nodes error, or_iff_right valid]

/-- A query that has failed once and is then misconfigured. -/
def failedThenMisconfigured : List HandlerOp :=
  failedOnce ++
    [.register "ns/q" { name := "hits", labels := Dict.ofList [("query_key", "x")] } .data]

/-- A failure is reflected twice, the second time without an event. -/
theorem quietRepeat_failedOnce :
    QuietRepeat (reflectAll []) ⟨snapshotAfter failedOnce, defaultConfig, .still 2⟩
      (.still 3) := by
  refine (quietRepeat_iff [] _ (.still 3) ?_).mpr (.inl ⟨_, rfl, rfl⟩)
  intro snap registered
  obtain rfl := Option.some.inj registered
  decide +kernel

/-- The error of the failure stays in the stored status, so that every run of the
misconfigured query emits an event. -/
theorem not_quietRepeat_of_misconfigured :
    (⟨snapshotAfter failedThenMisconfigured, defaultConfig, .still 3⟩ : Reflection).SameVerdict
        (.still 4) ∧
      ¬QuietRepeat (reflectAll [⟨snapshotAfter failedOnce, defaultConfig, .still 2⟩])
        ⟨snapshotAfter failedThenMisconfigured, defaultConfig, .still 3⟩ (.still 4) := by
  constructor
  · intro snap registered
    obtain rfl := Option.some.inj registered
    decide +kernel
  · unfold QuietRepeat
    decide +kernel

/-! ## The markers of a misconfigured query -/

/-- The status shows the query as misconfigured. -/
def Status.ShowsInvalid (status : Status) : Prop :=
  status.invalidReason.isSome ∨
    ∃ condition ∈ status.conditions.getD [], condition.type = .valid ∧ condition.status = false

/-- After every run on a registered key the stored status shows the query as
misconfigured exactly when that run found it so. -/
def MarkersFollowSpec (runs : List Reflection) : Prop :=
  ∀ first run rest, runs = first ++ run :: rest → run.snap.isSome →
    ((reflectAll (first ++ [run])).ShowsInvalid ↔ run.IsInvalid)

/-- No run finds the query configured well after one that found it
misconfigured. -/
def NeverRepaired (runs : List Reflection) : Prop :=
  ∀ first run rest, runs = first ++ run :: rest → run.IsValid →
    ∀ earlier ∈ first, ¬earlier.IsInvalid

/-- A desired status has a reason exactly when the run finds a misconfigured
query. -/
theorem isSome_invalidReason_desired_iff (status : Status) (run : Reflection) :
    (run.desired status).invalidReason.isSome ↔ run.IsInvalid := by
  unfold Reflection.desired Reflection.IsInvalid
  cases run.snap with
  | none => simp [deriveStatus]
  | some snap =>
      cases validity : PyText.truthy snap.invalidReason <;>
        simp [deriveStatus_some, plainStatus, runtimeStatus, validity]

/-- The stored reason stays once a run has found the query misconfigured. -/
theorem isSome_invalidReason_reflectAll_iff (runs : List Reflection) :
    (reflectAll runs).invalidReason.isSome ↔ ∃ run ∈ runs, run.IsInvalid := by
  induction runs using List.reverseRecOn with
  | nil => simp [reflectAll, Status.empty]
  | append_singleton runs run inductionHypothesis =>
      rw [reflectAll_append_singleton, reflect_reflectAll, Status.applyPatch,
        Option.isSome_or, Bool.or_eq_true, isSome_invalidReason_desired_iff,
        inductionHypothesis]
      simp [or_comm]

/-- The condition of a misconfigured query is stored only after a run that found
one. -/
theorem exists_isInvalid_of_get?
    {runs : List Reflection}
    (stored : ((reflectAll runs).table.byType.get? .valid).isSome) :
    ∃ run ∈ runs, run.IsInvalid := by
  induction runs using List.reverseRecOn with
  | nil => cases stored
  | append_singleton runs run inductionHypothesis =>
      by_cases invalid : run.IsInvalid
      · exact ⟨run, by simp, invalid⟩
      · have unwritten : ∀ write ∈ run.writes, write.type ≠ .valid := fun write member same =>
          invalid ((exists_writes_valid_iff run).mp ⟨write, member, same⟩)
        rw [get?_table_reflectAll_append_singleton,
          ConditionTable.get?_writeAll_of_notMem unwritten] at stored
        obtain ⟨earlier, member, earlierInvalid⟩ := inductionHypothesis stored
        exact ⟨earlier, List.mem_append_left _ member, earlierInvalid⟩

/-- The stored status shows the query as misconfigured from the first run on that
found it so. -/
theorem showsInvalid_reflectAll_iff (runs : List Reflection) :
    (reflectAll runs).ShowsInvalid ↔ ∃ run ∈ runs, run.IsInvalid := by
  constructor
  · rintro (reason | ⟨condition, member, isValidity, -⟩)
    · exact (isSome_invalidReason_reflectAll_iff runs).mp reason
    · rw [conditions_reflectAll, ConditionTable.mem_sorted_iff, isValidity] at member
      exact exists_isInvalid_of_get? (Option.isSome_of_mem member)
  · exact fun found => .inl ((isSome_invalidReason_reflectAll_iff runs).mpr found)

/-- Along a sequence of runs the markers follow the spec exactly when no run finds
the query configured well after one that found it misconfigured. -/
theorem markersFollowSpec_iff (runs : List Reflection) :
    MarkersFollowSpec runs ↔ NeverRepaired runs := by
  constructor
  · rintro follow first run rest split valid earlier member invalid
    have registered : run.snap.isSome := valid.elim fun _ found => Option.isSome_of_mem found.1
    have shown := (showsInvalid_reflectAll_iff (first ++ [run])).mpr
      ⟨earlier, List.mem_append_left _ member, invalid⟩
    exact not_isInvalid_of_isValid valid
      ((follow first run rest split registered).mp shown)
  · rintro never first run rest split registered
    rw [showsInvalid_reflectAll_iff]
    constructor
    · rintro ⟨other, member, invalid⟩
      obtain valid | runInvalid := isValid_or_isInvalid registered
      · obtain inFirst | rfl := by simpa using member
        · exact absurd invalid (never first run rest split valid other inFirst)
        · exact invalid
      · exact runInvalid
    · exact fun invalid => ⟨run, by simp, invalid⟩

/-- The markers of a reserved label stay after the label is removed. -/
theorem not_markersFollowSpec_of_repair :
    ¬MarkersFollowSpec
      [⟨snapshotAfter (failedThenMisconfigured.drop 2), defaultConfig, .still 1⟩,
        ⟨snapshotAfter (failedThenMisconfigured.drop 2 ++
          [.register "ns/q" { name := "hits" } .data]), defaultConfig, .still 2⟩] := by
  intro follow
  obtain ⟨snap, found, invalid⟩ := (follow [_] _ [] rfl rfl).mp (.inl rfl)
  obtain rfl := Option.some.inj found
  exact absurd invalid (by decide)

end Promch
