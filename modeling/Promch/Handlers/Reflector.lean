import Promch.Handlers.Conditions
import Promch.Library.MergePatch

/-!
# The status reflector

A timer derives the status of a resource from its snapshot, patches the fields
that differ from the stored status and emits an event when the situation
changed.  The patch reaches the stored status as a JSON merge patch, which never
removes a field but a null error.
-/

namespace Promch

/-- The text of a phase. -/
def Phase.text : Phase → String
  | .pending => "Pending"
  | .healthy => "Healthy"
  | .degraded => "Degraded"
  | .failing => "Failing"
  | .expired => "Expired"
  | .invalid => "Invalid"

/-- The text of a condition type. -/
def ConditionType.text : ConditionType → String
  | .valid => "Valid"
  | .querySucceeded => "QuerySucceeded"
  | .keepingUp => "KeepingUp"
  | .ready => "Ready"
  | .allNodesResponding => "AllNodesResponding"

/-- What makes a status change material enough to emit an event: the phase, the
failed nodes and the error type. -/
def eventSignature (status : Status) : Option Phase × List String × Option ErrorType :=
  (status.phase, (status.failedNodes.getD []).insertionSort (· ≤ ·),
    status.lastError.join.map LastError.type)

/-- A short reason for the current phase. -/
def phaseDetail (snap : Option Snapshot) : String :=
  match snap with
  | none => ""
  | some snap =>
      if PyText.truthy snap.waitingReason then snap.waitingReason.getD ""
      else if snap.failedNodes ≠ [] then
        "nodes not responding: " ++ ", ".intercalate snap.failedNodes
      else if snap.up then ""
      else
        match snap.lastError with
        | some error => error.type.text ++ ": " ++ error.message
        | none => ""

inductive EventType
  | normal
  | warning
  deriving DecidableEq

/-- An event of the resource. -/
structure Event where
  type : EventType
  reason : String
  message : String
  deriving DecidableEq

/-- Phases whose events are warnings. -/
def Phase.isWarning : Phase → Bool
  | .failing => true
  | .expired => true
  | .degraded => true
  | .invalid => true
  | .pending => false
  | .healthy => false

/-- The event of a change to a phase. -/
def transitionEvent (oldPhase : Option Phase) (newPhase : Phase) (detail : String) : Event where
  type := if newPhase.isWarning then .warning else .normal
  reason := newPhase.text
  message := (oldPhase.map Phase.text).getD "None" ++ " -> " ++ newPhase.text ++
    if detail = "" then "" else ": " ++ detail

/-- A desired field, unless the stored one reads the same. -/
def changedField [DecidableEq α] (desired stored : Option α) : Option α :=
  if stored = desired then none else desired

/-- The desired fields that differ from the stored ones.  A missing error reads
as null. -/
def statusPatch (status desired : Status) : Status where
  phase := changedField desired.phase status.phase
  invalidReason := changedField desired.invalidReason status.invalidReason
  consecutiveFailures := changedField desired.consecutiveFailures status.consecutiveFailures
  skippedTicks := changedField desired.skippedTicks status.skippedTicks
  lastSuccess := changedField desired.lastSuccess status.lastSuccess
  lastError := desired.lastError.filter fun error => status.lastError.join ≠ error
  failedNodes := changedField desired.failedNodes status.failedNodes
  conditions := changedField desired.conditions status.conditions

/-- One run of the reflector: the patch and the event. -/
def statusReflector
    (snap : Option Snapshot)
    (status : Status)
    (config : OperatorConfig)
    (clock : StatusClock) : Status × Option Event :=
  let desired := deriveStatus snap status config clock
  let event := desired.phase.bind fun newPhase =>
    if eventSignature status ≠ eventSignature desired then
      some (transitionEvent status.phase newPhase (phaseDetail snap))
    else none
  (statusPatch status desired, event)

/-- The stored status after a patch; a null error is removed. -/
def Status.applyPatch (status patch : Status) : Status where
  phase := patch.phase.or status.phase
  invalidReason := patch.invalidReason.or status.invalidReason
  consecutiveFailures := patch.consecutiveFailures.or status.consecutiveFailures
  skippedTicks := patch.skippedTicks.or status.skippedTicks
  lastSuccess := patch.lastSuccess.or status.lastSuccess
  lastError :=
    match patch.lastError with
    | none => status.lastError
    | some error => error.map some
  failedNodes := patch.failedNodes.or status.failedNodes
  conditions := patch.conditions.or status.conditions

/-- One run of the timer: the snapshot it finds, the configuration of the operator
and the clock readings. -/
structure Reflection where
  snap : Option Snapshot
  config : OperatorConfig
  clock : StatusClock

/-- The stored status after one run of the timer. -/
def reflect (status : Status) (run : Reflection) : Status :=
  status.applyPatch (statusReflector run.snap status run.config run.clock).1

/-- The stored status after several runs of the timer. -/
def reflectAll (runs : List Reflection) : Status :=
  runs.foldl reflect Status.empty

theorem reflectAll_append_singleton (runs : List Reflection) (run : Reflection) :
    reflectAll (runs ++ [run]) = reflect (reflectAll runs) run := by
  simp [reflectAll]

/-! ## The stored status -/

/-- The desired status of a run. -/
def Reflection.desired (run : Reflection) (status : Status) : Status :=
  deriveStatus run.snap status run.config run.clock

theorem changedField_or [DecidableEq α] (desired stored : Option α) :
    (changedField desired stored).or stored = desired.or stored := by
  unfold changedField
  split
  · next same =>
      subst same
      cases stored <;> rfl
  · rfl

theorem changedField_self_or [DecidableEq α] (desired stored : Option α) :
    changedField desired (desired.or stored) = none := by
  cases desired with
  | none => exact ite_self none
  | some value => exact if_pos rfl

/-- Patching only what reads differently changes nothing, provided that no
stored error is null. -/
theorem applyPatch_statusPatch
    {status : Status}
    (noNull : status.lastError ≠ some none)
    (desired : Status) :
    status.applyPatch (statusPatch status desired) = status.applyPatch desired := by
  have sameError : (status.applyPatch (statusPatch status desired)).lastError =
      (status.applyPatch desired).lastError := by
    cases wanted : desired.lastError with
    | none => simp [Status.applyPatch, statusPatch, wanted]
    | some error =>
        by_cases reads : status.lastError.join = error
        · have kept : status.lastError = error.map some := by
            rcases stored : status.lastError with _ | _ | old
            · simp [← reads, stored]
            · exact absurd stored noNull
            · simp [← reads, stored]
          have omitted : (statusPatch status desired).lastError = none := by
            simp [statusPatch, wanted, Option.filter_some, reads]
          simp only [Status.applyPatch, wanted, omitted, kept]
        · have patched : (statusPatch status desired).lastError = some error := by
            simp [statusPatch, wanted, Option.filter_some, reads]
          simp only [Status.applyPatch, wanted, patched]
  simp only [Status.applyPatch, statusPatch, changedField_or, Status.mk.injEq, true_and,
    and_true]
  exact sameError

/-- Once it is applied, a desired status has nothing left to patch. -/
theorem statusPatch_applyPatch (status desired : Status) :
    statusPatch (status.applyPatch desired) desired = Status.empty := by
  have noError : (statusPatch (status.applyPatch desired) desired).lastError = none := by
    rcases wanted : desired.lastError with _ | _ | error <;>
      simp [Status.applyPatch, statusPatch, wanted]
  simp only [Status.applyPatch, statusPatch, changedField_self_or, Status.empty,
    Status.mk.injEq, true_and, and_true]
  exact noError

/-- No patch stores a null error. -/
theorem lastError_applyPatch_ne
    {status : Status}
    (noNull : status.lastError ≠ some none)
    (patch : Status) :
    (status.applyPatch patch).lastError ≠ some none := by
  rcases patched : patch.lastError with _ | _ | error
  · simpa [Status.applyPatch, patched] using noNull
  · simp [Status.applyPatch, patched]
  · simp [Status.applyPatch, patched]

/-- No sequence of runs leaves a null error. -/
theorem lastError_reflectAll_ne (runs : List Reflection) :
    (reflectAll runs).lastError ≠ some none := by
  induction runs using List.reverseRecOn with
  | nil => rintro ⟨⟩
  | append_singleton runs run inductionHypothesis =>
      rw [reflectAll_append_singleton]
      exact lastError_applyPatch_ne inductionHypothesis _

/-- A run applies its desired status. -/
theorem reflect_reflectAll (runs : List Reflection) (run : Reflection) :
    reflect (reflectAll runs) run =
      (reflectAll runs).applyPatch (run.desired (reflectAll runs)) :=
  applyPatch_statusPatch (lastError_reflectAll_ne runs) _

/-! ## The merge patch -/

/-- The scalars of a status. -/
inductive StatusScalar
  | text (text : String)
  | number (number : Int)
  | time (time : Time)

section Json

/-- The JSON of a last success. -/
def LastSuccess.toJson (success : LastSuccess) : Json StatusScalar :=
  .object
    [("timestamp", .atom (.time success.timestamp)),
      ("rowCount", .atom (.number success.rowCount)),
      ("durationMs", .atom (.number success.durationMs))]

/-- The JSON of an error. -/
def LastError.toJson (error : LastError) : Json StatusScalar :=
  .object
    [("type", .atom (.text error.type.text)),
      ("message", .atom (.text error.message)),
      ("timestamp", .atom (.time error.timestamp))]

/-- The JSON of a condition. -/
def Condition.toJson (condition : Condition) : Json StatusScalar :=
  .object
    [("type", .atom (.text condition.type.text)),
      ("status", .atom (.text (if condition.status then "True" else "False"))),
      ("lastTransitionTime", .atom (.time condition.lastTransitionTime)),
      ("reason", .atom (.text condition.reason)),
      ("message", .atom (.text condition.message))]

/-- The JSON of a counter. -/
def countToJson (count : Nat) : Json StatusScalar :=
  .atom (.number count)

/-- The JSON of an error field, which may be null. -/
def errorToJson : Option LastError → Json StatusScalar
  | none => .null
  | some error => error.toJson

/-- The fields of a status with their JSON. -/
def Status.fields (status : Status) : List (String × Option (Json StatusScalar)) :=
  [("phase", status.phase.map fun phase => .atom (.text phase.text)),
    ("invalidReason", status.invalidReason.map fun reason => .atom (.text reason)),
    ("consecutiveFailures", status.consecutiveFailures.map countToJson),
    ("skippedTicks", status.skippedTicks.map countToJson),
    ("lastSuccess", status.lastSuccess.map LastSuccess.toJson),
    ("lastError", status.lastError.map errorToJson),
    ("failedNodes", status.failedNodes.map fun hosts =>
      .array (hosts.map fun host => .atom (.text host))),
    ("conditions", status.conditions.map fun conditions =>
      .array (conditions.map Condition.toJson))]

/-- The members of the JSON object of a status: its present fields. -/
def Status.members (status : Status) : List (String × Json StatusScalar) :=
  Json.presentMembers status.fields

/-- Every status has the same fields. -/
theorem map_fst_fields (status other : Status) :
    status.fields.map Prod.fst = other.fields.map Prod.fst := rfl

theorem nodup_map_fst_fields (status : Status) : (status.fields.map Prod.fst).Nodup := by
  simp [Status.fields]

/-- The members of a last success are replaced one by one. -/
theorem mergeValue_lastSuccess (success : LastSuccess) (old : Option LastSuccess) :
    Json.mergeValue (some success.toJson) (old.map LastSuccess.toJson) = some success.toJson := by
  cases old <;>
    simp [LastSuccess.toJson, Json.mergeValue, Json.mergePatch, Json.mergeMembers,
      Json.mergeMember, Json.members, Dict.assocSet]

/-- The members of an error are replaced one by one. -/
theorem mergeValue_lastError (error : LastError) (old : Option LastError) :
    Json.mergeValue (some error.toJson) (old.map LastError.toJson) = some error.toJson := by
  cases old <;>
    simp [LastError.toJson, Json.mergeValue, Json.mergePatch, Json.mergeMembers,
      Json.mergeMember, Json.members, Dict.assocSet]

/-- A null error removes the stored one; any other error replaces it. -/
theorem mergeValue_errorToJson
    {old : Option (Option LastError)}
    (noNull : old ≠ some none)
    (error : Option LastError) :
    Json.mergeValue (some (errorToJson error)) (old.map errorToJson) =
      (error.map some).map errorToJson := by
  cases error with
  | none => rfl
  | some error =>
      obtain rfl | ⟨stored, rfl⟩ : old = none ∨ ∃ stored, old = some (some stored) := by
        rcases old with _ | _ | stored
        · exact .inl rfl
        · exact absurd rfl noNull
        · exact .inr ⟨stored, rfl⟩
      · exact mergeValue_lastError error none
      · exact mergeValue_lastError error (some stored)

/-- A patch merges field by field. -/
theorem fields_applyPatch
    {status : Status}
    (patch : Status)
    (noNull : status.lastError ≠ some none) :
    (status.applyPatch patch).fields = Json.mergeFields patch.fields status.fields := by
  have errors : (status.applyPatch patch).lastError.map errorToJson =
      Json.mergeValue (patch.lastError.map errorToJson) (status.lastError.map errorToJson) := by
    rw [Status.applyPatch]
    cases patch.lastError with
    | none => rfl
    | some error => exact (mergeValue_errorToJson noNull error).symm
  simp only [Status.fields, Json.mergeFields, List.zipWith_cons_cons, List.zipWith_nil_left,
    List.cons.injEq, Prod.mk.injEq, true_and, and_true]
  refine ⟨?_, ?_, ?_, ?_, ?_, errors, ?_, ?_⟩
  · exact (Json.mergeValue_map (fun _ _ => rfl) patch.phase status.phase).symm
  · exact (Json.mergeValue_map (fun _ _ => rfl) patch.invalidReason status.invalidReason).symm
  · exact (Json.mergeValue_map (fun _ _ => rfl) patch.consecutiveFailures
      status.consecutiveFailures).symm
  · exact (Json.mergeValue_map (fun _ _ => rfl) patch.skippedTicks status.skippedTicks).symm
  · exact (Json.mergeValue_map mergeValue_lastSuccess patch.lastSuccess status.lastSuccess).symm
  · exact (Json.mergeValue_map (fun _ _ => rfl) patch.failedNodes status.failedNodes).symm
  · exact (Json.mergeValue_map (fun _ _ => rfl) patch.conditions status.conditions).symm

/-- Applying a patch to the stored fields is merging its JSON, provided that no
stored error is null. -/
theorem lookup_mergeMembers_members
    {status : Status}
    (patch : Status)
    (noNull : status.lastError ≠ some none)
    (name : String) :
    (Json.mergeMembers patch.members status.members).lookup name =
      (status.applyPatch patch).members.lookup name := by
  calc
    (Json.mergeMembers patch.members status.members).lookup name
        = ((Json.mergeFields patch.fields status.fields).lookup name).join :=
      Json.lookup_mergeMembers_presentMembers (map_fst_fields patch status)
        (nodup_map_fst_fields status) name
    _ = ((status.applyPatch patch).fields.lookup name).join := by
      rw [fields_applyPatch patch noNull]
    _ = (status.applyPatch patch).members.lookup name :=
      (Json.lookup_presentMembers (nodup_map_fst_fields _) name).symm

end Json

end Promch
