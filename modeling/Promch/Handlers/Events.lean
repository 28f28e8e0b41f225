import Mathlib.Data.List.Destutter
import Promch.Handlers.Reflections

/-!
# The events of a query

The events that the reflector emits over any number of runs form a chain: each one
starts from the phase that the one before has announced.  Leaving out those that only
tell of other nodes or another error, they announce the phases of the snapshots, every
change once and in its order.
-/

namespace Promch

/-- A transition that an event tells. -/
structure Transition where
  oldPhase : Option Phase
  newPhase : Phase
  detail : String

/-- The event of a transition. -/
def Transition.event (transition : Transition) : Event :=
  transitionEvent transition.oldPhase transition.newPhase transition.detail

/-- The transition changes the phase. -/
def Transition.changesPhase (transition : Transition) : Bool :=
  transition.oldPhase ≠ some transition.newPhase

/-- The phase that a snapshot shows. -/
def phaseOf : Option Snapshot → Phase
  | none => .pending
  | some snap => if PyText.truthy snap.invalidReason then .invalid else derivePhase snap

/-- The events of several runs of the timer, from a stored status on. -/
def eventsFrom (status : Status) : List Reflection → List Event
  | [] => []
  | run :: rest =>
      (statusReflector run.snap status run.config run.clock).2.toList ++
        eventsFrom (reflect status run) rest

/-- Each transition starts where the one before has ended, the first one from the
given phase, and the last one ends in the given phase. -/
def Links (start : Option Phase) : List Transition → Option Phase → Prop
  | [], last => start = last
  | transition :: rest, last =>
      transition.oldPhase = start ∧ Links (some transition.newPhase) rest last

variable {status : Status}

/-- The desired phase is that of the snapshot. -/
theorem phase_desired (status : Status) (run : Reflection) :
    (run.desired status).phase = some (phaseOf run.snap) := by
  unfold Reflection.desired phaseOf
  cases run.snap with
  | none => rfl
  | some snap =>
      rw [deriveStatus_some, plainStatus]
      split
      · next invalid => simp [invalid]
      · next valid => simp [valid, runtimeStatus]

/-- A run stores the phase of its snapshot. -/
theorem phase_reflect (noNull : status.lastError ≠ some none) (run : Reflection) :
    (reflect status run).phase = some (phaseOf run.snap) := by
  have stored : reflect status run = status.applyPatch (run.desired status) :=
    applyPatch_statusPatch noNull _
  simp [stored, Status.applyPatch, phase_desired]

/-- The event of a run, if it emits one, tells the transition to the phase of its
snapshot; a run that changes the phase emits one. -/
theorem event_cases (status : Status) (run : Reflection) :
    (∃ detail, (statusReflector run.snap status run.config run.clock).2 =
      some (Transition.event ⟨status.phase, phaseOf run.snap, detail⟩)) ∨
    (statusReflector run.snap status run.config run.clock).2 = none ∧
      status.phase = some (phaseOf run.snap) := by
  have desired : (deriveStatus run.snap status run.config run.clock).phase =
      some (phaseOf run.snap) := phase_desired status run
  simp only [statusReflector, desired, Option.bind_some]
  split
  · exact .inl ⟨phaseDetail run.snap, rfl⟩
  · next unchanged =>
      refine .inr ⟨rfl, ?_⟩
      have same := congrArg Prod.fst (not_not.mp unchanged)
      exact same.trans desired

/-- A transition to a phase, before the transitions that go on from it, announces that
phase if it is new. -/
private theorem announced_cons
    {transitions : List Transition}
    {phases : List Phase}
    {phase : Phase}
    (announced : [phase] ++ (transitions.filter Transition.changesPhase).map Transition.newPhase =
      ([phase] ++ phases).destutter (· ≠ ·))
    (start : Option Phase)
    (detail : String) :
    start.toList ++ (((⟨start, phase, detail⟩ : Transition) :: transitions).filter
        Transition.changesPhase).map Transition.newPhase =
      (start.toList ++ phase :: phases).destutter (· ≠ ·) := by
  have changes : Transition.changesPhase ⟨start, phase, detail⟩ =
      decide (start ≠ some phase) := rfl
  rw [List.filter_cons, changes]
  cases start with
  | none => simpa using announced
  | some old =>
      by_cases same : old = phase
      · subst same
        simpa [List.destutter_cons'] using announced
      · simp only [ne_eq, Option.some.injEq, same, not_false_eq_true, decide_true, if_true]
        simpa [List.destutter_cons', same] using announced

/-- From a stored status on, the events form a chain of transitions to the last stored
phase, and the changes among them are those of the phases of the snapshots. -/
theorem exists_transitions_from
    (runs : List Reflection)
    (noNull : status.lastError ≠ some none) :
    ∃ transitions : List Transition,
      eventsFrom status runs = transitions.map Transition.event ∧
      Links status.phase transitions (runs.foldl reflect status).phase ∧
      status.phase.toList ++ (transitions.filter Transition.changesPhase).map
        Transition.newPhase =
          (status.phase.toList ++ runs.map fun run => phaseOf run.snap).destutter (· ≠ ·) := by
  induction runs generalizing status with
  | nil =>
      refine ⟨[], rfl, rfl, ?_⟩
      cases status.phase <;> rfl
  | cons run rest inductionHypothesis =>
      have stored := phase_reflect noNull run
      have noNullLater : (reflect status run).lastError ≠ some none :=
        lastError_applyPatch_ne noNull _
      obtain ⟨transitions, events, links, phases⟩ := inductionHypothesis noNullLater
      rw [stored] at links phases
      obtain ⟨detail, emitted⟩ | ⟨silent, same⟩ := event_cases status run
      · refine ⟨⟨status.phase, phaseOf run.snap, detail⟩ :: transitions, ?_, ⟨rfl, links⟩, ?_⟩
        · rw [eventsFrom, emitted, events]
          rfl
        · exact announced_cons phases status.phase detail
      · refine ⟨transitions, ?_, ?_, ?_⟩
        · rw [eventsFrom, silent, events]
          rfl
        · rw [same]
          exact links
        · rw [same]
          simpa [List.destutter_cons'] using phases

/-- Over any number of runs the events form a chain of transitions from no phase to the
stored one; the changes of the phase among them are those that the snapshots show, each
announced once and in its order. -/
theorem events_announce_phases (runs : List Reflection) :
    ∃ transitions : List Transition,
      eventsFrom Status.empty runs = transitions.map Transition.event ∧
      Links none transitions (reflectAll runs).phase ∧
      (transitions.filter Transition.changesPhase).map Transition.newPhase =
        (runs.map fun run => phaseOf run.snap).destutter (· ≠ ·) := by
  have noNull : Status.empty.lastError ≠ some none := nofun
  exact exists_transitions_from runs noNull

end Promch
