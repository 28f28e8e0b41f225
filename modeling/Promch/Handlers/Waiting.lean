import Promch.Handlers.DataReports
import Promch.Handlers.Scheduler
import Promch.Handlers.Views

/-!
# Waiting for a connection

A tick whose connection is not ready marks the entry as waiting and leaves its
other flags alone.  The phase looks at the health of the entry first, so that a
query which was healthy before its connection went is held back and still
reported as healthy.
-/

namespace Promch

/-- The derived status shows the query as succeeding on all nodes and as
running. -/
structure Status.ShowsHealth (status : Status) : Prop where
  querySucceeded : status.Shows .querySucceeded true
  allNodesResponding : status.Shows .allNodesResponding true
  ready : status.Shows .ready true

/-- In every state of the run, a status derived for the key in the healthy phase
shows its health. -/
def HealthyShowsHealth
    (config : SchedulerConfig)
    (key : String)
    (steps : List OperatorStep) : Prop :=
  ∀ first rest, steps = first ++ rest → ∀ current clock,
    (deriveStatus (((startOperator config).run config first).collector.snapshot key) current
        config.toOperatorConfig clock).phase = some .healthy →
      (deriveStatus (((startOperator config).run config first).collector.snapshot key) current
        config.toOperatorConfig clock).ShowsHealth

/-- No tick of the key holds back an entry whose last run succeeded on all
nodes. -/
def HoldsBackNoHealthy
    (config : SchedulerConfig)
    (key : String)
    (steps : List OperatorStep) : Prop :=
  ∀ first spec loopTime wallTime rest,
    steps = first ++ .tick key spec loopTime wallTime :: rest →
      ∀ entry,
        ((startOperator config).run config first).collector.entries.get? key = some entry →
          entry.invalidReason = none → entry.up = true → entry.failedNodes = [] →
            ((startOperator config).run config first).isReady spec.connectionRef = true

/-- An entry whose last run succeeded on all nodes is not waiting. -/
def CachedMetric.IsCalm (entry : CachedMetric) : Prop :=
  entry.up = true → entry.failedNodes = [] → entry.waitingReason = none

/-- The reason of a held back tick is never empty. -/
theorem truthy_waitingForConnection (connRef : String) :
    PyText.truthy (some (waitingForConnection connRef)) = true := by
  apply PyText.truthy_some_of_ne
  intro empty
  unfold waitingForConnection at empty
  simp [String.append_eq_empty_iff] at empty

section Status

variable {entry : CachedMetric} (config : OperatorConfig) (current : Status)
  (clock : StatusClock)

/-- The healthy phase is that of a valid entry whose last run succeeded on all
nodes. -/
theorem phase_deriveStatus_eq_healthy_iff (isCurrent : entry.UpIsCurrent) :
    (deriveStatus (some entry.snapshot) current config clock).phase = some .healthy ↔
      entry.isInvalid = false ∧ entry.up = true ∧ entry.failedNodes = [] := by
  cases invalid : entry.isInvalid with
  | true =>
      have misconfigured : PyText.truthy entry.snapshot.invalidReason = true := invalid
      rw [phase_deriveStatus_of_invalid current config clock misconfigured]
      simp
  | false =>
      have valid : PyText.truthy entry.snapshot.invalidReason = false := invalid
      rw [phase_deriveStatus current config clock valid]
      unfold CachedMetric.UpIsCurrent at isCurrent
      simp only [derivePhase, CachedMetric.snapshot, Option.some.injEq, true_and]
      grind

/-- In the healthy phase the status shows its health exactly when the entry is
not waiting. -/
theorem showsHealth_deriveStatus_iff
    (valid : entry.isInvalid = false)
    (isUp : entry.up = true)
    (noneFailed : entry.failedNodes = []) :
    (deriveStatus (some entry.snapshot) current config clock).ShowsHealth ↔
      PyText.truthy entry.waitingReason = false := by
  have writes : conditionWrites entry.snapshot clock = runtimeWrites entry.snapshot clock :=
    if_neg (Bool.eq_false_iff.mp valid)
  have shown : ∀ write ∈ runtimeWrites entry.snapshot clock,
      (deriveStatus (some entry.snapshot) current config clock).Shows write.type write.status :=
    fun write member => shows_deriveStatus current (by rw [writes]; exact member) config
  have succeeded := shown (querySucceededWrite entry.snapshot clock) (by simp [runtimeWrites])
  have ready := shown (readyWrite entry.snapshot clock) (by simp [runtimeWrites])
  have responding := shown (allNodesRespondingWrite entry.snapshot clock)
    (by simp [runtimeWrites])
  have isUp' : (querySucceededWrite entry.snapshot clock).status = true := isUp
  have allRespond : (allNodesRespondingWrite entry.snapshot clock).status = true :=
    decide_eq_true noneFailed
  rw [isUp'] at succeeded
  rw [allRespond] at responding
  constructor
  · intro health
    have isReady : true = !PyText.truthy entry.waitingReason :=
      (ready.iff_eq true).mp health.ready
    simpa using isReady.symm
  · intro calm
    have isReady : (readyWrite entry.snapshot clock).status = true := by
      rw [readyWrite, CachedMetric.snapshot, calm]
      rfl
    rw [isReady] at ready
    exact ⟨succeeded, responding, ready⟩

end Status

section Run

variable {config : SchedulerConfig} {operator : Operator} {key : String} {entry : CachedMetric}

/-- The end of an execution leaves no waiting mark, unless it is stale. -/
theorem ExecutionEnd.isCalm_change
    (config : OperatorConfig)
    (ended : ExecutionEnd)
    (tickTs now : Time)
    (calm : entry.IsCalm) :
    (ended.change config entry tickTs now).IsCalm := by
  cases ended with
  | connectionGone message => exact fun _ _ => rfl
  | reported outcome =>
      cases outcome with
      | success rows durationSeconds failedNodes =>
          simp only [change, CachedMetric.update]
          split
          · exact calm
          · exact fun _ _ => rfl
      | failure errorType message failedNodes =>
          rw [change, entry.fail_eq config errorType message failedNodes now]
          exact fun _ _ => rfl

/-- Only a tick that holds back a healthy entry breaks its calm. -/
theorem isCalm_of_entryStep
    {step : OperatorStep}
    {after : CachedMetric}
    (calm : entry.IsCalm)
    (allowed : ∀ spec loopTime wallTime, step = .tick key spec loopTime wallTime →
      entry.invalidReason = none → entry.up = true → entry.failedNodes = [] →
        operator.isReady spec.connectionRef = true)
    (stepped : EntryStep config operator key entry step (some after)) :
    after.IsCalm := by
  cases stepped with
  | kept | edited | skipped | launched | finished => exact calm
  | heldBack spec loopTime wallTime valid waiting =>
      intro isUp noneFailed
      have ready := allowed spec loopTime wallTime rfl valid isUp noneFailed
      rw [waiting] at ready
      cases ready
  | ended now pending ofKey executed => exact ExecutionEnd.isCalm_change _ _ _ _ calm

/-- In a run that holds back no healthy entry the entry of the key is calm in
every state. -/
theorem isCalm_run
    {steps : List OperatorStep}
    (allowed : HoldsBackNoHealthy config key steps)
    (registered : ((startOperator config).run config steps).collector.entries.get? key =
      some entry) :
    entry.IsCalm := by
  refine Operator.entry_run_induction
    (motive := fun steps entry => HoldsBackNoHealthy config key steps → entry.IsCalm)
    (fun _ _ _ _ _ _ isUp => Bool.noConfusion isUp) ?_ registered allowed
  intro earlier step before after found calm stepped allowed
  have earlierAllowed : HoldsBackNoHealthy config key earlier := by
    rintro first spec loopTime wallTime rest rfl
    exact allowed first spec loopTime wallTime (rest ++ [step]) (by simp)
  refine isCalm_of_entryStep (calm earlierAllowed) ?_ stepped
  rintro spec loopTime wallTime rfl
  exact allowed earlier spec loopTime wallTime [] rfl before found

/-- A tick that holds back a healthy entry leaves a status that is healthy and
not ready. -/
theorem isReady_of_healthyShowsHealth
    {first rest : List OperatorStep}
    {spec : QuerySpec}
    {loopTime wallTime : Time}
    (shows : HealthyShowsHealth config key
      (first ++ .tick key spec loopTime wallTime :: rest))
    (registered : ((startOperator config).run config first).collector.entries.get? key =
      some entry)
    (valid : entry.invalidReason = none)
    (isUp : entry.up = true)
    (noneFailed : entry.failedNodes = []) :
    ((startOperator config).run config first).isReady spec.connectionRef = true := by
  by_contra notReady
  have waiting : ((startOperator config).run config first).isReady spec.connectionRef = false :=
    Bool.eq_false_iff.mpr notReady
  have action := (Operator.tickAction_eq_markWaiting_iff config registered spec _).mpr
    ⟨valid, waiting, rfl⟩
  have marked : ((startOperator config).run config
      (first ++ [.tick key spec loopTime wallTime])).collector.entries.get? key =
        some (entry.markWaiting (waitingForConnection spec.connectionRef)) := by
    rw [Operator.run_append_singleton, Operator.step, Operator.collector_tick, action]
    simp [Collector.markWaiting, registered]
  have isCurrent := (Operator.reachable_run config
    (first ++ [.tick key spec loopTime wallTime])).upIsCurrent marked
  have stillValid : (entry.markWaiting
      (waitingForConnection spec.connectionRef)).isInvalid = false := by
    rw [CachedMetric.isInvalid, CachedMetric.markWaiting, valid]
    rfl
  have shown := shows (first ++ [.tick key spec loopTime wallTime]) rest (by simp)
    Status.empty (.still 0)
  rw [Collector.snapshot_of_registered marked] at shown
  have calm := (showsHealth_deriveStatus_iff _ _ _ stillValid isUp noneFailed).mp
    (shown ((phase_deriveStatus_eq_healthy_iff _ _ _ isCurrent).mpr
      ⟨stillValid, isUp, noneFailed⟩))
  exact Bool.noConfusion (calm.symm.trans (truthy_waitingForConnection spec.connectionRef))

end Run

/-- Along a run every healthy status shows its health exactly when no tick of the
key holds back an entry whose last run succeeded on all nodes. -/
theorem healthyShowsHealth_iff
    (config : SchedulerConfig)
    (key : String)
    (steps : List OperatorStep) :
    HealthyShowsHealth config key steps ↔ HoldsBackNoHealthy config key steps := by
  constructor
  · rintro shows first spec loopTime wallTime rest rfl entry registered valid isUp noneFailed
    exact isReady_of_healthyShowsHealth shows registered valid isUp noneFailed
  · rintro allowed first rest rfl current clock healthy
    have firstAllowed : HoldsBackNoHealthy config key first := by
      rintro start spec loopTime wallTime later rfl
      exact allowed start spec loopTime wallTime (later ++ rest) (by simp)
    cases found : ((startOperator config).run config first).collector.entries.get? key with
    | none =>
        rw [Collector.snapshot, found] at healthy
        cases healthy
    | some entry =>
        have isCurrent := (Operator.reachable_run config first).upIsCurrent found
        rw [Collector.snapshot_of_registered found] at healthy ⊢
        obtain ⟨valid, isUp, noneFailed⟩ :=
          (phase_deriveStatus_eq_healthy_iff _ current clock isCurrent).mp healthy
        rw [showsHealth_deriveStatus_iff _ current clock valid isUp noneFailed,
          isCalm_run firstAllowed found isUp noneFailed]
        rfl

/-- A query succeeds, and then its connection is built anew. -/
def rebuiltConnection : List OperatorStep :=
  [.register "ns/q" { name := "hits" } .data, .connectionPresent "c", .connectionReady "c",
    .tick "ns/q" { connectionRef := "c" } 1 1,
    .execute 0 (some oneLiveNode) (oneAttempt (.answered [])) 2, .doneCallback 0,
    .connectionGone "c", .connectionPresent "c"]

/-- The next tick holds the query back, and it is still reported as healthy. -/
theorem not_healthyShowsHealth_of_rebuiltConnection :
    ¬HealthyShowsHealth defaultSchedulerConfig "ns/q"
      (rebuiltConnection ++ [.tick "ns/q" { connectionRef := "c" } 61 61]) := by
  intro shows
  obtain ⟨entry, registered, valid, isUp, noneFailed⟩ : ∃ entry,
      ((startOperator defaultSchedulerConfig).run defaultSchedulerConfig
        rebuiltConnection).collector.entries.get? "ns/q" = some entry ∧
      entry.invalidReason = none ∧ entry.up = true ∧ entry.failedNodes = [] :=
    ⟨_, rfl, rfl, rfl, rfl⟩
  have ready := isReady_of_healthyShowsHealth shows registered valid isUp noneFailed
  exact absurd ready (by decide)

end Promch
