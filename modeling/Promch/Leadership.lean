import Promch.Collector.Collect
import Promch.Library.GuardedRuns

/-!
# Leadership

Whether a replica exports query metrics is one flag.  Every query daemon sets
it when it starts, and clears it when it ends because kopf paused the operator
for another peer.  The flag follows the pauses as long as some daemon is there
to notice a pause, and no late one notices it after the resume.
-/

namespace Promch

open GuardedRuns

/-- The reasons for which kopf stops a daemon. -/
inductive DaemonStoppingReason
  | done
  | filtersMismatch
  | resourceDeleted
  | operatorPausing
  | operatorExiting
  | daemonSignalled
  | daemonCancelled
  | daemonAbandoned
  deriving DecidableEq

/-- The stopping reason of a daemon: none before it is told to stop, then the
combination of all reasons. -/
abbrev StoppingReason : Type := Option (List DaemonStoppingReason)

/-- Paused for a peer of higher priority. -/
def StoppingReason.isPausing : StoppingReason → Bool
  | none => false
  | some reasons => reasons.contains .operatorPausing

/-- Whether this replica is the active peer. -/
structure Leadership where
  /-- Active until kopf discovers a peer of higher priority. -/
  active : Bool := true

namespace Leadership

/-- This replica exports query metrics. -/
def isActive (leadership : Leadership) : Bool :=
  leadership.active

/-- A query daemon starts. -/
def markActive (_ : Leadership) : Leadership where
  active := true

def markStandby (_ : Leadership) : Leadership where
  active := false

/-- Only a pause for another peer is a loss of leadership. -/
def noteDaemonStopped (reason : StoppingReason) (leadership : Leadership) : Leadership :=
  if reason.isPausing then { active := false } else leadership

/-- The flag after startup: with peering every replica begins as a standby. -/
def startup (peeringEnabled : Bool) : Leadership :=
  if peeringEnabled then markStandby {} else {}

end Leadership

/-- A running query daemon. -/
structure Daemon where
  number : Nat
  reason : StoppingReason := none
  /-- It started after the last resume. -/
  isRecent : Bool := true

/-- Tell a daemon to stop for some reasons more. -/
def Daemon.stop (reasons : List DaemonStoppingReason) (daemon : Daemon) : Daemon :=
  { daemon with reason := some (daemon.reason.getD [] ++ reasons) }

/-- What happens to the query daemons. -/
inductive DaemonEvent
  | started
  | stopped (reason : StoppingReason)

/-- A daemon has started since the startup, or since the last one that ended
because of a pause. -/
def startedSincePausing : List DaemonEvent → Bool
  | [] => false
  | .started :: _ => true
  | .stopped reason :: earlier =>
      if reason.isPausing then false else startedSincePausing earlier

/-- A replica as kopf runs it. -/
structure Replica where
  leadership : Leadership
  paused : Bool
  running : List Daemon := []
  /-- How many daemons have been started. -/
  started : Nat := 0
  /-- History: the starts and ends of the daemons, the last one first. -/
  history : List DaemonEvent := []

/-- What kopf does. -/
inductive PeeringEvent
  /-- A query daemon starts. -/
  | start
  /-- A running daemon, which may be told to stop for further reasons, ends. -/
  | finish (number : Nat) (further : StoppingReason)
  /-- A peer of higher priority takes over: every running daemon is stopped. -/
  | pause
  | resume

namespace Replica

/-- A replica after its startup with peering. -/
def startup (paused : Bool) : Replica where
  leadership := .startup true
  paused := paused

/-- The daemon of a number, told to stop for further reasons. -/
def stopping? (replica : Replica) (number : Nat) (further : StoppingReason) : Option Daemon :=
  (replica.running.find? fun daemon => daemon.number = number).map fun daemon =>
    match further with
    | none => daemon
    | some reasons => daemon.stop reasons

/-- The replica after an event; no daemon starts while it is paused. -/
def step (replica : Replica) : PeeringEvent → Option Replica
  | .start =>
      if replica.paused then none
      else
        some
          { replica with
            leadership := replica.leadership.markActive
            running := replica.running ++ [{ number := replica.started }]
            started := replica.started + 1
            history := .started :: replica.history }
  | .finish number further =>
      (replica.stopping? number further).map fun daemon =>
        { replica with
          leadership := replica.leadership.noteDaemonStopped daemon.reason
          running := replica.running.filter fun other => other.number ≠ number
          history := .stopped daemon.reason :: replica.history }
  | .pause =>
      if replica.paused then none
      else
        some
          { replica with
            paused := true
            running := replica.running.map (Daemon.stop [.operatorPausing]) }
  | .resume =>
      if replica.paused then
        some
          { replica with
            paused := false
            running := replica.running.map fun daemon => { daemon with isRecent := false } }
      else none

/-- A scrape yields only the leader gauge, at zero. -/
def ExportsNothing (replica : Replica) : Prop :=
  ∀ collector : Collector, ∃ family,
    collector.collect replica.leadership.isActive = [family] ∧
      family.name = sysName collector.metricPrefix "leader" ∧
      family.samples.map Sample.value = [.finite 0]

/-- The flag follows pausing: it is off when no daemon is left over from before
the pause, and on as long as a daemon runs that started after the last resume. -/
def FollowsPausing (replica : Replica) : Prop :=
  (replica.paused = true → replica.running = [] →
    replica.leadership.isActive = false ∧ replica.ExportsNothing) ∧
  (replica.paused = false → (∃ daemon ∈ replica.running, daemon.isRecent = true) →
    replica.leadership.isActive = true)

/-- A pause finds a daemon running, unless none has started since one last ended
because of a pause; and a daemon that ends because of a pause after the resume
finds no other running that started after it. -/
def isNoticed (replica : Replica) : PeeringEvent → Bool
  | .pause => !replica.running.isEmpty || !startedSincePausing replica.history
  | .finish number further =>
      replica.paused ||
        !(replica.stopping? number further).any (fun daemon => daemon.reason.isPausing) ||
        replica.running.all fun other => other.number = number || !other.isRecent
  | _ => true

/-- What holds in every state of a run that notices its pauses. -/
structure Consistent (replica : Replica) : Prop where
  flag : replica.leadership.active = startedSincePausing replica.history
  /-- Every daemon that is left over has been told of the pause. -/
  told : replica.paused = true → ∀ daemon ∈ replica.running, daemon.reason.isPausing = true
  silent : replica.paused = true → replica.running = [] → replica.leadership.active = false
  leading : replica.paused = false → ∀ daemon ∈ replica.running, daemon.isRecent = true →
    replica.leadership.active = true

variable {replica next : Replica} {event : PeeringEvent}
variable {number : Nat} {further : StoppingReason} {daemon : Daemon}

theorem isPausing_stop (reasons : List DaemonStoppingReason) (daemon : Daemon) :
    (daemon.stop reasons).reason.isPausing =
      (daemon.reason.isPausing || reasons.contains .operatorPausing) := by
  cases reason : daemon.reason <;> simp [Daemon.stop, StoppingReason.isPausing, reason]

/-- A daemon that ends was running, and still knows of a pause. -/
theorem exists_running_of_stopping?
    (found : replica.stopping? number further = some daemon) :
    ∃ running ∈ replica.running,
      running.reason.isPausing = true → daemon.reason.isPausing = true := by
  obtain ⟨running, member, rfl⟩ := Option.map_eq_some_iff.mp found
  refine ⟨running, List.mem_of_find?_eq_some member, fun pausing => ?_⟩
  cases further with
  | none => exact pausing
  | some reasons => rw [isPausing_stop, pausing, Bool.true_or]

theorem active_noteDaemonStopped (reason : StoppingReason) (leadership : Leadership) :
    (leadership.noteDaemonStopped reason).active =
      if reason.isPausing then false else leadership.active := by
  unfold Leadership.noteDaemonStopped
  split <;> rfl

theorem consistent_startup (paused : Bool) : (startup paused).Consistent where
  flag := rfl
  told := by simp [startup]
  silent _ _ := rfl
  leading := by simp [startup]

/-- A standby replica exports the leader gauge alone. -/
theorem exportsNothing_of_inactive
    (inactive : replica.leadership.isActive = false) :
    replica.ExportsNothing := by
  intro collector
  refine ⟨leaderFamily collector.metricPrefix false, ?_, rfl, rfl⟩
  rw [inactive]
  rfl

namespace Consistent

theorem followsPausing (consistent : replica.Consistent) : replica.FollowsPausing := by
  constructor
  · intro paused alone
    have inactive := consistent.silent paused alone
    exact ⟨inactive, exportsNothing_of_inactive inactive⟩
  · rintro resumed ⟨daemon, member, recent⟩
    exact consistent.leading resumed daemon member recent

/-- A daemon that ends keeps the replica consistent, if it does not notice a
pause too late. -/
private theorem finish
    (consistent : replica.Consistent)
    (noticed : replica.isNoticed (.finish number further) = true)
    (found : replica.stopping? number further = some daemon) :
    Consistent
      { replica with
        leadership := replica.leadership.noteDaemonStopped daemon.reason
        running := replica.running.filter fun other => other.number ≠ number
        history := .stopped daemon.reason :: replica.history } := by
  constructor
  · simp only [active_noteDaemonStopped, startedSincePausing, consistent.flag]
  · exact fun paused other member => consistent.told paused other (List.mem_of_mem_filter member)
  · intro paused _
    obtain ⟨running, member, knows⟩ := exists_running_of_stopping? found
    have pausing := knows (consistent.told paused running member)
    rw [active_noteDaemonStopped, if_pos pausing]
  · intro (resumed : replica.paused = false) other member recent
    obtain ⟨member, apart⟩ := List.mem_filter.mp member
    rw [active_noteDaemonStopped]
    split
    · next pausing =>
        simp only [isNoticed, resumed, found, Option.any_some, pausing, Bool.not_true,
          Bool.false_or, List.all_eq_true] at noticed
        have same : other.number = number := by simpa [recent] using noticed other member
        simp [same] at apart
    · exact consistent.leading resumed other member recent

/-- Every possible step that is noticed keeps the replica consistent. -/
theorem step
    (consistent : replica.Consistent)
    (noticed : replica.isNoticed event = true)
    (stepped : replica.step event = some next) :
    next.Consistent := by
  cases event with
  | start =>
      simp only [Replica.step] at stepped
      split at stepped
      · cases stepped
      · next resumed =>
          cases stepped
          exact ⟨rfl, fun paused => absurd paused resumed, fun paused => absurd paused resumed,
            fun _ _ _ _ => rfl⟩
  | finish number further =>
      obtain ⟨daemon, found, rfl⟩ := Option.map_eq_some_iff.mp stepped
      exact consistent.finish noticed found
  | pause =>
      simp only [Replica.step] at stepped
      split at stepped
      · cases stepped
      · cases stepped
        refine ⟨consistent.flag, fun _ => ?_, fun _ alone => ?_, nofun⟩
        · intro daemon member
          obtain ⟨before, _, rfl⟩ := List.mem_map.mp member
          simp [isPausing_stop]
        · rw [isNoticed, List.map_eq_nil_iff.mp alone] at noticed
          rw [consistent.flag]
          simpa using noticed
  | resume =>
      simp only [Replica.step] at stepped
      split at stepped
      · cases stepped
        refine ⟨consistent.flag, nofun, nofun, fun _ => ?_⟩
        intro daemon member recent
        obtain ⟨before, _, rfl⟩ := List.mem_map.mp member
        cases recent
      · cases stepped

/-- After a step that is not noticed the flag no longer follows pausing. -/
theorem not_followsPausing_of_not_noticed
    (consistent : replica.Consistent)
    (unnoticed : ¬replica.isNoticed event = true)
    (stepped : replica.step event = some next) :
    ¬next.FollowsPausing := by
  cases event with
  | start | resume => exact absurd rfl unnoticed
  | pause =>
      simp only [isNoticed, Bool.or_eq_true, Bool.not_eq_true', not_or, Bool.not_eq_false,
        List.isEmpty_iff] at unnoticed
      simp only [Replica.step] at stepped
      split at stepped
      · cases stepped
      · cases stepped
        intro follows
        have inactive := (follows.1 rfl (List.map_eq_nil_iff.mpr unnoticed.1)).1
        rw [Leadership.isActive, consistent.flag, unnoticed.2] at inactive
        cases inactive
  | finish number further =>
      obtain ⟨daemon, found, rfl⟩ := Option.map_eq_some_iff.mp stepped
      simp only [isNoticed, found, Option.any_some, Bool.or_eq_true, Bool.not_eq_true', not_or,
        Bool.not_eq_true, Bool.not_eq_false] at unnoticed
      obtain ⟨⟨resumed, pausing⟩, others⟩ := unnoticed
      obtain ⟨other, member, recent⟩ := List.all_eq_false.mp others
      simp only [Bool.or_eq_true, decide_eq_true_eq, Bool.not_eq_true', not_or,
        Bool.not_eq_false] at recent
      intro follows
      have active := follows.2 resumed
        ⟨other, List.mem_filter.mpr ⟨member, by simpa using recent.1⟩, recent.2⟩
      rw [Leadership.isActive, active_noteDaemonStopped, if_pos pausing] at active
      cases active

end Consistent

/-- In every run of a replica the flag follows pausing in all states exactly if
every step is noticed. -/
theorem leadership_follows_pausing_iff
    (paused : Bool)
    (events : List PeeringEvent)
    (possible : (run Replica.step (startup paused) events).isSome) :
    Always Replica.step FollowsPausing (startup paused) events ↔
      Guarded Replica.step (fun replica event => replica.isNoticed event = true)
        (startup paused) events :=
  always_iff_guarded Consistent.step Consistent.followsPausing
    Consistent.not_followsPausing_of_not_noticed (consistent_startup paused) possible

/-- A daemon is told of a pause and ends after the resume, while no other one
runs. -/
theorem leadership_follows_pausing_iff_with_straggler :
    Always Replica.step FollowsPausing (startup false)
        [.start, .pause, .resume, .finish 0 none, .start] ↔
      Guarded Replica.step (fun replica event => replica.isNoticed event = true)
        (startup false) [.start, .pause, .resume, .finish 0 none, .start] :=
  leadership_follows_pausing_iff false _ (by decide)

/-- A pause that finds no daemon running leaves the flag on. -/
theorem leadership_outlives_pause :
    ¬∀ (paused : Bool) (events : List PeeringEvent),
      (run Replica.step (startup paused) events).isSome →
      Always Replica.step FollowsPausing (startup paused) events := by
  intro claimed
  have always := claimed false [.start, .finish 0 (some [.resourceDeleted]), .pause] (by decide)
  have follows := always _ [] _ (List.append_nil _).symm rfl
  have inactive := (follows.1 rfl rfl).1
  cases inactive

end Replica

end Promch
