import Promch.Handlers.LifecycleEvents
import Promch.Handlers.RegistryTurns

/-!
# Connections that are warming up

A scheduler launches an execution only for a connection that is ready, but the
execution looks the connection up again when it begins.  As long as nothing takes the
connection from the registry in between, the execution finds it as the tick did, and no
failure is charged to a query for a connection that is not ready.
-/

namespace Promch

open EventLoop

/-- The failures of a connection that is not there or has no live nodes. -/
def ErrorType.blamesConnection : ErrorType → Bool
  | .connectionNotReady => true
  | .noLiveNodes => true
  | _ => false

namespace RegistryState

/-- Whoever was charged with a failure of the connection had obtained one that
was registered and ready. -/
def ChargesReady (state : RegistryState) : Prop :=
  ∀ charge ∈ state.charges, charge.errorType.blamesConnection = true →
    ∃ conn, charge.obtained = some (conn, true)

/-- An execution gets a connection that is ready exactly if there is one. -/
theorem obtained_of_isServing
    {state : RegistryState}
    {connRef : String}
    (serving : state.isServing connRef = true) :
    ∃ conn, state.obtained connRef = some (conn, true) := by
  unfold isServing at serving
  split at serving
  · next conn found => exact ⟨conn, by simp [obtained, found, serving]⟩
  · cases serving

end RegistryState

/-- Every execution gets a connection that is ready. -/
def warmPolicy : RegistryPolicy where
  mayObtain obtained := ∃ conn, obtained = some (conn, true)
  inv state := state.ChargesReady
  keeps {task effect state} _ ready _ respects := by
    intro charge member blames
    cases effect with
    | report key obtained ended tickTs now =>
        obtain now | before := List.mem_append.mp member
        · obtain ⟨errorType, _, rfl⟩ := List.mem_map.mp now
          exact respects
        · exact ready charge before blames
    | _ => exact ready charge member blames
  registersOwn _ _ := trivial

/-- The connections of the executions that were launched and have not begun. -/
def RegistrySystem.launched (system : RegistrySystem) : List String :=
  system.tasks.filterMap fun entry =>
    if entry.status.isBegun then none else entry.call.connRef?

/-- Only handlers and ticks are called from outside, and between the tick that launches
an execution and the beginning of the execution nothing takes its connection from the
registry. -/
def sparesLaunched (system : RegistrySystem) : RegistryAction → Bool
  | .start call => call.isHandler
  | .begin task =>
      match system.tasks[task]?.map Task.call with
      | some call => system.launched.all fun connRef => !call.removes (resourceKey none connRef)
      | none => true
  | _ => true

/-- An execution would find its connection registered and ready. -/
def RegistryCall.FindsReady (call : RegistryCall) (state : RegistryState) : Prop :=
  ∀ connRef, call.connRef? = some connRef → state.isServing connRef = true

section Runs

variable {config : SchedulerConfig} {operatorNamespace : String}
variable {clock : Nat → ClockReading} {memberHosts : Nat → Nat → List String}
variable {system next : RegistrySystem} {action : RegistryAction}

/-- A turn of a run that spares the launched executions takes none of their
connections. -/
private theorem not_removes_of_runs
    {task waits : Nat}
    {call waiting : RegistryCall}
    {program : Handler HandlerValue}
    {connRef : String}
    (met : sparesLaunched system action = true)
    (runs : registryLoop.Runs system action task call program)
    (found : system.tasks[waits]? = some ⟨waiting, .created⟩)
    (looks : waiting.connRef? = some connRef) :
    ¬RemovesFor (resourceKey none connRef) (action.cause call) := by
  intro removes
  cases runs with
  | begins begun =>
      have launched : connRef ∈ system.launched :=
        List.mem_filterMap.mpr ⟨_, List.mem_of_getElem? found, looks⟩
      simp only [sparesLaunched, begun, Option.map_some, List.all_eq_true] at met
      have kept := met connRef launched
      rw [show call.removes (resourceKey none connRef) = true from removes] at kept
      cases kept
  | answered found admitted => exact removes
  | joined found joined => exact removes

/-- One step keeps what the ticks found for the executions that have not begun. -/
private theorem waits_step
    (sound : freePolicy.contract.Sound system)
    (governs : Registry.regime.Governs system)
    (met : sparesLaunched system action = true)
    (stepped : registryLoop.step system action = some next)
    (waits : system.Waits RegistryCall.FindsReady) :
    next.Waits RegistryCall.FindsReady := by
  obtain ⟨call, rfl, rfl⟩ | ⟨task, call, program, runs, rfl⟩ := Machine.step_cases stepped
  · intro other waiting found
    obtain older | ⟨_, member, same⟩ := System.getElem?_create_cases found
    · exact waits other waiting older
    · cases same
      cases List.mem_singleton.mp member
      intro connRef looks
      cases call with
      | execute key connRef queryType sql timeout tickTs => cases met
      | _ => cases looks
  · obtain ⟨status, running⟩ := runs.exists_status
    have holds : (registryLoop.advance task program system).Waits fun waiting state =>
        ∀ connRef, waiting.connRef? = some connRef → state.isServing connRef = true ∧
          ¬RemovesFor (resourceKey none connRef) (action.cause call) := by
      refine (governs.obeys_of_runs runs).waits _ (sound.but running)
        (sound.safe_of_runs freePolicy.safeBodies (freePolicy_permits system action) runs) ?_ ?_ ?_
      · intro waiting effect state _ permitted mayHave finds connRef looks
        obtain ⟨serving, apart⟩ := finds connRef looks
        exact ⟨RegistryState.isServing_apply permitted.1 mayHave apart serving, apart⟩
      · intro waiting effect state permitted mayHave forked connRef looks
        cases effect with
        | launch key query tickTs =>
            -- The tick has just found the connection ready.
            cases List.mem_singleton.mp forked
            cases looks
            exact ⟨permitted.1, mayHave _⟩
        | clear remover =>
            obtain ⟨_, _, rfl⟩ := List.mem_map.mp forked
            cases looks
        | finish key =>
            cases List.mem_singleton.mp forked
            cases looks
        | _ => cases forked
      · exact fun other waiting found connRef looks =>
          ⟨waits other waiting found connRef looks, not_removes_of_runs met runs found looks⟩
    exact fun other waiting found connRef looks => (holds other waiting found connRef looks).1

/-- What a tick found is true for its execution until the execution begins. -/
theorem waits_of_sparesLaunched
    (reaches : registryLoop.Reaches (fun before action => sparesLaunched before action)
      (RegistrySystem.start config operatorNamespace clock memberHosts) system) :
    system.Waits RegistryCall.FindsReady := by
  induction reaches with
  | refl =>
      intro task waiting found
      simp [RegistrySystem.start, System.idle] at found
  | step earlier met stepped inductionHypothesis =>
      have sound := freePolicy.sound_of_reaches trivial
        (fun before action _ => freePolicy_permits before action) earlier
      have governs := Registry.regime.governs_of_reaches (fun _ _ _ => trivial) earlier
      exact waits_step sound governs met stepped inductionHypothesis

private theorem warmPolicy_permits
    (waits : system.Waits RegistryCall.FindsReady)
    (stepped : registryLoop.step system action = some next) :
    warmPolicy.contract.Permits system action := by
  apply warmPolicy.permits_of_precautions
  · rintro task call rfl found
    cases call with
    | execute key connRef queryType sql timeout tickTs =>
        obtain ⟨_, same, _⟩ | ⟨_, _, _, runs, _⟩ := Machine.step_cases stepped
        · cases same
        · cases runs with
          | begins created =>
              rw [created] at found
              cases found
              exact RegistryState.obtained_of_isServing (waits task _ created connRef rfl)
    | recheck resourceNamespace name spec | topology resourceNamespace name spec =>
        exact fun _ _ => trivial
    | _ => trivial
  · exact fun _ _ _ _ _ _ _ => trivial
  · exact fun _ _ _ _ _ _ _ _ _ _ _ => trivial

/-- No failure is charged to a query because its connection is still warming
up. -/
theorem no_charge_while_warming_up
    (reaches : registryLoop.Reaches (fun before action => sparesLaunched before action)
      (RegistrySystem.start config operatorNamespace clock memberHosts) system) :
    system.state.ChargesReady := by
  suffices sound : warmPolicy.contract.Sound system from sound.invariant.2
  induction reaches with
  | refl =>
      refine warmPolicy.sound_of_reaches (fun charge member => ?_) (fun _ _ => False.elim) .refl
      cases member
  | step earlier _ stepped inductionHypothesis =>
      exact inductionHypothesis.step warmPolicy.safeBodies
        (warmPolicy_permits (waits_of_sparesLaunched earlier) stepped) stepped

end Runs

/-- A query on the connection of the resource `x`. -/
def queryOnX : ScheduledQuery := { connectionRef := "x", sql := "q", timeout := 10 }

/-- The connection of the resource is ready, and a tick launches an execution. -/
def launchOnReady : List RegistryAction :=
  [.start (.registerQuery "k" { name := "m" } .data), .begin 0,
    .start (.present none "x" openResource), .begin 1,
    .answer 1 (.discover .refresh 0) (.ok noNodes),
    .start (.tick "k" queryOnX), .begin 2]

/-- An update of another resource and a timer of the same one come between the launch
and the beginning of the execution. -/
theorem no_charge_while_warming_up_without_live_nodes :
    ∃ system : RegistrySystem,
      system.state.charges = [⟨"k", .noLiveNodes, some (0, true)⟩] ∧
        system.state.ChargesReady := by
  obtain ⟨system, reaches, charged⟩ := RegistrySystem.exists_reached sparesLaunched
    (launchOnReady ++
      [.start (.update none "y" openResource), .begin 4,
        .start (.topology none "x" openResource), .begin 5,
        .begin 3,
        .answer 3 (.executeDataQuery 0 "q" 10)
          (.error (.raised (.noLiveNodesError "no live nodes")))])
    (fun system => system.state.charges = [⟨"k", .noLiveNodes, some (0, true)⟩])
    (by decide +kernel)
  exact ⟨system, of_decide_eq_true charged, no_charge_while_warming_up reaches⟩

/-- Between the launch and the beginning of an execution an update rebuilds the
connection, so that the execution is charged with a failure of one that has not
completed its first discovery cycle. -/
theorem charge_while_warming_up :
    ¬∀ (config : SchedulerConfig) (operatorNamespace : String) (clock : Nat → ClockReading)
      (memberHosts : Nat → Nat → List String) (system : RegistrySystem),
      registryLoop.Reaches (fun before action => callsHandlers before action)
        (RegistrySystem.start config operatorNamespace clock memberHosts) system →
      system.state.ChargesReady := by
  intro claimed
  obtain ⟨system, reaches, found⟩ := RegistrySystem.exists_reached callsHandlers
    (launchOnReady ++
      [.start (.update none "x" openResource), .begin 4,
        .answer 4 (.close (some (("", "x"), openResource)) 0) (.ok ()),
        .begin 3,
        .answer 3 (.executeDataQuery 1 "q" 10)
          (.error (.raised (.noLiveNodesError "no live nodes")))])
    (fun system => system.state.charges = [⟨"k", .noLiveNodes, some (1, false)⟩])
    (by decide +kernel)
  have charged : system.state.charges = [⟨"k", .noLiveNodes, some (1, false)⟩] :=
    of_decide_eq_true found
  have ready := claimed _ _ _ _ system reaches _ (charged ▸ List.mem_cons_self) rfl
  simp at ready

end Promch
