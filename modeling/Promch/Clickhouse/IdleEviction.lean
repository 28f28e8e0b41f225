import Mathlib.Tactic.Linarith
import Promch.Clickhouse.ClientLeaks
import Promch.Clickhouse.PassTurns

/-!
# Idle eviction

A liveness pass closes a client as idle by the time of its last success, which says
nothing of the queries that are still under way.  While the `close` is awaited the
client stays the current one, so that a query may still be sent on it.  No query is
hit exactly as long as neither happens: a client that is found idle is not in use,
and nobody takes a client that is being closed as idle.
-/

namespace Promch

open EventLoop

/-! ## What a pass finds idle -/

namespace NodeObject

/-- No query is outstanding on the current client. -/
def IsUnused (object : NodeObject) : Prop :=
  ∀ client ∈ object.client, object.busy client = []

instance (object : NodeObject) : Decidable object.IsUnused :=
  inferInstanceAs (Decidable (∀ client ∈ object.client, object.busy client = []))

/-- No query was outstanding on a client that was closed as idle. -/
def SparesBusyClients (object : NodeObject) : Prop :=
  ∀ client tasks, (client, tasks) ∈ object.evictions → tasks = []

theorem SparesBusyClients.apply
    {object : NodeObject}
    {change : NodeEffect}
    {clock : ClockReading}
    (spares : object.SparesBusyClients)
    (unused : change = .callClose .evict → object.IsUnused) :
    (object.apply clock change).SparesBusyClients := by
  intro client tasks member
  cases change with
  | discard own =>
      simp only [NodeObject.apply, discard] at member
      split at member <;> exact spares client tasks member
  | callClose closer =>
      simp only [NodeObject.apply, callClose] at member
      split at member
      · exact spares client tasks member
      · next current found =>
          simp only at member
          split at member
          · next evicts =>
              subst evicts
              obtain ⟨rfl, rfl⟩ | older := (List.mem_cons.mp member).imp_left Prod.mk.inj
              · exact unused rfl client found
              · exact spares client tasks older
          · exact spares client tasks member
  | _ => exact spares client tasks member

end NodeObject

/-- No busy client is evicted, as long as none is found idle. -/
def evictionPolicy : Policy where
  mayEvict object := object.IsUnused
  inv state := ∀ n, (state.objects n).SparesBusyClients
  keeps {task effect state} _ spares _ respects := by
    intro n
    obtain ⟨change, rfl, after⟩ | after | ⟨_, _, _, _, after⟩ | ⟨_, _, _, after⟩ :=
      state.objects_apply_cases effect n
    · rw [after]
      apply (spares n).apply
      rintro rfl
      exact respects
    · rw [after]
      exact spares n
    · rw [after]
      exact spares n
    · rw [after]
      intro client tasks member
      cases member

/-- Of the given nodes, examined from the given reading of the clock on, the first
that is found idle has no query outstanding on its client. -/
def ConnectionState.firstIdleIsUnused (state : ConnectionState) : List Nat → Nat → Bool
  | [], _ => true
  | n :: rest, reading =>
      if (state.node n).alive && (state.node n).client.isSome then
        if (state.node n).isIdle (state.clock reading) state.spec.idleTtl then
          (state.objects n).IsUnused
        else state.firstIdleIsUnused rest (reading + 1)
      else state.firstIdleIsUnused rest reading

/-- The nodes that a liveness pass goes on to examine in a step. -/
def ConnectionSystem.examines (system : ConnectionSystem) : ConnectionAction → List Nat
  | .begin task =>
      match system.tasks[task]? with
      | some entry => if entry.call.runsPass then system.state.examinedAtOnce else []
      | none => []
  | .join task none => system.state.examining task
  | .answer task (.close .evict _ _) (.ok _) => system.state.examining task
  | .answer _ (.discoveryTurn _) (.ok _) => system.state.examinedAtOnce
  | _ => []

/-- A liveness pass finds no client idle on which a query is outstanding: of the
nodes that it goes on to examine in a step, up to the first one that is idle by the
reading of the clock that the pass takes for it. -/
def findsUnusedIdle (system : ConnectionSystem) (action : ConnectionAction) : Bool :=
  match action with
  | .start call => system.state.Exists call
  | _ => system.state.firstIdleIsUnused (system.examines action) system.state.readings

private theorem careful_of_firstIdleIsUnused
    {state : ConnectionState}
    {nodes : List Nat}
    {reading : Nat}
    (unused : state.firstIdleIsUnused nodes reading = true) :
    evictionPolicy.Careful state nodes reading := by
  induction nodes generalizing reading with
  | nil => trivial
  | cons n rest inductionHypothesis =>
      simp only [Precautions.Careful, ConnectionState.firstIdleIsUnused] at unused ⊢
      split at unused
      · next eligible =>
          rw [if_pos eligible]
          split at unused
          · next idle =>
              rw [if_pos idle]
              have here : (state.objects n).IsUnused := of_decide_eq_true unused
              exact here
          · next recent =>
              rw [if_neg recent]
              exact inductionHypothesis unused
      · next ineligible =>
          rw [if_neg ineligible]
          exact inductionHypothesis unused

private theorem evictionPolicy_permits
    {system : ConnectionSystem}
    {action : ConnectionAction}
    (met : findsUnusedIdle system action = true) :
    evictionPolicy.contract.Permits system action := by
  cases action with
  | start call =>
      have found : system.state.Exists call := of_decide_eq_true met
      exact found
  | begin task =>
      intro entry found passes
      have careful := careful_of_firstIdleIsUnused met
      simp only [ConnectionSystem.examines, found, passes, if_true] at careful
      exact careful
  | join task failed =>
      cases failed with
      | none => exact careful_of_firstIdleIsUnused met
      | some child => trivial
  | answer task request outcome =>
      cases request with
      | close closer n client =>
          cases outcome with
          | ok answer =>
              refine ⟨fun _ => trivial, ?_⟩
              rintro rfl
              exact careful_of_firstIdleIsUnused met
          | error fault => cases closer <;> first | trivial | exact fun _ _ => trivial
      | discoveryTurn closing =>
          cases outcome with
          | ok answer => exact careful_of_firstIdleIsUnused met
          | error fault => cases closing <;> first | trivial | exact fun _ _ => trivial
      | query n client sql limit =>
          cases outcome with
          | ok result => trivial
          | error fault => cases fault <;> first | trivial | exact fun _ => trivial
      | ping n client =>
          cases outcome with
          | ok alive => trivial
          | error fault => exact fun _ => trivial
      | factory n => cases outcome <;> trivial
      | clientTurn n | never => trivial

/-! ## While a client is being closed -/

namespace NodeObject

variable {object : NodeObject} {client : Nat} {change : NodeEffect} {clock : ClockReading}

theorem busy_eq_nil_iff :
    object.busy client = [] ↔ ∀ entry ∈ object.outstanding, entry.2 ≠ client := by
  simp [busy]

/-- Only a query that is sent on a client makes it busy. -/
theorem busy_apply_eq_nil
    (unused : object.busy client = [])
    (apart : ∀ task, change ≠ .sendQuery task client) :
    (object.apply clock change).busy client = [] := by
  rw [busy_eq_nil_iff] at unused ⊢
  intro entry member
  cases change with
  | sendQuery task target =>
      obtain rfl | before := List.mem_cons.mp member
      · rintro rfl
        exact apart task rfl
      · exact unused entry before
  | endQuery task target => exact unused entry (List.mem_of_mem_erase member)
  | callClose closer | discard own =>
      simp only [apply, callClose, discard] at member
      split at member <;> exact unused entry member
  | _ => exact unused entry member

/-- A former client does not become the current one again. -/
theorem client_apply_ne
    (former : object.client ≠ some client)
    (made : client < object.made) :
    (object.apply clock change).client ≠ some client := by
  cases change with
  | connect =>
      intro same
      exact absurd (Option.some.inj same) (Nat.ne_of_gt made)
  | forget last => rintro ⟨⟩
  | callClose closer =>
      simp only [apply, callClose]
      split <;> exact former
  | discard own =>
      simp only [apply, discard]
      split
      · exact former
      · rintro ⟨⟩
  | _ => exact former

end NodeObject

/-! ## Runs -/

/-- No query is outstanding on a client of a node. -/
structure ConnectionState.Spares (state : ConnectionState) (n client : Nat) : Prop where
  built : n < state.count
  made : client < (state.objects n).made
  unused : (state.objects n).busy client = []

/-- Only a query that is sent on the client disturbs that. -/
theorem ConnectionState.Spares.apply
    {state : ConnectionState}
    {effect : ConnectionEffect}
    {n client : Nat}
    (spares : state.Spares n client)
    (apart : ∀ task, effect ≠ .node n (.sendQuery task client)) :
    (state.apply effect).Spares n client where
  built := Nat.lt_of_lt_of_le spares.built ConnectionState.count_le_apply
  made := by
    apply ConnectionState.object_apply effect (fun object => client < object.made) spares.built
    · exact fun _ _ made => Nat.lt_of_lt_of_le made NodeObject.made_le_apply
    · exact fun _ made => made
    · exact spares.made
  unused := by
    apply ConnectionState.object_apply effect (fun object => object.busy client = []) spares.built
    · rintro change rfl unused
      apply NodeObject.busy_apply_eq_nil unused
      rintro task rfl
      exact apart task rfl
    · exact fun _ unused => unused
    · exact spares.unused

/-- A spared client that is not the current one does not become so. -/
theorem ConnectionState.Spares.client_apply_ne
    {state : ConnectionState}
    {effect : ConnectionEffect}
    {n client : Nat}
    (spares : state.Spares n client)
    (former : state.client n ≠ some client) :
    (state.apply effect).client n ≠ some client := by
  have both : ((state.apply effect).objects n).client ≠ some client ∧
      client < ((state.apply effect).objects n).made := by
    apply ConnectionState.object_apply effect
      (fun object => object.client ≠ some client ∧ client < object.made) spares.built
    · exact fun _ _ both => ⟨NodeObject.client_apply_ne both.1 both.2,
        Nat.lt_of_lt_of_le both.2 NodeObject.made_le_apply⟩
    · exact fun _ both => both
    · exact ⟨former, spares.made⟩
  exact both.1

/-- The `close` of a client of a node that was found idle is awaited. -/
def ConnectionSystem.isEvicting (system : ConnectionSystem) (n client : Nat) : Bool :=
  system.tasks.any fun entry =>
    entry.status.request?.bind ConnectionRequest.evicts? = some (n, client)

/-- A task that runs a query of a node would not take a client from it whose `close`
as idle is awaited. -/
def ConnectionSystem.takesNoEvicted (system : ConnectionSystem) (task : Nat) : Bool :=
  match system.tasks[task]?.map Task.call with
  | some (.query n _ _) => ∀ client ∈ system.state.client n, !system.isEvicting n client
  | _ => true

/-- No query takes a client that is being closed as idle, neither when it begins nor
when it gets the client lock. -/
def takesOpenClients (system : ConnectionSystem) : ConnectionAction → Bool
  | .begin task => system.takesNoEvicted task
  | .answer task (.clientTurn _) (.ok _) => system.takesNoEvicted task
  | _ => true

/-- The condition under which idle eviction never hits a busy client: no pass finds a
client idle on which a query is outstanding, and no query takes a client while the pass
that found it idle awaits its `close`. -/
def sparesBusyClients (system : ConnectionSystem) (action : ConnectionAction) : Bool :=
  findsUnusedIdle system action && takesOpenClients system action

namespace ConnectionSystem

variable {system : ConnectionSystem}

/-- Every client whose `close` as idle is awaited is spared. -/
def EvictsUnused (system : ConnectionSystem) : Prop :=
  ∀ task status n client, system.status? task = some status →
    status.request? = some (.close .evict n client) → system.state.Spares n client

theorem isEvicting_of_status
    (found : system.status? task = some status)
    (awaits : status.request? = some (.close .evict n client)) :
    system.isEvicting n client = true := by
  obtain ⟨entry, position, rfl⟩ := Option.map_eq_some_iff.mp found
  refine List.any_eq_true.mpr ⟨entry, List.mem_of_getElem? position, ?_⟩
  simp [awaits, ConnectionRequest.evicts?]

end ConnectionSystem
/-- The condition for a task that goes on to take a client of the node. -/
private theorem former_of_takesClient
    {system : ConnectionSystem}
    {action : ConnectionAction}
    {task n client : Nat}
    {call : ConnectionCall}
    {program : Async ConnectionValue}
    (sound : evictionPolicy.contract.Sound system)
    (met : takesOpenClients system action = true)
    (runs : connectionLoop.Runs system action task call program)
    (evicting : system.isEvicting n client = true)
    (own : call.queried? = some n)
    (takes : TakesClient n (action.cause call)) :
    system.state.client n ≠ some client := by
  obtain ⟨sql, timeout, rfl⟩ : ∃ sql timeout, call = .query n sql timeout := by
    cases call with
    | query m sql timeout =>
        cases own
        exact ⟨sql, timeout, rfl⟩
    | _ => cases own
  have open_of_met : ∀ {status}, system.tasks[task]? = some ⟨.query n sql timeout, status⟩ →
      system.takesNoEvicted task = true → system.state.client n ≠ some client := by
    intro status found spared current
    simp only [ConnectionSystem.takesNoEvicted, found, Option.map_some,
      decide_eq_true_eq] at spared
    simpa [evicting] using spared client current
  cases runs with
  | begins found => exact open_of_met found met
  | @answered _ _ request outcome _ found admitted =>
      cases request with
      | clientTurn m =>
          cases outcome with
          | ok value => exact open_of_met found met
          | error fault => exact takes.elim
      | factory m =>
          cases outcome with
          | ok value =>
              obtain rfl : m = n := takes
              have asks := (sound.tasks task _ found).1 m rfl
              have unconnected : system.state.client m = none := asks.2.2
              simp [unconnected]
          | error fault => exact takes.elim
      | _ => cases outcome <;> exact takes.elim
  | joined found joined => exact takes.elim

/-- A step that meets the condition hits no client whose `close` as idle is awaited. -/
private theorem evictsUnused_step
    {system next : ConnectionSystem}
    {action : ConnectionAction}
    (sound : evictionPolicy.contract.Sound system)
    (governs : passRegime.Governs system)
    (evictsUnused : system.EvictsUnused)
    (met : sparesBusyClients system action = true)
    (stepped : connectionLoop.step system action = some next) :
    next.EvictsUnused := by
  obtain ⟨unused, opens⟩ := Bool.and_eq_true_iff.mp met
  intro other status n client found awaits
  obtain ⟨entry, position, rfl⟩ := Option.map_eq_some_iff.mp found
  have older : system.tasks[other]? = some entry → system.state.Spares n client :=
    fun before =>
      evictsUnused other _ n client (Option.map_eq_some_iff.mpr ⟨entry, before, rfl⟩) awaits
  obtain ⟨call, _, rfl⟩ | ⟨task, call, program, runs, rfl⟩ := Machine.step_cases stepped
  · obtain before | ⟨_, _, rfl⟩ := System.getElem?_create_cases position
    · exact older before
    · cases awaits
  · have obeys := governs.obeys_of_runs runs
    have safe := sound.safe_of_runs evictionPolicy.safeBodies (evictionPolicy_permits unused) runs
    obtain ⟨status, here⟩ := runs.exists_status
    have but := sound.but here
    by_cases own : other = task
    · subst own
      have soundAfter := but.advance safe
      have rests := obeys.rests ⟨_, here⟩ found awaits n client rfl
      have asks := soundAfter.asks_of_status found awaits n rfl
      refine ⟨asks.1, ?_, soundAfter.invariant.2 n client _ rests.2⟩
      exact Nat.lt_of_lt_of_eq (Nat.lt_succ_self _) (soundAfter.invariant.1.newest n client rests.1)
    · obtain before | created := Machine.getElem?_advance_cases own position
      · have spares := older before
        have evicting : system.isEvicting n client = true :=
          ConnectionSystem.isEvicting_of_status
            (Option.map_eq_some_iff.mpr ⟨entry, before, rfl⟩) awaits
        by_cases takes : call.queried? = some n ∧ TakesClient n (action.cause call)
        · -- the turn may send a query, but on another client
          have former := former_of_takesClient sound opens runs evicting takes.1 takes.2
          have both := obeys.keeps
            (fun state => state.Spares n client ∧ state.client n ≠ some client) but safe
            ?_ ⟨spares, former⟩
          · exact both.1
          · rintro effect state _ permitted _ ⟨spares, former⟩
            refine ⟨spares.apply ?_, spares.client_apply_ne former⟩
            rintro sender rfl
            exact former permitted.1.2.2
        · apply obeys.keeps (fun state => state.Spares n client) but safe _ spares
          intro effect state _ _ ruled spares
          apply spares.apply
          rintro sender rfl
          exact takes (ruled.1 n rfl)
      · rw [created] at awaits
        cases awaits
/-- No query is outstanding on a client that a liveness pass closes as idle, neither
when it calls the `close` of the client nor as long as it awaits it. -/
structure ConnectionSystem.EvictsNoBusyClient (system : ConnectionSystem) : Prop where
  closed : ∀ n client tasks, (client, tasks) ∈ (system.state.objects n).evictions → tasks = []
  closing : ∀ task status n client, system.status? task = some status →
    status.request? = some (.close .evict n client) → (system.state.objects n).busy client = []

/-- Passes over the dead and idle nodes, and queries of the pool's nodes. -/
def rechecksAndQueries (system : ConnectionSystem) : ConnectionAction → Bool
  | .start .recheckDead => true
  | .start (.query n _ _) => n ∈ system.state.tracked
  | .start _ => false
  | _ => true

private theorem isOfPasses_of_start
    {system : ConnectionSystem}
    {call : ConnectionCall}
    (met : rechecksAndQueries system (.start call) = true) :
    call.IsOfPasses := by
  cases call with
  | recheckDead | query n sql timeout | ping n => trivial
  | _ => cases met

/-- Idle eviction hits no client on which a query is outstanding; and every task that
awaits a query is listed as outstanding on its client. -/
theorem idle_eviction_spares_busy_clients
    {spec : PoolSpec}
    {clock : Nat → ClockReading}
    {picks : Nat → Nat}
    {system : ConnectionSystem}
    (reaches : connectionLoop.Reaches
      (fun before action => rechecksAndQueries before action && sparesBusyClients before action)
      (ConnectionSystem.fresh spec clock picks) system) :
    system.EvictsNoBusyClient ∧
      ∀ task status n client sql limit, system.status? task = some status →
        status.request? = some (.query n client sql limit) →
          task ∈ (system.state.objects n).busy client := by
  have initial : evictionPolicy.inv (ConnectionState.create spec clock picks) := by
    intro n client tasks member
    obtain ⟨host, ident, reading, unused⟩ := ConnectionState.objects_create spec clock picks n
    rw [unused] at member
    cases member
  have soundOf : ∀ {system}, connectionLoop.Reaches
      (fun before action => rechecksAndQueries before action && sparesBusyClients before action)
      (ConnectionSystem.fresh spec clock picks) system → evictionPolicy.contract.Sound system := by
    intro system reaches
    refine evictionPolicy.sound_of_reaches initial (fun before action met => ?_) reaches
    have spares := (Bool.and_eq_true_iff.mp met).2
    exact evictionPolicy_permits (Bool.and_eq_true_iff.mp spares).1
  have unused : system.EvictsUnused := by
    induction reaches with
    | refl =>
        intro task status n client found
        cases found
    | step before met stepped inductionHypothesis =>
        have governs := passRegime.governs_of_reaches
          (fun _ _ met => isOfPasses_of_start (Bool.and_eq_true_iff.mp met).1) before
        exact evictsUnused_step (soundOf before) governs inductionHypothesis
          (Bool.and_eq_true_iff.mp met).2 stepped
  have sound := soundOf reaches
  refine ⟨⟨sound.invariant.2, fun task status n client found awaits =>
    (unused task status n client found awaits).unused⟩, ?_⟩
  intro task status n client sql limit found awaits
  have asks := sound.asks_of_status found awaits n rfl
  simp only [NodeObject.busy, List.mem_map, List.mem_filter]
  exact ⟨(task, client), ⟨asks.2.1, by simp⟩, rfl⟩

/-- A connection with one seed, whose clients are evicted after five minutes. -/
def passiveSeed : PoolSpec := { oneSeed with livenessMode := .passive }

/-- A clock that goes on by a quarter of an hour with every reading. -/
def quarters (reading : Nat) : ClockReading := ⟨900 * reading, 900 * reading⟩

/-- A pass awaits the `close` of the one node's client, while a query is outstanding on
the client of the other node, which the pass has yet to examine. -/
theorem idle_eviction_spares_busy_clients_of_two_nodes :
    ∃ system : ConnectionSystem,
      (system.state.objects 0).evictions = [(0, [])] ∧ (system.state.objects 1).busy 0 = [2] ∧
        system.EvictsNoBusyClient ∧
          ∀ task status n client sql limit, system.status? task = some status →
            status.request? = some (.query n client sql limit) →
              task ∈ (system.state.objects n).busy client := by
  obtain ⟨system, reaches, found⟩ := ConnectionSystem.exists_reached
    (fun system action => rechecksAndQueries system action && sparesBusyClients system action)
    { passiveSeed with seedHosts := ["a", "b"] } quarters (fun _ => 0)
    [.start (.query 0 "q" 10), .begin 0, .answer 0 (.factory 0) (.ok ()),
      .answer 0 (.query 0 0 "q" 10) (.ok ⟨[], []⟩),
      .start (.query 1 "q" 10), .begin 1, .answer 1 (.factory 1) (.ok ()),
      .answer 1 (.query 1 0 "q" 10) (.ok ⟨[], []⟩),
      .start (.query 1 "q" 1000), .begin 2,
      .start .recheckDead, .begin 3]
    (fun system => (system.state.objects 0).evictions = [(0, [])] ∧
      (system.state.objects 1).busy 0 = [2])
    (by decide +kernel)
  obtain ⟨evictions, busy⟩ := of_decide_eq_true found
  exact ⟨system, evictions, busy, idle_eviction_spares_busy_clients reaches⟩

/-- A node is stamped when a query succeeds and not when the next one starts,
so a liveness pass closes the client on which a long query is under way. -/
theorem idle_eviction_hits_busy_client :
    ¬∀ (spec : PoolSpec) (clock : Nat → ClockReading) (picks : Nat → Nat)
      (system : ConnectionSystem),
      spec.livenessMode = .passive →
      (∀ reading, (clock reading).monotonic ≤ (clock (reading + 1)).monotonic) →
      connectionLoop.Reaches (fun before action => rechecksAndQueries before action)
        (ConnectionSystem.fresh spec clock picks) system →
      system.EvictsNoBusyClient := by
  intro claimed
  obtain ⟨system, reaches, evictions⟩ := ConnectionSystem.exists_reached rechecksAndQueries
    passiveSeed quarters (fun _ => 0)
    [.start (.query 0 "q" 10), .begin 0, .answer 0 (.factory 0) (.ok ()),
      .answer 0 (.query 0 0 "q" 10) (.ok ⟨[], []⟩),
      .start (.query 0 "q" 1000), .begin 1,
      .start .recheckDead, .begin 2]
    (fun system => (system.state.objects 0).evictions = [(0, [1])])
    (by decide +kernel)
  have monotone : ∀ reading, (quarters reading).monotonic ≤ (quarters (reading + 1)).monotonic := by
    intro reading
    simp only [quarters]
    push_cast
    linarith
  have kept := (claimed passiveSeed quarters (fun _ => 0) system rfl monotone reaches).closed
    0 0 [1] (by simp [of_decide_eq_true evictions])
  cases kept

end Promch
