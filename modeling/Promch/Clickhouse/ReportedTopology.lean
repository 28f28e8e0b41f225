import Promch.Clickhouse.PoolMembership
import Promch.Clickhouse.TopologyRefresh

/-!
# The reported topology

A refresh that no exception cuts short reaches exactly the reported topology:
the declared seeds and the reported members are tracked, the members are flagged
as such, and of the nodes that were tracked before only those that leave are
closed.  Neither the node that was asked nor the order in which the new members
are visited has a part in it.
-/

namespace Promch

open EventLoop EventLoop.Machine ConnectionState ConnectionRequest

/-! ## The answer of the discovery query -/

namespace QueryResultSet

/-- An answer with the two columns that the discovery query selects. -/
def IsDiscovery (result : QueryResultSet) : Prop :=
  result.columnNames = ["cluster", "host_name"] ∧ ∀ row ∈ result.resultRows, row.length = 2

instance (result : QueryResultSet) : Decidable result.IsDiscovery :=
  inferInstanceAs (Decidable (_ ∧ _))

/-- An answer reports a host as a member of a cluster. -/
def Reports (result : QueryResultSet) (clusterName host : String) : Prop :=
  ∃ cell, [.str clusterName, cell] ∈ result.resultRows ∧ cell.toText = host

/-- The members that a refresh reads from an answer are those that it reports. -/
theorem exists_membersOf
    {result : QueryResultSet}
    (discovery : result.IsDiscovery)
    (clusterName : String) :
    ∃ members, membersOf clusterName (Node.rowsOf result) = .ok members ∧
      ∀ host, host ∈ members ↔ result.Reports clusterName host := by
  obtain ⟨columns, rows⟩ := result
  obtain ⟨rfl, lengths⟩ := discovery
  simp only [Node.rowsOf, Reports]
  induction rows with
  | nil => exact ⟨[], rfl, by simp⟩
  | cons row rest inductionHypothesis =>
      obtain ⟨lengthHere, lengthsRest⟩ := List.forall_mem_cons.mp lengths
      obtain ⟨cluster, name, rfl⟩ := List.length_eq_two.mp lengthHere
      obtain ⟨members, read, reported⟩ := inductionHypothesis lengthsRest
      have clusterCell : (Dict.ofList (["cluster", "host_name"].zip [cluster, name])).get?
          "cluster" = some cluster := rfl
      have hostCell : (Dict.ofList (["cluster", "host_name"].zip [cluster, name])).get?
          "host_name" = some name := rfl
      unfold membersOf at read ⊢
      rw [List.map_cons]
      generalize Dict.ofList (["cluster", "host_name"].zip [cluster, name]) = entry
        at clusterCell hostCell
      by_cases own : cluster = .str clusterName
      · rw [List.filter_cons_of_pos (by simp [clusterCell, own]), List.mapM_cons, read]
        refine ⟨name.toText :: members, by simp [hostCell]; rfl, fun host => ?_⟩
        rw [List.mem_cons, reported host]
        subst own
        constructor
        · rintro (rfl | ⟨cell, member, text⟩)
          · exact ⟨name, List.mem_cons_self, rfl⟩
          · exact ⟨cell, List.mem_cons_of_mem _ member, text⟩
        · rintro ⟨cell, member, text⟩
          obtain same | later := List.mem_cons.mp member
          · cases same
            exact .inl text.symm
          · exact .inr ⟨cell, later, text⟩
      · rw [List.filter_cons_of_neg (by simp [clusterCell, own])]
        refine ⟨members, read, fun host => (reported host).trans ?_⟩
        constructor
        · rintro ⟨cell, member, text⟩
          exact ⟨cell, List.mem_cons_of_mem _ member, text⟩
        · rintro ⟨cell, member, text⟩
          obtain same | later := List.mem_cons.mp member
          · cases same
            exact absurd rfl own
          · exact ⟨cell, later, text⟩

end QueryResultSet

/-! ## Refreshes that nothing disturbs -/

/-- Neither the membership of the pool nor the use of its nodes changes. -/
structure ConnectionState.Undisturbed (before after : ConnectionState) : Prop where
  membership : SameMembership before after
  uses : ∀ n, SameUse before after n

theorem ConnectionState.Undisturbed.refl (state : ConnectionState) : Undisturbed state state :=
  ⟨.refl state, .refl state⟩

/-- A refresh of a pool with a history, whose discovery query is answered.  No
other activity changes the nodes meanwhile, and no exception goes out of a ping
or a close. -/
structure QuietRefresh (spec : PoolSpec) where
  clock : Nat → ClockReading
  picks : Nat → Nat
  system : ConnectionSystem
  reached : connectionLoop.Reaches (fun before action => addressesNodes before action)
    (ConnectionSystem.fresh spec clock picks) system
  task : Nat
  script : List ConnectionResumption
  alone : ∀ resumption ∈ script, ∀ before, Undisturbed before (resumption.meanwhile before)
  unraised : ∀ resumption ∈ script, ∀ n, ¬resumption.request.RaisesOut resumption.outcome n
  run : Replayed ConnectionState ConnectionEffect ConnectionRequest ConnectionRequest.Answer
    Fault Unit
  ran : connectionLoop.replay task refreshTopology script system.state = some run
  /-- The node that is asked, its client, and the answer. -/
  seed : Nat
  client : Nat
  result : QueryResultSet
  discovery : result.IsDiscovery
  answered : .got (.query seed client discoverySql 10) (.ok result) ∈ run.trace

namespace QuietRefresh

variable {spec : PoolSpec} (refresh : QuietRefresh spec)

/-- The connection before the refresh. -/
def before : ConnectionState :=
  refresh.system.state

/-- The connection after the refresh. -/
def after : ConnectionState :=
  refresh.run.state

/-- The client of a node by the time that the answer is there. -/
def clientOf (n : Nat) : Option Nat :=
  if n = refresh.seed then some refresh.client else refresh.before.client n

/-- A host is reported as a member of the cluster. -/
def Reports (host : String) : Prop :=
  refresh.result.Reports spec.clusterName host

/-- The pool is brought in line with the reported topology. -/
structure ReachesReported : Prop where
  returns : refresh.run.outcome = .ok ()
  /-- The declared seeds and the reported hosts are tracked. -/
  hosts : ∀ host, host ∈ refresh.after.pool.keys ↔ host ∈ spec.seedHosts ∨ refresh.Reports host
  inCluster : ∀ host n, refresh.after.pool.get? host = some n →
    ((refresh.after.node n).inCluster = true ↔ refresh.Reports host)
  /-- A host that stays keeps its node, and apart from the one that was asked the
  nodes keep their liveness. -/
  stays : ∀ host n, refresh.before.pool.get? host = some n → host ∈ refresh.after.pool.keys →
    refresh.after.pool.get? host = some n ∧
      (n ≠ refresh.seed →
        (refresh.after.node n).alive = (refresh.before.node n).alive) ∧
      (n = refresh.seed → (refresh.after.node n).alive = true) ∧
      (refresh.after.objects n).closed = (refresh.before.objects n).closed
  /-- The client of a node that leaves, if it has one, is closed. -/
  leaves : ∀ host n, refresh.before.pool.get? host = some n →
    host ∉ refresh.after.pool.keys →
      (refresh.after.objects n).closed =
        (refresh.clientOf n).toList ++ (refresh.before.objects n).closed
  /-- A new member is up if and only if its ping came back. -/
  joins : ∀ host n, host ∉ refresh.before.pool.keys →
    refresh.after.pool.get? host = some n →
      ((refresh.after.node n).alive = true ↔
        ∃ client answer, .got (.ping n client) (.ok answer) ∈ refresh.run.trace)
  /-- The time of the discovery is the last reading of the clock. -/
  discovered : refresh.after.lastDiscovery =
    some (refresh.after.clock (refresh.after.readings - 1)).now

/-- No ping and no close raises. -/
private theorem not_raises (n : Nat) : ¬Raises refresh.run.trace n := by
  intro raises
  obtain ⟨resumption, member, raisesOut⟩ := (someAnswer_trace_iff refresh.ran).mp raises
  exact refresh.unraised resumption member n raisesOut

private theorem wellformed : refresh.before.Wellformed :=
  wellformed_of_reaches refresh.reached

/-- The members that are read are those that are reported. -/
private theorem exists_members :
    ∃ members, membersOf refresh.before.spec.clusterName (Node.rowsOf refresh.result) =
        .ok members ∧ ∀ host, host ∈ members ↔ refresh.Reports host := by
  rw [show refresh.before.spec = spec from spec_of_reaches refresh.reached]
  exact QueryResultSet.exists_membersOf refresh.discovery spec.clusterName

/-- The refresh is complete. -/
private theorem exists_refreshed :
    refresh.run.outcome = .ok () ∧ ∃ members asked more middle,
      (∀ host, host ∈ members ↔ refresh.Reports host) ∧
      refresh.run.trace = asked ++ more ∧
      Discovered True refresh.before refresh.seed refresh.client refresh.result asked middle ∧
      Refreshed True members middle more refresh.after := by
  obtain ⟨members, read, reported⟩ := refresh.exists_members
  have within : ∀ resumption ∈ refresh.script,
      (refreshSurroundings True).Include resumption := by
    intro resumption member
    refine ⟨fun before => ?_, trivial⟩
    have undisturbed := refresh.alone resumption member before
    exact ⟨undisturbed.membership, fun _ => undisturbed.uses⟩
  have answered := refresh.answered
  cases refreshEnds_of_replay refresh.wellformed within refresh.ran with
  | undiscovered noRows same =>
      obtain ⟨fault, failed⟩ := noRows _ _ answered rfl
      cases failed
  | unreadable discovered unread =>
      obtain ⟨_, _, same⟩ :=
        discovered.eq_of_got everyAnswer_nil (List.mem_append_left [] answered)
      rw [← same, read] at unread
      cases unread
  | refreshed discovered readHere trace_eq returns refreshed =>
      rw [trace_eq] at answered
      obtain ⟨sameSeed, sameClient, sameResult⟩ :=
        discovered.eq_of_got refreshed.unqueried answered
      rw [← sameResult, read] at readHere
      cases readHere
      rw [← sameSeed, ← sameClient, ← sameResult] at discovered
      exact ⟨returns, members, _, _, _, reported, trace_eq, discovered, refreshed⟩
  | cutShort discovered readHere trace_eq cut =>
      have raises : Raises refresh.run.trace _ :=
        trace_eq ▸ someAnswer_append.mpr (.inr ((cut.raises _).mpr rfl))
      exact absurd raises (refresh.not_raises _)

/-- A refresh reaches exactly the reported topology. -/
private theorem reachesReported : refresh.ReachesReported := by
  obtain ⟨returns, members, asked, more, middle, reported, trace_eq, discovered, refreshed⟩ :=
    refresh.exists_refreshed
  obtain ⟨_, _, answer, membership, others, up⟩ := discovered
  obtain ⟨flags, time, _, unqueried, quiet, kept, stays, departs, joins⟩ := refreshed
  rw [membership.seedHosts] at flags stays departs
  rw [membership.pool] at kept stays departs joins
  have reconciled : refresh.after.Reconciled members refresh.before.seedHosts :=
    reconciled_iff.mpr flags
  have hosts : ∀ host, host ∉ refresh.after.pool.keys ↔
      target members refresh.before.seedHosts host = none := by
    intro host
    rw [← flags_eq_none_iff, flags]
  refine ⟨returns, ?_, ?_, ?_, ?_, ?_, time⟩
  · intro host
    rw [reconciled.hosts, reported]
    exact or_congr_left (mem_seedHosts_of_reaches refresh.reached host)
  · intro host n found
    exact (reconciled.inCluster host n found).trans (reported host)
  · intro host n found present
    have use : SameUse middle refresh.after n :=
      stays trivial host n found fun none => (hosts host).mpr none present
    obtain ⟨m, foundLater⟩ := (Dict.mem_keys_iff _ _).mp present
    refine ⟨kept host n m found foundLater ▸ foundLater, ?_, ?_, ?_⟩
    · intro apart
      rw [use.alive, (others trivial n apart).alive]
    · rintro rfl
      rw [use.alive, (up trivial).1]
    · rw [use.closed]
      by_cases asking : n = refresh.seed
      · rw [asking, (up trivial).2.2]
      · rw [(others trivial n asking).closed]
  · intro host n found absent
    have closed := departs trivial host n found ((hosts host).mp absent)
    by_cases asking : n = refresh.seed
    · rw [asking, (up trivial).2.1, (up trivial).2.2] at closed
      rw [asking, closed, clientOf, if_pos rfl]
    · rw [(others trivial n asking).client, (others trivial n asking).closed] at closed
      rw [closed, clientOf, if_neg asking]
  · intro host n untracked found
    have unknown : refresh.before.pool.get? host = none :=
      (Dict.get?_eq_none_iff _ _).mpr untracked
    rw [joins trivial host n unknown found, ← pingSucceeds_iff, trace_eq]
    simp [answer.pingless]

/-- Two refreshes that get the same report end alike. -/
private theorem flags_eq_of_reports
    {other : QuietRefresh spec}
    (same : ∀ host, refresh.Reports host ↔ other.Reports host) :
    other.after.flags = refresh.after.flags := by
  have flags : ∀ refresh : QuietRefresh spec, ∃ members,
      (∀ host, host ∈ members ↔ refresh.Reports host) ∧
        refresh.after.flags = target members refresh.before.seedHosts := by
    intro refresh
    obtain ⟨_, members, _, _, _, reported, _, discovered, refreshed⟩ := refresh.exists_refreshed
    exact ⟨members, reported, discovered.membership.seedHosts ▸ refreshed.flags⟩
  have seeds : ∀ host, host ∈ other.before.seedHosts ↔ host ∈ refresh.before.seedHosts :=
    fun host => (mem_seedHosts_of_reaches other.reached host).trans
      (mem_seedHosts_of_reaches refresh.reached host).symm
  obtain ⟨members, reported, flagsHere⟩ := flags refresh
  obtain ⟨otherMembers, otherReported, flagsOther⟩ := flags other
  rw [flagsHere, flagsOther]
  refine target_congr (fun host => ?_) seeds
  rw [otherReported, reported, same]

end QuietRefresh

/-- Without a live node a refresh changes nothing. -/
private theorem replay_of_dead
    {task : Nat}
    {script : List ConnectionResumption}
    {state : ConnectionState}
    {run : Replayed ConnectionState ConnectionEffect ConnectionRequest ConnectionRequest.Answer
      Fault Unit}
    (dead : ∀ n ∈ state.tracked, (state.node n).alive = false)
    (ran : connectionLoop.replay task refreshTopology script state = some run) :
    run.outcome = .ok () ∧ run.state = state := by
  have none : state.candidates [] = [] := by
    apply List.filter_eq_nil_iff.mpr
    intro n tracked
    simp [dead n tracked]
  have ensures : connectionLoop.Ensures ⟨fun _ _ => True, fun _ _ => True⟩ task refreshTopology
      (fun _ outcome later => outcome = .ok () ∧ later = state) state := by
    simp [refreshTopology, pickOneLive, none]
  exact Ensures.of_replay ensures (fun _ _ => ⟨fun _ => trivial, trivial⟩) ran

section Serialized

variable {task : Nat} {script : List ConnectionResumption} {state : ConnectionState}
variable {run : Replayed ConnectionState ConnectionEffect ConnectionRequest
  ConnectionRequest.Answer Fault Unit}

/-- How a refresh ends whose pool the other tasks leave alone. -/
private theorem refreshEnds
    (wellformed : state.Wellformed)
    (alone : ∀ resumption ∈ script, ∀ before,
      SameMembership before (resumption.meanwhile before))
    (ran : connectionLoop.replay task refreshTopology script state = some run) :
    RefreshEnds False state run.trace run.outcome run.state :=
  refreshEnds_of_replay wellformed
    (fun resumption member => ⟨fun before => ⟨alone resumption member before, False.elim⟩, trivial⟩)
    ran

/-- Without an answer a refresh leaves the membership as it was. -/
private theorem replay_of_unanswered
    (ends : RefreshEnds False state run.trace run.outcome run.state)
    (unanswered : ∀ resumption ∈ script, resumption.request.isQuery = true →
      ∃ fault, resumption.outcome = .error fault)
    (ran : connectionLoop.replay task refreshTopology script state = some run) :
    SameMembership state run.state := by
  have unasked : ∀ {seed client result asked middle} more,
      Discovered False state seed client result asked middle → run.trace ≠ asked ++ more := by
    intro seed client result asked middle more discovered trace_eq
    have got := trace_eq ▸ List.mem_append_left more discovered.answer.got
    obtain ⟨meanwhile, member⟩ := (got_mem_trace_iff ran _ _).mp got
    obtain ⟨fault, failed⟩ := unanswered _ member rfl
    cases failed
  cases ends with
  | undiscovered noRows same => exact same
  | unreadable discovered unread => exact absurd (List.append_nil _).symm (unasked [] discovered)
  | refreshed discovered read trace_eq returns refreshed =>
      exact absurd trace_eq (unasked _ discovered)
  | cutShort discovered read trace_eq cut => exact absurd trace_eq (unasked _ discovered)

/-- A refresh that completes records the members that it has read from its answer. -/
private theorem membership_of_completed
    {seed client : Nat}
    {result : QueryResultSet}
    {members : List String}
    (ends : RefreshEnds False state run.trace run.outcome run.state)
    (answered : .got (.query seed client discoverySql 10) (.ok result) ∈ run.trace)
    (read : membersOf state.spec.clusterName (Node.rowsOf result) = .ok members)
    (completed : run.outcome = .ok ()) :
    run.state.membership = members ∧ run.state.lastDiscovery.isSome := by
  cases ends with
  | undiscovered noRows same =>
      obtain ⟨fault, failed⟩ := noRows _ _ answered rfl
      cases failed
  | unreadable discovered unread =>
      obtain ⟨_, _, rfl⟩ :=
        discovered.eq_of_got everyAnswer_nil (List.mem_append_left [] answered)
      cases read.symm.trans unread
  | refreshed discovered readHere trace_eq returns refreshed =>
      obtain ⟨_, _, rfl⟩ := discovered.eq_of_got refreshed.unqueried (trace_eq ▸ answered)
      cases read.symm.trans readHere
      exact ⟨refreshed.recorded, by rw [refreshed.discovered]; rfl⟩
  | cutShort discovered readHere trace_eq cut raised =>
      obtain ⟨fault, failed⟩ := raised
      cases completed.symm.trans failed

end Serialized

/-- A refresh that nothing disturbs reaches exactly the reported topology, and two
of them that get the same report end with the same hosts and flags.  Without a
live node nothing changes; with one the discovery query is sent to a live node, unless
it gives no client; and without an answer the membership stays. -/
theorem refresh_reaches_reported_topology (spec : PoolSpec) :
    (∀ refresh : QuietRefresh spec, refresh.ReachesReported) ∧
    (∀ refresh other : QuietRefresh spec,
      (∀ host, refresh.Reports host ↔ other.Reports host) →
        other.after.flags = refresh.after.flags) ∧
    ∀ clock picks system task script run,
      connectionLoop.Reaches (fun before action => addressesNodes before action)
        (ConnectionSystem.fresh spec clock picks) system →
      connectionLoop.replay task refreshTopology script system.state = some run →
        ((∀ n ∈ system.state.tracked, (system.state.node n).alive = false) →
          run.outcome = .ok () ∧ run.state = system.state) ∧
        ((∀ resumption ∈ script, ∀ before,
            SameMembership before (resumption.meanwhile before)) →
          AsksOneLive system.state run.trace ∧
          ((∀ resumption ∈ script, resumption.request.isQuery = true →
              ∃ fault, resumption.outcome = .error fault) →
            SameMembership system.state run.state)) := by
  refine ⟨fun refresh => refresh.reachesReported, fun refresh other => refresh.flags_eq_of_reports,
    fun clock picks system task script run reached ran => ⟨?_, ?_⟩⟩
  · exact fun dead => replay_of_dead dead ran
  · intro alone
    have ends := refreshEnds (wellformed_of_reaches reached) alone ran
    exact ⟨ends.asks, fun unanswered => replay_of_unanswered ends unanswered ran⟩

/-- A member is reported twice, next to a host of another cluster; the member is
pinged and found up. -/
def reportScript : List ConnectionResumption :=
  [{ request := .query 0 0 discoverySql 10
     outcome := .ok ⟨["cluster", "host_name"],
       [[.str "c", .str "b"], [.str "other", .str "x"], [.str "c", .str "b"]]⟩ },
   { request := .factory 1, outcome := .ok () },
   { request := .ping 1 0, outcome := .ok true }]

theorem refresh_reaches_reported_topology_with_new_member :
    ∃ refresh : QuietRefresh { seedHosts := ["a"], clusterName := "c" },
      refresh.Reports "b" ∧ refresh.after.pool.keys = ["a", "b"] ∧ refresh.ReachesReported := by
  obtain ⟨system, reached, found⟩ := ConnectionSystem.exists_reached addressesNodes
    { seedHosts := ["a"], clusterName := "c" } (fun reading => ⟨reading, reading⟩) (fun _ => 0)
    [.start (.ping 0), .begin 0, .answer 0 (.factory 0) (.ok ()),
      .answer 0 (.ping 0 0) (.ok true)]
    (fun system => (connectionLoop.replay 1 refreshTopology reportScript system.state).any
      fun run => run.state.pool.keys = ["a", "b"])
    (by decide +kernel)
  obtain ⟨run, ran, keys⟩ := (Option.any_eq_true _ _).mp found
  let refresh : QuietRefresh { seedHosts := ["a"], clusterName := "c" } := {
    clock := fun reading => ⟨reading, reading⟩
    picks := fun _ => 0
    system := system
    reached := reached
    task := 1
    script := reportScript
    alone := by
      simp only [reportScript, List.forall_mem_cons]
      exact ⟨.refl, .refl, .refl, by simp⟩
    unraised := by
      simp only [reportScript, List.forall_mem_cons]
      exact ⟨fun _ => not_raisesOut_ok _, fun _ => not_raisesOut_ok _,
        fun _ => not_raisesOut_ok _, by simp⟩
    run := run
    ran := ran
    seed := 0
    client := 0
    result := ⟨["cluster", "host_name"],
      [[.str "c", .str "b"], [.str "other", .str "x"], [.str "c", .str "b"]]⟩
    discovery := by decide
    answered := (got_mem_trace_iff ran _ _).mpr ⟨id, by simp [reportScript]⟩ }
  exact ⟨refresh, ⟨.str "b", by simp [refresh], rfl⟩, of_decide_eq_true keys,
    (refresh_reaches_reported_topology _).1 refresh⟩

/-! ## The membership between refreshes -/

/-- The pool invariant holds at every suspension point of every run, a host keeps its
node object until that object leaves the pool for good, and what a refresh that
completes leaves as the reported membership are the hosts that its answer reports. -/
theorem pool_invariant_of_reaches
    {spec : PoolSpec}
    {clock : Nat → ClockReading}
    {picks : Nat → Nat}
    {system : ConnectionSystem}
    (reaches : connectionLoop.Reaches (fun before action => addressesNodes before action)
      (ConnectionSystem.fresh spec clock picks) system) :
    system.state.PoolInvariant spec.seedHosts ∧
      (∀ later, connectionLoop.Reaches (fun before action => addressesNodes before action)
          system later →
        ∀ host n, system.state.pool.get? host = some n →
          later.state.pool.get? host = some n ∨
            n ∉ system.state.departed ∧ n ∈ later.state.departed) ∧
      ∀ task script run seed client result,
        connectionLoop.replay task refreshTopology script system.state = some run →
        (∀ resumption ∈ script, ∀ before,
          SameMembership before (resumption.meanwhile before)) →
        .got (.query seed client discoverySql 10) (.ok result) ∈ run.trace →
        result.IsDiscovery → run.outcome = .ok () →
          run.state.lastDiscovery.isSome ∧
            ∀ host, host ∈ run.state.membership ↔ result.Reports spec.clusterName host := by
  refine ⟨poolInvariant_of_reaches reaches, fun later continues host n found =>
    tenant_of_reaches reaches continues found, ?_⟩
  intro task script run seed client result ran alone answered discovery completed
  have ends := refreshEnds (wellformed_of_reaches reaches) alone ran
  obtain ⟨members, read, reported⟩ := QueryResultSet.exists_membersOf discovery spec.clusterName
  rw [← spec_of_reaches reaches] at read
  obtain ⟨rfl, known⟩ := membership_of_completed ends answered read completed
  exact ⟨known, reported⟩

/-- The next answer reports only the declared seed. -/
def departureScript : List ConnectionResumption :=
  [{ request := .query 0 0 discoverySql 10
     outcome := .ok ⟨["cluster", "host_name"], [[.str "other", .str "x"], [.str "c", .str "a"]]⟩ }]

theorem pool_invariant_after_discovery :
    ∃ system : ConnectionSystem, ∃ run,
      system.state.pool.keys = ["a", "b"] ∧ system.state.membership = ["b"] ∧
        system.state.PoolInvariant ["a", "a"] ∧
        connectionLoop.replay 2 refreshTopology departureScript system.state = some run ∧
        run.state.pool.keys = ["a"] ∧
        (∀ host, host ∈ run.state.membership ↔
          QueryResultSet.Reports ⟨["cluster", "host_name"],
            [[.str "other", .str "x"], [.str "c", .str "a"]]⟩ "c" host) ∧
        ∀ later, connectionLoop.Reaches (fun before action => addressesNodes before action)
            system later →
          ∀ host n, system.state.pool.get? host = some n →
            later.state.pool.get? host = some n ∨
              n ∉ system.state.departed ∧ n ∈ later.state.departed := by
  obtain ⟨system, reaches, found⟩ := ConnectionSystem.exists_reached addressesNodes
    { seedHosts := ["a", "a"], clusterName := "c" } (fun reading => ⟨reading, reading⟩)
    (fun _ => 0)
    [.start .refresh, .begin 0,
      .begin 1, .answer 1 (.factory 0) (.ok ()), .answer 1 (.ping 0 0) (.ok true),
      .join 0 none,
      .answer 0 (.query 0 0 discoverySql 10)
        (.ok ⟨["cluster", "host_name"], [[.str "c", .str "b"]]⟩),
      .answer 0 (.factory 1) (.error (.driver (.operational "refused")))]
    (fun system => system.Finished ∧ system.state.pool.keys = ["a", "b"] ∧
      system.state.membership = ["b"] ∧
      ((connectionLoop.replay 2 refreshTopology departureScript system.state).any
        fun run => run.state.pool.keys = ["a"] ∧ run.outcome.isOk) = true)
    (by decide +kernel)
  obtain ⟨_, keys, membership, replayed⟩ := of_decide_eq_true found
  obtain ⟨run, ran, later⟩ := (Option.any_eq_true _ _).mp replayed
  obtain ⟨keysLater, isOk⟩ := of_decide_eq_true later
  obtain ⟨invariant, tenants, reported⟩ := pool_invariant_of_reaches reaches
  have completed : run.outcome = .ok () := by
    cases outcome : run.outcome with
    | ok done => rfl
    | error fault => rw [outcome] at isOk; cases isOk
  refine ⟨system, run, keys, membership, invariant, ran, keysLater, ?_, tenants⟩
  refine (reported 2 departureScript run 0 0 _ ran ?_ ?_ (by decide) completed).2
  · simp only [departureScript, List.forall_mem_cons]
    exact ⟨.refl, by simp⟩
  · exact (got_mem_trace_iff ran _ _).mpr ⟨id, by simp [departureScript]⟩

end Promch
