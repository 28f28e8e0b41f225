import Promch.Clickhouse.PoolMembership
import Promch.Clickhouse.TopologyRefresh

/-!
# Interrupted refreshes

A topology refresh edits the membership in place, with pings and closes between
the edits.  An exception that goes out of one of them leaves the hosts that the
refresh has come to settled and the others as they were.  So the refresh is all
or nothing exactly if no such exception is raised where it divides the hosts.
-/

namespace Promch

open EventLoop EventLoop.Machine ConnectionState ConnectionRequest

/-- The membership is as it was, or in line with the answer of the discovery
query; the time of the last discovery has changed only if it is in line. -/
def AllOrNothing
    (spec : PoolSpec)
    (result : QueryResultSet)
    (before after : ConnectionState) : Prop :=
  (after.flags = before.flags ∧ after.lastDiscovery = before.lastDiscovery) ∨
    ∃ members, membersOf spec.clusterName (Node.rowsOf result) = .ok members ∧
      after.Reconciled members spec.seedHosts

namespace ConnectionState

/-- The flag of a host is in line with the reported members. -/
def InLine (state : ConnectionState) (members : List String) (host : String) : Prop :=
  state.flags host = target members state.seedHosts host

instance (state : ConnectionState) (members : List String) (host : String) :
    Decidable (state.InLine members host) :=
  inferInstanceAs (Decidable (_ = _))

/-- An exception that goes out of a ping or a close of a node does not divide the
hosts. -/
structure RaisesHarmlessly
    (before : ConnectionState)
    (members : List String)
    (n : Nat) : Prop where
  /-- The ping of a new member raises: it is the last one, and what was tracked
  is in line already. -/
  joining : before.count ≤ n →
    n + 1 = before.count + (before.unknown members).length ∧
      ∀ host ∈ before.pool.keys, before.InLine members host
  /-- The close of a tracked node raises: there is no new member, and what comes
  before the node is in line already. -/
  leaving : n ∈ before.tracked →
    before.unknown members = [] ∧
      ∀ host ∈ before.pool.keys.takeWhile (· ≠ (before.node n).host), before.InLine members host

instance (before : ConnectionState) (members : List String) (n : Nat) :
    Decidable (before.RaisesHarmlessly members n) :=
  decidable_of_iff
    ((before.count ≤ n → n + 1 = before.count + (before.unknown members).length ∧
        ∀ host ∈ before.pool.keys, before.InLine members host) ∧
      (n ∈ before.tracked → before.unknown members = [] ∧
        ∀ host ∈ before.pool.keys.takeWhile (· ≠ (before.node n).host),
          before.InLine members host))
    ⟨fun harmless => ⟨harmless.1, harmless.2⟩, fun harmless => ⟨harmless.1, harmless.2⟩⟩

variable {state after : ConnectionState} {members done : List String} {host : String} {n : Nat}

/-- A new member is not in line before the refresh. -/
theorem not_inLine_of_unknown (pending : host ∈ state.unknown members) :
    ¬state.InLine members host := by
  obtain ⟨reported, untracked⟩ : host ∈ members ∧ host ∉ state.pool.keys := by
    simpa [unknown] using pending
  intro inLine
  rw [InLine, flags_eq_none_iff.mpr untracked] at inLine
  exact (target_eq_none_iff.mp inLine.symm).1 reported

/-- What is neither tracked nor reported is in line. -/
theorem inLine_of_untracked
    (seeds : ∀ host ∈ state.seedHosts, host ∈ state.pool.keys)
    (untracked : host ∉ state.pool.keys)
    (known : host ∉ state.unknown members) :
    state.InLine members host := by
  have foreign : host ∉ members := by
    intro reported
    exact known (by simp [unknown, reported, untracked])
  rw [InLine, flags_eq_none_iff.mpr untracked, target_eq_none_iff.mpr]
  exact ⟨foreign, fun declared => untracked (seeds host declared)⟩

/-- A departing host is not in line before the refresh. -/
theorem not_inLine_of_departing
    (tracked : state.pool.get? host = some n)
    (departs : target members state.seedHosts host = none) :
    ¬state.InLine members host := by
  intro inLine
  rw [InLine, departs, flags_eq_none_iff] at inLine
  exact inLine ((Dict.mem_keys_iff _ _).mpr ⟨n, tracked⟩)

end ConnectionState

section CutShort

variable {state after : ConnectionState} {members done : List String} {n : Nat}
variable {trace : List ConnectionHappening}

/-- A refresh that the ping of a new member cuts short is all or nothing exactly
if the member is the last one and the rest is in line. -/
private theorem cutByPing_iff
    {order : List String}
    {host : String}
    (wellformed : state.Wellformed)
    (flags : after.flags = settle (target members state.seedHosts) done state.flags)
    (arranged : order.Perm (state.unknown members))
    (lead : done <+: order)
    (welcomed : host ∈ done)
    (number : n + 1 = state.count + done.length) :
    (after.flags = state.flags ∨ after.flags = target members state.seedHosts) ↔
      state.RaisesHarmlessly members n := by
  have fresh : state.count ≤ n := by
    have := List.length_pos_of_mem welcomed
    omega
  have pending : ∀ host ∈ done, host ∈ state.unknown members :=
    fun host member => arranged.mem_iff.mp (lead.subset member)
  have nodup : order.Nodup := arranged.nodup_iff.mpr (members.nodup_dedup.filter _)
  have changed : after.flags ≠ state.flags := by
    rw [flags, Ne, settle_eq_before_iff]
    exact fun inLine => not_inLine_of_unknown (pending host welcomed) (inLine host welcomed)
  rw [or_iff_right changed, flags, settle_eq_target_iff]
  constructor
  · intro complete
    have all : done = order := by
      obtain ⟨rest, rfl⟩ := lead
      have nothing : rest = [] := by
        apply List.eq_nil_iff_forall_not_mem.mpr
        intro other member
        have absent : other ∉ done :=
          fun early => List.disjoint_of_nodup_append nodup early member
        exact not_inLine_of_unknown
          (arranged.mem_iff.mp (List.mem_append_right _ member)) (complete other absent)
      rw [nothing, List.append_nil]
    constructor
    · rw [← arranged.length_eq, ← all]
      refine fun _ => ⟨number, fun other tracked => complete other fun member => ?_⟩
      have untracked : other ∉ state.pool.keys := by
        simpa using (List.mem_filter.mp (pending other member)).2
      exact untracked tracked
    · exact fun tracked => absurd (wellformed.tracked_lt tracked) (Nat.not_lt.mpr fresh)
  · rintro ⟨joining, -⟩ other absent
    obtain ⟨last, inLine⟩ := joining fresh
    have all : done = order := by
      apply lead.eq_of_length
      rw [arranged.length_eq]
      omega
    by_cases tracked : other ∈ state.pool.keys
    · exact inLine other tracked
    · apply inLine_of_untracked wellformed.seeds tracked
      rwa [← arranged.mem_iff, ← all]

/-- A refresh that the close of a departing node cuts short is all or nothing
exactly if nothing before it had to change. -/
private theorem cutByClose_iff
    {order earlier later : List String}
    {host : String}
    (wellformed : state.Wellformed)
    (flags : after.flags = settle (target members state.seedHosts) done state.flags)
    (arranged : order.Perm (state.unknown members))
    (keys : state.pool.keys = earlier ++ host :: later)
    (settled : done = order ++ earlier)
    (tracked : state.pool.get? host = some n)
    (departs : target members state.seedHosts host = none) :
    (after.flags = state.flags ∨ after.flags = target members state.seedHosts) ↔
      state.RaisesHarmlessly members n := by
  obtain ⟨built, sameHost⟩ := wellformed.keyed host n tracked
  have nodup := state.pool.nodup_keys
  rw [keys] at nodup
  have early : host ∉ earlier := fun member =>
    List.disjoint_of_nodup_append nodup member List.mem_cons_self
  have before : state.pool.keys.takeWhile (· ≠ (state.node n).host) = earlier := by
    rw [keys, sameHost, List.takeWhile_append_of_pos, List.takeWhile_cons_of_neg (by simp),
      List.append_nil]
    intro other member
    simpa using ne_of_mem_of_not_mem member early
  have unfinished : after.flags ≠ target members state.seedHosts := by
    rw [flags, Ne, settle_eq_target_iff]
    intro complete
    apply not_inLine_of_departing tracked departs
    apply complete host
    rw [settled, List.mem_append, not_or]
    refine ⟨fun member => ?_, early⟩
    have untracked : host ∉ state.pool.keys := by
      simpa using (List.mem_filter.mp (arranged.mem_iff.mp member)).2
    exact untracked ((Dict.mem_keys_iff _ _).mpr ⟨n, tracked⟩)
  rw [or_iff_left unfinished, flags, settle_eq_before_iff]
  constructor
  · intro unchanged
    constructor
    · exact fun fresh => absurd built (Nat.not_lt.mpr fresh)
    · rw [before]
      refine fun _ => ⟨List.eq_nil_iff_forall_not_mem.mpr fun other pending => ?_, ?_⟩
      · have member : other ∈ done :=
          settled ▸ List.mem_append_left _ (arranged.mem_iff.mpr pending)
        exact not_inLine_of_unknown pending (unchanged other member)
      · exact fun other member => unchanged other (settled ▸ List.mem_append_right _ member)
  · rintro ⟨-, leaving⟩ other member
    obtain ⟨nothing, inLine⟩ := leaving (mem_tracked_iff.mpr ⟨host, tracked⟩)
    rw [before] at inLine
    rw [nothing] at arranged
    rw [settled, arranged.eq_nil, List.nil_append] at member
    exact inLine other member

/-- A refresh that is cut short is all or nothing exactly if the exception does
not divide the hosts. -/
private theorem cutShort_iff
    (wellformed : state.Wellformed)
    (cut : CutShort members state trace after done n) :
    (after.flags = state.flags ∨ after.flags = target members state.seedHosts) ↔
      state.RaisesHarmlessly members n := by
  cases cut.cutAt with
  | ping arranged lead welcomed number =>
      exact cutByPing_iff wellformed cut.flags arranged lead welcomed number
  | close arranged keys settled tracked departs =>
      exact cutByClose_iff wellformed cut.flags arranged keys settled tracked departs

end CutShort

section Replays

variable {spec : PoolSpec} {clock : Nat → ClockReading} {picks : Nat → Nat}
variable {system : ConnectionSystem} {task seed client : Nat} {result : QueryResultSet}
variable {script : List ConnectionResumption} {meanwhile : ConnectionState → ConnectionState}
variable {run : Replayed ConnectionState ConnectionEffect ConnectionRequest
  ConnectionRequest.Answer Fault Unit}

/-- What the other tasks do between two steps of a task that holds the discovery
lock leaves the membership alone. -/
theorem sameMembership_of_held
    {later : ConnectionSystem}
    (reached : connectionLoop.Reaches (fun before action => addressesNodes before action)
      (ConnectionSystem.fresh spec clock picks) system)
    (held : system.state.discoveryLock.holder = some task)
    (continues : connectionLoop.Reaches
      (fun before action => addressesNodes before action ∧ action.task? ≠ some task)
      system later) :
    SameMembership system.state later.state := by
  refine ⟨(samePool_of_held reached held continues).2, ?_⟩
  apply continues.keeps (fun state _ => state.spec = system.state.spec)
  · exact fun effect state _ same => (state.spec_apply effect).trans same
  · exact fun _ _ _ same => same
  · rfl

/-- A refresh whose discovery query is answered is all or nothing exactly if the
exceptions that go out of its pings and closes do not divide the hosts.  It holds
the discovery lock, so the other tasks leave the membership alone, as
`sameMembership_of_held` has it. -/
theorem refresh_allOrNothing_iff
    (reached : connectionLoop.Reaches (fun before action => addressesNodes before action)
      (ConnectionSystem.fresh spec clock picks) system)
    (alone : ∀ resumption ∈ script, ∀ before,
      SameMembership before (resumption.meanwhile before))
    (ran : connectionLoop.replay task refreshTopology script system.state = some run)
    (answered : ⟨meanwhile, .query seed client discoverySql 10, .ok result⟩ ∈ script) :
    AllOrNothing spec result system.state run.state ↔
      ∀ members, membersOf spec.clusterName (Node.rowsOf result) = .ok members →
        ∀ resumption ∈ script, ∀ n, resumption.request.RaisesOut resumption.outcome n →
          system.state.RaisesHarmlessly members n := by
  have wellformed := wellformed_of_reaches reached
  have sameSpec : system.state.spec = spec := spec_of_reaches reached
  have sameTarget : ∀ members, target members spec.seedHosts =
      target members system.state.seedHosts := fun members =>
    target_congr (fun _ => .rfl) fun host => (mem_seedHosts_of_reaches reached host).symm
  have within : ∀ resumption ∈ script, (refreshSurroundings False).Include resumption :=
    fun resumption member => ⟨fun before => ⟨alone resumption member before, False.elim⟩, trivial⟩
  have got : .got (.query seed client discoverySql 10) (.ok result) ∈ run.trace :=
    (got_mem_trace_iff ran _ _).mpr ⟨meanwhile, answered⟩
  have harmless : (∀ n, ¬Raises run.trace n) →
      ∀ members, membersOf spec.clusterName (Node.rowsOf result) = .ok members →
        ∀ resumption ∈ script, ∀ n, resumption.request.RaisesOut resumption.outcome n →
          system.state.RaisesHarmlessly members n :=
    fun quiet members read resumption member n raises =>
      absurd ((someAnswer_trace_iff ran).mpr ⟨resumption, member, raises⟩) (quiet n)
  cases refreshEnds_of_replay wellformed within ran with
  | undiscovered noRows same =>
      obtain ⟨fault, failed⟩ := noRows _ _ got rfl
      cases failed
  | unreadable discovered unread =>
      obtain ⟨_, _, rfl⟩ := discovered.eq_of_got everyAnswer_nil (List.mem_append_left [] got)
      refine iff_of_true (.inl ⟨discovered.membership.flags_eq,
        discovered.membership.lastDiscovery⟩) ?_
      intro members read
      rw [sameSpec, read] at unread
      cases unread
  | refreshed discovered read trace_eq returns refreshed =>
      obtain ⟨_, _, rfl⟩ := discovered.eq_of_got refreshed.unqueried (trace_eq ▸ got)
      refine iff_of_true (.inr ⟨_, sameSpec ▸ read, ?_⟩) (harmless fun n => ?_)
      · rw [reconciled_iff, refreshed.flags, discovered.membership.seedHosts, sameTarget]
      · rw [trace_eq]
        exact fun raises => (someAnswer_append.mp raises).elim
          (discovered.answer.quiet n) (refreshed.quiet n)
  | @cutShort _ _ _ _ _ _ _ _ last discovered read trace_eq cut =>
      obtain ⟨_, _, rfl⟩ := discovered.eq_of_got cut.unqueried (trace_eq ▸ got)
      rw [sameSpec] at read
      have fromStart := cut.of_same discovered.membership
      have raises : ∀ n, Raises run.trace n ↔ n = last := by
        intro n
        rw [trace_eq, ← cut.raises n]
        exact someAnswer_append.trans (or_iff_right (discovered.answer.quiet n))
      have divided := cutShort_iff wellformed fromStart
      rw [← sameTarget, ← reconciled_iff] at divided
      rw [AllOrNothing, and_iff_left fromStart.lastDiscovery]
      simp only [read, Except.ok.injEq, exists_eq_left', forall_eq']
      rw [divided]
      constructor
      · intro harmless resumption member n raisesOut
        rwa [(raises n).mp ((someAnswer_trace_iff ran).mpr ⟨resumption, member, raisesOut⟩)]
      · intro harmless
        obtain ⟨resumption, member, raisesOut⟩ := (someAnswer_trace_iff ran).mp ((raises _).mpr rfl)
        exact harmless resumption member _ raisesOut

end Replays

/-- The only new member is added, then its ping raises. -/
def lastPingScript : List ConnectionResumption :=
  [{ request := .query 0 0 discoverySql 10
     outcome := .ok ⟨["cluster", "host_name"], [[.str "main", .str "b"]]⟩ },
   { request := .factory 1, outcome := .ok () },
   { request := .ping 1 0, outcome := .error (.driver (.database "unknown setting")) }]

theorem refresh_allOrNothing_after_last_ping :
    ∃ (before : ConnectionState) (run : Replayed ConnectionState ConnectionEffect
        ConnectionRequest ConnectionRequest.Answer Fault Unit),
      connectionLoop.replay 1 refreshTopology lastPingScript before = some run ∧
      run.outcome.isOk = false ∧ run.state.pool.keys = ["a", "b"] ∧
      AllOrNothing { seedHosts := ["a"], clusterName := "main" }
        ⟨["cluster", "host_name"], [[.str "main", .str "b"]]⟩ before run.state := by
  obtain ⟨system, reached, found⟩ := ConnectionSystem.exists_reached addressesNodes
    { seedHosts := ["a"], clusterName := "main" } (fun reading => ⟨reading, reading⟩)
    (fun _ => 0)
    [.start (.ping 0), .begin 0, .answer 0 (.factory 0) (.ok ()),
      .answer 0 (.ping 0 0) (.ok true)]
    (fun system => system.state.RaisesHarmlessly ["b"] 1 ∧
      (connectionLoop.replay 1 refreshTopology lastPingScript system.state).any fun run =>
        run.outcome.isOk = false ∧ run.state.pool.keys = ["a", "b"])
    (by decide +kernel)
  obtain ⟨harmless, replays⟩ := of_decide_eq_true found
  obtain ⟨run, ran, ended⟩ := (Option.any_eq_true _ _).mp replays
  obtain ⟨failed, keys⟩ := of_decide_eq_true ended
  refine ⟨system.state, run, ran, failed, keys,
    (refresh_allOrNothing_iff reached ?_ ran List.mem_cons_self).mpr ?_⟩
  · simp only [lastPingScript, List.forall_mem_cons]
    exact ⟨.refl, .refl, .refl, by simp⟩
  · intro members read
    obtain rfl : ["b"] = members := Except.ok.inj read
    simp only [lastPingScript, List.forall_mem_cons]
    refine ⟨fun n raises => absurd raises (not_raisesOut_ok _),
      fun n raises => absurd raises (not_raisesOut_ok _), ?_, by simp⟩
    rintro n ⟨pinged, -⟩
    obtain rfl : 1 = n := Option.some.inj pinged
    exact harmless

/-- One member leaves while another joins, and the client of the one that leaves
raises when it is closed. -/
def brokenCloseScript : List ConnectionResumption :=
  [{ request := .query 0 0 discoverySql 10
     outcome := .ok ⟨["cluster", "host_name"], [[.str "main", .str "c"]]⟩ },
   { request := .factory 2, outcome := .ok () },
   { request := .ping 2 0, outcome := .ok true },
   { request := .close .depart 1 0, outcome := .error (.driver (.transport "broken pipe")) }]

/-- The member that has left is still tracked, next to the one that has joined. -/
theorem not_allOrNothing_of_broken_close :
    ∃ (system : ConnectionSystem) (run : Replayed ConnectionState ConnectionEffect
        ConnectionRequest ConnectionRequest.Answer Fault Unit),
      connectionLoop.Reaches (fun before action => addressesNodes before action)
        (ConnectionSystem.fresh { seedHosts := ["a"], clusterName := "main" }
          (fun reading => ⟨reading, reading⟩) (fun _ => 0)) system ∧
      connectionLoop.replay 1 refreshTopology brokenCloseScript system.state = some run ∧
      (∀ resumption ∈ brokenCloseScript, resumption.meanwhile = id) ∧
      ¬AllOrNothing { seedHosts := ["a"], clusterName := "main" }
        ⟨["cluster", "host_name"], [[.str "main", .str "c"]]⟩ system.state run.state := by
  obtain ⟨system, reached, found⟩ := ConnectionSystem.exists_reached addressesNodes
    { seedHosts := ["a"], clusterName := "main" } (fun reading => ⟨reading, reading⟩)
    (fun _ => 0)
    [.start .refresh, .begin 0,
      .begin 1, .answer 1 (.factory 0) (.ok ()), .answer 1 (.ping 0 0) (.ok true),
      .join 0 none,
      .answer 0 (.query 0 0 discoverySql 10)
        (.ok ⟨["cluster", "host_name"], [[.str "main", .str "b"]]⟩),
      .answer 0 (.factory 1) (.ok ()), .answer 0 (.ping 1 0) (.ok true)]
    (fun system => system.state.pool.keys = ["a", "b"] ∧
      (connectionLoop.replay 1 refreshTopology brokenCloseScript system.state).any fun run =>
        run.state.pool.keys = ["a", "b", "c"])
    (by decide +kernel)
  obtain ⟨keysBefore, replays⟩ := of_decide_eq_true found
  obtain ⟨run, ran, ended⟩ := (Option.any_eq_true _ _).mp replays
  have keysAfter := of_decide_eq_true ended
  refine ⟨system, run, reached, ran, by simp [brokenCloseScript], ?_⟩
  rintro (⟨same, -⟩ | ⟨members, read, inLine⟩)
  · have untracked : system.state.flags "c" = none := by
      rw [flags_eq_none_iff, keysBefore]
      decide
    rw [← same, flags_eq_none_iff, keysAfter] at untracked
    exact untracked (by decide)
  · obtain rfl : ["c"] = members := Except.ok.inj read
    have tracked : "b" ∈ run.state.pool.keys := by
      rw [keysAfter]
      decide
    exact absurd ((inLine.hosts "b").mp tracked) (by decide)

end Promch
