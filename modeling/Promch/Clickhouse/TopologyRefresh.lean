import Promch.Clickhouse.Reconciliation

/-!
# Topology refreshes

The replays of a whole refresh.  Unless a ping or a close raises, the pool ends
with the declared seeds and the reported members, whatever it was before; a
refresh that is cut short has settled the hosts that it came to.
-/

namespace Promch

open EventLoop EventLoop.Coroutine EventLoop.Machine ConnectionState

/-- The reported members that are not tracked yet. -/
def ConnectionState.unknown (state : ConnectionState) (members : List String) : List String :=
  members.dedup.filter (· ∉ state.pool.keys)

/-- Nothing is queried in a trace. -/
abbrev Unqueried (trace : List ConnectionHappening) : Prop :=
  EveryAnswer (fun request _ => request.isQuery = false) trace

/-- A pool that a refresh has brought in line with the reported members. -/
structure Refreshed
    (calm : Prop)
    (members : List String)
    (before : ConnectionState)
    (trace : List ConnectionHappening)
    (after : ConnectionState) : Prop where
  flags : after.flags = target members before.seedHosts
  discovered : after.lastDiscovery = some (after.clock (after.readings - 1)).now
  recorded : after.membership = members
  unqueried : Unqueried trace
  quiet : ∀ n, ¬Raises trace n
  /-- A host that stays keeps its node. -/
  kept : ∀ host m n, before.pool.get? host = some m → after.pool.get? host = some n → n = m
  stays : calm → ∀ host n, before.pool.get? host = some n →
    target members before.seedHosts host ≠ none → SameUse before after n
  departs : calm → ∀ host n, before.pool.get? host = some n →
    target members before.seedHosts host = none →
      (after.objects n).closed = (before.client n).toList ++ (before.objects n).closed
  joins : calm → ∀ host n, before.pool.get? host = none → after.pool.get? host = some n →
    ((after.node n).alive = true ↔ PingSucceeds trace n)

/-- Where the ping or the close that raised has left the hosts: those that are
done have been settled, the others have not. -/
inductive CutAt
    (members : List String)
    (before : ConnectionState)
    (done : List String)
    (n : Nat) : Prop
  /-- The ping of a new member raised. -/
  | ping
      {order : List String}
      {host : String}
      (arranged : order.Perm (before.unknown members))
      (lead : done <+: order)
      (welcomed : host ∈ done)
      (number : n + 1 = before.count + done.length)
  /-- The close of a departing node raised. -/
  | close
      {order earlier later : List String}
      {host : String}
      (arranged : order.Perm (before.unknown members))
      (keys : before.pool.keys = earlier ++ host :: later)
      (settled : done = order ++ earlier)
      (tracked : before.pool.get? host = some n)
      (departs : target members before.seedHosts host = none)

/-- A pool whose refresh was cut short. -/
structure CutShort
    (members : List String)
    (before : ConnectionState)
    (trace : List ConnectionHappening)
    (after : ConnectionState)
    (done : List String)
    (n : Nat) : Prop where
  flags : after.flags = settle (target members before.seedHosts) done before.flags
  lastDiscovery : after.lastDiscovery = before.lastDiscovery
  unqueried : Unqueried trace
  raises : ∀ m, Raises trace m ↔ m = n
  cutAt : CutAt members before done n

section Traces

variable {trace : List ConnectionHappening}

theorem ProbesFrom.unqueried {first : Nat} (probes : ProbesFrom trace first) :
    Unqueried trace :=
  EveryAnswer.mono probes fun _ _ ⟨_, _, probe⟩ => probe.2

theorem Closes.unqueried (closes : Closes trace) : Unqueried trace :=
  EveryAnswer.mono closes fun _ _ close => close.1

end Traces

section Update

variable {calm : Prop} {task : Nat} {state : ConnectionState} {members : List String}

/-- The unknown members and the tracked hosts are all that has to be settled. -/
theorem settle_all
    {order : List String}
    (seeds : ∀ host ∈ state.seedHosts, host ∈ state.pool.keys)
    (arranged : order.Perm (state.unknown members)) :
    settle (target members state.seedHosts) (order ++ (state.pool.keys ++ order)) state.flags =
      target members state.seedHosts := by
  rw [settle_eq_target_iff]
  intro host absent
  simp only [List.mem_append, not_or, arranged.mem_iff] at absent
  obtain ⟨known, untracked, _⟩ := absent
  have foreign : host ∉ members := by
    intro reported
    exact known (by simp [unknown, reported, untracked])
  rw [flags_eq_none_iff.mpr untracked,
    target_eq_none_iff.mpr ⟨foreign, fun declared => untracked (seeds host declared)⟩]

/-- The unknown members are settled by being welcomed. -/
theorem settle_welcomed
    {order done : List String}
    (arranged : order.Perm (state.unknown members))
    (lead : done <+: order) :
    settle (fun _ => some true) done state.flags =
      settle (target members state.seedHosts) done state.flags := by
  apply settle_congr
  intro host member
  have pending := arranged.mem_iff.mp (lead.subset member)
  have reported : host ∈ members := by
    simp only [unknown, List.mem_filter, List.mem_dedup] at pending
    exact pending.1
  exact (target_eq_some_iff.mpr ⟨.inl reported, by simp [reported]⟩).symm

/-- Both loops together bring the pool in line. -/
private theorem refreshed_of_loops
    {middle last : ConnectionState}
    {order : List String}
    {welcomes closes : List ConnectionHappening}
    (keyed : state.Keyed)
    (seeds : ∀ host ∈ state.seedHosts, host ∈ state.pool.keys)
    (arranged : order.Perm (state.unknown members))
    (welcomed : Welcomed calm state order middle)
    (probes : ProbesFrom welcomes state.count)
    (quietWelcomes : ∀ n, ¬Raises welcomes n)
    (alives : calm → ∀ n, state.count ≤ n → n < middle.count →
      ((middle.node n).alive = true ↔ PingSucceeds welcomes n))
    (aligned : Aligned calm members middle middle.pool.keys last)
    (closing : Closes closes)
    (quietCloses : ∀ n, ¬Raises closes n) :
    Refreshed calm members state
      (welcomes ++ (closes ++ [.did (.discovered members)]))
      (last.apply (.discovered members)) := by
  have reported : ∀ host ∈ order, host ∈ members ∧ host ∉ state.pool.keys := by
    intro host member
    have pending := arranged.mem_iff.mp member
    simpa [unknown] using pending
  have sameTarget : target members middle.seedHosts = target members state.seedHosts := by
    rw [welcomed.seedHosts]
  have placed : ∀ host n, state.pool.get? host = some n → middle.pool.get? host = some n := by
    intro host n found
    rw [welcomed.placed host fun member =>
      (reported host member).2 ((Dict.mem_keys_iff _ _).mpr ⟨n, found⟩)]
    exact found
  have usesFirst : calm → ∀ host n, state.pool.get? host = some n → SameUse state middle n :=
    fun calmly host n found => welcomed.uses calmly n (keyed host n found).1
  have usesSecond : calm → ∀ host n, middle.pool.get? host = some n →
      target members state.seedHosts host ≠ none → SameUse middle last n := by
    intro calmly host n found stays
    apply aligned.uses calmly n
    intro other _ departs otherFound
    rw [welcomed.keyed.host_eq found otherFound, sameTarget] at departs
    exact stays departs
  refine ⟨?_, rfl, rfl, ?_, ?_, ?_, ?_, ?_, ?_⟩
  · change last.flags = _
    rw [aligned.flags, sameTarget, welcomed.flags, settle_welcomed arranged (List.prefix_refl _),
      ← settle_append, welcomed.keys]
    exact settle_all seeds arranged
  · simp only [everyAnswer_cons_did, everyAnswer_append, everyAnswer_nil, and_true]
    exact ⟨probes.unqueried, closing.unqueried⟩
  · simpa using fun n => ⟨quietWelcomes n, quietCloses n⟩
  · intro host m n found later
    have before := aligned.placed host n later
    rw [placed host m found] at before
    exact (Option.some.inj before).symm
  · intro calmly host n found stays
    have use := (usesFirst calmly host n found).trans
      (usesSecond calmly host n (placed host n found) stays)
    exact ⟨use.alive, use.client, use.closed⟩
  · intro calmly host n found departs
    have tracked : host ∈ middle.pool.keys :=
      (Dict.mem_keys_iff _ _).mpr ⟨n, placed host n found⟩
    have use := usesFirst calmly host n found
    have closed := aligned.closed calmly host tracked (sameTarget ▸ departs) n
      (placed host n found)
    rw [use.client, use.closed] at closed
    exact closed
  · intro calmly host n untracked later
    have found := aligned.placed host n later
    have member : host ∈ order := by
      by_contra absent
      rw [welcomed.placed host absent, untracked] at found
      cases found
    have fresh := welcomed.fresh host member n found
    have stays : target members state.seedHosts host ≠ none := by
      rw [Ne, target_eq_none_iff]
      exact fun departs => departs.1 (reported host member).1
    have alive := alives calmly n fresh (welcomed.keyed host n found).1
    have use := usesSecond calmly host n found stays
    have pingless : ¬PingSucceeds closes n := by
      rintro ⟨request, outcome, answered, returns⟩
      exact (closing request outcome answered).2 n returns
    change (last.node n).alive = true ↔ _
    rw [use.alive, alive]
    simp [pingless]

/-- What was not there before the refresh does not matter to it. -/
theorem Refreshed.of_same
    {before after : ConnectionState}
    {trace : List ConnectionHappening}
    (same : SameMembership state before)
    (uses : calm → ∀ n, SameUse state before n)
    (refreshed : Refreshed calm members before trace after) :
    Refreshed calm members state trace after := by
  obtain ⟨flags, discovered, recorded, unqueried, quiet, kept, stays, departs, joins⟩ := refreshed
  rw [same.seedHosts] at flags stays departs
  rw [same.pool] at kept stays departs joins
  refine ⟨flags, discovered, recorded, unqueried, quiet, kept, ?_, ?_, joins⟩
  · exact fun calmly host n found stay =>
      (uses calmly n).trans (stays calmly host n found stay)
  · intro calmly host n found departing
    rw [departs calmly host n found departing, (uses calmly n).client, (uses calmly n).closed]

theorem CutShort.of_same
    {before after : ConnectionState}
    {trace : List ConnectionHappening}
    {done : List String}
    {n : Nat}
    (same : SameMembership state before)
    (cut : CutShort members before trace after done n) :
    CutShort members state trace after done n := by
  obtain ⟨flags, lastDiscovery, unqueried, raises, cutAt⟩ := cut
  have sameUnknown : before.unknown members = state.unknown members := by
    rw [unknown, unknown, same.pool]
  rw [same.seedHosts, same.flags_eq] at flags
  refine ⟨flags, lastDiscovery.trans same.lastDiscovery, unqueried, raises, ?_⟩
  cases cutAt with
  | ping arranged lead welcomed number =>
      exact .ping (sameUnknown ▸ arranged) lead welcomed (same.count ▸ number)
  | close arranged keys settled tracked departs =>
      exact .close (sameUnknown ▸ arranged) (same.pool ▸ keys) settled (same.pool ▸ tracked)
        (same.seedHosts ▸ departs)

/-- A host on the way through two lists that is not in the second is in the first. -/
private theorem exists_eq_append_of_lead
    {first second done : List String}
    {host : String}
    (lead : done ++ [host] <+: first ++ second)
    (absent : host ∉ second) :
    ∃ later, first = done ++ host :: later := by
  induction done generalizing first with
  | nil =>
      cases first with
      | nil => exact absurd (lead.subset (by simp)) absent
      | cons head rest =>
          obtain ⟨rfl, _⟩ := List.cons_prefix_cons.mp lead
          exact ⟨rest, rfl⟩
  | cons earlier done inductionHypothesis =>
      cases first with
      | nil => exact absurd (lead.subset (by simp)) absent
      | cons head rest =>
          obtain ⟨rfl, leadRest⟩ := List.cons_prefix_cons.mp lead
          obtain ⟨later, rfl⟩ := inductionHypothesis leadRest
          exact ⟨later, rfl⟩

/-- From where the order of the unknown members is drawn, the update is complete
unless it is cut short. -/
private theorem ensures_updateArranged
    {order : List String}
    {goal : List ConnectionHappening → Except Fault Unit → ConnectionState → Prop}
    (keyed : state.Keyed)
    (seeds : ∀ host ∈ state.seedHosts, host ∈ state.pool.keys)
    (arranged : order.Perm (state.unknown members))
    (refreshed : ∀ trace later, Refreshed calm members state trace later →
      goal trace (.ok ()) later)
    (cutShort : ∀ trace fault later done n, CutShort members state trace later done n →
      goal trace (.error fault) later) :
    connectionLoop.Ensures (refreshSurroundings calm) task
      (do
        welcomeAll order
        let hosts ← gets fun state => state.pool.keys
        reconcile members hosts
        emit (.discovered members) : Async Unit) goal state := by
  have unknownNodup : (state.unknown members).Nodup := members.nodup_dedup.filter _
  have untracked : ∀ host ∈ order, host ∉ state.pool.keys := fun host member => by
    simpa using (List.mem_filter.mp (arranged.mem_iff.mp member)).2
  rw [ensures_bind]
  apply ensures_welcomeAll keyed (arranged.nodup_iff.mpr unknownNodup) untracked
  · intro welcomes middle welcomed probes quietWelcomes alives
    simp only [ensures_andThen_ok, ensures_bind, ensures_gets]
    apply ensures_reconcile welcomed.keyed middle.pool.nodup_keys fun _ member => member
    · intro closes last aligned closing quietCloses
      rw [ensures_andThen_ok, ensures_emit]
      exact refreshed _ _ (refreshed_of_loops keyed seeds arranged welcomed probes
        quietWelcomes alives aligned closing quietCloses)
    · intro closes fault last done host n lead departs found flags lastDiscovery closing raises
      have unreported : host ∉ order := fun member =>
        (target_eq_none_iff.mp departs).1
          (List.mem_dedup.mp (List.mem_filter.mp (arranged.mem_iff.mp member)).1)
      rw [welcomed.keys] at lead
      obtain ⟨later, keys⟩ := exists_eq_append_of_lead lead unreported
      rw [welcomed.placed host unreported] at found
      rw [welcomed.seedHosts] at departs flags
      rw [ensures_andThen_error]
      apply cutShort _ fault last (order ++ done) n
      refine ⟨?_, lastDiscovery.trans welcomed.lastDiscovery, ?_, ?_,
        .close arranged keys rfl found departs⟩
      · rw [flags, welcomed.flags, settle_welcomed arranged (List.prefix_refl _), settle_append]
      · simpa using ⟨probes.unqueried, closing.unqueried⟩
      · simpa [quietWelcomes] using raises
  · intro welcomes fault middle done host lead welcomed probes raises
    rw [ensures_andThen_error]
    apply cutShort _ fault middle (done ++ [host]) (state.count + done.length)
    refine ⟨?_, welcomed.lastDiscovery, ?_, ?_, ?_⟩
    · rw [welcomed.flags, settle_welcomed arranged lead]
    · simpa using probes.unqueried
    · simpa using raises
    · exact .ping arranged lead (List.mem_append_right done (List.mem_singleton_self host))
        (by simp [Nat.add_assoc])

/-- The update of the pool is complete unless it is cut short. -/
theorem ensures_updateMembers
    {goal : List ConnectionHappening → Except Fault Unit → ConnectionState → Prop}
    (keyed : state.Keyed)
    (seeds : ∀ host ∈ state.seedHosts, host ∈ state.pool.keys)
    (refreshed : ∀ trace later, Refreshed calm members state trace later →
      goal trace (.ok ()) later)
    (cutShort : ∀ trace fault later done n, CutShort members state trace later done n →
      goal trace (.error fault) later) :
    connectionLoop.Ensures (refreshSurroundings calm) task (updateMembers members) goal
      state := by
  have same := sameMembership_pick state
  have picked : (connectionLoop.apply .pick state).Keyed := keyed
  have update : connectionLoop.Ensures (refreshSurroundings calm) task
      (do
        welcomeAll (arrange (state.picks state.picked) (state.unknown members))
        let hosts ← gets fun state => state.pool.keys
        reconcile members hosts
        emit (.discovered members) : Async Unit)
      (fun trace => goal (.did .pick :: trace)) (connectionLoop.apply .pick state) := by
    apply ensures_updateArranged picked (by exact seeds) (by exact arrange_perm _ _)
    · intro trace later update
      obtain ⟨flags, discovered, recorded, unqueried, quiet, kept, stays, departs, joins⟩ :=
        update.of_same same fun _ => sameUse_pick state
      apply refreshed
      exact ⟨flags, discovered, recorded, by simpa using unqueried, by simpa using quiet, kept,
        stays, departs, by simpa using joins⟩
    · intro trace fault later done n cut
      obtain ⟨flags, lastDiscovery, unqueried, raises, cutAt⟩ := cut.of_same same
      apply cutShort _ fault later done n
      exact ⟨flags, lastDiscovery, by simpa using unqueried, by simpa using raises, cutAt⟩
  exact update

/-- The discovery query has been answered, and the node that was asked is up. -/
structure Discovered
    (calm : Prop)
    (state : ConnectionState)
    (seed client : Nat)
    (result : QueryResultSet)
    (trace : List ConnectionHappening)
    (later : ConnectionState) : Prop where
  tracked : seed ∈ state.tracked
  live : (state.node seed).alive = true
  answer : OnlyAnswer (.query seed client discoverySql 10) (.ok result) trace
  membership : SameMembership state later
  others : calm → ∀ n ≠ seed, SameUse state later n
  up : calm → (later.node seed).alive = true ∧ later.client seed = some client ∧
    (later.objects seed).closed = (state.objects seed).closed

/-- The discovery query is answered once. -/
theorem Discovered.eq_of_got
    {seed client other otherClient : Nat}
    {result otherResult : QueryResultSet}
    {asked more : List ConnectionHappening}
    {later : ConnectionState}
    (discovered : Discovered calm state seed client result asked later)
    (unqueried : Unqueried more)
    (got : .got (.query other otherClient discoverySql 10) (.ok otherResult) ∈ asked ++ more) :
    other = seed ∧ otherClient = client ∧ otherResult = result := by
  obtain early | late := List.mem_append.mp got
  · have same := discovered.answer.only _ _ early rfl
    cases same
    exact ⟨rfl, rfl, rfl⟩
  · have query := unqueried _ _ late
    cases query

private theorem truncate_ten : truncate 10 = 10 := by
  decide

/-- A pick finds nothing to choose from, or a live node. -/
private theorem ensures_pickOneLive
    {goal : List ConnectionHappening → Except Fault (Option Nat) → ConnectionState → Prop}
    (nothing : (∀ n ∈ state.tracked, (state.node n).alive = false) →
      goal [] (.ok none) state)
    (picked : ∀ seed ∈ state.tracked, (state.node seed).alive = true →
      goal [.did .pick] (.ok (some seed)) (connectionLoop.apply .pick state)) :
    connectionLoop.Ensures (refreshSurroundings calm) task (pickOneLive []) goal state := by
  simp only [pickOneLive, ensures_bind, ensures_gets, ensures_andThen_ok]
  split
  · next empty =>
      apply nothing
      simpa [candidates] using empty
  · next nonempty =>
      simp only [ensures_bind, ensures_gets, ensures_emit, ensures_andThen_ok]
      have positive : 0 < (state.candidates []).length := by
        rw [List.length_pos_iff]
        simpa using nonempty
      have inside := Nat.mod_lt (state.picks state.picked) positive
      rw [List.getElem?_eq_getElem inside]
      obtain ⟨tracked, live⟩ := List.mem_filter.mp (List.getElem_mem inside)
      exact picked _ tracked (by simpa using live)

/-- A live node is sent the discovery query, unless none is live or it gives no
client. -/
def AsksOneLive (state : ConnectionState) (trace : List ConnectionHappening) : Prop :=
  (∀ n ∈ state.tracked, (state.node n).alive = false) ∨
    ∃ seed ∈ state.tracked, (state.node seed).alive = true ∧
      Approached trace seed discoverySql 10

/-- A refresh finds no live node, gets no answer that it can read, or updates the
pool. -/
theorem ensures_refreshTopology
    {goal : List ConnectionHappening → Except Fault Unit → ConnectionState → Prop}
    (undiscovered : ∀ trace outcome later, NoRows trace → SameMembership state later →
      AsksOneLive state trace → goal trace outcome later)
    (unreadable : ∀ seed client result trace fault later,
      Discovered calm state seed client result trace later →
      membersOf state.spec.clusterName (Node.rowsOf result) = .error fault →
      goal trace (.error fault) later)
    (discovered : ∀ seed client result members trace later,
      Discovered calm state seed client result trace later →
      membersOf state.spec.clusterName (Node.rowsOf result) = .ok members →
      connectionLoop.Ensures (refreshSurroundings calm) task (updateMembers members)
        (fun more => goal (trace ++ more)) later) :
    connectionLoop.Ensures (refreshSurroundings calm) task refreshTopology goal state := by
  unfold refreshTopology
  rw [ensures_bind]
  apply ensures_pickOneLive
  · exact fun dead => undiscovered [] (.ok ()) state everyAnswer_nil (.refl state) (.inl dead)
  · intro seed tracked live
    have picked := sameMembership_pick state
    simp only [ensures_andThen_ok, ensures_bind, ensures_attempt]
    apply ensures_query
    · intro trace client result later answer up untouched
      rw [truncate_ten] at answer
      have found : Discovered calm state seed client result (.did .pick :: trace) later := by
        refine ⟨tracked, live, ⟨List.mem_cons_of_mem _ answer.got, ?_, by simpa using answer.quiet,
          by simpa using answer.pingless⟩, picked.trans untouched.membership, ?_, ?_⟩
        · rw [everyAnswer_cons_did]
          exact answer.only
        · exact fun calmly n apart =>
            (sameUse_pick state n).trans (untouched.others calmly n apart)
        · exact up
      have sameSpec : later.spec = state.spec := found.membership.spec
      simp only [ensures_bind, ensures_gets, ensures_andThen_ok, ensures_conclude, sameSpec]
      cases read : membersOf state.spec.clusterName (Node.rowsOf result) with
      | error fault => simpa using unreadable seed client result _ fault later found read
      | ok members => simpa using discovered seed client result members _ later found read
    · intro trace fault later noRows approached untouched
      have asks : Approached (.did .pick :: trace) seed discoverySql 10 := by
        rw [truncate_ten] at approached
        obtain ⟨client, outcome, got⟩ | refused := approached
        · exact .inl ⟨client, outcome, List.mem_cons_of_mem _ got⟩
        · exact .inr (by simpa using refused)
      have failed : ∀ outcome, goal ([.did .pick] ++ (trace ++ [])) outcome later := by
        intro outcome
        rw [List.append_nil, List.singleton_append]
        refine undiscovered _ outcome later ?_ (picked.trans untouched.membership)
          (.inr ⟨seed, tracked, live, asks⟩)
        simpa using noRows
      split
      · exact failed (.ok ())
      · exact failed (.ok ())
      · exact failed (.error _)
      · next rows => cases rows

/-- How a refresh ends. -/
inductive RefreshEnds
    (calm : Prop)
    (state : ConnectionState)
    (trace : List ConnectionHappening)
    (outcome : Except Fault Unit)
    (later : ConnectionState) : Prop
  | undiscovered
      (noRows : NoRows trace)
      (same : SameMembership state later)
      (asks : AsksOneLive state trace)
  | unreadable
      {seed client : Nat}
      {result : QueryResultSet}
      {fault : Fault}
      (discovered : Discovered calm state seed client result trace later)
      (unread : membersOf state.spec.clusterName (Node.rowsOf result) = .error fault)
  | refreshed
      {seed client : Nat}
      {result : QueryResultSet}
      {members : List String}
      {asked more : List ConnectionHappening}
      {middle : ConnectionState}
      (discovered : Discovered calm state seed client result asked middle)
      (read : membersOf state.spec.clusterName (Node.rowsOf result) = .ok members)
      (trace_eq : trace = asked ++ more)
      (returns : outcome = .ok ())
      (refreshed : Refreshed calm members middle more later)
  | cutShort
      {seed client : Nat}
      {result : QueryResultSet}
      {members done : List String}
      {asked more : List ConnectionHappening}
      {middle : ConnectionState}
      {n : Nat}
      (discovered : Discovered calm state seed client result asked middle)
      (read : membersOf state.spec.clusterName (Node.rowsOf result) = .ok members)
      (trace_eq : trace = asked ++ more)
      (cut : CutShort members middle more later done n)
      (raised : ∃ fault, outcome = .error fault)

/-- Every replay of a refresh ends in one of these ways. -/
theorem refreshEnds_of_replay
    {script : List ConnectionResumption}
    {run : Replayed ConnectionState ConnectionEffect ConnectionRequest
      ConnectionRequest.Answer Fault Unit}
    (wellformed : state.Wellformed)
    (within : ∀ resumption ∈ script, (refreshSurroundings calm).Include resumption)
    (ran : connectionLoop.replay task refreshTopology script state = some run) :
    RefreshEnds calm state run.trace run.outcome run.state := by
  refine Ensures.of_replay ?_ within ran
  apply ensures_refreshTopology
  · exact fun trace outcome later => .undiscovered
  · exact fun seed client result trace fault later => .unreadable
  · intro seed client result members asked middle discovered read
    have keyed : middle.Keyed := discovered.membership.keyed wellformed.keyed
    have seeds : ∀ host ∈ middle.seedHosts, host ∈ middle.pool.keys := by
      rw [discovered.membership.seedHosts, discovered.membership.pool]
      exact wellformed.seeds
    apply ensures_updateMembers keyed seeds
    · exact fun more later => .refreshed discovered read rfl rfl
    · exact fun more fault later done n cut => .cutShort discovered read rfl cut ⟨fault, rfl⟩

/-- However a refresh ends, it has asked a live node if there was one. -/
theorem RefreshEnds.asks
    {trace : List ConnectionHappening}
    {outcome : Except Fault Unit}
    {later : ConnectionState}
    (ends : RefreshEnds calm state trace outcome later) :
    AsksOneLive state trace := by
  have asked : ∀ {seed client result asked middle} more,
      Discovered calm state seed client result asked middle → AsksOneLive state (asked ++ more) :=
    fun more discovered => .inr ⟨_, discovered.tracked, discovered.live,
      .inl ⟨_, _, List.mem_append_left more discovered.answer.got⟩⟩
  cases ends with
  | undiscovered noRows same asks => exact asks
  | unreadable discovered unread => exact List.append_nil trace ▸ asked [] discovered
  | refreshed discovered read trace_eq returns refreshed => exact trace_eq ▸ asked _ discovered
  | cutShort discovered read trace_eq cut raised => exact trace_eq ▸ asked _ discovered

end Update

end Promch
