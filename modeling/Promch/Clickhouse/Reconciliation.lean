import Promch.Library.Settling
import Promch.Clickhouse.FacadeConduct
import Promch.Clickhouse.NodeReplays

/-!
# Reconciling the pool with the reported membership

A topology refresh settles the hosts one by one: an unknown member is welcomed
and pinged, then every tracked host is confirmed, flagged, or closed and
dropped.  The replays of the two loops are walked through once, for every answer
that a ping or a close may get; what the use of the nodes comes to is said for
calm surroundings.
-/

namespace Promch

open EventLoop EventLoop.Coroutine EventLoop.Machine

namespace ConnectionState

/-- The membership flag of a host, if it is tracked. -/
def flags (state : ConnectionState) (host : String) : Option Bool :=
  (state.pool.get? host).map fun n => (state.node n).inCluster

/-- The flag of a host in a pool that is in line with the reported members:
members and declared seeds are tracked, and the members are flagged as such. -/
def target (members seeds : List String) (host : String) : Option Bool :=
  if host ∈ members then some true else if host ∈ seeds then some false else none

/-- Every pool key is the host of an existing node. -/
def Keyed (state : ConnectionState) : Prop :=
  ∀ host n, state.pool.get? host = some n → n < state.count ∧ (state.node n).host = host

variable {state before middle after : ConnectionState} {members seeds : List String}
variable {host other : String} {n : Nat}

theorem target_eq_none_iff : target members seeds host = none ↔ host ∉ members ∧ host ∉ seeds := by
  unfold target
  split
  · next reported => simp [reported]
  · next foreign =>
      split
      · next declared => simp [declared]
      · next undeclared => simp [foreign, undeclared]

theorem target_eq_some_iff {member : Bool} :
    target members seeds host = some member ↔
      (host ∈ members ∨ host ∈ seeds) ∧ (member = true ↔ host ∈ members) := by
  unfold target
  split
  · next reported => cases member <;> simp [reported]
  · next foreign =>
      split
      · next declared => cases member <;> simp [foreign, declared]
      · next undeclared => simp [foreign, undeclared]

/-- Only which hosts are members and seeds matters. -/
theorem target_congr
    {otherMembers otherSeeds : List String}
    (sameMembers : ∀ host, host ∈ members ↔ host ∈ otherMembers)
    (sameSeeds : ∀ host, host ∈ seeds ↔ host ∈ otherSeeds) :
    target members seeds = target otherMembers otherSeeds := by
  funext host
  apply Option.ext
  intro member
  rw [target_eq_some_iff, target_eq_some_iff, sameMembers, sameSeeds]

theorem flags_eq_none_iff : state.flags host = none ↔ host ∉ state.pool.keys := by
  rw [flags, Option.map_eq_none_iff, Dict.mem_keys_iff, not_exists,
    Option.eq_none_iff_forall_ne_some]

/-- A pool that tracks the declared seeds and the members, the members flagged as
such. -/
structure Reconciled (state : ConnectionState) (members seeds : List String) : Prop where
  hosts : ∀ host, host ∈ state.pool.keys ↔ host ∈ seeds ∨ host ∈ members
  inCluster : ∀ host n, state.pool.get? host = some n →
    ((state.node n).inCluster = true ↔ host ∈ members)

theorem reconciled_iff : state.Reconciled members seeds ↔ state.flags = target members seeds := by
  constructor
  · rintro ⟨hosts, inCluster⟩
    funext host
    cases found : state.pool.get? host with
    | none =>
        have untracked : host ∉ state.pool.keys := (Dict.get?_eq_none_iff _ _).mp found
        rw [flags_eq_none_iff.mpr untracked, target_eq_none_iff.mpr]
        exact (not_or.mp (mt (hosts host).mpr untracked)).symm
    | some n =>
        have tracked : host ∈ state.pool.keys := (Dict.mem_keys_iff _ _).mpr ⟨n, found⟩
        have flag : state.flags host = some (state.node n).inCluster := by
          rw [flags, found, Option.map_some]
        rw [flag, target_eq_some_iff.mpr]
        exact ⟨((hosts host).mp tracked).symm, inCluster host n found⟩
  · intro inLine
    constructor
    · intro host
      rw [← not_iff_not, ← flags_eq_none_iff, inLine, target_eq_none_iff, not_or, and_comm]
    · intro host n found
      have flag : state.flags host = some (state.node n).inCluster := by
        rw [flags, found, Option.map_some]
      rw [inLine] at flag
      exact (target_eq_some_iff.mp flag).2

theorem SameMembership.flags_eq (same : SameMembership before after) :
    after.flags = before.flags := by
  funext host
  simp only [ConnectionState.flags, same.pool, same.toSamePool.flags]

theorem SameMembership.keyed
    (same : SameMembership before after)
    (keyed : before.Keyed) :
    after.Keyed := by
  intro host n found
  rw [same.pool] at found
  rw [same.count, same.hosts]
  exact keyed host n found

/-- No node is tracked under two hosts. -/
theorem Keyed.host_eq
    (keyed : state.Keyed)
    (found : state.pool.get? host = some n)
    (otherFound : state.pool.get? other = some n) :
    other = host :=
  (keyed other n otherFound).2.symm.trans (keyed host n found).2

theorem Keyed.welcome
    (keyed : state.Keyed)
    (host : String) :
    (state.apply (.welcome host)).Keyed :=
  keyed_track host true keyed

theorem Keyed.confirm
    (keyed : state.Keyed)
    (host : String)
    (member : Bool) :
    (state.apply (.confirm host member)).Keyed := by
  intro other n found
  change (state.confirm host member).pool.get? other = some n at found
  rw [pool_confirm] at found
  change n < (state.confirm host member).count ∧
    ((state.confirm host member).node n).host = other
  rw [count_confirm, host_confirm]
  exact keyed other n found

theorem Keyed.remove
    (keyed : state.Keyed)
    (host : String) :
    (state.apply (.remove host)).Keyed := by
  intro other n found
  change (state.pool.erase host).get? other = some n at found
  rw [Dict.get?_erase] at found
  split at found
  · cases found
  · exact keyed other n found

/-- A welcomed host is tracked as a member. -/
theorem flags_welcome (keyed : state.Keyed) (host : String) :
    (state.apply (.welcome host)).flags = Function.update state.flags host (some true) := by
  funext other
  change ((state.pool.set host state.count).get? other).map
    (fun n => ((state.track host true).node n).inCluster) = _
  rw [Dict.get?_set]
  by_cases same : other = host
  · subst same
    rw [if_pos rfl, Function.update_self, Option.map_some, node_track_self]
  · rw [if_neg same, Function.update_of_ne same]
    unfold ConnectionState.flags
    cases found : state.pool.get? other with
    | none => rfl
    | some n =>
        have built := (keyed other n found).1
        simp only [Option.map_some, node, objects_track_of_ne host true (Nat.ne_of_lt built)]

/-- A tracked host that is confirmed has the new flag. -/
theorem flags_confirm
    (keyed : state.Keyed)
    (tracked : state.pool.get? host = some n)
    (member : Bool) :
    (state.apply (.confirm host member)).flags =
      Function.update state.flags host (some member) := by
  funext other
  change ((state.confirm host member).pool.get? other).map
    (fun m => ((state.confirm host member).node m).inCluster) = _
  simp only [pool_confirm, inCluster_confirm, tracked, Option.some.injEq]
  by_cases same : other = host
  · subst same
    simp [tracked]
  · rw [Function.update_of_ne same]
    unfold ConnectionState.flags
    cases found : state.pool.get? other with
    | none => rfl
    | some m =>
        have apart : n ≠ m := by
          rintro rfl
          exact same (keyed.host_eq tracked found)
        simp [apart]

/-- A removed host is tracked no more. -/
theorem flags_remove (state : ConnectionState) (host : String) :
    (state.apply (.remove host)).flags = Function.update state.flags host none := by
  funext other
  change ((state.pool.erase host).get? other).map (fun n => (state.node n).inCluster) = _
  rw [Dict.get?_erase]
  by_cases same : other = host
  · subst same
    rw [if_pos rfl, Function.update_self, Option.map_none]
  · rw [if_neg same, Function.update_of_ne same]
    rfl

theorem sameUse_welcome (built : n < state.count) (host : String) :
    SameUse state (state.apply (.welcome host)) n :=
  .of_objects_eq (objects_track_of_ne host true (Nat.ne_of_lt built))

theorem sameUse_confirm (state : ConnectionState) (host : String) (member : Bool) (n : Nat) :
    SameUse state (state.apply (.confirm host member)) n := by
  have objects : (state.apply (.confirm host member)).objects n =
      if state.pool.get? host = some n then (state.objects n).flag member
      else state.objects n :=
    objects_confirm host member n
  split at objects
  · have alive := congrArg (fun object => object.node.alive) objects
    have client := congrArg NodeObject.client objects
    have closed := congrArg NodeObject.closed objects
    exact ⟨alive, client, closed⟩
  · exact .of_objects_eq objects

/-! ## Welcoming the unknown members -/

/-- What has become of the pool when unknown hosts have been welcomed. -/
structure Welcomed
    (calm : Prop)
    (before : ConnectionState)
    (hosts : List String)
    (after : ConnectionState) : Prop where
  keyed : after.Keyed
  seedHosts : after.seedHosts = before.seedHosts
  lastDiscovery : after.lastDiscovery = before.lastDiscovery
  keys : after.pool.keys = before.pool.keys ++ hosts
  count : after.count = before.count + hosts.length
  flags : after.flags = settle (fun _ => some true) hosts before.flags
  placed : ∀ host ∉ hosts, after.pool.get? host = before.pool.get? host
  fresh : ∀ host ∈ hosts, ∀ n, after.pool.get? host = some n → before.count ≤ n
  uses : calm → ∀ n < before.count, SameUse before after n

theorem Welcomed.nil (calm : Prop) (keyed : state.Keyed) : Welcomed calm state [] state where
  keyed := keyed
  seedHosts := rfl
  lastDiscovery := rfl
  keys := (List.append_nil _).symm
  count := rfl
  flags := settle_nil.symm
  placed _ _ := rfl
  fresh _ member := absurd member List.not_mem_nil
  uses _ n _ := .refl state n

/-- One host is welcomed, and its node alone is used. -/
theorem Welcomed.one
    {calm : Prop}
    (keyed : before.Keyed)
    (unknown : host ∉ before.pool.keys)
    (untouched : Untouched calm before.count (before.apply (.welcome host)) after) :
    Welcomed calm before [host] after where
  keyed := untouched.membership.keyed (keyed.welcome host)
  seedHosts := untouched.membership.seedHosts
  lastDiscovery := untouched.membership.lastDiscovery
  keys := by
    rw [untouched.membership.pool]
    change (before.pool.set host before.count).keys = _
    rw [Dict.keys, Dict.entries_set_of_notMem unknown, List.map_append]
    rfl
  count := untouched.membership.count
  flags := by
    rw [untouched.membership.flags_eq, flags_welcome keyed, settle_singleton]
  placed other apart := by
    rw [untouched.membership.pool]
    change (before.pool.set host before.count).get? other = _
    rw [Dict.get?_set, if_neg (by simpa using apart)]
  fresh other same n found := by
    obtain rfl := List.mem_singleton.mp same
    rw [untouched.membership.pool] at found
    change (before.pool.set other before.count).get? other = some n at found
    rw [Dict.get?_set_self] at found
    exact Nat.le_of_eq (Option.some.inj found)
  uses quiet n built :=
    (sameUse_welcome built host).trans (untouched.others quiet n (Nat.ne_of_lt built))

/-- Welcoming goes on where it stopped. -/
theorem Welcomed.append
    {calm : Prop}
    {first second : List String}
    (start : Welcomed calm before first middle)
    (rest : Welcomed calm middle second after)
    (nodup : (first ++ second).Nodup) :
    Welcomed calm before (first ++ second) after where
  keyed := rest.keyed
  seedHosts := rest.seedHosts.trans start.seedHosts
  lastDiscovery := rest.lastDiscovery.trans start.lastDiscovery
  keys := by rw [rest.keys, start.keys, List.append_assoc]
  count := by
    rw [rest.count, start.count, List.length_append]
    omega
  flags := by rw [rest.flags, start.flags, settle_append]
  placed host absent := by
    rw [List.mem_append, not_or] at absent
    rw [rest.placed host absent.2, start.placed host absent.1]
  fresh host member n found := by
    obtain early | late := List.mem_append.mp member
    · have apart : host ∉ second :=
        fun late => (List.nodup_append.mp nodup).2.2 host early host late rfl
      rw [rest.placed host apart] at found
      exact start.fresh host early n found
    · have later := rest.fresh host late n found
      rw [start.count] at later
      omega
  uses quiet n built := by
    have builtMiddle : n < middle.count := by
      rw [start.count]
      omega
    exact (start.uses quiet n built).trans (rest.uses quiet n builtMiddle)

/-! ## Reconciling the tracked hosts -/

/-- What has become of the pool when tracked hosts have been reconciled with the
reported members. -/
structure Aligned
    (calm : Prop)
    (members : List String)
    (before : ConnectionState)
    (hosts : List String)
    (after : ConnectionState) : Prop where
  keyed : after.Keyed
  seedHosts : after.seedHosts = before.seedHosts
  lastDiscovery : after.lastDiscovery = before.lastDiscovery
  flags : after.flags = settle (target members before.seedHosts) hosts before.flags
  placed : ∀ host n, after.pool.get? host = some n → before.pool.get? host = some n
  /-- A node that does not depart is in the same use. -/
  uses : calm → ∀ n, (∀ host ∈ hosts, target members before.seedHosts host = none →
    before.pool.get? host ≠ some n) → SameUse before after n
  /-- The client of a node that departs is closed. -/
  closed : calm → ∀ host ∈ hosts, target members before.seedHosts host = none →
    ∀ n, before.pool.get? host = some n →
      (after.objects n).closed = (before.client n).toList ++ (before.objects n).closed

theorem Aligned.nil
    (calm : Prop)
    (members : List String)
    (keyed : state.Keyed) :
    Aligned calm members state [] state where
  keyed := keyed
  seedHosts := rfl
  lastDiscovery := rfl
  flags := settle_nil.symm
  placed _ _ found := found
  uses _ n _ := .refl state n
  closed _ _ member := absurd member List.not_mem_nil

/-- A host that is not to be dropped is confirmed, or flagged. -/
theorem Aligned.confirm
    (calm : Prop)
    {member : Bool}
    (keyed : state.Keyed)
    (tracked : state.pool.get? host = some n)
    (stays : target members state.seedHosts host = some member) :
    Aligned calm members state [host] (state.apply (.confirm host member)) where
  keyed := keyed.confirm host member
  seedHosts := seedHosts_confirm host member
  lastDiscovery := by
    simp only [apply, ConnectionState.confirm]
    split <;> rfl
  flags := by rw [flags_confirm keyed tracked, settle_singleton, stays]
  placed other m found := by
    change (state.confirm host member).pool.get? other = some m at found
    rwa [pool_confirm] at found
  uses _ m _ := sameUse_confirm state host member m
  closed _ other same departs := by
    obtain rfl := List.mem_singleton.mp same
    rw [stays] at departs
    cases departs

/-- A host that is neither a member nor a seed is closed and dropped. -/
theorem Aligned.depart
    {calm : Prop}
    (keyed : before.Keyed)
    (tracked : before.pool.get? host = some n)
    (departs : target members before.seedHosts host = none)
    (untouched : Untouched calm n before after)
    (closed : calm →
      (after.objects n).closed = (before.client n).toList ++ (before.objects n).closed) :
    Aligned calm members before [host] (after.apply (.remove host)) where
  keyed := (untouched.membership.keyed keyed).remove host
  seedHosts := untouched.membership.seedHosts
  lastDiscovery := untouched.membership.lastDiscovery
  flags := by rw [flags_remove, untouched.membership.flags_eq, settle_singleton, departs]
  placed other m found := by
    change (after.pool.erase host).get? other = some m at found
    rw [Dict.get?_erase] at found
    split at found
    · cases found
    · rwa [untouched.membership.pool] at found
  uses calmly m elsewhere :=
    have apart : m ≠ n :=
      fun same => elsewhere host (List.mem_singleton_self host) departs (same ▸ tracked)
    (untouched.others calmly m apart).trans (.of_objects_eq rfl)
  closed calmly other same _ m found := by
    obtain rfl := List.mem_singleton.mp same
    obtain rfl := Option.some.inj (tracked.symm.trans found)
    exact closed calmly

/-- Reconciling goes on where it stopped. -/
theorem Aligned.append
    {calm : Prop}
    {first second : List String}
    (start : Aligned calm members before first middle)
    (rest : Aligned calm members middle second after)
    (keyed : before.Keyed)
    (nodup : (first ++ second).Nodup) :
    Aligned calm members before (first ++ second) after := by
  obtain ⟨_, _, apart⟩ := List.nodup_append.mp nodup
  have sameTarget : target members middle.seedHosts = target members before.seedHosts := by
    rw [start.seedHosts]
  have usesFirst : calm → ∀ host ∈ second, ∀ n, before.pool.get? host = some n →
      SameUse before middle n := by
    intro calmly host late n found
    apply start.uses calmly n
    rintro other early _ otherFound
    exact apart other early host late (keyed.host_eq found otherFound)
  have usesSecond : calm → ∀ host ∈ first, ∀ n, before.pool.get? host = some n →
      SameUse middle after n := by
    intro calmly host early n found
    apply rest.uses calmly n
    rintro other late _ otherFound
    have same := keyed.host_eq found (start.placed other n otherFound)
    exact apart host early other late same.symm
  refine ⟨rest.keyed, rest.seedHosts.trans start.seedHosts,
    rest.lastDiscovery.trans start.lastDiscovery, ?_,
    fun host n found => start.placed host n (rest.placed host n found), ?_, ?_⟩
  · rw [rest.flags, sameTarget, start.flags, settle_append]
  · intro calmly n elsewhere
    have usesMiddle := start.uses calmly n fun host early =>
      elsewhere host (List.mem_append_left _ early)
    refine usesMiddle.trans (rest.uses calmly n fun host late departs found => ?_)
    rw [sameTarget] at departs
    exact elsewhere host (List.mem_append_right _ late) departs (start.placed host n found)
  · intro calmly host member departs n found
    obtain early | late := List.mem_append.mp member
    · rw [(usesSecond calmly host early n found).closed]
      exact start.closed calmly host early departs n found
    · have use := usesFirst calmly host late n found
      have foundMiddle : middle.pool.get? host = some n := by
        have kept : middle.flags host = before.flags host := by
          rw [start.flags]
          exact settle_of_not_mem fun early => apart host early host late rfl
        simp only [ConnectionState.flags, found, Option.map_some, Option.map_eq_some_iff] at kept
        obtain ⟨m, foundMiddle, _⟩ := kept
        rw [Option.some.inj (found.symm.trans (start.placed host m foundMiddle))]
        exact foundMiddle
      rw [rest.closed calmly host late (sameTarget ▸ departs) n foundMiddle, use.client,
        use.closed]

end ConnectionState

open ConnectionState

/-- All that is awaited in a trace belongs to pings of nodes from a number on. -/
abbrev ProbesFrom (trace : List ConnectionHappening) (first : Nat) : Prop :=
  EveryAnswer (fun request _ => ∃ n, first ≤ n ∧ request.IsProbe n) trace

/-- Nothing that is awaited in a trace is a query or a ping. -/
abbrev Closes (trace : List ConnectionHappening) : Prop :=
  EveryAnswer (fun request outcome =>
    request.isQuery = false ∧ ∀ n, ¬request.PingReturns outcome n) trace

section Traces

variable {trace : List ConnectionHappening} {first n : Nat}

theorem Probes.probesFrom (probes : Probes trace n) (later : first ≤ n) :
    ProbesFrom trace first :=
  EveryAnswer.mono probes fun _ _ probe => ⟨n, later, probe⟩

theorem ProbesFrom.mono
    {earlier : Nat}
    (probes : ProbesFrom trace first)
    (lower : earlier ≤ first) :
    ProbesFrom trace earlier :=
  EveryAnswer.mono probes fun _ _ ⟨m, later, probe⟩ => ⟨m, Nat.le_trans lower later, probe⟩

theorem ProbesFrom.le_of_pingSucceeds
    (probes : ProbesFrom trace first)
    (succeeds : PingSucceeds trace n) :
    first ≤ n := by
  obtain ⟨request, outcome, member, ⟨client, rfl⟩, _⟩ := succeeds
  obtain ⟨m, later, address, _⟩ := probes _ outcome member
  rwa [Option.some.inj address]

theorem Closed.closes
    {calm : Prop}
    {before later : ConnectionState}
    {outcome : Except Fault Unit}
    (closed : Closed calm n before trace outcome later) :
    Closes trace := by
  intro request answer member
  refine ⟨(closed.probes request answer member).2, fun m returns => ?_⟩
  have succeeds : PingSucceeds trace m := ⟨request, answer, member, returns⟩
  exact closed.unanswered (closed.probes.eq_of_pingSucceeds succeeds ▸ succeeds)

end Traces

section Loops

variable {calm : Prop} {task : Nat} {state : ConnectionState} {hosts : List String}

/-- The unknown hosts are welcomed one by one, until a ping raises. -/
theorem ensures_welcomeAll
    {goal : List ConnectionHappening → Except Fault Unit → ConnectionState → Prop}
    (keyed : state.Keyed)
    (nodup : hosts.Nodup)
    (unknown : ∀ host ∈ hosts, host ∉ state.pool.keys)
    (welcomed : ∀ trace later, Welcomed calm state hosts later →
      ProbesFrom trace state.count → (∀ n, ¬Raises trace n) →
      (calm → ∀ n, state.count ≤ n → n < later.count →
        ((later.node n).alive = true ↔ PingSucceeds trace n)) →
      goal trace (.ok ()) later)
    (interrupted : ∀ trace fault later done host, (done ++ [host]) <+: hosts →
      Welcomed calm state (done ++ [host]) later → ProbesFrom trace state.count →
      (∀ n, Raises trace n ↔ n = state.count + done.length) →
      goal trace (.error fault) later) :
    connectionLoop.Ensures (refreshSurroundings calm) task (welcomeAll hosts) goal state := by
  induction hosts generalizing state goal with
  | nil =>
      apply welcomed [] state (.nil calm keyed) everyAnswer_nil (fun _ => not_someAnswer_nil)
      intro _ n fresh built
      omega
  | cons host rest inductionHypothesis =>
      obtain ⟨absent, nodupRest⟩ := List.nodup_cons.mp nodup
      simp only [welcomeAll, ensures_bind, ensures_gets, ensures_emit, ensures_andThen_ok]
      apply ensures_ping
      intro trace outcome later pinged untouched
      have one : Welcomed calm state [host] later :=
        .one keyed (unknown host List.mem_cons_self) untouched
      have count : later.count = state.count + 1 := one.count
      have probesHere : Probes trace state.count := pinged.probes
      have probesFirst : ProbesFrom trace state.count := probesHere.probesFrom (Nat.le_refl _)
      cases outcome with
      | ok alive =>
          have quiet : ∀ n, ¬Raises trace n := by
            simp [pinged.probes.raises_iff pinged.raises]
          have unknownRest : ∀ other ∈ rest, other ∉ later.pool.keys := by
            intro other pending
            rw [one.keys, List.mem_append, List.mem_singleton, not_or]
            exact ⟨unknown other (List.mem_cons_of_mem _ pending),
              fun same => absent (same ▸ pending)⟩
          simp only [ensures_andThen_ok]
          apply inductionHypothesis one.keyed nodupRest unknownRest
          · intro more last welcomedLast probes quietMore alives
            apply welcomed _ _ (one.append welcomedLast nodup)
            · simpa using ⟨probesFirst, probes.mono (by omega)⟩
            · simpa [quiet] using quietMore
            · intro calmly n fresh built
              by_cases first : n = state.count
              · -- the later pings leave the first new node alone
                subst first
                have alone : ¬PingSucceeds more state.count := by
                  intro succeeds
                  have later := probes.le_of_pingSucceeds succeeds
                  omega
                rw [(welcomedLast.uses calmly _ (by omega)).alive,
                  pinged.alive calmly alive rfl]
                simpa [alone] using pinged.succeeds
              · have alone : ¬PingSucceeds trace n := by
                  intro succeeds
                  exact first (probesHere.eq_of_pingSucceeds succeeds)
                simpa [alone] using alives calmly n (by omega) built
          · intro more fault last done other lead welcomedLast probes raises
            have leadAll : host :: (done ++ [other]) <+: host :: rest :=
              List.cons_prefix_cons.mpr ⟨rfl, lead⟩
            apply interrupted _ fault last (host :: done) other leadAll
            · exact one.append welcomedLast (nodup.sublist (lead.sublist.cons_cons host))
            · simpa using ⟨probesFirst, probes.mono (by omega)⟩
            · intro n
              simp only [List.cons_append, List.nil_append, someAnswer_cons_did,
                someAnswer_append, quiet, false_or, raises, List.length_cons]
              omega
      | error fault =>
          apply interrupted _ fault later [] host (by simp) one
          · simpa using probesFirst
          · intro n
            simpa using pinged.probes.raises_iff pinged.raises n

/-- The tracked hosts are reconciled one by one, until a close raises. -/
theorem ensures_reconcile
    {members : List String}
    {goal : List ConnectionHappening → Except Fault Unit → ConnectionState → Prop}
    (keyed : state.Keyed)
    (nodup : hosts.Nodup)
    (tracked : ∀ host ∈ hosts, host ∈ state.pool.keys)
    (reconciled : ∀ trace later, Aligned calm members state hosts later → Closes trace →
      (∀ n, ¬Raises trace n) → goal trace (.ok ()) later)
    (interrupted : ∀ trace fault later done host n, (done ++ [host]) <+: hosts →
      target members state.seedHosts host = none → state.pool.get? host = some n →
      later.flags = settle (target members state.seedHosts) done state.flags →
      later.lastDiscovery = state.lastDiscovery → Closes trace →
      (∀ m, Raises trace m ↔ m = n) → goal trace (.error fault) later) :
    connectionLoop.Ensures (refreshSurroundings calm) task (reconcile members hosts) goal
      state := by
  induction hosts generalizing state goal with
  | nil =>
      exact reconciled [] state (.nil calm members keyed) everyAnswer_nil
        fun _ => not_someAnswer_nil
  | cons host rest inductionHypothesis =>
      obtain ⟨absent, nodupRest⟩ := List.nodup_cons.mp nodup
      obtain ⟨n, found⟩ := (Dict.mem_keys_iff _ _).mp (tracked host List.mem_cons_self)
      -- what follows the first host, from where it is settled
      have continues : ∀ (before : List ConnectionHappening) middle,
          Aligned calm members state [host] middle → Closes before →
          (∀ m, ¬Raises before m) →
          connectionLoop.Ensures (refreshSurroundings calm) task (reconcile members rest)
            (fun trace => goal (before ++ trace)) middle := by
        intro before middle one closes quiet
        have trackedRest : ∀ other ∈ rest, other ∈ middle.pool.keys := by
          intro other pending
          have apart : other ∉ [host] := fun same => absent (List.mem_singleton.mp same ▸ pending)
          rw [← not_not (a := other ∈ middle.pool.keys), ← flags_eq_none_iff, one.flags,
            settle_of_not_mem apart, flags_eq_none_iff, not_not]
          exact tracked other (List.mem_cons_of_mem _ pending)
        apply inductionHypothesis one.keyed nodupRest trackedRest
        · intro trace later aligned closesLater quietLater
          apply reconciled _ later (one.append aligned keyed nodup)
          · simpa using ⟨closes, closesLater⟩
          · simpa [quiet] using quietLater
        · intro trace fault later done other m lead departs otherFound flags discovery
            closesLater raises
          have leadAll : host :: (done ++ [other]) <+: host :: rest :=
            List.cons_prefix_cons.mpr ⟨rfl, lead⟩
          rw [one.seedHosts] at departs
          apply interrupted _ fault later (host :: done) other m leadAll departs
            (one.placed other m otherFound)
          · rw [flags, one.flags, one.seedHosts, ← settle_append, List.singleton_append]
          · exact discovery.trans one.lastDiscovery
          · simpa using ⟨closes, closesLater⟩
          · simpa [quiet] using raises
      have confirmed : ∀ member, target members state.seedHosts host = some member →
          connectionLoop.Ensures (refreshSurroundings calm) task (reconcile members rest)
            (fun trace => goal ([.did (.confirm host member)] ++ trace))
            (state.apply (.confirm host member)) := by
        intro member stays
        exact continues [.did (.confirm host member)] _ (.confirm calm keyed found stays)
          (by simp) (by simp)
      simp only [reconcile, ensures_bind, ensures_gets, ensures_andThen_ok, found]
      split
      · next reported =>
          simp only [ensures_bind, ensures_emit, ensures_andThen_ok]
          exact confirmed true (target_eq_some_iff.mpr ⟨.inl reported, by simp [reported]⟩)
      · next foreign =>
          simp only [ensures_bind, ensures_gets, ensures_andThen_ok]
          split
          · next declared =>
              simp only [ensures_bind, ensures_emit, ensures_andThen_ok]
              exact confirmed false (target_eq_some_iff.mpr ⟨.inr declared, by simp [foreign]⟩)
          · next undeclared =>
              have departs : target members state.seedHosts host = none :=
                target_eq_none_iff.mpr ⟨foreign, undeclared⟩
              simp only [ensures_bind]
              apply ensures_closeNode (by simp)
              intro trace outcome later closed untouched
              cases outcome with
              | ok done =>
                  have quiet : ∀ m, ¬Raises trace m := by
                    simp [closed.probes.raises_iff closed.raises]
                  have one := Aligned.depart keyed found departs untouched
                    fun calmly => closed.closed calmly rfl
                  have rest := continues (trace ++ [.did (.remove host)])
                    (connectionLoop.apply (.remove host) later) one
                    (by simpa using closed.closes) (by simpa using quiet)
                  simp only [ensures_andThen_ok, ensures_bind, ensures_emit]
                  simpa only [List.append_assoc, List.nil_append] using rest
              | error fault =>
                  rw [ensures_andThen_error, List.append_nil]
                  apply interrupted trace fault later [] host n (by simp) departs found
                  · rw [untouched.membership.flags_eq, settle_nil]
                  · exact untouched.membership.lastDiscovery
                  · exact closed.closes
                  · intro m
                    simpa using closed.probes.raises_iff closed.raises m

end Loops

end Promch
