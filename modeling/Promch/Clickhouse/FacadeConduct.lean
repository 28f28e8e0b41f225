import Promch.Clickhouse.PoolConduct

/-!
# The conduct of refreshes and of the facade

A refresh that completes has made the confirmed members exactly those reported.
With this every call of a connection keeps to the contract of every policy, and
the invariant of a policy holds in every run that takes its precautions.
-/

namespace Promch

open EventLoop EventLoop.Coroutine

namespace ConnectionState

variable {state : ConnectionState} {host : String} {members rest : List String}

/-- Every reported member is tracked or still to be welcomed, and those to be
welcomed are not tracked yet. -/
def Welcoming (members rest : List String) (state : ConnectionState) : Prop :=
  (∀ host ∈ members, host ∈ state.pool.keys ∨ host ∈ rest) ∧
    ∀ host ∈ rest, host ∉ state.pool.keys

/-- Every reported member is tracked, and apart from the hosts still to be
reconciled the confirmed members are those reported. -/
def Reconciling (members rest : List String) (state : ConnectionState) : Prop :=
  (∀ host ∈ members, host ∈ state.pool.keys) ∧
    ∀ host ∉ rest, state.IsMember host ↔ host ∈ members

theorem Welcoming.samePool
    {next : ConnectionState}
    (same : SamePool state next)
    (welcoming : Welcoming members rest state) :
    Welcoming members rest next := by
  unfold Welcoming
  rw [same.pool]
  exact welcoming

theorem Reconciling.samePool
    {next : ConnectionState}
    (same : SamePool state next)
    (reconciling : Reconciling members rest state) :
    Reconciling members rest next := by
  simp only [Reconciling, same.pool, same.isMember_iff]
  exact reconciling

theorem Welcoming.welcome
    (welcoming : Welcoming members (host :: rest) state)
    (nodup : (host :: rest).Nodup) :
    Welcoming members rest (state.apply (.welcome host)) := by
  constructor
  · intro member reported
    change member ∈ (state.pool.set host state.count).keys ∨ member ∈ rest
    rw [Dict.mem_keys_set]
    obtain tracked | pending := welcoming.1 member reported
    · exact .inl (.inr tracked)
    · exact (List.mem_cons.mp pending).imp .inl id
  · intro other pending
    change other ∉ (state.pool.set host state.count).keys
    rw [Dict.mem_keys_set, not_or]
    constructor
    · rintro rfl
      exact (List.nodup_cons.mp nodup).1 pending
    · exact welcoming.2 other (List.mem_cons_of_mem _ pending)

/-- A tracked host is a member exactly if it has just been confirmed as one, and
the other hosts are what they were. -/
theorem isMember_confirm
    (wellformed : state.Wellformed)
    (tracked : state.pool.get? host = some n)
    (member : Bool)
    (other : String) :
    (state.apply (.confirm host member)).IsMember other ↔
      if other = host then member = true else state.IsMember other := by
  change (∃ m, (state.confirm host member).pool.get? other = some m ∧
    ((state.confirm host member).node m).inCluster = true) ↔ _
  simp only [pool_confirm, inCluster_confirm]
  by_cases same : other = host
  · subst same
    simp [tracked]
  · rw [if_neg same]
    unfold IsMember
    apply exists_congr
    intro m
    apply and_congr_right
    intro found
    have apart : state.pool.get? host ≠ some m := by
      intro shared
      exact same ((wellformed.keyed other m found).2.symm.trans
        (wellformed.keyed host m shared).2)
    rw [if_neg apart]

theorem isMember_remove (host other : String) :
    (state.apply (.remove host)).IsMember other ↔ other ≠ host ∧ state.IsMember other := by
  change (∃ m, (state.pool.erase host).get? other = some m ∧
    (state.node m).inCluster = true) ↔ _
  simp only [Dict.get?_erase]
  by_cases same : other = host <;> simp [same, IsMember]

theorem Reconciling.confirm
    (reconciling : Reconciling members (host :: rest) state)
    (wellformed : state.Wellformed)
    (tracked : state.pool.get? host = some n)
    (member : Bool)
    (reported : member = true ↔ host ∈ members) :
    Reconciling members rest (state.apply (.confirm host member)) := by
  constructor
  · change ∀ other ∈ members, other ∈ (state.confirm host member).pool.keys
    rw [pool_confirm]
    exact reconciling.1
  · intro other settled
    rw [isMember_confirm wellformed tracked]
    by_cases same : other = host
    · rw [if_pos same, same]
      exact reported
    · rw [if_neg same]
      exact reconciling.2 other (by simp [same, settled])

theorem Reconciling.remove
    (reconciling : Reconciling members (host :: rest) state)
    (foreign : host ∉ members) :
    Reconciling members rest (state.apply (.remove host)) := by
  constructor
  · intro other reported
    obtain ⟨n, found⟩ := (Dict.mem_keys_iff _ _).mp (reconciling.1 other reported)
    change other ∈ (state.pool.erase host).keys
    rw [Dict.mem_keys_iff]
    refine ⟨n, ?_⟩
    have apart : other ≠ host := fun same => foreign (same ▸ reported)
    rw [Dict.get?_erase, if_neg apart]
    exact found
  · intro other settled
    rw [isMember_remove]
    by_cases same : other = host
    · simp [same, foreign]
    · simp only [ne_eq, same, not_false_eq_true, true_and]
      exact reconciling.2 other (by simp [same, settled])

/-- A tracked host that is neither reported nor a declared seed. -/
def Departing
    (members rest : List String)
    (host : String)
    (n : Nat)
    (state : ConnectionState) : Prop :=
  Reconciling members (host :: rest) state ∧ state.pool.get? host = some n ∧
    host ∉ state.seedHosts

theorem Departing.samePool
    {next : ConnectionState}
    (same : SamePool state next)
    (departing : Departing members rest host n state) :
    Departing members rest host n next := by
  obtain ⟨reconciling, tracked, foreign⟩ := departing
  refine ⟨reconciling.samePool same, ?_, ?_⟩
  · rwa [same.pool]
  · rwa [same.seedHosts]

/-- Once all unknown members have been welcomed the tracked hosts are those to
be reconciled. -/
theorem Welcoming.reconciling (welcomed : Welcoming members [] state) :
    Reconciling members state.pool.keys state := by
  have tracked : ∀ host ∈ members, host ∈ state.pool.keys :=
    fun host reported => (welcomed.1 host reported).resolve_right List.not_mem_nil
  refine ⟨tracked, fun host absent => ⟨?_, ?_⟩⟩
  · rintro ⟨n, found, _⟩
    exact absurd ((Dict.mem_keys_iff _ _).mpr ⟨n, found⟩) absent
  · exact fun reported => absurd (tracked host reported) absent

/-- The order in which the unknown members are welcomed does not matter. -/
theorem Welcoming.perm
    {arranged : List String}
    (welcoming : Welcoming members rest state)
    (perm : arranged.Perm rest) :
    Welcoming members arranged state := by
  simp only [Welcoming, perm.mem_iff]
  exact welcoming

/-- The members that are not tracked yet. -/
theorem welcoming_unknown (members : List String) (state : ConnectionState) :
    Welcoming members (members.dedup.filter (· ∉ state.pool.keys)) state := by
  constructor
  · intro host reported
    by_cases tracked : host ∈ state.pool.keys
    · exact .inl tracked
    · right
      simp [reported, tracked]
  · intro host pending
    simpa using (List.mem_filter.mp pending).2

end ConnectionState

namespace Policy

variable {policy : Policy} {task n : Nat} {state : ConnectionState}

/-! ## Topology discovery -/

/-- A pick finds nothing, or a tracked node. -/
theorem safe_pickOneLive
    {exclude : List String}
    {goal : Except Fault (Option Nat) → ConnectionState → Prop}
    (nothing : goal (.ok none) state)
    (picked : ∀ n ∈ state.tracked, goal (.ok (some n)) (state.apply .pick)) :
    policy.contract.Safe task (pickOneLive exclude) goal state := by
  simp only [pickOneLive, Contract.safe_bind, Contract.safe_gets, Contract.safe_andThen_ok]
  split
  · exact nothing
  · next nonempty =>
      simp only [Contract.safe_bind, Contract.safe_gets, Contract.safe_emit,
        Contract.safe_andThen_ok]
      refine ⟨⟨trivial, trivial⟩, ?_⟩
      have positive : 0 < (state.candidates exclude).length := by
        rw [List.length_pos_iff]
        simpa using nonempty
      have inside := Nat.mod_lt (state.picks state.picked) positive
      rw [List.getElem?_eq_getElem inside]
      exact picked _ (List.mem_of_mem_filter (List.getElem_mem inside))

/-- Welcoming the unknown members tracks all of them. -/
private theorem safe_welcomeAll
    {members rest : List String}
    {goal : Except Fault Unit → ConnectionState → Prop}
    (invariant : policy.contract.inv state)
    (held : state.discoveryLock.holder = some task)
    (nodup : rest.Nodup)
    (welcoming : ConnectionState.Welcoming members rest state)
    (welcomed : ∀ later, policy.contract.inv later →
      later.discoveryLock.holder = some task →
      ConnectionState.Welcoming members [] later → goal (.ok ()) later)
    (failed : ∀ fault later, later.discoveryLock.holder = some task →
      goal (.error fault) later) :
    policy.contract.Safe task (welcomeAll rest) goal state := by
  induction rest generalizing state with
  | nil => exact welcomed state invariant held welcoming
  | cons host rest inductionHypothesis =>
      have fresh := welcoming.2 host List.mem_cons_self
      have permitted : policy.contract.may task (.welcome host) state :=
        ⟨⟨held, fresh⟩, trivial⟩
      simp only [welcomeAll, Contract.safe_bind, Contract.safe_gets, Contract.safe_emit,
        Contract.safe_andThen_ok]
      refine ⟨permitted, ?_⟩
      have invariantTracked := policy.contract.keeps invariant permitted
      apply safe_undisturbed (ConnectionState.Welcoming members rest)
        (fun _ _ same => ConnectionState.Welcoming.samePool same) (quiet_ping _)
        invariantTracked held (welcoming.welcome nodup)
      apply Contract.Safe.using_inv invariantTracked
      refine safe_ping invariantTracked (Nat.lt_succ_self _) ?_
      intro outcome later _ invariantLater heldLater welcomingLater
      cases outcome with
      | ok alive =>
          exact inductionHypothesis invariantLater heldLater (List.nodup_cons.mp nodup).2
            welcomingLater
      | error fault => exact failed fault later heldLater

/-- Closing the node of a departing host leaves it without a client. -/
private theorem safe_depart
    {members rest : List String}
    {host : String}
    {goal : Except Fault Unit → ConnectionState → Prop}
    (invariant : policy.contract.inv state)
    (held : state.discoveryLock.holder = some task)
    (departing : ConnectionState.Departing members rest host n state)
    (closed : ∀ later, policy.contract.inv later →
      later.discoveryLock.holder = some task →
      ConnectionState.Departing members rest host n later → later.client n = none →
      goal (.ok ()) later)
    (failed : ∀ fault later, later.discoveryLock.holder = some task →
      goal (.error fault) later) :
    policy.contract.Safe task (closeNode .depart n) goal state := by
  apply safe_undisturbed (ConnectionState.Departing members rest host n)
    (fun _ _ same => ConnectionState.Departing.samePool same) (quiet_closeNode n .depart)
    invariant held departing
  apply Contract.Safe.using_inv invariant
  apply safe_closeNode (by decide) (invariant.1.keyed host n departing.2.1).1 (by simp)
  · exact fun unconnected invariantLater heldLater departingLater =>
      closed state invariantLater heldLater departingLater unconnected
  · intro client later _ _ invariantLater heldLater departingLater
    apply closed _ invariantLater heldLater departingLater
    simp [connectionLoop, ConnectionState.client]
  · exact fun _ fault later _ _ _ heldLater _ => failed fault later heldLater

/-- Reconciling all tracked hosts leaves exactly the reported members. -/
private theorem safe_reconcile
    {members rest : List String}
    {goal : Except Fault Unit → ConnectionState → Prop}
    (invariant : policy.contract.inv state)
    (held : state.discoveryLock.holder = some task)
    (reconciling : ConnectionState.Reconciling members rest state)
    (reconciled : ∀ later, policy.contract.inv later →
      later.discoveryLock.holder = some task →
      ConnectionState.Reconciling members [] later → goal (.ok ()) later)
    (failed : ∀ fault later, later.discoveryLock.holder = some task →
      goal (.error fault) later) :
    policy.contract.Safe task (reconcile members rest) goal state := by
  induction rest generalizing state with
  | nil => exact reconciled state invariant held reconciling
  | cons host rest inductionHypothesis =>
      simp only [reconcile, Contract.safe_bind, Contract.safe_gets, Contract.safe_andThen_ok]
      cases tracked : state.pool.get? host with
      | none => exact failed _ state held
      | some n =>
          have confirmed : ∀ member, (member = true ↔ host ∈ members) →
              (member = false → host ∈ state.seedHosts) →
              policy.contract.may task (.confirm host member) state ∧
                policy.contract.Safe task (reconcile members rest) goal
                  (state.apply (.confirm host member)) := by
            intro member reported seed
            have permitted : policy.contract.may task (.confirm host member) state :=
              ⟨⟨held, seed⟩, trivial⟩
            refine ⟨permitted, ?_⟩
            apply inductionHypothesis (policy.contract.keeps invariant permitted)
            · change (state.confirm host member).discoveryLock.holder = some task
              rw [ConnectionState.discoveryLock_confirm]
              exact held
            · exact reconciling.confirm invariant.1 tracked member reported
          simp only
          split
          · next reported =>
              simp only [Contract.safe_bind, Contract.safe_emit, Contract.safe_andThen_ok]
              exact confirmed true (by simp [reported]) (by simp)
          · next foreign =>
              simp only [Contract.safe_bind, Contract.safe_gets, Contract.safe_andThen_ok]
              split
              · next seed =>
                  simp only [Contract.safe_bind, Contract.safe_emit, Contract.safe_andThen_ok]
                  exact confirmed false (by simp [foreign]) fun _ => seed
              · next seed =>
                  rw [Contract.safe_bind]
                  apply safe_depart invariant held ⟨reconciling, tracked, seed⟩
                  · rintro later invariantLater heldLater
                      ⟨reconcilingLater, trackedLater, foreignLater⟩ unconnected
                    have permitted : policy.contract.may task (.remove host) later := by
                      refine ⟨⟨heldLater, foreignLater, ?_⟩, trivial⟩
                      intro m found
                      cases trackedLater.symm.trans found
                      exact unconnected
                    simp only [Contract.safe_bind, Contract.safe_emit,
                      Contract.safe_andThen_ok]
                    exact ⟨permitted, inductionHypothesis
                      (policy.contract.keeps invariantLater permitted) heldLater
                      (reconcilingLater.remove foreign)⟩
                  · exact fun fault later heldLater => failed fault later heldLater

/-- Bringing the pool in line with the reported members. -/
private theorem safe_updateMembers
    {members : List String}
    {goal : Except Fault Unit → ConnectionState → Prop}
    (invariant : policy.contract.inv state)
    (held : state.discoveryLock.holder = some task)
    (finished : ∀ outcome later, later.discoveryLock.holder = some task →
      goal outcome later) :
    policy.contract.Safe task (updateMembers members) goal state := by
  have permitted : policy.contract.may task .pick state := ⟨trivial, trivial⟩
  have unknown := ConnectionState.welcoming_unknown members (state.apply .pick)
  have arranged := arrange_perm (state.picks state.picked)
    (members.dedup.filter (· ∉ state.pool.keys))
  simp only [updateMembers, Contract.safe_bind, Contract.safe_gets, Contract.safe_emit,
    Contract.safe_andThen_ok]
  refine ⟨permitted, ?_⟩
  apply safe_welcomeAll (policy.contract.keeps invariant permitted) (by exact held)
    (arranged.nodup_iff.mpr (members.nodup_dedup.filter _)) (unknown.perm arranged)
  · intro welcomed invariantWelcomed heldWelcomed welcoming
    simp only [Contract.safe_bind, Contract.safe_gets, Contract.safe_andThen_ok]
    apply safe_reconcile invariantWelcomed heldWelcomed welcoming.reconciling
    · intro later _ heldLater reconciled
      rw [Contract.safe_andThen_ok, Contract.safe_emit]
      exact ⟨⟨⟨heldLater, fun host => reconciled.2 host List.not_mem_nil⟩, trivial⟩,
        finished _ _ heldLater⟩
    · exact fun fault later heldLater => finished _ _ heldLater
  · exact fun fault later heldLater => finished _ _ heldLater

/-- A refresh keeps the discovery lock. -/
theorem safe_refreshTopology
    {goal : Except Fault Unit → ConnectionState → Prop}
    (invariant : policy.contract.inv state)
    (held : state.discoveryLock.holder = some task)
    (finished : ∀ outcome later, later.discoveryLock.holder = some task →
      goal outcome later) :
    policy.contract.Safe task refreshTopology goal state := by
  unfold refreshTopology
  rw [Contract.safe_bind]
  apply safe_pickOneLive
  · exact finished _ _ held
  · intro seed tracked
    have built := invariant.1.tracked_lt tracked
    have permitted : policy.contract.may task .pick state := ⟨trivial, trivial⟩
    have invariantPicked := policy.contract.keeps invariant permitted
    simp only [Contract.safe_andThen_ok, Contract.safe_bind, Contract.safe_attempt]
    apply safe_undisturbed (fun _ => True) (fun _ _ _ _ => trivial)
      (quiet_query seed discoverySql 10) invariantPicked held trivial
    apply Contract.Safe.using_inv invariantPicked
    refine safe_query invariantPicked built ?_
    intro outcome later _ invariantLater heldLater _
    split
    · exact finished _ _ heldLater
    · exact finished _ _ heldLater
    · exact finished _ _ heldLater
    · next rows =>
        simp only [Contract.safe_bind, Contract.safe_gets, Contract.safe_andThen_ok,
          Contract.safe_conclude]
        cases membersOf later.spec.clusterName rows with
        | ok members => exact safe_updateMembers invariantLater heldLater finished
        | error fault => exact finished _ _ heldLater

/-! ## The facade -/

/-- The discovery lock is used as it is meant to be used. -/
private theorem lockable_discoveryLock (policy : Policy) (closing : Bool) :
    Lockable policy.contract ConnectionState.discoveryLock .discoveryLock
      (.discoveryTurn closing) where
  permits _ _ _ _ _ permitted := ⟨permitted, trivial⟩
  asks_enqueue _ _ _ := by simp [contract, ConnectionState.Asks, ConnectionRequest.node?]
  isTurn _ _ _ granted := granted

/-- A cycle under the discovery lock; a cycle that starts with a liveness pass
may pass when it starts. -/
private theorem safe_discoveryCycle
    {pass : Async Unit}
    {goal : Except Fault ConnectionStatus → ConnectionState → Prop}
    (passesFirst : Prop)
    (invariant : policy.contract.inv state)
    (mayPass : passesFirst → policy.MayPass state)
    (passes : ∀ before (goal : Except Fault Unit → ConnectionState → Prop),
      policy.contract.inv before → before.discoveryLock.holder = some task →
      (passesFirst → policy.MayPass before) →
      (∀ outcome later, later.discoveryLock.holder = some task → goal outcome later) →
      policy.contract.Safe task pass goal before)
    (finished : ∀ outcome later, goal outcome later) :
    policy.contract.Safe task (discoveryCycle pass) goal state := by
  have cycle : ∀ before, policy.contract.inv before →
      before.discoveryLock.holder = some task →
      (passesFirst → policy.MayPass before) →
      policy.contract.Safe task (cycleOf pass)
        (fun outcome later => policy.contract.may task (.discoveryLock .release) later ∧
          goal outcome (connectionLoop.apply (.discoveryLock .release) later)) before := by
    intro before invariantBefore held mayPassBefore
    rw [cycleOf, Contract.safe_bind]
    apply passes before _ invariantBefore held mayPassBefore
    intro outcome later heldLater
    cases outcome with
    | ok value =>
        simp only [Contract.safe_andThen_ok, Contract.safe_bind, Contract.safe_emit,
          Contract.safe_gets]
        exact ⟨⟨trivial, trivial⟩, ⟨heldLater, trivial⟩, finished _ _⟩
    | error fault => exact ⟨⟨heldLater, trivial⟩, finished _ _⟩
  unfold discoveryCycle withDiscoveryLock
  apply safe_withLock (lockable_discoveryLock policy false)
  · simp [contract, ConnectionState.Asks, ConnectionRequest.node?]
  · intro free
    have permitted : policy.contract.may task (.discoveryLock (.take task)) state :=
      ⟨⟨rfl, free⟩, trivial⟩
    exact cycle _ (policy.contract.keeps invariant permitted) rfl
      fun first => (mayPass first).discoveryLock _
  · intro value before invariantBefore _ turnNow allowed
    have permitted : policy.contract.may task (.discoveryLock (.wake task)) before :=
      ⟨⟨rfl, turnNow⟩, trivial⟩
    exact cycle _ (policy.contract.keeps invariantBefore permitted) rfl
      fun _ => Precautions.MayPass.discoveryLock allowed _
  · exact fun _ _ _ _ _ _ => finished _ _

/-- A liveness pass keeps the discovery lock. -/
private theorem safe_heldHealthTick
    {goal : Except Fault Unit → ConnectionState → Prop}
    (invariant : policy.contract.inv state)
    (held : state.discoveryLock.holder = some task)
    (mayPass : policy.MayPass state)
    (finished : ∀ outcome later, policy.contract.inv later →
      later.discoveryLock.holder = some task → goal outcome later) :
    policy.contract.Safe task healthTick goal state := by
  apply safe_undisturbed (fun _ => True) (fun _ _ _ _ => trivial) quiet_healthTick
    invariant held trivial
  apply Contract.Safe.using_inv invariant
  apply safe_healthTick invariant mayPass
  exact fun outcome later invariantLater heldLater _ =>
    finished outcome later invariantLater heldLater

private theorem safe_refresh
    {goal : Except Fault ConnectionStatus → ConnectionState → Prop}
    (invariant : policy.contract.inv state)
    (mayPass : policy.MayPass state)
    (finished : ∀ outcome later, goal outcome later) :
    policy.contract.Safe task refresh goal state := by
  apply safe_discoveryCycle True invariant (fun _ => mayPass) _ finished
  intro before goal invariantBefore held mayPassBefore finishes
  rw [Contract.safe_bind]
  apply safe_heldHealthTick invariantBefore held (mayPassBefore trivial)
  intro outcome later invariantLater heldLater
  cases outcome with
  | ok value => exact safe_refreshTopology invariantLater heldLater finishes
  | error fault => exact finishes _ _ heldLater

private theorem safe_recheck
    {goal : Except Fault ConnectionStatus → ConnectionState → Prop}
    (invariant : policy.contract.inv state)
    (mayPass : policy.MayPass state)
    (finished : ∀ outcome later, goal outcome later) :
    policy.contract.Safe task recheck goal state := by
  apply safe_discoveryCycle True invariant (fun _ => mayPass) _ finished
  intro before goal invariantBefore held mayPassBefore finishes
  exact safe_heldHealthTick invariantBefore held (mayPassBefore trivial)
    fun outcome later _ heldLater => finishes outcome later heldLater

private theorem safe_rediscover
    {goal : Except Fault ConnectionStatus → ConnectionState → Prop}
    (invariant : policy.contract.inv state)
    (finished : ∀ outcome later, goal outcome later) :
    policy.contract.Safe task rediscover goal state := by
  apply safe_discoveryCycle False invariant False.elim _ finished
  intro before goal invariantBefore held _ finishes
  exact safe_refreshTopology invariantBefore held finishes

/-! ## Closing -/

/-- The closing pass has at most the given nodes left to reach. -/
private def Sweeping (rest : List Nat) (state : ConnectionState) : Prop :=
  ∃ left, state.toSweep = some left ∧ left ⊆ rest

private theorem Sweeping.apply
    {rest : List Nat}
    (effect : ConnectionEffect)
    (sweeping : Sweeping rest state) :
    Sweeping rest (state.apply effect) := by
  obtain ⟨left, begun, within⟩ := sweeping
  cases effect with
  | beginSweep =>
      refine ⟨_, rfl, fun n member => within ?_⟩
      simp only [ConnectionState.unswept, begun, List.mem_filter, decide_eq_true_eq] at member
      exact member.2
  | swept n =>
      refine ⟨left.filter (· ≠ n), ?_, fun m member => within (List.mem_of_mem_filter member)⟩
      simp [ConnectionState.apply, begun]
  | endSweep => exact ⟨[], rfl, List.nil_subset _⟩
  | confirm host member =>
      refine ⟨left, ?_, within⟩
      simp only [ConnectionState.apply, ConnectionState.confirm]
      split <;> exact begun
  | _ => exact ⟨left, begun, within⟩

private theorem Sweeping.swept
    {rest : List Nat}
    (sweeping : Sweeping (n :: rest) state) :
    Sweeping rest (state.apply (.swept n)) := by
  obtain ⟨left, begun, within⟩ := sweeping
  refine ⟨left.filter (· ≠ n), by simp [ConnectionState.apply, begun], ?_⟩
  intro m member
  obtain ⟨inLeft, apart⟩ := List.mem_filter.mp member
  exact (List.mem_cons.mp (within inLeft)).resolve_left (by simpa using apart)

/-- The closing pass ends with no node left to reach, unless it is cut short. -/
private theorem safe_sweep
    {nodes : List Nat}
    {goal : Except Fault Unit → ConnectionState → Prop}
    (invariant : policy.contract.inv state)
    (held : state.discoveryLock.holder = some task)
    (built : ∀ n ∈ nodes, n < state.count)
    (sweeping : Sweeping nodes state)
    (swept : ∀ later, later.discoveryLock.holder = some task → later.toSweep = some [] →
      goal (.ok ()) later)
    (cut : ∀ fault later, (∀ n ∈ later.unswept, policy.mayLeave (later.objects n)) →
      later.discoveryLock.holder = some task → goal (.error fault) later) :
    policy.contract.Safe task (sweep nodes) goal state := by
  induction nodes generalizing state with
  | nil =>
      obtain ⟨left, begun, within⟩ := sweeping
      rw [List.subset_nil.mp within] at begun
      exact swept state held begun
  | cons n rest inductionHypothesis =>
      have continues : ∀ later, policy.contract.inv later → state.count ≤ later.count →
          later.discoveryLock.holder = some task → Sweeping (n :: rest) later →
          later.client n = none →
          policy.contract.may task (.swept n) later ∧
            policy.contract.Safe task (sweep rest) goal (later.apply (.swept n)) := by
        intro later invariantLater grown heldLater sweepingLater unconnected
        have permitted : policy.contract.may task (.swept n) later := ⟨unconnected, trivial⟩
        refine ⟨permitted, inductionHypothesis (policy.contract.keeps invariantLater permitted)
          heldLater ?_ sweepingLater.swept⟩
        exact fun m member =>
          Nat.lt_of_lt_of_le (built m (List.mem_cons_of_mem _ member)) grown
      rw [sweep, Contract.safe_bind]
      apply safe_undisturbed (fun _ => True) (fun _ _ _ _ => trivial)
        (quiet_closeNode n .sweep) invariant held trivial
      apply safe_counting invariant
      apply Contract.Safe.using (fun _ effect _ _ _ => Sweeping.apply effect) invariant sweeping
      apply safe_closeNode (by decide) (built n List.mem_cons_self) (by simp)
      · intro unconnected invariantLater sweepingLater _ grown heldLater _
        simp only [Contract.safe_andThen_ok, Contract.safe_bind, Contract.safe_emit]
        exact continues state invariantLater grown heldLater sweepingLater unconnected
      · intro client later _ _ invariantLater sweepingLater _ grown heldLater _
        simp only [Contract.safe_andThen_ok, Contract.safe_bind, Contract.safe_emit]
        apply continues _ invariantLater grown heldLater sweepingLater
        simp [connectionLoop, ConnectionState.client]
      · intro client fault later _ mayLeave _ _ _ _ heldLater _
        exact cut fault later mayLeave heldLater

/-- A connection that has been closed has no node left to sweep. -/
private theorem safe_closeConnection
    {goal : Except Fault Unit → ConnectionState → Prop}
    (invariant : policy.contract.inv state)
    (finished : ∀ outcome later, later.toSweep = some [] → goal outcome later) :
    policy.contract.Safe task closeConnection goal state := by
  have ended : ∀ (outcome : Except Fault Unit) later,
      (∀ n ∈ later.unswept, policy.mayLeave (later.objects n)) →
      policy.contract.may task .endSweep later ∧
        goal outcome (connectionLoop.apply .endSweep later) :=
    fun outcome later mayLeave => ⟨⟨trivial, mayLeave⟩, finished outcome _ rfl⟩
  have closes : ∀ before, policy.contract.inv before →
      before.discoveryLock.holder = some task →
      policy.contract.Safe task closeTracked
        (fun outcome later => policy.contract.may task (.discoveryLock .release) later ∧
          policy.contract.may task .endSweep
            (connectionLoop.apply (.discoveryLock .release) later) ∧
          goal outcome (connectionLoop.apply .endSweep
            (connectionLoop.apply (.discoveryLock .release) later))) before := by
    intro before invariantBefore held
    have permitted : policy.contract.may task .beginSweep before := ⟨trivial, trivial⟩
    have invariantBegun := policy.contract.keeps invariantBefore permitted
    simp only [closeTracked, Contract.safe_bind, Contract.safe_gets, Contract.safe_emit,
      Contract.safe_andThen_ok]
    refine ⟨permitted, ?_⟩
    apply safe_sweep invariantBegun held
    · exact fun n member => invariantBefore.1.tracked_lt member
    · refine ⟨before.unswept, rfl, ?_⟩
      unfold ConnectionState.unswept
      split
      · exact List.Subset.refl _
      · exact List.filter_subset_self _
    · intro later heldLater done
      have nobody : (connectionLoop.apply (.discoveryLock .release) later).unswept = [] := by
        simp [connectionLoop, ConnectionState.apply, ConnectionState.unswept, done]
      exact ⟨⟨heldLater, trivial⟩, ended _ _ fun n member => by simp [nobody] at member⟩
    · exact fun fault later mayLeave heldLater =>
        ⟨⟨heldLater, trivial⟩, ended _ _ (by exact mayLeave)⟩
  unfold closeConnection withDiscoveryLock
  simp only [Contract.safe_bind, Contract.safe_attempt, Contract.safe_andThen_ok,
    Contract.safe_emit, Contract.safe_conclude]
  apply safe_withLock (lockable_discoveryLock policy true)
  · simp [contract, ConnectionState.Asks, ConnectionRequest.node?]
  · intro free
    have permitted : policy.contract.may task (.discoveryLock (.take task)) state :=
      ⟨⟨rfl, free⟩, trivial⟩
    exact closes _ (policy.contract.keeps invariant permitted) rfl
  · intro value before invariantBefore _ turnNow _
    have permitted : policy.contract.may task (.discoveryLock (.wake task)) before :=
      ⟨⟨rfl, turnNow⟩, trivial⟩
    exact closes _ (policy.contract.keeps invariantBefore permitted) rfl
  · exact fun fault before _ _ _ mayLeave => ended _ _ (by exact mayLeave)

/-! ## Queries -/

private theorem safe_failOver
    {sql : String}
    {timeout : Time}
    {tried : List String}
    {attempts : Nat}
    {lastError : Option Fault}
    {goal : Except Fault (List Row) → ConnectionState → Prop}
    (fuel : Nat)
    (invariant : policy.contract.inv state)
    (finished : ∀ outcome later, goal outcome later) :
    policy.contract.Safe task (failOver sql timeout fuel tried attempts lastError) goal state := by
  induction fuel generalizing state tried attempts lastError with
  | zero =>
      rw [failOver, Contract.safe_bind]
      apply safe_ask
      · simp [ConnectionState.Asks, ConnectionRequest.node?]
      · intro later outcome _ _ _ _
        cases outcome <;> exact finished _ _
  | succ fuel inductionHypothesis =>
      rw [failOver, Contract.safe_bind]
      apply safe_pickOneLive
      · exact finished _ _
      · intro n tracked
        have permitted : policy.contract.may task .pick state := ⟨trivial, trivial⟩
        have invariantPicked := policy.contract.keeps invariant permitted
        simp only [Contract.safe_andThen_ok, Contract.safe_bind, Contract.safe_attempt]
        apply Contract.Safe.using_inv invariantPicked
        refine safe_query invariantPicked (invariant.1.tracked_lt tracked) ?_
        intro outcome later _ invariantLater
        split
        · exact finished _ _
        · simp only [hostOf, Contract.safe_bind, Contract.safe_gets, Contract.safe_andThen_ok]
          split
          · exact finished _ _
          · exact inductionHypothesis invariantLater
        · exact finished _ _

private theorem safe_runOnNode
    {sql : String}
    {timeout : Time}
    {goal : Except Fault (Option (List Row)) → ConnectionState → Prop}
    (invariant : policy.contract.inv state)
    (built : n < state.count)
    (finished : ∀ outcome later, goal outcome later) :
    policy.contract.Safe task (runOnNode n sql timeout) goal state := by
  rw [runOnNode, Contract.safe_bind, Contract.safe_attempt]
  apply safe_query invariant built
  intro outcome later _
  rw [Contract.safe_andThen_ok]
  split <;> exact finished _ _

private theorem safe_executeSystemQuery
    {sql nodeLabel : String}
    {timeout : Time}
    {goal : Except Fault SystemQueryResult → ConnectionState → Prop}
    (invariant : policy.contract.inv state)
    (finished : ∀ outcome later, goal outcome later) :
    policy.contract.Safe task (executeSystemQuery sql timeout nodeLabel) goal state := by
  have merged : ∀ (nodes : List Nat) outcome later,
      policy.contract.Safe task (andThen (mergeResults nodes nodeLabel) outcome) goal later := by
    intro nodes outcome later
    cases outcome with
    | error fault => exact finished _ _
    | ok results =>
        simp only [mergeResults, Contract.safe_andThen_ok, Contract.safe_bind,
          Contract.safe_gets]
        split <;> exact finished _ _
  simp only [executeSystemQuery, Contract.safe_bind, Contract.safe_gets,
    Contract.safe_andThen_ok]
  split
  · exact finished _ _
  · rw [Contract.safe_bind]
    apply safe_gather
    · intro call member
      obtain ⟨n, live, rfl⟩ := List.mem_map.mp member
      rintro _ ⟨rfl⟩
      exact invariant.1.tracked_lt (List.mem_of_mem_filter live)
    · exact fun _ => merged _ _ _
    · exact fun outcome later _ _ _ _ => merged _ outcome later

/-! ## All calls -/

/-- Every call of a connection keeps to the contract of every policy. -/
theorem safeBodies (policy : Policy) : policy.contract.SafeBodies := by
  intro task call state invariant found _ allowed
  have ended : ∀ {α : Type} (wrap : α → ConnectionValue) (program : Async α),
      (∀ goal : Except Fault α → ConnectionState → Prop,
        (∀ outcome later, goal outcome later) → policy.contract.Safe task program goal state) →
      call ≠ .close →
      policy.contract.Safe task (do return wrap (← program))
        (policy.contract.ends task call) state := by
    intro α wrap program safe other
    rw [Contract.safe_bind]
    apply safe
    intro outcome later
    cases outcome with
    | ok value => exact fun closing => absurd closing other
    | error fault => exact fun closing => absurd closing other
  cases call with
  | query n sql timeout =>
      exact ended .rows _ (fun goal finished =>
        safe_query invariant (found n rfl) fun outcome later _ => finished outcome later) (by simp)
  | ping n =>
      exact ended .pinged _ (fun goal finished =>
        safe_ping invariant (found n rfl) fun outcome later _ => finished outcome later) (by simp)
  | runOnNode n sql timeout =>
      exact ended .nodeRows _ (fun goal finished =>
        safe_runOnNode invariant (found n rfl) finished) (by simp)
  | closeNode n =>
      exact ended (fun _ => .nothing) _ (fun goal finished =>
        safe_closeNode (by decide) (found n rfl) (by simp) (fun _ => finished _ _)
          (fun _ _ _ _ => finished _ _) (fun _ _ _ _ _ => finished _ _)) (by simp)
  | recheckDead =>
      exact ended (fun _ => .nothing) _ (fun goal finished =>
        safe_recheckDead invariant (allowed rfl) finished) (by simp)
  | checkAll =>
      exact ended (fun _ => .nothing) _ (fun goal finished =>
        safe_checkAll invariant finished) (by simp)
  | healthTick =>
      exact ended (fun _ => .nothing) _ (fun goal finished =>
        safe_healthTick invariant (allowed rfl) finished) (by simp)
  | refresh =>
      exact ended .status _ (fun goal finished =>
        safe_refresh invariant (allowed rfl) finished) (by simp)
  | recheck =>
      exact ended .status _ (fun goal finished =>
        safe_recheck invariant (allowed rfl) finished) (by simp)
  | rediscover =>
      exact ended .status _ (fun goal finished =>
        safe_rediscover invariant finished) (by simp)
  | executeDataQuery sql timeout attempts =>
      exact ended .rows _ (fun goal finished =>
        safe_failOver attempts invariant finished) (by simp)
  | executeSystemQuery sql timeout nodeLabel =>
      exact ended .systemResult _ (fun goal finished =>
        safe_executeSystemQuery invariant finished) (by simp)
  | close =>
      change policy.contract.Safe task (do
        closeConnection
        return .nothing : Async ConnectionValue) _ state
      rw [Contract.safe_bind]
      apply safe_closeConnection invariant
      intro outcome later swept
      cases outcome with
      | ok value => exact fun _ => swept
      | error fault => exact fun _ => swept

/-- Every run of a fresh connection in which the environment takes the
precautions of a policy is sound for it. -/
theorem sound_of_reaches
    {condition : ConnectionSystem → ConnectionAction → Prop}
    {spec : PoolSpec}
    {clock : Nat → ClockReading}
    {picks : Nat → Nat}
    {system : ConnectionSystem}
    (policy : Policy)
    (initial : policy.inv (ConnectionState.create spec clock picks))
    (permits : ∀ before action, condition before action →
      policy.contract.Permits before action)
    (reaches : connectionLoop.Reaches condition
      (ConnectionSystem.fresh spec clock picks) system) :
    policy.contract.Sound system := by
  have sound : policy.contract.Sound (ConnectionSystem.fresh spec clock picks) :=
    Contract.sound_idle ⟨ConnectionState.wellformed_create spec clock picks, initial⟩
      fun _ named => named
  exact sound.reaches policy.safeBodies permits reaches

/-- A step is permitted when the environment takes every precaution where it
matters, for a policy that has no need of careful liveness passes. -/
theorem permits_of_precautions
    {system : ConnectionSystem}
    {action : ConnectionAction}
    (policy : Policy)
    (evicts : ∀ object, policy.mayEvict object)
    (starts : ∀ call, action = .start call → system.state.Exists call)
    (connects : ∀ task n, action = .answer task (.factory n) (.ok ()) →
      policy.mayConnect n system.state)
    (forgets : ∀ task closer n client, closer ≠ .drop →
      action = .answer task (.close closer n client) (.ok ()) →
        policy.mayForget client (system.state.objects n))
    (leaves : ∀ task fault,
      (∃ n client, action = .answer task (.close .sweep n client) (.error fault)) ∨
        action = .answer task (.discoveryTurn true) (.error fault) →
      ∀ n ∈ system.state.unswept, policy.mayLeave (system.state.objects n))
    (queryFails : ∀ task n client sql limit error, error.isConnectionLevel = true →
      action = .answer task (.query n client sql limit) (.error (.driver error)) →
        policy.mayDiscard client (system.state.client n) (system.state.objects n).made)
    (pingFails : ∀ task n client fault, fault.isUnreachable = true →
      action = .answer task (.ping n client) (.error fault) →
        policy.mayDiscard client (system.state.client n) (system.state.objects n).made) :
    policy.contract.Permits system action := by
  have careful : ∀ nodes reading, policy.Careful system.state nodes reading :=
    Precautions.careful_of_mayEvict evicts
  cases action with
  | start call => exact starts call rfl
  | begin task => exact fun _ _ _ => careful _ _
  | join task failed =>
      cases failed with
      | none => exact careful _ _
      | some child => trivial
  | answer task request outcome =>
      cases request with
      | close closer n client =>
          cases outcome with
          | ok answer => exact ⟨fun closes => forgets task closer n client closes rfl, fun _ => careful _ _⟩
          | error fault =>
              cases closer with
              | sweep => exact leaves task fault (.inl ⟨n, client, rfl⟩)
              | _ => trivial
      | discoveryTurn closing =>
          cases outcome with
          | ok answer => exact careful _ _
          | error fault =>
              cases closing with
              | true => exact leaves task fault (.inr rfl)
              | false => trivial
      | query n client sql limit =>
          cases outcome with
          | ok result => trivial
          | error fault =>
              cases fault with
              | driver error => exact fun level => queryFails _ _ _ _ _ _ level rfl
              | _ => trivial
      | ping n client =>
          cases outcome with
          | ok alive => trivial
          | error fault => exact fun unreachable => pingFails _ _ _ _ unreachable rfl
      | factory n =>
          cases outcome with
          | ok answer => exact connects task n rfl
          | error fault => trivial
      | clientTurn n | never => trivial

end Policy

end Promch
