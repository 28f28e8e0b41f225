import Promch.Clickhouse.FacadeConduct

/-!
# The membership of the pool

What holds of the pool of a connection at every suspension point, whatever the
refreshes find, however they end, and whatever runs next to them: the declared
seeds are tracked, every host has one node, which stays the same until the host
leaves the pool, and between refreshes the confirmed members are those that the
last completed refresh reported.
-/

namespace Promch

open EventLoop

/-- What holds of the pool of a connection with the given declared seeds. -/
structure ConnectionState.PoolInvariant
    (seedHosts : List String)
    (state : ConnectionState) : Prop where
  /-- Every declared seed is in the pool. -/
  seeds : ∀ host ∈ seedHosts, host ∈ state.pool.keys
  /-- Every pool key is the host of its node. -/
  keyed : ∀ host n, state.pool.get? host = some n → (state.node n).host = host
  /-- No host has two nodes. -/
  single : ∀ n ∈ state.tracked, ∀ m ∈ state.tracked,
    (state.node n).host = (state.node m).host → n = m
  /-- Every node that is not a declared seed is a confirmed member. -/
  members : ∀ host n, state.pool.get? host = some n → host ∉ seedHosts →
    (state.node n).inCluster = true
  /-- Between refreshes the confirmed members are exactly those that the last
  completed refresh reported, unless one was stopped midway after it. -/
  reported : state.lastDiscovery.isSome → state.reconciling = false →
    ∀ host, state.IsMember host ↔ host ∈ state.membership

namespace ConnectionState

variable {state : ConnectionState}

namespace PoolInvariant

variable {seedHosts : List String}

/-- The members that a system query reports as down are the dead ones of the
reported membership. -/
theorem mem_downMembers_iff
    (invariant : state.PoolInvariant seedHosts)
    (known : state.lastDiscovery.isSome)
    (settled : state.reconciling = false)
    (host : String) :
    host ∈ state.downMembers ↔
      host ∈ state.membership ∧
        ∃ n, state.pool.get? host = some n ∧ (state.node n).alive = false := by
  have discovered : state.lastDiscovery.isNone = false := by simpa using known
  simp only [downMembers, discovered, Bool.or_false, List.mem_map, List.mem_filter,
    Bool.and_eq_true, Bool.not_eq_true', mem_tracked_iff]
  rw [← invariant.reported known settled host]
  constructor
  · rintro ⟨_, ⟨⟨n, ⟨other, found⟩, rfl⟩, dead, member⟩, rfl⟩
    rw [invariant.keyed other n found]
    exact ⟨⟨n, found, member⟩, n, found, dead⟩
  · rintro ⟨⟨n, found, member⟩, m, foundToo, dead⟩
    cases found.symm.trans foundToo
    exact ⟨state.node n, ⟨⟨n, ⟨host, found⟩, rfl⟩, dead, member⟩,
      invariant.keyed host n found⟩

/-- The hosts reported when no node can be queried are the reported membership,
unless that is empty. -/
theorem mem_memberHosts_iff
    (invariant : state.PoolInvariant seedHosts)
    (known : state.lastDiscovery.isSome)
    (settled : state.reconciling = false)
    (nonempty : state.membership ≠ [])
    (host : String) :
    host ∈ state.memberHosts ↔ host ∈ state.membership := by
  have confirmed : ∀ other,
      other ∈ ((state.tracked.map state.node).filter Node.inCluster).map Node.host ↔
        other ∈ state.membership := by
    intro other
    rw [← invariant.reported known settled other]
    simp only [List.mem_map, List.mem_filter, mem_tracked_iff]
    constructor
    · rintro ⟨_, ⟨⟨n, ⟨key, found⟩, rfl⟩, member⟩, rfl⟩
      rw [invariant.keyed key n found]
      exact ⟨n, found, member⟩
    · rintro ⟨n, found, member⟩
      exact ⟨state.node n, ⟨⟨n, ⟨other, found⟩, rfl⟩, member⟩, invariant.keyed other n found⟩
  obtain ⟨some, reported⟩ := List.exists_mem_of_ne_nil _ nonempty
  have someConfirmed := (confirmed some).mpr reported
  rw [memberHosts, if_neg (List.ne_nil_of_mem someConfirmed)]
  exact (List.mem_insertionSort _).trans (confirmed host)

end PoolInvariant

/-- A node object that left the pool never returns to it. -/
structure Tenancy (state : ConnectionState) : Prop where
  current : ∀ n ∈ state.tracked, n ∉ state.departed
  former : ∀ n ∈ state.departed, n < state.count

theorem Tenancy.apply
    {task : Nat}
    {effect : ConnectionEffect}
    (tenancy : state.Tenancy)
    (wellformed : state.Wellformed)
    (permitted : state.Permits task effect) :
    (state.apply effect).Tenancy := by
  cases effect with
  | welcome host =>
      refine ⟨fun n tracked left => ?_, fun n left => Nat.lt_succ_of_lt (tenancy.former n left)⟩
      obtain ⟨other, found⟩ := mem_tracked_iff.mp tracked
      change (state.pool.set host state.count).get? other = some n at found
      rw [Dict.get?_set] at found
      split at found
      · cases found
        exact absurd (tenancy.former _ left) (Nat.lt_irrefl _)
      · exact tenancy.current n (mem_tracked_iff.mpr ⟨other, found⟩) left
  | confirm host member =>
      have tracked : (state.apply (.confirm host member)).tracked = state.tracked :=
        congrArg Dict.values (pool_confirm host member)
      have departed : (state.apply (.confirm host member)).departed = state.departed :=
        departed_confirm host member
      have count : (state.apply (.confirm host member)).count = state.count :=
        count_confirm host member
      constructor
      · rw [tracked, departed]
        exact tenancy.current
      · rw [departed, count]
        exact tenancy.former
  | remove host =>
      constructor
      · intro n tracked left
        obtain ⟨other, found⟩ := mem_tracked_iff.mp tracked
        change (state.pool.erase host).get? other = some n at found
        rw [Dict.get?_erase] at found
        split at found
        · cases found
        · next apart =>
            obtain removed | older := List.mem_append.mp left
            · have hostEq := (wellformed.keyed host n (Option.mem_toList.mp removed)).2
              exact apart ((wellformed.keyed other n found).2.symm.trans hostEq)
            · exact tenancy.current n (mem_tracked_iff.mpr ⟨other, found⟩) older
      · intro n left
        obtain removed | older := List.mem_append.mp left
        · exact (wellformed.keyed host n (Option.mem_toList.mp removed)).1
        · exact tenancy.former n older
  | _ => exact ⟨tenancy.current, tenancy.former⟩

/-- No effect changes the declared seeds. -/
@[simp] theorem seedHosts_apply (effect : ConnectionEffect) :
    (state.apply effect).seedHosts = state.seedHosts := by
  cases effect with
  | confirm host member => exact seedHosts_confirm host member
  | _ => rfl

/-- No effect changes the specification. -/
@[simp] theorem spec_apply (effect : ConnectionEffect) :
    (state.apply effect).spec = state.spec := by
  cases effect with
  | confirm host member =>
      simp only [apply, confirm]
      split <;> rfl
  | _ => rfl

theorem spec_create (spec : PoolSpec) (clock : Nat → ClockReading) (picks : Nat → Nat) :
    (create spec clock picks).spec = spec := by
  have seeded : (spec.seedHosts.foldl trackSeed
      { spec := spec
        objects := fun ident => NodeObject.create "" ident (clock 0)
        count := 0
        pool := Dict.empty
        seedHosts := []
        clock := clock
        picks := picks }).spec = spec := by
    refine List.foldlRecOn spec.seedHosts trackSeed
      (motive := fun state => state.spec = spec) ?_ ?_
    · rfl
    · intro state same host _
      unfold trackSeed
      split <;> exact same
  exact seeded

end ConnectionState

/-- Nothing is needed of the environment for the pool to be as it should. -/
def tenancyPolicy : Policy where
  inv := ConnectionState.Tenancy
  keeps wellformed tenancy permitted _ := tenancy.apply wellformed permitted

/-- Calls that are made directly on a node address a node that exists. -/
def addressesNodes (system : ConnectionSystem) : ConnectionAction → Bool
  | .start call => system.state.Exists call
  | _ => true

/-- A policy without precautions needs nothing else of the environment. -/
theorem Policy.permits_of_carefree
    {policy : Policy}
    {system : ConnectionSystem}
    {action : ConnectionAction}
    (carefree : policy.toPrecautions = {})
    (met : addressesNodes system action = true) :
    policy.contract.Permits system action := by
  obtain ⟨precautions, inv, keeps⟩ := policy
  obtain rfl := carefree
  apply Policy.permits_of_precautions
  · exact fun _ => trivial
  · rintro call rfl
    exact of_decide_eq_true met
  · exact fun _ _ _ => trivial
  · exact fun _ _ _ _ _ _ => trivial
  · exact fun _ _ _ _ _ => trivial
  · exact fun _ _ _ _ _ _ _ _ => trivial
  · exact fun _ _ _ _ _ _ => trivial

section Runs

variable {spec : PoolSpec} {clock : Nat → ClockReading} {picks : Nat → Nat}
variable {system later : ConnectionSystem}

theorem tenancy_sound
    (reaches : connectionLoop.Reaches (fun before action => addressesNodes before action)
      (ConnectionSystem.fresh spec clock picks) system) :
    tenancyPolicy.contract.Sound system := by
  have initial : tenancyPolicy.inv (ConnectionState.create spec clock picks) := by
    have complete := ConnectionState.departed_create spec clock picks
    constructor <;> simp [complete]
  exact tenancyPolicy.sound_of_reaches initial
    (fun _ _ => Policy.permits_of_carefree rfl) reaches

/-- The pool of every run is well formed. -/
theorem wellformed_of_reaches
    (reaches : connectionLoop.Reaches (fun before action => addressesNodes before action)
      (ConnectionSystem.fresh spec clock picks) system) :
    system.state.Wellformed :=
  (tenancy_sound reaches).invariant.1

/-- The specification stays what it was at first. -/
theorem spec_of_reaches
    {condition : ConnectionSystem → ConnectionAction → Prop}
    (reaches : connectionLoop.Reaches condition
      (ConnectionSystem.fresh spec clock picks) system) :
    system.state.spec = spec := by
  apply reaches.keeps (fun state _ => state.spec = spec)
  · exact fun effect state _ same => (state.spec_apply effect).trans same
  · exact fun _ _ _ same => same
  · exact ConnectionState.spec_create spec clock picks

/-- As long as a task holds the discovery lock the other tasks leave the pool and
its membership alone. -/
theorem samePool_of_held
    {task : Nat}
    (reaches : connectionLoop.Reaches (fun before action => addressesNodes before action)
      (ConnectionSystem.fresh spec clock picks) system)
    (held : system.state.discoveryLock.holder = some task)
    (continues : connectionLoop.Reaches
      (fun before action => addressesNodes before action ∧ action.task? ≠ some task)
      system later) :
    later.state.discoveryLock.holder = some task ∧
      ConnectionState.SamePool system.state later.state := by
  have stable : tenancyPolicy.contract.Stable task fun state =>
      state.discoveryLock.holder = some task ∧
        ConnectionState.SamePool system.state state := by
    rintro other effect state different invariant permitted ⟨held, same⟩
    exact ⟨ConnectionState.discoveryHolder_apply permitted.1 different held,
      same.trans (state.samePool_apply
        (ConnectionState.leavesPool_of_held permitted.1 different held))⟩
  exact (tenancy_sound reaches).stable_reaches tenancyPolicy.safeBodies stable
    (fun _ _ met => Policy.permits_of_carefree rfl met.1) (fun _ _ met => met.2) continues
    ⟨held, .refl _⟩

/-- The declared seeds stay what they were at first. -/
theorem mem_seedHosts_of_reaches
    {condition : ConnectionSystem → ConnectionAction → Prop}
    (reaches : connectionLoop.Reaches condition
      (ConnectionSystem.fresh spec clock picks) system)
    (host : String) :
    host ∈ system.state.seedHosts ↔ host ∈ spec.seedHosts := by
  have kept : system.state.seedHosts =
      (ConnectionState.create spec clock picks).seedHosts := by
    apply reaches.keeps
      (fun state _ => state.seedHosts = (ConnectionState.create spec clock picks).seedHosts)
    · exact fun effect state _ same => (state.seedHosts_apply effect).trans same
    · exact fun _ _ _ same => same
    · rfl
  rw [kept]
  exact ConnectionState.mem_seedHosts_create spec clock picks host

/-- A node object keeps its host. -/
theorem host_of_reaches
    {condition : ConnectionSystem → ConnectionAction → Prop}
    {n : Nat}
    (reaches : connectionLoop.Reaches condition system later)
    (built : n < system.state.count) :
    n < later.state.count ∧ (later.state.node n).host = (system.state.node n).host := by
  apply reaches.keeps
    (fun state _ => n < state.count ∧ (state.node n).host = (system.state.node n).host)
  · intro effect state _ kept
    exact ⟨Nat.lt_of_lt_of_le kept.1 ConnectionState.count_le_apply,
      (ConnectionState.host_apply kept.1).trans kept.2⟩
  · exact fun _ _ _ kept => kept
  · exact ⟨built, rfl⟩

/-- The pool invariant holds at every suspension point of every run. -/
theorem poolInvariant_of_reaches
    (reaches : connectionLoop.Reaches (fun before action => addressesNodes before action)
      (ConnectionSystem.fresh spec clock picks) system) :
    system.state.PoolInvariant spec.seedHosts := by
  have wellformed := wellformed_of_reaches reaches
  have declared := mem_seedHosts_of_reaches reaches
  refine ⟨fun host seed => wellformed.seeds host ((declared host).mpr seed),
    fun host n found => (wellformed.keyed host n found).2, ?_,
    fun host n found foreign => wellformed.members host n found (mt (declared host).mp foreign),
    wellformed.reported⟩
  intro n tracked m trackedToo same
  obtain ⟨host, found⟩ := ConnectionState.mem_tracked_iff.mp tracked
  obtain ⟨other, foundToo⟩ := ConnectionState.mem_tracked_iff.mp trackedToo
  rw [(wellformed.keyed host n found).2, (wellformed.keyed other m foundToo).2] at same
  subst same
  exact Option.some.inj (found.symm.trans foundToo)

/-- A host keeps its node object until that object leaves the pool for good. -/
theorem tenant_of_reaches
    {host : String}
    {n : Nat}
    (reaches : connectionLoop.Reaches (fun before action => addressesNodes before action)
      (ConnectionSystem.fresh spec clock picks) system)
    (continues : connectionLoop.Reaches (fun before action => addressesNodes before action)
      system later)
    (found : system.state.pool.get? host = some n) :
    later.state.pool.get? host = some n ∨
      n ∉ system.state.departed ∧ n ∈ later.state.departed := by
  obtain ⟨wellformed, tenancy⟩ := (tenancy_sound reaches).invariant
  obtain ⟨built, hostEq⟩ := wellformed.keyed host n found
  obtain ⟨builtLater, hostLater⟩ := host_of_reaches continues built
  have wellformedLater := (tenancy_sound (reaches.trans continues)).invariant.1
  have kept := wellformedLater.tenants n builtLater
  rw [hostLater, hostEq] at kept
  exact kept.imp_right fun left =>
    ⟨tenancy.current n (ConnectionState.mem_tracked_iff.mpr ⟨host, found⟩), left⟩

end Runs

end Promch
