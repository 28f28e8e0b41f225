import Promch.Clickhouse.PoolMembership
import Promch.Library.Attainment

/-!
# What the status of a connection tells

A discovery cycle runs next to queries, and to whatever else changes the health of
the nodes.  Still the status that it returns is coherent, and what it says of a node
is not older than the liveness pass of the cycle: the pass has checked the node, or
found it alive and relied on that, as the passive mode does.
-/

namespace Promch

open EventLoop EventLoop.Coroutine EventLoop.Attainment

/-! ## The health of one node -/

namespace Node

/-- A node that is alive has been checked and has no error; a node that is not alive
has an error exactly if it has been checked. -/
def IsKnown (node : Node) : Prop :=
  (node.alive = true → node.lastChecked.isSome ∧ node.lastError = none) ∧
    (node.alive = false → node.lastChecked.isSome = node.lastError.isSome)

theorem isKnown_create
    (host : String)
    (ident : Nat)
    (clock : ClockReading) :
    (Node.create host ident clock).IsKnown := by
  simp [IsKnown, Node.create]

theorem isKnown_markDown
    (node : Node)
    (error : String)
    (clock : ClockReading) :
    (node.markDown error clock).IsKnown := by
  simp [IsKnown]

theorem isKnown_markAlive
    (node : Node)
    (clock : ClockReading) :
    (node.markAlive clock).IsKnown := by
  simp [IsKnown]

end Node

namespace NodeObject

variable {object : NodeObject} {change : NodeEffect} {clock : ClockReading}

/-- What a change does to the health of a node: it marks the node down, or alive, or
does nothing. -/
theorem health_apply_cases (object : NodeObject) (clock : ClockReading) (change : NodeEffect) :
    (∃ error, change = .markDown error ∧
      (object.apply clock change).node = object.node.markDown error clock) ∨
    (change = .markAlive ∧ (object.apply clock change).node = object.node.markAlive clock) ∨
    ((object.apply clock change).node.alive = object.node.alive ∧
      (object.apply clock change).node.lastChecked = object.node.lastChecked ∧
      (object.apply clock change).node.lastError = object.node.lastError) := by
  cases change with
  | markDown error => exact .inl ⟨error, rfl, rfl⟩
  | markAlive => exact .inr (.inl ⟨rfl, rfl⟩)
  | callClose closer | discard own =>
      right; right
      simp only [apply, callClose, discard]
      split <;> exact ⟨rfl, rfl, rfl⟩
  | _ => exact .inr (.inr ⟨rfl, rfl, rfl⟩)

theorem isKnown_apply (known : object.node.IsKnown) :
    (object.apply clock change).node.IsKnown := by
  obtain ⟨error, _, same⟩ | ⟨_, same⟩ | ⟨alive, checked, error⟩ :=
    object.health_apply_cases clock change
  · rw [same]
    exact object.node.isKnown_markDown error clock
  · rw [same]
    exact object.node.isKnown_markAlive clock
  · unfold Node.IsKnown
    rw [alive, checked, error]
    exact known

end NodeObject

namespace ConnectionState

variable {state : ConnectionState} {effect : ConnectionEffect} {n first : Nat}

/-- A node has been checked since the given reading of the clock. -/
def CheckedSince (first : Nat) (state : ConnectionState) (n : Nat) : Prop :=
  ∃ reading, first ≤ reading ∧ reading < state.readings ∧
    (state.node n).lastChecked = some (state.clock reading).now

/-- A node has been checked since the given reading of the clock, or the passive mode
relies on its being alive. -/
def Vetted (first : Nat) (state : ConnectionState) (n : Nat) : Prop :=
  state.CheckedSince first n ∨
    state.spec.livenessMode = .passive ∧ (state.node n).alive = true

/-- No effect changes the readings that the clock will give. -/
@[simp] theorem clock_apply (effect : ConnectionEffect) :
    (state.apply effect).clock = state.clock := by
  cases effect with
  | confirm host member =>
      simp only [apply, confirm]
      split <;> rfl
  | _ => rfl

theorem readings_le_apply : state.readings ≤ (state.apply effect).readings := by
  cases effect with
  | confirm host member =>
      simp only [apply, confirm]
      split <;> exact Nat.le_refl _
  | node m change => exact Nat.le_add_right _ _
  | look | welcome host | discovered members => exact Nat.le_succ _
  | _ => exact Nat.le_refl _

/-- Either a change marks the node and so reads the clock, or it leaves the health of
the node as it was. -/
private theorem node_apply_cases
    (effect : ConnectionEffect)
    (built : n < state.count) :
    (state.readings < (state.apply effect).readings ∧
      ((state.apply effect).node n).lastChecked = some state.reading.now) ∨
    (((state.apply effect).node n).alive = (state.node n).alive ∧
      ((state.apply effect).node n).lastChecked = (state.node n).lastChecked) := by
  apply object_apply effect (fun object =>
    (state.readings < (state.apply effect).readings ∧
      object.node.lastChecked = some state.reading.now) ∨
    (object.node.alive = (state.node n).alive ∧
      object.node.lastChecked = (state.node n).lastChecked)) built
  · rintro change rfl _
    obtain ⟨error, rfl, marked⟩ | ⟨rfl, marked⟩ | ⟨alive, checked, _⟩ :=
      (state.objects n).health_apply_cases state.reading change
    · exact .inl ⟨Nat.lt_succ_self _, by rw [marked]; rfl⟩
    · exact .inl ⟨Nat.lt_succ_self _, by rw [marked]; rfl⟩
    · exact .inr ⟨alive, checked⟩
  · exact fun _ same => same
  · exact .inr ⟨rfl, rfl⟩

/-- A node that was checked stays checked. -/
theorem CheckedSince.apply
    (checked : state.CheckedSince first n)
    (built : n < state.count)
    (later : first ≤ state.readings) :
    (state.apply effect).CheckedSince first n := by
  unfold CheckedSince
  rw [clock_apply]
  obtain ⟨reads, now⟩ | ⟨_, same⟩ := state.node_apply_cases effect built
  · exact ⟨state.readings, later, reads, now⟩
  · obtain ⟨reading, since, past, checked⟩ := checked
    exact ⟨reading, since, past.trans_le readings_le_apply, same.trans checked⟩

/-- A node that was vetted stays vetted, also when it goes down. -/
theorem Vetted.apply
    (vetted : state.Vetted first n)
    (built : n < state.count)
    (later : first ≤ state.readings) :
    (state.apply effect).Vetted first n := by
  obtain checked | ⟨passive, alive⟩ := vetted
  · exact .inl (checked.apply built later)
  · unfold Vetted CheckedSince
    rw [clock_apply, spec_apply]
    obtain ⟨reads, now⟩ | ⟨same, _⟩ := state.node_apply_cases effect built
    · exact .inl ⟨state.readings, later, reads, now⟩
    · exact .inr ⟨passive, same.trans alive⟩

/-- The health of every node is known. -/
def HealthKnown (state : ConnectionState) : Prop :=
  ∀ n < state.count, (state.node n).IsKnown

theorem HealthKnown.apply (known : state.HealthKnown) : (state.apply effect).HealthKnown := by
  intro n built
  by_cases old : n < state.count
  · apply object_apply effect (fun object => object.node.IsKnown) old
    · exact fun change _ known => NodeObject.isKnown_apply known
    · exact fun _ known => known
    · exact known n old
  · cases effect with
    | welcome host =>
        have same : n = state.count :=
          Nat.le_antisymm (Nat.le_of_lt_succ built) (Nat.le_of_not_lt old)
        subst same
        have fresh : (state.apply (.welcome host)).node state.count =
            ((NodeObject.create host state.count state.reading).flag true).node :=
          congrArg NodeObject.node (Function.update_self ..)
        rw [fresh]
        exact Node.isKnown_create host state.count state.reading
    | confirm host member => exact absurd (built.trans_eq (count_confirm host member)) old
    | _ => exact absurd built old

theorem healthKnown_create
    (spec : PoolSpec)
    (clock : Nat → ClockReading)
    (picks : Nat → Nat) :
    (create spec clock picks).HealthKnown := by
  intro n _
  obtain ⟨host, ident, reading, same⟩ := objects_create spec clock picks n
  unfold node
  rw [same]
  exact Node.isKnown_create host ident reading

theorem clock_create
    (spec : PoolSpec)
    (clock : Nat → ClockReading)
    (picks : Nat → Nat) :
    (create spec clock picks).clock = clock := by
  have seeded : (spec.seedHosts.foldl trackSeed
      { spec := spec
        objects := fun ident => NodeObject.create "" ident (clock 0)
        count := 0
        pool := Dict.empty
        seedHosts := []
        clock := clock
        picks := picks }).clock = clock := by
    refine List.foldlRecOn spec.seedHosts trackSeed
      (motive := fun state => state.clock = clock) ?_ ?_
    · rfl
    · intro state same host _
      unfold trackSeed
      split <;> exact same
  exact seeded

end ConnectionState

/-! ## Statuses -/

namespace ConnectionStatus

/-- The status describes a pool with the given declared seeds: its counts and its
phase are those of its nodes, no host occurs twice, every seed is listed, everything
else is a confirmed member, and the health of every node is known. -/
structure IsCoherent (seedHosts : List String) (status : ConnectionStatus) : Prop where
  total : status.totalNodes = status.nodes.length
  alive : status.aliveNodes = status.nodes.countP NodeStatus.alive
  down : status.phase = "Down" ↔ ∀ node ∈ status.nodes, node.alive = false
  healthy : status.phase = "Healthy" ↔
    status.nodes ≠ [] ∧ ∀ node ∈ status.nodes, node.alive = true
  degraded : status.phase = "Degraded" ↔
    (∃ node ∈ status.nodes, node.alive = true) ∧ ∃ node ∈ status.nodes, node.alive = false
  distinct : (status.nodes.map NodeStatus.host).Nodup
  seeds : ∀ host ∈ seedHosts, host ∈ status.nodes.map NodeStatus.host
  members : ∀ node ∈ status.nodes, node.host ∉ seedHosts → node.inCluster = true
  aliveKnown : ∀ node ∈ status.nodes, node.alive = true →
    node.lastChecked.isSome ∧ node.lastError = none
  deadKnown : ∀ node ∈ status.nodes, node.alive = false →
    node.lastChecked.isSome = node.lastError.isSome

/-- Only which hosts are declared matters. -/
theorem IsCoherent.congr
    {seedHosts declared : List String}
    {status : ConnectionStatus}
    (coherent : status.IsCoherent seedHosts)
    (same : ∀ host, host ∈ seedHosts ↔ host ∈ declared) :
    status.IsCoherent declared where
  total := coherent.total
  alive := coherent.alive
  down := coherent.down
  healthy := coherent.healthy
  degraded := coherent.degraded
  distinct := coherent.distinct
  seeds host seed := coherent.seeds host ((same host).mpr seed)
  members node member foreign := coherent.members node member (mt (same node.host).mp foreign)
  aliveKnown := coherent.aliveKnown
  deadKnown := coherent.deadKnown

/-- What the status says of a node comes from between the given readings of the clock;
in the passive mode this goes for the nodes that are not alive. -/
def IsFresh
    (spec : PoolSpec)
    (clock : Nat → ClockReading)
    (first last : Nat)
    (status : ConnectionStatus) : Prop :=
  ∀ node ∈ status.nodes,
    (∃ reading, first ≤ reading ∧ reading < last ∧
      node.lastChecked = some (clock reading).now) ∨
    spec.livenessMode = .passive ∧ node.alive = true

theorem IsFresh.mono
    {spec : PoolSpec}
    {clock : Nat → ClockReading}
    {first last later : Nat}
    {status : ConnectionStatus}
    (fresh : status.IsFresh spec clock first last)
    (grown : last ≤ later) :
    status.IsFresh spec clock first later := by
  intro node member
  refine (fresh node member).imp_left ?_
  rintro ⟨reading, since, past, checked⟩
  exact ⟨reading, since, past.trans_le grown, checked⟩

end ConnectionStatus

namespace ConnectionState

variable {state : ConnectionState} {first : Nat}

/-- The phase that a status shows, by how many of its nodes are alive. -/
private theorem phase_iff (nodes : List Node) :
    let phase := if nodes.countP Node.alive = 0 then "Down"
      else if nodes.countP Node.alive = nodes.length then "Healthy" else "Degraded"
    (phase = "Down" ↔ ∀ node ∈ nodes, node.alive = false) ∧
      (phase = "Healthy" ↔ nodes ≠ [] ∧ ∀ node ∈ nodes, node.alive = true) ∧
      (phase = "Degraded" ↔
        (∃ node ∈ nodes, node.alive = true) ∧ ∃ node ∈ nodes, node.alive = false) := by
  have nobody : nodes.countP Node.alive = 0 ↔ ∀ node ∈ nodes, node.alive = false := by
    simp [List.countP_eq_zero]
  have everybody : nodes.countP Node.alive = nodes.length ↔
      ∀ node ∈ nodes, node.alive = true := List.countP_eq_length
  by_cases none : nodes.countP Node.alive = 0
  · have dead := nobody.mp none
    simp only [none, if_true, true_iff, show "Down" ≠ "Healthy" by decide,
      show "Down" ≠ "Degraded" by decide, false_iff, not_and]
    refine ⟨dead, fun some all => ?_, fun some => ?_⟩
    · obtain ⟨node, member⟩ := List.exists_mem_of_ne_nil _ some
      exact Bool.false_ne_true ((dead node member).symm.trans (all node member))
    · obtain ⟨node, member, alive⟩ := some
      exact absurd ((dead node member).symm.trans alive) Bool.false_ne_true
  · obtain ⟨living, member, alive⟩ := List.countP_pos_iff.mp (Nat.pos_of_ne_zero none)
    have notDown : ¬∀ node ∈ nodes, node.alive = false := mt nobody.mpr none
    by_cases all : nodes.countP Node.alive = nodes.length
    · have living := everybody.mp all
      simp only [if_neg none, if_pos all, true_iff, show "Healthy" ≠ "Down" by decide,
        show "Healthy" ≠ "Degraded" by decide, false_iff, not_and]
      refine ⟨notDown, ⟨List.ne_nil_of_mem member, living⟩, fun _ some => ?_⟩
      obtain ⟨node, member, dead⟩ := some
      exact Bool.false_ne_true (dead.symm.trans (living node member))
    · have notHealthy : ¬∀ node ∈ nodes, node.alive = true := mt everybody.mpr all
      simp only [if_neg none, if_neg all, true_iff, show "Degraded" ≠ "Down" by decide,
        show "Degraded" ≠ "Healthy" by decide, false_iff, not_and]
      refine ⟨notDown, fun _ => notHealthy, ⟨living, member, alive⟩, ?_⟩
      simpa using notHealthy

/-- What a status says of a node. -/
private def statusOf (node : Node) : NodeStatus where
  host := node.host
  alive := node.alive
  lastChecked := node.lastChecked
  lastError := node.lastError
  inCluster := node.inCluster

private theorem nodes_statusSnapshot (state : ConnectionState) :
    state.statusSnapshot.nodes = (state.tracked.map state.node).map statusOf := rfl

/-- The status snapshot of a well-formed pool is coherent. -/
theorem isCoherent_statusSnapshot
    (wellformed : state.Wellformed)
    (known : state.HealthKnown) :
    state.statusSnapshot.IsCoherent state.seedHosts := by
  have knownNode : ∀ n ∈ state.tracked, (state.node n).IsKnown :=
    fun n tracked => known n (wellformed.tracked_lt tracked)
  obtain ⟨down, healthy, degraded⟩ := phase_iff (state.tracked.map state.node)
  have hosts : state.statusSnapshot.nodes.map NodeStatus.host = state.pool.keys := by
    simp only [nodes_statusSnapshot, tracked, Dict.values, Dict.keys, List.map_map]
    refine List.map_congr_left fun entry member => ?_
    exact (wellformed.keyed entry.1 entry.2 ((Dict.mem_entries_iff _ _ _).mp member)).2
  constructor
  · simp [statusSnapshot]
  · rw [nodes_statusSnapshot, List.countP_map]
    rfl
  · rw [nodes_statusSnapshot, List.forall_mem_map]
    exact down
  · rw [nodes_statusSnapshot, List.forall_mem_map, ne_eq, List.map_eq_nil_iff]
    exact healthy
  · simp only [nodes_statusSnapshot, List.mem_map, exists_exists_and_eq_and] at degraded ⊢
    exact degraded
  · rw [hosts]
    exact state.pool.nodup_keys
  · rw [hosts]
    exact wellformed.seeds
  · simp only [nodes_statusSnapshot, List.forall_mem_map]
    intro n tracked foreign
    obtain ⟨host, found⟩ := mem_tracked_iff.mp tracked
    have named : (state.node n).host = host := (wellformed.keyed host n found).2
    refine wellformed.members host n found fun seed => foreign ?_
    rw [← named] at seed
    exact seed
  · simp only [nodes_statusSnapshot, List.forall_mem_map]
    exact fun n tracked => (knownNode n tracked).1
  · simp only [nodes_statusSnapshot, List.forall_mem_map]
    exact fun n tracked => (knownNode n tracked).2

end ConnectionState

end Promch
