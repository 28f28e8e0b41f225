import Promch.Clickhouse.Permissions

/-!
# The pool behind the event loop

To the pool, every effect of a task is one of the atomic steps of other
activities, or nothing.  So whatever happens between two moments of a run, a
query that looks at the pool sees what those steps make of it, and the facts
about queries under any such steps apply to the event loop.
-/

namespace Promch

open EventLoop

/-- The wall clock alone. -/
def ClockReading.wall (clock : ClockReading) : ClockReading :=
  { clock with monotonic := 0 }

/-- What the pool looks at in a node: neither its client nor its last use. -/
def Node.health (node : Node) : Node :=
  { node with client := none, lastUsed := 0 }

/-- The atomic step of the pool behind a change of a node object. -/
def NodeEffect.poolEvent
    (ident : Nat)
    (clock : ClockReading) : NodeEffect → Option PoolEvent
  | .markDown error => some (.markDown ident error clock.wall)
  | .markAlive => some (.markAlive ident clock.wall)
  | _ => none

/-- The atomic step of the pool behind an effect. -/
def ConnectionEffect.poolEvent
    (effect : ConnectionEffect)
    (state : ConnectionState) : Option PoolEvent :=
  match effect with
  | .node n change => change.poolEvent n state.reading
  | .welcome host => some (.addMember host state.count state.reading.wall)
  | .confirm host member => some (.setInCluster host member)
  | .remove host => some (.remove host)
  | .discovered _ => some (.discovered state.reading.now)
  | _ => none

/-- A change of a node object without a step of the pool leaves its health as
it was. -/
theorem NodeObject.health_apply_of_poolEvent_eq_none
    {object : NodeObject}
    {clock : ClockReading}
    {change : NodeEffect}
    {ident : Nat}
    (quiet : change.poolEvent ident clock = none) :
    (object.apply clock change).node.health = object.node.health := by
  cases change with
  | markDown error | markAlive => cases quiet
  | callClose closer | discard own =>
      simp only [apply, callClose, discard]
      split <;> rfl
  | _ => rfl

/-- No change of a node object gives it another identity. -/
@[simp] theorem NodeObject.ident_apply
    (object : NodeObject)
    (clock : ClockReading)
    (change : NodeEffect) :
    (object.apply clock change).node.ident = object.node.ident := by
  cases change with
  | callClose closer | discard own =>
      simp only [apply, callClose, discard]
      split <;> rfl
  | _ => rfl

/-- The nodes of the pool as a query sees them. -/
def ConnectionState.view (state : ConnectionState) : Dict String Node :=
  state.pool.mapValues fun n => (state.node n).health

namespace ClusterTopology

/-- The pool is what a query sees of a connection; every node object is known by
its number. -/
structure Mirrors (topology : ClusterTopology) (state : ConnectionState) : Prop where
  clusterName : topology.clusterName = state.spec.clusterName
  seedHosts : topology.seedHosts = state.seedHosts
  nodes : topology.nodes = state.view
  lastDiscovery : topology.lastDiscovery = state.lastDiscovery
  idents : ∀ n, (state.node n).ident = n
  /-- Only node objects that exist are tracked. -/
  built : ∀ host n, state.pool.get? host = some n → n < state.count

variable {topology : ClusterTopology} {state : ConnectionState}

namespace Mirrors

/-! ## What a query reads -/

/-- The tracked nodes, in the order of the pool. -/
theorem allNodes (mirrors : topology.Mirrors state) :
    topology.allNodes = state.tracked.map fun n => (state.node n).health := by
  rw [ClusterTopology.allNodes, mirrors.nodes, ConnectionState.view, Dict.values_mapValues]
  rfl

/-- A system query finds the same live nodes. -/
theorem allLive (mirrors : topology.Mirrors state) :
    topology.allLive = state.allLive.map fun n => (state.node n).health := by
  rw [ClusterTopology.allLive, mirrors.allNodes, List.filter_map]
  rfl

/-- A data query has the same nodes to choose from. -/
theorem candidates
    (mirrors : topology.Mirrors state)
    (exclude : List String) :
    topology.candidates exclude =
      (state.candidates exclude).map fun n => (state.node n).health := by
  rw [ClusterTopology.candidates, mirrors.allNodes, List.filter_map]
  rfl

/-- A random choice picks the same node. -/
theorem pickOneLive
    (mirrors : topology.Mirrors state)
    (exclude : List String)
    (choice : Nat) :
    topology.pickOneLive exclude choice =
      (state.candidates exclude)[choice % (state.candidates exclude).length]?.map
        fun n => (state.node n).health := by
  simp only [ClusterTopology.pickOneLive, mirrors.candidates, List.length_map,
    List.getElem?_map]

/-- A system query reports the same members as down. -/
theorem downMembers (mirrors : topology.Mirrors state) :
    topology.downMembers = state.downMembers := by
  simp only [ClusterTopology.downMembers, ConnectionState.downMembers,
    ClusterTopology.isExpected, mirrors.allNodes, mirrors.lastDiscovery, List.filter_map,
    List.map_map]
  rfl

/-- The same hosts are reported when no node can be queried. -/
theorem memberHosts (mirrors : topology.Mirrors state) :
    topology.memberHosts = state.memberHosts := by
  simp only [ClusterTopology.memberHosts, ConnectionState.memberHosts, mirrors.allNodes,
    List.filter_map, List.map_map]
  rfl

/-- The same exception says that no node can serve a query. -/
theorem noLiveNodes (mirrors : topology.Mirrors state) :
    topology.noLiveNodes = state.noLiveNodes := by
  rw [ClusterTopology.noLiveNodes, ConnectionState.noLiveNodes, mirrors.clusterName]

/-! ## What an effect does to the pool -/

/-- Every pool key is the host of its node. -/
theorem host_eq
    (mirrors : topology.Mirrors state)
    {host : String}
    {n : Nat}
    (found : state.pool.get? host = some n) :
    (state.node n).host = host := by
  have stored : topology.nodes.get? host = some (state.node n).health := by
    rw [mirrors.nodes, ConnectionState.view, Dict.get?_mapValues, found]
    rfl
  exact topology.keyed (host, (state.node n).health) ((Dict.mem_entries_iff _ _ _).mpr stored)

/-- No effect gives a node object another identity. -/
private theorem idents_apply
    (mirrors : topology.Mirrors state)
    (effect : ConnectionEffect)
    (n : Nat) :
    ((state.apply effect).node n).ident = n := by
  have same := mirrors.idents n
  obtain ⟨change, _, after⟩ | after | ⟨_, _, _, _, after⟩ | ⟨_, _, _, after⟩ :=
    state.objects_apply_cases effect n
  · rw [ConnectionState.node, after, NodeObject.ident_apply]
    exact same
  · rw [ConnectionState.node, after]
    exact same
  · rw [ConnectionState.node, after]
    exact same
  · rw [ConnectionState.node, after]
    rfl

/-- No effect tracks a node object that does not exist. -/
private theorem built_apply
    (mirrors : topology.Mirrors state)
    (effect : ConnectionEffect) :
    ∀ host n, (state.apply effect).pool.get? host = some n → n < (state.apply effect).count := by
  cases effect with
  | welcome host =>
      intro other n found
      change (state.pool.set host state.count).get? other = some n at found
      change n < state.count + 1
      rw [Dict.get?_set] at found
      split at found
      · cases found
        exact Nat.lt_succ_self _
      · exact Nat.lt_succ_of_lt (mirrors.built other n found)
  | remove host =>
      intro other n found
      change (state.pool.erase host).get? other = some n at found
      rw [Dict.get?_erase] at found
      split at found
      · cases found
      · exact mirrors.built other n found
  | confirm host member =>
      change ∀ other n, (state.confirm host member).pool.get? other = some n →
        n < (state.confirm host member).count
      rw [ConnectionState.pool_confirm, ConnectionState.count_confirm]
      exact mirrors.built
  | _ => exact mirrors.built

/-- A health change of one node object. -/
private theorem view_updateIdent
    (mirrors : topology.Mirrors state)
    {n : Nat}
    {change : NodeEffect}
    {event : NodeChange}
    (agree : ((state.objects n).apply state.reading change).node.health =
      event.change (state.node n).health) :
    (topology.updateIdent n event).nodes = (state.apply (.node n change)).view := by
  simp only [ClusterTopology.updateIdent, ConnectionState.view, mirrors.nodes,
    Dict.mapValues_mapValues]
  apply Dict.mapValues_congr
  intro host m _
  have ident : (state.node m).health.ident = m := mirrors.idents m
  by_cases same : m = n
  · subst same
    have after := congrArg NodeObject.node (state.objects_apply_node m change)
    rw [if_pos ident, ← agree, ← after]
    rfl
  · rw [if_neg (ident.symm ▸ same)]
    simp [same, ConnectionState.apply, ConnectionState.node, ConnectionState.setObject]

/-- A change of one node object that the pool does not notice. -/
private theorem view_of_quiet
    {n : Nat}
    {change : NodeEffect}
    (quiet : change.poolEvent n state.reading = none) :
    (state.apply (.node n change)).view = state.view := by
  apply Dict.mapValues_congr
  intro host m _
  by_cases same : m = n
  · subst same
    rw [ConnectionState.node, ConnectionState.objects_apply_node]
    exact NodeObject.health_apply_of_poolEvent_eq_none quiet
  · simp [same, ConnectionState.apply, ConnectionState.node, ConnectionState.setObject]

/-- A host that is tracked anew. -/
private theorem view_track
    (built : ∀ host n, state.pool.get? host = some n → n < state.count)
    (host : String)
    (member : Bool) :
    (state.track host member).view =
      state.view.set host
        { Node.create host state.count state.reading.wall with inCluster := member } := by
  have old : ∀ other n, state.pool.get? other = some n →
      ((state.track host member).node n).health = (state.node n).health := by
    intro other n found
    rw [ConnectionState.node, ConnectionState.objects_track_of_ne host member
      (Nat.ne_of_lt (built other n found))]
    rfl
  change (state.pool.set host state.count).mapValues _ = _
  rw [Dict.mapValues_set, Dict.mapValues_congr old, ConnectionState.node_track_self]
  rfl

/-- A host whose membership is settled. -/
private theorem view_confirm
    (mirrors : topology.Mirrors state)
    (host : String)
    (member : Bool) :
    (topology.updateHost host (.membership member)).nodes = (state.confirm host member).view := by
  change topology.nodes.modify host (NodeChange.membership member).change = _
  rw [mirrors.nodes, ConnectionState.view, ConnectionState.view, ConnectionState.pool_confirm]
  apply Dict.modify_mapValues
  · intro n found
    rw [ConnectionState.node, ConnectionState.objects_confirm, if_pos found]
    rfl
  · intro other n apart found
    rw [ConnectionState.node, ConnectionState.objects_confirm, if_neg]
    · rfl
    · intro same
      exact apart ((mirrors.host_eq found).symm.trans (mirrors.host_eq same))

/-- Every effect of a task is to the pool the atomic step behind it. -/
theorem apply
    (mirrors : topology.Mirrors state)
    (effect : ConnectionEffect) :
    (topology.applyAll (effect.poolEvent state).toList).Mirrors (state.apply effect) := by
  have idents := mirrors.idents_apply effect
  have built := mirrors.built_apply effect
  cases effect with
  | node n change =>
      cases noticed : change.poolEvent n state.reading with
      | none =>
          simp only [ConnectionEffect.poolEvent, noticed]
          exact ⟨mirrors.clusterName, mirrors.seedHosts,
            mirrors.nodes.trans (view_of_quiet noticed).symm, mirrors.lastDiscovery, idents, built⟩
      | some event =>
          simp only [ConnectionEffect.poolEvent, noticed]
          cases change with
          | markDown error | markAlive =>
              cases noticed
              exact ⟨mirrors.clusterName, mirrors.seedHosts, view_updateIdent mirrors rfl,
                mirrors.lastDiscovery, idents, built⟩
          | _ => cases noticed
  | welcome host =>
      refine ⟨mirrors.clusterName, mirrors.seedHosts, ?_, mirrors.lastDiscovery, idents, built⟩
      change topology.nodes.set host _ = (state.track host true).view
      rw [view_track mirrors.built, mirrors.nodes]
  | confirm host member =>
      refine ⟨?_, ?_, view_confirm mirrors host member, ?_, idents, built⟩
      · exact mirrors.clusterName.trans (by
          simp only [ConnectionState.apply, ConnectionState.confirm]
          split <;> rfl)
      · exact mirrors.seedHosts.trans (ConnectionState.seedHosts_confirm host member).symm
      · exact mirrors.lastDiscovery.trans (by
          simp only [ConnectionState.apply, ConnectionState.confirm]
          split <;> rfl)
  | remove host =>
      refine ⟨mirrors.clusterName, mirrors.seedHosts, ?_, mirrors.lastDiscovery, idents, built⟩
      change topology.nodes.erase host = (state.pool.erase host).mapValues _
      rw [mirrors.nodes, ConnectionState.view, Dict.mapValues_erase]
      rfl
  | discovered members =>
      exact ⟨mirrors.clusterName, mirrors.seedHosts, mirrors.nodes, rfl, idents, built⟩
  | _ =>
      exact ⟨mirrors.clusterName, mirrors.seedHosts, mirrors.nodes, mirrors.lastDiscovery,
        idents, built⟩

/-! ## A fresh connection -/

/-- Tracking one declared seed. -/
private theorem trackSeed
    {clock : ClockReading}
    (atOnce : clock.monotonic = 0)
    (mirrors : topology.Mirrors state)
    (counted : topology.nodes.entries.length = state.count)
    (host : String) :
    (topology.trackSeed clock host).Mirrors (state.trackSeed host) ∧
      (topology.trackSeed clock host).nodes.entries.length = (state.trackSeed host).count := by
  have keys : topology.nodes.keys = state.pool.keys := by
    rw [mirrors.nodes, ConnectionState.view, Dict.keys_mapValues]
  simp only [ClusterTopology.trackSeed, ConnectionState.trackSeed, keys]
  split
  · exact ⟨mirrors, counted⟩
  · next fresh =>
      have absent : host ∉ topology.nodes.keys := keys ▸ fresh
      refine ⟨⟨mirrors.clusterName, mirrors.seedHosts, ?_, mirrors.lastDiscovery, ?_, ?_⟩, ?_⟩
      · rw [view_track mirrors.built, ← mirrors.nodes, ← counted]
        simp [track, Node.create, ClockReading.wall, atOnce]
      · intro n
        by_cases old : n = state.count
        · rw [old, ConnectionState.node_track_self]
          rfl
        · rw [ConnectionState.node, ConnectionState.objects_track_of_ne host false old]
          exact mirrors.idents n
      · exact mirrors.built_apply (.welcome host)
      · change (topology.nodes.set host _).entries.length = state.count + 1
        rw [Dict.entries_set_of_notMem absent, List.length_append, counted]
        rfl

/-- A fresh connection looks like the pool of the declared seeds. -/
theorem create
    (spec : PoolSpec)
    (clock : Nat → ClockReading)
    (picks : Nat → Nat) :
    (ClusterTopology.create spec.toConnectionSpec (clock 0).wall).Mirrors
      (ConnectionState.create spec clock picks) := by
  have seeded : ∀ (hosts : List String) (topology : ClusterTopology) (state : ConnectionState),
      topology.Mirrors state → topology.nodes.entries.length = state.count →
        (hosts.foldl (ClusterTopology.trackSeed (clock 0).wall) topology).Mirrors
          (hosts.foldl ConnectionState.trackSeed state) := by
    intro hosts
    induction hosts with
    | nil => exact fun _ _ mirrors _ => mirrors
    | cons host rest inductionHypothesis =>
        intro topology state mirrors counted
        have atOnce : (clock 0).wall.monotonic = 0 := rfl
        have tracked := mirrors.trackSeed atOnce counted host
        exact inductionHypothesis _ _ tracked.1 tracked.2
  obtain ⟨clusterName, _, nodes, lastDiscovery, idents, built⟩ :=
    seeded spec.seedHosts
      { clusterName := spec.clusterName, seedHosts := [], nodes := Dict.empty, keyed := by simp }
      { spec := spec
        objects := fun ident => NodeObject.create "" ident (clock 0)
        count := 0
        pool := Dict.empty
        seedHosts := []
        clock := clock
        picks := picks }
      ⟨rfl, rfl, rfl, rfl, fun _ => rfl, by simp⟩ rfl
  refine ⟨clusterName, ?_, nodes, lastDiscovery, idents, built⟩
  exact (congrArg Dict.keys nodes).trans (Dict.keys_mapValues _ _)

/-! ## Runs -/

/-- Whatever happens between two moments of a run, to the pool it is some atomic
steps of other activities. -/
theorem exists_events_of_reaches
    {condition : ConnectionSystem → ConnectionAction → Prop}
    {system later : ConnectionSystem}
    (mirrors : topology.Mirrors system.state)
    (reaches : connectionLoop.Reaches condition system later) :
    ∃ events, (topology.applyAll events).Mirrors later.state := by
  apply reaches.keeps (fun state _ => ∃ events, (topology.applyAll events).Mirrors state)
  · rintro effect state _ ⟨events, reached⟩
    refine ⟨events ++ (effect.poolEvent state).toList, ?_⟩
    rw [applyAll, List.foldl_append]
    exact reached.apply effect
  · exact fun _ _ _ reached => reached
  · exact ⟨[], mirrors⟩

end Mirrors

/-- The pool of every run is the pool of the declared seeds after some atomic
steps. -/
theorem exists_mirrors_of_reaches
    {condition : ConnectionSystem → ConnectionAction → Prop}
    {spec : PoolSpec}
    {clock : Nat → ClockReading}
    {picks : Nat → Nat}
    {system : ConnectionSystem}
    (reaches : connectionLoop.Reaches condition
      (ConnectionSystem.fresh spec clock picks) system) :
    ∃ events, ((ClusterTopology.create spec.toConnectionSpec (clock 0).wall).applyAll
      events).Mirrors system.state :=
  (Mirrors.create spec clock picks).exists_events_of_reaches reaches

end ClusterTopology

end Promch
