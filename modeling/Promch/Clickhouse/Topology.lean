import Promch.Library.Grouping
import Promch.Clickhouse.Node

/-!
# The pool of cluster nodes

Membership and liveness of the tracked nodes.  Between two awaits of a query
the pool changes only through the atomic steps below: a ping or a query
elsewhere marks a node, and a topology refresh adds, confirms, flags or removes
members.  The structure carries the fact that every node is stored under its
own host.
-/

namespace Promch

/-- The live pool of one cluster. -/
structure ClusterTopology where
  clusterName : String
  /-- Declared seeds are never dropped by discovery. -/
  seedHosts : List String
  nodes : Dict String Node
  lastDiscovery : Option Time := none
  /-- Every pool key is the host of its node. -/
  keyed : ∀ entry ∈ nodes.entries, entry.2.host = entry.1

/-- Change a node without moving it to another host. -/
structure NodeChange where
  change : Node → Node
  host_change : ∀ node, (change node).host = node.host

namespace NodeChange

/-- A probe elsewhere finds the node alive. -/
def alive (clock : ClockReading) : NodeChange where
  change := fun node => node.markAlive clock
  host_change := fun _ => rfl

/-- A probe elsewhere finds the node unreachable. -/
def down (error : String) (clock : ClockReading) : NodeChange where
  change := fun node => node.markDown error clock
  host_change := fun _ => rfl

/-- The verdict of a topology refresh on membership. -/
def membership (confirmed : Bool) : NodeChange where
  change := fun node => { node with inCluster := confirmed }
  host_change := fun _ => rfl

end NodeChange

/-- One atomic step of another activity on the pool. -/
inductive PoolEvent
  /-- A ping or a query of another task marks the node object alive. -/
  | markAlive (ident : Nat) (clock : ClockReading)
  /-- A ping or a query of another task marks the node object down. -/
  | markDown (ident : Nat) (error : String) (clock : ClockReading)
  /-- Discovery finds a member that is not tracked yet. -/
  | addMember (host : String) (ident : Nat) (clock : ClockReading)
  /-- Discovery confirms a tracked member, or flags a drifted seed. -/
  | setInCluster (host : String) (confirmed : Bool)
  /-- Discovery drops a departed member. -/
  | remove (host : String)
  /-- A refresh completes. -/
  | discovered (now : Time)

/-- The host that a step starts to track. -/
def PoolEvent.addedHost : PoolEvent → Option String
  | .addMember host _ _ => some host
  | _ => none

namespace ClusterTopology

/-- All tracked nodes. -/
def allNodes (topology : ClusterTopology) : List Node :=
  topology.nodes.values

/-- The nodes whose last probe succeeded. -/
def allLive (topology : ClusterTopology) : List Node :=
  topology.allNodes.filter Node.alive

/-- The nodes that `pickOneLive` chooses from. -/
def candidates (topology : ClusterTopology) (exclude : List String) : List Node :=
  topology.allNodes.filter fun node => node.alive && node.host ∉ exclude

/-- A live node outside `exclude`; `choice` is the random pick. -/
def pickOneLive
    (topology : ClusterTopology)
    (exclude : List String)
    (choice : Nat) : Option Node :=
  let nodes := topology.candidates exclude
  nodes[choice % nodes.length]?

/-- Change every tracked node that is the given object. -/
def updateIdent
    (topology : ClusterTopology)
    (ident : Nat)
    (change : NodeChange) : ClusterTopology :=
  { topology with
    nodes := topology.nodes.mapValues fun node =>
      if node.ident = ident then change.change node else node
    keyed := by
      intro entry member
      simp only [Dict.mapValues, List.mem_map] at member
      obtain ⟨original, present, rfl⟩ := member
      have host := topology.keyed original present
      split
      · exact (change.host_change original.2).trans host
      · exact host }

/-- Change the node tracked under a host. -/
def updateHost
    (topology : ClusterTopology)
    (host : String)
    (change : NodeChange) : ClusterTopology :=
  { topology with
    nodes := topology.nodes.modify host change.change
    keyed := by
      rintro ⟨key, node⟩ member
      rw [Dict.mem_entries_iff, Dict.get?_modify] at member
      split at member
      · next same =>
          obtain ⟨original, stored, rfl⟩ := Option.map_eq_some_iff.mp member
          have hostEq := topology.keyed (host, original)
            ((Dict.mem_entries_iff _ _ _).mpr stored)
          exact (change.host_change original).trans (hostEq.trans same.symm)
      · exact topology.keyed (key, node) ((Dict.mem_entries_iff _ _ _).mpr member) }

/-- Store a node under its host. -/
def track (topology : ClusterTopology) (node : Node) : ClusterTopology :=
  { topology with
    nodes := topology.nodes.set node.host node
    keyed := by
      rintro ⟨key, stored⟩ member
      rw [Dict.mem_entries_iff, Dict.get?_set] at member
      split at member
      · next same =>
          cases member
          exact same.symm
      · exact topology.keyed (key, stored) ((Dict.mem_entries_iff _ _ _).mpr member) }

/-- Track a new member; it must be pinged before it counts as live. -/
def addMember
    (topology : ClusterTopology)
    (host : String)
    (ident : Nat)
    (clock : ClockReading) : ClusterTopology :=
  topology.track { Node.create host ident clock with inCluster := true }

/-- Stop tracking a host. -/
def remove (topology : ClusterTopology) (host : String) : ClusterTopology :=
  { topology with
    nodes := topology.nodes.erase host
    keyed := by
      intro entry member
      exact topology.keyed entry (List.mem_of_mem_filter member) }

/-- The pool after one atomic step of another activity. -/
def apply (topology : ClusterTopology) (event : PoolEvent) : ClusterTopology :=
  match event with
  | .markAlive ident clock => topology.updateIdent ident (.alive clock)
  | .markDown ident error clock => topology.updateIdent ident (.down error clock)
  | .addMember host ident clock => topology.addMember host ident clock
  | .setInCluster host confirmed => topology.updateHost host (.membership confirmed)
  | .remove host => topology.remove host
  | .discovered now => { topology with lastDiscovery := some now }

/-- The pool after several steps of other activities. -/
def applyAll (topology : ClusterTopology) (events : List PoolEvent) : ClusterTopology :=
  events.foldl apply topology

/-- Track one declared seed; a repeated host is ignored. -/
def trackSeed
    (clock : ClockReading)
    (topology : ClusterTopology)
    (host : String) : ClusterTopology :=
  if host ∈ topology.nodes.keys then topology
  else topology.track (Node.create host topology.nodes.entries.length clock)

/-- The pool of the declared seeds, before any discovery. -/
def create (spec : ConnectionSpec) (clock : ClockReading) : ClusterTopology :=
  let tracked := spec.seedHosts.foldl (trackSeed clock)
    { clusterName := spec.clusterName
      seedHosts := []
      nodes := Dict.empty
      keyed := by simp }
  { tracked with seedHosts := tracked.nodes.keys }

/-- A node is tracked exactly when it is stored under its host. -/
theorem mem_allNodes_iff
    (topology : ClusterTopology)
    (node : Node) :
    node ∈ topology.allNodes ↔ topology.nodes.get? node.host = some node := by
  rw [← Dict.mem_entries_iff]
  constructor
  · intro member
    obtain ⟨entry, present, rfl⟩ := List.mem_map.mp member
    rwa [topology.keyed entry present]
  · exact fun member => List.mem_map_of_mem (f := Prod.snd) member

/-- No host has two nodes. -/
theorem eq_of_host_eq
    (topology : ClusterTopology)
    {node other : Node}
    (tracked : node ∈ topology.allNodes)
    (otherTracked : other ∈ topology.allNodes)
    (sameHost : node.host = other.host) :
    node = other := by
  rw [mem_allNodes_iff] at tracked otherTracked
  rw [sameHost, otherTracked] at tracked
  exact (Option.some.inj tracked).symm

/-- The hosts of the tracked nodes are the keys of the pool, in order. -/
theorem map_host_allNodes (topology : ClusterTopology) :
    topology.allNodes.map Node.host = topology.nodes.keys := by
  rw [allNodes, Dict.values, List.map_map]
  exact List.map_congr_left topology.keyed

/-- No two live nodes share a host. -/
theorem nodup_hosts_allLive (topology : ClusterTopology) :
    (topology.allLive.map Node.host).Nodup := by
  have tracked : (topology.allNodes.map Node.host).Nodup := by
    rw [map_host_allNodes]
    exact topology.nodes.nodup_keys
  exact tracked.sublist (List.filter_sublist.map Node.host)

/-- The tracked hosts are the keys of the pool. -/
theorem host_mem_keys
    (topology : ClusterTopology)
    {node : Node}
    (tracked : node ∈ topology.allNodes) :
    node.host ∈ topology.nodes.keys :=
  (Dict.mem_keys_iff _ _).mpr ⟨node, (topology.mem_allNodes_iff node).mp tracked⟩

/-- A step tracks no host but the one it adds. -/
theorem mem_keys_apply
    {topology : ClusterTopology}
    {event : PoolEvent}
    {host : String}
    (member : host ∈ (topology.apply event).nodes.keys) :
    host ∈ topology.nodes.keys ∨ event.addedHost = some host := by
  cases event with
  | markAlive | markDown =>
      left
      simpa [apply, updateIdent] using member
  | addMember added ident clock =>
      have added_or := (Dict.mem_keys_set _ _ _ _).mp member
      simp only [PoolEvent.addedHost, Option.some.injEq]
      exact added_or.symm.imp_right Eq.symm
  | setInCluster changed confirmed =>
      left
      simpa [apply, updateHost] using member
  | remove removed =>
      left
      exact Dict.mem_keys_of_mem_keys_erase member
  | discovered now => exact .inl member

/-- Several steps track no host but those they add. -/
theorem mem_keys_applyAll
    {topology : ClusterTopology}
    {events : List PoolEvent}
    {host : String}
    (member : host ∈ (topology.applyAll events).nodes.keys) :
    host ∈ topology.nodes.keys ∨ ∃ event ∈ events, event.addedHost = some host := by
  refine List.foldlRecOn events apply
    (motive := fun current => host ∈ current.nodes.keys →
      host ∈ topology.nodes.keys ∨ ∃ event ∈ events, event.addedHost = some host)
    Or.inl ?_ member
  intro current earlier event present afterwards
  obtain before | added := mem_keys_apply afterwards
  · exact earlier before
  · exact .inr ⟨event, present, added⟩

@[simp] theorem mem_candidates_iff
    (topology : ClusterTopology)
    (exclude : List String)
    (node : Node) :
    node ∈ topology.candidates exclude ↔
      node ∈ topology.allNodes ∧ node.alive = true ∧ node.host ∉ exclude := by
  simp [candidates]

/-- Without exclusions every live node is a candidate. -/
theorem candidates_nil (topology : ClusterTopology) :
    topology.candidates [] = topology.allLive := by
  simp [candidates, allLive]

/-- A pick fails exactly when nothing is left to choose from. -/
theorem pickOneLive_eq_none_iff
    (topology : ClusterTopology)
    (exclude : List String)
    (choice : Nat) :
    topology.pickOneLive exclude choice = none ↔ topology.candidates exclude = [] := by
  simp only [pickOneLive, List.getElem?_eq_none_iff]
  constructor
  · intro outside
    by_contra nonempty
    have positive := List.length_pos_of_ne_nil nonempty
    exact absurd (Nat.mod_lt choice positive) (Nat.not_lt.mpr outside)
  · intro empty
    simp [empty]

/-- A picked node is one of the candidates. -/
theorem mem_candidates_of_pickOneLive
    (topology : ClusterTopology)
    {exclude : List String}
    {choice : Nat}
    {node : Node}
    (picked : topology.pickOneLive exclude choice = some node) :
    node ∈ topology.candidates exclude :=
  List.mem_of_getElem? picked

end ClusterTopology

end Promch
