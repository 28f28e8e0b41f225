import Promch.Clickhouse.Programs
import Promch.Library.MergePatch

/-!
# The status document of a connection

Every discovery of a connection writes its status into the resource as a merge patch.
An optional field that is missing is left out of the patch, never sent as null, so the
patch removes nothing.  The node list replaces the stored one as a whole; a missing
time of discovery leaves the stored one as it is.
-/

namespace Promch

/-- The scalars of a connection status. -/
inductive ConnectionScalar
  | text (text : String)
  | number (number : Nat)
  | flag (flag : Bool)
  | time (time : Time)

/-- The JSON of a connection status and its parts. -/
abbrev ConnectionJson : Type :=
  Json ConnectionScalar

/-- The members of a JSON object. -/
abbrev Members : Type :=
  List (String × ConnectionJson)

/-! ## Writing -/

/-- The fields of a node status; missing optional ones are omitted. -/
def NodeStatus.fields (node : NodeStatus) : List (String × Option ConnectionJson) :=
  [("host", some (.atom (.text node.host))),
    ("alive", some (.atom (.flag node.alive))),
    ("inCluster", some (.atom (.flag node.inCluster))),
    ("lastChecked", node.lastChecked.map fun time => .atom (.time time)),
    ("lastError", node.lastError.map fun text => .atom (.text text))]

/-- Serialize one node status, omitting null optional fields. -/
def nodeStatusToDict (node : NodeStatus) : ConnectionJson :=
  .object (Json.presentMembers node.fields)

/-- The fields of a connection status; a missing time of discovery is omitted. -/
def ConnectionStatus.fields (status : ConnectionStatus) :
    List (String × Option ConnectionJson) :=
  [("phase", some (.atom (.text status.phase))),
    ("totalNodes", some (.atom (.number status.totalNodes))),
    ("aliveNodes", some (.atom (.number status.aliveNodes))),
    ("nodes", some (.array (status.nodes.map nodeStatusToDict))),
    ("lastDiscovery", status.lastDiscovery.map fun time => .atom (.time time))]

/-- Serialize a connection status into the patch of the stored one. -/
def statusToDict (status : ConnectionStatus) : Members :=
  Json.presentMembers status.fields

/-- The stored status after the patches of several discoveries. -/
def storeAll (stored : Members) (statuses : List ConnectionStatus) : Members :=
  statuses.foldl (fun stored status => Json.mergeMembers (statusToDict status) stored) stored

/-! ## Reading -/

namespace ConnectionJson

def text? : ConnectionJson → Option String
  | .atom (.text text) => some text
  | _ => none

def number? : ConnectionJson → Option Nat
  | .atom (.number number) => some number
  | _ => none

def flag? : ConnectionJson → Option Bool
  | .atom (.flag flag) => some flag
  | _ => none

def time? : ConnectionJson → Option Time
  | .atom (.time time) => some time
  | _ => none

def items? : ConnectionJson → Option (List ConnectionJson)
  | .array items => some items
  | _ => none

end ConnectionJson

/-- Read a node status. -/
def nodeStatusOf? (json : ConnectionJson) : Option NodeStatus := do
  let host ← (json.members.lookup "host").bind ConnectionJson.text?
  let alive ← (json.members.lookup "alive").bind ConnectionJson.flag?
  let inCluster ← (json.members.lookup "inCluster").bind ConnectionJson.flag?
  return { host := host
           alive := alive
           lastChecked := (json.members.lookup "lastChecked").bind ConnectionJson.time?
           lastError := (json.members.lookup "lastError").bind ConnectionJson.text?
           inCluster := inCluster }

/-- Read the time of the last discovery. -/
def lastDiscoveryOf? (stored : Members) : Option Time :=
  (stored.lookup "lastDiscovery").bind ConnectionJson.time?

/-- Read a connection status. -/
def statusOf? (stored : Members) : Option ConnectionStatus := do
  let phase ← (stored.lookup "phase").bind ConnectionJson.text?
  let totalNodes ← (stored.lookup "totalNodes").bind ConnectionJson.number?
  let aliveNodes ← (stored.lookup "aliveNodes").bind ConnectionJson.number?
  let items ← (stored.lookup "nodes").bind ConnectionJson.items?
  let nodes ← items.mapM nodeStatusOf?
  return { phase := phase
           totalNodes := totalNodes
           aliveNodes := aliveNodes
           lastDiscovery := lastDiscoveryOf? stored
           nodes := nodes }

/-! ## Round trips -/

/-- A serialized node status reads as it was. -/
theorem nodeStatusOf?_nodeStatusToDict (node : NodeStatus) :
    nodeStatusOf? (nodeStatusToDict node) = some node := by
  obtain ⟨host, alive, lastChecked, lastError, inCluster⟩ := node
  cases lastChecked <;> cases lastError <;> rfl

theorem mapM_nodeStatusOf? (nodes : List NodeStatus) :
    nodes.mapM (nodeStatusOf? ∘ nodeStatusToDict) = some nodes := by
  induction nodes with
  | nil => rfl
  | cons node rest inductionHypothesis =>
      rw [List.mapM_cons, Function.comp_apply, nodeStatusOf?_nodeStatusToDict,
        inductionHypothesis]
      rfl

theorem nodup_names_fields (status : ConnectionStatus) :
    (status.fields.map Prod.fst).Nodup := by
  simp [ConnectionStatus.fields]

/-- A patch decides every name on its own. -/
theorem lookup_statusToDict
    (status : ConnectionStatus)
    (stored : Members)
    (name : String) :
    (Json.mergeMembers (statusToDict status) stored).lookup name =
      Json.mergeValue (status.fields.lookup name).join (stored.lookup name) := by
  have distinct : ((statusToDict status).map Prod.fst).Nodup :=
    Json.map_fst_presentMembers_sublist.nodup (nodup_names_fields status)
  rw [Json.lookup_mergeMembers distinct, statusToDict,
    Json.lookup_presentMembers (nodup_names_fields status)]

/-- A missing time of discovery leaves the stored one as it is. -/
theorem lastDiscoveryOf?_patched (status : ConnectionStatus) (stored : Members) :
    lastDiscoveryOf? (Json.mergeMembers (statusToDict status) stored) =
      status.lastDiscovery.or (lastDiscoveryOf? stored) := by
  rw [lastDiscoveryOf?, lookup_statusToDict]
  have field : (status.fields.lookup "lastDiscovery").join =
      status.lastDiscovery.map fun time => .atom (.time time) := rfl
  rw [field]
  cases status.lastDiscovery <;> rfl

/-- A patched status reads as the new one, but for a missing time of discovery, which
is the stored one. -/
theorem statusOf?_patched (status : ConnectionStatus) (stored : Members) :
    statusOf? (Json.mergeMembers (statusToDict status) stored) =
      some { status with
        lastDiscovery := status.lastDiscovery.or (lastDiscoveryOf? stored) } := by
  generalize merged : Json.mergeMembers (statusToDict status) stored = later
  have under : ∀ name, later.lookup name =
      Json.mergeValue (status.fields.lookup name).join (stored.lookup name) :=
    fun name => merged ▸ lookup_statusToDict status stored name
  have phase : later.lookup "phase" = some (.atom (.text status.phase)) := under "phase"
  have totalNodes : later.lookup "totalNodes" = some (.atom (.number status.totalNodes)) :=
    under "totalNodes"
  have aliveNodes : later.lookup "aliveNodes" = some (.atom (.number status.aliveNodes)) :=
    under "aliveNodes"
  have nodes : later.lookup "nodes" = some (.array (status.nodes.map nodeStatusToDict)) :=
    under "nodes"
  have lastDiscovery : lastDiscoveryOf? later =
      status.lastDiscovery.or (lastDiscoveryOf? stored) :=
    merged ▸ lastDiscoveryOf?_patched status stored
  simp only [statusOf?, phase, totalNodes, aliveNodes, nodes, lastDiscovery]
  simp [ConnectionJson.text?, ConnectionJson.number?, ConnectionJson.items?, mapM_nodeStatusOf?]

/-- What is stored of the time of discovery is the last one that was not missing. -/
theorem lastDiscoveryOf?_storeAll (stored : Members) (statuses : List ConnectionStatus) :
    lastDiscoveryOf? (storeAll stored statuses) =
      (statuses.reverse.findSome? ConnectionStatus.lastDiscovery).or
        (lastDiscoveryOf? stored) := by
  induction statuses generalizing stored with
  | nil => rfl
  | cons status rest inductionHypothesis =>
      have later := inductionHypothesis (Json.mergeMembers (statusToDict status) stored)
      rw [lastDiscoveryOf?_patched] at later
      refine later.trans ?_
      rw [List.reverse_cons, List.findSome?_append, Option.or_assoc]
      congr 1
      cases found : status.lastDiscovery <;> simp [found]

/-- A value of a patch replaces the stored one as a whole: it is no object and not
null. -/
theorem mergeValue_field
    {status : ConnectionStatus}
    {name : String}
    {value : ConnectionJson}
    (present : (status.fields.lookup name).join = some value)
    (old : Option ConnectionJson) :
    Json.mergeValue (some value) old = some value := by
  have found : status.fields.lookup name = some (some value) := Option.join_eq_some_iff.mp present
  have member : (name, some value) ∈ status.fields := by
    obtain ⟨_, _, same, _⟩ := List.lookup_eq_some_iff.mp found
    simp [same]
  simp only [ConnectionStatus.fields, List.mem_cons, Prod.mk.injEq, Option.some.injEq,
    List.not_mem_nil, or_false] at member
  obtain ⟨_, rfl⟩ | ⟨_, rfl⟩ | ⟨_, rfl⟩ | ⟨_, rfl⟩ | ⟨_, time⟩ := member
  · rfl
  · rfl
  · rfl
  · rfl
  · obtain ⟨_, _, rfl⟩ := Option.map_eq_some_iff.mp time.symm
    rfl

/-- Whatever is stored at first, after any number of discoveries the document holds the
last patch as it was sent, and reads as the status of the last discovery, with the last
time of discovery that was not missing. -/
theorem statusOf?_storeAll
    (stored : Members)
    (earlier : List ConnectionStatus)
    (last : ConnectionStatus) :
    (∀ name value, (statusToDict last).lookup name = some value →
      (storeAll stored (earlier ++ [last])).lookup name = some value) ∧
    statusOf? (storeAll stored (earlier ++ [last])) =
      some { last with
        lastDiscovery :=
          ((earlier ++ [last]).reverse.findSome? ConnectionStatus.lastDiscovery).or
            (lastDiscoveryOf? stored) } := by
  have stepped : storeAll stored (earlier ++ [last]) =
      Json.mergeMembers (statusToDict last) (storeAll stored earlier) := by
    simp [storeAll]
  constructor
  · intro name value sent
    have present : (last.fields.lookup name).join = some value := by
      rwa [← Json.lookup_presentMembers (nodup_names_fields last)]
    rw [stepped, lookup_statusToDict, present]
    exact mergeValue_field present _
  · rw [← lastDiscoveryOf?_storeAll, stepped, statusOf?_patched, lastDiscoveryOf?_patched]

end Promch
