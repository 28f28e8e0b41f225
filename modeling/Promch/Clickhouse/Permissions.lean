import Promch.Clickhouse.Programs

/-!
# What the tasks of a connection may do

For every effect the state in which a task may have it, whatever the other
tasks do: locks are used by their holders, a client is set under the lock of a
node that has none, only clients whose `close` was called are forgotten, and
the pool is changed by the holder of the discovery lock.  These permissions keep
the pool and the clients well formed.
-/

namespace Promch

open EventLoop

namespace NodeObject

/-- What a task may do to a node object. -/
def Permits (object : NodeObject) (task : Nat) : NodeEffect → Prop
  | .markDown _ => True
  | .markAlive => True
  | .lock op => object.clientLock.Permits task op
  | .connect => object.clientLock.holder = some task ∧ object.client = none
  | .discard own => ∃ client, own = some client ∧ client < object.made
  | .callClose _ => object.client ≠ none
  | .forget client => client ∈ object.closed
  | .sendQuery sender client => sender = task ∧ object.client = some client
  | .endQuery sender _ => sender = task

/-- What holds of a node object as long as a task awaits a request. -/
def Asks (object : NodeObject) (task : Nat) : ConnectionRequest → Prop
  | .factory _ => object.clientLock.holder = some task ∧ object.client = none
  | .query _ client _ _ => (task, client) ∈ object.outstanding ∧ client < object.made
  | .ping _ client => client < object.made
  | .close _ _ client => client ∈ object.closed
  | _ => True

/-- The current client is the newest one. -/
def Newest (object : NodeObject) : Prop :=
  ∀ client, object.client = some client → client + 1 = object.made

section Changes

variable {object : NodeObject} {task other client : Nat}
variable {change : NodeEffect} {clock : ClockReading}

@[simp] theorem host_apply : (object.apply clock change).node.host = object.node.host := by
  cases change <;> simp only [apply, callClose, discard] <;> (try split) <;> rfl

@[simp] theorem inCluster_apply :
    (object.apply clock change).node.inCluster = object.node.inCluster := by
  cases change <;> simp only [apply, callClose, discard] <;> (try split) <;> rfl

@[simp] theorem client_apply_markDown (error : String) :
    (object.apply clock (.markDown error)).client = object.client := rfl

@[simp] theorem client_apply_lock (op : LockOp) :
    (object.apply clock (.lock op)).client = object.client := rfl

@[simp] theorem client_apply_endQuery (task client : Nat) :
    (object.apply clock (.endQuery task client)).client = object.client := rfl

@[simp] theorem client_apply_forget (client : Nat) :
    (object.apply clock (.forget client)).client = none := rfl

@[simp] theorem made_apply_endQuery (task client : Nat) :
    (object.apply clock (.endQuery task client)).made = object.made := rfl

@[simp] theorem clientLock_apply_take (task : Nat) :
    (object.apply clock (.lock (.take task))).clientLock.holder = some task := rfl

@[simp] theorem clientLock_apply_wake (task : Nat) :
    (object.apply clock (.lock (.wake task))).clientLock.holder = some task := rfl

theorem made_le_apply : object.made ≤ (object.apply clock change).made := by
  cases change <;> simp only [apply, callClose, discard] <;> (try split) <;>
    first | exact Nat.le_refl _ | exact Nat.le_succ _

theorem closed_subset_apply : object.closed ⊆ (object.apply clock change).closed := by
  cases change <;> simp only [apply, callClose, discard] <;> (try split) <;>
    first | exact List.Subset.refl _ | exact List.subset_cons_self _ _

/-- Nobody else answers a query of a task. -/
theorem mem_outstanding_apply
    (permitted : object.Permits other change)
    (different : other ≠ task)
    (sent : (task, client) ∈ object.outstanding) :
    (task, client) ∈ (object.apply clock change).outstanding := by
  cases change with
  | sendQuery sender target => exact List.mem_cons_of_mem _ sent
  | endQuery sender target =>
      have apart : (task, client) ≠ (sender, target) := by
        intro same
        exact different (permitted.symm.trans (congrArg Prod.fst same).symm)
      exact (List.mem_erase_of_ne apart).mpr sent
  | callClose closer | discard own =>
      simp only [apply, callClose, discard]
      split <;> exact sent
  | _ => exact sent

/-- Nobody else sets a client while a task holds the lock. -/
theorem connecting_apply
    (permitted : object.Permits other change)
    (different : other ≠ task)
    (connecting : object.clientLock.holder = some task ∧ object.client = none) :
    (object.apply clock change).clientLock.holder = some task ∧
      (object.apply clock change).client = none := by
  obtain ⟨held, unconnected⟩ := connecting
  cases change with
  | lock op => exact ⟨AsyncLock.holder_apply_of_held permitted different held, unconnected⟩
  | connect =>
      have same : other = task := Option.some.inj (permitted.1.symm.trans held)
      exact absurd same different
  | callClose closer | discard own =>
      simp only [apply, callClose, discard, unconnected]
      exact ⟨held, trivial⟩
  | forget client => exact ⟨held, rfl⟩
  | _ => exact ⟨held, unconnected⟩

/-- The other tasks leave true what a task that awaits relies on. -/
theorem asks_apply
    {request : ConnectionRequest}
    (permitted : object.Permits other change)
    (different : other ≠ task)
    (asks : object.Asks task request) :
    (object.apply clock change).Asks task request := by
  cases request with
  | factory n => exact connecting_apply permitted different asks
  | query n client sql limit =>
      exact ⟨mem_outstanding_apply permitted different asks.1,
        Nat.lt_of_lt_of_le asks.2 made_le_apply⟩
  | ping n client => exact Nat.lt_of_lt_of_le asks made_le_apply
  | close closer n client => exact closed_subset_apply asks
  | clientTurn n | discoveryTurn closing | never => trivial

/-- The current client stays the newest one. -/
theorem newest_apply
    (permitted : object.Permits task change)
    (newest : object.Newest) :
    (object.apply clock change).Newest := by
  cases change with
  | connect =>
      intro client current
      cases current
      rfl
  | discard own =>
      simp only [apply, discard]
      split
      · exact newest
      · intro client current
        cases current
  | callClose closer =>
      simp only [apply, callClose]
      split <;> exact newest
  | forget client =>
      intro client current
      cases current
  | _ => exact newest

end Changes

end NodeObject

/-- The node that a request is addressed to. -/
def ConnectionRequest.node? : ConnectionRequest → Option Nat
  | .clientTurn n => some n
  | .factory n => some n
  | .query n _ _ _ => some n
  | .ping n _ => some n
  | .close _ n _ => some n
  | .discoveryTurn _ => none
  | .never => none

/-- The node that a call is addressed to. -/
def ConnectionCall.node? : ConnectionCall → Option Nat
  | .query n _ _ => some n
  | .ping n => some n
  | .closeNode n => some n
  | .runOnNode n _ _ => some n
  | _ => none

namespace ConnectionState

/-- A host is a confirmed member of the cluster. -/
def IsMember (state : ConnectionState) (host : String) : Prop :=
  ∃ n, state.pool.get? host = some n ∧ (state.node n).inCluster = true

/-- A call is addressed to a node object that exists. -/
def Exists (state : ConnectionState) (call : ConnectionCall) : Prop :=
  ∀ n, call.node? = some n → n < state.count

instance (state : ConnectionState) (call : ConnectionCall) : Decidable (state.Exists call) :=
  inferInstanceAs (Decidable (∀ n ∈ call.node?, n < state.count))

/-- What a task may do to the shared state. -/
def Permits (state : ConnectionState) (task : Nat) : ConnectionEffect → Prop
  | .node n change => n < state.count ∧ (state.objects n).Permits task change
  | .discoveryLock op => state.discoveryLock.Permits task op
  | .fork calls => ∀ call ∈ calls, state.Exists call
  | .welcome host => state.discoveryLock.holder = some task ∧ host ∉ state.pool.keys
  | .confirm host member =>
      state.discoveryLock.holder = some task ∧ (member = false → host ∈ state.seedHosts)
  | .remove host =>
      state.discoveryLock.holder = some task ∧ host ∉ state.seedHosts ∧
        ∀ n, state.pool.get? host = some n → state.client n = none
  | .discovered members =>
      state.discoveryLock.holder = some task ∧
        ∀ host, state.IsMember host ↔ host ∈ members
  | .swept n => state.client n = none
  | .examine examiner _ => examiner = task
  | .pick => True
  | .look => True
  | .finishCycle => True
  | .beginSweep => True
  | .endSweep => True

/-- What holds as long as a task awaits a request. -/
def Asks (state : ConnectionState) (task : Nat) (request : ConnectionRequest) : Prop :=
  ∀ n, request.node? = some n → n < state.count ∧ (state.objects n).Asks task request

/-- The pool and its node objects are well formed. -/
structure Wellformed (state : ConnectionState) : Prop where
  /-- Every pool key is the host of its node. -/
  keyed : ∀ host n, state.pool.get? host = some n →
    n < state.count ∧ (state.node n).host = host
  /-- Every declared seed is tracked. -/
  seeds : ∀ host ∈ state.seedHosts, host ∈ state.pool.keys
  /-- A tracked node that is not a declared seed is a confirmed member. -/
  members : ∀ host n, state.pool.get? host = some n → host ∉ state.seedHosts →
    (state.node n).inCluster = true
  /-- A node object is tracked under its host until it leaves the pool. -/
  tenants : ∀ n < state.count,
    state.pool.get? (state.node n).host = some n ∨ n ∈ state.departed
  /-- Between refreshes the confirmed members are those last reported. -/
  reported : state.lastDiscovery.isSome → state.reconciling = false →
    ∀ host, state.IsMember host ↔ host ∈ state.membership
  newest : ∀ n, (state.objects n).Newest

/-- Nothing that concerns the pool and its membership differs. -/
structure SamePool (state next : ConnectionState) : Prop where
  pool : next.pool = state.pool
  seedHosts : next.seedHosts = state.seedHosts
  count : next.count = state.count
  departed : next.departed = state.departed
  lastDiscovery : next.lastDiscovery = state.lastDiscovery
  reconciling : next.reconciling = state.reconciling
  membership : next.membership = state.membership
  hosts : ∀ n, (next.node n).host = (state.node n).host
  flags : ∀ n, (next.node n).inCluster = (state.node n).inCluster

end ConnectionState

/-- An effect that leaves the pool and its membership alone. -/
def ConnectionEffect.LeavesPool : ConnectionEffect → Prop
  | .welcome _ => False
  | .confirm _ _ => False
  | .remove _ => False
  | .discovered _ => False
  | _ => True

namespace ConnectionState

variable {state next : ConnectionState} {task other : Nat} {effect : ConnectionEffect}

/-- What an effect does to one node object: a change of that node, nothing, a
new membership flag, or its creation. -/
theorem objects_apply_cases (state : ConnectionState) (effect : ConnectionEffect) (n : Nat) :
    (∃ change, effect = .node n change ∧
      (state.apply effect).objects n = (state.objects n).apply state.reading change) ∨
    (state.apply effect).objects n = state.objects n ∨
    (∃ host member, effect = .confirm host member ∧ state.pool.get? host = some n ∧
      (state.apply effect).objects n = (state.objects n).flag member) ∨
    (∃ host, effect = .welcome host ∧ n = state.count ∧
      (state.apply effect).objects n =
        (NodeObject.create host n state.reading).flag true) := by
  cases effect with
  | node m change =>
      by_cases same : n = m
      · subst same
        exact .inl ⟨change, rfl, Function.update_self ..⟩
      · exact .inr (.inl (Function.update_of_ne same ..))
  | welcome host =>
      by_cases same : n = state.count
      · subst same
        exact .inr (.inr (.inr ⟨host, rfl, rfl, Function.update_self ..⟩))
      · exact .inr (.inl (Function.update_of_ne same ..))
  | confirm host member =>
      cases found : state.pool.get? host with
      | none =>
          right; left
          simp only [apply, confirm, found]
      | some m =>
          by_cases same : n = m
          · subst same
            right; right; left
            refine ⟨host, member, rfl, found, ?_⟩
            simp only [apply, confirm, found]
            exact Function.update_self ..
          · right; left
            simp only [apply, confirm, found]
            exact Function.update_of_ne same ..
  | _ => exact .inr (.inl rfl)

/-- What a change of a node makes of its node object. -/
@[simp] theorem objects_apply_node (state : ConnectionState) (n : Nat) (change : NodeEffect) :
    (state.apply (.node n change)).objects n =
      (state.objects n).apply state.reading change :=
  Function.update_self ..

/-- Node objects are only ever added. -/
theorem count_le_apply : state.count ≤ (state.apply effect).count := by
  cases effect with
  | welcome host => exact Nat.le_succ _
  | confirm host member =>
      simp only [apply, confirm]
      split <;> exact Nat.le_refl _
  | _ => exact Nat.le_refl _

/-- A fact about a node object that neither its own changes nor a new
membership flag disturb. -/
theorem object_apply
    (effect : ConnectionEffect)
    (fact : NodeObject → Prop)
    {n : Nat}
    (built : n < state.count)
    (changed : ∀ change, effect = .node n change → fact (state.objects n) →
      fact ((state.objects n).apply state.reading change))
    (flagged : ∀ member, fact (state.objects n) → fact ((state.objects n).flag member))
    (holds : fact (state.objects n)) :
    fact ((state.apply effect).objects n) := by
  obtain ⟨change, effectEq, after⟩ | after | ⟨_, member, _, _, after⟩ | ⟨_, _, fresh, _⟩ :=
    state.objects_apply_cases effect n
  · rw [after]
    exact changed change effectEq holds
  · rw [after]
    exact holds
  · rw [after]
    exact flagged member holds
  · omega

/-- The host of a node object never changes. -/
theorem host_apply {n : Nat} (built : n < state.count) :
    ((state.apply effect).node n).host = (state.node n).host := by
  apply object_apply effect (fun object => object.node.host = (state.node n).host) built
  · intro change _ same
    rw [NodeObject.host_apply]
    exact same
  · exact fun _ same => same
  · rfl

/-- An existing node object goes on existing. -/
theorem exists_apply {call : ConnectionCall} (found : state.Exists call) :
    (state.apply effect).Exists call :=
  fun n address => Nat.lt_of_lt_of_le (found n address) count_le_apply

/-- The other tasks leave true what a task that awaits relies on. -/
theorem asks_apply
    {request : ConnectionRequest}
    (permitted : state.Permits other effect)
    (different : other ≠ task)
    (asks : state.Asks task request) :
    (state.apply effect).Asks task request := by
  intro n address
  obtain ⟨built, holds⟩ := asks n address
  refine ⟨Nat.lt_of_lt_of_le built count_le_apply, ?_⟩
  apply object_apply effect (fun object => object.Asks task request) built
  · rintro change rfl holds
    exact NodeObject.asks_apply permitted.2 different holds
  · intro member holds
    cases request <;> exact holds
  · exact holds

/-- Nobody changes what the liveness pass of another task has yet to examine. -/
theorem examining_apply
    (permitted : state.Permits other effect)
    (different : other ≠ task) :
    (state.apply effect).examining task = state.examining task := by
  cases effect with
  | examine examiner nodes =>
      obtain rfl : examiner = other := permitted
      exact Function.update_of_ne (Ne.symm different) ..
  | confirm host member =>
      simp only [apply, confirm]
      split <;> rfl
  | _ => rfl

/-- Nobody takes the discovery lock from its holder. -/
theorem discoveryHolder_apply
    (permitted : state.Permits other effect)
    (different : other ≠ task)
    (held : state.discoveryLock.holder = some task) :
    (state.apply effect).discoveryLock.holder = some task := by
  cases effect with
  | discoveryLock op => exact AsyncLock.holder_apply_of_held permitted different held
  | confirm host member =>
      simp only [apply, confirm]
      split <;> exact held
  | _ => exact held

/-- Only a holder of the discovery lock changes the pool. -/
theorem leavesPool_of_held
    (permitted : state.Permits other effect)
    (different : other ≠ task)
    (held : state.discoveryLock.holder = some task) :
    effect.LeavesPool := by
  have apart : state.discoveryLock.holder ≠ some other := by
    rw [held]
    exact fun same => different (Option.some.inj same).symm
  cases effect with
  | welcome host | confirm host member | remove host | discovered members =>
      exact absurd permitted.1 apart
  | _ => trivial

/-- Effects that leave the pool alone change nothing of its membership. -/
theorem samePool_apply (state : ConnectionState) (leaves : effect.LeavesPool) :
    SamePool state (state.apply effect) := by
  cases effect with
  | node m change =>
      refine ⟨rfl, rfl, rfl, rfl, rfl, rfl, rfl, fun n => ?_, fun n => ?_⟩
      all_goals
        by_cases same : n = m
        · subst same
          simp [apply, setObject, node]
        · simp [apply, setObject, node, Function.update_of_ne same]
  | welcome host | confirm host member | remove host | discovered members => exact leaves.elim
  | _ => exact ⟨rfl, rfl, rfl, rfl, rfl, rfl, rfl, fun _ => rfl, fun _ => rfl⟩

theorem SamePool.refl (state : ConnectionState) : SamePool state state :=
  ⟨rfl, rfl, rfl, rfl, rfl, rfl, rfl, fun _ => rfl, fun _ => rfl⟩

theorem SamePool.trans
    {last : ConnectionState}
    (first : SamePool state next)
    (second : SamePool next last) :
    SamePool state last where
  pool := second.pool.trans first.pool
  seedHosts := second.seedHosts.trans first.seedHosts
  count := second.count.trans first.count
  departed := second.departed.trans first.departed
  lastDiscovery := second.lastDiscovery.trans first.lastDiscovery
  reconciling := second.reconciling.trans first.reconciling
  membership := second.membership.trans first.membership
  hosts m := (second.hosts m).trans (first.hosts m)
  flags m := (second.flags m).trans (first.flags m)

theorem SamePool.isMember_iff (same : SamePool state next) (host : String) :
    next.IsMember host ↔ state.IsMember host := by
  simp only [IsMember, same.pool, same.flags]

/-- Every permitted effect keeps the current clients the newest ones. -/
theorem newest_apply
    (permitted : state.Permits task effect)
    (newest : ∀ n, (state.objects n).Newest) :
    ∀ n, ((state.apply effect).objects n).Newest := by
  intro n
  obtain ⟨change, rfl, after⟩ | after | ⟨_, _, _, _, after⟩ | ⟨_, _, _, after⟩ :=
    state.objects_apply_cases effect n
  · rw [after]
    exact NodeObject.newest_apply permitted.2 (newest n)
  · rw [after]
    exact newest n
  · rw [after]
    exact newest n
  · rw [after]
    intro client current
    cases current

/-! ## The pool stays well formed -/

theorem node_track_self (host : String) (member : Bool) :
    (state.track host member).node state.count =
      { Node.create host state.count state.reading with inCluster := member } := by
  simp [track, node, setObject, NodeObject.flag, NodeObject.withNode, NodeObject.create]

theorem objects_track_of_ne {n : Nat} (host : String) (member : Bool) (old : n ≠ state.count) :
    (state.track host member).objects n = state.objects n :=
  Function.update_of_ne old ..

/-- A new host is tracked as a new node object. -/
theorem keyed_track
    (host : String)
    (member : Bool)
    (keyed : ∀ host n, state.pool.get? host = some n →
      n < state.count ∧ (state.node n).host = host) :
    ∀ other n, (state.track host member).pool.get? other = some n →
      n < (state.track host member).count ∧
        ((state.track host member).node n).host = other := by
  intro other n found
  simp only [track, setObject, Dict.get?_set] at found
  split at found
  · next same =>
      cases found
      rw [node_track_self, same]
      exact ⟨Nat.lt_succ_self _, rfl⟩
  · obtain ⟨built, hostEq⟩ := keyed other n found
    refine ⟨Nat.lt_succ_of_lt built, ?_⟩
    rw [node, objects_track_of_ne host member (by omega)]
    exact hostEq

/-- The old node objects keep their places when a new host is tracked. -/
theorem tenants_track
    {host : String}
    (member : Bool)
    (fresh : host ∉ state.pool.keys)
    (tenants : ∀ n < state.count,
      state.pool.get? (state.node n).host = some n ∨ n ∈ state.departed) :
    ∀ n < (state.track host member).count,
      (state.track host member).pool.get? ((state.track host member).node n).host = some n ∨
        n ∈ (state.track host member).departed := by
  intro n built
  by_cases old : n = state.count
  · left
    subst old
    rw [node_track_self]
    exact Dict.get?_set_self ..
  · obtain tracked | left := tenants n (by
      have below : n < state.count + 1 := built
      omega)
    · left
      rw [node, objects_track_of_ne host member old]
      simp only [track, setObject, Dict.get?_set]
      have apart : (state.objects n).node.host ≠ host := by
        rintro rfl
        exact fresh ((Dict.mem_keys_iff _ _).mpr ⟨n, tracked⟩)
      rw [if_neg apart]
      exact tracked
    · exact .inr left

/-- Confirming a host changes the flag of its node and nothing else. -/
theorem objects_confirm (host : String) (member : Bool) (n : Nat) :
    (state.confirm host member).objects n =
      if state.pool.get? host = some n then (state.objects n).flag member
      else state.objects n := by
  simp only [confirm]
  cases found : state.pool.get? host with
  | none => simp
  | some m =>
      by_cases same : m = n
      · subst same
        simp [setObject]
      · simp [setObject, same, Function.update_of_ne (Ne.symm same)]

@[simp] theorem pool_confirm (host : String) (member : Bool) :
    (state.confirm host member).pool = state.pool := by
  simp only [confirm]
  split <;> rfl

@[simp] theorem count_confirm (host : String) (member : Bool) :
    (state.confirm host member).count = state.count := by
  simp only [confirm]
  split <;> rfl

@[simp] theorem seedHosts_confirm (host : String) (member : Bool) :
    (state.confirm host member).seedHosts = state.seedHosts := by
  simp only [confirm]
  split <;> rfl

@[simp] theorem departed_confirm (host : String) (member : Bool) :
    (state.confirm host member).departed = state.departed := by
  simp only [confirm]
  split <;> rfl

@[simp] theorem discoveryLock_confirm (host : String) (member : Bool) :
    (state.confirm host member).discoveryLock = state.discoveryLock := by
  simp only [confirm]
  split <;> rfl

theorem host_confirm (host : String) (member : Bool) (n : Nat) :
    ((state.confirm host member).node n).host = (state.node n).host := by
  rw [node, objects_confirm]
  split <;> rfl

theorem inCluster_confirm (host : String) (member : Bool) (n : Nat) :
    ((state.confirm host member).node n).inCluster =
      if state.pool.get? host = some n then member else (state.node n).inCluster := by
  rw [node, objects_confirm]
  split <;> rfl

/-- What leaves the pool and its membership alone keeps the pool well formed. -/
theorem Wellformed.of_samePool
    (wellformed : state.Wellformed)
    (same : SamePool state next)
    (newest : ∀ n, (next.objects n).Newest) :
    next.Wellformed := by
  constructor
  · intro host n found
    rw [same.pool] at found
    rw [same.count, same.hosts]
    exact wellformed.keyed host n found
  · rw [same.seedHosts, same.pool]
    exact wellformed.seeds
  · intro host n found foreign
    rw [same.pool] at found
    rw [same.seedHosts] at foreign
    rw [same.flags]
    exact wellformed.members host n found foreign
  · intro n built
    rw [same.count] at built
    rw [same.hosts, same.pool, same.departed]
    exact wellformed.tenants n built
  · intro known settled host
    rw [same.lastDiscovery] at known
    rw [same.reconciling] at settled
    rw [same.isMember_iff, same.membership]
    exact wellformed.reported known settled host
  · exact newest

/-- A new cluster member is tracked as a confirmed one. -/
theorem Wellformed.welcome
    {host : String}
    (wellformed : state.Wellformed)
    (fresh : host ∉ state.pool.keys)
    (newest : ∀ n, ((state.apply (.welcome host)).objects n).Newest) :
    (state.apply (.welcome host)).Wellformed := by
  refine ⟨keyed_track host true wellformed.keyed, ?_, ?_,
    tenants_track true fresh wellformed.tenants, ?_, newest⟩
  · intro seed declared
    exact (Dict.mem_keys_set _ _ _ _).mpr (.inr (wellformed.seeds seed declared))
  · intro other n found foreign
    change (state.pool.set host state.count).get? other = some n at found
    rw [Dict.get?_set] at found
    split at found
    · cases found
      exact congrArg Node.inCluster (node_track_self host true)
    · have built := (wellformed.keyed other n found).1
      change ((state.track host true).node n).inCluster = true
      rw [node, objects_track_of_ne host true (by omega)]
      exact wellformed.members other n found foreign
  · intro _ settled
    cases settled

/-- Only declared seeds are found not to be members. -/
theorem Wellformed.confirm
    {host : String}
    {member : Bool}
    (wellformed : state.Wellformed)
    (seed : member = false → host ∈ state.seedHosts)
    (newest : ∀ n, ((state.apply (.confirm host member)).objects n).Newest) :
    (state.apply (.confirm host member)).Wellformed := by
  constructor
  · intro other n found
    change (state.confirm host member).pool.get? other = some n at found
    rw [pool_confirm] at found
    change n < (state.confirm host member).count ∧
      ((state.confirm host member).node n).host = other
    rw [count_confirm, host_confirm]
    exact wellformed.keyed other n found
  · change ∀ seed ∈ (state.confirm host member).seedHosts,
      seed ∈ (state.confirm host member).pool.keys
    rw [seedHosts_confirm, pool_confirm]
    exact wellformed.seeds
  · intro other n found foreign
    change (state.confirm host member).pool.get? other = some n at found
    change other ∉ (state.confirm host member).seedHosts at foreign
    rw [pool_confirm] at found
    rw [seedHosts_confirm] at foreign
    change ((state.confirm host member).node n).inCluster = true
    rw [inCluster_confirm]
    split
    · next tracked =>
        have hostEq := (wellformed.keyed host n tracked).2
        have otherEq := (wellformed.keyed other n found).2
        cases member with
        | true => rfl
        | false => exact absurd (seed rfl) (hostEq.symm.trans otherEq ▸ foreign)
    · exact wellformed.members other n found foreign
  · intro n built
    change n < (state.confirm host member).count at built
    rw [count_confirm] at built
    change (state.confirm host member).pool.get?
      ((state.confirm host member).node n).host = some n ∨
        n ∈ (state.confirm host member).departed
    rw [host_confirm, pool_confirm, departed_confirm]
    exact wellformed.tenants n built
  · intro _ settled
    cases settled
  · exact newest

/-- A host that is tracked no more leaves its node object behind. -/
theorem Wellformed.remove
    {host : String}
    (wellformed : state.Wellformed)
    (undeclared : host ∉ state.seedHosts)
    (newest : ∀ n, ((state.apply (.remove host)).objects n).Newest) :
    (state.apply (.remove host)).Wellformed := by
  constructor
  · intro other n found
    change (state.pool.erase host).get? other = some n at found
    rw [Dict.get?_erase] at found
    split at found
    · cases found
    · exact wellformed.keyed other n found
  · intro seed declared
    change seed ∈ (state.pool.erase host).keys
    obtain ⟨n, found⟩ := (Dict.mem_keys_iff _ _).mp (wellformed.seeds seed declared)
    rw [Dict.mem_keys_iff]
    refine ⟨n, ?_⟩
    rw [Dict.get?_erase, if_neg fun same : seed = host => undeclared (same ▸ declared)]
    exact found
  · intro other n found foreign
    change (state.pool.erase host).get? other = some n at found
    rw [Dict.get?_erase] at found
    split at found
    · cases found
    · exact wellformed.members other n found foreign
  · intro n built
    change (state.pool.erase host).get? (state.node n).host = some n ∨
      n ∈ (state.pool.get? host).toList ++ state.departed
    rw [Dict.get?_erase, List.mem_append]
    obtain tracked | left := wellformed.tenants n built
    · by_cases same : (state.node n).host = host
      · right; left
        rw [← same, tracked]
        exact List.mem_singleton_self n
      · left
        rw [if_neg same]
        exact tracked
    · exact .inr (.inr left)
  · intro _ settled
    cases settled
  · exact newest

/-- Every permitted effect keeps the pool well formed. -/
theorem Wellformed.apply
    (wellformed : state.Wellformed)
    (permitted : state.Permits task effect) :
    (state.apply effect).Wellformed := by
  have newest := newest_apply permitted wellformed.newest
  by_cases leaves : effect.LeavesPool
  · exact wellformed.of_samePool (samePool_apply state leaves) newest
  · cases effect with
    | welcome host => exact wellformed.welcome permitted.2 newest
    | confirm host member => exact wellformed.confirm permitted.2 newest
    | remove host => exact wellformed.remove permitted.2.1 newest
    | discovered members =>
        exact ⟨wellformed.keyed, wellformed.seeds, wellformed.members, wellformed.tenants,
          fun _ _ host => permitted.2 host, newest⟩
    | _ => exact absurd trivial leaves

/-! ## A fresh connection -/

/-- The facts about a pool that tracks only seeds. -/
private structure Seeded (state : ConnectionState) : Prop where
  keyed : ∀ host n, state.pool.get? host = some n →
    n < state.count ∧ (state.node n).host = host
  tenants : ∀ n < state.count,
    state.pool.get? (state.node n).host = some n ∨ n ∈ state.departed
  unused : ∀ n, ∃ host ident clock, state.objects n = NodeObject.create host ident clock
  unknown : state.lastDiscovery = none
  complete : state.departed = []
  unswept : state.toSweep = none

private theorem Seeded.trackSeed
    (seeded : Seeded state)
    (host : String) :
    Seeded (state.trackSeed host) := by
  unfold ConnectionState.trackSeed
  split
  · exact seeded
  · next fresh =>
      refine ⟨keyed_track host false seeded.keyed, tenants_track false fresh seeded.tenants,
        fun n => ?_, seeded.unknown, seeded.complete, seeded.unswept⟩
      by_cases old : n = state.count
      · subst old
        exact ⟨host, state.count, state.reading, Function.update_self ..⟩
      · rw [objects_track_of_ne host false old]
        exact seeded.unused n

/-- Exactly the declared hosts are tracked as seeds. -/
private theorem mem_keys_foldl_trackSeed
    (hosts : List String)
    (state : ConnectionState)
    (host : String) :
    host ∈ (hosts.foldl ConnectionState.trackSeed state).pool.keys ↔
      host ∈ state.pool.keys ∨ host ∈ hosts := by
  induction hosts generalizing state with
  | nil => simp
  | cons declared rest inductionHypothesis =>
      have tracked : host ∈ (state.trackSeed declared).pool.keys ↔
          host ∈ state.pool.keys ∨ host = declared := by
        unfold ConnectionState.trackSeed
        split
        · next known =>
            constructor
            · exact .inl
            · rintro (old | rfl)
              · exact old
              · exact known
        · change host ∈ (state.pool.set declared state.count).keys ↔ _
          rw [Dict.mem_keys_set, or_comm]
      rw [List.foldl_cons, inductionHypothesis, tracked, List.mem_cons, or_assoc]

section Create

variable (spec : PoolSpec) (clock : Nat → ClockReading) (picks : Nat → Nat)

private theorem seeded_create : Seeded (create spec clock picks) := by
  have seeded : Seeded (spec.seedHosts.foldl ConnectionState.trackSeed
      { spec := spec
        objects := fun ident => NodeObject.create "" ident (clock 0)
        count := 0
        pool := Dict.empty
        seedHosts := []
        clock := clock
        picks := picks }) := by
    refine List.foldlRecOn spec.seedHosts ConnectionState.trackSeed (motive := Seeded) ?_ ?_
    · exact ⟨by simp, by simp, fun ident => ⟨_, _, _, rfl⟩, rfl, rfl, rfl⟩
    · exact fun _ before host _ => before.trackSeed host
  exact ⟨seeded.keyed, seeded.tenants, seeded.unused, seeded.unknown, seeded.complete,
    seeded.unswept⟩

/-- The nodes of a fresh connection have never been used. -/
theorem objects_create (n : Nat) :
    ∃ host ident reading,
      (create spec clock picks).objects n = NodeObject.create host ident reading :=
  (seeded_create spec clock picks).unused n

theorem departed_create : (create spec clock picks).departed = [] :=
  (seeded_create spec clock picks).complete

/-- The seeds of a connection are the declared hosts. -/
theorem mem_seedHosts_create (host : String) :
    host ∈ (create spec clock picks).seedHosts ↔ host ∈ spec.seedHosts := by
  rw [show (create spec clock picks).seedHosts = (create spec clock picks).pool.keys from rfl]
  exact (mem_keys_foldl_trackSeed spec.seedHosts _ host).trans (by simp [Dict.mem_keys_iff])

/-- A fresh connection is well formed. -/
theorem wellformed_create : (create spec clock picks).Wellformed := by
  have seeded := seeded_create spec clock picks
  refine ⟨seeded.keyed, fun _ declared => declared, ?_, seeded.tenants, ?_, ?_⟩
  · intro host n found foreign
    exact absurd ((Dict.mem_keys_iff _ _).mpr ⟨n, found⟩) foreign
  · intro known
    rw [seeded.unknown] at known
    cases known
  · intro n client current
    obtain ⟨host, ident, reading, unused⟩ := seeded.unused n
    rw [unused] at current
    cases current

end Create

end ConnectionState

end Promch
