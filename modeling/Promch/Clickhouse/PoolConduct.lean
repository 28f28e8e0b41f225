import Mathlib.Data.List.Dedup
import Mathlib.Data.List.Perm.Subperm
import Promch.Clickhouse.Conduct

/-!
# The conduct of the pool and of the connection facade

The programs of the pool are walked through on top of those of its nodes.  A
refresh holds the discovery lock from its first change of the pool to its last
one, so what it knows of the membership outlasts its pings and closes, and when
it completes the confirmed members are exactly those reported.
-/

namespace Promch

open EventLoop EventLoop.Coroutine

/-! ## Effects that leave the pool and the discovery lock alone -/

/-- An effect of a program that neither changes the pool nor uses the discovery
lock. -/
def ConnectionEffect.Quiet : ConnectionEffect → Prop
  | .node _ _ => True
  | .pick => True
  | .look => True
  | .examine _ _ => True
  | .fork _ => True
  | _ => False

/-- A change of one node. -/
def ConnectionEffect.IsNode : ConnectionEffect → Prop
  | .node _ _ => True
  | _ => False

theorem ConnectionEffect.Quiet.leavesPool
    {effect : ConnectionEffect}
    (quiet : effect.Quiet) :
    effect.LeavesPool := by
  cases effect with
  | node m change | pick | look | examine examiner nodes | fork calls => trivial
  | _ => exact quiet.elim

/-! ## What the calls of one node write -/

section Writes

variable {kind : ConnectionEffect → Prop} {n : Nat} (onNode : ∀ change, kind (.node n change))
include onNode

private theorem writes_connect : (connect n).Writes kind := by
  apply Writes.bind (writes_await _).attempt
  intro outcome
  cases outcome with
  | ok answer => exact writes_emit (onNode _)
  | error fault =>
      simp only
      split
      · apply Writes.bind (writes_emit (onNode _))
        intro _
        exact Writes.bind (writes_gets _) fun _ => writes_raise _
      · exact writes_raise _

omit onNode in
private theorem writes_currentClient : (currentClient n).Writes kind := by
  apply Writes.bind (writes_gets _)
  intro current
  cases current <;> trivial

theorem writes_ensureClient : (ensureClient n).Writes kind := by
  apply Writes.bind (writes_gets _)
  intro current
  split
  · refine Writes.bind (writes_withLock (fun _ => onNode _) ?_) fun _ => writes_currentClient
    apply Writes.bind (writes_gets _)
    intro unconnected
    split
    · exact writes_connect onNode
    · trivial
  · exact writes_currentClient

theorem writes_dropClient (own : Option Nat) : (dropClient n own).Writes kind := by
  apply Writes.bind (writes_gets _)
  intro current
  cases current with
  | none => trivial
  | some client =>
      apply Writes.bind (writes_emit (onNode _))
      intro _
      apply Writes.bind (writes_await _).attempt
      intro outcome
      cases outcome with
      | ok answer => trivial
      | error fault =>
          simp only
          split <;> trivial

theorem writes_query (sql : String) (timeout : Time) : (query n sql timeout).Writes kind := by
  apply Writes.bind (writes_ensureClient onNode)
  intro client
  have asked : (clientQuery n client sql timeout).Writes kind := by
    apply Writes.bind writes_currentTask
    intro task
    apply Writes.bind (writes_emit (onNode _))
    intro _
    apply Writes.bind (writes_await _).attempt
    intro answer
    exact Writes.bind (writes_emit (onNode _)) fun _ => writes_conclude answer
  apply Writes.bind asked.attempt
  intro outcome
  cases outcome with
  | ok result => exact Writes.bind (writes_emit (onNode _)) fun _ => writes_pure _
  | error fault =>
      cases fault with
      | driver error =>
          simp only
          split
          · apply Writes.bind (writes_emit (onNode _))
            intro _
            apply Writes.bind (writes_dropClient onNode (some client))
            intro _
            exact Writes.bind (writes_gets _) fun _ => writes_raise _
          · split
            · exact Writes.bind (writes_gets _) fun _ => writes_raise _
            · exact writes_raise _
      | raised exception | cancelled => exact writes_raise _

theorem writes_ping : (ping n).Writes kind := by
  have failed : ∀ (fault : Fault) (own : Option Nat),
      (if fault.isUnreachable then do
        emit (.node n (.markDown fault.message))
        dropClient n own
        return false
      else raise fault : Async Bool).Writes kind := by
    intro fault own
    split
    · apply Writes.bind (writes_emit (onNode _))
      intro _
      exact Writes.bind (writes_dropClient onNode own) fun _ => writes_pure _
    · exact writes_raise _
  apply Writes.bind (writes_ensureClient onNode).attempt
  intro connected
  cases connected with
  | error fault => exact failed fault none
  | ok client =>
      apply Writes.bind (writes_await _).attempt
      intro outcome
      cases outcome with
      | error fault => exact failed fault (some client)
      | ok alive => exact Writes.bind (writes_emit (onNode _)) fun _ => writes_pure _

theorem writes_closeNode (closer : Closer) : (closeNode closer n).Writes kind := by
  apply Writes.bind (writes_gets _)
  intro current
  cases current with
  | none => trivial
  | some client =>
      apply Writes.bind (writes_emit (onNode _))
      intro _
      apply Writes.bind (writes_await _)
      intro _
      exact writes_emit (onNode _)

end Writes

section Quiet

variable (n : Nat)

theorem quiet_query (sql : String) (timeout : Time) :
    (query n sql timeout).Writes ConnectionEffect.Quiet :=
  writes_query (fun _ => trivial) sql timeout

theorem quiet_ping : (ping n).Writes ConnectionEffect.Quiet :=
  writes_ping fun _ => trivial

theorem quiet_closeNode (closer : Closer) :
    (closeNode closer n).Writes ConnectionEffect.Quiet :=
  writes_closeNode (fun _ => trivial) closer

private theorem quiet_gather (calls : List ConnectionCall) :
    (gather calls).Writes ConnectionEffect.Quiet := by
  unfold gather
  split
  · trivial
  · exact ⟨trivial, fun _ _ => trivial⟩

theorem quiet_evictIdle (nodes : List Nat) :
    (evictIdle nodes).Writes ConnectionEffect.Quiet := by
  induction nodes with
  | nil => trivial
  | cons n rest inductionHypothesis =>
      apply Writes.bind (writes_gets _)
      intro node
      split
      · apply Writes.bind (writes_gets _)
        intro clock
        apply Writes.bind (writes_gets _)
        intro ttl
        apply Writes.bind (writes_emit trivial)
        intro _
        split
        · apply Writes.bind writes_currentTask
          intro task
          apply Writes.bind (writes_emit trivial)
          intro _
          exact Writes.bind (quiet_closeNode n .evict) fun _ => inductionHypothesis
        · exact inductionHypothesis
      · exact inductionHypothesis

theorem quiet_healthTick : healthTick.Writes ConnectionEffect.Quiet := by
  apply Writes.bind (writes_gets _)
  intro mode
  cases mode with
  | passive =>
      apply Writes.bind (writes_gets _)
      intro nodes
      apply Writes.bind writes_currentTask
      intro task
      apply Writes.bind (writes_emit trivial)
      intro _
      apply Writes.bind (writes_gets _)
      intro dead
      exact Writes.bind (quiet_gather _) fun _ => quiet_evictIdle nodes
  | active =>
      apply Writes.bind (writes_gets _)
      intro nodes
      exact Writes.bind (quiet_gather _) fun _ => writes_pure _

end Quiet

namespace Precautions

variable {precautions : Precautions} {state : ConnectionState}

/-- Only the nodes that a pass examines decide whether it is careful. -/
theorem Careful.congr
    {later : ConnectionState}
    {nodes : List Nat}
    {reading : Nat}
    (careful : precautions.Careful state nodes reading)
    (clock : later.clock = state.clock)
    (spec : later.spec = state.spec)
    (objects : ∀ n ∈ nodes, later.objects n = state.objects n) :
    precautions.Careful later nodes reading := by
  induction nodes generalizing reading with
  | nil => trivial
  | cons n rest inductionHypothesis =>
      have objectEq := objects n List.mem_cons_self
      have nodeEq : later.node n = state.node n := congrArg NodeObject.node objectEq
      have objectsRest : ∀ m ∈ rest, later.objects m = state.objects m :=
        fun m member => objects m (List.mem_cons_of_mem _ member)
      simp only [Careful, clock, spec, nodeEq, objectEq] at careful ⊢
      split at careful
      · next eligible =>
          rw [if_pos eligible]
          split at careful
          · next idle => rwa [if_pos idle]
          · next recent =>
              rw [if_neg recent]
              exact inductionHypothesis careful objectsRest
      · next ineligible =>
          rw [if_neg ineligible]
          exact inductionHypothesis careful objectsRest

/-- Where every client may be found idle, every pass is careful. -/
theorem careful_of_mayEvict
    (mayEvict : ∀ object, precautions.mayEvict object)
    (nodes : List Nat)
    (reading : Nat) :
    precautions.Careful state nodes reading := by
  induction nodes generalizing reading with
  | nil => trivial
  | cons n rest inductionHypothesis =>
      simp only [Careful]
      split
      · split
        · exact mayEvict _
        · exact inductionHypothesis _
      · exact inductionHypothesis _

/-- The discovery lock has nothing to do with what a pass finds. -/
theorem MayPass.discoveryLock
    (mayPass : precautions.MayPass state)
    (op : LockOp) :
    precautions.MayPass (state.apply (.discoveryLock op)) :=
  mayPass.congr rfl rfl fun _ _ => rfl

end Precautions

namespace ConnectionState

variable {state : ConnectionState} {n : Nat}

theorem mem_tracked_iff : n ∈ state.tracked ↔ ∃ host, state.pool.get? host = some n := by
  constructor
  · intro tracked
    obtain ⟨⟨host, m⟩, member, rfl⟩ := List.mem_map.mp tracked
    exact ⟨host, (Dict.mem_entries_iff _ _ _).mp member⟩
  · rintro ⟨host, found⟩
    exact List.mem_map.mpr ⟨(host, n), (Dict.mem_entries_iff _ _ _).mpr found, rfl⟩

/-- The tracked nodes exist. -/
theorem Wellformed.tracked_lt
    (wellformed : state.Wellformed)
    (tracked : n ∈ state.tracked) :
    n < state.count := by
  obtain ⟨host, found⟩ := mem_tracked_iff.mp tracked
  exact (wellformed.keyed host n found).1

/-- No node is tracked twice. -/
theorem Wellformed.tracked_nodup (wellformed : state.Wellformed) :
    state.tracked.Nodup := by
  apply List.Nodup.of_map (fun n => (state.node n).host)
  have hosts : state.tracked.map (fun n => (state.node n).host) = state.pool.keys := by
    rw [tracked, Dict.values, Dict.keys, List.map_map]
    apply List.map_congr_left
    intro entry member
    exact (wellformed.keyed entry.1 entry.2 ((Dict.mem_entries_iff _ _ _).mp member)).2
  rw [hosts]
  exact state.pool.nodup_keys

end ConnectionState

namespace Policy

variable {policy : Policy} {task n : Nat} {state : ConnectionState}

/-- The number of nodes never falls while a program runs. -/
theorem safe_counting
    {program : Async α}
    {goal : Except Fault α → ConnectionState → Prop}
    (invariant : policy.contract.inv state)
    (safe : policy.contract.Safe task program
      (fun outcome later => policy.contract.inv later → state.count ≤ later.count →
        goal outcome later) state) :
    policy.contract.Safe task program goal state :=
  Contract.Safe.using
    (fun _ _ _ _ _ grown => Nat.le_trans grown ConnectionState.count_le_apply)
    invariant (Nat.le_refl _) safe

/-- A quiet program that holds the discovery lock still holds it afterwards,
and the membership is as it was. -/
theorem safe_undisturbed
    {program : Async α}
    {goal : Except Fault α → ConnectionState → Prop}
    (fact : ConnectionState → Prop)
    (insensitive : ∀ before after, ConnectionState.SamePool before after →
      fact before → fact after)
    (quiet : program.Writes ConnectionEffect.Quiet)
    (invariant : policy.contract.inv state)
    (held : state.discoveryLock.holder = some task)
    (holds : fact state)
    (safe : policy.contract.Safe task program
      (fun outcome later => later.discoveryLock.holder = some task → fact later →
        goal outcome later) state) :
    policy.contract.Safe task program goal state := by
  have framed := Contract.Safe.frame
    (fun later => later.discoveryLock.holder = some task ∧ fact later) safe quiet ?_ ?_
    ⟨held, holds⟩
  · exact framed.mono invariant fun _ _ _ both => both.1 both.2.1 both.2.2
  · intro other effect before different _ permitted both
    have leaves := ConnectionState.leavesPool_of_held permitted.1 different both.1
    exact ⟨ConnectionState.discoveryHolder_apply permitted.1 different both.1,
      insensitive _ _ (ConnectionState.samePool_apply _ leaves) both.2⟩
  · intro effect before quiet _ both
    refine ⟨?_, insensitive _ _ (ConnectionState.samePool_apply _ quiet.leavesPool) both.2⟩
    cases effect with
    | node m change | pick | look | examine examiner nodes | fork calls => exact both.1
    | _ => exact quiet.elim

/-! ## Liveness -/

/-- Running calls in parallel; nothing is awaited when there are none. -/
theorem safe_gather
    {calls : List ConnectionCall}
    {goal : Except Fault (List ConnectionValue) → ConnectionState → Prop}
    (found : ∀ call ∈ calls, state.Exists call)
    (none : calls = [] → goal (.ok []) state)
    (joined : ∀ outcome later, policy.contract.inv later →
      policy.Allowed task (.joined outcome.isOk) later →
      later.examining task = state.examining task →
      state.count ≤ later.count → goal outcome later) :
    policy.contract.Safe task (gather calls) goal state := by
  unfold gather
  split
  · next empty => exact none (List.isEmpty_iff.mp empty)
  · apply Contract.safe_emitAndJoin (fun later =>
      later.examining task = state.examining task ∧ state.count ≤ later.count)
    · intro other effect before different _ permitted both
      exact ⟨(ConnectionState.examining_apply permitted.1 different).trans both.1,
        Nat.le_trans both.2 ConnectionState.count_le_apply⟩
    · exact ⟨found, trivial⟩
    · trivial
    · exact ⟨rfl, Nat.le_refl _⟩
    · exact fun later outcome invariant _ both allowed =>
        joined outcome later invariant allowed both.1 both.2

/-- Evicting the client of a node that has one; when its `close` has returned, the
pass goes on with care. -/
private theorem safe_evict
    {rest : List Nat}
    {goal : Except Fault Unit → ConnectionState → Prop}
    (invariant : policy.contract.inv state)
    (built : n < state.count)
    (fresh : n ∉ rest)
    (connected : state.client n ≠ none)
    (mayEvict : policy.mayEvict (state.objects n))
    (continues : ∀ later, policy.contract.inv later → state.count ≤ later.count →
      policy.Careful later rest later.readings → goal (.ok ()) later)
    (failed : ∀ fault later, goal (.error fault) later) :
    policy.contract.Safe task (closeNode .evict n) goal
      (state.apply (.examine task rest)) := by
  have permitted : policy.contract.may task (.examine task rest) state := ⟨rfl, trivial⟩
  have invariantExamined := policy.contract.keeps invariant permitted
  have examined : (state.apply (.examine task rest)).examining task = rest :=
    Function.update_self ..
  have closing : policy.contract.Safe task (closeNode .evict n)
      (fun outcome later => later.examining task = rest → policy.contract.inv later →
        state.count ≤ later.count → goal outcome later)
      (state.apply (.examine task rest)) := by
    apply safe_closeNode (by decide) (by exact built)
    · exact fun _ _ => mayEvict
    · exact fun unconnected => absurd unconnected connected
    · intro client later _ allowed examining invariantLater grown
      apply continues _ invariantLater grown
      have carefulLater := allowed.2 rfl
      rw [show later.examining task = rest from examining] at carefulLater
      refine carefulLater.congr (by rfl) (by rfl) fun m member => ?_
      exact Function.update_of_ne (fun same : m = n => fresh (same ▸ member)) ..
    · exact fun _ fault later _ _ _ _ _ => failed fault later
  apply safe_counting invariantExamined
  have isNode : (closeNode .evict n).Writes ConnectionEffect.IsNode :=
    writes_closeNode (fun _ => trivial) .evict
  have framed := Contract.Safe.frame (fun later => later.examining task = rest) closing
    isNode ?_ ?_ examined
  · exact framed.mono invariantExamined fun _ _ _ both => both.1 both.2
  · intro other effect before different _ permitted examining
    exact (ConnectionState.examining_apply permitted.1 different).trans examining
  · intro effect before isNode _ examining
    cases effect with
    | node m change => exact examining
    | _ => exact isNode.elim

/-- Evicting idle clients, provided that the pass is careful. -/
private theorem safe_evictIdle
    {nodes : List Nat}
    {goal : Except Fault Unit → ConnectionState → Prop}
    (invariant : policy.contract.inv state)
    (built : ∀ n ∈ nodes, n < state.count)
    (nodup : nodes.Nodup)
    (careful : policy.Careful state nodes state.readings)
    (finished : ∀ outcome later, goal outcome later) :
    policy.contract.Safe task (evictIdle nodes) goal state := by
  induction nodes generalizing state with
  | nil => exact finished _ _
  | cons n rest inductionHypothesis =>
      have builtRest : ∀ m ∈ rest, m < state.count :=
        fun m member => built m (List.mem_cons_of_mem _ member)
      obtain ⟨fresh, nodupRest⟩ := List.nodup_cons.mp nodup
      simp only [evictIdle, Contract.safe_bind, Contract.safe_gets, Contract.safe_andThen_ok]
      simp only [Precautions.Careful] at careful
      split
      · next eligible =>
          rw [if_pos eligible] at careful
          have permitted : policy.contract.may task .look state := ⟨trivial, trivial⟩
          have invariantLooked := policy.contract.keeps invariant permitted
          simp only [Contract.safe_bind, Contract.safe_gets, Contract.safe_emit,
            Contract.safe_andThen_ok]
          refine ⟨permitted, ?_⟩
          split
          · next idle =>
              have mayEvict : policy.mayEvict (state.objects n) := by
                rwa [if_pos (by exact idle)] at careful
              have connected : state.client n ≠ none :=
                Option.isSome_iff_ne_none.mp (Bool.and_eq_true_iff.mp eligible).2
              simp only [Contract.safe_bind, Contract.safe_currentTask, Contract.safe_emit,
                Contract.safe_andThen_ok]
              refine ⟨⟨rfl, trivial⟩, ?_⟩
              refine safe_evict invariantLooked (by exact built n List.mem_cons_self) fresh
                (by exact connected) (by exact mayEvict) ?_ fun _ _ => finished _ _
              intro later invariantLater grown carefulLater
              apply inductionHypothesis invariantLater _ nodupRest carefulLater
              exact fun m member => Nat.lt_of_lt_of_le (builtRest m member) grown
          · next recent =>
              have carefulLooked : policy.Careful (state.apply .look) rest
                  (state.apply .look).readings := by
                rw [if_neg (by exact recent)] at careful
                exact careful.congr rfl rfl fun _ _ => rfl
              exact inductionHypothesis invariantLooked builtRest nodupRest carefulLooked
      · next ineligible =>
          rw [if_neg ineligible] at careful
          exact inductionHypothesis invariant builtRest nodupRest careful

theorem safe_recheckDead
    {goal : Except Fault Unit → ConnectionState → Prop}
    (invariant : policy.contract.inv state)
    (mayPass : policy.MayPass state)
    (finished : ∀ outcome later, goal outcome later) :
    policy.contract.Safe task recheckDead goal state := by
  have permitted : policy.contract.may task (.examine task state.tracked) state :=
    ⟨rfl, trivial⟩
  have invariantExamined := policy.contract.keeps invariant permitted
  have built : ∀ n ∈ state.tracked, n < state.count :=
    fun n member => invariant.1.tracked_lt member
  simp only [recheckDead, Contract.safe_bind, Contract.safe_gets, Contract.safe_currentTask,
    Contract.safe_emit, Contract.safe_andThen_ok]
  refine ⟨permitted, ?_⟩
  apply safe_gather
  · intro call member
    obtain ⟨n, dead, rfl⟩ := List.mem_map.mp member
    rintro _ ⟨rfl⟩
    exact built n (List.mem_of_mem_filter dead)
  · intro nobody
    refine safe_evictIdle invariantExamined built invariant.1.tracked_nodup ?_ finished
    have alive : (state.tracked.all fun n => (state.node n).alive) = true := by
      refine List.all_eq_true.mpr fun n tracked => ?_
      have notDead := List.filter_eq_nil_iff.mp (List.map_eq_nil_iff.mp nobody) n tracked
      simpa [connectionLoop, ConnectionState.apply, ConnectionState.node] using notDead
    rw [Precautions.MayPass, ConnectionState.examinedAtOnce, if_pos alive] at mayPass
    exact mayPass.congr rfl rfl fun _ _ => rfl
  · intro outcome later invariantLater allowed examining grown
    cases outcome with
    | ok results =>
        have careful : policy.Careful later (later.examining task) later.readings := allowed
        rw [examining] at careful
        refine safe_evictIdle invariantLater ?_ invariant.1.tracked_nodup ?_ finished
        · exact fun n member => Nat.lt_of_lt_of_le (built n member) grown
        · simpa [connectionLoop, ConnectionState.apply] using careful
    | error fault => exact finished _ _

theorem safe_checkAll
    {goal : Except Fault Unit → ConnectionState → Prop}
    (invariant : policy.contract.inv state)
    (finished : ∀ outcome later, goal outcome later) :
    policy.contract.Safe task checkAll goal state := by
  simp only [checkAll, Contract.safe_bind, Contract.safe_gets, Contract.safe_andThen_ok]
  apply safe_gather
  · intro call member
    obtain ⟨n, tracked, rfl⟩ := List.mem_map.mp member
    rintro _ ⟨rfl⟩
    exact invariant.1.tracked_lt tracked
  · exact fun _ => finished _ _
  · intro outcome later _ _ _ _
    cases outcome <;> exact finished _ _

theorem safe_healthTick
    {goal : Except Fault Unit → ConnectionState → Prop}
    (invariant : policy.contract.inv state)
    (mayPass : policy.MayPass state)
    (finished : ∀ outcome later, goal outcome later) :
    policy.contract.Safe task healthTick goal state := by
  simp only [healthTick, Contract.safe_bind, Contract.safe_gets, Contract.safe_andThen_ok]
  cases state.spec.livenessMode with
  | passive => exact safe_recheckDead invariant mayPass finished
  | active => exact safe_checkAll invariant finished

end Policy

end Promch
