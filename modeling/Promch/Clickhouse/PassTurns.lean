import Promch.Clickhouse.PoolConduct

/-!
# The turns of passes and queries

Where a query of a node sends its query: in the turn in which it begins, gets the
client lock, or gets a client of the factory.  Liveness passes and pings send none,
and a pass that closes a client as idle records who is using it.
-/

namespace Promch

open EventLoop EventLoop.Coroutine

/-- The node that an effect sends a query to. -/
def ConnectionEffect.sendsTo? : ConnectionEffect → Option Nat
  | .node n (.sendQuery _ _) => some n
  | _ => none

/-- The tasks that an effect creates are pings. -/
def ConnectionEffect.ForksPings : ConnectionEffect → Prop
  | .fork calls => ∀ call ∈ calls, ∃ n, call = .ping n
  | _ => True

/-- The client of a node that a request closes as idle. -/
def ConnectionRequest.evicts? : ConnectionRequest → Option (Nat × Nat)
  | .close .evict n client => some (n, client)
  | _ => none

/-- The node that a call queries. -/
def ConnectionCall.queried? : ConnectionCall → Option Nat
  | .query n _ _ => some n
  | _ => none

/-- A query takes a client of its node when it begins, when it gets the client lock,
or when the factory returns one. -/
def TakesClient (n : Nat) : ConnectionCause → Prop
  | .began _ => True
  | .answered (.clientTurn m) (.ok _) => m = n
  | .answered (.factory m) (.ok _) => m = n
  | _ => False

/-- Queries are only sent by query calls, in the turns in which they take a client; and
a turn that ends with the `close` of an idle client has recorded who is using it. -/
def passRule (call : ConnectionCall) :
    TurnRule ConnectionState ConnectionEffect ConnectionRequest ConnectionRequest.Answer
      ConnectionCall Fault where
  may cause effect :=
    (∀ n, effect.sendsTo? = some n → call.queried? = some n ∧ TakesClient n cause) ∧
      effect.ForksPings
  rests request state :=
    ∀ n client, request.evicts? = some (n, client) →
      state.client n = some client ∧
        (client, (state.objects n).busy client) ∈ (state.objects n).evictions

section Programs

variable {call : ConnectionCall} {n : Nat} {cause : ConnectionCause} {state : ConnectionState}

private theorem may_of_quiet
    {effect : ConnectionEffect}
    (sends : effect.sendsTo? = none)
    (forks : effect.ForksPings) :
    (passRule call).may cause effect := by
  refine ⟨fun n same => ?_, forks⟩
  rw [sends] at same
  cases same

private theorem may_lock (op : LockOp) : (passRule call).may cause (.node n (.lock op)) :=
  may_of_quiet rfl trivial

/-- Where nothing is closed as idle there is nothing to be said. -/
private theorem rests_of_none
    {request : ConnectionRequest}
    (closesNone : request.evicts? = none) :
    (passRule call).rests request state := by
  intro n client same
  rw [closesNone] at same
  cases same

private theorem obeys_connectIfNone
    {goal : Except Fault Unit → ConnectionCause → ConnectionState → Prop}
    (got : ∀ later after, later = cause ∨ TakesClient n later → goal (.ok ()) later after)
    (failed : ∀ fault later after, goal (.error fault) later after) :
    (connectIfNone n).Obeys connectionLoop (passRule call) goal cause state := by
  simp only [connectIfNone, clientOf, obeys_bind, obeys_gets, obeys_andThen_ok]
  split
  · simp only [connect, obeys_bind, obeys_attempt, obeys_await]
    refine ⟨rests_of_none rfl, fun outcome later => ?_⟩
    cases outcome with
    | ok answer =>
        simp only [obeys_andThen_ok, obeys_emit]
        exact ⟨may_of_quiet rfl trivial, got _ _ (.inr rfl)⟩
    | error fault =>
        simp only [obeys_andThen_ok]
        split
        · simp only [hostOf, obeys_bind, obeys_emit, obeys_andThen_ok, obeys_gets, obeys_raise]
          exact ⟨may_of_quiet rfl trivial, failed _ _ _⟩
        · exact failed _ _ _
  · exact got _ _ (.inl rfl)

private theorem obeys_ensureClient
    {goal : Except Fault Nat → ConnectionCause → ConnectionState → Prop}
    (got : ∀ client later after, later = cause ∨ TakesClient n later →
      goal (.ok client) later after)
    (failed : ∀ fault later after, goal (.error fault) later after) :
    (ensureClient n).Obeys connectionLoop (passRule call) goal cause state := by
  have finish : ∀ later after, later = cause ∨ TakesClient n later →
      (currentClient n).Obeys connectionLoop (passRule call) goal later after := by
    intro later after known
    simp only [currentClient, clientOf, obeys_bind, obeys_gets, obeys_andThen_ok]
    split
    · exact got _ _ _ known
    · exact failed _ _ _
  simp only [ensureClient, clientOf, obeys_bind, obeys_gets, obeys_andThen_ok]
  split
  · simp only [withClientLock, obeys_bind]
    apply obeys_withLock
    · exact fun _ _ => may_lock _
    · exact fun _ => rests_of_none rfl
    · rintro later after (rfl | ⟨value, rfl⟩)
      · exact obeys_connectIfNone (fun _ _ known => ⟨may_lock _, finish _ _ known⟩)
          fun _ _ _ => ⟨may_lock _, failed _ _ _⟩
      · refine obeys_connectIfNone (fun last _ known => ⟨may_lock _, finish _ _ (.inr ?_)⟩)
          fun _ _ _ => ⟨may_lock _, failed _ _ _⟩
        obtain rfl | takes := known
        · rfl
        · exact takes
    · exact fun _ _ => failed _ _ _
  · exact finish _ _ (.inl rfl)

private theorem obeys_dropClient
    {own : Option Nat}
    {goal : Except Fault Unit → ConnectionCause → ConnectionState → Prop}
    (finished : ∀ outcome later after, goal outcome later after) :
    (dropClient n own).Obeys connectionLoop (passRule call) goal cause state := by
  simp only [dropClient, clientOf, obeys_bind, obeys_gets, obeys_andThen_ok]
  split
  · exact finished _ _ _
  · simp only [obeys_bind, obeys_emit, obeys_andThen_ok, obeys_attempt, obeys_await]
    refine ⟨may_of_quiet rfl trivial, rests_of_none rfl, fun outcome later => ?_⟩
    cases outcome with
    | ok answer => exact finished _ _ _
    | error fault =>
        simp only
        split <;> exact finished _ _ _

private theorem obeys_ping
    {goal : Except Fault Bool → ConnectionCause → ConnectionState → Prop}
    (finished : ∀ outcome later after, goal outcome later after) :
    (ping n).Obeys connectionLoop (passRule call) goal cause state := by
  have failed : ∀ (fault : Fault) (own : Option Nat) later after,
      (if fault.isUnreachable then do
        emit (.node n (.markDown fault.message))
        dropClient n own
        return false
      else raise fault : Async Bool).Obeys connectionLoop (passRule call) goal later after := by
    intro fault own later after
    split
    · simp only [obeys_bind, obeys_emit, obeys_andThen_ok]
      refine ⟨may_of_quiet rfl trivial, obeys_dropClient fun outcome _ _ => ?_⟩
      cases outcome <;> exact finished _ _ _
    · exact finished _ _ _
  simp only [ping, obeys_bind, obeys_attempt]
  apply obeys_ensureClient
  · intro client later after _
    simp only [obeys_andThen_ok, obeys_bind, obeys_attempt, obeys_await]
    refine ⟨rests_of_none rfl, fun outcome last => ?_⟩
    cases outcome with
    | ok alive =>
        simp only [obeys_bind, obeys_emit, obeys_andThen_ok]
        exact ⟨may_of_quiet rfl trivial, finished _ _ _⟩
    | error fault => exact failed fault (some client) _ _
  · exact fun fault later after => failed fault none later after

private theorem obeys_clientQuery
    {client : Nat}
    {sql : String}
    {timeout : Time}
    {goal : Except Fault QueryResultSet → ConnectionCause → ConnectionState → Prop}
    (own : call.queried? = some n)
    (takes : TakesClient n cause)
    (finished : ∀ outcome later after, goal outcome later after) :
    (clientQuery n client sql timeout).Obeys connectionLoop (passRule call) goal cause
      state := by
  simp only [clientQuery, obeys_bind, obeys_currentTask, obeys_emit, obeys_andThen_ok,
    obeys_attempt, obeys_await]
  intro task
  refine ⟨⟨?_, trivial⟩, rests_of_none rfl, fun outcome later =>
    ⟨may_of_quiet rfl trivial, finished _ _ _⟩⟩
  rintro m ⟨rfl⟩
  exact ⟨own, takes⟩

private theorem obeys_query
    {sql : String}
    {timeout : Time}
    {goal : Except Fault (List Row) → ConnectionCause → ConnectionState → Prop}
    (own : call.queried? = some n)
    (takes : TakesClient n cause)
    (finished : ∀ outcome later after, goal outcome later after) :
    (query n sql timeout).Obeys connectionLoop (passRule call) goal cause state := by
  simp only [query, obeys_bind]
  apply obeys_ensureClient
  · intro client later after known
    have takesLater : TakesClient n later := known.elim (fun same => same ▸ takes) id
    simp only [obeys_andThen_ok, obeys_bind, obeys_attempt]
    refine obeys_clientQuery own takesLater fun outcome _ _ => ?_
    cases outcome with
    | ok result =>
        simp only [obeys_bind, obeys_emit, obeys_andThen_ok]
        exact ⟨may_of_quiet rfl trivial, finished _ _ _⟩
    | error fault =>
        cases fault with
        | driver error =>
            simp only
            split
            · simp only [obeys_bind, obeys_emit, obeys_andThen_ok]
              refine ⟨may_of_quiet rfl trivial, obeys_dropClient fun dropped _ _ => ?_⟩
              cases dropped <;> exact finished _ _ _
            · split <;> exact finished _ _ _
        | raised exception | cancelled => exact finished _ _ _
  · exact fun _ _ _ => finished _ _ _

private theorem obeys_closeIdle
    {goal : Except Fault Unit → ConnectionCause → ConnectionState → Prop}
    (finished : ∀ outcome later after, goal outcome later after) :
    (closeNode .evict n).Obeys connectionLoop (passRule call) goal cause state := by
  simp only [closeNode, clientOf, obeys_bind, obeys_gets, obeys_andThen_ok]
  split
  · exact finished _ _ _
  · next client current =>
      simp only [obeys_bind, obeys_emit, obeys_andThen_ok, obeys_await]
      refine ⟨may_of_quiet rfl trivial, ?_, fun outcome later => ?_⟩
      · rintro _ _ ⟨rfl, rfl⟩
        simp only [connectionLoop, ConnectionState.client, ConnectionState.objects_apply_node]
        change ((state.objects n).callClose .evict).client = some client ∧
          (client, ((state.objects n).callClose .evict).busy client) ∈
            ((state.objects n).callClose .evict).evictions
        rw [NodeObject.callClose, show (state.objects n).client = some client from current]
        exact ⟨current, List.mem_cons_self⟩
      · cases outcome with
        | ok answer =>
            rw [obeys_andThen_ok, obeys_emit]
            exact ⟨may_of_quiet rfl trivial, finished _ _ _⟩
        | error fault => exact finished _ _ _

private theorem obeys_evictIdle
    {nodes : List Nat}
    {goal : Except Fault Unit → ConnectionCause → ConnectionState → Prop}
    (finished : ∀ outcome later after, goal outcome later after) :
    (evictIdle nodes).Obeys connectionLoop (passRule call) goal cause state := by
  induction nodes generalizing cause state with
  | nil => exact finished _ _ _
  | cons n rest inductionHypothesis =>
      simp only [evictIdle, obeys_bind, obeys_gets, obeys_andThen_ok]
      split
      · simp only [obeys_bind, obeys_gets, obeys_emit, obeys_andThen_ok]
        refine ⟨may_of_quiet rfl trivial, ?_⟩
        split
        · simp only [obeys_bind, obeys_currentTask, obeys_emit, obeys_andThen_ok]
          refine fun task => ⟨may_of_quiet rfl trivial, ?_⟩
          refine obeys_closeIdle fun outcome _ _ => ?_
          cases outcome with
          | ok answer => exact inductionHypothesis
          | error fault => exact finished _ _ _
        · exact inductionHypothesis
      · exact inductionHypothesis

private theorem obeys_recheckDead
    {goal : Except Fault Unit → ConnectionCause → ConnectionState → Prop}
    (finished : ∀ outcome later after, goal outcome later after) :
    recheckDead.Obeys connectionLoop (passRule call) goal cause state := by
  simp only [recheckDead, obeys_bind, obeys_gets, obeys_andThen_ok, obeys_currentTask,
    obeys_emit]
  refine fun task => ⟨may_of_quiet rfl trivial, ?_⟩
  unfold gather
  split
  · exact obeys_evictIdle finished
  · rw [obeys_emitAndJoin]
    refine ⟨may_of_quiet rfl ?_, fun outcome later => ?_⟩
    · intro made member
      obtain ⟨n, _, rfl⟩ := List.mem_map.mp member
      exact ⟨n, rfl⟩
    · cases outcome with
      | ok results => exact obeys_evictIdle finished
      | error fault => exact finished _ _ _

end Programs

/-- A liveness pass over the dead and idle nodes, a query of a node, or a ping. -/
def ConnectionCall.IsOfPasses : ConnectionCall → Prop
  | .recheckDead => True
  | .query _ _ _ => True
  | .ping _ => True
  | _ => False

/-- Liveness passes and queries keep to the rule. -/
def passRegime : Regime connectionLoop where
  among call := call.IsOfPasses
  rule := passRule
  bodies {call} state among := by
    have ended : ∀ {α : Type} (wrap : α → ConnectionValue) (program : Async α),
        (∀ goal, (∀ outcome later after, goal outcome later after) →
          program.Obeys connectionLoop (passRule call) goal (.began call) state) →
        (do return wrap (← program)).Obeys connectionLoop (passRule call)
          (fun _ _ _ => True) (.began call) state := by
      intro α wrap program obeys
      rw [obeys_bind]
      apply obeys
      intro outcome later after
      cases outcome <;> trivial
    cases call with
    | query n sql timeout => exact ended .rows _ fun _ => obeys_query rfl trivial
    | ping n => exact ended .pinged _ fun _ => obeys_ping
    | recheckDead => exact ended (fun _ => .nothing) _ fun _ => obeys_recheckDead
    | _ => exact among.elim
  forked {call cause effect} state among ruled other member := by
    cases effect with
    | fork calls =>
        obtain ⟨n, rfl⟩ := ruled.2 other member
        trivial
    | _ => cases member

end Promch
