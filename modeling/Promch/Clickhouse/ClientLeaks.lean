import Promch.Clickhouse.FacadeConduct

/-!
# Clients that are not lost

A client that the factory returned is closed or still the current client of its
node.  A `close` of a node loses a client when another one took its place while
the `close` was awaited, for it then leaves the node without a client.  A
connection that has been closed has no open client left, unless a client is
created where the closing pass has already been.
-/

namespace Promch

open EventLoop

namespace NodeObject

/-- Every client that the factory returned has been closed or is the current
client. -/
def LosesNoClient (object : NodeObject) : Prop :=
  ∀ client < object.made, client ∈ object.closed ∨ object.client = some client

/-- The `close` of the current client, if there is one, has been called. -/
def HasNoOpenClient (object : NodeObject) : Prop :=
  ∀ client ∈ object.client, client ∈ object.closed

instance (object : NodeObject) : Decidable object.HasNoOpenClient :=
  inferInstanceAs (Decidable (∀ client ∈ object.client, client ∈ object.closed))

variable {object : NodeObject} {task : Nat} {change : NodeEffect} {clock : ClockReading}

theorem losesNoClient_create (host : String) (ident : Nat) (clock : ClockReading) :
    (NodeObject.create host ident clock).LosesNoClient :=
  fun _ below => absurd below (Nat.not_lt_zero _)

/-- A node without an open client has none that is open at all. -/
theorem LosesNoClient.closed
    (losesNone : object.LosesNoClient)
    (noneOpen : object.HasNoOpenClient)
    {client : Nat}
    (made : client < object.made) :
    client ∈ object.closed :=
  (losesNone client made).elim id (noneOpen client)

/-- Every permitted change of a node keeps its clients, as long as only closed
clients are forgotten. -/
theorem LosesNoClient.apply
    (losesNone : object.LosesNoClient)
    (permitted : object.Permits task change)
    (forgets : ∀ client, change = .forget client → object.HasNoOpenClient) :
    (object.apply clock change).LosesNoClient := by
  intro client made
  cases change with
  | connect =>
      by_cases newest : client = object.made
      · exact .inr (congrArg some newest.symm)
      · left
        apply losesNone.closed _ (Nat.lt_of_le_of_ne (Nat.le_of_lt_succ made) newest)
        intro other current
        cases permitted.2.symm.trans current
  | discard own =>
      simp only [NodeObject.apply, discard] at made ⊢
      cases current : object.client with
      | none =>
          simp only [current] at made ⊢
          exact (losesNone client made).imp_right fun same => current ▸ same
      | some last =>
          simp only [current] at made ⊢
          left
          obtain closed | same := losesNone client made
          · exact List.mem_cons_of_mem _ closed
          · cases current.symm.trans same
            exact List.mem_cons_self
  | callClose closer =>
      simp only [NodeObject.apply, callClose] at made ⊢
      cases current : object.client with
      | none =>
          simp only [current] at made ⊢
          exact (losesNone client made).imp_right fun same => current ▸ same
      | some last =>
          simp only [current] at made ⊢
          obtain closed | same := losesNone client made
          · exact .inl (List.mem_cons_of_mem _ closed)
          · exact .inr same
  | forget last => exact .inl (losesNone.closed (forgets last rfl) made)
  | _ => exact losesNone client made

/-- Only the factory makes an open client current. -/
theorem HasNoOpenClient.apply
    (noneOpen : object.HasNoOpenClient)
    (connects : change ≠ .connect) :
    (object.apply clock change).HasNoOpenClient := by
  intro client current
  cases change with
  | connect => exact absurd rfl connects
  | discard own =>
      simp only [NodeObject.apply, discard] at current ⊢
      split at current
      · exact noneOpen client current
      · cases current
  | callClose closer =>
      simp only [NodeObject.apply, callClose] at current ⊢
      split at current
      · exact noneOpen client current
      · exact List.mem_cons_of_mem _ (noneOpen client current)
  | forget last => cases current
  | _ => exact noneOpen client current

end NodeObject

/-! ## One node -/

/-- No client of any node is lost, as long as the `close` of a client that a node's
`close` awaits returns only when the node has no open client. -/
def leakPolicy : Policy where
  mayForget _ object := object.HasNoOpenClient
  inv state := ∀ n, (state.objects n).LosesNoClient
  keeps {task effect state} _ losesNone permitted respects := by
    intro n
    obtain ⟨change, rfl, after⟩ | after | ⟨_, _, _, _, after⟩ | ⟨host, _, _, after⟩ :=
      state.objects_apply_cases effect n
    · rw [after]
      apply (losesNone n).apply permitted.2
      rintro client rfl
      exact respects
    · rw [after]
      exact losesNone n
    · rw [after]
      exact losesNone n
    · rw [after]
      exact NodeObject.losesNoClient_create host n state.reading

/-- The condition under which nodes lose no client: whenever the `close` of a
client that a node's `close` awaits returns, the current client of the node, if it
has one by then, is one whose `close` has been called. -/
def closesTheCurrentClient (system : ConnectionSystem) : ConnectionAction → Bool
  | .start call => system.state.Exists call
  | .answer _ (.close closer n _) (.ok _) =>
      closer ≠ .drop → (system.state.objects n).HasNoOpenClient
  | _ => true

private theorem leakPolicy_permits
    {system : ConnectionSystem}
    {action : ConnectionAction}
    (met : closesTheCurrentClient system action = true) :
    leakPolicy.contract.Permits system action := by
  apply leakPolicy.permits_of_precautions
  · exact fun _ => trivial
  · rintro call rfl
    exact of_decide_eq_true met
  · exact fun _ _ _ => trivial
  · rintro task closer n client closes rfl
    exact of_decide_eq_true met closes
  · exact fun _ _ _ _ _ => trivial
  · exact fun _ _ _ _ _ _ _ _ => trivial
  · exact fun _ _ _ _ _ _ => trivial

section Runs

variable {spec : PoolSpec} {clock : Nat → ClockReading} {picks : Nat → Nat}
variable {system : ConnectionSystem}

/-- A node never leaks a client: in every state, every client that the factory
returned for it has been closed or is its current client. -/
theorem node_keeps_or_closes_every_client
    (reaches : connectionLoop.Reaches
      (fun before action => closesTheCurrentClient before action)
      (ConnectionSystem.fresh spec clock picks) system) :
    ∀ n, ∀ client < (system.state.objects n).made,
      client ∈ (system.state.objects n).closed ∨
        (system.state.objects n).client = some client := by
  refine (leakPolicy.sound_of_reaches ?_ (fun _ _ => leakPolicy_permits) reaches).invariant.2
  intro n
  obtain ⟨host, ident, reading, unused⟩ := ConnectionState.objects_create spec clock picks n
  rw [unused]
  exact NodeObject.losesNoClient_create _ _ _

end Runs

/-- A connection with one seed. -/
def oneSeed : PoolSpec := { seedHosts := ["a"], clusterName := "c" }

/-- A clock that goes on by one second with every reading. -/
def seconds (reading : Nat) : ClockReading := ⟨reading, reading⟩

/-- While a call that failed awaits the `close` of its client, another one connects anew;
and the node is closed after that. -/
theorem node_keeps_or_closes_every_client_after_failure :
    ∃ system : ConnectionSystem, (system.state.objects 0).closed = [1, 0] ∧
      ∀ n, ∀ client < (system.state.objects n).made,
        client ∈ (system.state.objects n).closed ∨
          (system.state.objects n).client = some client := by
  obtain ⟨system, reaches, closed⟩ := ConnectionSystem.exists_reached closesTheCurrentClient
    oneSeed seconds (fun _ => 0)
    [.start (.query 0 "q" 10), .begin 0, .answer 0 (.factory 0) (.ok ()),
      .answer 0 (.query 0 0 "q" 10) (.error (.driver (.operational "reset"))),
      .start (.query 0 "q" 10), .begin 1, .answer 1 (.factory 0) (.ok ()),
      .answer 0 (.close .drop 0 0) (.ok ()), .answer 1 (.query 0 1 "q" 10) (.ok ⟨[], []⟩),
      .start (.closeNode 0), .begin 2, .answer 2 (.close .call 0 1) (.ok ())]
    (fun system => (system.state.objects 0).closed = [1, 0])
    (by decide +kernel)
  exact ⟨system, of_decide_eq_true closed, node_keeps_or_closes_every_client reaches⟩

/-- Calls of one node only. -/
def worksOnNode (n : Nat) (_ : ConnectionSystem) : ConnectionAction → Bool
  | .start (.query m _ _) => m = n
  | .start (.ping m) => m = n
  | .start (.closeNode m) => m = n
  | .start _ => false
  | _ => true

/-- A `close` that is awaited while a query fails and the next one reconnects
leaves the node without the new client, which is never closed. -/
theorem node_loses_client :
    ¬∀ (spec : PoolSpec) (clock : Nat → ClockReading) (picks : Nat → Nat)
      (n : Nat) (system : ConnectionSystem),
      n < (ConnectionState.create spec clock picks).count →
      connectionLoop.Reaches (fun before action => worksOnNode n before action)
        (ConnectionSystem.fresh spec clock picks) system →
      system.Finished →
      ∀ client < (system.state.objects n).made,
        client ∈ (system.state.objects n).closed ∨
          (system.state.objects n).client = some client := by
  intro claimed
  obtain ⟨system, reaches, ended⟩ := ConnectionSystem.exists_reached (worksOnNode 0)
    oneSeed seconds (fun _ => 0)
    [.start (.query 0 "q" 10), .begin 0, .answer 0 (.factory 0) (.ok ()),
      .start (.closeNode 0), .begin 1,
      .answer 0 (.query 0 0 "q" 10) (.error (.driver (.operational "reset"))),
      .answer 0 (.close .drop 0 0) (.ok ()),
      .start (.query 0 "q" 10), .begin 2, .answer 2 (.factory 0) (.ok ()),
      .answer 2 (.query 0 1 "q" 10) (.ok ⟨[], []⟩),
      .answer 1 (.close .call 0 0) (.ok ())]
    (fun system => system.Finished ∧ (system.state.objects 0).made = 2 ∧
      (system.state.objects 0).closed = [0, 0] ∧ (system.state.objects 0).client = none)
    (by decide +kernel)
  obtain ⟨finished, made, closed, current⟩ := of_decide_eq_true ended
  have kept := claimed oneSeed seconds (fun _ => 0) 0 system (by decide) reaches finished 1
    (by omega)
  simp [closed, current] at kept

/-! ## A closed connection -/

namespace ConnectionState

variable {state : ConnectionState} {n : Nat}

theorem mem_unswept_iff :
    n ∈ state.unswept ↔ n ∈ state.tracked ∧ ∀ rest ∈ state.toSweep, n ∈ rest := by
  unfold unswept
  cases begun : state.toSweep <;> simp

/-- A tracked node that the closing pass has not reached is still so after an
effect, or the effect leaves it without an open client. -/
theorem unswept_apply
    {task : Nat}
    {effect : ConnectionEffect}
    (permitted : state.Permits task effect)
    (leaves : effect = .endSweep → (state.objects n).HasNoOpenClient)
    (unswept : n ∈ state.unswept) :
    n ∈ (state.apply effect).unswept ∨
      ((state.apply effect).objects n).HasNoOpenClient := by
  obtain ⟨tracked, unreached⟩ := mem_unswept_iff.mp unswept
  have disconnected : state.client n = none → (state.objects n).HasNoOpenClient := by
    intro unconnected client current
    cases unconnected.symm.trans current
  rw [mem_unswept_iff]
  cases effect with
  | welcome host =>
      left
      obtain ⟨other, found⟩ := mem_tracked_iff.mp tracked
      have apart : other ≠ host := by
        rintro rfl
        exact permitted.2 ((Dict.mem_keys_iff _ _).mpr ⟨n, found⟩)
      refine ⟨mem_tracked_iff.mpr ⟨other, ?_⟩, unreached⟩
      change (state.pool.set host state.count).get? other = some n
      rw [Dict.get?_set, if_neg apart]
      exact found
  | confirm host member =>
      left
      simp only [apply, confirm]
      split <;> exact ⟨tracked, unreached⟩
  | remove host =>
      obtain ⟨other, found⟩ := mem_tracked_iff.mp tracked
      by_cases same : other = host
      · right
        exact disconnected (permitted.2.2 n (same ▸ found))
      · left
        refine ⟨mem_tracked_iff.mpr ⟨other, ?_⟩, unreached⟩
        change (state.pool.erase host).get? other = some n
        rw [Dict.get?_erase, if_neg same]
        exact found
  | beginSweep =>
      left
      refine ⟨tracked, ?_⟩
      rintro _ ⟨rfl⟩
      exact unswept
  | swept m =>
      by_cases same : n = m
      · right
        subst same
        exact disconnected permitted
      · left
        refine ⟨tracked, ?_⟩
        intro rest begun
        obtain ⟨before, begunBefore, rfl⟩ := Option.map_eq_some_iff.mp begun
        exact List.mem_filter.mpr ⟨unreached before begunBefore, by simpa using same⟩
  | endSweep => exact .inr (leaves rfl)
  | _ => exact .inl ⟨tracked, unreached⟩

end ConnectionState

/-- An open client belongs to a tracked node that no closing pass has reached,
as long as clients are created for such nodes only. -/
def sweepPolicy : Policy where
  mayConnect n state := n ∈ state.unswept
  mayForget _ object := object.HasNoOpenClient
  mayLeave object := object.HasNoOpenClient
  inv state := (∀ n, (state.objects n).LosesNoClient) ∧
    ∀ n, n ∈ state.unswept ∨ (state.objects n).HasNoOpenClient
  keeps {task effect state} wellformed invariant permitted respects := by
    refine ⟨leakPolicy.keeps wellformed invariant.1 permitted ?_, fun n => ?_⟩
    · cases effect with
      | node m change =>
          cases change with
          | forget client => exact respects
          | discard own => exact fun _ _ => trivial
          | callClose closer => cases closer <;> trivial
          | _ => trivial
      | endSweep => exact fun _ _ => trivial
      | _ => trivial
    · obtain unswept | noneOpen := invariant.2 n
      · apply ConnectionState.unswept_apply permitted _ unswept
        rintro rfl
        exact respects n unswept
      · obtain ⟨change, rfl, after⟩ | after | ⟨_, _, _, _, after⟩ | ⟨_, _, _, after⟩ :=
          state.objects_apply_cases effect n
        · by_cases connects : change = .connect
          · subst connects
            exact .inl respects
          · right
            rw [after]
            exact noneOpen.apply connects
        · exact .inr (after ▸ noneOpen)
        · right
          rw [after]
          exact noneOpen
        · right
          rw [after]
          intro client current
          cases current

/-- The condition under which a closed connection has no open client.  The
factory returns clients only for tracked nodes that no closing pass has
reached; the `close` of a client that a node's `close` awaits returns only when the
node has no open client; and a closing pass that is cut short leaves no open client
behind. -/
def connectsBeforeTheSweep (system : ConnectionSystem) : ConnectionAction → Bool
  | .start call => system.state.Exists call
  | .answer _ (.factory n) (.ok _) => n ∈ system.state.unswept
  | .answer _ (.close closer n _) (.ok _) =>
      closer ≠ .drop → (system.state.objects n).HasNoOpenClient
  | .answer _ (.close .sweep _ _) (.error _) =>
      ∀ n ∈ system.state.unswept, (system.state.objects n).HasNoOpenClient
  | .answer _ (.discoveryTurn true) (.error _) =>
      ∀ n ∈ system.state.unswept, (system.state.objects n).HasNoOpenClient
  | _ => true

private theorem sweepPolicy_permits
    {system : ConnectionSystem}
    {action : ConnectionAction}
    (met : connectsBeforeTheSweep system action = true) :
    sweepPolicy.contract.Permits system action := by
  apply sweepPolicy.permits_of_precautions
  · exact fun _ => trivial
  · rintro call rfl
    exact of_decide_eq_true met
  · rintro task n rfl
    have unswept : n ∈ system.state.unswept := of_decide_eq_true met
    exact unswept
  · rintro task closer n client closes rfl
    exact of_decide_eq_true met closes
  · rintro task fault (⟨m, client, rfl⟩ | rfl)
    · have noneOpen : ∀ n ∈ system.state.unswept, (system.state.objects n).HasNoOpenClient :=
        of_decide_eq_true met
      exact noneOpen
    · have noneOpen : ∀ n ∈ system.state.unswept, (system.state.objects n).HasNoOpenClient :=
        of_decide_eq_true met
      exact noneOpen
  · exact fun _ _ _ _ _ _ _ _ => trivial
  · exact fun _ _ _ _ _ _ => trivial

/-- A closed connection stays closed: once `close` and all other calls have
finished, every client that was ever created has been closed. -/
theorem closed_connection_has_no_open_client
    {spec : PoolSpec}
    {clock : Nat → ClockReading}
    {picks : Nat → Nat}
    {system : ConnectionSystem}
    (reaches : connectionLoop.Reaches
      (fun before action => connectsBeforeTheSweep before action)
      (ConnectionSystem.fresh spec clock picks) system)
    (closes : .close ∈ system.calls)
    (finished : system.Finished) :
    ∀ n, ∀ client < (system.state.objects n).made,
      client ∈ (system.state.objects n).closed := by
  have initial : sweepPolicy.inv (ConnectionState.create spec clock picks) := by
    have unused := ConnectionState.objects_create spec clock picks
    refine ⟨fun n => ?_, fun n => .inr fun client current => ?_⟩
    · obtain ⟨host, ident, reading, objectEq⟩ := unused n
      rw [objectEq]
      exact NodeObject.losesNoClient_create _ _ _
    · obtain ⟨host, ident, reading, objectEq⟩ := unused n
      rw [objectEq] at current
      cases current
  have sound := sweepPolicy.sound_of_reaches initial (fun _ _ => sweepPolicy_permits) reaches
  obtain ⟨losesNone, reachable⟩ := sound.invariant.2
  obtain ⟨task, outcome, ended⟩ := sound.ends_of_finished finished closes
  have swept : system.state.toSweep = some [] := ended rfl
  have nobody : ∀ n, n ∉ system.state.unswept := by
    intro n unswept
    have left := (ConnectionState.mem_unswept_iff.mp unswept).2 [] swept
    cases left
  exact fun n client made =>
    (losesNone n).closed ((reachable n).resolve_left (nobody n)) made

/-- A connection with two seeds. -/
def twoSeeds : PoolSpec := { seedHosts := ["a", "b"], clusterName := "c" }

/-- Both nodes are found alive, a data query goes to the first one, and the
connection is closed while the query is under way. -/
def closedUnderQuery : List ConnectionAction :=
  [.start .recheck, .begin 0,
    .begin 1, .answer 1 (.factory 0) (.ok ()), .answer 1 (.ping 0 0) (.ok true),
    .begin 2, .answer 2 (.factory 1) (.ok ()), .answer 2 (.ping 1 0) (.ok true),
    .join 0 none,
    .start (.executeDataQuery "q" 10 3), .begin 3,
    .start .close, .begin 4,
    .answer 4 (.close .sweep 0 0) (.ok ()), .answer 4 (.close .sweep 1 0) (.ok ()),
    .answer 3 (.query 0 0 "q" 10) (.error (.driver (.operational "closed")))]

theorem closed_connection_has_no_open_client_after_refused_failover :
    ∃ system : ConnectionSystem,
      (system.state.objects 0).made = 1 ∧ (system.state.objects 1).made = 1 ∧
        ∀ n, ∀ client < (system.state.objects n).made,
          client ∈ (system.state.objects n).closed := by
  obtain ⟨system, reaches, ended⟩ := ConnectionSystem.exists_reached connectsBeforeTheSweep
    twoSeeds seconds (fun _ => 0)
    (closedUnderQuery ++ [.answer 3 (.factory 1) (.error (.driver (.operational "refused")))])
    (fun system => system.Finished ∧ .close ∈ system.calls ∧
      (system.state.objects 0).made = 1 ∧ (system.state.objects 1).made = 1)
    (by decide +kernel)
  obtain ⟨finished, closes, first, second⟩ := of_decide_eq_true ended
  exact ⟨system, first, second, closed_connection_has_no_open_client reaches closes finished⟩

/-- The calls that share a connection, and one `close`, which no call starts
after. -/
def usesThenCloses (system : ConnectionSystem) : ConnectionAction → Bool
  | .start .refresh => .close ∉ system.calls
  | .start .recheck => .close ∉ system.calls
  | .start .rediscover => .close ∉ system.calls
  | .start (.executeDataQuery _ _ _) => .close ∉ system.calls
  | .start (.executeSystemQuery _ _ _) => .close ∉ system.calls
  | .start .close => .close ∉ system.calls
  | .start _ => false
  | _ => true

/-- A data query that fails over after the closing pass connects a node anew,
and nobody closes that client. -/
theorem closed_connection_has_open_client :
    ¬∀ (spec : PoolSpec) (clock : Nat → ClockReading) (picks : Nat → Nat)
      (system : ConnectionSystem),
      connectionLoop.Reaches (fun before action => usesThenCloses before action)
        (ConnectionSystem.fresh spec clock picks) system →
      .close ∈ system.calls →
      system.Finished →
      ∀ n, ∀ client < (system.state.objects n).made,
        client ∈ (system.state.objects n).closed := by
  intro claimed
  obtain ⟨system, reaches, ended⟩ := ConnectionSystem.exists_reached usesThenCloses
    twoSeeds seconds (fun _ => 0)
    (closedUnderQuery ++
      [.answer 3 (.factory 1) (.ok ()), .answer 3 (.query 1 1 "q" 10) (.ok ⟨[], []⟩)])
    (fun system => system.Finished ∧ .close ∈ system.calls ∧
      (system.state.objects 1).made = 2 ∧ (system.state.objects 1).closed = [0])
    (by decide +kernel)
  obtain ⟨finished, closes, made, closed⟩ := of_decide_eq_true ended
  have kept := claimed twoSeeds seconds (fun _ => 0) system reaches closes finished 1 1 (by omega)
  simp [closed] at kept

end Promch
