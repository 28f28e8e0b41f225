import Promch.Handlers.ConnectionAccounts

/-!
# The effects of the connection handlers

The handlers of the connection resources change the registry and its histories, and
nothing else: no handler of a connection touches the collector or a query.  Only those
that update, delete or clean up take a connection from the registry.  The executions
read the registry and do not change it.
-/

namespace Promch

open EventLoop EventLoop.Coroutine

/-- An effect on the connections and their histories. -/
def RegistryEffect.OfConnections : RegistryEffect → Prop
  | .observe _ _ _ | .withdraw _ _ _ | .clear _ | .callClose _ _ | .receiveSecret _ _ _
  | .failToResolve _ | .construct _ _ _ _ | .give _ _ | .becomeReady _ => True
  | _ => False

/-- An effect on the connections that takes none of them from the registry. -/
def RegistryEffect.OfBuilding : RegistryEffect → Prop
  | .observe _ _ _ | .callClose _ _ | .receiveSecret _ _ _ | .failToResolve _
  | .construct _ _ _ _ | .give _ _ | .becomeReady _ => True
  | _ => False

theorem RegistryEffect.OfBuilding.ofConnections
    {effect : RegistryEffect}
    (ofBuilding : effect.OfBuilding) :
    effect.OfConnections := by
  cases effect <;> trivial

/-- An effect of an execution, apart from having its callbacks scheduled. -/
def RegistryEffect.OfExecutions : RegistryEffect → Prop
  | .lookAtClock | .report _ _ _ _ _ => True
  | _ => False

namespace Registry

/-! ## Connections -/

private theorem writes_ensureConnection (key : ResourceKey) (spec : ConnectionResource) :
    (ensureConnection key spec).Writes RegistryEffect.OfBuilding := by
  have gives : ∀ conn, (give key conn).Writes RegistryEffect.OfBuilding :=
    fun conn => Writes.bind (writes_emit trivial) fun _ => writes_pure _
  have resolves : (resolveCredentials key spec).Writes RegistryEffect.OfBuilding := by
    unfold resolveCredentials
    cases spec.authSecretRef with
    | none => trivial
    | some ref =>
        apply Writes.bind (writes_gets _)
        intro secretNamespace
        apply Writes.bind (writes_await _)
        intro data
        exact Writes.bind (writes_emit trivial) fun _ => writes_conclude _
  apply Writes.bind (writes_gets _)
  intro first
  cases first with
  | some conn => exact gives conn
  | none =>
      apply Writes.bind resolves.attempt
      intro resolved
      cases resolved with
      | error fault =>
          apply Writes.bind writes_currentTask
          intro task
          exact Writes.bind (writes_emit trivial) fun _ => writes_raise _
      | ok credentials =>
          apply Writes.bind (writes_gets _)
          intro second
          cases second with
          | some conn => exact gives conn
          | none =>
              refine Writes.bind ?_ gives
              apply Writes.bind (writes_gets _)
              intro conn
              apply Writes.bind writes_currentTask
              intro task
              exact Writes.bind (writes_emit trivial) fun _ => writes_pure _

private theorem writes_discover (pass : DiscoveryPass) (conn : Nat) :
    (discover pass conn).Writes RegistryEffect.OfBuilding := by
  apply Writes.bind (writes_await _)
  intro status
  exact Writes.bind (writes_emit trivial) fun _ => writes_pure _

/-- A resource gets a connection, and the connection is discovered. -/
theorem writes_onConnectionTimer
    (pass : DiscoveryPass)
    (key : ResourceKey)
    (spec : ConnectionResource) :
    (onConnectionTimer pass key spec).Writes RegistryEffect.OfBuilding :=
  Writes.bind (writes_ensureConnection key spec) (writes_discover pass)

theorem writes_onConnectionPresent (key : ResourceKey) (spec : ConnectionResource) :
    (onConnectionPresent key spec).Writes RegistryEffect.OfBuilding := by
  apply Writes.bind writes_currentTask
  intro task
  exact Writes.bind (writes_emit trivial) fun _ => writes_onConnectionTimer _ _ _

theorem writes_close
    (successor : Option (ResourceKey × ConnectionResource))
    (conn : Nat) :
    (close successor conn).Writes RegistryEffect.OfBuilding := by
  apply Writes.bind writes_currentTask
  intro task
  exact Writes.bind (writes_emit trivial) fun _ => writes_await _

theorem writes_closeBounded (conn : Nat) :
    (closeBounded conn).Writes RegistryEffect.OfBuilding := by
  apply Writes.bind (writes_close none conn).attempt
  intro outcome
  split <;> trivial

private theorem writes_withdraw (key : ResourceKey) (spec : Option ConnectionResource) :
    (withdraw key spec).Writes RegistryEffect.OfConnections := by
  apply Writes.bind (writes_gets _)
  intro old
  apply Writes.bind writes_currentTask
  intro task
  apply Writes.bind (writes_emit trivial)
  intro _
  cases old with
  | none => trivial
  | some conn => exact (writes_close _ conn).mono fun _ => RegistryEffect.OfBuilding.ofConnections

/-! ## Executions -/

theorem writes_readClock : readClock.Writes RegistryEffect.OfExecutions := by
  apply Writes.bind (writes_gets _)
  intro reading
  exact Writes.bind (writes_emit trivial) fun _ => writes_pure _

theorem writes_executeQuery
    (key connRef : String)
    (queryType : QueryType)
    (sql : String)
    (timeout tickTs : Time) :
    (executeQuery key connRef queryType sql timeout tickTs).Writes
      RegistryEffect.OfExecutions := by
  have reports : ∀ obtained (ended : ClockReading → ExecutionEnd),
      (do
        let finished ← readClock
        emit (.report key obtained (ended finished) tickTs finished.now) :
          Handler Unit).Writes RegistryEffect.OfExecutions :=
    fun obtained ended => Writes.bind writes_readClock fun _ => writes_emit trivial
  apply Writes.bind writes_readClock
  intro start
  apply Writes.bind (writes_gets _)
  intro found
  cases found with
  | none => exact reports none _
  | some conn =>
      apply Writes.bind (writes_gets _)
      intro ready
      have runs : (runQuery conn queryType sql timeout).Writes RegistryEffect.OfExecutions := by
        cases queryType with
        | system =>
            apply Writes.bind (writes_gets _)
            intro nodeLabel
            exact Writes.bind (writes_await _) fun _ => writes_pure _
        | data => exact Writes.bind (writes_await _) fun _ => writes_pure _
      apply Writes.bind runs.attempt
      intro answered
      cases answered with
      | ok outcome => exact reports _ _
      | error fault =>
          simp only
          split
          · trivial
          · next exception _ =>
              refine Writes.bind ?_ fun outcome => reports _ _
              apply Writes.bind (writes_gets _)
              intro current
              split
              · exact Writes.bind (writes_gets _) fun _ => writes_pure _
              · trivial

end Registry

namespace RegistryCall

/-- A handler of a connection resource, or a task that closes a connection. -/
def isOfConnections : RegistryCall → Bool
  | .present _ _ _ | .update _ _ _ | .recheck _ _ _ | .topology _ _ _ | .delete _ _
  | .cleanup | .closeBounded _ => true
  | _ => false

/-- The connection handlers have effects on the connections only. -/
theorem writes_ofConnections
    {call : RegistryCall}
    (connections : call.isOfConnections = true) :
    call.body.Writes RegistryEffect.OfConnections := by
  have builds : ∀ {program : Handler HandlerValue},
      program.Writes RegistryEffect.OfBuilding → program.Writes RegistryEffect.OfConnections :=
    fun writes => writes.mono fun _ => RegistryEffect.OfBuilding.ofConnections
  cases call with
  | present resourceNamespace name spec =>
      exact builds (Registry.writes_onConnectionPresent _ spec)
  | update resourceNamespace name spec =>
      exact Writes.bind (Registry.writes_withdraw _ _) fun _ =>
        builds (Registry.writes_onConnectionTimer .refresh _ spec)
  | recheck resourceNamespace name spec | topology resourceNamespace name spec =>
      exact builds (Registry.writes_onConnectionTimer _ _ spec)
  | delete resourceNamespace name =>
      exact Writes.bind (Registry.writes_withdraw _ _) fun _ => writes_pure _
  | cleanup =>
      apply Writes.bind (writes_gets _)
      intro conns
      apply Writes.bind writes_currentTask
      intro task
      split
      · exact Writes.bind (writes_emit trivial) fun _ => writes_pure _
      · exact Writes.bind ⟨trivial, fun _ _ => trivial⟩ fun _ => writes_pure _
  | closeBounded conn => exact builds (Registry.writes_closeBounded conn)
  | registerQuery key spec queryType | deregisterQuery key | tick key query
  | execute key connRef queryType sql timeout tickTs | doneCallback key => cases connections

end RegistryCall

end Promch
