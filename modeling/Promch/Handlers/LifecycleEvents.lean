import Promch.Handlers.ConnectionAccounts

/-!
# The last lifecycle event

A resource ends up with a connection for the specification of its last
lifecycle event, or without one after a deletion, as long as no handler
registers a connection for a specification that is out of date by then.
-/

namespace Promch

open EventLoop

/-- A specification is that of the last lifecycle event, if there was one. -/
def isLatest
    (spec : ConnectionResource) :
    Option (Nat × Option ConnectionResource) → Bool
  | none => true
  | some (_, latest) => latest = some spec

namespace RegistryState

/-- The registry is where the last lifecycle event of a resource left it. -/
def IsCurrent (state : RegistryState) (key : ResourceKey) : Prop :=
  match state.lastEvent key with
  | none => True
  | some (_, none) => state.connections.get? key = none
  | some (_, some spec) =>
      ∃ connection, state.connectionOf key = some connection ∧ connection.resource = spec ∧
        state.Resolved spec connection.credentials

/-- A connection that is registered now would be one for the specification of
the last lifecycle event. -/
def registersLatest
    (state : RegistryState)
    (key : ResourceKey)
    (spec : ConnectionResource) : Bool :=
  (state.connections.get? key).isSome || isLatest spec (state.lastEvent key)

/-- The connection of a resource after an effect: the one from before, unless
it was popped, or one that was just built. -/
theorem connectionOf_apply_cases
    {state : RegistryState}
    {task : Nat}
    {effect : RegistryEffect}
    {key : ResourceKey}
    {connection : BuiltConnection}
    (wellformed : state.Wellformed)
    (permitted : state.Permits task effect)
    (found : (state.apply effect).connectionOf key = some connection) :
    (∃ before, state.connectionOf key = some before ∧
        before.resource = connection.resource ∧
        ∀ remover announced, effect ≠ .withdraw remover key announced) ∨
      ∃ credentials, effect = .construct task key connection.resource credentials := by
  obtain ⟨conn, registered, position⟩ := Option.bind_eq_some_iff.mp found
  cases effect with
  | withdraw remover withdrawn announced =>
      simp only [RegistryState.apply, Dict.get?_erase] at registered
      split at registered
      · cases registered
      · next different =>
          refine .inl ⟨connection, ?_, rfl, ?_⟩
          · exact Option.bind_eq_some_iff.mpr ⟨conn, registered, position⟩
          · rintro _ _ ⟨rfl, rfl, rfl⟩
            exact different rfl
  | clear remover => simp [RegistryState.apply] at registered
  | construct builder built spec credentials =>
      obtain ⟨rfl, _⟩ := permitted
      simp only [RegistryState.apply, Dict.get?_set] at registered position
      split at registered
      · next same =>
          cases registered
          rw [List.getElem?_concat_length] at position
          cases position
          exact .inr ⟨credentials, by rw [same]⟩
      · have inside := wellformed.lt_of_isRegistered ⟨key, registered⟩
        rw [List.getElem?_append_left inside] at position
        exact .inl ⟨connection, Option.bind_eq_some_iff.mpr ⟨conn, registered, position⟩, rfl,
          fun _ _ => by simp⟩
  | becomeReady ready =>
      simp only [RegistryState.apply, List.getElem?_modify] at position
      obtain ⟨before, existed, rfl⟩ := Option.map_eq_some_iff.mp position
      refine .inl ⟨before, Option.bind_eq_some_iff.mpr ⟨conn, registered, existed⟩, ?_,
        fun _ _ => by simp⟩
      split <;> rfl
  | observe observer observed spec | callClose closer closed
  | receiveSecret secretNamespace name data | failToResolve failed | give given got
  | lookAtClock | collect op | launch query scheduled tickTs
  | report query obtained ended tickTs now | finish query =>
      exact .inl ⟨connection, found, rfl, fun _ _ => by simp⟩

end RegistryState

/-- No connection is out of date when it is registered, or when a created or
resumed resource finds it; and the registry is not cleared. -/
def latestPolicy : RegistryPolicy where
  mayRegister spec event := isLatest spec event = true
  mayFind spec found := ∀ connection, found = some connection → connection.resource = spec
  mayClear := False
  inv state := ∀ key connection, state.connectionOf key = some connection →
    isLatest connection.resource (state.lastEvent key) = true
  keeps {task effect state} wellformed latest permitted respects := by
    intro key connection found
    obtain ⟨before, existed, same, stays⟩ | ⟨credentials, rfl⟩ :=
      RegistryState.connectionOf_apply_cases wellformed permitted found
    · have known := latest key before existed
      rw [same] at known
      cases effect with
      | observe observer observed spec =>
          by_cases here : key = observed
          · subst here
            have resource : before.resource = spec := respects before existed
            simp [RegistryState.apply, isLatest, ← same, resource]
          · simp only [RegistryState.apply, Function.update_of_ne here]
            exact known
      | withdraw remover withdrawn announced =>
          have different : key ≠ withdrawn := fun here => stays remover announced (here ▸ rfl)
          simp only [RegistryState.apply, Function.update_of_ne different]
          exact known
      | _ => exact known
    · exact respects
  registersOwn task spec := by simp [isLatest]

/-- A handler that goes on neither registers a connection for a specification
that is out of date nor finds one that was registered for another. -/
def registersNothingStale (system : RegistrySystem) : RegistryAction → Bool
  | .begin task =>
      match system.tasks[task]?.map Task.call with
      | some (.present resourceNamespace name spec) =>
          (system.state.connectionOf (resourceKey resourceNamespace name)).all
            fun connection => connection.resource = spec
      | some (.recheck resourceNamespace name spec)
      | some (.topology resourceNamespace name spec) =>
          spec.authSecretRef.isSome ||
            system.state.registersLatest (resourceKey resourceNamespace name) spec
      | some .cleanup => false
      | _ => true
  | .answer _ (.close (some (key, spec)) _) (.ok _) =>
      spec.authSecretRef.isSome || system.state.registersLatest key spec
  | .answer _ (.readSecret key spec secretNamespace _) (.ok data) =>
      spec.authSecretRef.all (fun ref => !(credentialsOf secretNamespace ref data).isOk) ||
        system.state.registersLatest key spec
  | _ => true

private theorem mayEnsure_of_registersLatest
    {state : RegistryState}
    {key : ResourceKey}
    {spec : ConnectionResource}
    (met : state.registersLatest key spec = true) :
    latestPolicy.MayEnsure key spec state := by
  intro free
  rw [RegistryState.registersLatest, free] at met
  exact met

private theorem latestPolicy_permits
    {system : RegistrySystem}
    {action : RegistryAction}
    (met : registersNothingStale system action = true) :
    latestPolicy.contract.Permits system action := by
  apply latestPolicy.permits_of_precautions
  · rintro task call rfl found
    simp only [registersNothingStale, found] at met
    have ensures : ∀ {key spec},
        (spec.authSecretRef.isSome || system.state.registersLatest key spec) = true →
        spec.authSecretRef = none → latestPolicy.MayEnsure key spec system.state := by
      intro key spec met withoutSecret
      rw [withoutSecret] at met
      exact mayEnsure_of_registersLatest met
    cases call with
    | present resourceNamespace name spec =>
        intro connection existing
        simp only [existing, Option.all_some] at met
        exact of_decide_eq_true met
    | recheck resourceNamespace name spec => exact ensures met
    | topology resourceNamespace name spec => exact ensures met
    | cleanup => cases met
    | _ => trivial
  · rintro task key spec conn withoutSecret rfl
    simp only [registersNothingStale, withoutSecret] at met
    exact mayEnsure_of_registersLatest met
  · rintro task key spec secretNamespace name data ref reference resolved rfl
    simp only [registersNothingStale, reference, Option.all_some, resolved] at met
    exact mayEnsure_of_registersLatest met

section Runs

variable {config : SchedulerConfig} {operatorNamespace : String}
variable {clock : Nat → ClockReading} {memberHosts : Nat → Nat → List String}
variable {system : RegistrySystem}

/-- Once all started handlers have finished without an exception, the registry
is where the last lifecycle event of every resource left it. -/
theorem registry_follows_last_event
    (reaches : registryLoop.Reaches (fun before action => registersNothingStale before action)
      (RegistrySystem.start config operatorNamespace clock memberHosts) system)
    (succeeded : system.Succeeded)
    (key : ResourceKey) :
    system.state.IsCurrent key := by
  have initial : latestPolicy.inv
      (RegistryState.start config operatorNamespace clock memberHosts) := by
    intro key connection found
    simp [RegistryState.connectionOf, RegistryState.start] at found
  have sound := latestPolicy.sound_of_reaches initial
    (fun _ _ => latestPolicy_permits) reaches
  have wellformed : system.state.Wellformed := sound.invariant.1
  have latest : latestPolicy.inv system.state := sound.invariant.2
  unfold RegistryState.IsCurrent
  split
  · trivial
  · next task event =>
      refine Option.eq_none_iff_forall_ne_some.mpr fun conn found => ?_
      obtain ⟨connection, position, _⟩ := wellformed.keyed key conn found
      have known := latest key connection
        (Option.bind_eq_some_iff.mpr ⟨conn, found, position⟩)
      rw [event] at known
      have deleted : none = some connection.resource := of_decide_eq_true known
      cases deleted
  · next task spec event =>
      obtain ⟨conn, found⟩ := RegistryPolicy.served_of_succeeded sound id succeeded event
      obtain ⟨connection, position, _⟩ := wellformed.keyed key conn found
      have connected := Option.bind_eq_some_iff.mpr ⟨conn, found, position⟩
      have known := latest key connection connected
      rw [event] at known
      have current : some spec = some connection.resource := of_decide_eq_true known
      obtain rfl := Option.some.inj current
      exact ⟨connection, connected, rfl,
        wellformed.resolved connection (List.mem_of_getElem? position)⟩

end Runs

/-- A status of a connection without nodes. -/
def noNodes : ConnectionStatus where
  phase := "Pending"
  totalNodes := 0
  aliveNodes := 0
  lastDiscovery := none
  nodes := []

theorem registry_follows_last_event_after_update :
    ∃ system : RegistrySystem,
      system.state.lastEvent ("", "x") = some (1, some openResource) ∧
        ∀ key, system.state.IsCurrent key := by
  obtain ⟨system, reaches, found⟩ := RegistrySystem.exists_reached registersNothingStale
    [.start (.present none "x" secretResource), .begin 0,
      .answer 0 (.readSecret ("", "x") secretResource "operator" "s")
        (.ok (Dict.empty.set "password" "p")),
      .answer 0 (.discover .refresh 0) (.ok noNodes),
      .start (.update none "x" openResource), .begin 1,
      .answer 1 (.close (some (("", "x"), openResource)) 0) (.ok ()),
      .answer 1 (.discover .refresh 1) (.ok noNodes)]
    (fun system => system.Succeeded ∧
      system.state.lastEvent ("", "x") = some (1, some openResource))
    (by decide +kernel)
  obtain ⟨succeeded, event⟩ := of_decide_eq_true found
  exact ⟨system, event, registry_follows_last_event reaches succeeded⟩

/-- The resource that a handler is about. -/
def RegistryCall.resource? : RegistryCall → Option ResourceKey
  | .present resourceNamespace name _ => some (resourceKey resourceNamespace name)
  | .update resourceNamespace name _ => some (resourceKey resourceNamespace name)
  | .recheck resourceNamespace name _ => some (resourceKey resourceNamespace name)
  | .topology resourceNamespace name _ => some (resourceKey resourceNamespace name)
  | .delete resourceNamespace name => some (resourceKey resourceNamespace name)
  | _ => none

/-- The handlers of one resource, each with the specification that is current
when it begins. -/
def handlesResource (key : ResourceKey) (system : RegistrySystem) : RegistryAction → Bool
  | .start call => call.resource? = some key
  | .begin task =>
      match system.tasks[task]?.map Task.call with
      | some (.recheck _ _ spec) => isLatest spec (system.state.lastEvent key)
      | some (.topology _ _ spec) => isLatest spec (system.state.lastEvent key)
      | _ => true
  | _ => true

/-- The resource from before with another seed. -/
def editedResource : ConnectionResource := { secretResource with seedHosts := ["b"] }

/-- While an update closes the connection and reads the Secret, a timer that
began before the update registers a connection for the old specification. -/
theorem registry_left_behind_by_timer :
    ¬∀ (config : SchedulerConfig) (operatorNamespace : String) (clock : Nat → ClockReading)
      (memberHosts : Nat → Nat → List String) (key : ResourceKey) (system : RegistrySystem),
      registryLoop.Reaches (fun before action => handlesResource key before action)
        (RegistrySystem.start config operatorNamespace clock memberHosts) system →
      system.Succeeded →
      system.state.IsCurrent key := by
  intro claimed
  obtain ⟨system, reaches, found⟩ := RegistrySystem.exists_reached (handlesResource ("", "x"))
    [.start (.present none "x" secretResource), .begin 0,
      .start (.recheck none "x" secretResource), .begin 1,
      .answer 0 (.readSecret ("", "x") secretResource "operator" "s")
        (.ok (Dict.empty.set "password" "p")),
      .answer 0 (.discover .refresh 0) (.ok noNodes),
      .start (.update none "x" editedResource), .begin 2,
      .answer 2 (.close (some (("", "x"), editedResource)) 0) (.ok ()),
      .answer 1 (.readSecret ("", "x") secretResource "operator" "s")
        (.ok (Dict.empty.set "password" "p")),
      .answer 2 (.readSecret ("", "x") editedResource "operator" "s")
        (.ok (Dict.empty.set "password" "p")),
      .answer 1 (.discover .recheck 1) (.ok noNodes),
      .answer 2 (.discover .refresh 1) (.ok noNodes)]
    (fun system => system.Succeeded ∧
      system.state.lastEvent ("", "x") = some (2, some editedResource) ∧
      (system.state.connectionOf ("", "x")).map BuiltConnection.resource = some secretResource)
    (by decide +kernel)
  obtain ⟨succeeded, event, registered⟩ := of_decide_eq_true found
  have current := claimed _ _ _ _ ("", "x") system reaches succeeded
  simp only [RegistryState.IsCurrent, event] at current
  obtain ⟨connection, connected, resource, _⟩ := current
  rw [connected, Option.map_some, resource] at registered
  exact absurd registered (by decide)

end Promch
