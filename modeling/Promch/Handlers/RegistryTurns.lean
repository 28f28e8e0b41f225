import Promch.Library.Turns
import Promch.Handlers.ConnectionEffects

/-!
# The turns of the handlers

When connections leave the registry: an update or a deletion takes its own in the turn
in which it begins, a cleanup takes them all in its only turn, and no other turn takes
any.  A connection that is ready stays so until then.
-/

namespace Promch

open EventLoop EventLoop.Coroutine

namespace RegistryCall

/-- A call takes the connection of a resource from the registry when it begins. -/
def removes (key : ResourceKey) : RegistryCall → Bool
  | .update resourceNamespace name _ => resourceKey resourceNamespace name == key
  | .delete resourceNamespace name => resourceKey resourceNamespace name == key
  | .cleanup => true
  | _ => false

/-- The connection that an execution looks up. -/
def connRef? : RegistryCall → Option String
  | .execute _ connRef _ _ _ _ => some connRef
  | _ => none

end RegistryCall

/-- A turn takes the connection of a resource from the registry. -/
def RemovesFor (key : ResourceKey) : RegistryCause → Prop
  | .began call => call.removes key = true
  | _ => False

namespace Registry

/-- Connections are taken from the registry in the turns that do so, and no execution
is launched in such a turn. -/
def turnRule :
    TurnRule RegistryState RegistryEffect RegistryRequest RegistryRequest.Answer
      RegistryCall HandlerFault where
  may cause effect :=
    match effect with
    | .withdraw _ key _ => RemovesFor key cause
    | .clear _ => ∀ key, RemovesFor key cause
    | .launch _ _ _ => ∀ key, ¬RemovesFor key cause
    | _ => True

section Programs

variable {cause : RegistryCause} {state : RegistryState}

/-- What builds connections keeps to the rule in every turn. -/
private theorem obeys_of_building
    {program : Handler α}
    {goal : Except HandlerFault α → RegistryCause → RegistryState → Prop}
    (writes : program.Writes RegistryEffect.OfBuilding)
    (returns : ∀ outcome later after, goal outcome later after) :
    program.Obeys registryLoop turnRule goal cause state := by
  refine writes.obeys ?_ (fun _ _ => trivial) returns cause state
  intro later effect ofBuilding
  cases effect <;> trivial

private theorem obeys_withdraw
    {key : ResourceKey}
    {spec : Option ConnectionResource}
    {goal : Except HandlerFault Unit → RegistryCause → RegistryState → Prop}
    (removes : RemovesFor key cause)
    (returns : ∀ outcome later after, goal outcome later after) :
    (withdraw key spec).Obeys registryLoop turnRule goal cause state := by
  simp only [withdraw, obeys_bind, obeys_gets, obeys_andThen_ok, obeys_currentTask, obeys_emit]
  refine fun task => ⟨removes, ?_⟩
  split
  · exact returns _ _ _
  · exact obeys_of_building (writes_close _ _) returns

private theorem obeys_tick (key : String) (query : ScheduledQuery) :
    (tick key query).Obeys registryLoop turnRule (fun _ _ _ => True)
      (.began (.tick key query)) state := by
  have launches : ∀ other, ¬RemovesFor other (.began (.tick key query)) :=
    fun _ removes => Bool.noConfusion removes
  simp only [tick, readClock, obeys_bind, obeys_gets, obeys_andThen_ok]
  split
  · trivial
  · simp only [obeys_bind, obeys_gets, obeys_andThen_ok]
    split
    · simp only [obeys_bind, obeys_emit, obeys_andThen_ok, obeys_pure]
      exact ⟨trivial, trivial⟩
    · simp only [obeys_bind, obeys_gets, obeys_emit, obeys_andThen_ok, obeys_pure]
      refine ⟨trivial, ?_⟩
      split <;> simp only [obeys_bind, obeys_emit, obeys_andThen_ok, obeys_pure]
      · exact ⟨trivial, trivial⟩
      · exact ⟨launches, trivial⟩

private theorem obeys_execute
    (key connRef : String)
    (queryType : QueryType)
    (sql : String)
    (timeout tickTs : Time) :
    (execute key connRef queryType sql timeout tickTs).Obeys registryLoop turnRule
      (fun _ _ _ => True) cause state := by
  simp only [execute, obeys_bind, obeys_attempt, obeys_andThen_ok, obeys_emit]
  refine (writes_executeQuery key connRef queryType sql timeout tickTs).obeys ?_
    (fun _ _ => trivial) ?_ cause state
  · intro later effect ofExecutions
    cases effect <;> trivial
  · intro outcome later after
    refine ⟨trivial, ?_⟩
    cases outcome <;> trivial

/-- Every call keeps to the rule. -/
theorem obeys_body (call : RegistryCall) :
    call.body.Obeys registryLoop turnRule (fun _ _ _ => True) (.began call) state := by
  cases call with
  | present resourceNamespace name spec =>
      exact obeys_of_building (writes_onConnectionPresent _ _) fun _ _ _ => trivial
  | update resourceNamespace name spec =>
      have removes : RemovesFor (resourceKey resourceNamespace name)
          (.began (.update resourceNamespace name spec)) := by
        simp [RemovesFor, RegistryCall.removes]
      simp only [RegistryCall.body, onConnectionUpdate, obeys_bind]
      refine obeys_withdraw removes fun outcome later after => ?_
      cases outcome with
      | error fault => trivial
      | ok done =>
          exact obeys_of_building (writes_onConnectionTimer .refresh _ spec) fun _ _ _ => trivial
  | recheck resourceNamespace name spec | topology resourceNamespace name spec =>
      exact obeys_of_building (writes_onConnectionTimer _ _ _) fun _ _ _ => trivial
  | delete resourceNamespace name =>
      have removes : RemovesFor (resourceKey resourceNamespace name)
          (.began (.delete resourceNamespace name)) := by
        simp [RemovesFor, RegistryCall.removes]
      simp only [RegistryCall.body, onConnectionDelete, obeys_bind]
      refine obeys_withdraw removes fun outcome later after => ?_
      cases outcome <;> trivial
  | cleanup =>
      have removes : ∀ key, RemovesFor key (.began .cleanup) := fun _ => rfl
      simp only [RegistryCall.body, onOperatorCleanup, obeys_bind, obeys_gets, obeys_andThen_ok,
        obeys_currentTask]
      intro task
      split
      · simp only [obeys_bind, obeys_emit, obeys_andThen_ok, obeys_pure]
        exact ⟨removes, trivial⟩
      · simp only [obeys_bind, obeys_emitAndJoin]
        refine ⟨removes, fun outcome later => ?_⟩
        cases outcome <;> trivial
  | closeBounded conn => exact obeys_of_building (writes_closeBounded conn) fun _ _ _ => trivial
  | registerQuery key spec queryType | deregisterQuery key | doneCallback key =>
      exact ⟨trivial, fun _ => trivial⟩
  | tick key query => exact obeys_tick key query
  | execute key connRef queryType sql timeout tickTs =>
      exact obeys_execute key connRef queryType sql timeout tickTs

end Programs

/-- The calls of the operator with the rule of their turns. -/
def regime : Regime registryLoop where
  rule _ := turnRule
  bodies _ _ := obeys_body _
  forked _ _ _ _ _ := trivial

end Registry

namespace RegistryState

variable {state : RegistryState} {task : Nat} {effect : RegistryEffect} {connRef : String}

theorem isServing_iff :
    state.isServing connRef = true ↔
      ∃ conn connection, state.connections.get? (resourceKey none connRef) = some conn ∧
        state.built[conn]? = some connection ∧ connection.ready = true := by
  unfold isServing getConnection isReady
  cases state.connections.get? (resourceKey none connRef) with
  | none => simp
  | some conn => cases found : state.built[conn]? <;> simp [found]

/-- A connection that is ready stays so until it is taken from the registry. -/
theorem isServing_apply
    {cause : RegistryCause}
    (permitted : state.Permits task effect)
    (mayHave : Registry.turnRule.may cause effect)
    (spared : ¬RemovesFor (resourceKey none connRef) cause)
    (serving : state.isServing connRef = true) :
    (state.apply effect).isServing connRef = true := by
  obtain ⟨conn, connection, registered, built, ready⟩ := isServing_iff.mp serving
  rw [isServing_iff]
  cases effect with
  | withdraw remover key spec =>
      have different : resourceKey none connRef ≠ key := by
        rintro rfl
        exact spared mayHave
      refine ⟨conn, connection, ?_, built, ready⟩
      simp only [RegistryState.apply, Dict.get?_erase, if_neg different]
      exact registered
  | clear remover => exact absurd (mayHave _) spared
  | construct builder key spec credentials =>
      obtain ⟨_, free, _⟩ := permitted
      have different : resourceKey none connRef ≠ key := by
        rintro rfl
        rw [free] at registered
        cases registered
      refine ⟨conn, connection, ?_, ?_, ready⟩
      · simp only [RegistryState.apply, Dict.get?_set, if_neg different]
        exact registered
      · exact (List.getElem?_append_left (List.getElem?_eq_some_iff.mp built).1).trans built
  | becomeReady discovered =>
      by_cases same : discovered = conn
      · subst same
        refine ⟨discovered, { connection with ready := true }, registered, ?_, rfl⟩
        simp [RegistryState.apply, built]
      · refine ⟨conn, connection, registered, ?_, ready⟩
        simp [RegistryState.apply, same, built]
  | _ => exact ⟨conn, connection, registered, built, ready⟩

end RegistryState

end Promch
