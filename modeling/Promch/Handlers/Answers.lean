import Promch.Library.Provenance
import Promch.Handlers.ConnectionAccounts

/-!
# What the handlers make of the answers

The handlers record the Secrets that they read, and leave the statuses that their
connections report, and neither comes from anywhere else.  All calls are walked
through once, for whatever is known of the Secrets and of the statuses.
-/

namespace Promch

open EventLoop EventLoop.Coroutine

/-- What is known of the answers to the handlers. -/
structure AnswerFacts where
  secret : String → String → Dict String String → Prop := fun _ _ _ => True
  status : ConnectionStatus → Prop := fun _ => True

namespace AnswerFacts

variable (facts : AnswerFacts)

/-- An answer is as known. -/
def Genuine (request : RegistryRequest) (outcome : Except HandlerFault request.Answer) : Prop :=
  match request, outcome with
  | .readSecret _ _ secretNamespace name, .ok data => facts.secret secretNamespace name data
  | .discover _ _, .ok status => facts.status status
  | _, _ => True

/-- The Secret that an effect records is as known. -/
def Records : RegistryEffect → Prop
  | .receiveSecret secretNamespace name data => facts.secret secretNamespace name data
  | _ => True

/-- The status that a handler leaves is as known. -/
def Leaves : Except HandlerFault HandlerValue → Prop
  | .ok (.patched status) => facts.status status
  | _ => True

/-- Recorded Secrets and statuses come from the answers. -/
def provenance : Provenance freePolicy.contract where
  answers := facts.Genuine
  effects := facts.Records
  results _ := facts.Leaves
  inv state := ∀ secretNamespace name data, (secretNamespace, name, data) ∈ state.secrets →
    facts.secret secretNamespace name data
  keeps {task effect state} _ known _ records := by
    intro secretNamespace name data recorded
    cases effect with
    | receiveSecret readNamespace read received =>
        obtain same | before := List.mem_cons.mp recorded
        · cases same
          exact records
        · exact known _ _ _ before
    | _ => exact known _ _ _ recorded

variable {facts} {task : Nat} {key : ResourceKey} {spec : ConnectionResource}

/-! ## Connections -/

private theorem derives_resolveCredentials :
    facts.provenance.Derives task (Registry.resolveCredentials key spec) fun _ => True := by
  unfold Registry.resolveCredentials
  cases spec.authSecretRef with
  | none => trivial
  | some ref =>
      simp only [Provenance.derives_bind, Provenance.derives_gets,
        Provenance.derives_andThen_ok, Registry.ask, Provenance.derives_await]
      intro state _ _ outcome genuine
      cases outcome with
      | error fault => trivial
      | ok data =>
          simp only [Provenance.derives_andThen_ok, Provenance.derives_bind,
            Provenance.derives_emit, Provenance.derives_conclude, and_true]
          exact genuine

private theorem derives_give (conn : Nat) :
    facts.provenance.Derives task (Registry.give key conn) fun _ => True := by
  simp only [Registry.give, Provenance.derives_bind, Provenance.derives_emit,
    Provenance.derives_andThen_ok, Provenance.derives_pure, and_true]
  trivial

private theorem derives_ensureConnection :
    facts.provenance.Derives task (Registry.ensureConnection key spec) fun _ => True := by
  simp only [Registry.ensureConnection, Provenance.derives_bind, Provenance.derives_gets,
    Provenance.derives_andThen_ok]
  intro state _ _
  cases state.connections.get? key with
  | some conn => exact derives_give conn
  | none =>
      simp only [Provenance.derives_bind, Provenance.derives_attempt,
        Provenance.derives_andThen_ok]
      apply derives_resolveCredentials.mono
      intro outcome _
      cases outcome with
      | error fault =>
          simp only [Provenance.derives_bind, Provenance.derives_currentTask,
            Provenance.derives_andThen_ok, Provenance.derives_emit, Provenance.derives_raise,
            and_true]
          trivial
      | ok credentials =>
          simp only [Provenance.derives_bind, Provenance.derives_gets,
            Provenance.derives_andThen_ok]
          intro later _ _
          cases later.connections.get? key with
          | some conn => exact derives_give conn
          | none =>
              simp only [Registry.construct, Provenance.derives_bind, Provenance.derives_gets,
                Provenance.derives_andThen_ok, Provenance.derives_currentTask,
                Provenance.derives_emit, Provenance.derives_pure]
              exact fun before _ _ => ⟨trivial, derives_give _⟩

/-- A discovery cycle leaves the status that the connection reports. -/
private theorem derives_discover (pass : DiscoveryPass) (conn : Nat) :
    facts.provenance.Derives task (Registry.discover pass conn) facts.Leaves := by
  simp only [Registry.discover, Registry.ask, Provenance.derives_bind, Provenance.derives_await]
  intro outcome genuine
  cases outcome with
  | error fault => trivial
  | ok status =>
      simp only [Provenance.derives_andThen_ok, Provenance.derives_bind,
        Provenance.derives_emit, Provenance.derives_pure]
      exact ⟨trivial, genuine⟩

private theorem derives_ensureAndDiscover (pass : DiscoveryPass) :
    facts.provenance.Derives task
      (Registry.ensureConnection key spec >>= Registry.discover pass) facts.Leaves :=
  derives_ensureConnection.bind (fun _ => trivial) (derives_discover pass)

private theorem derives_close
    (successor : Option (ResourceKey × ConnectionResource))
    (conn : Nat) :
    facts.provenance.Derives task (Registry.close successor conn) fun _ => True :=
  ⟨trivial, fun _ _ _ => trivial⟩

private theorem derives_withdraw (announced : Option ConnectionResource) :
    facts.provenance.Derives task (Registry.withdraw key announced) fun _ => True := by
  simp only [Registry.withdraw, Provenance.derives_bind, Provenance.derives_gets,
    Provenance.derives_andThen_ok, Provenance.derives_currentTask, Provenance.derives_emit]
  refine fun state _ _ => ⟨trivial, ?_⟩
  cases state.connections.get? key with
  | none => trivial
  | some conn => exact derives_close _ conn

/-! ## Queries -/

private theorem derives_runQuery
    (conn : Nat)
    (queryType : QueryType)
    (sql : String)
    (timeout : Time) :
    facts.provenance.Derives task (Registry.runQuery conn queryType sql timeout)
      fun _ => True := by
  cases queryType with
  | system =>
      simp only [Registry.runQuery, Registry.ask, Provenance.derives_bind,
        Provenance.derives_gets, Provenance.derives_andThen_ok, Provenance.derives_await]
      intro state _ _ outcome _
      cases outcome <;> trivial
  | data =>
      simp only [Registry.runQuery, Registry.ask, Provenance.derives_bind,
        Provenance.derives_await]
      intro outcome _
      cases outcome <;> trivial

private theorem derives_reportException
    (connRef : String)
    (queryType : QueryType)
    (exception : Raised) :
    facts.provenance.Derives task (Registry.reportException connRef queryType exception)
      fun _ => True := by
  simp only [Registry.reportException, Provenance.derives_bind, Provenance.derives_gets,
    Provenance.derives_andThen_ok]
  intro state _ _
  split
  · simp only [Provenance.derives_bind, Provenance.derives_gets,
      Provenance.derives_andThen_ok, Provenance.derives_pure, implies_true]
  · trivial

private theorem derives_readClock :
    facts.provenance.Derives task Registry.readClock fun _ => True := by
  simp only [Registry.readClock, Provenance.derives_bind, Provenance.derives_gets,
    Provenance.derives_andThen_ok, Provenance.derives_emit, Provenance.derives_pure, and_true]
  exact fun _ _ _ => trivial

private theorem derives_executeQuery
    (key connRef : String)
    (queryType : QueryType)
    (sql : String)
    (timeout tickTs : Time) :
    facts.provenance.Derives task
      (Registry.executeQuery key connRef queryType sql timeout tickTs) fun _ => True := by
  have reports : ∀ obtained ended now, facts.provenance.Derives task
      (emit (.report key obtained ended tickTs now) : Handler Unit) fun _ => True := by
    intro obtained ended now
    simp only [Provenance.derives_emit, and_true]
    trivial
  refine derives_readClock.bind (fun _ => trivial) fun start => ?_
  simp only [Provenance.derives_bind, Provenance.derives_gets, Provenance.derives_andThen_ok]
  intro state _ _
  cases state.getConnection connRef with
  | none => exact derives_readClock.bind (fun _ => trivial) fun finished => reports _ _ _
  | some conn =>
      simp only [Provenance.derives_bind, Provenance.derives_gets,
        Provenance.derives_andThen_ok, Provenance.derives_attempt]
      intro later _ _
      apply (derives_runQuery conn queryType sql timeout).mono
      intro answer _
      cases answer with
      | ok outcome =>
          exact derives_readClock.bind (fun _ => trivial) fun finished => reports _ _ _
      | error fault =>
          simp only
          cases fault.exception? with
          | none => trivial
          | some exception =>
              refine (derives_reportException connRef queryType exception).bind
                (fun _ => trivial) fun outcome => ?_
              exact derives_readClock.bind (fun _ => trivial) fun finished => reports _ _ _

private theorem derives_tick (key : String) (query : ScheduledQuery) :
    facts.provenance.Derives task (Registry.tick key query) facts.Leaves := by
  simp only [Registry.tick, Provenance.derives_bind, Provenance.derives_gets,
    Provenance.derives_andThen_ok]
  intro state _ _
  cases state.collector.invalidReason key with
  | some reason => trivial
  | none =>
      simp only [Provenance.derives_bind, Provenance.derives_gets,
        Provenance.derives_andThen_ok]
      intro later _ _
      split
      · simp only [Provenance.derives_bind, Provenance.derives_emit,
          Provenance.derives_andThen_ok, Provenance.derives_pure]
        exact ⟨trivial, trivial⟩
      · simp only [Provenance.derives_bind, Provenance.derives_gets,
          Provenance.derives_andThen_ok]
        intro limiting _ _ counting _ _
        refine derives_readClock.bind (fun _ => trivial) fun reading => ?_
        split <;>
          simp only [Provenance.derives_bind, Provenance.derives_emit,
            Provenance.derives_andThen_ok, Provenance.derives_pure] <;>
          exact ⟨trivial, trivial⟩

/-! ## Calls -/

/-- Every call keeps to what is known of the answers. -/
theorem derives_body (call : RegistryCall) :
    facts.provenance.Derives task call.body facts.Leaves := by
  have collects : ∀ op, facts.provenance.Derives task
      (do emit (.collect op); return .nothing : Handler HandlerValue) facts.Leaves := by
    intro op
    simp only [Provenance.derives_bind, Provenance.derives_emit,
      Provenance.derives_andThen_ok, Provenance.derives_pure]
    exact ⟨trivial, trivial⟩
  cases call with
  | present resourceNamespace name spec =>
      simp only [RegistryCall.body, Registry.onConnectionPresent, Provenance.derives_bind,
        Provenance.derives_currentTask, Provenance.derives_andThen_ok,
        Provenance.derives_emit]
      exact ⟨trivial, (Provenance.derives_bind ..).mp (derives_ensureAndDiscover .refresh)⟩
  | update resourceNamespace name spec =>
      exact (derives_withdraw (some spec)).bind (fun _ => trivial)
        fun _ => derives_ensureAndDiscover .refresh
  | recheck resourceNamespace name spec => exact derives_ensureAndDiscover .recheck
  | topology resourceNamespace name spec => exact derives_ensureAndDiscover .rediscover
  | delete resourceNamespace name =>
      exact (derives_withdraw none).bind (fun _ => trivial) fun _ => trivial
  | cleanup =>
      simp only [RegistryCall.body, Registry.onOperatorCleanup, Provenance.derives_bind,
        Provenance.derives_gets, Provenance.derives_andThen_ok,
        Provenance.derives_currentTask]
      intro state _ _
      split
      · simp only [Provenance.derives_bind, Provenance.derives_emit,
          Provenance.derives_andThen_ok, Provenance.derives_pure]
        exact ⟨trivial, trivial⟩
      · simp only [Provenance.derives_bind, Provenance.derives_emitAndJoin]
        refine ⟨trivial, fun outcome => ?_⟩
        cases outcome <;> trivial
  | closeBounded conn =>
      simp only [RegistryCall.body, Registry.closeBounded, Provenance.derives_bind,
        Provenance.derives_attempt, Provenance.derives_andThen_ok]
      apply (derives_close none conn).mono
      intro outcome _
      split <;> trivial
  | registerQuery key spec queryType => exact collects _
  | deregisterQuery key => exact collects _
  | tick key query => exact derives_tick key query
  | execute key connRef queryType sql timeout tickTs =>
      simp only [RegistryCall.body, Registry.execute, Provenance.derives_bind,
        Provenance.derives_attempt, Provenance.derives_andThen_ok]
      apply (derives_executeQuery key connRef queryType sql timeout tickTs).mono
      intro outcome _
      simp only [Provenance.derives_bind, Provenance.derives_emit,
        Provenance.derives_andThen_ok, Provenance.derives_conclude]
      refine ⟨trivial, ?_⟩
      cases outcome <;> trivial
  | doneCallback key => exact collects _

/-- In every run with such answers, the recorded Secrets and the statuses that the
handlers leave are as known. -/
theorem of_reaches
    {condition : RegistrySystem → RegistryAction → Prop}
    {config : SchedulerConfig}
    {operatorNamespace : String}
    {clock : Nat → ClockReading}
    {memberHosts : Nat → Nat → List String}
    {system : RegistrySystem}
    (facts : AnswerFacts)
    (genuine : ∀ before task request outcome,
      condition before (.answer task request outcome) → facts.Genuine request outcome)
    (reaches : registryLoop.Reaches condition
      (RegistrySystem.start config operatorNamespace clock memberHosts) system) :
    (∀ secretNamespace name data, (secretNamespace, name, data) ∈ system.state.secrets →
      facts.secret secretNamespace name data) ∧
      ∀ (task : Nat) call outcome, system.tasks[task]? = some ⟨call, .ended outcome⟩ →
        facts.Leaves outcome := by
  refine Provenance.of_reaches freePolicy.safeBodies (fun _ call => derives_body call) ?_
    (RegistryState.not_mentions_start config operatorNamespace clock memberHosts)
    (fun before action _ => freePolicy_permits before action) genuine reaches
  refine ⟨⟨RegistryState.wellformed_start config operatorNamespace clock memberHosts, trivial⟩, ?_⟩
  intro secretNamespace name data recorded
  cases recorded

end AnswerFacts

end Promch
