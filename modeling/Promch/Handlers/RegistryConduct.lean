import Promch.Handlers.RegistryPermissions

/-!
# The conduct of the handlers

Every handler and execution keeps to the permissions, in any order of the
tasks.  A policy adds an invariant of its own, with precautions that the
environment has to take for it: from which specification a connection may be
built, which connection a created resource may find, what an execution may get,
and whether the registry may be cleared.  All calls are walked through once,
for all policies.
-/

namespace Promch

open EventLoop EventLoop.Coroutine

/-- Why a task of the operator goes on. -/
abbrev RegistryCause : Type :=
  Cause RegistryRequest RegistryRequest.Answer RegistryCall HandlerFault

namespace RegistryState

/-- The connection that a resource has. -/
def connectionOf (state : RegistryState) (key : ResourceKey) : Option BuiltConnection :=
  (state.connections.get? key).bind fun conn => state.built[conn]?

/-- What an execution gets: a connection, with whether it is ready. -/
def obtained (state : RegistryState) (connRef : String) : Option (Nat × Bool) :=
  (state.getConnection connRef).map fun conn => (conn, state.isReady conn)

end RegistryState

/-- What the environment has to take care of. -/
structure RegistryPrecautions where
  /-- A connection may be built from a specification, given the last lifecycle
  event of the resource. -/
  mayRegister : ConnectionResource → Option (Nat × Option ConnectionResource) → Prop :=
    fun _ _ => True
  /-- A resource that is created or resumed may have the given connection. -/
  mayFind : ConnectionResource → Option BuiltConnection → Prop := fun _ _ => True
  /-- An execution may get the given connection, or none. -/
  mayObtain : Option (Nat × Bool) → Prop := fun _ => True
  /-- The registry may be cleared. -/
  mayClear : Prop := True

namespace RegistryPrecautions

variable (precautions : RegistryPrecautions)

/-- The precautions hold for an effect. -/
def Respects (effect : RegistryEffect) (state : RegistryState) : Prop :=
  match effect with
  | .observe _ key spec => precautions.mayFind spec (state.connectionOf key)
  | .construct _ key spec _ => precautions.mayRegister spec (state.lastEvent key)
  | .clear _ => precautions.mayClear
  | .report _ obtained _ _ _ => precautions.mayObtain obtained
  | _ => True

/-- A resource without a connection may get one. -/
def MayEnsure (key : ResourceKey) (spec : ConnectionResource) (state : RegistryState) : Prop :=
  state.connections.get? key = none → precautions.mayRegister spec (state.lastEvent key)

/-- The environment takes the precautions when it lets a task go on. -/
def Allowed (cause : RegistryCause) (state : RegistryState) : Prop :=
  match cause with
  | .began (.present resourceNamespace name spec) =>
      precautions.mayFind spec (state.connectionOf (resourceKey resourceNamespace name))
  | .began (.recheck resourceNamespace name spec)
  | .began (.topology resourceNamespace name spec) =>
      spec.authSecretRef = none →
        precautions.MayEnsure (resourceKey resourceNamespace name) spec state
  | .began (.execute _ connRef _ _ _ _) => precautions.mayObtain (state.obtained connRef)
  | .began .cleanup => precautions.mayClear
  | .answered (.close (some (key, spec)) _) (.ok _) =>
      spec.authSecretRef = none → precautions.MayEnsure key spec state
  | .answered (.readSecret key spec secretNamespace _) (.ok data) =>
      ∀ ref, spec.authSecretRef = some ref →
        (credentialsOf secretNamespace ref data).isOk → precautions.MayEnsure key spec state
  | _ => True

end RegistryPrecautions

/-- An invariant of the operator and the precautions that it needs. -/
structure RegistryPolicy extends RegistryPrecautions where
  inv : RegistryState → Prop
  keeps : ∀ {task effect state}, state.Wellformed → inv state →
    state.Permits task effect → toRegistryPrecautions.Respects effect state →
      inv (state.apply effect)
  /-- An event may bring a connection for its own specification. -/
  registersOwn : ∀ task spec, mayRegister spec (some (task, some spec))

namespace RegistryPolicy

/-- The contract of all tasks of the operator under a policy. -/
def contract (policy : RegistryPolicy) : Contract registryLoop where
  may task effect state := state.Permits task effect ∧ policy.Respects effect state
  inv state := state.Wellformed ∧ policy.inv state
  keeps invariant permitted :=
    ⟨invariant.1.apply permitted.1,
      policy.keeps invariant.1 invariant.2 permitted.1 permitted.2⟩
  allowed _ cause state := policy.Allowed cause state
  asks task _ state := state.Settled task
  joins task state := state.Settled task
  begins _ _ := True
  mentions task state := state.Mentions task
  ends task _ outcome state :=
    state.Settled task ∧ (¬policy.mayClear → outcome.isOk → state.Served task)
  begins_stable _ _ begins := begins
  begins_forked _ _ _ _ := trivial
  asks_stable _ _ := fun _ _ _ different _ permitted settled =>
    settled.apply permitted.1 different
  joins_stable _ := fun _ _ _ different _ permitted settled =>
    settled.apply permitted.1 different
  ends_stable _ _ _ := by
    intro other effect state different _ permitted ends
    refine ⟨ends.1.apply permitted.1 different, fun stays returned => ?_⟩
    refine (ends.2 stays returned).apply permitted.1 different ?_
    rintro remover rfl
    exact stays permitted.2
  unmentioned_stable _ := fun _ _ _ different _ permitted unnamed =>
    RegistryState.not_mentions_apply unnamed permitted.1 different

variable {policy : RegistryPolicy} {task conn : Nat} {state : RegistryState}
variable {key : ResourceKey} {spec : ConnectionResource}
variable {announced : Option ConnectionResource}

/-- The other tasks leave alone what a task knows of its own histories. -/
theorem stable_standing :
    policy.contract.Stable task fun state =>
      state.Fresh task ∧ state.Owns task key announced :=
  fun _ _ _ different _ permitted standing =>
    ⟨standing.1.apply permitted.1 different, standing.2.apply permitted.1 different⟩

theorem stable_owns :
    policy.contract.Stable task fun state => state.Owns task key announced :=
  fun _ _ _ different _ permitted owns => owns.apply permitted.1 different

theorem stable_served :
    policy.contract.Stable task fun state => ¬policy.mayClear → state.Served task := by
  intro other effect state different _ permitted served stays
  refine (served stays).apply permitted.1 different ?_
  rintro remover rfl
  exact stays permitted.2

/-- A task that announces no specification has nothing to serve. -/
theorem served_of_owns_none (owns : state.Owns task key none) : state.Served task := by
  intro other spec event
  cases (owns other (some spec) event).2

/-! ## Connections -/

/-- The credentials of a resource are resolved for it, and where they come from
a Secret, the environment has taken care when it let the task go on. -/
private theorem safe_resolveCredentials
    {goal : Except HandlerFault Credentials → RegistryState → Prop}
    (invariant : policy.contract.inv state)
    (settled : state.Settled task)
    (fresh : state.Fresh task)
    (owns : state.Owns task key announced)
    (mayEnsure : spec.authSecretRef = none → policy.MayEnsure key spec state)
    (resolved : ∀ credentials later, policy.contract.inv later → later.Settled task →
      later.Fresh task → later.Owns task key announced → policy.MayEnsure key spec later →
      later.Resolved spec credentials → goal (.ok credentials) later)
    (failed : ∀ fault later, later.Settled task → later.Fresh task →
      goal (.error fault) later) :
    policy.contract.Safe task (Registry.resolveCredentials key spec) goal state := by
  unfold Registry.resolveCredentials
  cases reference : spec.authSecretRef with
  | none =>
      refine resolved _ _ invariant settled fresh owns (mayEnsure reference) ?_
      simp only [RegistryState.Resolved, reference]
  | some ref =>
      simp only [Contract.safe_bind, Contract.safe_gets, Contract.safe_andThen_ok]
      refine Contract.safe_await (fun later => (later.Fresh task ∧ later.Owns task key announced) ∧
        later.operatorNamespace = state.operatorNamespace) ?_ settled ⟨⟨fresh, owns⟩, rfl⟩ ?_
      · refine stable_standing.and fun _ _ _ _ _ _ same => ?_
        exact RegistryState.operatorNamespace_apply.trans same
      · rintro later outcome invariantLater settledLater ⟨⟨freshLater, ownsLater⟩, same⟩ _ allowed
        cases outcome with
        | error fault => exact failed fault later settledLater freshLater
        | ok data =>
            have permitted : policy.contract.may task
                (.receiveSecret state.operatorNamespace ref.name data) later :=
              ⟨trivial, trivial⟩
            simp only [Contract.safe_andThen_ok, Contract.safe_bind, Contract.safe_emit,
              Contract.safe_conclude]
            refine ⟨permitted, ?_⟩
            cases found : credentialsOf state.operatorNamespace ref data with
            | error fault => exact failed fault _ settledLater freshLater
            | ok credentials =>
                refine resolved credentials _ (policy.contract.keeps invariantLater permitted)
                  settledLater freshLater ownsLater
                  (allowed ref reference (by rw [found]; rfl)) ?_
                simp only [RegistryState.Resolved, reference, registryLoop, RegistryState.apply]
                refine ⟨data, ?_, ?_⟩
                · rw [same]
                  exact List.mem_cons_self
                · rw [same]
                  exact found

/-- A caller gets the connection that is registered at that moment. -/
private theorem safe_give
    {goal : Except HandlerFault Nat → RegistryState → Prop}
    (invariant : policy.contract.inv state)
    (settled : state.Settled task)
    (owns : state.Owns task key announced)
    (found : state.connections.get? key = some conn)
    (got : ∀ conn later, policy.contract.inv later → later.Settled task →
      later.Owns task key announced → later.connections.get? key = some conn →
      goal (.ok conn) later) :
    policy.contract.Safe task (Registry.give key conn) goal state := by
  have permitted : policy.contract.may task (.give key conn) state := ⟨found, trivial⟩
  simp only [Registry.give, Contract.safe_bind, Contract.safe_emit, Contract.safe_andThen_ok]
  exact ⟨permitted, got conn _ (policy.contract.keeps invariant permitted) settled owns found⟩

/-- A task that has not touched the registry yet gets the connection of its
resource, or fails and leaves no entry behind. -/
private theorem safe_ensureConnection
    {goal : Except HandlerFault Nat → RegistryState → Prop}
    (invariant : policy.contract.inv state)
    (settled : state.Settled task)
    (fresh : state.Fresh task)
    (owns : state.Owns task key announced)
    (mayEnsure : spec.authSecretRef = none → policy.MayEnsure key spec state)
    (got : ∀ conn later, policy.contract.inv later → later.Settled task →
      later.Owns task key announced → later.connections.get? key = some conn →
      goal (.ok conn) later)
    (failed : ∀ fault later, later.Settled task → goal (.error fault) later) :
    policy.contract.Safe task (Registry.ensureConnection key spec) goal state := by
  simp only [Registry.ensureConnection, Contract.safe_bind, Contract.safe_gets,
    Contract.safe_andThen_ok]
  cases first : state.connections.get? key with
  | some conn => exact safe_give invariant settled owns first got
  | none =>
      simp only [Contract.safe_bind, Contract.safe_attempt, Contract.safe_andThen_ok]
      apply safe_resolveCredentials invariant settled fresh owns mayEnsure
      · intro credentials later invariantLater settledLater freshLater ownsLater ensures resolved
        simp only [Contract.safe_bind, Contract.safe_gets, Contract.safe_andThen_ok]
        cases second : later.connections.get? key with
        | some conn => exact safe_give invariantLater settledLater ownsLater second got
        | none =>
            have permitted : policy.contract.may task
                (.construct task key spec credentials) later :=
              ⟨⟨rfl, second, freshLater.1, resolved⟩, ensures second⟩
            simp only [Registry.construct, Contract.safe_bind, Contract.safe_gets,
              Contract.safe_currentTask, Contract.safe_emit, Contract.safe_andThen_ok,
              Contract.safe_pure]
            refine ⟨permitted, ?_⟩
            exact safe_give (policy.contract.keeps invariantLater permitted) settledLater
              ownsLater (Dict.get?_set_self _ _ _) got
      · intro fault later settledLater freshLater
        simp only [Contract.safe_bind, Contract.safe_currentTask, Contract.safe_andThen_ok,
          Contract.safe_emit, Contract.safe_raise]
        exact ⟨⟨⟨rfl, freshLater.2⟩, trivial⟩, failed _ _ settledLater⟩

/-- A discovery cycle leaves true what the other tasks do. -/
private theorem safe_discover
    {pass : DiscoveryPass}
    (settled : state.Settled task)
    (served : ¬policy.mayClear → state.Served task) :
    policy.contract.Safe task (Registry.discover pass conn)
      (policy.contract.ends task call) state := by
  simp only [Registry.discover, Registry.ask, Contract.safe_bind]
  refine Contract.safe_await _ stable_served settled served ?_
  intro later outcome _ settledLater servedLater _ _
  cases outcome with
  | error fault => exact ⟨settledLater, fun _ returned => by cases returned⟩
  | ok status =>
      simp only [Contract.safe_andThen_ok, Contract.safe_bind, Contract.safe_emit,
        Contract.safe_pure]
      exact ⟨⟨trivial, trivial⟩, settledLater, fun stays _ => servedLater stays⟩

/-- A task calls the `close` of the only connection that it still owes it to. -/
private theorem safe_close
    {successor : Option (ResourceKey × ConnectionResource)}
    {goal : Except HandlerFault Unit → RegistryState → Prop}
    (owed : ∀ popped, (task, popped) ∈ state.popped →
      popped = conn ∨ (task, popped) ∈ state.closings)
    (fresh : state.Fresh task)
    (owns : state.Owns task key announced)
    (closed : ∀ outcome later, policy.contract.inv later → later.Settled task →
      later.Fresh task → later.Owns task key announced →
      policy.Allowed (.answered (.close successor conn) outcome) later → goal outcome later) :
    policy.contract.Safe task (Registry.close successor conn) goal state := by
  -- The program is one write, followed by one await.
  refine ⟨⟨rfl, trivial⟩, fun _ => ?_⟩
  refine Contract.safe_await _ stable_standing ?_ (by exact ⟨fresh, owns⟩) ?_
  · intro popped member
    obtain rfl | before := owed popped member
    · exact List.mem_cons_self
    · exact List.mem_cons_of_mem _ before
  · intro later outcome invariantLater settledLater standing _ allowed
    exact closed outcome later invariantLater settledLater standing.1 standing.2 allowed

/-- Popping the entry of a resource is recorded under the task, which calls the
`close` of the connection that it popped. -/
private theorem safe_withdraw
    {goal : Except HandlerFault Unit → RegistryState → Prop}
    (invariant : policy.contract.inv state)
    (unnamed : ¬state.Mentions task)
    (withdrawn : ∀ later, policy.contract.inv later → later.Settled task →
      later.Fresh task → later.Owns task key announced →
      (∀ spec, announced = some spec → spec.authSecretRef = none →
        policy.MayEnsure key spec later) → goal (.ok ()) later)
    (failed : ∀ fault later, later.Settled task → goal (.error fault) later) :
    policy.contract.Safe task (Registry.withdraw key announced) goal state := by
  have permitted : policy.contract.may task (.withdraw task key announced) state :=
    ⟨rfl, trivial⟩
  have invariantLater := policy.contract.keeps invariant permitted
  have fresh : (state.apply (.withdraw task key announced)).Fresh task :=
    state.fresh_of_not_mentions unnamed
  have owns : (state.apply (.withdraw task key announced)).Owns task key announced := by
    intro other found event
    by_cases same : other = key
    · subst same
      simp only [RegistryState.apply, Function.update_self] at event
      exact ⟨rfl, (Prod.mk.inj (Option.some.inj event)).2.symm⟩
    · simp only [RegistryState.apply, Function.update_of_ne same] at event
      exact absurd (.inl ⟨other, found, event⟩) unnamed
  have popped_of_mem : ∀ popped, (task, popped) ∈
      (state.apply (.withdraw task key announced)).popped →
        state.connections.get? key = some popped := by
    intro popped member
    obtain now | before := List.mem_append.mp member
    · obtain ⟨_, found, same⟩ := List.mem_map.mp now
      exact (Prod.mk.inj same).2 ▸ Option.mem_toList.mp found
    · exact absurd (.inr (.inl ⟨popped, before⟩)) unnamed
  simp only [Registry.withdraw, Contract.safe_bind, Contract.safe_gets,
    Contract.safe_currentTask, Contract.safe_andThen_ok, Contract.safe_emit]
  refine ⟨permitted, ?_⟩
  cases old : state.connections.get? key with
  | none =>
      refine withdrawn _ invariantLater ?_ fresh owns ?_
      · intro popped member
        have found := popped_of_mem popped member
        rw [old] at found
        cases found
      · rintro spec rfl _ _
        simp only [registryLoop, RegistryState.apply, Function.update_self]
        exact policy.registersOwn task spec
  | some conn =>
      refine safe_close ?_ fresh owns ?_
      · intro popped member
        have found := popped_of_mem popped member
        rw [old] at found
        exact .inl (Option.some.inj found).symm
      · intro outcome later invariantLater settledLater freshLater ownsLater allowed
        cases outcome with
        | error fault => exact failed fault later settledLater
        | ok answer =>
            refine withdrawn later invariantLater settledLater freshLater ownsLater ?_
            rintro spec rfl withoutSecret
            exact allowed withoutSecret

/-! ## The handlers -/

/-- What follows in every handler that ensures a connection: one discovery
cycle. -/
private theorem safe_ensureAndDiscover
    {pass : DiscoveryPass}
    (invariant : policy.contract.inv state)
    (settled : state.Settled task)
    (fresh : state.Fresh task)
    (owns : state.Owns task key announced)
    (mayEnsure : spec.authSecretRef = none → policy.MayEnsure key spec state) :
    policy.contract.Safe task (Registry.onConnectionTimer pass key spec)
      (policy.contract.ends task call) state := by
  simp only [Registry.onConnectionTimer, Contract.safe_bind]
  apply safe_ensureConnection invariant settled fresh owns mayEnsure
  · intro conn later _ settledLater ownsLater found
    refine safe_discover settledLater fun _ other spec event => ?_
    obtain ⟨rfl, _⟩ := ownsLater other (some spec) event
    exact ⟨conn, found⟩
  · exact fun fault later settledLater => ⟨settledLater, fun _ returned => by cases returned⟩

private theorem owns_of_not_mentions
    (key : ResourceKey)
    (unnamed : ¬state.Mentions task) :
    state.Owns task key none :=
  fun other found event => absurd (.inl ⟨other, found, event⟩) unnamed

private theorem safe_onConnectionTimer
    {pass : DiscoveryPass}
    (invariant : policy.contract.inv state)
    (unnamed : ¬state.Mentions task)
    (mayEnsure : spec.authSecretRef = none → policy.MayEnsure key spec state) :
    policy.contract.Safe task (Registry.onConnectionTimer pass key spec)
      (policy.contract.ends task call) state :=
  safe_ensureAndDiscover invariant (state.settled_of_not_mentions unnamed)
    (state.fresh_of_not_mentions unnamed)
    (owns_of_not_mentions key unnamed) mayEnsure

private theorem safe_onConnectionPresent
    (invariant : policy.contract.inv state)
    (unnamed : ¬state.Mentions task)
    (mayFind : policy.mayFind spec (state.connectionOf key)) :
    policy.contract.Safe task (Registry.onConnectionPresent key spec)
      (policy.contract.ends task call) state := by
  have permitted : policy.contract.may task (.observe task key spec) state := ⟨rfl, mayFind⟩
  have owns : (state.apply (.observe task key spec)).Owns task key (some spec) := by
    intro other found event
    by_cases same : other = key
    · subst same
      simp only [RegistryState.apply, Function.update_self] at event
      exact ⟨rfl, (Prod.mk.inj (Option.some.inj event)).2.symm⟩
    · simp only [RegistryState.apply, Function.update_of_ne same] at event
      exact absurd (.inl ⟨other, found, event⟩) unnamed
  simp only [Registry.onConnectionPresent, Contract.safe_bind, Contract.safe_currentTask,
    Contract.safe_andThen_ok, Contract.safe_emit]
  refine ⟨permitted, ?_⟩
  rw [← Contract.safe_bind]
  refine safe_ensureAndDiscover (policy.contract.keeps invariant permitted)
    (state.settled_of_not_mentions unnamed) (state.fresh_of_not_mentions unnamed) owns ?_
  intro _ _
  simp only [registryLoop, RegistryState.apply, Function.update_self]
  exact policy.registersOwn task spec

private theorem safe_onConnectionUpdate
    (invariant : policy.contract.inv state)
    (unnamed : ¬state.Mentions task) :
    policy.contract.Safe task (Registry.onConnectionUpdate key spec)
      (policy.contract.ends task call) state := by
  rw [Registry.onConnectionUpdate, Contract.safe_bind]
  apply safe_withdraw invariant unnamed
  · intro later invariantLater settledLater freshLater ownsLater mayEnsure
    exact safe_ensureAndDiscover invariantLater settledLater freshLater ownsLater
      (mayEnsure spec rfl)
  · exact fun fault later settledLater => ⟨settledLater, fun _ returned => by cases returned⟩

private theorem safe_onConnectionDelete
    (invariant : policy.contract.inv state)
    (unnamed : ¬state.Mentions task) :
    policy.contract.Safe task (Registry.onConnectionDelete key)
      (policy.contract.ends task call) state := by
  rw [Registry.onConnectionDelete, Contract.safe_bind]
  apply safe_withdraw invariant unnamed
  · intro later _ settledLater _ ownsLater _
    exact ⟨settledLater, fun _ _ => served_of_owns_none ownsLater⟩
  · exact fun fault later settledLater => ⟨settledLater, fun _ returned => by cases returned⟩

/-- A task without a specification of its own may end at any time. -/
private theorem ends_of_owns_none
    {outcome : Except HandlerFault HandlerValue}
    (settled : state.Settled task)
    (owns : state.Owns task key none) :
    policy.contract.ends task call outcome state :=
  ⟨settled, fun _ _ => served_of_owns_none owns⟩

private theorem safe_closeBounded
    (unnamed : ¬state.Mentions task) :
    policy.contract.Safe task (Registry.closeBounded conn)
      (policy.contract.ends task call) state := by
  simp only [Registry.closeBounded, Contract.safe_bind, Contract.safe_attempt,
    Contract.safe_andThen_ok]
  refine safe_close ?_ (state.fresh_of_not_mentions unnamed)
    (owns_of_not_mentions ("", "") unnamed) ?_
  · exact fun popped member => absurd (.inr (.inl ⟨popped, member⟩)) unnamed
  · intro outcome later _ settledLater _ ownsLater _
    cases outcome with
    | ok answer => exact ends_of_owns_none settledLater ownsLater
    | error fault => cases fault <;> exact ends_of_owns_none settledLater ownsLater

private theorem safe_onOperatorCleanup
    (unnamed : ¬state.Mentions task)
    (mayClear : policy.mayClear) :
    policy.contract.Safe task Registry.onOperatorCleanup
      (policy.contract.ends task call) state := by
  have settled := state.settled_of_not_mentions unnamed
  have permitted : policy.contract.may task (.clear task) state := ⟨rfl, mayClear⟩
  have ended : ∀ (outcome : Except HandlerFault HandlerValue) (later : RegistryState),
      later.Settled task → policy.contract.ends task call outcome later :=
    fun outcome later settledLater => ⟨settledLater, fun stays => absurd mayClear stays⟩
  simp only [Registry.onOperatorCleanup, Contract.safe_bind, Contract.safe_gets,
    Contract.safe_currentTask, Contract.safe_andThen_ok]
  split
  · simp only [Contract.safe_bind, Contract.safe_emit, Contract.safe_andThen_ok,
      Contract.safe_pure]
    exact ⟨permitted, ended _ _ (by exact settled)⟩
  · rw [Contract.safe_bind]
    refine Contract.safe_emitAndJoin (fun _ => True) (fun _ _ _ _ _ _ _ => trivial) permitted
      (by exact settled) trivial ?_
    intro later outcome _ settledLater _ _
    cases outcome with
    | error fault => exact ended _ later settledLater
    | ok results => exact ended _ later settledLater

/-! ## Queries -/

private theorem safe_tick
    {queryKey : String}
    {query : ScheduledQuery}
    (settled : state.Settled task)
    (owns : state.Owns task key none) :
    policy.contract.Safe task (Registry.tick queryKey query)
      (policy.contract.ends task call) state := by
  have ended : policy.contract.ends task call (.ok .nothing) state :=
    ends_of_owns_none settled owns
  simp only [Registry.tick, Registry.readClock, Contract.safe_bind, Contract.safe_gets,
    Contract.safe_andThen_ok]
  split
  · exact ended
  · simp only [Contract.safe_bind, Contract.safe_gets, Contract.safe_andThen_ok]
    cases serving : state.isServing query.connectionRef with
    | false =>
        simp only [Bool.not_false, if_true, Contract.safe_bind, Contract.safe_emit,
          Contract.safe_andThen_ok, Contract.safe_pure]
        exact ⟨⟨trivial, trivial⟩, by exact ended⟩
    | true =>
        simp only [Bool.not_true, Bool.false_eq_true, if_false, Contract.safe_bind,
          Contract.safe_gets, Contract.safe_emit, Contract.safe_andThen_ok, Contract.safe_pure]
        refine ⟨⟨trivial, trivial⟩, ?_⟩
        split <;> simp only [Contract.safe_bind, Contract.safe_emit, Contract.safe_andThen_ok,
          Contract.safe_pure]
        · exact ⟨⟨trivial, trivial⟩, by exact ended⟩
        · exact ⟨⟨by exact serving, trivial⟩, by exact ended⟩

private theorem safe_runQuery
    {queryType : QueryType}
    {sql : String}
    {timeout : Time}
    {goal : Except HandlerFault (Time → ExecutionOutcome) → RegistryState → Prop}
    (settled : state.Settled task)
    (owns : state.Owns task key none)
    (finished : ∀ outcome later, later.Settled task → later.Owns task key none →
      goal outcome later) :
    policy.contract.Safe task (Registry.runQuery conn queryType sql timeout) goal state := by
  unfold Registry.runQuery Registry.ask
  cases queryType with
  | system | data =>
      simp only [Contract.safe_bind, Contract.safe_gets, Contract.safe_andThen_ok]
      refine Contract.safe_await _ stable_owns settled owns ?_
      intro later outcome _ settledLater ownsLater _ _
      cases outcome with
      | ok answer => exact finished _ later settledLater ownsLater
      | error fault => exact finished _ later settledLater ownsLater

private theorem safe_reportException
    {connRef : String}
    {queryType : QueryType}
    {exception : Raised}
    {goal : Except HandlerFault ExecutionOutcome → RegistryState → Prop}
    (reported : ∀ outcome, goal (.ok outcome) state) :
    policy.contract.Safe task (Registry.reportException connRef queryType exception)
      goal state := by
  simp only [Registry.reportException, Contract.safe_bind, Contract.safe_gets,
    Contract.safe_andThen_ok]
  split
  · simp only [Contract.safe_bind, Contract.safe_gets, Contract.safe_andThen_ok,
      Contract.safe_pure]
    exact reported _
  · exact reported _

private theorem safe_report
    {queryKey : String}
    {obtained : Option (Nat × Bool)}
    {ended : ClockReading → ExecutionEnd}
    {tickTs : Time}
    {goal : Except HandlerFault Unit → RegistryState → Prop}
    (settled : state.Settled task)
    (owns : state.Owns task key none)
    (mayObtain : policy.mayObtain obtained)
    (finished : ∀ outcome later, later.Settled task → later.Owns task key none →
      goal outcome later) :
    policy.contract.Safe task (do
      let finished ← Registry.readClock
      emit (.report queryKey obtained (ended finished) tickTs finished.now)) goal state := by
  simp only [Registry.readClock, Contract.safe_bind, Contract.safe_gets, Contract.safe_emit,
    Contract.safe_andThen_ok, Contract.safe_pure]
  exact ⟨⟨trivial, trivial⟩, ⟨trivial, mayObtain⟩,
    finished _ _ (by exact settled) (by exact owns)⟩

/-- An execution reports on the connection that it got when it began. -/
private theorem safe_executeQuery
    {queryKey connRef : String}
    {queryType : QueryType}
    {sql : String}
    {timeout tickTs : Time}
    {goal : Except HandlerFault Unit → RegistryState → Prop}
    (settled : state.Settled task)
    (owns : state.Owns task key none)
    (mayObtain : policy.mayObtain (state.obtained connRef))
    (finished : ∀ outcome later, later.Settled task → later.Owns task key none →
      goal outcome later) :
    policy.contract.Safe task
      (Registry.executeQuery queryKey connRef queryType sql timeout tickTs) goal state := by
  unfold Registry.executeQuery
  rw [Contract.safe_bind]
  simp only [Registry.readClock, Contract.safe_bind, Contract.safe_gets, Contract.safe_emit,
    Contract.safe_andThen_ok, Contract.safe_pure]
  refine ⟨⟨trivial, trivial⟩, ?_⟩
  have settledBegun : (registryLoop.apply .lookAtClock state).Settled task := settled
  have ownsBegun : (registryLoop.apply .lookAtClock state).Owns task key none := owns
  replace mayObtain :
      policy.mayObtain ((registryLoop.apply .lookAtClock state).obtained connRef) := mayObtain
  generalize registryLoop.apply .lookAtClock state = begun at settledBegun ownsBegun mayObtain ⊢
  cases looked : begun.getConnection connRef with
  | none =>
      rw [RegistryState.obtained, looked] at mayObtain
      exact safe_report settledBegun ownsBegun mayObtain finished
  | some conn =>
      rw [RegistryState.obtained, looked] at mayObtain
      simp only [Contract.safe_bind, Contract.safe_gets, Contract.safe_attempt,
        Contract.safe_andThen_ok]
      refine safe_runQuery settledBegun ownsBegun ?_
      intro outcome later settledLater ownsLater
      cases outcome with
      | ok report => exact safe_report settledLater ownsLater mayObtain finished
      | error fault =>
          cases caught : fault.exception? with
          | none =>
              simp only [caught]
              exact finished _ later settledLater ownsLater
          | some exception =>
              simp only [caught]
              rw [Contract.safe_bind]
              apply safe_reportException
              exact fun outcome => safe_report settledLater ownsLater mayObtain finished

private theorem safe_execute
    {queryKey connRef : String}
    {queryType : QueryType}
    {sql : String}
    {timeout tickTs : Time}
    (settled : state.Settled task)
    (owns : state.Owns task key none)
    (mayObtain : policy.mayObtain (state.obtained connRef)) :
    policy.contract.Safe task
      (Registry.execute queryKey connRef queryType sql timeout tickTs)
      (policy.contract.ends task call) state := by
  simp only [Registry.execute, Contract.safe_bind, Contract.safe_attempt,
    Contract.safe_andThen_ok, Contract.safe_emit, Contract.safe_conclude]
  apply safe_executeQuery settled owns mayObtain
  intro outcome later settledLater ownsLater
  refine ⟨⟨trivial, trivial⟩, ?_⟩
  cases outcome with
  | ok done => exact ends_of_owns_none (by exact settledLater) (by exact ownsLater)
  | error fault => exact ends_of_owns_none (by exact settledLater) (by exact ownsLater)

/-! ## All calls -/

/-- Every call of the operator keeps to the contract of every policy. -/
theorem safeBodies (policy : RegistryPolicy) : policy.contract.SafeBodies := by
  intro task call state invariant _ unnamed allowed
  have settled : state.Settled task := state.settled_of_not_mentions unnamed
  have owns : state.Owns task ("", "") none := owns_of_not_mentions ("", "") unnamed
  have collects : ∀ op, policy.contract.Safe task (do
      emit (.collect op)
      return .nothing : Handler HandlerValue) (policy.contract.ends task call) state := by
    intro op
    simp only [Contract.safe_bind, Contract.safe_emit, Contract.safe_andThen_ok,
      Contract.safe_pure]
    exact ⟨⟨trivial, trivial⟩, ends_of_owns_none (by exact settled) (by exact owns)⟩
  cases call with
  | present resourceNamespace name spec =>
      exact safe_onConnectionPresent invariant unnamed allowed
  | update resourceNamespace name spec => exact safe_onConnectionUpdate invariant unnamed
  | recheck resourceNamespace name spec =>
      exact safe_onConnectionTimer invariant unnamed allowed
  | topology resourceNamespace name spec =>
      exact safe_onConnectionTimer invariant unnamed allowed
  | delete resourceNamespace name => exact safe_onConnectionDelete invariant unnamed
  | cleanup => exact safe_onOperatorCleanup unnamed allowed
  | closeBounded conn => exact safe_closeBounded unnamed
  | registerQuery key spec queryType => exact collects _
  | deregisterQuery key => exact collects _
  | tick key query => exact safe_tick settled owns
  | execute key connRef queryType sql timeout tickTs => exact safe_execute settled owns allowed
  | doneCallback key => exact collects _

/-- Every run of the operator in which the environment takes the precautions of
a policy is sound for it. -/
theorem sound_of_reaches
    {condition : RegistrySystem → RegistryAction → Prop}
    {config : SchedulerConfig}
    {operatorNamespace : String}
    {clock : Nat → ClockReading}
    {memberHosts : Nat → Nat → List String}
    {system : RegistrySystem}
    (policy : RegistryPolicy)
    (initial : policy.inv (RegistryState.start config operatorNamespace clock memberHosts))
    (permits : ∀ before action, condition before action →
      policy.contract.Permits before action)
    (reaches : registryLoop.Reaches condition
      (RegistrySystem.start config operatorNamespace clock memberHosts) system) :
    policy.contract.Sound system := by
  have sound : policy.contract.Sound
      (RegistrySystem.start config operatorNamespace clock memberHosts) :=
    Contract.sound_idle
      ⟨RegistryState.wellformed_start config operatorNamespace clock memberHosts, initial⟩
      (RegistryState.not_mentions_start config operatorNamespace clock memberHosts)
  exact sound.reaches policy.safeBodies permits reaches

/-- Whenever no task runs, all of them have called the `close` of what they
popped. -/
theorem closings_of_popped
    {system : RegistrySystem}
    (sound : policy.contract.Sound system)
    (popped : (task, conn) ∈ system.state.popped) :
    (task, conn) ∈ system.state.closings := by
  obtain ⟨⟨call, status⟩, found, begun⟩ := sound.named task (.inr (.inl ⟨conn, popped⟩))
  have holds := sound.tasks task _ found
  have settled : system.state.Settled task := by
    cases status with
    | created => cases begun
    | awaiting request next => exact holds.1
    | joining children next => exact holds.1
    | ended outcome => exact holds.1
  exact settled conn popped

/-- A step is permitted when the environment takes every precaution where it
matters. -/
theorem permits_of_precautions
    {system : RegistrySystem}
    {action : RegistryAction}
    (policy : RegistryPolicy)
    (begins : ∀ task call, action = .begin task →
      system.tasks[task]?.map Task.call = some call →
        policy.Allowed (.began call) system.state)
    (closes : ∀ task key spec conn, spec.authSecretRef = none →
      action = .answer task (.close (some (key, spec)) conn) (.ok ()) →
        policy.MayEnsure key spec system.state)
    (reads : ∀ task key spec secretNamespace name data ref, spec.authSecretRef = some ref →
      (credentialsOf secretNamespace ref data).isOk →
      action = .answer task (.readSecret key spec secretNamespace name) (.ok data) →
        policy.MayEnsure key spec system.state) :
    policy.contract.Permits system action := by
  cases action with
  | start call | join task failed => trivial
  | begin task =>
      intro entry found
      exact begins task entry.call rfl (by rw [found]; rfl)
  | answer task request outcome =>
      cases request with
      | readSecret key spec secretNamespace name =>
          cases outcome with
          | ok data =>
              exact fun ref reference resolved =>
                reads task key spec secretNamespace name data ref reference resolved rfl
          | error fault => trivial
      | close successor conn =>
          cases successor with
          | none => trivial
          | some successor =>
              cases outcome with
              | ok answer =>
                  exact fun withoutSecret =>
                    closes task successor.1 successor.2 conn withoutSecret rfl
              | error fault => trivial
      | discover pass conn | executeSystemQuery conn sql timeout nodeLabel
      | executeDataQuery conn sql timeout => trivial

/-- Once every task has ended without an exception, the resource that a task was
the last to announce has a connection, unless the registry was cleared. -/
theorem served_of_succeeded
    {system : RegistrySystem}
    (sound : policy.contract.Sound system)
    (stays : ¬policy.mayClear)
    (succeeded : system.Succeeded)
    (event : system.state.lastEvent key = some (task, some spec)) :
    ∃ conn, system.state.connections.get? key = some conn := by
  obtain ⟨call, value, ended⟩ :=
    sound.ends_of_succeeded succeeded (.inl ⟨key, some spec, event⟩)
  exact ended.2 stays rfl key spec event

end RegistryPolicy

end Promch
