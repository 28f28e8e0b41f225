import Promch.Handlers.Registry

/-!
# What the handlers may do

For every effect the state in which a task may have it, whatever the other
tasks do: a connection is registered only under a free key, with credentials
that were resolved for it, and every change is recorded under the task that
makes it.  These permissions keep an account of every connection ever built.
-/

namespace Promch

open EventLoop EventLoop.Coroutine

namespace RegistryState

/-- The credentials are those of the Secret that a resource refers to, as it
was read at some time. -/
def Resolved
    (state : RegistryState)
    (spec : ConnectionResource)
    (credentials : Credentials) : Prop :=
  match spec.authSecretRef with
  | none => credentials = noCredentials
  | some ref =>
      ∃ data, (state.operatorNamespace, ref.name, data) ∈ state.secrets ∧
        credentialsOf state.operatorNamespace ref data = .ok credentials

/-- A connection is registered. -/
def IsRegistered (state : RegistryState) (conn : Nat) : Prop :=
  ∃ key, state.connections.get? key = some conn

/-- How often a connection was removed from the registry. -/
def removals (state : RegistryState) (conn : Nat) : Nat :=
  (state.popped ++ state.cleared).countP fun entry => entry.2 = conn

/-- A task has called the `close` of every connection that it popped. -/
def Settled (task : Nat) (state : RegistryState) : Prop :=
  ∀ conn, (task, conn) ∈ state.popped → (task, conn) ∈ state.closings

/-- A task has neither built a connection nor failed to resolve credentials. -/
def Fresh (task : Nat) (state : RegistryState) : Prop :=
  task ∉ state.unresolved ∧ ∀ conn, (task, conn) ∉ state.registrations

/-- The lifecycle events of a task concern one key, and come with the given
specification. -/
def Owns
    (task : Nat)
    (key : ResourceKey)
    (spec : Option ConnectionResource)
    (state : RegistryState) : Prop :=
  ∀ other announced, state.lastEvent other = some (task, announced) →
    other = key ∧ announced = spec

/-- The resource that a task was the last to announce has a connection. -/
def Served (task : Nat) (state : RegistryState) : Prop :=
  ∀ key spec, state.lastEvent key = some (task, some spec) →
    ∃ conn, state.connections.get? key = some conn

/-- The histories name a task. -/
def Mentions (task : Nat) (state : RegistryState) : Prop :=
  (∃ key spec, state.lastEvent key = some (task, spec)) ∨
    (∃ conn, (task, conn) ∈ state.popped) ∨ ¬state.Fresh task

/-- What a task may do to the shared state. -/
def Permits (state : RegistryState) (task : Nat) : RegistryEffect → Prop
  | .observe observer _ _ => observer = task
  | .withdraw remover _ _ => remover = task
  | .clear remover => remover = task
  | .callClose closer _ => closer = task
  | .failToResolve failed => failed = task ∧ ∀ conn, (task, conn) ∉ state.registrations
  | .construct builder key spec credentials =>
      builder = task ∧ state.connections.get? key = none ∧ task ∉ state.unresolved ∧
        state.Resolved spec credentials
  | .give key conn => state.connections.get? key = some conn
  | .launch _ query _ => state.isServing query.connectionRef = true
  | _ => True

/-- Every connection ever built is accounted for. -/
structure Wellformed (state : RegistryState) : Prop where
  /-- A registered connection was built for its key. -/
  keyed : ∀ key conn, state.connections.get? key = some conn →
    ∃ connection, state.built[conn]? = some connection ∧ connection.key = key
  /-- A connection is registered, or was removed once. -/
  placed : ∀ conn < state.built.length,
    state.IsRegistered conn ∧ state.removals conn = 0 ∨
      ¬state.IsRegistered conn ∧ state.removals conn = 1
  /-- Only connections that were built have been removed. -/
  removed : ∀ task conn, (task, conn) ∈ state.popped ++ state.cleared →
    conn < state.built.length
  resolved : ∀ connection ∈ state.built,
    state.Resolved connection.resource connection.credentials
  /-- Every connection was built by some task. -/
  recorded : ∀ conn < state.built.length, ∃ task, (task, conn) ∈ state.registrations
  /-- A task that failed to resolve credentials has built no connection. -/
  failed : ∀ task ∈ state.unresolved, ∀ conn, (task, conn) ∉ state.registrations
  /-- The callers of `_ensure_connection` got what was registered then. -/
  returned : ∀ entry ∈ state.returns, entry.2.2 = some entry.2.1

variable {state : RegistryState} {task other : Nat} {effect : RegistryEffect}

/-! ## What the other tasks leave alone -/

theorem lastEvent_of_apply
    {key : ResourceKey}
    {spec : Option ConnectionResource}
    (permitted : state.Permits other effect)
    (different : other ≠ task)
    (event : (state.apply effect).lastEvent key = some (task, spec)) :
    state.lastEvent key = some (task, spec) := by
  have unchanged : ∀ (observer : Nat) (observed : ResourceKey) (found : Option ConnectionResource),
      observer = other →
      Function.update state.lastEvent observed (some (observer, found)) key =
        some (task, spec) →
      state.lastEvent key = some (task, spec) := by
    rintro observer observed found rfl updated
    by_cases same : key = observed
    · subst same
      rw [Function.update_self] at updated
      exact absurd (Prod.mk.inj (Option.some.inj updated)).1 different
    · rwa [Function.update_of_ne same] at updated
  cases effect with
  | observe observer observed found => exact unchanged observer observed _ permitted event
  | withdraw remover removed found => exact unchanged remover removed found permitted event
  | _ => exact event

theorem popped_of_apply
    {conn : Nat}
    (permitted : state.Permits other effect)
    (different : other ≠ task)
    (popped : (task, conn) ∈ (state.apply effect).popped) :
    (task, conn) ∈ state.popped := by
  cases effect with
  | withdraw remover key found =>
      obtain rfl : remover = other := permitted
      obtain now | before := List.mem_append.mp popped
      · obtain ⟨_, _, same⟩ := List.mem_map.mp now
        exact absurd (Prod.mk.inj same).1 different
      · exact before
  | _ => exact popped

theorem Fresh.apply
    (fresh : state.Fresh task)
    (permitted : state.Permits other effect)
    (different : other ≠ task) :
    (state.apply effect).Fresh task := by
  cases effect with
  | failToResolve failed =>
      obtain ⟨rfl, _⟩ := permitted
      refine ⟨fun failing => ?_, fresh.2⟩
      obtain rfl | before := List.mem_cons.mp failing
      · exact different rfl
      · exact fresh.1 before
  | construct builder key spec credentials =>
      obtain ⟨rfl, _⟩ := permitted
      refine ⟨fresh.1, fun conn built => ?_⟩
      obtain same | before := List.mem_cons.mp built
      · exact different (Prod.mk.inj same).1.symm
      · exact fresh.2 conn before
  | _ => exact fresh

theorem Settled.apply
    (settled : state.Settled task)
    (permitted : state.Permits other effect)
    (different : other ≠ task) :
    (state.apply effect).Settled task := by
  intro conn popped
  have closing := settled conn (popped_of_apply permitted different popped)
  cases effect with
  | callClose closer closed => exact List.mem_cons_of_mem _ closing
  | _ => exact closing

theorem Owns.apply
    {key : ResourceKey}
    {spec : Option ConnectionResource}
    (owns : state.Owns task key spec)
    (permitted : state.Permits other effect)
    (different : other ≠ task) :
    (state.apply effect).Owns task key spec :=
  fun found announced event =>
    owns found announced (lastEvent_of_apply permitted different event)

/-- Unless the registry is cleared, a resource loses its connection only to an
event of its own. -/
theorem Served.apply
    (served : state.Served task)
    (permitted : state.Permits other effect)
    (different : other ≠ task)
    (kept : ∀ remover, effect ≠ .clear remover) :
    (state.apply effect).Served task := by
  intro key spec event
  obtain ⟨conn, found⟩ := served key spec (lastEvent_of_apply permitted different event)
  cases effect with
  | clear remover => exact absurd rfl (kept remover)
  | withdraw remover withdrawn announced =>
      obtain rfl : remover = other := permitted
      by_cases same : key = withdrawn
      · subst same
        simp only [RegistryState.apply, Function.update_self] at event
        exact absurd (Prod.mk.inj (Option.some.inj event)).1 different
      · refine ⟨conn, ?_⟩
        simp only [RegistryState.apply, Dict.get?_erase]
        rw [if_neg same]
        exact found
  | construct builder built spec credentials =>
      by_cases same : key = built
      · subst same
        exact ⟨_, Dict.get?_set_self _ _ _⟩
      · refine ⟨conn, ?_⟩
        simp only [RegistryState.apply, Dict.get?_set, if_neg same]
        exact found
  | _ => exact ⟨conn, found⟩

theorem not_mentions_apply
    (unnamed : ¬state.Mentions task)
    (permitted : state.Permits other effect)
    (different : other ≠ task) :
    ¬(state.apply effect).Mentions task := by
  rintro (⟨key, spec, event⟩ | ⟨conn, popped⟩ | stale)
  · exact unnamed (.inl ⟨key, spec, lastEvent_of_apply permitted different event⟩)
  · exact unnamed (.inr (.inl ⟨conn, popped_of_apply permitted different popped⟩))
  · refine unnamed (.inr (.inr fun fresh => stale ?_))
    exact fresh.apply permitted different

/-- A task that the histories do not name has left nothing to do. -/
theorem settled_of_not_mentions (unnamed : ¬state.Mentions task) : state.Settled task :=
  fun conn popped => absurd (.inr (.inl ⟨conn, popped⟩)) unnamed

theorem fresh_of_not_mentions (unnamed : ¬state.Mentions task) : state.Fresh task :=
  Classical.byContradiction fun stale => unnamed (.inr (.inr stale))

/-! ## What every effect keeps -/

theorem operatorNamespace_apply :
    (state.apply effect).operatorNamespace = state.operatorNamespace := by
  cases effect <;> rfl

theorem Resolved.apply
    {spec : ConnectionResource}
    {credentials : Credentials}
    (resolved : state.Resolved spec credentials) :
    (state.apply effect).Resolved spec credentials := by
  have kept : state.secrets ⊆ (state.apply effect).secrets := by
    cases effect with
    | receiveSecret secretNamespace name data => exact List.subset_cons_self _ _
    | _ => exact List.Subset.refl _
  unfold Resolved at resolved ⊢
  rw [operatorNamespace_apply]
  split at resolved
  · exact resolved
  · obtain ⟨data, read, found⟩ := resolved
    exact ⟨data, kept read, found⟩

/-- Popping an entry removes the connection under the key. -/
theorem removals_withdraw
    (task conn : Nat)
    (key : ResourceKey)
    (spec : Option ConnectionResource) :
    (state.apply (.withdraw task key spec)).removals conn =
      (if state.connections.get? key = some conn then 1 else 0) + state.removals conn := by
  simp only [removals, RegistryState.apply, List.append_assoc, List.countP_append]
  cases state.connections.get? key <;> simp [List.countP_singleton]

/-- Clearing the registry removes what is registered. -/
theorem removals_clear (task conn : Nat) :
    (state.apply (.clear task)).removals conn =
      state.registered.count conn + state.removals conn := by
  have now : (state.registered.map (task, ·)).countP (fun entry => entry.2 = conn) =
      state.registered.count conn := by
    rw [List.countP_map]
    rfl
  simp only [removals, RegistryState.apply, List.countP_append, now]
  omega

namespace Wellformed

/-- A connection is registered under one key at most. -/
theorem injective
    {key otherKey : ResourceKey}
    {conn : Nat}
    (wellformed : state.Wellformed)
    (found : state.connections.get? key = some conn)
    (again : state.connections.get? otherKey = some conn) :
    key = otherKey := by
  obtain ⟨connection, position, rfl⟩ := wellformed.keyed key conn found
  obtain ⟨_, same, rfl⟩ := wellformed.keyed otherKey conn again
  rw [position] at same
  rw [Option.some.inj same]

theorem lt_of_isRegistered
    {conn : Nat}
    (wellformed : state.Wellformed)
    (registered : state.IsRegistered conn) :
    conn < state.built.length := by
  obtain ⟨key, found⟩ := registered
  obtain ⟨_, position, _⟩ := wellformed.keyed key conn found
  exact (List.getElem?_eq_some_iff.mp position).1

theorem mem_registered_iff (conn : Nat) :
    conn ∈ state.registered ↔ state.IsRegistered conn := by
  simp only [registered, Dict.values, List.mem_map, Prod.exists, Dict.mem_entries_iff,
    IsRegistered, exists_eq_right]

theorem nodup_registered (wellformed : state.Wellformed) : state.registered.Nodup := by
  apply List.Nodup.of_map fun conn => (state.built[conn]?).map BuiltConnection.key
  have keys : state.registered.map (fun conn => (state.built[conn]?).map BuiltConnection.key) =
      state.connections.keys.map some := by
    rw [registered, Dict.values, Dict.keys, List.map_map, List.map_map]
    apply List.map_congr_left
    intro entry member
    obtain ⟨connection, position, keyed⟩ :=
      wellformed.keyed entry.1 entry.2 ((Dict.mem_entries_iff _ _ _).mp member)
    simp [position, keyed]
  rw [keys]
  exact state.connections.nodup_keys.map (Option.some_injective _)

/-- What was built is accounted for in the same way after an effect that
changes neither the registry nor what was removed. -/
theorem of_same
    {next : RegistryState}
    (wellformed : state.Wellformed)
    (connections : next.connections = state.connections)
    (keys : next.built.map BuiltConnection.key = state.built.map BuiltConnection.key)
    (popped : next.popped = state.popped)
    (cleared : next.cleared = state.cleared)
    (registrations : next.registrations = state.registrations)
    (resolved : ∀ connection ∈ next.built,
      next.Resolved connection.resource connection.credentials)
    (failed : ∀ task ∈ next.unresolved, ∀ conn, (task, conn) ∉ state.registrations)
    (returned : ∀ entry ∈ next.returns, entry.2.2 = some entry.2.1) :
    next.Wellformed := by
  have sameLength : next.built.length = state.built.length := by
    simpa using congrArg List.length keys
  have sameRemovals : ∀ conn, next.removals conn = state.removals conn := by
    intro conn
    rw [removals, removals, popped, cleared]
  refine ⟨?_, ?_, ?_, resolved, ?_, ?_, returned⟩
  · intro key conn found
    rw [connections] at found
    obtain ⟨connection, position, keyed⟩ := wellformed.keyed key conn found
    have sameKey : (next.built.map BuiltConnection.key)[conn]? = some key := by
      rw [keys, List.getElem?_map, position, ← keyed]
      rfl
    rw [List.getElem?_map] at sameKey
    exact Option.map_eq_some_iff.mp sameKey
  · intro conn built
    rw [sameLength] at built
    simpa only [IsRegistered, connections, sameRemovals] using wellformed.placed conn built
  · rw [popped, cleared, sameLength]
    exact wellformed.removed
  · rw [sameLength, registrations]
    exact wellformed.recorded
  · rw [registrations]
    exact failed

theorem withdraw
    {key : ResourceKey}
    {spec : Option ConnectionResource}
    (wellformed : state.Wellformed) :
    (state.apply (.withdraw task key spec)).Wellformed := by
  have found_of_erase : ∀ {other conn},
      (state.connections.erase key).get? other = some conn →
        other ≠ key ∧ state.connections.get? other = some conn := by
    intro other conn found
    rw [Dict.get?_erase] at found
    split at found
    · cases found
    · next different => exact ⟨different, found⟩
  constructor
  · exact fun other conn found => wellformed.keyed other conn (found_of_erase found).2
  · intro conn built
    rw [removals_withdraw]
    by_cases here : state.connections.get? key = some conn
    · refine .inr ⟨?_, ?_⟩
      · rintro ⟨other, found⟩
        obtain ⟨different, found⟩ := found_of_erase found
        exact different (wellformed.injective found here)
      · have placed := wellformed.placed conn built
        rw [if_pos here]
        obtain ⟨_, none⟩ | ⟨absent, _⟩ := placed
        · rw [none]
        · exact absurd ⟨key, here⟩ absent
    · rw [if_neg here, Nat.zero_add]
      refine (wellformed.placed conn built).imp (fun placed => ⟨?_, placed.2⟩)
        fun placed => ⟨?_, placed.2⟩
      · obtain ⟨other, found⟩ := placed.1
        have different : other ≠ key := fun same => here (same ▸ found)
        refine ⟨other, ?_⟩
        simp only [RegistryState.apply, Dict.get?_erase, if_neg different]
        exact found
      · rintro ⟨other, found⟩
        exact placed.1 ⟨other, (found_of_erase found).2⟩
  · intro remover conn member
    simp only [RegistryState.apply, List.mem_append, List.mem_map] at member
    obtain (⟨popped, now, same⟩ | before) | before := member
    · obtain rfl : popped = conn := (Prod.mk.inj same).2
      exact wellformed.lt_of_isRegistered ⟨key, Option.mem_toList.mp now⟩
    · exact wellformed.removed remover conn (List.mem_append_left _ before)
    · exact wellformed.removed remover conn (List.mem_append_right _ before)
  · exact wellformed.resolved
  · exact wellformed.recorded
  · exact wellformed.failed
  · exact wellformed.returned

theorem clear (wellformed : state.Wellformed) : (state.apply (.clear task)).Wellformed := by
  have nobody : ∀ conn, ¬(state.apply (.clear task)).IsRegistered conn := by
    rintro conn ⟨key, found⟩
    simp [RegistryState.apply] at found
  constructor
  · exact fun key conn found => absurd ⟨key, found⟩ (nobody conn)
  · intro conn built
    refine .inr ⟨nobody conn, ?_⟩
    rw [removals_clear]
    obtain ⟨registered, none⟩ | ⟨absent, once⟩ := wellformed.placed conn built
    · rw [none, List.count_eq_one_of_mem wellformed.nodup_registered
        ((mem_registered_iff conn).mpr registered)]
    · rw [once, List.count_eq_zero_of_not_mem
        (fun member => absent ((mem_registered_iff conn).mp member))]
  · intro remover conn member
    simp only [RegistryState.apply, List.mem_append, List.mem_map] at member
    obtain before | ⟨cleared, now, same⟩ | before := member
    · exact wellformed.removed remover conn (List.mem_append_left _ before)
    · obtain rfl : cleared = conn := (Prod.mk.inj same).2
      exact wellformed.lt_of_isRegistered ((mem_registered_iff cleared).mp now)
    · exact wellformed.removed remover conn (List.mem_append_right _ before)
  · exact wellformed.resolved
  · exact wellformed.recorded
  · exact wellformed.failed
  · exact wellformed.returned

theorem construct
    {builder : Nat}
    {key : ResourceKey}
    {spec : ConnectionResource}
    {credentials : Credentials}
    (wellformed : state.Wellformed)
    (permitted : state.Permits task (.construct builder key spec credentials)) :
    (state.apply (.construct builder key spec credentials)).Wellformed := by
  obtain ⟨rfl, free, resolving, resolved⟩ := permitted
  have found_of_set : ∀ {other conn},
      (state.connections.set key state.built.length).get? other = some conn →
        other = key ∧ conn = state.built.length ∨
          other ≠ key ∧ state.connections.get? other = some conn := by
    intro other conn found
    rw [Dict.get?_set] at found
    split at found
    · next same => exact .inl ⟨same, (Option.some.inj found).symm⟩
    · next different => exact .inr ⟨different, found⟩
  have found_before : ∀ {other conn}, state.connections.get? other = some conn →
      (state.connections.set key state.built.length).get? other = some conn := by
    intro other conn found
    have different : other ≠ key := by
      rintro rfl
      rw [free] at found
      cases found
    rw [Dict.get?_set, if_neg different]
    exact found
  constructor
  · intro other conn found
    obtain ⟨rfl, rfl⟩ | ⟨_, found⟩ := found_of_set found
    · exact ⟨_, List.getElem?_concat_length, rfl⟩
    · obtain ⟨connection, position, keyed⟩ := wellformed.keyed other conn found
      have inside := (List.getElem?_eq_some_iff.mp position).1
      exact ⟨connection, (List.getElem?_append_left inside).trans position, keyed⟩
  · intro conn built
    simp only [RegistryState.apply, List.length_append, List.length_singleton] at built
    obtain older | rfl := Nat.lt_succ_iff_lt_or_eq.mp built
    · refine (wellformed.placed conn older).imp (fun placed => ⟨?_, placed.2⟩)
        fun placed => ⟨?_, placed.2⟩
      · obtain ⟨other, found⟩ := placed.1
        exact ⟨other, found_before found⟩
      · rintro ⟨other, found⟩
        obtain ⟨_, rfl⟩ | ⟨_, found⟩ := found_of_set found
        · exact absurd older (Nat.lt_irrefl _)
        · exact placed.1 ⟨other, found⟩
    · refine .inl ⟨⟨key, Dict.get?_set_self _ _ _⟩, ?_⟩
      refine List.countP_eq_zero.mpr fun entry member => ?_
      have inside := wellformed.removed entry.1 entry.2 member
      simpa using Nat.ne_of_lt inside
  · intro remover conn member
    have inside := wellformed.removed remover conn member
    simp only [RegistryState.apply, List.length_append, List.length_singleton]
    exact Nat.lt_succ_of_lt inside
  · intro connection member
    obtain before | now := List.mem_append.mp member
    · exact wellformed.resolved connection before
    · obtain rfl := List.mem_singleton.mp now
      exact resolved
  · intro conn built
    simp only [RegistryState.apply, List.length_append, List.length_singleton] at built
    obtain older | rfl := Nat.lt_succ_iff_lt_or_eq.mp built
    · obtain ⟨other, recorded⟩ := wellformed.recorded conn older
      exact ⟨other, List.mem_cons_of_mem _ recorded⟩
    · exact ⟨builder, List.mem_cons_self⟩
  · intro failed member conn built
    obtain same | before := List.mem_cons.mp built
    · rw [(Prod.mk.inj same).1] at member
      exact resolving member
    · exact wellformed.failed failed member conn before
  · exact wellformed.returned

/-- Every permitted effect keeps the registry well formed. -/
theorem apply
    (wellformed : state.Wellformed)
    (permitted : state.Permits task effect) :
    (state.apply effect).Wellformed := by
  have resolved : ∀ connection ∈ state.built,
      (state.apply effect).Resolved connection.resource connection.credentials :=
    fun connection member => (wellformed.resolved connection member).apply
  cases effect with
  | withdraw remover key spec => exact wellformed.withdraw
  | clear remover => exact wellformed.clear
  | construct builder key spec credentials => exact wellformed.construct permitted
  | failToResolve failed =>
      obtain ⟨rfl, nothing⟩ := permitted
      refine wellformed.of_same rfl rfl rfl rfl rfl resolved ?_ wellformed.returned
      intro other member conn
      obtain rfl | before := List.mem_cons.mp member
      · exact nothing conn
      · exact wellformed.failed other before conn
  | give key conn =>
      refine wellformed.of_same rfl rfl rfl rfl rfl resolved wellformed.failed ?_
      intro entry member
      obtain rfl | before := List.mem_cons.mp member
      · exact permitted
      · exact wellformed.returned entry before
  | becomeReady conn =>
      refine wellformed.of_same rfl ?_ rfl rfl rfl ?_ wellformed.failed wellformed.returned
      · apply List.ext_getElem?
        intro position
        simp only [RegistryState.apply, List.getElem?_map, List.getElem?_modify]
        split <;> cases state.built[position]? <;> rfl
      · intro connection member
        obtain ⟨position, found⟩ := List.mem_iff_getElem?.mp member
        simp only [RegistryState.apply, List.getElem?_modify] at found
        obtain ⟨before, position, rfl⟩ := Option.map_eq_some_iff.mp found
        have known := resolved before (List.mem_of_getElem? position)
        split <;> exact known
  | observe observer key spec | callClose closer conn | receiveSecret secretNamespace name data
  | lookAtClock | collect op | launch key query tickTs
  | report key obtained ended tickTs now | finish key =>
      exact wellformed.of_same rfl rfl rfl rfl rfl resolved wellformed.failed wellformed.returned

end Wellformed

theorem wellformed_start
    (config : SchedulerConfig)
    (operatorNamespace : String)
    (clock : Nat → ClockReading)
    (memberHosts : Nat → Nat → List String) :
    (start config operatorNamespace clock memberHosts).Wellformed := by
  constructor <;> simp [start]

theorem not_mentions_start
    (config : SchedulerConfig)
    (operatorNamespace : String)
    (clock : Nat → ClockReading)
    (memberHosts : Nat → Nat → List String)
    (task : Nat) :
    ¬(start config operatorNamespace clock memberHosts).Mentions task := by
  simp [Mentions, Fresh, start]

end RegistryState

end Promch
