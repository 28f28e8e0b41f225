import Promch.Handlers.RegistryConduct

/-!
# The account of the connections

Whatever the order in which handlers create, update, delete and clean up,
every connection that was ever built is registered under exactly one key, or
was removed from the registry by exactly one handler, which closes it.
-/

namespace Promch

open EventLoop

/-- Only handlers and ticks are called from outside. -/
def callsHandlers (_ : RegistrySystem) : RegistryAction → Bool
  | .start call => call.isHandler
  | _ => true

/-- A policy without precautions. -/
def freePolicy : RegistryPolicy where
  inv _ := True
  keeps _ _ _ _ := trivial
  registersOwn _ _ := trivial

theorem freePolicy_permits
    (system : RegistrySystem)
    (action : RegistryAction) :
    freePolicy.contract.Permits system action := by
  apply freePolicy.permits_of_precautions
  · intro task call _ _
    cases call <;> first | trivial | exact fun _ _ => trivial
  · exact fun _ _ _ _ _ _ _ => trivial
  · exact fun _ _ _ _ _ _ _ _ _ _ _ => trivial

namespace RegistryState

/-- The tasks that removed a connection from the registry. -/
def removers (state : RegistryState) (conn : Nat) : List Nat :=
  ((state.popped ++ state.cleared).filter fun entry => entry.2 = conn).map Prod.fst

theorem mem_removers_iff
    {state : RegistryState}
    {task conn : Nat} :
    task ∈ state.removers conn ↔
      (task, conn) ∈ state.popped ∨ (task, conn) ∈ state.cleared := by
  simp [removers]

theorem length_removers
    (state : RegistryState)
    (conn : Nat) :
    (state.removers conn).length = state.removals conn := by
  rw [removers, List.length_map, removals, List.countP_eq_length_filter]

end RegistryState

/-- No connection is duplicated or lost. -/
structure RegistrySystem.Accounted (system : RegistrySystem) : Prop where
  /-- A key has one entry at most, whose connection was built for it. -/
  single : ∀ key, system.state.connections.keys.count key ≤ 1 ∧
    ∀ conn, system.state.connections.get? key = some conn →
      ∃ connection, system.state.built[conn]? = some connection ∧ connection.key = key
  /-- A connection is registered under one key, or one task removed it: it popped
  the connection and called its `close`, or it cleared the registry and created a
  task that closes it. -/
  placed : ∀ conn < system.state.built.length,
    (∃! key, system.state.connections.get? key = some conn) ∧
        system.state.removers conn = [] ∨
      (∀ key, system.state.connections.get? key ≠ some conn) ∧
        ∃ task, system.state.removers conn = [task] ∧
          ((task, conn) ∈ system.state.popped ∧ (task, conn) ∈ system.state.closings ∨
            (task, conn) ∈ system.state.cleared ∧ .closeBounded conn ∈ system.calls)
  /-- A connection was built by some task, and by none that failed to resolve
  credentials. -/
  resolved : ∀ conn < system.state.built.length,
    ∃ task, (task, conn) ∈ system.state.registrations ∧
      ∀ other ∈ system.state.unresolved, (other, conn) ∉ system.state.registrations
  /-- What a caller of `_ensure_connection` got was registered then. -/
  returned : ∀ entry ∈ system.state.returns, entry.2.2 = some entry.2.1

section Runs

variable {config : SchedulerConfig} {operatorNamespace : String}
variable {clock : Nat → ClockReading} {memberHosts : Nat → Nat → List String}
variable {system : RegistrySystem}

/-- The cleanup creates a task for every connection that it clears. -/
theorem closeBounded_mem_calls_of_cleared
    {condition : RegistrySystem → RegistryAction → Prop}
    {task conn : Nat}
    (reaches : registryLoop.Reaches condition
      (RegistrySystem.start config operatorNamespace clock memberHosts) system)
    (cleared : (task, conn) ∈ system.state.cleared) :
    .closeBounded conn ∈ system.calls := by
  have created : ∀ task conn, (task, conn) ∈ system.state.cleared →
      .closeBounded conn ∈ system.calls := by
    apply reaches.keeps fun state calls =>
      ∀ task conn, (task, conn) ∈ state.cleared → .closeBounded conn ∈ calls
    · intro effect state calls known task conn cleared
      cases effect with
      | clear remover =>
          obtain now | before := List.mem_append.mp cleared
          · obtain ⟨_, member, same⟩ := List.mem_map.mp now
            obtain rfl := (Prod.mk.inj same).2
            exact List.mem_append_right _ (List.mem_map_of_mem member)
          · exact List.mem_append_left _ (known task conn before)
      | _ => exact List.mem_append_left _ (known task conn cleared)
    · exact fun _ _ _ known task conn cleared =>
        List.mem_append_left _ (known task conn cleared)
    · exact fun _ _ cleared => by cases cleared
  exact created task conn cleared

/-- The task that closes a cleared connection calls its `close` as soon as it
begins. -/
theorem closing_of_begin_closeBounded
    {task conn : Nat}
    (created : system.tasks[task]? = some ⟨.closeBounded conn, .created⟩) :
    ∃ next, registryLoop.step system (.begin task) = some next ∧
      (task, conn) ∈ next.state.closings := by
  refine ⟨_, by simp only [Machine.step, created]; rfl, ?_⟩
  exact List.mem_cons_self

/-- No connection object is duplicated or lost, and whoever removed one from the
registry closes it. -/
theorem every_connection_accounted
    (reaches : registryLoop.Reaches (fun before action => callsHandlers before action)
      (RegistrySystem.start config operatorNamespace clock memberHosts) system) :
    system.Accounted ∧
      ∀ task conn, system.tasks[task]? = some ⟨.closeBounded conn, .created⟩ →
        ∃ next, registryLoop.step system (.begin task) = some next ∧
          (task, conn) ∈ next.state.closings := by
  have sound := freePolicy.sound_of_reaches trivial
    (fun before action _ => freePolicy_permits before action) reaches
  have wellformed : system.state.Wellformed := sound.invariant.1
  refine ⟨⟨?_, ?_, ?_, wellformed.returned⟩, fun _ _ => closing_of_begin_closeBounded⟩
  · intro key
    exact ⟨List.nodup_iff_count_le_one.mp system.state.connections.nodup_keys key,
      wellformed.keyed key⟩
  · intro conn built
    have counted := system.state.length_removers conn
    refine (wellformed.placed conn built).imp (fun placed => ⟨?_, ?_⟩)
      fun placed => ⟨?_, ?_⟩
    · obtain ⟨key, found⟩ := placed.1
      exact ⟨key, found, fun other again => wellformed.injective again found⟩
    · exact List.length_eq_zero_iff.mp (counted.trans placed.2)
    · exact fun key found => placed.1 ⟨key, found⟩
    · obtain ⟨task, only⟩ := List.length_eq_one_iff.mp (counted.trans placed.2)
      refine ⟨task, only, ?_⟩
      have removed : task ∈ system.state.removers conn := only ▸ List.mem_cons_self
      exact (RegistryState.mem_removers_iff.mp removed).imp
        (fun popped => ⟨popped, RegistryPolicy.closings_of_popped sound popped⟩)
        fun cleared => ⟨cleared, closeBounded_mem_calls_of_cleared reaches cleared⟩
  · intro conn built
    obtain ⟨task, recorded⟩ := wellformed.recorded conn built
    exact ⟨task, recorded, fun other failed => wellformed.failed other failed conn⟩

end Runs

/-- A resource without a Secret. -/
def openResource : ConnectionResource := { seedHosts := ["a"], clusterName := "c" }

/-- A resource with a Secret. -/
def secretResource : ConnectionResource :=
  { openResource with authSecretRef := some { name := "s" } }

/-- A connection is popped by an update while its first discovery cycle is under
way, the next one is cleared at shutdown, and the Secret of a third one cannot
be read. -/
theorem every_connection_accounted_after_update_and_cleanup :
    ∃ system : RegistrySystem,
      system.state.built.length = 2 ∧ system.state.removers 0 = [1] ∧
        system.state.removers 1 = [3] ∧ system.state.unresolved = [2] ∧ system.Accounted ∧
        ∀ task conn, system.tasks[task]? = some ⟨.closeBounded conn, .created⟩ →
          ∃ next, registryLoop.step system (.begin task) = some next ∧
            (task, conn) ∈ next.state.closings := by
  obtain ⟨system, reaches, found⟩ := RegistrySystem.exists_reached callsHandlers
    [.start (.present none "x" openResource), .begin 0,
      .start (.update none "x" openResource), .begin 1,
      .answer 1 (.close (some (("", "x"), openResource)) 0) (.ok ()),
      .start (.recheck none "y" secretResource), .begin 2,
      .answer 2 (.readSecret ("", "y") secretResource "operator" "s")
        (.error (.secretResolution "forbidden")),
      .start .cleanup, .begin 3]
    (fun system => system.state.built.length = 2 ∧ system.state.removers 0 = [1] ∧
      system.state.removers 1 = [3] ∧ system.state.unresolved = [2])
    (by decide +kernel)
  obtain ⟨built, first, second, failed⟩ := of_decide_eq_true found
  exact ⟨system, built, first, second, failed, every_connection_accounted reaches⟩

end Promch
