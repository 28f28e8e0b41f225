import Promch.Clickhouse.ClientLeaks

/-!
# Clients that are taken from their users

A call that fails on its client closes the client that is current by then, which
may be a newer one, on which other calls rely.
-/

namespace Promch

open EventLoop

namespace NodeObject

/-- Every client discarded after a failure is the one that the failed call was
using. -/
def DiscardsItsOwn (object : NodeObject) : Prop :=
  ∀ own client, (own, client) ∈ object.discards → own = some client

/-- A call that fails on the given client finds no newer one: the node has no
client by then, or the factory has not returned another one since. -/
def IsLastUsed (object : NodeObject) (client : Nat) : Prop :=
  object.client = none ∨ object.made = client + 1

instance (object : NodeObject) (client : Nat) : Decidable (object.IsLastUsed client) :=
  inferInstanceAs (Decidable (object.client = none ∨ object.made = client + 1))

/-- A failed call that finds no newer client discards its own. -/
theorem DiscardsItsOwn.apply
    {object : NodeObject}
    {task : Nat}
    {change : NodeEffect}
    {clock : ClockReading}
    (discardsItsOwn : object.DiscardsItsOwn)
    (newest : object.Newest)
    (permitted : object.Permits task change)
    (fails : ∀ client, change = .discard (some client) → object.IsLastUsed client) :
    (object.apply clock change).DiscardsItsOwn := by
  intro own client member
  cases change with
  | discard used =>
      obtain ⟨failed, rfl, _⟩ := permitted
      simp only [NodeObject.apply, discard] at member
      split at member
      · exact discardsItsOwn own client member
      · next current found =>
          obtain ⟨rfl, rfl⟩ | older := (List.mem_cons.mp member).imp_left Prod.mk.inj
          · have made := (fails failed rfl).resolve_left (by simp [found])
            have last := newest _ found
            exact congrArg some (by omega)
          · exact discardsItsOwn own client older
  | callClose closer =>
      simp only [NodeObject.apply, callClose] at member
      split at member <;> exact discardsItsOwn own client member
  | _ => exact discardsItsOwn own client member

end NodeObject

/-- Failed calls discard their own clients, as long as they find no newer ones. -/
def failurePolicy : Policy where
  mayDiscard client current made := current = none ∨ made = client + 1
  inv state := ∀ n, (state.objects n).DiscardsItsOwn
  keeps {task effect state} wellformed discardsItsOwn permitted respects := by
    intro n
    obtain ⟨change, rfl, after⟩ | after | ⟨_, _, _, _, after⟩ | ⟨_, _, _, after⟩ :=
      state.objects_apply_cases effect n
    · rw [after]
      apply (discardsItsOwn n).apply (wellformed.newest n) permitted.2
      rintro client rfl
      exact respects client rfl
    · rw [after]
      exact discardsItsOwn n
    · rw [after]
      exact discardsItsOwn n
    · rw [after]
      intro own client member
      cases member

/-- The condition under which a failure only discards the client it was
observed on: a query or a ping that fails on connection level finds no newer
client than the one it was using. -/
def failsOnTheLastClient (system : ConnectionSystem) : ConnectionAction → Bool
  | .start call => system.state.Exists call
  | .answer _ (.query n client _ _) (.error (.driver error)) =>
      error.isConnectionLevel → (system.state.objects n).IsLastUsed client
  | .answer _ (.ping n client) (.error fault) =>
      fault.isUnreachable → (system.state.objects n).IsLastUsed client
  | _ => true

private theorem failurePolicy_permits
    {system : ConnectionSystem}
    {action : ConnectionAction}
    (met : failsOnTheLastClient system action = true) :
    failurePolicy.contract.Permits system action := by
  apply failurePolicy.permits_of_precautions
  · exact fun _ => trivial
  · rintro call rfl
    exact of_decide_eq_true met
  · exact fun _ _ _ => trivial
  · exact fun _ _ _ _ _ _ => trivial
  · exact fun _ _ _ _ _ => trivial
  · rintro task n client sql limit error level rfl
    exact of_decide_eq_true met level
  · rintro task n client fault unreachable rfl
    exact of_decide_eq_true met unreachable

section Runs

variable {spec : PoolSpec} {clock : Nat → ClockReading} {picks : Nat → Nat}
variable {system : ConnectionSystem}

/-- Whenever a call that failed on connection level discards a client, it is
the client that this call was using. -/
theorem failure_discards_own_client
    (reaches : connectionLoop.Reaches
      (fun before action => failsOnTheLastClient before action)
      (ConnectionSystem.fresh spec clock picks) system) :
    ∀ n own client, (own, client) ∈ (system.state.objects n).discards →
      own = some client := by
  refine (failurePolicy.sound_of_reaches ?_ (fun _ _ => failurePolicy_permits)
    reaches).invariant.2
  intro n
  obtain ⟨host, ident, reading, unused⟩ := ConnectionState.objects_create spec clock picks n
  rw [unused]
  intro own client member
  cases member

end Runs

theorem failure_discards_own_client_after_reset :
    ∃ system : ConnectionSystem, (system.state.objects 0).discards = [(some 0, 0)] ∧
      ∀ n own client, (own, client) ∈ (system.state.objects n).discards →
        own = some client := by
  obtain ⟨system, reaches, discards⟩ := ConnectionSystem.exists_reached failsOnTheLastClient
    oneSeed seconds (fun _ => 0)
    [.start (.query 0 "q" 10), .begin 0, .answer 0 (.factory 0) (.ok ()),
      .start (.ping 0), .begin 1,
      .answer 0 (.query 0 0 "q" 10) (.error (.driver (.operational "reset"))),
      .answer 1 (.ping 0 0) (.error (.driver (.transport "reset")))]
    (fun system => (system.state.objects 0).discards = [(some 0, 0)])
    (by decide +kernel)
  exact ⟨system, of_decide_eq_true discards, failure_discards_own_client reaches⟩

/-- Queries and pings of one node only. -/
def usesNode (n : Nat) (_ : ConnectionSystem) : ConnectionAction → Bool
  | .start (.query m _ _) => m = n
  | .start (.ping m) => m = n
  | .start _ => false
  | _ => true

/-- A query that fails late, on a client that has been replaced, closes the new
client, on which another query is under way. -/
theorem late_failure_discards_newer_client :
    ¬∀ (spec : PoolSpec) (clock : Nat → ClockReading) (picks : Nat → Nat)
      (n : Nat) (system : ConnectionSystem),
      n < (ConnectionState.create spec clock picks).count →
      connectionLoop.Reaches (fun before action => usesNode n before action)
        (ConnectionSystem.fresh spec clock picks) system →
      ∀ own client, (own, client) ∈ (system.state.objects n).discards →
        own = some client := by
  intro claimed
  obtain ⟨system, reaches, discards⟩ := ConnectionSystem.exists_reached (usesNode 0)
    oneSeed seconds (fun _ => 0)
    [.start (.query 0 "q" 10), .begin 0, .answer 0 (.factory 0) (.ok ()),
      .start (.query 0 "q" 10), .begin 1,
      .answer 0 (.query 0 0 "q" 10) (.error (.driver (.operational "reset"))),
      .answer 0 (.close .drop 0 0) (.ok ()),
      .start (.query 0 "q" 10), .begin 2, .answer 2 (.factory 0) (.ok ()),
      .answer 1 (.query 0 0 "q" 10) (.error (.driver (.operational "reset")))]
    (fun system => (system.state.objects 0).discards = [(some 0, 1), (some 0, 0)])
    (by decide +kernel)
  have kept := claimed oneSeed seconds (fun _ => 0) 0 system (by decide) reaches (some 0) 1
    (by simp [of_decide_eq_true discards])
  simp at kept

end Promch
