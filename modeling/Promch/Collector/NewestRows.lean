import Promch.Collector.Metrics
import Promch.Library.NewestWins

/-!
# The rows that an entry ends with

Updates of one entry arrive in any order, mixed with every other operation of
the collector.  Together with their duration and their tick the rows of an entry
are a register in which the newest tick wins.
-/

namespace Promch

/-- One operation of the collector. -/
inductive CollectorOp
  | register
      (key name help : String)
      (labels : Dict String String)
      (invalidReason : Option String)
  | unregister (key : String)
  | update
      (key : String)
      (rows : List QueryResult)
      (durationSeconds tickTs : Time)
      (failedNodes : Option (List String))
      (now : Time)
  | markFailure
      (key : String)
      (errorType : ErrorType)
      (message : String)
      (failedNodes : Option (List String))
      (now : Time)
  | markWaiting (key reason : String)
  | expire (key : String)
  | incInflight (key : String)
  | decInflight (key : String)
  | recordSkip (key : String) (now : Time)

namespace CollectorOp

/-- The key an operation is about. -/
def key : CollectorOp → String
  | .register key _ _ _ _ => key
  | .unregister key => key
  | .update key _ _ _ _ _ => key
  | .markFailure key _ _ _ _ => key
  | .markWaiting key _ => key
  | .expire key => key
  | .incInflight key => key
  | .decInflight key => key
  | .recordSkip key _ => key

/-- The collector after the operation. -/
def apply (collector : Collector) : CollectorOp → Collector
  | .register key name help labels invalidReason =>
      collector.register key name help labels invalidReason
  | .unregister key => collector.unregister key
  | .update key rows durationSeconds tickTs failedNodes now =>
      (collector.update key rows durationSeconds tickTs failedNodes now).1
  | .markFailure key errorType message failedNodes now =>
      collector.markFailure key errorType message failedNodes now
  | .markWaiting key reason => collector.markWaiting key reason
  | .expire key => collector.expire key
  | .incInflight key => collector.incInflight key
  | .decInflight key => collector.decInflight key
  | .recordSkip key now => collector.recordSkip key now

/-- What the operation does to a registered entry of its key; a removal leaves
none. -/
def change (entry : CachedMetric) : CollectorOp → Option CachedMetric
  | .register _ name help labels invalidReason =>
      some (entry.edit name help labels invalidReason)
  | .unregister _ => none
  | .update _ rows durationSeconds tickTs failedNodes now =>
      some (entry.update rows durationSeconds tickTs failedNodes now).1
  | .markFailure _ errorType message failedNodes now =>
      some (entry.markFailure errorType message failedNodes now)
  | .markWaiting _ reason => some (entry.markWaiting reason)
  | .expire _ => some entry.expire
  | .incInflight _ => some entry.incInflight
  | .decInflight _ => some entry.decInflight
  | .recordSkip _ now => some (entry.recordSkip now)

/-- What an update of the key brings: its rows and its duration, stamped with
its tick. -/
def arrival (key : String) : CollectorOp → Option (Stamped Time (List QueryResult × Time))
  | .update other rows durationSeconds tickTs _ _ =>
      if other = key then some { stamp := tickTs, value := (rows, durationSeconds) } else none
  | _ => none

end CollectorOp

/-- The collector after several operations. -/
def Collector.applyAll (collector : Collector) (ops : List CollectorOp) : Collector :=
  ops.foldl CollectorOp.apply collector

/-- The updates of the key among the operations, in order of completion. -/
def arrivals
    (key : String)
    (ops : List CollectorOp) : List (Stamped Time (List QueryResult × Time)) :=
  ops.filterMap (CollectorOp.arrival key)

/-- The rows of an entry with their duration, stamped with their tick. -/
def CachedMetric.stored
    (entry : CachedMetric) : Stamped Time (Option (List QueryResult) × Option Time) where
  stamp := entry.tickTs
  value := (entry.rows, entry.lastDurationSeconds)

/-- An arrival as the entry would hold it. -/
def asStored
    (arrival : Stamped Time (List QueryResult × Time)) :
    Stamped Time (Option (List QueryResult) × Option Time) where
  stamp := arrival.stamp
  value := (some arrival.value.1, some arrival.value.2)

/-- An update is one arrival at the register. -/
theorem CachedMetric.stored_update
    (entry : CachedMetric)
    (rows : List QueryResult)
    (durationSeconds tickTs : Time)
    (failedNodes : Option (List String))
    (now : Time) :
    (entry.update rows durationSeconds tickTs failedNodes now).1.stored =
      entry.stored.observe (asStored { stamp := tickTs, value := (rows, durationSeconds) }) := by
  obtain stale | current := lt_or_ge tickTs entry.tickTs
  · rw [entry.update_of_stale rows durationSeconds failedNodes now stale]
    exact (Stamped.observe_of_older stale).symm
  · rw [entry.update_of_current rows durationSeconds failedNodes now current]
    exact (Stamped.observe_of_newer current).symm

section Run

variable {collector : Collector} {key : String} {entry : CachedMetric}

/-- An operation changes a registered entry only if it is about its key. -/
theorem CollectorOp.get?_apply
    (op : CollectorOp)
    (registered : collector.entries.get? key = some entry) :
    (op.apply collector).entries.get? key =
      if key = op.key then op.change entry else some entry := by
  by_cases same : key = op.key
  · subst same
    rw [if_pos rfl]
    cases op <;>
      simp_all [apply, CollectorOp.key, change, Collector.get?_register, Collector.get?_update,
        Collector.markFailure, Collector.markWaiting, Collector.expire, Collector.incInflight,
        Collector.decInflight, Collector.recordSkip]
  · rw [if_neg same]
    cases op <;>
      simp_all [apply, CollectorOp.key, Collector.get?_register, Collector.get?_update,
        Collector.markFailure, Collector.markWaiting, Collector.expire, Collector.incInflight,
        Collector.decInflight, Collector.recordSkip]

/-- One operation that does not remove the key is at most one arrival at the
register of its entry. -/
theorem stored_apply
    {op : CollectorOp}
    (registered : collector.entries.get? key = some entry)
    (stays : op ≠ .unregister key) :
    ∃ changed, (op.apply collector).entries.get? key = some changed ∧
      changed.stored = entry.stored.observeAll ((op.arrival key).toList.map asStored) := by
  rw [op.get?_apply registered]
  by_cases same : key = op.key
  · subst same
    rw [if_pos rfl]
    cases op with
    | unregister other => exact absurd rfl stays
    | update other rows durationSeconds tickTs failedNodes now =>
        refine ⟨_, rfl, ?_⟩
        rw [entry.stored_update, CollectorOp.arrival, CollectorOp.key, if_pos rfl]
        rfl
    | register | markFailure | markWaiting | expire | incInflight | decInflight | recordSkip =>
        exact ⟨_, rfl, rfl⟩
  · rw [if_neg same]
    refine ⟨entry, rfl, ?_⟩
    cases op with
    | update other rows durationSeconds tickTs failedNodes now =>
        rw [CollectorOp.arrival, if_neg fun equal => same equal.symm]
        rfl
    | register | unregister | markFailure | markWaiting | expire | incInflight | decInflight
    | recordSkip => rfl

/-- A run that does not remove the key is a list of arrivals at the register of
its entry. -/
theorem stored_applyAll
    {ops : List CollectorOp}
    (registered : collector.entries.get? key = some entry)
    (stays : ∀ op ∈ ops, op ≠ .unregister key) :
    ∃ final, (collector.applyAll ops).entries.get? key = some final ∧
      final.stored = entry.stored.observeAll ((arrivals key ops).map asStored) := by
  induction ops generalizing collector entry with
  | nil => exact ⟨entry, registered, rfl⟩
  | cons op rest inductionHypothesis =>
      obtain ⟨opStays, restStays⟩ := List.forall_mem_cons.mp stays
      obtain ⟨changed, changedRegistered, stepped⟩ := stored_apply registered opStays
      obtain ⟨final, finalRegistered, ran⟩ := inductionHypothesis changedRegistered restStays
      have split : arrivals key (op :: rest) = (op.arrival key).toList ++ arrivals key rest := by
        cases arrived : op.arrival key <;> simp [arrivals, arrived]
      refine ⟨final, finalRegistered, ?_⟩
      calc
        final.stored = changed.stored.observeAll ((arrivals key rest).map asStored) := ran
        _ = (entry.stored.observeAll ((op.arrival key).toList.map asStored)).observeAll
              ((arrivals key rest).map asStored) := by rw [stepped]
        _ = entry.stored.observeAll ((arrivals key (op :: rest)).map asStored) := by
          rw [split, List.map_append, Stamped.observeAll_append]

end Run

/-- A key that is unknown to the collector is registered, and operations that do
not remove it follow. -/
structure FreshRun (key : String) where
  collector : Collector
  unknown : collector.entries.get? key = none
  name : String
  help : String
  labels : Dict String String
  invalidReason : Option String
  ops : List CollectorOp
  stays : ∀ op ∈ ops, op ≠ .unregister key

namespace FreshRun

variable {key : String} (run : FreshRun key)

/-- The collector with the fresh entry. -/
def created : Collector :=
  run.collector.register key run.name run.help run.labels run.invalidReason

/-- The fresh entry. -/
def entry : CachedMetric where
  name := run.name
  help := run.help
  labels := run.labels
  invalidReason := run.invalidReason

/-- The updates of the key, in order of completion. -/
def updates : List (Stamped Time (List QueryResult × Time)) :=
  arrivals key run.ops

theorem get?_created : run.created.entries.get? key = some run.entry := by
  rw [created, Collector.get?_register, if_pos rfl, run.unknown]
  rfl

/-- The run seen as arrivals at the register of the fresh entry. -/
theorem stored_final :
    ∃ final, (run.created.applyAll run.ops).entries.get? key = some final ∧
      final.stored = run.entry.stored.observeAll (run.updates.map asStored) :=
  stored_applyAll run.get?_created run.stays

/-- The tick of an entry never decreases between two states of the run. -/
theorem tickTs_le
    {first second third : List CollectorOp}
    (split : run.ops = first ++ second ++ third) :
    ∃ before after,
      (run.created.applyAll first).entries.get? key = some before ∧
      (run.created.applyAll (first ++ second)).entries.get? key = some after ∧
        before.tickTs ≤ after.tickTs := by
  have stays : ∀ op ∈ first ++ second, op ≠ .unregister key := fun op member =>
    run.stays op (by rw [split]; exact List.mem_append_left _ member)
  obtain ⟨before, beforeRegistered, -⟩ := stored_applyAll run.get?_created
    fun op member => stays op (List.mem_append_left _ member)
  obtain ⟨after, afterRegistered, ran⟩ := stored_applyAll beforeRegistered
    fun op member => stays op (List.mem_append_right _ member)
  refine ⟨before, after, beforeRegistered, ?_, ?_⟩
  · rw [Collector.applyAll, List.foldl_append]
    exact afterRegistered
  · calc
      before.tickTs = before.stored.stamp := rfl
      _ ≤ (before.stored.observeAll ((arrivals key second).map asStored)).stamp :=
        Stamped.le_stamp_observeAll _ _
      _ = after.stored.stamp := by rw [ran]

section Distinct

variable {run : FreshRun key}
  (distinct : run.updates.Pairwise fun update other => update.stamp ≠ other.stamp)
  (nonnegative : ∀ update ∈ run.updates, 0 ≤ update.stamp)
include distinct nonnegative

/-- The entry ends with the update of the greatest tick. -/
theorem stored_final_eq_newest
    {newest : Stamped Time (List QueryResult × Time)}
    (member : newest ∈ run.updates)
    (isNewest : ∀ other ∈ run.updates, other.stamp ≤ newest.stamp) :
    ∃ final, (run.created.applyAll run.ops).entries.get? key = some final ∧
      final.stored = asStored newest := by
  obtain ⟨final, registered, ran⟩ := run.stored_final
  have accepted : run.entry.stored.stamp ≤ (asStored newest).stamp := nonnegative newest member
  have greatest : ∀ other ∈ run.updates.map asStored,
      other.stamp ≤ (asStored newest).stamp := List.forall_mem_map.mpr isNewest
  have stamped : (run.updates.map asStored).Pairwise fun update other =>
      update.stamp ≠ other.stamp := List.pairwise_map.mpr distinct
  have arrives : asStored newest ∈ run.updates.map asStored := List.mem_map_of_mem member
  exact ⟨final, registered, ran.trans
    (Stamped.observeAll_eq_newest stamped arrives greatest accepted)⟩

/-- Runs with the same updates in any order end with the same register. -/
theorem stored_final_eq_of_perm
    {other : FreshRun key}
    (nonempty : run.updates ≠ [])
    (permuted : run.updates.Perm other.updates) :
    ∃ final otherFinal,
      (run.created.applyAll run.ops).entries.get? key = some final ∧
      (other.created.applyAll other.ops).entries.get? key = some otherFinal ∧
        final.stored = otherFinal.stored := by
  obtain ⟨final, registered, ran⟩ := run.stored_final
  obtain ⟨otherFinal, otherRegistered, otherRan⟩ := other.stored_final
  refine ⟨final, otherFinal, registered, otherRegistered, ?_⟩
  rw [ran, otherRan]
  exact Stamped.observeAll_eq_of_perm (permuted.map asStored)
    (mt List.map_eq_nil_iff.mp nonempty) (List.pairwise_map.mpr distinct)
    (List.forall_mem_map.mpr nonnegative) (List.forall_mem_map.mpr nonnegative)

end Distinct

/-- The entry of a fresh run ends with the rows, the duration and the tick of
its newest update, its tick never decreases, and another fresh run with the same
updates in any order ends with the same rows, duration and tick. -/
theorem newestUpdate_decides
    (run : FreshRun key)
    (nonempty : run.updates ≠ [])
    (distinct : run.updates.Pairwise fun update other => update.stamp ≠ other.stamp)
    (nonnegative : ∀ update ∈ run.updates, 0 ≤ update.stamp) :
    (∃ newest ∈ run.updates, (∀ other ∈ run.updates, other.stamp ≤ newest.stamp) ∧
      ∃ final, (run.created.applyAll run.ops).entries.get? key = some final ∧
        final.rows = some newest.value.1 ∧
        final.lastDurationSeconds = some newest.value.2 ∧
        final.tickTs = newest.stamp) ∧
    (∀ first second third, run.ops = first ++ second ++ third →
      ∃ before after,
        (run.created.applyAll first).entries.get? key = some before ∧
        (run.created.applyAll (first ++ second)).entries.get? key = some after ∧
          before.tickTs ≤ after.tickTs) ∧
    ∀ other : FreshRun key, run.updates.Perm other.updates →
      ∃ final otherFinal,
        (run.created.applyAll run.ops).entries.get? key = some final ∧
        (other.created.applyAll other.ops).entries.get? key = some otherFinal ∧
          final.rows = otherFinal.rows ∧
          final.lastDurationSeconds = otherFinal.lastDurationSeconds ∧
          final.tickTs = otherFinal.tickTs := by
  refine ⟨?_, fun first second third => run.tickTs_le, fun other permuted => ?_⟩
  · obtain ⟨newest, member, isNewest⟩ := Stamped.exists_newest nonempty
    obtain ⟨final, registered, ended⟩ :=
      stored_final_eq_newest distinct nonnegative member isNewest
    exact ⟨newest, member, isNewest, final, registered,
      congrArg (fun stored => stored.value.1) ended,
      congrArg (fun stored => stored.value.2) ended, congrArg Stamped.stamp ended⟩
  · obtain ⟨final, otherFinal, registered, otherRegistered, same⟩ :=
      stored_final_eq_of_perm distinct nonnegative nonempty permuted
    exact ⟨final, otherFinal, registered, otherRegistered,
      congrArg (fun stored => stored.value.1) same,
      congrArg (fun stored => stored.value.2) same, congrArg Stamped.stamp same⟩

/-- A run of the key `ns/q` in which the update of tick 2 completes before a
failure and the update of tick 1. -/
def outOfOrder : FreshRun "ns/q" where
  collector := Collector.create "clickhouse"
  unknown := rfl
  name := "hits"
  help := ""
  labels := Dict.empty
  invalidReason := none
  ops :=
    [.update "ns/q" [{ value := .finite 7, dynamicLabels := Dict.empty }] 1 2 none 5,
      .markFailure "ns/q" .queryError "timeout" none 6,
      .update "ns/q" [] 3 1 none 7]
  stays := by simp

/-- A late older result leaves the rows of the newer tick in the cache. -/
theorem newestUpdate_decides_outOfOrder :
    outOfOrder.updates ≠ [] ∧
    (outOfOrder.updates.Pairwise fun update other => update.stamp ≠ other.stamp) ∧
    (∀ update ∈ outOfOrder.updates, 0 ≤ update.stamp) ∧
    ∃ newest ∈ outOfOrder.updates, ∃ final,
      (outOfOrder.created.applyAll outOfOrder.ops).entries.get? "ns/q" = some final ∧
        final.tickTs = newest.stamp := by
  have nonempty : outOfOrder.updates ≠ [] := by decide
  have distinct : outOfOrder.updates.Pairwise fun update other =>
      update.stamp ≠ other.stamp := by decide
  have nonnegative : ∀ update ∈ outOfOrder.updates, 0 ≤ update.stamp := by decide
  obtain ⟨⟨newest, member, -, final, registered, -, -, tick⟩, -, -⟩ :=
    newestUpdate_decides outOfOrder nonempty distinct nonnegative
  exact ⟨nonempty, distinct, nonnegative, newest, member, final, registered, tick⟩

end FreshRun

end Promch
