import Promch.Collector.Collect
import Promch.Handlers.Operations

/-!
# The family names of a scrape

The system families have fixed names under the prefix and the user families
have the names of the exported entries.  The user families are distinct among
themselves, and so are the system families, but nothing keeps the two apart: a
resource may resolve to the name of a system family.
-/

namespace Promch

/-- The names under which the exporter's own families are exposed. -/
def systemNames (metricPrefix : String) : List String :=
  ["leader", "query_up", "query_last_success_timestamp_seconds", "query_duration_seconds",
    "query_inflight", "query_skipped_total"].map (sysName metricPrefix)

/-- The two parts of a name determine each other. -/
theorem sysName_injective (metricPrefix : String) :
    Function.Injective (sysName metricPrefix) := by
  intro suffix other same
  unfold sysName at same
  split at same
  · exact same
  · exact (String.append_right_inj _).mp same

theorem nodup_systemNames (metricPrefix : String) : (systemNames metricPrefix).Nodup :=
  List.Nodup.map (sysName_injective metricPrefix) (by decide)

/-- An entry with rows has the data of a success. -/
def CachedMetric.SuccessRecorded (entry : CachedMetric) : Prop :=
  entry.rows ≠ none → entry.lastSuccessTs.isSome ∧ entry.lastDurationSeconds.isSome

section SuccessRecorded

variable {config : OperatorConfig}

/-- No operation separates the rows from the data of their success. -/
theorem HandlerOp.successRecorded_change
    {entry changed : CachedMetric}
    {op : HandlerOp}
    (recorded : entry.SuccessRecorded)
    (stepped : op.change config entry = some changed) :
    changed.SuccessRecorded := by
  cases op with
  | unregister => cases stepped
  | update key rows durationSeconds tickTs failedNodes now =>
      cases stepped
      unfold CachedMetric.update
      split
      · exact recorded
      · exact fun _ => ⟨rfl, rfl⟩
  | fail key errorType message failedNodes now =>
      cases stepped
      rw [entry.fail_eq config errorType message failedNodes now]
      exact recorded
  | register | markWaiting | incInflight | decInflight | recordSkip =>
      cases stepped
      exact recorded

/-- Every reachable entry with rows has the data of a success. -/
theorem Reachable.successRecorded
    {collector : Collector}
    (reachable : Reachable config collector)
    {key : String}
    {entry : CachedMetric}
    (registered : collector.entries.get? key = some entry) :
    entry.SuccessRecorded :=
  reachable.forall_entry (motive := CachedMetric.SuccessRecorded)
    (fun _ _ _ _ hasRows => absurd rfl hasRows)
    (fun _ _ _ recorded stepped => HandlerOp.successRecorded_change recorded stepped)
    (fun _ _ _ recorded => recorded)
    registered

end SuccessRecorded

/-! ## The names of one scrape -/

/-- A family has a sample for every read with a value. -/
theorem samples_systemFamily_ne_nil
    {kind : FamilyKind}
    {suffix help : String}
    {value : CachedMetric → Option PyFloat}
    {metricPrefix : String}
    {reads : List Read}
    {read : Read}
    (member : read ∈ reads)
    (hasValue : (value read.2).isSome = true) :
    (systemFamily kind suffix help value metricPrefix reads).samples ≠ [] := by
  obtain ⟨number, found⟩ := Option.isSome_iff_exists.mp hasValue
  exact List.ne_nil_of_mem (List.mem_filterMap.mpr ⟨read, member, by rw [found]; rfl⟩)

/-- The names of the system families, with or without samples. -/
theorem map_name_systemFamilies_sublist (metricPrefix : String) (reads : List Read) :
    ((systemFamilies metricPrefix reads).map MetricFamily.name).Sublist
      (systemNames metricPrefix).tail :=
  List.filter_sublist.map MetricFamily.name

/-- An exported read has a sample in every system family. -/
theorem map_name_systemFamilies_of_exported
    (metricPrefix : String)
    {reads : List Read}
    {read : Read}
    (member : read ∈ reads)
    (exported : read.isExported = true)
    (recorded : read.2.SuccessRecorded) :
    (systemFamilies metricPrefix reads).map MetricFamily.name =
      (systemNames metricPrefix).tail := by
  simp only [Read.isExported, Bool.and_eq_true, Bool.not_eq_true', List.isEmpty_eq_false_iff]
    at exported
  obtain ⟨⟨active, -⟩, hasRows⟩ := exported
  have isActive : read ∈ reads.filter Read.isActive := List.mem_filter.mpr ⟨member, active⟩
  have stored : read.2.rows ≠ none := fun none => hasRows (by simp [Read.rows, none])
  obtain ⟨lastSuccess, duration⟩ := recorded stored
  have allKept : ∀ family ∈ [upFamily metricPrefix reads,
      lastSuccessFamily metricPrefix (reads.filter Read.isActive),
      durationFamily metricPrefix (reads.filter Read.isActive),
      inflightFamily metricPrefix (reads.filter Read.isActive),
      skippedFamily metricPrefix (reads.filter Read.isActive)],
      (!family.samples.isEmpty) = true := by
    simp only [List.forall_mem_cons, Bool.not_eq_true', List.isEmpty_eq_false_iff]
    refine ⟨samples_systemFamily_ne_nil member rfl,
      samples_systemFamily_ne_nil isActive (by simpa using lastSuccess),
      samples_systemFamily_ne_nil isActive (by simpa using duration),
      samples_systemFamily_ne_nil isActive rfl,
      samples_systemFamily_ne_nil isActive rfl, by simp⟩
  rw [systemFamilies, List.filter_eq_self.mpr allKept]
  rfl

/-- A scrape has one family for each name exactly when the replica is standby or
no exported entry has the name of a system family. -/
theorem nodup_names_collect_iff
    (config : OperatorConfig)
    (collector : Collector)
    (reachable : Reachable config collector)
    (isLeader : Bool) :
    ((collector.collect isLeader).map MetricFamily.name).Nodup ↔
      isLeader = false ∨
        ∀ key entry, collector.entries.get? key = some entry →
          entry.isInvalid = false → entry.expired = false → entry.rows.getD [] ≠ [] →
            entry.name ∉ systemNames collector.metricPrefix := by
  cases isLeader with
  | false => simp [Collector.collect]
  | true =>
      have names : (collector.collect true).map MetricFamily.name =
          (sysName collector.metricPrefix "leader" ::
            (systemFamilies collector.metricPrefix collector.reads).map MetricFamily.name) ++
          (userFamilies collector.reads).map MetricFamily.name := by
        simp [Collector.collect, leaderFamily]
      have systemSublist : (sysName collector.metricPrefix "leader" ::
          (systemFamilies collector.metricPrefix collector.reads).map MetricFamily.name).Sublist
            (systemNames collector.metricPrefix) :=
        (map_name_systemFamilies_sublist collector.metricPrefix collector.reads).cons_cons _
      have exported_iff : ∀ key entry, (key, entry) ∈ collector.reads →
          (Read.isExported (key, entry) = true ↔
            entry.isInvalid = false ∧ entry.expired = false ∧ entry.rows.getD [] ≠ []) := by
        intro key entry _
        simp [Read.isExported, Read.isActive, Read.rows, and_assoc]
      rw [names, List.nodup_append]
      constructor
      · rintro ⟨-, -, apart⟩
        refine .inr fun key entry registered valid current hasRows inSystem => ?_
        have member := (collector.mem_reads_iff key entry).mpr registered
        have exported := (exported_iff key entry member).mpr ⟨valid, current, hasRows⟩
        have allSystem := map_name_systemFamilies_of_exported collector.metricPrefix
          member exported (reachable.successRecorded registered)
        rw [allSystem] at apart
        exact apart entry.name inSystem entry.name
          ((collector.mem_map_name_userFamilies_iff entry.name).mpr
            ⟨(key, entry), member, exported, rfl⟩) rfl
      · rintro (standby | apart)
        · cases standby
        refine ⟨(nodup_systemNames collector.metricPrefix).sublist systemSublist,
          collector.nodup_map_name_userFamilies, ?_⟩
        rintro name inSystem other inUser rfl
        obtain ⟨⟨key, entry⟩, member, exported, rfl⟩ :=
          (collector.mem_map_name_userFamilies_iff name).mp inUser
        obtain ⟨valid, current, hasRows⟩ := (exported_iff key entry member).mp exported
        exact apart key entry ((collector.mem_reads_iff key entry).mp member) valid current
          hasRows (systemSublist.subset inSystem)

/-- One query with the given metric name after its first success. -/
def namedQuery (name : String) : Collector :=
  runOps defaultConfig (startCollector defaultConfig)
    [.register "ns/q" { name := name } .data,
      .update "ns/q" [{ value := .finite 1, dynamicLabels := Dict.empty }] 1 1 none 1]

theorem nodup_names_collect_of_hits :
    (((namedQuery "hits").collect true).map MetricFamily.name).Nodup := by
  refine (nodup_names_collect_iff defaultConfig (namedQuery "hits")
    (Reachable.runOps defaultConfig _) true).mpr
    (.inr fun key entry registered _ _ _ => ?_)
  have onlyName : ∀ read ∈ (namedQuery "hits").reads,
      read.2.name ∉ systemNames (namedQuery "hits").metricPrefix := by decide
  exact onlyName (key, entry) ((Collector.mem_reads_iff _ key entry).mpr registered)

/-- A query named `query_up` is exposed under the name of the health gauge. -/
theorem not_nodup_names_collect_of_query_up :
    Reachable defaultConfig (namedQuery "query_up") ∧
      ¬(((namedQuery "query_up").collect true).map MetricFamily.name).Nodup :=
  ⟨Reachable.runOps defaultConfig _, by decide⟩

end Promch
