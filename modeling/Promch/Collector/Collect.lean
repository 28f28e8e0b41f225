import Promch.Collector.Metrics
import Promch.Library.Grouping

/-!
# One scrape

`collect` builds the families of one scrape: the leader gauge, one family per
system metric, and one family per user metric name.  Queries that share a name
share a family, whose label schema is the union of their static labels, then
the union of their row columns, then `query_key`.
-/

namespace Promch

/-- One time series of a family. -/
structure Sample where
  labels : Dict String String
  value : PyFloat

/-- The metric types that the collector yields. -/
inductive FamilyKind
  | gauge
  | counter
  deriving DecidableEq

/-- A metric family with its samples. -/
structure MetricFamily where
  kind : FamilyKind
  /-- The name under which the family is exposed: a counter carries the
  `_total` suffix of its samples. -/
  name : String
  help : String
  samples : List Sample

/-- The sample of one `add_metric` call: label names and values are paired by
position, later duplicates winning. -/
def addMetric (labelNames labelValues : List String) (value : PyFloat) : Sample where
  labels := Dict.ofList (labelNames.zip labelValues)
  value := value

/-- A registered key with its entry, as a scrape reads it. -/
abbrev Read := String × CachedMetric

namespace Read

/-- Not misconfigured. -/
def isActive (read : Read) : Bool :=
  !read.2.isInvalid

/-- The rows of the last success. -/
def rows (read : Read) : List QueryResult :=
  read.2.rows.getD []

/-- The read contributes to a user family. -/
def isExported (read : Read) : Bool :=
  read.isActive && !read.2.expired && !read.rows.isEmpty

end Read

/-! ## System families -/

/-- The system-metric family name under the configured prefix. -/
def sysName (metricPrefix suffix : String) : String :=
  if metricPrefix = "" then suffix else metricPrefix ++ "_" ++ suffix

/-- A family with one sample, labelled with the key, for every read that has a
value. -/
def systemFamily
    (kind : FamilyKind)
    (suffix help : String)
    (value : CachedMetric → Option PyFloat)
    (metricPrefix : String)
    (reads : List Read) : MetricFamily where
  kind := kind
  name := sysName metricPrefix suffix
  help := help
  samples := reads.filterMap fun read =>
    (value read.2).map (addMetric ["query_key"] [read.1])

/-- The truth value of a flag as an exported number. -/
def flagValue (flag : Bool) : PyFloat :=
  if flag then .finite 1 else .finite 0

def leaderFamily (metricPrefix : String) (isLeader : Bool) : MetricFamily where
  kind := .gauge
  name := sysName metricPrefix "leader"
  help := "1 if this replica is the active peer exporting query metrics, 0 if standby"
  samples := [addMetric [] [] (flagValue isLeader)]

/-- Covers every registered query: a misconfigured one reports zero, whatever
its stale runtime state says. -/
def upFamily : String → List Read → MetricFamily :=
  systemFamily .gauge "query_up"
    "1 if the last ClickHouseQuery execution succeeded, 0 otherwise"
    fun entry => some (flagValue (!entry.isInvalid && entry.up))

def lastSuccessFamily : String → List Read → MetricFamily :=
  systemFamily .gauge "query_last_success_timestamp_seconds"
    "Unix timestamp of the last successful ClickHouseQuery execution"
    fun entry => entry.lastSuccessTs.map .finite

def durationFamily : String → List Read → MetricFamily :=
  systemFamily .gauge "query_duration_seconds"
    "Duration of the last ClickHouseQuery execution in seconds"
    fun entry => entry.lastDurationSeconds.map .finite

def inflightFamily : String → List Read → MetricFamily :=
  systemFamily .gauge "query_inflight"
    "Number of in-flight executions for this ClickHouseQuery"
    fun entry => some (.finite entry.inflight)

def skippedFamily : String → List Read → MetricFamily :=
  systemFamily .counter "query_skipped_total"
    "Ticks skipped because maxConcurrent was reached"
    fun entry => some (.finite entry.skippedTotal)

/-- The system families with at least one sample.  Health covers every read,
the others only the active ones. -/
def systemFamilies (metricPrefix : String) (reads : List Read) : List MetricFamily :=
  let active := reads.filter Read.isActive
  [upFamily metricPrefix reads,
    lastSuccessFamily metricPrefix active,
    durationFamily metricPrefix active,
    inflightFamily metricPrefix active,
    skippedFamily metricPrefix active].filter fun family => !family.samples.isEmpty

/-! ## User families -/

/-- The static label names of a group. -/
def allStaticKeys (group : List Read) : List String :=
  sortedSet (group.flatMap fun read => read.2.labels.keys)

/-- The column names of the rows of a group. -/
def allDynamicKeys (group : List Read) : List String :=
  sortedSet (group.flatMap fun read =>
    read.rows.flatMap fun row => row.dynamicLabels.keys)

/-- The value of a label, empty when it is missing. -/
def labelValue (labels : Dict String String) (name : String) : String :=
  (labels.get? name).getD ""

/-- The sample of one row under the label schema of its group. -/
def rowSample (group : List Read) (read : Read) (row : QueryResult) : Sample :=
  addMetric
    (allStaticKeys group ++ allDynamicKeys group ++ ["query_key"])
    ((allStaticKeys group).map (labelValue read.2.labels) ++
      (allDynamicKeys group).map (labelValue row.dynamicLabels) ++ [read.1])
    row.value

/-- The family of all reads with one metric name; the first help text wins. -/
def userFamily (name : String) (group : List Read) : MetricFamily where
  kind := .gauge
  name := name
  help := (group.head?.map fun read => read.2.help).getD ""
  samples := group.flatMap fun read => read.rows.map (rowSample group read)

/-- The user families, one for each name of an exported read. -/
def userFamilies (reads : List Read) : List MetricFamily :=
  (groupBy (fun read : Read => read.2.name) (reads.filter Read.isExported)).entries.map
    fun entry => userFamily entry.1 entry.2

namespace Collector

/-- The entries as a scrape reads them. -/
def reads (collector : Collector) : List Read :=
  collector.entries.entries

/-- The families of one scrape; a standby replica exports only the leader
gauge. -/
def collect (collector : Collector) (isLeader : Bool) : List MetricFamily :=
  leaderFamily collector.metricPrefix isLeader ::
    if isLeader then
      systemFamilies collector.metricPrefix collector.reads ++
        userFamilies collector.reads
    else []

/-- What a scrape of an active replica yields after the leader gauge and the system
families. -/
def scrapedUserFamilies (collector : Collector) : List MetricFamily :=
  (collector.collect true).drop
    (1 + (systemFamilies collector.metricPrefix collector.reads).length)

/-- The user part of a scrape, each sample with the name of its family. -/
def userSamples (collector : Collector) : List (String × Sample) :=
  collector.scrapedUserFamilies.flatMap fun family =>
    family.samples.map fun sample => (family.name, sample)

/-- The exported reads with one metric name. -/
def group (collector : Collector) (name : String) : List Read :=
  (collector.reads.filter Read.isExported).filter fun read => read.2.name = name

end Collector

/-! ## Label maps of user samples -/

@[simp] theorem mem_allStaticKeys_iff (group : List Read) (name : String) :
    name ∈ allStaticKeys group ↔ ∃ read ∈ group, name ∈ read.2.labels.keys := by
  simp [allStaticKeys]

@[simp] theorem mem_allDynamicKeys_iff (group : List Read) (name : String) :
    name ∈ allDynamicKeys group ↔
      ∃ read ∈ group, ∃ row ∈ read.rows, name ∈ row.dynamicLabels.keys := by
  simp [allDynamicKeys]

/-- Pairing names with values computed from them tabulates the values. -/
private theorem zip_map_self (names : List String) (value : String → String) :
    names.zip (names.map value) = names.map fun name => (name, value name) := by
  induction names with
  | nil => rfl
  | cons name rest inductionHypothesis => simp [inductionHypothesis]

/-- The label map of a row: the key of its read, then the columns of the group,
then the static labels of the group. -/
theorem get?_labels_rowSample
    (group : List Read)
    (read : Read)
    (row : QueryResult)
    (name : String) :
    (rowSample group read row).labels.get? name =
      if name = "query_key" then some read.1
      else if name ∈ allDynamicKeys group then some (labelValue row.dynamicLabels name)
      else if name ∈ allStaticKeys group then some (labelValue read.2.labels name)
      else none := by
  have keyPart :
      (Dict.ofList [("query_key", read.1)]).get? name =
        if name = "query_key" then some read.1 else none := by
    simp [Dict.ofList, Dict.get?_set]
  have zipped :
      (allStaticKeys group ++ allDynamicKeys group ++ ["query_key"]).zip
          ((allStaticKeys group).map (labelValue read.2.labels) ++
            (allDynamicKeys group).map (labelValue row.dynamicLabels) ++ [read.1]) =
        (allStaticKeys group).map (fun name => (name, labelValue read.2.labels name)) ++
          (allDynamicKeys group).map (fun name => (name, labelValue row.dynamicLabels name)) ++
          [("query_key", read.1)] := by
    rw [List.zip_append (by simp), List.zip_append (by simp), zip_map_self, zip_map_self]
    rfl
  rw [rowSample, addMetric, zipped, Dict.get?_ofList_append, Dict.get?_ofList_append,
    Dict.get?_ofList_map, Dict.get?_ofList_map, keyPart]
  by_cases isKey : name = "query_key"
  · rw [if_pos isKey, if_pos isKey, Option.some_or]
  · rw [if_neg isKey, if_neg isKey, Option.none_or]
    by_cases isDynamic : name ∈ allDynamicKeys group
    · rw [if_pos isDynamic, if_pos isDynamic, Option.some_or]
    · rw [if_neg isDynamic, if_neg isDynamic, Option.none_or]

/-- All samples of a group have the same label names. -/
theorem mem_keys_labels_rowSample
    (group : List Read)
    (read : Read)
    (row : QueryResult)
    (name : String) :
    name ∈ (rowSample group read row).labels.keys ↔
      name = "query_key" ∨ name ∈ allDynamicKeys group ∨ name ∈ allStaticKeys group := by
  rw [Dict.mem_keys_iff, get?_labels_rowSample]
  split
  · next isKey => simp [isKey]
  · next notKey =>
      split
      · next isDynamic =>
          simp only [notKey, isDynamic, Option.some.injEq, exists_eq', true_or, or_true]
      · next notDynamic => simp [notKey, notDynamic]

/-! ## The families of a scrape -/

namespace Collector

variable (collector : Collector)

@[simp] theorem mem_reads_iff (key : String) (entry : CachedMetric) :
    (key, entry) ∈ collector.reads ↔ collector.entries.get? key = some entry :=
  Dict.mem_entries_iff collector.entries key entry

theorem mem_group_iff (name : String) (read : Read) :
    read ∈ collector.group name ↔
      read ∈ collector.reads ∧ read.isExported = true ∧ read.2.name = name := by
  simp only [group, List.mem_filter, decide_eq_true_eq, and_assoc]

/-- A scrape of an active replica yields the leader gauge, the system families and the
user families, in this order. -/
theorem collect_true :
    collector.collect true =
      leaderFamily collector.metricPrefix true ::
        (systemFamilies collector.metricPrefix collector.reads ++
          userFamilies collector.reads) := rfl

/-- A scrape of an active replica ends with the user families. -/
theorem scrapedUserFamilies_eq :
    collector.scrapedUserFamilies = userFamilies collector.reads := by
  rw [scrapedUserFamilies, collect_true, Nat.add_comm, List.drop_succ_cons, List.drop_left]

/-- The user families are the groups of the exported names. -/
theorem mem_userFamilies_iff (family : MetricFamily) :
    family ∈ userFamilies collector.reads ↔
      ∃ name, collector.group name ≠ [] ∧
        family = userFamily name (collector.group name) := by
  simp only [userFamilies, List.mem_map, Prod.exists, mem_entries_groupBy]
  constructor
  · rintro ⟨name, group, ⟨nonempty, rfl⟩, rfl⟩
    exact ⟨name, nonempty, rfl⟩
  · rintro ⟨name, nonempty, rfl⟩
    exact ⟨name, _, ⟨nonempty, rfl⟩, rfl⟩

/-- No two user families share a name. -/
theorem nodup_map_name_userFamilies :
    ((userFamilies collector.reads).map MetricFamily.name).Nodup := by
  have sameNames : (userFamilies collector.reads).map MetricFamily.name =
      (groupBy (fun read : Read => read.2.name)
        (collector.reads.filter Read.isExported)).keys := by
    simp [userFamilies, Dict.keys, Function.comp_def, userFamily]
  rw [sameNames]
  exact Dict.nodup_keys _

/-- The names of the user families are those of the exported entries. -/
theorem mem_map_name_userFamilies_iff (name : String) :
    name ∈ (userFamilies collector.reads).map MetricFamily.name ↔
      ∃ read ∈ collector.reads, read.isExported = true ∧ read.2.name = name := by
  simp only [List.mem_map, mem_userFamilies_iff]
  constructor
  · rintro ⟨family, ⟨groupName, nonempty, rfl⟩, rfl⟩
    obtain ⟨read, member⟩ := List.exists_mem_of_ne_nil _ nonempty
    obtain ⟨present, exported, named⟩ := (collector.mem_group_iff _ _).mp member
    exact ⟨read, present, exported, named⟩
  · rintro ⟨read, present, exported, named⟩
    have member := (collector.mem_group_iff name read).mpr ⟨present, exported, named⟩
    exact ⟨_, ⟨name, List.ne_nil_of_mem member, rfl⟩, rfl⟩

/-- The user samples are the rows of the exported entries, each under the
schema of its group. -/
theorem mem_userSamples_iff (name : String) (sample : Sample) :
    (name, sample) ∈ collector.userSamples ↔
      ∃ read ∈ collector.group name, ∃ row ∈ read.rows,
        sample = rowSample (collector.group name) read row := by
  simp only [userSamples, scrapedUserFamilies_eq, List.mem_flatMap, List.mem_map,
    Prod.mk.injEq, mem_userFamilies_iff]
  constructor
  · rintro ⟨family, ⟨familyName, -, rfl⟩, other, member, rfl, rfl⟩
    obtain ⟨read, inGroup, inRows⟩ := List.mem_flatMap.mp member
    obtain ⟨row, present, rfl⟩ := List.mem_map.mp inRows
    exact ⟨read, inGroup, row, present, rfl⟩
  · rintro ⟨read, inGroup, row, present, rfl⟩
    refine ⟨_, ⟨name, List.ne_nil_of_mem inGroup, rfl⟩, _, ?_, rfl, rfl⟩
    exact List.mem_flatMap.mpr ⟨read, inGroup, List.mem_map_of_mem present⟩

end Collector

end Promch
