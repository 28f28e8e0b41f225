import Mathlib.Data.List.Pairwise
import Mathlib.Data.Set.Function
import Promch.Collector.Collect

/-!
# The label maps of a scrape

Every cached row of a valid entry becomes one user sample, and its columns and
its key identify it among all user samples.  The static labels are less safe: a
name that is a static label of one query and a row column of another is padded
with the empty string after the static value, and the padding wins.
-/

namespace Promch

/-- What the rows of one result set with distinct label rows satisfy. -/
structure CachedMetric.RowContract (entry : CachedMetric) : Prop where
  /-- All rows have the same columns. -/
  columns : ∀ row ∈ entry.rows.getD [], ∀ other ∈ entry.rows.getD [],
    ∀ name ∈ row.dynamicLabels.keys, name ∈ other.dynamicLabels.keys
  /-- No two rows have the same label map. -/
  distinct : (entry.rows.getD []).Pairwise fun row other =>
    ¬row.dynamicLabels.SameMap other.dynamicLabels
  noKeyColumn : ∀ row ∈ entry.rows.getD [], "query_key" ∉ row.dynamicLabels.keys
  noKeyLabel : "query_key" ∉ entry.labels.keys

instance (entry : CachedMetric) : Decidable entry.RowContract :=
  decidable_of_iff
    (_ ∧ _ ∧ _ ∧ _)
    ⟨fun ⟨columns, distinct, noKeyColumn, noKeyLabel⟩ =>
        ⟨columns, distinct, noKeyColumn, noKeyLabel⟩,
      fun contract =>
        ⟨contract.columns, contract.distinct, contract.noKeyColumn, contract.noKeyLabel⟩⟩

namespace Collector

/-- The row belongs to a registered, valid entry that is not expired. -/
def IsExportedRow (collector : Collector) (pair : Read × QueryResult) : Prop :=
  collector.entries.get? pair.1.1 = some pair.1.2 ∧
    pair.1.2.isInvalid = false ∧ pair.1.2.expired = false ∧ pair.2 ∈ pair.1.rows

/-- The sample of a row, with the name of its family. -/
def exportedSample
    (collector : Collector)
    (pair : Read × QueryResult) : String × Sample :=
  (pair.1.2.name, rowSample (collector.group pair.1.2.name) pair.1 pair.2)

/-- A scrape of an active replica exports every row exactly once and nothing
else. -/
structure ExportsEveryRowOnce (collector : Collector) : Prop where
  /-- The scrape is the leader gauge, the system families and the user families. -/
  yielded : collector.collect true =
    leaderFamily collector.metricPrefix true ::
      (systemFamilies collector.metricPrefix collector.reads ++ collector.scrapedUserFamilies)
  /-- No two user families have one name. -/
  named : (collector.scrapedUserFamilies.map MetricFamily.name).Nodup
  /-- The user samples are the rows of the exported entries. -/
  bijection : Set.BijOn collector.exportedSample
    {pair | collector.IsExportedRow pair} {sample | sample ∈ collector.userSamples}
  /-- The sample of a row is in the one family with the metric name of its
  entry; it has the row's value, its key and its columns. -/
  attributed : ∀ read row, collector.IsExportedRow (read, row) →
    (∃! family, family ∈ collector.scrapedUserFamilies ∧ family.name = read.2.name) ∧
      (∃ family ∈ collector.scrapedUserFamilies, family.name = read.2.name ∧
        (collector.exportedSample (read, row)).2 ∈ family.samples) ∧
      (collector.exportedSample (read, row)).2.value = row.value ∧
      (collector.exportedSample (read, row)).2.labels.get? "query_key" = some read.1 ∧
      ∀ name value, row.dynamicLabels.get? name = some value →
        (collector.exportedSample (read, row)).2.labels.get? name = some value
  /-- One family has one set of label names. -/
  schema : ∀ family ∈ collector.scrapedUserFamilies,
    ∀ sample ∈ family.samples, ∀ other ∈ family.samples,
      ∀ name, name ∈ sample.labels.keys ↔ name ∈ other.labels.keys
  /-- No two samples share the family name and the label map. -/
  distinct : collector.userSamples.Pairwise fun sample other =>
    ¬(sample.1 = other.1 ∧ sample.2.labels.SameMap other.2.labels)

variable {collector : Collector}

/-- A row is exported exactly when its read is in the group of its name. -/
theorem isExportedRow_iff_mem_group
    (collector : Collector)
    (read : Read)
    (row : QueryResult) :
    collector.IsExportedRow (read, row) ↔
      read ∈ collector.group read.2.name ∧ row ∈ read.rows := by
  obtain ⟨key, entry⟩ := read
  rw [mem_group_iff, mem_reads_iff]
  simp only [IsExportedRow, Read.isExported, Read.isActive, Bool.and_eq_true,
    Bool.not_eq_true', List.isEmpty_eq_false_iff]
  constructor
  · rintro ⟨registered, valid, current, present⟩
    exact ⟨⟨registered, ⟨⟨valid, current⟩, List.ne_nil_of_mem present⟩, trivial⟩, present⟩
  · rintro ⟨⟨registered, ⟨⟨valid, current⟩, -⟩, -⟩, present⟩
    exact ⟨registered, valid, current, present⟩

/-- A column of a row in the group is exported with the row's own value. -/
theorem get?_rowSample_of_column
    {group : List Read}
    {read : Read}
    {row : QueryResult}
    (inGroup : read ∈ group)
    (present : row ∈ read.rows)
    {name value : String}
    (column : row.dynamicLabels.get? name = some value)
    (notKey : name ≠ "query_key") :
    (rowSample group read row).labels.get? name = some value := by
  have isDynamic : name ∈ allDynamicKeys group :=
    (mem_allDynamicKeys_iff _ _).mpr
      ⟨read, inGroup, row, present, (Dict.mem_keys_iff _ _).mpr ⟨value, column⟩⟩
  rw [get?_labels_rowSample, if_neg notKey, if_pos isDynamic, labelValue, column]
  rfl

/-- The key of a sample is the key of its read. -/
theorem get?_rowSample_queryKey
    (group : List Read)
    (read : Read)
    (row : QueryResult) :
    (rowSample group read row).labels.get? "query_key" = some read.1 := by
  rw [get?_labels_rowSample, if_pos rfl]

/-- Rows of one entry with the same exported labels have the same columns and
values. -/
theorem sameMap_of_sameMap_rowSample
    {group : List Read}
    {read : Read}
    {row other : QueryResult}
    (contract : read.2.RowContract)
    (inGroup : read ∈ group)
    (present : row ∈ read.rows)
    (otherPresent : other ∈ read.rows)
    (same : (rowSample group read row).labels.SameMap (rowSample group read other).labels) :
    row.dynamicLabels.SameMap other.dynamicLabels := by
  intro name
  have columns : name ∈ row.dynamicLabels.keys ↔ name ∈ other.dynamicLabels.keys :=
    ⟨contract.columns row present other otherPresent name,
      contract.columns other otherPresent row present name⟩
  cases column : row.dynamicLabels.get? name with
  | none =>
      rw [Dict.get?_eq_none_iff, columns, ← Dict.get?_eq_none_iff] at column
      exact column.symm
  | some value =>
      have isColumn := (Dict.mem_keys_iff _ _).mpr ⟨value, column⟩
      have notKey : name ≠ "query_key" := fun isKey =>
        contract.noKeyColumn row present (isKey ▸ isColumn)
      obtain ⟨otherValue, otherColumn⟩ := (Dict.mem_keys_iff _ _).mp (columns.mp isColumn)
      have exported := same name
      rw [get?_rowSample_of_column inGroup present column notKey,
        get?_rowSample_of_column inGroup otherPresent otherColumn notKey] at exported
      exact exported.trans otherColumn.symm

/-- The keys of the reads in a group are distinct. -/
theorem nodup_keys_group (collector : Collector) (name : String) :
    (collector.group name).Pairwise fun read other => read.1 ≠ other.1 := by
  have keys : (collector.reads.map Prod.fst).Nodup := collector.entries.nodupKeys
  rw [List.Nodup, List.pairwise_map] at keys
  exact (keys.filter _).filter _

/-- Within a group the exported label maps are distinct. -/
theorem pairwise_samples_userFamily
    (name : String)
    (contract : ∀ read ∈ collector.reads, read.2.RowContract) :
    (userFamily name (collector.group name)).samples.Pairwise fun sample other =>
      ¬sample.labels.SameMap other.labels := by
  rw [userFamily, List.pairwise_flatMap]
  constructor
  · intro read inGroup
    have rowContract := contract read ((collector.mem_group_iff name read).mp inGroup).1
    rw [List.pairwise_map]
    refine rowContract.distinct.imp_of_mem ?_
    intro row other present otherPresent different same
    exact different (sameMap_of_sameMap_rowSample rowContract inGroup present otherPresent same)
  · refine (nodup_keys_group collector name).imp ?_
    rintro read other different sample member otherSample otherMember same
    obtain ⟨row, -, rfl⟩ := List.mem_map.mp member
    obtain ⟨otherRow, -, rfl⟩ := List.mem_map.mp otherMember
    have keys := same "query_key"
    rw [get?_rowSample_queryKey, get?_rowSample_queryKey] at keys
    exact different (Option.some.inj keys)

/-- No two user samples of a scrape share the family name and the label map. -/
theorem pairwise_userSamples
    (contract : ∀ read ∈ collector.reads, read.2.RowContract) :
    collector.userSamples.Pairwise fun sample other =>
      ¬(sample.1 = other.1 ∧ sample.2.labels.SameMap other.2.labels) := by
  rw [userSamples, scrapedUserFamilies_eq, List.pairwise_flatMap]
  constructor
  · intro family member
    obtain ⟨name, -, rfl⟩ := (collector.mem_userFamilies_iff family).mp member
    rw [List.pairwise_map]
    exact (pairwise_samples_userFamily name contract).imp fun different same =>
      different same.2
  · have names := collector.nodup_map_name_userFamilies
    rw [List.Nodup, List.pairwise_map] at names
    refine names.imp ?_
    rintro family other different sample member otherSample otherMember ⟨sameName, -⟩
    obtain ⟨_, -, rfl⟩ := List.mem_map.mp member
    obtain ⟨_, -, rfl⟩ := List.mem_map.mp otherMember
    exact different sameName

/-- The user series of a key are part of a scrape. -/
def SeriesPresent (collector : Collector) (key : String) : Prop :=
  ∃ name sample, (name, sample) ∈ collector.userSamples ∧
    sample.labels.get? "query_key" = some key

/-- A key has user series exactly when its entry has an exported row. -/
theorem seriesPresent_iff
    {key : String}
    {entry : CachedMetric}
    (registered : collector.entries.get? key = some entry) :
    collector.SeriesPresent key ↔
      entry.isInvalid = false ∧ entry.expired = false ∧ entry.rows.getD [] ≠ [] := by
  constructor
  · rintro ⟨name, sample, member, keyed⟩
    obtain ⟨⟨otherKey, other⟩, inGroup, row, present, rfl⟩ :=
      (collector.mem_userSamples_iff name sample).mp member
    have named := ((collector.mem_group_iff name _).mp inGroup).2.2
    subst named
    obtain ⟨otherRegistered, valid, current, -⟩ :=
      (collector.isExportedRow_iff_mem_group (otherKey, other) row).mpr ⟨inGroup, present⟩
    rw [get?_rowSample_queryKey, Option.some.injEq] at keyed
    subst keyed
    obtain rfl := Option.some.inj (registered.symm.trans otherRegistered)
    exact ⟨valid, current, List.ne_nil_of_mem present⟩
  · rintro ⟨valid, current, nonempty⟩
    obtain ⟨row, present⟩ := List.exists_mem_of_ne_nil _ nonempty
    obtain ⟨inGroup, inRows⟩ :=
      (collector.isExportedRow_iff_mem_group (key, entry) row).mp
        ⟨registered, valid, current, present⟩
    exact ⟨entry.name, _,
      (collector.mem_userSamples_iff _ _).mpr ⟨(key, entry), inGroup, row, inRows, rfl⟩,
      get?_rowSample_queryKey _ _ _⟩

/-- The samples of the exported rows are all user samples, each once. -/
theorem bijOn_exportedSample
    (contract : ∀ read ∈ collector.reads, read.2.RowContract) :
    Set.BijOn collector.exportedSample
      {pair | collector.IsExportedRow pair} {sample | sample ∈ collector.userSamples} := by
  refine ⟨?_, ?_, ?_⟩
  · rintro ⟨read, row⟩ exported
    obtain ⟨inGroup, present⟩ := (collector.isExportedRow_iff_mem_group read row).mp exported
    exact (collector.mem_userSamples_iff _ _).mpr ⟨read, inGroup, row, present, rfl⟩
  · rintro ⟨read, row⟩ exported ⟨other, otherRow⟩ otherExported same
    obtain ⟨inGroup, present⟩ := (collector.isExportedRow_iff_mem_group read row).mp exported
    have otherPresent := otherExported.2.2.2
    simp only [exportedSample, Prod.mk.injEq] at same
    obtain ⟨sameName, sameSample⟩ := same
    have sameLabels : ∀ name,
        (rowSample (collector.group read.2.name) read row).labels.get? name =
          (rowSample (collector.group other.2.name) other otherRow).labels.get? name := by
      intro name
      rw [sameSample]
    have sameKey := sameLabels "query_key"
    rw [get?_rowSample_queryKey, get?_rowSample_queryKey, Option.some.injEq] at sameKey
    have sameEntry : read.2 = other.2 := by
      have registered := exported.1
      have otherRegistered := otherExported.1
      rw [sameKey, otherRegistered] at registered
      exact (Option.some.inj registered).symm
    obtain rfl : read = other := Prod.ext sameKey sameEntry
    have rowContract := contract read ((collector.mem_group_iff _ read).mp inGroup).1
    have symmetric : Std.Symm fun row other : QueryResult =>
        ¬row.dynamicLabels.SameMap other.dynamicLabels :=
      ⟨fun _ _ apart same => apart fun name => (same name).symm⟩
    by_contra different
    refine rowContract.distinct.forall present otherPresent (fun equal => ?_)
      (sameMap_of_sameMap_rowSample rowContract inGroup present otherPresent sameLabels)
    exact different (by rw [equal])
  · rintro ⟨name, sample⟩ member
    obtain ⟨read, inGroup, row, present, rfl⟩ := (collector.mem_userSamples_iff _ _).mp member
    have named := ((collector.mem_group_iff name read).mp inGroup).2.2
    subst named
    exact ⟨(read, row),
      (collector.isExportedRow_iff_mem_group read row).mpr ⟨inGroup, present⟩, rfl⟩

/-- Every entry keeping the row contract, a scrape of an active replica exports
every cached row exactly once and nothing else. -/
theorem exportsEveryRowOnce
    (collector : Collector)
    (contract : ∀ read ∈ collector.reads, read.2.RowContract) :
    collector.ExportsEveryRowOnce := by
  have families := collector.scrapedUserFamilies_eq
  refine ⟨?_, ?_, bijOn_exportedSample contract, ?_, ?_, pairwise_userSamples contract⟩
  · rw [families, collect_true]
  · rw [families]
    exact collector.nodup_map_name_userFamilies
  · intro read row exported
    rw [families]
    obtain ⟨inGroup, present⟩ := (collector.isExportedRow_iff_mem_group read row).mp exported
    have family := (collector.mem_userFamilies_iff _).mpr
      ⟨read.2.name, List.ne_nil_of_mem inGroup, rfl⟩
    refine ⟨⟨_, ⟨family, rfl⟩, ?_⟩, ⟨_, family, rfl, ?_⟩, rfl,
      get?_rowSample_queryKey _ _ _, ?_⟩
    · rintro other ⟨otherFamily, named⟩
      obtain ⟨name, -, rfl⟩ := (collector.mem_userFamilies_iff other).mp otherFamily
      rw [show name = read.2.name from named]
    · exact List.mem_flatMap.mpr ⟨read, inGroup, List.mem_map_of_mem present⟩
    · intro name value column
      refine get?_rowSample_of_column inGroup present column fun isKey => ?_
      have registered := ((collector.mem_group_iff _ read).mp inGroup).1
      exact (contract read registered).noKeyColumn row present
        (isKey ▸ (Dict.mem_keys_iff _ _).mpr ⟨value, column⟩)
  · intro family member sample inFamily other otherInFamily name
    rw [families] at member
    obtain ⟨familyName, -, rfl⟩ := (collector.mem_userFamilies_iff family).mp member
    obtain ⟨read, -, inRows⟩ := List.mem_flatMap.mp inFamily
    obtain ⟨row, -, rfl⟩ := List.mem_map.mp inRows
    obtain ⟨otherRead, -, otherInRows⟩ := List.mem_flatMap.mp otherInFamily
    obtain ⟨otherRow, -, rfl⟩ := List.mem_map.mp otherInRows
    rw [mem_keys_labels_rowSample, mem_keys_labels_rowSample]

/-- One row with the given columns. -/
def oneRow (columns : List (String × String)) : List QueryResult :=
  [{ value := .finite 1, dynamicLabels := Dict.ofList columns }]

/-- Two queries with one metric name: the first has a static label `env` and a column
`app`, the second the given columns. -/
def sharedName (columns : List (String × String)) : Collector :=
  let first := ((create "clickhouse").register "ns/a" "hits" ""
    (Dict.ofList [("env", "prod")]) none).update "ns/a" (oneRow [("app", "x")]) 1 1 none 1
  ((first.1.register "ns/b" "hits" "" Dict.empty none).update "ns/b"
    (oneRow columns) 1 1 none 1).1

/-- The static label of the first query is a column of the second. -/
theorem exportsEveryRowOnce_sharedName : (sharedName [("env", "dev")]).ExportsEveryRowOnce :=
  exportsEveryRowOnce (sharedName [("env", "dev")]) (by decide)

/-! ## Padding and static labels -/

/-- The value that a row and its entry give to a label name; a name that only
other queries of the family use is padded. -/
def ownLabel
    (group : List Read)
    (read : Read)
    (row : QueryResult)
    (name : String) : Option String :=
  if name = "query_key" then some read.1
  else (row.dynamicLabels.get? name).or ((read.2.labels.get? name).or
    (if name ∈ allStaticKeys group ∨ name ∈ allDynamicKeys group then some ""
    else none))

/-- The exported sample of a row has exactly the labels of the row and its
entry, padded to the schema of the family. -/
def LabelLaw (collector : Collector) (read : Read) (row : QueryResult) : Prop :=
  collector.exportedSample (read, row) ∈ collector.userSamples ∧
    ∀ name, (collector.exportedSample (read, row)).2.labels.get? name =
      ownLabel (collector.group read.2.name) read row name

/-- The two scrapes agree on every nonempty label of the row. -/
def NonEmptyLabelsKept
    (before after : Collector)
    (read : Read)
    (row : QueryResult) : Prop :=
  ∀ name value, value ≠ "" →
    ((before.exportedSample (read, row)).2.labels.get? name = some value ↔
      (after.exportedSample (read, row)).2.labels.get? name = some value)

/-- No nonempty static label, of a name that is not a column of the row, is a
row column elsewhere in the family. -/
def NoColumnClash (collector : Collector) (read : Read) (row : QueryResult) : Prop :=
  ∀ name value, read.2.labels.get? name = some value → value ≠ "" →
    row.dynamicLabels.get? name = none →
      ∀ other otherRow, collector.IsExportedRow (other, otherRow) →
        other.2.name = read.2.name → name ∉ otherRow.dynamicLabels.keys

/-- The columns of a group are those of its exported rows. -/
theorem mem_allDynamicKeys_group_iff (groupName name : String) :
    name ∈ allDynamicKeys (collector.group groupName) ↔
      ∃ other otherRow, collector.IsExportedRow (other, otherRow) ∧
        other.2.name = groupName ∧ name ∈ otherRow.dynamicLabels.keys := by
  rw [mem_allDynamicKeys_iff]
  constructor
  · rintro ⟨other, inGroup, otherRow, present, column⟩
    have named := ((collector.mem_group_iff groupName other).mp inGroup).2.2
    subst named
    exact ⟨other, otherRow,
      (collector.isExportedRow_iff_mem_group other otherRow).mpr ⟨inGroup, present⟩, rfl, column⟩
  · rintro ⟨other, otherRow, exported, rfl, column⟩
    obtain ⟨inGroup, present⟩ := (collector.isExportedRow_iff_mem_group other otherRow).mp exported
    exact ⟨other, inGroup, otherRow, present, column⟩

/-- A label is exported as it should be, unless its nonempty static value is
overwritten by the padding of a column. -/
theorem get?_rowSample_eq_ownLabel_iff
    {group : List Read}
    {read : Read}
    {row : QueryResult}
    (inGroup : read ∈ group)
    (present : row ∈ read.rows)
    (noKeyLabel : "query_key" ∉ read.2.labels.keys)
    (name : String) :
    (rowSample group read row).labels.get? name = ownLabel group read row name ↔
      ∀ value, read.2.labels.get? name = some value → value ≠ "" →
        row.dynamicLabels.get? name = none → name ∉ allDynamicKeys group := by
  by_cases isKey : name = "query_key"
  · subst isKey
    rw [get?_rowSample_queryKey, ownLabel, if_pos rfl, (Dict.get?_eq_none_iff _ _).mpr noKeyLabel]
    simp
  cases column : row.dynamicLabels.get? name with
  | some value =>
      rw [get?_rowSample_of_column inGroup present column isKey, ownLabel, if_neg isKey, column]
      simp
  | none =>
      rw [get?_labels_rowSample, if_neg isKey, ownLabel, if_neg isKey, column, Option.none_or]
      simp only [labelValue, column, Option.getD_none]
      cases static : read.2.labels.get? name with
      | none =>
          by_cases isDynamic : name ∈ allDynamicKeys group <;>
            by_cases isStatic : name ∈ allStaticKeys group <;>
              simp only [isDynamic, isStatic, if_true, if_false, or_true, true_or, or_self,
                Option.none_or, Option.getD_none, reduceCtorEq, false_implies, implies_true]
      | some value =>
          have isStatic : name ∈ allStaticKeys group :=
            (mem_allStaticKeys_iff _ _).mpr
              ⟨read, inGroup, (Dict.mem_keys_iff _ _).mpr ⟨value, static⟩⟩
          by_cases isDynamic : name ∈ allDynamicKeys group
          · -- The padding of the column is written after the static value.
            simp only [isDynamic, if_true, Option.some_or, Option.some.injEq, not_true_eq_false,
              forall_const, forall_eq', imp_false, not_not]
            exact eq_comm
          · simp only [isDynamic, isStatic, if_true, if_false, Option.getD_some, Option.some_or,
              not_false_eq_true, implies_true]

/-- The label law of one scrape holds exactly without a column clash. -/
theorem labelLaw_iff_noColumnClash
    {read : Read}
    {row : QueryResult}
    (exported : collector.IsExportedRow (read, row))
    (noKeyLabel : "query_key" ∉ read.2.labels.keys) :
    collector.LabelLaw read row ↔ collector.NoColumnClash read row := by
  obtain ⟨inGroup, present⟩ := (collector.isExportedRow_iff_mem_group read row).mp exported
  have member : collector.exportedSample (read, row) ∈ collector.userSamples :=
    (collector.mem_userSamples_iff _ _).mpr ⟨read, inGroup, row, present, rfl⟩
  rw [LabelLaw, and_iff_right member]
  simp only [exportedSample, get?_rowSample_eq_ownLabel_iff inGroup present noKeyLabel,
    NoColumnClash]
  refine forall_congr' fun name => forall_congr' fun value => ?_
  rw [mem_allDynamicKeys_group_iff]
  constructor
  · intro law static nonempty noColumn other otherRow otherExported named column
    exact law static nonempty noColumn ⟨other, otherRow, otherExported, named, column⟩
  · rintro clashFree static nonempty noColumn ⟨other, otherRow, otherExported, named, column⟩
    exact clashFree static nonempty noColumn other otherRow otherExported named column

/-- The nonempty labels that a row should have do not depend on its group. -/
theorem ownLabel_eq_some_iff
    (group other : List Read)
    (read : Read)
    (row : QueryResult)
    {name value : String}
    (nonempty : value ≠ "") :
    ownLabel group read row name = some value ↔
      ownLabel other read row name = some value := by
  have padding : ∀ names : List Read,
      (if name ∈ allStaticKeys names ∨ name ∈ allDynamicKeys names then some ""
        else none) ≠ some value := by
    intro names padded
    split at padded
    · exact nonempty (Option.some.inj padded).symm
    · cases padded
  simp only [ownLabel]
  split
  · rfl
  · cases row.dynamicLabels.get? name with
    | some column => rfl
    | none =>
        cases read.2.labels.get? name with
        | some static => rfl
        | none =>
            simp only [Option.none_or]
            exact iff_of_false (padding group) (padding other)

/-- Queries that share a metric name leave a row's labels alone, before and
after a change of the others, exactly when no column clashes with a nonempty
static label of the row's entry. -/
theorem labelLaws_iff_noColumnClash
    (before after : Collector)
    (read : Read)
    (row : QueryResult)
    (exportedBefore : before.IsExportedRow (read, row))
    (exportedAfter : after.IsExportedRow (read, row))
    (noKeyLabel : "query_key" ∉ read.2.labels.keys) :
    (before.LabelLaw read row ∧ after.LabelLaw read row ∧
        NonEmptyLabelsKept before after read row) ↔
      before.NoColumnClash read row ∧ after.NoColumnClash read row := by
  rw [← labelLaw_iff_noColumnClash exportedBefore noKeyLabel,
    ← labelLaw_iff_noColumnClash exportedAfter noKeyLabel]
  constructor
  · rintro ⟨lawBefore, lawAfter, -⟩
    exact ⟨lawBefore, lawAfter⟩
  · rintro ⟨lawBefore, lawAfter⟩
    refine ⟨lawBefore, lawAfter, fun name value nonempty => ?_⟩
    rw [lawBefore.2 name, lawAfter.2 name]
    exact ownLabel_eq_some_iff _ _ read row nonempty

/-- No column clashes when no row has a static label of the entry as a column. -/
theorem noColumnClash_of_forall
    {read : Read}
    {row : QueryResult}
    (apart : ∀ other ∈ collector.reads, ∀ otherRow ∈ other.rows,
      ∀ name ∈ read.2.labels.keys, name ∉ otherRow.dynamicLabels.keys) :
    collector.NoColumnClash read row := by
  rintro name value static - - ⟨key, entry⟩ otherRow ⟨registered, -, -, present⟩ -
  exact apart (key, entry) ((collector.mem_reads_iff key entry).mpr registered) otherRow present
    name ((Dict.mem_keys_iff _ _).mpr ⟨value, static⟩)

/-- The entry of the first query. -/
def firstRead : Read :=
  ("ns/a", (((sharedName []).entries.get? "ns/a").getD
    { name := "", help := "", labels := Dict.empty }))

/-- The only row of the first query. -/
def firstRow : QueryResult where
  value := .finite 1
  dynamicLabels := Dict.ofList [("app", "x")]

/-- The second query answers with a new column. -/
def changedName : Collector :=
  ((sharedName [("app", "y")]).update "ns/b" (oneRow [("app", "z"), ("pod", "p")]) 1 2 none 2).1

/-- The first query keeps its static label, and only gets an empty one for the new
column of the second. -/
theorem labelLaws_changedName :
    (changedName.exportedSample (firstRead, firstRow)).2.labels.get? "pod" = some "" ∧
      (sharedName [("app", "y")]).LabelLaw firstRead firstRow ∧
      changedName.LabelLaw firstRead firstRow ∧
      NonEmptyLabelsKept (sharedName [("app", "y")]) changedName firstRead firstRow := by
  have present : firstRow ∈ firstRead.rows := List.mem_singleton_self firstRow
  have exportedBefore : (sharedName [("app", "y")]).IsExportedRow (firstRead, firstRow) :=
    ⟨rfl, rfl, rfl, present⟩
  have exportedAfter : changedName.IsExportedRow (firstRead, firstRow) :=
    ⟨rfl, rfl, rfl, present⟩
  exact ⟨by decide, (labelLaws_iff_noColumnClash (sharedName [("app", "y")]) changedName
    firstRead firstRow exportedBefore exportedAfter (by decide)).mpr
      ⟨noColumnClash_of_forall (by decide), noColumnClash_of_forall (by decide)⟩⟩

/-- The second query of the shared name is deleted, and its row column with
it. -/
def unsharedName : Collector :=
  (sharedName [("env", "dev")]).unregister "ns/b"

/-- Next to a second query with a column `env` the `env` label is emptied. -/
theorem not_labelLaws_sharedName :
    ((sharedName [("env", "dev")]).exportedSample (firstRead, firstRow)).2.labels.get? "env" =
        some "" ∧
      (unsharedName.exportedSample (firstRead, firstRow)).2.labels.get? "env" = some "prod" ∧
      ¬(unsharedName.LabelLaw firstRead firstRow ∧
        (sharedName [("env", "dev")]).LabelLaw firstRead firstRow ∧
        NonEmptyLabelsKept unsharedName (sharedName [("env", "dev")]) firstRead firstRow) := by
  have emptied : ((sharedName [("env", "dev")]).exportedSample
      (firstRead, firstRow)).2.labels.get? "env" = some "" := by
    decide
  have own : ownLabel ((sharedName [("env", "dev")]).group "hits") firstRead firstRow "env" =
      some "prod" := by
    decide
  refine ⟨emptied, by decide, ?_⟩
  rintro ⟨-, law, -⟩
  have exported := law.2 "env"
  rw [emptied] at exported
  exact absurd (exported.trans own) (by decide)

end Collector

end Promch
