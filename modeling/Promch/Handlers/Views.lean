import Promch.Collector.Labels
import Promch.Handlers.Conditions
import Promch.Handlers.Families

/-!
# The metrics of a query and its status

A scrape and the status derivation read the flags of an entry separately and in
different orders.  On the entries that the handlers can reach they agree, unless the
entry is itself exported under the name of the health gauge.
-/

namespace Promch

/-- The sample is labelled with the key. -/
def Sample.IsOf (sample : Sample) (key : String) : Prop :=
  sample.labels.get? "query_key" = some key

instance (sample : Sample) (key : String) : Decidable (sample.IsOf key) :=
  inferInstanceAs (Decidable (_ = _))

namespace Collector

/-- The samples of the key in the families of one name, in the scrape of an active
replica. -/
def namedSamples (collector : Collector) (name key : String) : List Sample :=
  ((collector.collect true).filter fun family => family.name = name).flatMap fun family =>
    family.samples.filter fun sample => sample.IsOf key

/-- The user samples of the key in the scrape of an active replica. -/
def userSamplesOf (collector : Collector) (key : String) : List (String × Sample) :=
  collector.userSamples.filter fun pair => pair.2.IsOf key

variable {collector : Collector} {key : String} {entry : CachedMetric}

/-- The only read of a registered key. -/
theorem filter_reads_key (registered : collector.entries.get? key = some entry) :
    collector.reads.filter (fun read => read.1 = key) = [(key, entry)] :=
  Dict.filter_entries_key registered

/-! ## The samples of one key -/

/-- A family has at most one sample for a key: the value of its read, if it is
kept. -/
theorem samples_systemFamily_of_key
    (kind : FamilyKind)
    (suffix help : String)
    (value : CachedMetric → Option PyFloat)
    (metricPrefix : String)
    (keep : Read → Bool)
    (registered : collector.entries.get? key = some entry) :
    ((systemFamily kind suffix help value metricPrefix
        (collector.reads.filter keep)).samples.filter fun sample => sample.IsOf key) =
      if keep (key, entry) then ((value entry).map (addMetric ["query_key"] [key])).toList
      else [] := by
  have ofKey : ∀ read : Read, ((value read.2).map (addMetric ["query_key"] [read.1])).filter
      (fun sample => decide (sample.IsOf key)) =
        if read.1 = key then (value read.2).map (addMetric ["query_key"] [read.1]) else none := by
    intro read
    cases value read.2 with
    | none => simp
    | some number =>
        by_cases same : read.1 = key <;>
          simp [Sample.IsOf, addMetric, Dict.ofList, same]
  calc
    _ = ((collector.reads.filter keep).filter fun read => read.1 = key).filterMap fun read =>
          (value read.2).map (addMetric ["query_key"] [read.1]) := by
      rw [systemFamily, List.filter_filterMap,
        List.filterMap_filter (p := fun read : Read => decide (read.1 = key))]
      simp only [ofKey, decide_eq_true_eq]
    _ = ([(key, entry)].filter keep).filterMap fun read =>
          (value read.2).map (addMetric ["query_key"] [read.1]) := by
      rw [List.filter_comm, filter_reads_key registered]
    _ = _ := by
      cases kept : keep (key, entry) with
      | true => cases measured : value entry <;> simp [kept, measured]
      | false => simp [kept]

/-- The exporter's own families, with or without samples. -/
def ownFamilies (collector : Collector) : List MetricFamily :=
  let active := collector.reads.filter Read.isActive
  [upFamily collector.metricPrefix collector.reads,
    lastSuccessFamily collector.metricPrefix active,
    durationFamily collector.metricPrefix active,
    inflightFamily collector.metricPrefix active,
    skippedFamily collector.metricPrefix active]

/-- The only read of a key in a group is its own, if it is exported there. -/
theorem filter_group_key
    (registered : collector.entries.get? key = some entry)
    (name : String) :
    (collector.group name).filter (fun read => read.1 = key) =
      if Read.isExported (key, entry) ∧ entry.name = name then [(key, entry)] else [] := by
  rw [group, List.filter_comm, List.filter_comm (fun read : Read => decide (read.1 = key)),
    filter_reads_key registered]
  cases exported : Read.isExported (key, entry) <;> by_cases named : entry.name = name <;>
    simp [exported, named]

/-- The samples of a key in one user family. -/
theorem samples_userFamily_of_key
    (registered : collector.entries.get? key = some entry)
    (name : String) :
    ((userFamily name (collector.group name)).samples.filter fun sample => sample.IsOf key) =
      if Read.isExported (key, entry) ∧ entry.name = name then
        (entry.rows.getD []).map (rowSample (collector.group name) (key, entry))
      else [] := by
  have ofRead : ∀ read : Read, ((read.rows.map (rowSample (collector.group name) read)).filter
      fun sample => sample.IsOf key) =
        if read.1 = key then read.rows.map (rowSample (collector.group name) read) else [] := by
    intro read
    by_cases same : read.1 = key <;>
      simp [Sample.IsOf, List.filter_map, Function.comp_def, get?_rowSample_queryKey, same]
  calc
    _ = (collector.group name).flatMap fun read =>
          if read.1 = key then read.rows.map (rowSample (collector.group name) read) else [] := by
      rw [userFamily, List.filter_flatMap]
      simp only [ofRead]
    _ = ((collector.group name).filter fun read => read.1 = key).flatMap fun read =>
          if read.1 = key then read.rows.map (rowSample (collector.group name) read) else [] := by
      refine flatMap_eq_flatMap_filter _ fun read _ other => ?_
      rw [if_neg (by simpa using other)]
    _ = _ := by
      rw [filter_group_key registered name]
      split <;> simp [Read.rows]

/-- The samples of a key in the user families of one name. -/
theorem samples_userFamilies_of_key
    (registered : collector.entries.get? key = some entry)
    (name : String) :
    (((userFamilies collector.reads).filter fun family => family.name = name).flatMap
        fun family => family.samples.filter fun sample => sample.IsOf key) =
      if Read.isExported (key, entry) ∧ entry.name = name then
        (entry.rows.getD []).map (rowSample (collector.group name) (key, entry))
      else [] := by
  by_cases empty : collector.group name = []
  · have nobody : (userFamilies collector.reads).filter (fun family => family.name = name) = [] := by
      refine List.filter_eq_nil_iff.mpr fun family member => ?_
      obtain ⟨other, nonempty, rfl⟩ := (collector.mem_userFamilies_iff family).mp member
      intro named
      obtain rfl : other = name := of_decide_eq_true named
      exact nonempty empty
    rw [nobody, List.flatMap_nil, if_neg]
    rintro ⟨exported, rfl⟩
    have inGroup := (collector.mem_group_iff entry.name (key, entry)).mpr
      ⟨(collector.mem_reads_iff key entry).mpr registered, exported, rfl⟩
    rw [empty] at inGroup
    cases inGroup
  · have member := (collector.mem_userFamilies_iff _).mpr ⟨name, empty, rfl⟩
    have only := filter_eq_singleton_of_nodup collector.nodup_map_name_userFamilies member
    have ofKey := samples_userFamily_of_key registered name
    rw [show (fun family : MetricFamily => decide (family.name = name)) =
      fun family => decide (family.name = (userFamily name (collector.group name)).name) from rfl,
      only, List.flatMap_singleton, ofKey]

/-- The samples of a key under the name of a system family are those of this family,
and the rows of its entry if it is exported under that name. -/
theorem namedSamples_eq
    {family : MetricFamily}
    (member : family ∈ collector.ownFamilies)
    (registered : collector.entries.get? key = some entry) :
    collector.namedSamples family.name key =
      (family.samples.filter fun sample => sample.IsOf key) ++
        if Read.isExported (key, entry) ∧ entry.name = family.name then
          (entry.rows.getD []).map (rowSample (collector.group family.name) (key, entry))
        else [] := by
  have names : ((leaderFamily collector.metricPrefix true).name ::
      collector.ownFamilies.map MetricFamily.name).Nodup :=
    nodup_systemNames collector.metricPrefix
  obtain ⟨notLeader, distinct⟩ := List.nodup_cons.mp names
  have own : (((systemFamilies collector.metricPrefix collector.reads).filter fun other =>
        other.name = family.name).flatMap fun other =>
          other.samples.filter fun sample => sample.IsOf key) =
      family.samples.filter fun sample => sample.IsOf key := by
    calc
      _ = ((collector.ownFamilies.filter fun other => other.name = family.name).filter
            fun other => !other.samples.isEmpty).flatMap fun other =>
              other.samples.filter fun sample => sample.IsOf key := by
        rw [List.filter_comm]
        rfl
      _ = (collector.ownFamilies.filter fun other => other.name = family.name).flatMap
            fun other => other.samples.filter fun sample => sample.IsOf key := by
        refine (flatMap_eq_flatMap_filter _ fun other _ empty => ?_).symm
        rw [Bool.not_eq_false', List.isEmpty_iff] at empty
        rw [empty]
        rfl
      _ = _ := by
        rw [filter_eq_singleton_of_nodup distinct member, List.flatMap_singleton]
  have apart : ¬(leaderFamily collector.metricPrefix true).name = family.name := by
    intro same
    rw [same] at notLeader
    exact notLeader (List.mem_map_of_mem member)
  rw [namedSamples, collect_true, List.filter_cons, if_neg (by simpa using apart),
    List.filter_append, List.flatMap_append, own, samples_userFamilies_of_key registered]

/-- The health gauge has one sample for every registered key, next to the rows of an
entry that is exported under its name. -/
theorem namedSamples_queryUp (registered : collector.entries.get? key = some entry) :
    let name := sysName collector.metricPrefix "query_up"
    collector.namedSamples name key =
      addMetric ["query_key"] [key] (flagValue (!entry.isInvalid && entry.up)) ::
        if Read.isExported (key, entry) ∧ entry.name = name then
          (entry.rows.getD []).map (rowSample (collector.group name) (key, entry))
        else [] := by
  have allReads : collector.reads.filter (fun _ => true) = collector.reads :=
    List.filter_eq_self.mpr fun _ _ => rfl
  have ofKey := samples_systemFamily_of_key .gauge "query_up"
    "1 if the last ClickHouseQuery execution succeeded, 0 otherwise"
    (fun entry => some (flagValue (!entry.isInvalid && entry.up))) collector.metricPrefix
    (fun _ => true) registered
  rw [allReads] at ofKey
  have member : upFamily collector.metricPrefix collector.reads ∈ collector.ownFamilies :=
    List.mem_cons_self
  refine (namedSamples_eq member registered).trans ?_
  exact congrArg (· ++ _) ofKey

/-- The gauge of executions in flight has a sample for every active key. -/
theorem namedSamples_queryInflight (registered : collector.entries.get? key = some entry) :
    let name := sysName collector.metricPrefix "query_inflight"
    collector.namedSamples name key =
      (if entry.isInvalid then []
        else [addMetric ["query_key"] [key] (.finite entry.inflight)]) ++
        if Read.isExported (key, entry) ∧ entry.name = name then
          (entry.rows.getD []).map (rowSample (collector.group name) (key, entry))
        else [] := by
  have member : inflightFamily collector.metricPrefix (collector.reads.filter Read.isActive) ∈
      collector.ownFamilies := by simp [ownFamilies]
  have ofKey := samples_systemFamily_of_key .gauge "query_inflight"
    "Number of in-flight executions for this ClickHouseQuery"
    (fun entry => some (.finite entry.inflight)) collector.metricPrefix Read.isActive registered
  refine (namedSamples_eq member registered).trans ?_
  refine congrArg (· ++ _) (ofKey.trans ?_)
  cases invalid : entry.isInvalid <;> simp [Read.isActive, invalid]

/-- The user samples of a key are the rows of its entry, if it is exported. -/
theorem userSamplesOf_eq (registered : collector.entries.get? key = some entry) :
    collector.userSamplesOf key =
      if Read.isExported (key, entry) then
        (entry.rows.getD []).map fun row =>
          (entry.name, rowSample (collector.group entry.name) (key, entry) row)
      else [] := by
  have ofFamily : ∀ family ∈ userFamilies collector.reads,
      ((family.samples.map fun sample => (family.name, sample)).filter
        fun pair => pair.2.IsOf key) =
      if Read.isExported (key, entry) ∧ entry.name = family.name then
        (entry.rows.getD []).map fun row =>
          (entry.name, rowSample (collector.group entry.name) (key, entry) row)
      else [] := by
    intro family member
    obtain ⟨name, -, rfl⟩ := (collector.mem_userFamilies_iff family).mp member
    have ofKey := samples_userFamily_of_key registered name
    calc
      _ = ((userFamily name (collector.group name)).samples.filter
            fun sample => sample.IsOf key).map fun sample => (name, sample) := List.filter_map
      _ = _ := by
        rw [ofKey]
        by_cases here : Read.isExported (key, entry) = true ∧ entry.name = name
        · obtain ⟨exported, rfl⟩ := here
          simp [exported, userFamily, Function.comp_def]
        · exact (congrArg _ (if_neg here)).trans (if_neg here).symm
  rw [userSamplesOf, userSamples, scrapedUserFamilies_eq, List.filter_flatMap,
    List.flatMap_congr ofFamily]
  cases exported : Read.isExported (key, entry) with
  | false => simp
  | true =>
      have inGroup : (key, entry) ∈ collector.group entry.name :=
        (collector.mem_group_iff _ _).mpr
          ⟨(collector.mem_reads_iff key entry).mpr registered, exported, rfl⟩
      have member : userFamily entry.name (collector.group entry.name) ∈
          userFamilies collector.reads :=
        (collector.mem_userFamilies_iff _).mpr ⟨entry.name, List.ne_nil_of_mem inGroup, rfl⟩
      have only := filter_eq_singleton_of_nodup collector.nodup_map_name_userFamilies member
      rw [flatMap_eq_flatMap_filter fun family => decide (family.name = entry.name)]
      · rw [show (fun family : MetricFamily => decide (family.name = entry.name)) =
          fun family => decide (family.name =
            (userFamily entry.name (collector.group entry.name)).name) from rfl, only]
        simp [userFamily]
      · intro family _ other
        rw [if_neg fun here => of_decide_eq_false other here.2.symm]

end Collector

/-! ## The flags of a reachable entry -/

/-- A healthy entry has a current success. -/
def CachedMetric.UpIsCurrent (entry : CachedMetric) : Prop :=
  entry.up = true → entry.expired = false ∧ entry.lastSuccessTs.isSome = true

section UpIsCurrent

variable {config : OperatorConfig} {collector : Collector} {key : String} {entry : CachedMetric}

/-- An entry is only marked up by a success, which also clears its expiry. -/
theorem HandlerOp.upIsCurrent_change
    {entry changed : CachedMetric}
    {op : HandlerOp}
    (current : entry.UpIsCurrent)
    (stepped : op.change config entry = some changed) :
    changed.UpIsCurrent := by
  cases op with
  | unregister => cases stepped
  | update key rows durationSeconds tickTs failedNodes now =>
      cases stepped
      unfold CachedMetric.update
      split
      · exact current
      · exact fun _ => ⟨rfl, rfl⟩
  | fail key errorType message failedNodes now =>
      cases stepped
      rw [entry.fail_eq config errorType message failedNodes now]
      exact fun isUp => Bool.noConfusion isUp
  | register | markWaiting | incInflight | decInflight | recordSkip =>
      cases stepped
      exact current

/-- Every reachable entry that is up has a current success. -/
theorem Reachable.upIsCurrent
    (reachable : Reachable config collector)
    (registered : collector.entries.get? key = some entry) :
    entry.UpIsCurrent :=
  reachable.forall_entry (motive := CachedMetric.UpIsCurrent)
    (fun _ _ _ _ isUp => Bool.noConfusion isUp)
    (fun _ _ _ current stepped => HandlerOp.upIsCurrent_change current stepped)
    (fun _ _ _ _ isUp => Bool.noConfusion isUp)
    registered

/-- The phase cascade of a valid entry, read off its flags. -/
theorem derivePhase_snapshot_iff (current : entry.UpIsCurrent) :
    (derivePhase entry.snapshot = .healthy ∨ derivePhase entry.snapshot = .degraded ↔
      entry.up = true) ∧
    (derivePhase entry.snapshot = .expired ↔ entry.expired = true) ∧
    derivePhase entry.snapshot ≠ .invalid := by
  unfold CachedMetric.UpIsCurrent at current
  simp only [derivePhase, CachedMetric.snapshot]
  grind

end UpIsCurrent

/-- A status of a query and the scrape of an active replica tell the same of it. -/
structure ViewsAgree
    (collector : Collector)
    (key : String)
    (entry : CachedMetric)
    (status : Status) : Prop where
  /-- The scrape has one health sample for the query, which is one in the healthy
  phases and zero otherwise. -/
  health : ∃ sample,
    collector.namedSamples (sysName collector.metricPrefix "query_up") key = [sample] ∧
      (sample.value = .finite 1 ∨ sample.value = .finite 0) ∧
      (sample.value = .finite 1 ↔
        status.phase = some .healthy ∨ status.phase = some .degraded)
  /-- Only an invalid query has no sample of its executions in flight. -/
  misconfigured : status.phase = some .invalid ↔
    collector.namedSamples (sysName collector.metricPrefix "query_up") key ≠ [] ∧
      collector.namedSamples (sysName collector.metricPrefix "query_inflight") key = []
  /-- The rows are exported unless the phase says otherwise. -/
  shown : collector.userSamplesOf key ≠ [] ↔
    entry.rows.getD [] ≠ [] ∧
      status.phase ≠ some .expired ∧ status.phase ≠ some .invalid
  /-- A healthy status counts the exported rows. -/
  counted : status.phase = some .healthy ∨ status.phase = some .degraded →
    ∃ lastSuccess, status.lastSuccess = some lastSuccess ∧
      lastSuccess.rowCount = (collector.userSamplesOf key).length

/-- The rows of the query are exported under the name of the health gauge. -/
def ClashesWithHealth (collector : Collector) (entry : CachedMetric) : Prop :=
  entry.isInvalid = false ∧ entry.expired = false ∧ entry.rows.getD [] ≠ [] ∧
    entry.name = sysName collector.metricPrefix "query_up"

section Agreement

variable {config : OperatorConfig} {collector : Collector} {key : String} {entry : CachedMetric}

private theorem isExported_iff :
    Read.isExported (key, entry) = true ↔
      entry.isInvalid = false ∧ entry.expired = false ∧ entry.rows.getD [] ≠ [] := by
  simp [Read.isExported, Read.isActive, Read.rows, and_assoc]

/-- Without a clash the health sample of a registered key is the only one. -/
private theorem namedSamples_queryUp_eq
    (registered : collector.entries.get? key = some entry)
    (apart : ¬ClashesWithHealth collector entry) :
    collector.namedSamples (sysName collector.metricPrefix "query_up") key =
      [addMetric ["query_key"] [key] (flagValue (!entry.isInvalid && entry.up))] := by
  refine (Collector.namedSamples_queryUp registered).trans ?_
  rw [if_neg]
  rintro ⟨exported, named⟩
  obtain ⟨valid, current, nonempty⟩ := isExported_iff.mp exported
  exact apart ⟨valid, current, nonempty, named⟩

/-- A key lacks the sample of its executions in flight exactly if it is invalid. -/
private theorem namedSamples_queryInflight_eq_nil_iff
    (registered : collector.entries.get? key = some entry) :
    collector.namedSamples (sysName collector.metricPrefix "query_inflight") key = [] ↔
      entry.isInvalid = true := by
  rw [Collector.namedSamples_queryInflight registered, List.append_eq_nil_iff]
  cases invalid : entry.isInvalid with
  | true =>
      have hidden : Read.isExported (key, entry) = false := by
        simp [Read.isExported, Read.isActive, invalid]
      simp [hidden]
  | false => simp

/-- The views of an invalid query agree. -/
private theorem viewsAgree_of_invalid
    (registered : collector.entries.get? key = some entry)
    (apart : ¬ClashesWithHealth collector entry)
    (invalid : entry.isInvalid = true)
    (current : Status)
    (clock : StatusClock) :
    ViewsAgree collector key entry
      (deriveStatus (collector.snapshot key) current config clock) := by
  have hidden : Read.isExported (key, entry) = false := by
    simp [Read.isExported, Read.isActive, invalid]
  have misconfigured : PyText.truthy entry.snapshot.invalidReason = true := invalid
  have phase : (deriveStatus (collector.snapshot key) current config clock).phase =
      some .invalid := by
    rw [Collector.snapshot_of_registered registered]
    exact phase_deriveStatus_of_invalid current config clock misconfigured
  have nothing : collector.userSamplesOf key = [] := by
    rw [Collector.userSamplesOf_eq registered, hidden]
    rfl
  have only := namedSamples_queryUp_eq registered apart
  have zero_ne_one : PyFloat.finite 0 ≠ .finite 1 := by decide
  refine ⟨⟨_, only, ?_⟩, ?_, ?_, ?_⟩
  · simp [phase, addMetric, flagValue, invalid, zero_ne_one]
  · simp [phase, only, (namedSamples_queryInflight_eq_nil_iff registered).mpr invalid]
  · simp [phase, nothing]
  · simp [phase]

/-- The views of a valid query agree. -/
private theorem viewsAgree_of_valid
    (reachable : Reachable config collector)
    (registered : collector.entries.get? key = some entry)
    (apart : ¬ClashesWithHealth collector entry)
    (valid : entry.isInvalid = false)
    (current : Status)
    (clock : StatusClock) :
    ViewsAgree collector key entry
      (deriveStatus (collector.snapshot key) current config clock) := by
  have isCurrent := reachable.upIsCurrent registered
  obtain ⟨healthy_iff, expired_iff, notInvalid⟩ := derivePhase_snapshot_iff isCurrent
  have wellConfigured : PyText.truthy entry.snapshot.invalidReason = false := valid
  have phase : (deriveStatus (collector.snapshot key) current config clock).phase =
      some (derivePhase entry.snapshot) := by
    rw [Collector.snapshot_of_registered registered]
    exact phase_deriveStatus current config clock wellConfigured
  have shown_iff : Read.isExported (key, entry) = true ↔
      entry.expired = false ∧ entry.rows.getD [] ≠ [] := by
    rw [isExported_iff, valid]
    simp
  have only := namedSamples_queryUp_eq registered apart
  have zero_ne_one : PyFloat.finite 0 ≠ .finite 1 := by decide
  refine ⟨⟨_, only, ?_⟩, ?_, ?_, ?_⟩
  · simp only [phase, Option.some.injEq, healthy_iff, valid]
    cases entry.up <;> simp [addMetric, flagValue, zero_ne_one]
  · have inflight := namedSamples_queryInflight_eq_nil_iff registered
    simp [phase, notInvalid, inflight, valid]
  · rw [Collector.userSamplesOf_eq registered]
    simp only [phase, Option.some.injEq, ne_eq, expired_iff, notInvalid]
    split
    · next exported => simp [shown_iff.mp exported]
    · next hidden =>
        rw [shown_iff] at hidden
        simp only [not_true_eq_false, false_iff]
        exact fun shown => hidden ⟨by simpa using shown.2.1, shown.1⟩
  · rw [phase, Option.some.injEq, Option.some.injEq, healthy_iff,
      Collector.snapshot_of_registered registered,
      lastSuccess_deriveStatus current config clock wellConfigured,
      Collector.userSamplesOf_eq registered]
    intro isUp
    have rowCount : entry.snapshot.rowCount = (entry.rows.getD []).length := by
      cases rows : entry.rows <;> simp [CachedMetric.snapshot, rows]
    obtain ⟨notExpired, succeeded⟩ := isCurrent isUp
    obtain ⟨timestamp, recorded⟩ := Option.isSome_iff_exists.mp succeeded
    refine ⟨_, congrArg (Option.map _) recorded, rowCount.trans ?_⟩
    split
    · rw [List.length_map]
    · next hidden =>
        rw [shown_iff, not_and_not_right] at hidden
        rw [hidden notExpired]
        rfl

end Agreement

/-- The status of a query and a scrape agree, whatever the stored status and the clock
are, exactly if the rows of the query are not exported as health samples. -/
theorem viewsAgree_iff
    (config : OperatorConfig)
    (collector : Collector)
    (reachable : Reachable config collector)
    (key : String)
    (entry : CachedMetric)
    (registered : collector.entries.get? key = some entry)
    (current : Status)
    (clock : StatusClock) :
    ViewsAgree collector key entry
        (deriveStatus (collector.snapshot key) current config clock) ↔
      ¬ClashesWithHealth collector entry := by
  constructor
  · rintro agree ⟨valid, notExpired, nonempty, named⟩
    obtain ⟨sample, only, -⟩ := agree.health
    have samples := (Collector.namedSamples_queryUp registered).symm.trans only
    rw [if_pos ⟨isExported_iff.mpr ⟨valid, notExpired, nonempty⟩, named⟩] at samples
    exact nonempty (List.map_eq_nil_iff.mp (List.cons.inj samples).2)
  · intro apart
    cases invalid : entry.isInvalid with
    | true => exact viewsAgree_of_invalid registered apart invalid current clock
    | false => exact viewsAgree_of_valid reachable registered apart invalid current clock

/-- A query that answered one row. -/
def oneRowQuery : Collector :=
  runOps defaultConfig (startCollector defaultConfig)
    [.register "ns/d" { name := "hits" } .data,
      .update "ns/d" [{ value := .finite 7, dynamicLabels := Dict.empty }] 1 1 none 2]

/-- Its phase is healthy and its status counts the row. -/
theorem viewsAgree_oneRow :
    ∃ entry, oneRowQuery.entries.get? "ns/d" = some entry ∧
      (deriveStatus (oneRowQuery.snapshot "ns/d") Status.empty defaultConfig (.still 3)).phase =
        some .healthy ∧
      ViewsAgree oneRowQuery "ns/d" entry
        (deriveStatus (oneRowQuery.snapshot "ns/d") Status.empty defaultConfig (.still 3)) := by
  refine ⟨_, rfl, rfl, (viewsAgree_iff defaultConfig oneRowQuery
    (Reachable.runOps defaultConfig _) "ns/d" _ rfl Status.empty (.still 3)).mpr ?_⟩
  rintro ⟨-, -, -, named⟩
  exact absurd named (by decide)

/-- A query whose rows are exported under the name of the health gauge has two health
samples. -/
theorem not_viewsAgree_of_query_up :
    ¬∀ (config : OperatorConfig) (collector : Collector), Reachable config collector →
      ∀ key entry, collector.entries.get? key = some entry →
        ∀ (current : Status) (clock : StatusClock),
          ViewsAgree collector key entry
            (deriveStatus (collector.snapshot key) current config clock) := by
  intro claimed
  obtain ⟨⟨sample, only, -⟩, -, -, -⟩ := claimed defaultConfig (namedQuery "query_up")
    (Reachable.runOps defaultConfig _) "ns/q" _ rfl Status.empty (.still 3)
  have two : ((namedQuery "query_up").namedSamples
      (sysName (namedQuery "query_up").metricPrefix "query_up") "ns/q").length = 2 := by decide
  rw [only] at two
  cases two

end Promch
