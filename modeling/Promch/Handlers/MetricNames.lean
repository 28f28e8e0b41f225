import Mathlib.Data.List.DropRight
import Promch.Handlers.Families
import Promch.Handlers.Views

/-!
# The names of the exported families

Under every accepted prefix and after any edits, the families of a scrape have
well-formed names in the namespace of the prefix.  An entry is exported under
the name of its last edit, as it is or with the prefix put in front once.
-/

namespace Promch

/-! ## Well-formed names -/

/-- A character inside a metric name. -/
def isMetricChar (char : Char) : Bool :=
  char.isAlphanum || char = '_' || char = ':'

/-- A letter, an underscore or a colon, then such characters and digits. -/
def isMetricName (text : String) : Bool :=
  match text.toList with
  | [] => false
  | first :: rest =>
      (first.isAlpha || first = '_' || first = ':') && rest.all isMetricChar

variable {text other : String}

/-- Every identifier is a metric name. -/
theorem isMetricName_of_isIdentifier (identifier : isIdentifier text = true) :
    isMetricName text = true := by
  unfold isIdentifier at identifier
  unfold isMetricName
  cases chars : text.toList with
  | nil => simp [chars] at identifier
  | cons first rest =>
      simp only [chars, Bool.and_eq_true, List.all_eq_true] at identifier
      simp only [Bool.and_eq_true, List.all_eq_true]
      refine ⟨by rw [identifier.1, Bool.true_or], fun char member => ?_⟩
      rw [isMetricChar, identifier.2 char member, Bool.true_or]

/-- All characters of a metric name may stand inside one. -/
theorem isMetricChar_of_mem (name : isMetricName text = true) :
    ∀ char ∈ text.toList, isMetricChar char = true := by
  unfold isMetricName at name
  cases chars : text.toList with
  | nil => simp
  | cons first rest =>
      simp only [chars, Bool.and_eq_true, List.all_eq_true, Bool.or_eq_true] at name
      refine List.forall_mem_cons.mpr ⟨?_, name.2⟩
      simp only [isMetricChar, Char.isAlphanum, Bool.or_eq_true]
      exact name.1.imp_left fun start => start.imp_left .inl

/-- The beginning of a metric name is one, unless it is empty. -/
theorem isMetricName_of_isPrefix
    (name : isMetricName text = true)
    (lead : other.toList <+: text.toList)
    (nonempty : other ≠ "") :
    isMetricName other = true := by
  obtain ⟨tail, split⟩ := lead
  unfold isMetricName at name ⊢
  cases chars : other.toList with
  | nil => exact absurd (String.toList_eq_nil_iff.mp chars) nonempty
  | cons first rest =>
      rw [chars] at split
      simp only [← split, List.cons_append, List.all_append, Bool.and_eq_true] at name
      simp only [Bool.and_eq_true]
      exact ⟨name.1, name.2.1⟩

/-- A metric name can be continued. -/
theorem isMetricName_append
    (name : isMetricName text = true)
    (tail : ∀ char ∈ other.toList, isMetricChar char = true) :
    isMetricName (text ++ other) = true := by
  unfold isMetricName at name ⊢
  rw [String.toList_append]
  cases chars : text.toList with
  | nil => simp [chars] at name
  | cons first rest =>
      simp only [chars, Bool.and_eq_true] at name
      simp only [List.cons_append, List.all_append, Bool.and_eq_true]
      exact ⟨name.1, name.2, List.all_eq_true.mpr tail⟩

/-- A well-formed name that begins with the prefix and an underscore, if there is
a prefix. -/
structure WellNamed (metricPrefix name : String) : Prop where
  wellFormed : isMetricName name = true
  namespaced : metricPrefix ≠ "" → PyText.startsWith name (metricPrefix ++ "_") = true

variable {metricPrefix name : String}

/-- A prefix under which names are well formed: none, or a metric name. -/
def IsPrefix (metricPrefix : String) : Prop :=
  metricPrefix = "" ∨ isMetricName metricPrefix = true

theorem startsWith_append (lead tail : String) : PyText.startsWith (lead ++ tail) lead = true := by
  rw [PyText.startsWith, List.isPrefixOf_iff_prefix, String.toList_append]
  exact List.prefix_append _ _

/-- A metric name put under a prefix is well named. -/
theorem wellNamed_sysName
    (valid : IsPrefix metricPrefix)
    (name : isMetricName other = true) :
    WellNamed metricPrefix (sysName metricPrefix other) := by
  unfold sysName
  split
  · next empty => exact ⟨name, fun nonempty => absurd empty nonempty⟩
  · next nonempty =>
      refine ⟨?_, fun _ => startsWith_append _ _⟩
      rw [String.append_assoc]
      refine isMetricName_append (valid.resolve_left nonempty) fun char member => ?_
      rw [String.toList_append, List.mem_append] at member
      obtain underscore | inName := member
      · obtain rfl := List.mem_singleton.mp underscore
        decide
      · exact isMetricChar_of_mem name char inName

/-! ## The configured prefix -/

theorem toList_rstripUnderscore (text : String) :
    (Collector.rstripUnderscore text).toList = text.toList.rdropWhile (· = '_') :=
  String.toList_ofList

/-- What the configuration accepts as a prefix is one, without its trailing
underscores. -/
theorem isPrefix_metricPrefixNormalized (config : OperatorConfig) :
    IsPrefix config.metricPrefixNormalized := by
  by_cases empty : config.metricPrefixNormalized = ""
  · exact .inl empty
  · have lead : config.metricPrefixNormalized.toList <+: config.metricPrefix.toList := by
      rw [OperatorConfig.metricPrefixNormalized, toList_rstripUnderscore]
      exact List.rdropWhile_prefix _ _
    obtain none | identifier := config.metricPrefix_valid
    · rw [none] at lead
      exact absurd (String.toList_eq_nil_iff.mp (List.prefix_nil.mp lead)) empty
    · exact .inr (isMetricName_of_isPrefix (isMetricName_of_isIdentifier identifier) lead empty)

/-- Normalizing the prefix once more changes nothing. -/
theorem metricPrefix_startCollector (config : OperatorConfig) :
    (startCollector config).metricPrefix = config.metricPrefixNormalized := by
  apply String.toList_injective
  simp only [startCollector, Collector.create, OperatorConfig.metricPrefixNormalized,
    toList_rstripUnderscore]
  exact List.rdropWhile_idempotent _ _

theorem metricPrefix_apply
    (config : OperatorConfig)
    (collector : Collector)
    (op : HandlerOp) :
    (op.apply config collector).1.metricPrefix = collector.metricPrefix := by
  cases op with
  | register key spec queryType =>
      simp only [HandlerOp.apply, register, Collector.register]
      split <;> rfl
  | update key rows durationSeconds tickTs failedNodes now =>
      simp only [HandlerOp.apply, Collector.update]
      split <;> rfl
  | fail key errorType message failedNodes now =>
      simp only [HandlerOp.apply, fail]
      split
      · split <;> rfl
      · rfl
  | unregister | markWaiting | incInflight | decInflight | recordSkip => rfl

theorem metricPrefix_runOps (config : OperatorConfig) (ops : List HandlerOp) :
    (runOps config (startCollector config) ops).metricPrefix =
      config.metricPrefixNormalized := by
  induction ops using List.reverseRecOn with
  | nil => exact metricPrefix_startCollector config
  | append_singleton ops op inductionHypothesis =>
      rw [runOps_append_singleton, metricPrefix_apply, inductionHypothesis]

/-! ## The names of the entries -/

/-- A name under a prefix policy: as it is, or with the prefix put in front. -/
theorem applyPrefix_cases
    {policy : PrefixPolicy}
    (resolved : applyPrefix other metricPrefix policy = .ok name) :
    name = other ∧ (metricPrefix ≠ "" → PyText.startsWith other (metricPrefix ++ "_") = true) ∨
      metricPrefix ≠ "" ∧ name = metricPrefix ++ "_" ++ other := by
  unfold applyPrefix at resolved
  split at resolved
  · next empty => exact .inl ⟨(Except.ok.inj resolved).symm, fun nonempty => absurd empty nonempty⟩
  · next nonempty =>
      split at resolved
      · next starts =>
          cases policy with
          | skip => exact .inl ⟨(Except.ok.inj resolved).symm, fun _ => starts⟩
          | append => exact .inr ⟨nonempty, (Except.ok.inj resolved).symm⟩
          | fail => cases resolved
      · exact .inr ⟨nonempty, (Except.ok.inj resolved).symm⟩

/-- Only a collision with the prefix is an error of the policy. -/
theorem raised_of_applyPrefix
    {policy : PrefixPolicy}
    {raised : Raised}
    (failed : applyPrefix other metricPrefix policy = .error raised) :
    raised = .valueError (prefixCollision other metricPrefix) := by
  unfold applyPrefix at failed
  split at failed
  · cases failed
  · split at failed
    · cases policy with
      | skip | append => cases failed
      | fail => exact (Except.error.inj failed).symm
    · cases failed

/-- A resource that is not misconfigured has the name that the policy gives
it. -/
theorem applyPrefix_of_valid
    {spec : MetricSpec}
    {queryType : QueryType}
    {nodeLabel : String}
    (valid : PyText.truthy
      (resolveMetric spec queryType metricPrefix nodeLabel).invalidReason = false) :
    applyPrefix spec.name metricPrefix spec.prefixPolicy =
      .ok (resolveMetric spec queryType metricPrefix nodeLabel).name := by
  by_cases free : labelClashes spec.labels nodeLabel queryType = []
  · cases resolved : applyPrefix spec.name metricPrefix spec.prefixPolicy with
    | ok name => simp [resolveMetric, free, resolved]
    | error raised =>
        obtain rfl := raised_of_applyPrefix resolved
        simp [resolveMetric, free, resolved, PyText.truthy, Raised.message,
          prefixCollision] at valid
  · simp [resolveMetric, free, PyText.truthy] at valid

/-- Under a well-formed raw name the policy gives a well-formed one. -/
theorem wellNamed_of_applyPrefix
    {policy : PrefixPolicy}
    (valid : IsPrefix metricPrefix)
    (raw : isMetricName other = true)
    (resolved : applyPrefix other metricPrefix policy = .ok name) :
    WellNamed metricPrefix name := by
  obtain ⟨rfl, namespaced⟩ | ⟨nonempty, rfl⟩ := applyPrefix_cases resolved
  · exact ⟨raw, namespaced⟩
  · have named := wellNamed_sysName valid raw
    rwa [sysName, if_neg nonempty] at named

/-- The last edit of a key after one more operation; a removal ends it. -/
def recordEdit
    (key : String)
    (last : Option (MetricSpec × QueryType)) : HandlerOp → Option (MetricSpec × QueryType)
  | .register other spec queryType => if key = other then some (spec, queryType) else last
  | .unregister other => if key = other then none else last
  | _ => last

/-- The resource that a key was last registered for, unless it was removed since
then. -/
def lastEdit (key : String) (ops : List HandlerOp) : Option (MetricSpec × QueryType) :=
  ops.foldl (recordEdit key) none

/-- The name of an entry is the one of an edit. -/
structure CachedMetric.NamedBy
    (config : OperatorConfig)
    (entry : CachedMetric)
    (edit : MetricSpec × QueryType) : Prop where
  name : entry.name =
    (resolveMetric edit.1 edit.2 config.metricPrefixNormalized config.nodeLabel).name
  invalidReason : entry.invalidReason =
    (resolveMetric edit.1 edit.2 config.metricPrefixNormalized config.nodeLabel).invalidReason

section Run

variable {config : OperatorConfig} {key : String}

/-- Only an edit touches the name of an entry, and every edit sets it. -/
theorem namedBy_apply
    {collector : Collector}
    {last : Option (MetricSpec × QueryType)}
    (inStep : Option.Rel (CachedMetric.NamedBy config) (collector.entries.get? key) last)
    (op : HandlerOp) :
    Option.Rel (CachedMetric.NamedBy config) ((op.apply config collector).1.entries.get? key)
      (recordEdit key last op) := by
  rw [get?_apply]
  by_cases same : key = op.key
  · rw [if_pos same]
    cases stored : collector.entries.get? key with
    | none =>
        rw [stored] at inStep
        cases inStep
        cases op with
        | register other spec queryType =>
            rw [recordEdit, if_pos (by exact same)]
            exact .some ⟨rfl, rfl⟩
        | unregister other =>
            rw [recordEdit, if_pos (by exact same)]
            exact .none
        | update | fail | markWaiting | incInflight | decInflight | recordSkip => exact .none
    | some entry =>
        rw [stored] at inStep
        obtain ⟨named⟩ := inStep
        cases op with
        | register other spec queryType =>
            rw [recordEdit, if_pos (by exact same)]
            exact .some ⟨rfl, rfl⟩
        | unregister other =>
            rw [recordEdit, if_pos (by exact same)]
            exact .none
        | update other rows durationSeconds tickTs failedNodes now =>
            refine .some ?_
            unfold CachedMetric.update
            split <;> exact ⟨named.name, named.invalidReason⟩
        | fail other errorType message failedNodes now =>
            refine .some ?_
            rw [CachedMetric.fail_eq]
            exact ⟨named.name, named.invalidReason⟩
        | markWaiting | incInflight | decInflight | recordSkip =>
            exact .some ⟨named.name, named.invalidReason⟩
  · rw [if_neg same]
    cases op with
    | register other spec queryType | unregister other =>
        rw [recordEdit, if_neg (by exact same)]
        exact inStep
    | update | fail | markWaiting | incInflight | decInflight | recordSkip => exact inStep

/-- After a run every entry is named by the last edit of its key. -/
theorem namedBy_runOps
    (config : OperatorConfig)
    (ops : List HandlerOp)
    (key : String) :
    Option.Rel (CachedMetric.NamedBy config)
      ((runOps config (startCollector config) ops).entries.get? key) (lastEdit key ops) := by
  induction ops using List.reverseRecOn with
  | nil => exact .none
  | append_singleton ops op inductionHypothesis =>
      rw [runOps_append_singleton, lastEdit, List.foldl_append]
      exact namedBy_apply inductionHypothesis op

/-- The last edit of a key is one of the operations. -/
theorem mem_of_lastEdit
    {ops : List HandlerOp}
    {spec : MetricSpec}
    {queryType : QueryType}
    (edited : lastEdit key ops = some (spec, queryType)) :
    .register key spec queryType ∈ ops := by
  induction ops using List.reverseRecOn with
  | nil => cases edited
  | append_singleton ops op inductionHypothesis =>
      rw [lastEdit, List.foldl_append] at edited
      have earlier : lastEdit key ops = some (spec, queryType) →
          .register key spec queryType ∈ ops ++ [op] :=
        fun before => List.mem_append_left _ (inductionHypothesis before)
      cases op with
      | register other found foundType =>
          by_cases same : key = other
          · subst same
            obtain ⟨rfl, rfl⟩ := Prod.mk.inj (Option.some.inj ((if_pos rfl).symm.trans edited))
            exact List.mem_append_right _ List.mem_cons_self
          · exact earlier ((if_neg same).symm.trans edited)
      | unregister other =>
          by_cases same : key = other
          · cases (if_pos same).symm.trans edited
          · exact earlier ((if_neg same).symm.trans edited)
      | update | fail | markWaiting | incInflight | decInflight | recordSkip =>
          exact earlier edited

end Run

/-! ## The families of a scrape -/

/-- A text without the suffix of counter samples. -/
def withoutTotal (text : String) : String :=
  if "_total".toList.isSuffixOf text.toList then
    String.ofList (text.toList.take (text.toList.length - 6))
  else text

/-- The name that the client library gives a family: that of a counter loses the
suffix of its samples. -/
def MetricFamily.yieldedName (family : MetricFamily) : String :=
  match family.kind with
  | .gauge => family.name
  | .counter => withoutTotal family.name

theorem withoutTotal_append (lead : String) : withoutTotal (lead ++ "_total") = lead := by
  have suffix : "_total".toList.isSuffixOf (lead ++ "_total").toList = true := by
    rw [List.isSuffixOf_iff_suffix, String.toList_append]
    exact List.suffix_append _ _
  have total : "_total".toList.length = 6 := by decide
  rw [withoutTotal, if_pos suffix]
  apply String.toList_injective
  rw [String.toList_ofList, String.toList_append, List.length_append, total,
    Nat.add_sub_cancel, List.take_left]

/-- A family with the name and the yielded name in the namespace of a prefix. -/
def MetricFamily.IsWellNamed (family : MetricFamily) (metricPrefix : String) : Prop :=
  WellNamed metricPrefix family.name ∧ WellNamed metricPrefix family.yieldedName

/-- A gauge of the exporter itself is well named. -/
theorem isWellNamed_of_gauge
    {family : MetricFamily}
    (valid : IsPrefix metricPrefix)
    (gauge : family.kind = .gauge)
    (named : family.name = sysName metricPrefix other)
    (suffix : isMetricName other = true) :
    family.IsWellNamed metricPrefix := by
  have wellNamed := wellNamed_sysName valid suffix
  rw [MetricFamily.IsWellNamed, MetricFamily.yieldedName, gauge, named]
  exact ⟨wellNamed, wellNamed⟩

theorem isWellNamed_leaderFamily
    (valid : IsPrefix metricPrefix)
    (isLeader : Bool) :
    (leaderFamily metricPrefix isLeader).IsWellNamed metricPrefix :=
  isWellNamed_of_gauge valid rfl rfl (by decide)

/-- The counter is well named with its suffix and without it. -/
theorem isWellNamed_skippedFamily
    (valid : IsPrefix metricPrefix)
    (reads : List Read) :
    (skippedFamily metricPrefix reads).IsWellNamed metricPrefix := by
  have counted : sysName metricPrefix "query_skipped_total" =
      sysName metricPrefix "query_skipped" ++ "_total" := by
    unfold sysName
    split
    · decide
    · have suffixed : "query_skipped_total" = "query_skipped" ++ "_total" := by decide
      rw [suffixed, ← String.append_assoc]
  refine ⟨wellNamed_sysName valid (by decide), ?_⟩
  change WellNamed metricPrefix (withoutTotal (sysName metricPrefix "query_skipped_total"))
  rw [counted, withoutTotal_append]
  exact wellNamed_sysName valid (by decide)

theorem isWellNamed_of_mem_systemFamilies
    {reads : List Read}
    {family : MetricFamily}
    (valid : IsPrefix metricPrefix)
    (member : family ∈ systemFamilies metricPrefix reads) :
    family.IsWellNamed metricPrefix := by
  have member := List.mem_of_mem_filter member
  simp only [List.mem_cons, List.not_mem_nil, or_false] at member
  obtain rfl | rfl | rfl | rfl | rfl := member
  · exact isWellNamed_of_gauge valid rfl rfl (by decide)
  · exact isWellNamed_of_gauge valid rfl rfl (by decide)
  · exact isWellNamed_of_gauge valid rfl rfl (by decide)
  · exact isWellNamed_of_gauge valid rfl rfl (by decide)
  · exact isWellNamed_skippedFamily valid _

section Scrape

variable {config : OperatorConfig} {ops : List HandlerOp} {key : String}
variable {entry : CachedMetric}

/-- An exported entry has the name that the policy gave the last edit. -/
theorem exists_lastEdit_of_exported
    (registered :
      (runOps config (startCollector config) ops).entries.get? key = some entry)
    (exported : Read.isExported (key, entry) = true) :
    ∃ spec queryType, lastEdit key ops = some (spec, queryType) ∧
      applyPrefix spec.name config.metricPrefixNormalized spec.prefixPolicy =
        .ok entry.name := by
  have inStep := namedBy_runOps config ops key
  rw [registered] at inStep
  cases edited : lastEdit key ops with
  | none =>
      rw [edited] at inStep
      cases inStep
  | some edit =>
      rw [edited] at inStep
      obtain ⟨named⟩ := inStep
      obtain ⟨spec, queryType⟩ := edit
      simp only [Read.isExported, Read.isActive, Bool.and_eq_true, Bool.not_eq_true'] at exported
      have valid : entry.isInvalid = false := exported.1.1
      rw [CachedMetric.isInvalid, named.invalidReason] at valid
      refine ⟨spec, queryType, rfl, ?_⟩
      rw [named.name]
      exact applyPrefix_of_valid valid

/-- The user samples of an exported entry all have its name. -/
theorem mem_map_fst_userSamplesOf_iff
    {collector : Collector}
    (registered : collector.entries.get? key = some entry)
    (exported : Read.isExported (key, entry) = true)
    (name : String) :
    name ∈ (collector.userSamplesOf key).map Prod.fst ↔ name = entry.name := by
  have hasRows : entry.rows.getD [] ≠ [] := by
    simp only [Read.isExported, Bool.and_eq_true, Bool.not_eq_true', List.isEmpty_eq_false_iff]
      at exported
    exact exported.2
  rw [Collector.userSamplesOf_eq registered, if_pos exported]
  simp only [List.map_map, List.mem_map, Function.comp_apply]
  constructor
  · rintro ⟨row, _, rfl⟩
    rfl
  · rintro rfl
    obtain ⟨row, member⟩ := List.exists_mem_of_ne_nil _ hasRows
    exact ⟨row, member, rfl⟩

/-- Every exported family is namespaced and well formed, and every exported entry
has one name: its raw one, or that with the prefix put in front once. -/
theorem families_wellNamed
    (config : OperatorConfig)
    (ops : List HandlerOp)
    (isLeader : Bool)
    (named : ∀ key spec queryType, .register key spec queryType ∈ ops →
      isMetricName spec.name = true) :
    (∀ family ∈ (runOps config (startCollector config) ops).collect isLeader,
      family.IsWellNamed config.metricPrefixNormalized) ∧
    ∀ key entry, (runOps config (startCollector config) ops).entries.get? key = some entry →
      Read.isExported (key, entry) = true →
      ∃ spec queryType exportedName, lastEdit key ops = some (spec, queryType) ∧
        (exportedName = spec.name ∨ config.metricPrefixNormalized ≠ "" ∧
          exportedName = config.metricPrefixNormalized ++ "_" ++ spec.name) ∧
        ∀ name, name ∈ ((runOps config (startCollector config) ops).userSamplesOf key).map
          Prod.fst ↔ name = exportedName := by
  have valid := isPrefix_metricPrefixNormalized config
  constructor
  · intro family member
    rw [Collector.collect, metricPrefix_runOps] at member
    obtain rfl | others := List.mem_cons.mp member
    · exact isWellNamed_leaderFamily valid isLeader
    · split at others
      · obtain system | user := List.mem_append.mp others
        · exact isWellNamed_of_mem_systemFamilies valid system
        · obtain ⟨⟨key, entry⟩, present, exported, sameName⟩ :=
            (Collector.mem_map_name_userFamilies_iff _ family.name).mp
              (List.mem_map_of_mem user)
          obtain ⟨spec, queryType, edited, resolved⟩ := exists_lastEdit_of_exported
            ((Collector.mem_reads_iff _ key entry).mp present) exported
          have wellNamed := wellNamed_of_applyPrefix valid
            (named key spec queryType (mem_of_lastEdit edited)) resolved
          obtain ⟨group, _, rfl⟩ := (Collector.mem_userFamilies_iff _ family).mp user
          rw [sameName] at wellNamed
          exact ⟨wellNamed, wellNamed⟩
      · cases others
  · intro key entry registered exported
    obtain ⟨spec, queryType, edited, resolved⟩ :=
      exists_lastEdit_of_exported registered exported
    refine ⟨spec, queryType, entry.name, edited, ?_,
      mem_map_fst_userSamplesOf_iff registered exported⟩
    exact (applyPrefix_cases resolved).imp_left And.left

end Scrape

/-- An edit takes a query with rows from a collision with the prefix to a valid
name. -/
def collisionResolved : List HandlerOp :=
  [.register "q" { name := "clickhouse_hits" } .data,
    .update "q" [{ value := .finite 1, dynamicLabels := Dict.empty }] 1 1 none 1,
    .register "q" { name := "clickhouse_hits", prefixPolicy := .append } .data]

theorem families_wellNamed_collisionResolved :
    "clickhouse_clickhouse_hits" ∈
        ((runOps defaultConfig (startCollector defaultConfig) collisionResolved).collect
          true).map MetricFamily.name ∧
      ∀ family ∈
        (runOps defaultConfig (startCollector defaultConfig) collisionResolved).collect true,
        family.IsWellNamed defaultConfig.metricPrefixNormalized := by
  refine ⟨by decide, (families_wellNamed defaultConfig collisionResolved true ?_).1⟩
  intro key spec queryType member
  simp only [collisionResolved, List.mem_cons, HandlerOp.register.injEq, reduceCtorEq,
    List.not_mem_nil, or_false, false_or] at member
  obtain ⟨-, rfl, -⟩ | ⟨-, rfl, -⟩ := member <;> decide

end Promch
