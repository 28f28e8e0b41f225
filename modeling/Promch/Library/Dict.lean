import Mathlib.Data.List.Induction
import Mathlib.Data.List.Nodup

/-!
# Insertion-ordered dictionaries

A `Dict` is a finite map that remembers the order in which its keys were first
inserted, as the dictionaries of a scripting language do.  Writing a present
key keeps its position, writing a new key appends it, and iterating follows the
entry list.  The structure carries the uniqueness of its keys, so lookups and
entries determine each other.
-/

/-- With distinct keys an element is the only one with its key. -/
theorem filter_eq_singleton_of_nodup [DecidableEq κ]
    {key : α → κ}
    {list : List α}
    {element : α}
    (nodup : (list.map key).Nodup)
    (member : element ∈ list) :
    list.filter (fun other => key other = key element) = [element] := by
  induction list with
  | nil => cases member
  | cons head rest inductionHypothesis =>
      obtain ⟨headAbsent, restNodup⟩ := List.nodup_cons.mp nodup
      obtain rfl | inRest := List.mem_cons.mp member
      · have othersDiffer : ∀ other ∈ rest, ¬key other = key element := by
          intro other inRest same
          exact headAbsent (same ▸ List.mem_map_of_mem inRest)
        rw [List.filter_cons_of_pos (by simp),
          List.filter_eq_nil_iff.mpr (by simpa using othersDiffer)]
      · have different : ¬key head = key element := fun same =>
          headAbsent (same ▸ List.mem_map_of_mem inRest)
        rw [List.filter_cons_of_neg (by simpa using different)]
        exact inductionHypothesis restNodup inRest

/-- A finite map with unique keys in insertion order. -/
structure Dict (κ : Type u) (ν : Type v) where
  /-- The key-value pairs in iteration order. -/
  entries : List (κ × ν)
  /-- No key occurs twice. -/
  nodupKeys : (entries.map Prod.fst).Nodup

namespace Dict

/-- Write one key of an association list, in place when it is present. -/
def assocSet [DecidableEq κ] : List (κ × ν) → κ → ν → List (κ × ν)
  | [], key, value => [(key, value)]
  | entry :: rest, key, value =>
      if entry.1 = key then (key, value) :: rest
      else entry :: assocSet rest key value

theorem map_fst_assocSet [DecidableEq κ]
    (list : List (κ × ν))
    (key : κ)
    (value : ν) :
    (assocSet list key value).map Prod.fst =
      if key ∈ list.map Prod.fst then list.map Prod.fst
      else list.map Prod.fst ++ [key] := by
  induction list with
  | nil => simp [assocSet]
  | cons entry rest inductionHypothesis =>
      by_cases same : entry.1 = key
      · simp [assocSet, same]
      · have different : key ≠ entry.1 := fun equal => same equal.symm
        by_cases present : key ∈ rest.map Prod.fst
        · rw [if_pos present] at inductionHypothesis
          rw [if_pos (by simp only [List.map_cons, List.mem_cons]; exact .inr present)]
          simp [assocSet, same, inductionHypothesis]
        · rw [if_neg present] at inductionHypothesis
          rw [if_neg (by
            simp only [List.map_cons, List.mem_cons, not_or]
            exact ⟨different, present⟩)]
          simp [assocSet, same, inductionHypothesis]

private theorem lookup_cons_eq_ite [DecidableEq κ]
    (entry : κ × ν)
    (rest : List (κ × ν))
    (key : κ) :
    (entry :: rest).lookup key =
      if key = entry.1 then some entry.2 else rest.lookup key := by
  by_cases head : key = entry.1
  · rw [if_pos head, head]
    exact List.lookup_cons_self
  · rw [if_neg head, List.lookup_cons, beq_false_of_ne head]

theorem lookup_assocSet [DecidableEq κ]
    (list : List (κ × ν))
    (key other : κ)
    (value : ν) :
    (assocSet list key value).lookup other =
      if other = key then some value else list.lookup other := by
  induction list with
  | nil => simp only [assocSet, lookup_cons_eq_ite]
  | cons entry rest inductionHypothesis =>
      by_cases replaced : entry.1 = key
      · simp only [assocSet, replaced, if_true, lookup_cons_eq_ite]
        by_cases same : other = key <;> simp [same]
      · simp only [assocSet, replaced, if_false, lookup_cons_eq_ite,
          inductionHypothesis]
        by_cases head : other = entry.1
        · have different : other ≠ key := fun same => replaced (head.symm.trans same)
          simp [head, replaced]
        · simp [head]

/-- The dictionary without entries. -/
def empty : Dict κ ν where
  entries := []
  nodupKeys := by simp

/-- The keys in iteration order. -/
def keys (dict : Dict κ ν) : List κ :=
  dict.entries.map Prod.fst

/-- The values in iteration order. -/
def values (dict : Dict κ ν) : List ν :=
  dict.entries.map Prod.snd

/-- Converting values, where possible, leaves some of the keys. -/
private theorem map_fst_filterMap_sublist
    (list : List (κ × ν))
    (convert : ν → Option μ) :
    (list.filterMap fun entry => (convert entry.2).map (entry.1, ·)).map Prod.fst |>.Sublist
      (list.map Prod.fst) := by
  induction list with
  | nil => exact List.Sublist.refl _
  | cons entry rest inductionHypothesis =>
      cases converted : convert entry.2 with
      | none =>
          simp only [List.filterMap_cons, converted, Option.map_none, List.map_cons]
          exact inductionHypothesis.cons _
      | some value =>
          simp only [List.filterMap_cons, converted, Option.map_some, List.map_cons]
          exact inductionHypothesis.cons_cons _

/-- Convert the values that can be converted, and leave the others out. -/
def filterMapValues (dict : Dict κ ν) (convert : ν → Option μ) : Dict κ μ where
  entries := dict.entries.filterMap fun entry => (convert entry.2).map (entry.1, ·)
  nodupKeys := dict.nodupKeys.sublist (map_fst_filterMap_sublist dict.entries convert)

/-- Convert every value, keeping keys and order. -/
def mapValues (dict : Dict κ ν) (convert : ν → μ) : Dict κ μ where
  entries := dict.entries.map fun entry => (entry.1, convert entry.2)
  nodupKeys := by
    simpa [List.map_map, Function.comp_def] using dict.nodupKeys

/-- A dictionary is its entry list. -/
theorem ext_entries {dict other : Dict κ ν} (same : dict.entries = other.entries) :
    dict = other := by
  cases dict
  cases other
  simpa using same

@[simp] theorem entries_empty :
    (empty : Dict κ ν).entries = [] := rfl

theorem nodup_keys (dict : Dict κ ν) : dict.keys.Nodup :=
  dict.nodupKeys

@[simp] theorem keys_mapValues
    (dict : Dict κ ν)
    (convert : ν → μ) :
    (dict.mapValues convert).keys = dict.keys := by
  simp [keys, mapValues, Function.comp_def]

@[simp] theorem values_mapValues
    (dict : Dict κ ν)
    (convert : ν → μ) :
    (dict.mapValues convert).values = dict.values.map convert := by
  simp [values, mapValues, Function.comp_def]

theorem mapValues_id (dict : Dict κ ν) : (dict.mapValues fun value => value) = dict := by
  apply ext_entries
  simp [mapValues]

theorem mapValues_mapValues
    (dict : Dict κ ν)
    (first : ν → μ)
    (second : μ → ξ) :
    (dict.mapValues first).mapValues second = dict.mapValues fun value => second (first value) := by
  apply ext_entries
  simp [mapValues, Function.comp_def]

section Operations

variable [DecidableEq κ]

/-- The value stored under a key. -/
def get? (dict : Dict κ ν) (key : κ) : Option ν :=
  dict.entries.lookup key

/-- Store a value under a key, keeping the position of a present key. -/
def set (dict : Dict κ ν) (key : κ) (value : ν) : Dict κ ν where
  entries := assocSet dict.entries key value
  nodupKeys := by
    rw [map_fst_assocSet]
    split
    · exact dict.nodupKeys
    · next absent =>
        exact List.Nodup.append dict.nodupKeys (List.nodup_singleton key)
          (by simpa using absent)

/-- Remove a key; a missing key is ignored. -/
def erase (dict : Dict κ ν) (key : κ) : Dict κ ν where
  entries := dict.entries.filter fun entry => entry.1 ≠ key
  nodupKeys :=
    dict.nodupKeys.sublist ((List.filter_sublist).map Prod.fst)

/-- Change the value of a present key in place; a missing key is ignored. -/
def modify (dict : Dict κ ν) (key : κ) (change : ν → ν) : Dict κ ν :=
  match dict.get? key with
  | none => dict
  | some value => dict.set key (change value)

/-- The dictionaries hold the same pairs, in any order. -/
def SameMap (first second : Dict κ ν) : Prop :=
  ∀ key, first.get? key = second.get? key

/-- Build a dictionary from pairs, later values of a repeated key winning. -/
def ofList (pairs : List (κ × ν)) : Dict κ ν :=
  pairs.foldl (fun dict pair => dict.set pair.1 pair.2) empty

end Operations

section Lemmas

variable [DecidableEq κ]

@[simp] theorem get?_empty (key : κ) :
    (empty : Dict κ ν).get? key = none := rfl

theorem get?_set
    (dict : Dict κ ν)
    (key other : κ)
    (value : ν) :
    (dict.set key value).get? other =
      if other = key then some value else dict.get? other :=
  lookup_assocSet dict.entries key other value

@[simp] theorem get?_set_self
    (dict : Dict κ ν)
    (key : κ)
    (value : ν) :
    (dict.set key value).get? key = some value := by
  simp [get?_set]

private theorem assocSet_of_lookup
    {list : List (κ × ν)}
    {key : κ}
    {value : ν}
    (stored : list.lookup key = some value) :
    assocSet list key value = list := by
  induction list with
  | nil => cases stored
  | cons entry rest inductionHypothesis =>
      rw [lookup_cons_eq_ite] at stored
      by_cases head : key = entry.1
      · rw [if_pos head] at stored
        rw [assocSet, if_pos head.symm, head, ← Option.some.inj stored]
      · rw [if_neg head] at stored
        rw [assocSet, if_neg fun same => head same.symm, inductionHypothesis stored]

/-- Writing the value that is already stored changes nothing. -/
theorem set_of_get?_eq
    {dict : Dict κ ν}
    {key : κ}
    {value : ν}
    (stored : dict.get? key = some value) :
    dict.set key value = dict := by
  obtain ⟨list, nodup⟩ := dict
  simp only [set, Dict.mk.injEq]
  exact assocSet_of_lookup stored

theorem lookup_filter_ne
    (list : List (κ × ν))
    (key other : κ) :
    (list.filter fun entry => entry.1 ≠ key).lookup other =
      if other = key then none else list.lookup other := by
  induction list with
  | nil => simp
  | cons entry rest inductionHypothesis =>
      by_cases removed : entry.1 = key
      · rw [List.filter_cons_of_neg (by simpa using removed),
          inductionHypothesis, lookup_cons_eq_ite, removed]
        by_cases same : other = key <;> simp [same]
      · rw [List.filter_cons_of_pos (by simpa using removed),
          lookup_cons_eq_ite, lookup_cons_eq_ite, inductionHypothesis]
        by_cases head : other = entry.1
        · simp [head, removed]
        · simp [head]

theorem get?_erase
    (dict : Dict κ ν)
    (key other : κ) :
    (dict.erase key).get? other =
      if other = key then none else dict.get? other :=
  lookup_filter_ne dict.entries key other

/-- What was stored under a key is gone when the key is removed. -/
theorem erase_set
    (dict : Dict κ ν)
    (key : κ)
    (value : ν) :
    (dict.set key value).erase key = dict.erase key := by
  apply ext_entries
  obtain ⟨list, nodup⟩ := dict
  simp only [set, erase]
  clear nodup
  induction list with
  | nil => simp [assocSet]
  | cons entry rest inductionHypothesis =>
      simp only [assocSet]
      split
      · next same => simp [same]
      · next apart =>
          simp only [List.filter_cons, inductionHypothesis]

theorem erase_modify
    (dict : Dict κ ν)
    (key : κ)
    (change : ν → ν) :
    (dict.modify key change).erase key = dict.erase key := by
  unfold modify
  cases dict.get? key with
  | none => rfl
  | some value => exact erase_set dict key _

theorem get?_modify
    (dict : Dict κ ν)
    (key other : κ)
    (change : ν → ν) :
    (dict.modify key change).get? other =
      if other = key then (dict.get? key).map change
      else dict.get? other := by
  unfold modify
  cases stored : dict.get? key with
  | none =>
      by_cases same : other = key
      · simp [same, stored]
      · simp [same]
  | some value => simp [get?_set]

private theorem lookup_map_snd
    (list : List (κ × ν))
    (convert : ν → μ)
    (key : κ) :
    (list.map fun entry => (entry.1, convert entry.2)).lookup key =
      (list.lookup key).map convert := by
  induction list with
  | nil => rfl
  | cons entry rest inductionHypothesis =>
      rw [List.map_cons, lookup_cons_eq_ite, lookup_cons_eq_ite, inductionHypothesis]
      split <;> rfl

theorem get?_mapValues
    (dict : Dict κ ν)
    (convert : ν → μ)
    (key : κ) :
    (dict.mapValues convert).get? key = (dict.get? key).map convert :=
  lookup_map_snd dict.entries convert key

/-- Membership in the entry list is the same as being looked up. -/
theorem mem_entries_iff
    (dict : Dict κ ν)
    (key : κ)
    (value : ν) :
    (key, value) ∈ dict.entries ↔ dict.get? key = some value := by
  obtain ⟨list, nodup⟩ := dict
  simp only [get?]
  induction list with
  | nil => simp
  | cons entry rest inductionHypothesis =>
      obtain ⟨headKey, headValue⟩ := entry
      simp only [List.map_cons, List.nodup_cons] at nodup
      have tail := inductionHypothesis nodup.2
      by_cases head : key = headKey
      · subst head
        have absent : (key, value) ∉ rest := fun member =>
          nodup.1 (List.mem_map_of_mem (f := Prod.fst) member)
        simp only [List.mem_cons, Prod.mk.injEq, true_and, absent, or_false,
          List.lookup_cons_self, Option.some.injEq]
        exact eq_comm
      · simp [lookup_cons_eq_ite, head, tail]

theorem get?_filterMapValues
    (dict : Dict κ ν)
    (convert : ν → Option μ)
    (key : κ) :
    (dict.filterMapValues convert).get? key = (dict.get? key).bind convert := by
  apply Option.ext
  intro value
  rw [← mem_entries_iff, filterMapValues, List.mem_filterMap, Option.bind_eq_some_iff]
  constructor
  · rintro ⟨⟨other, before⟩, member, converted⟩
    obtain ⟨after, found, same⟩ := Option.map_eq_some_iff.mp converted
    obtain ⟨rfl, rfl⟩ := Prod.mk.inj same
    exact ⟨before, (mem_entries_iff dict other before).mp member, found⟩
  · rintro ⟨before, stored, converted⟩
    exact ⟨(key, before), (mem_entries_iff dict key before).mpr stored, by rw [converted]; rfl⟩

theorem mem_keys_iff
    (dict : Dict κ ν)
    (key : κ) :
    key ∈ dict.keys ↔ ∃ value, dict.get? key = some value := by
  simp only [keys, List.mem_map, Prod.exists, exists_and_right,
    exists_eq_right, mem_entries_iff]

theorem get?_eq_none_iff
    (dict : Dict κ ν)
    (key : κ) :
    dict.get? key = none ↔ key ∉ dict.keys := by
  rw [mem_keys_iff, not_exists, Option.eq_none_iff_forall_ne_some]

/-- Two dictionaries hold the same pairs when they agree on their own keys. -/
theorem sameMap_iff_forall_mem_keys (first second : Dict κ ν) :
    first.SameMap second ↔
      (∀ key ∈ first.keys, first.get? key = second.get? key) ∧
        ∀ key ∈ second.keys, first.get? key = second.get? key := by
  constructor
  · exact fun same => ⟨fun key _ => same key, fun key _ => same key⟩
  · rintro ⟨onFirst, onSecond⟩ key
    by_cases inFirst : key ∈ first.keys
    · exact onFirst key inFirst
    · by_cases inSecond : key ∈ second.keys
      · exact onSecond key inSecond
      · rw [(get?_eq_none_iff first key).mpr inFirst,
          (get?_eq_none_iff second key).mpr inSecond]

instance [DecidableEq ν] (first second : Dict κ ν) : Decidable (first.SameMap second) :=
  decidable_of_iff _ (sameMap_iff_forall_mem_keys first second).symm

@[simp] theorem mem_keys_set
    (dict : Dict κ ν)
    (key other : κ)
    (value : ν) :
    other ∈ (dict.set key value).keys ↔ other = key ∨ other ∈ dict.keys := by
  simp only [mem_keys_iff, get?_set]
  by_cases same : other = key <;> simp [same]

theorem mem_keys_of_mem_keys_erase
    {dict : Dict κ ν}
    {key other : κ}
    (member : other ∈ (dict.erase key).keys) :
    other ∈ dict.keys := by
  rw [mem_keys_iff, get?_erase] at member
  obtain ⟨value, stored⟩ := member
  split at stored
  · cases stored
  · exact (mem_keys_iff dict other).mpr ⟨value, stored⟩

@[simp] theorem mem_keys_modify
    (dict : Dict κ ν)
    (key other : κ)
    (change : ν → ν) :
    other ∈ (dict.modify key change).keys ↔ other ∈ dict.keys := by
  simp only [mem_keys_iff, get?_modify]
  by_cases same : other = key
  · subst same
    cases dict.get? other <;> simp
  · simp [same]

private theorem get?_foldl_set
    (pairs : List (κ × ν))
    (dict : Dict κ ν)
    (key : κ) :
    (pairs.foldl (fun dict pair => dict.set pair.1 pair.2) dict).get? key =
      (pairs.reverse.lookup key).or (dict.get? key) := by
  induction pairs generalizing dict with
  | nil => simp
  | cons pair rest inductionHypothesis =>
      rw [List.foldl_cons, inductionHypothesis, get?_set, List.reverse_cons,
        List.lookup_append]
      by_cases head : key = pair.1 <;> simp [head, lookup_cons_eq_ite]

/-- The last pair of a key decides its value. -/
theorem get?_ofList
    (pairs : List (κ × ν))
    (key : κ) :
    (ofList pairs).get? key = pairs.reverse.lookup key := by
  simp [ofList, get?_foldl_set]

/-- A built dictionary holds only given pairs. -/
theorem mem_of_get?_ofList
    {pairs : List (κ × ν)}
    {key : κ}
    {value : ν}
    (stored : (ofList pairs).get? key = some value) :
    (key, value) ∈ pairs := by
  rw [get?_ofList, List.lookup_eq_some_iff] at stored
  obtain ⟨earlier, later, split, -⟩ := stored
  rw [← List.mem_reverse, split]
  simp

/-- In a concatenation of pairs the later part wins. -/
theorem get?_ofList_append
    (first second : List (κ × ν))
    (key : κ) :
    (ofList (first ++ second)).get? key =
      ((ofList second).get? key).or ((ofList first).get? key) := by
  simp [get?_ofList, List.lookup_append]

private theorem lookup_map_pair
    (names : List κ)
    (value : κ → ν)
    (key : κ) :
    (names.map fun name => (name, value name)).lookup key =
      if key ∈ names then some (value key) else none := by
  induction names with
  | nil => simp
  | cons name rest inductionHypothesis =>
      rw [List.map_cons, lookup_cons_eq_ite, inductionHypothesis]
      by_cases head : key = name <;> simp [head]

/-- A dictionary tabulated over a key list. -/
theorem get?_ofList_map
    (names : List κ)
    (value : κ → ν)
    (key : κ) :
    (ofList (names.map fun name => (name, value name))).get? key =
      if key ∈ names then some (value key) else none := by
  rw [get?_ofList, ← List.map_reverse, lookup_map_pair]
  simp

/-- Writing a new key appends it. -/
theorem entries_set_of_notMem
    {dict : Dict κ ν}
    {key : κ}
    (absent : key ∉ dict.keys)
    (value : ν) :
    (dict.set key value).entries = dict.entries ++ [(key, value)] := by
  obtain ⟨list, nodup⟩ := dict
  simp only [set, keys] at absent ⊢
  clear nodup
  induction list with
  | nil => rfl
  | cons entry rest inductionHypothesis =>
      simp only [List.map_cons, List.mem_cons, not_or] at absent
      obtain ⟨different, absentRest⟩ := absent
      rw [assocSet, if_neg fun same => different same.symm, inductionHypothesis absentRest]
      rfl

private theorem assocSet_of_mem
    {list : List (κ × ν)}
    {key : κ}
    (value : ν)
    (nodup : (list.map Prod.fst).Nodup)
    (present : key ∈ list.map Prod.fst) :
    assocSet list key value =
      list.map fun entry => if entry.1 = key then (key, value) else entry := by
  induction list with
  | nil => cases present
  | cons entry rest inductionHypothesis =>
      obtain ⟨headAbsent, restNodup⟩ := List.nodup_cons.mp nodup
      by_cases head : entry.1 = key
      · have untouched : ∀ other ∈ rest,
            (if other.1 = key then (key, value) else other) = other := by
          intro other member
          rw [if_neg]
          rintro rfl
          exact headAbsent (head ▸ List.mem_map_of_mem (f := Prod.fst) member)
        rw [assocSet, if_pos head, List.map_cons, if_pos head, List.map_congr_left untouched,
          List.map_id']
      · obtain same | inRest := List.mem_cons.mp present
        · exact absurd same.symm head
        · rw [assocSet, if_neg head, inductionHypothesis restNodup inRest, List.map_cons,
            if_neg head]

/-- Writing a present key replaces its entry in place. -/
theorem entries_set_of_get?
    {dict : Dict κ ν}
    {key : κ}
    {stored : ν}
    (present : dict.get? key = some stored)
    (value : ν) :
    (dict.set key value).entries =
      dict.entries.map fun entry => if entry.1 = key then (key, value) else entry :=
  assocSet_of_mem value dict.nodupKeys ((mem_keys_iff dict key).mpr ⟨stored, present⟩)

/-! ## Converting every value -/

/-- Conversions that agree on the stored values convert alike. -/
theorem mapValues_congr
    {dict : Dict κ ν}
    {first second : ν → μ}
    (agree : ∀ key value, dict.get? key = some value → first value = second value) :
    dict.mapValues first = dict.mapValues second := by
  apply ext_entries
  apply List.map_congr_left
  rintro ⟨key, value⟩ member
  rw [agree key value ((mem_entries_iff dict key value).mp member)]

theorem mapValues_set
    (dict : Dict κ ν)
    (key : κ)
    (value : ν)
    (convert : ν → μ) :
    (dict.set key value).mapValues convert =
      (dict.mapValues convert).set key (convert value) := by
  apply ext_entries
  obtain ⟨list, nodup⟩ := dict
  simp only [mapValues, set]
  clear nodup
  induction list with
  | nil => rfl
  | cons entry rest inductionHypothesis =>
      simp only [List.map_cons, assocSet]
      split
      · rfl
      · rw [List.map_cons, inductionHypothesis]

theorem mapValues_erase
    (dict : Dict κ ν)
    (key : κ)
    (convert : ν → μ) :
    (dict.erase key).mapValues convert = (dict.mapValues convert).erase key := by
  apply ext_entries
  simp [mapValues, erase, List.filter_map, Function.comp_def]

/-- Changing one converted value is converting that value differently. -/
theorem modify_mapValues
    {dict : Dict κ ν}
    {key : κ}
    {change : μ → μ}
    {convert changed : ν → μ}
    (atKey : ∀ value, dict.get? key = some value → changed value = change (convert value))
    (elsewhere : ∀ other value, other ≠ key → dict.get? other = some value →
      changed value = convert value) :
    (dict.mapValues convert).modify key change = dict.mapValues changed := by
  unfold modify
  rw [get?_mapValues]
  cases stored : dict.get? key with
  | none =>
      apply mapValues_congr
      intro other value found
      refine (elsewhere other value ?_ found).symm
      rintro rfl
      cases stored.symm.trans found
  | some value =>
      apply ext_entries
      simp only [Option.map_some]
      have present : (dict.mapValues convert).get? key = some (convert value) := by
        rw [get?_mapValues, stored]
        rfl
      rw [entries_set_of_get? present]
      simp only [mapValues, List.map_map]
      apply List.map_congr_left
      rintro ⟨other, otherValue⟩ member
      have found := (mem_entries_iff dict other otherValue).mp member
      by_cases same : other = key
      · subst same
        simp [atKey otherValue found, Option.some.inj (stored.symm.trans found)]
      · simp [same, elsewhere other otherValue same found]

/-- Pairs with distinct keys are the entries of the dictionary built from
them. -/
theorem entries_ofList
    {pairs : List (κ × ν)}
    (nodup : (pairs.map Prod.fst).Nodup) :
    (ofList pairs).entries = pairs := by
  induction pairs using List.reverseRecOn with
  | nil => rfl
  | append_singleton earlier pair inductionHypothesis =>
      rw [List.map_append, List.nodup_append] at nodup
      obtain ⟨earlierNodup, -, apart⟩ := nodup
      have built := inductionHypothesis earlierNodup
      have absent : pair.1 ∉ (ofList earlier).keys := by
        rw [keys, built]
        exact fun member => apart _ member _ (by simp) rfl
      have split : ofList (earlier ++ [pair]) = (ofList earlier).set pair.1 pair.2 := by
        simp [ofList]
      rw [split, entries_set_of_notMem absent, built]

end Lemmas

/-! ## Counting entries -/

section Counting

variable [DecidableEq κ] (counted : κ × ν → Bool) {dict : Dict κ ν} {key : κ} {value : ν}

/-- Writing a new key counts its entry. -/
theorem countP_entries_set
    (absent : key ∉ dict.keys)
    (value : ν) :
    (dict.set key value).entries.countP counted =
      dict.entries.countP counted + if counted (key, value) then 1 else 0 := by
  rw [entries_set_of_notMem absent, List.countP_append, List.countP_singleton]

/-- The only entry of a present key. -/
theorem filter_entries_key (stored : dict.get? key = some value) :
    dict.entries.filter (fun entry => entry.1 = key) = [(key, value)] :=
  filter_eq_singleton_of_nodup dict.nodupKeys ((mem_entries_iff dict key value).mpr stored)

/-- Removing a present key takes its entry from the count. -/
theorem countP_entries_erase (stored : dict.get? key = some value) :
    (dict.erase key).entries.countP counted + (if counted (key, value) then 1 else 0) =
      dict.entries.countP counted := by
  rw [List.countP_eq_countP_filter_add dict.entries counted fun entry => entry.1 ≠ key, erase]
  congr 1
  have rest : dict.entries.filter (fun entry => !decide (entry.1 ≠ key)) = [(key, value)] := by
    simpa using filter_entries_key stored
  rw [rest, List.countP_singleton]

/-- A change of a value that is counted like it keeps the count. -/
theorem countP_entries_modify
    {change : ν → ν}
    (alike : ∀ value, counted (key, change value) = counted (key, value)) :
    (dict.modify key change).entries.countP counted = dict.entries.countP counted := by
  unfold modify
  cases stored : dict.get? key with
  | none => rfl
  | some value =>
      simp only [entries_set_of_get? stored, List.countP_map]
      refine List.countP_congr fun entry member => ?_
      by_cases same : entry.1 = key
      · obtain ⟨other, otherValue⟩ := entry
        obtain rfl : other = key := same
        rw [mem_entries_iff, stored] at member
        obtain rfl := Option.some.inj member
        simp [alike]
      · simp [same]

end Counting

end Dict
