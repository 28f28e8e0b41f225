import Mathlib.Data.List.Dedup
import Mathlib.Data.List.Induction
import Mathlib.Data.List.Perm.Basic
import Mathlib.Data.List.Sort
import Promch.Library.Dict

/-!
# Grouping and the orders of sets

`groupBy` collects the elements of a list under a computed key, the keys in the
order of their first occurrence and each group in list order.  `sortedSet`
enumerates the distinct elements of a list in increasing order.  `arrange` puts
the elements of a list in an order that a number encodes, for sets whose order
is left open.
-/

/-- Collect the elements of a list under their keys, in list order. -/
def groupBy [DecidableEq κ] (key : α → κ) (list : List α) : Dict κ (List α) :=
  list.foldl
    (fun groups element =>
      groups.set (key element)
        ((groups.get? (key element)).getD [] ++ [element]))
    Dict.empty

section GroupBy

variable [DecidableEq κ]

theorem groupBy_append_singleton
    (key : α → κ)
    (list : List α)
    (element : α) :
    groupBy key (list ++ [element]) =
      (groupBy key list).set (key element)
        (((groupBy key list).get? (key element)).getD [] ++ [element]) := by
  simp [groupBy, List.foldl_append]

/-- The group of a key holds exactly the elements with that key, in list
order; a key without elements has no group. -/
theorem get?_groupBy
    (key : α → κ)
    (list : List α)
    (name : κ) :
    (groupBy key list).get? name =
      if list.filter (fun element => key element = name) = [] then none
      else some (list.filter fun element => key element = name) := by
  induction list using List.reverseRecOn with
  | nil => simp [groupBy]
  | append_singleton list element inductionHypothesis =>
      rw [groupBy_append_singleton, Dict.get?_set, List.filter_append]
      by_cases same : name = key element
      · subst same
        rw [inductionHypothesis]
        by_cases first :
            list.filter (fun other => key other = key element) = []
        · simp [first]
        · simp [first]
      · have different : ¬key element = name := fun equal => same equal.symm
        simp [same, different, inductionHypothesis]

/-- The groups are the nonempty classes of the key function. -/
theorem mem_entries_groupBy
    (key : α → κ)
    (list : List α)
    (name : κ)
    (group : List α) :
    (name, group) ∈ (groupBy key list).entries ↔
      group ≠ [] ∧ group = list.filter fun element => key element = name := by
  rw [Dict.mem_entries_iff, get?_groupBy]
  constructor
  · intro found
    split at found
    · simp at found
    · next nonempty =>
        cases found
        exact ⟨nonempty, rfl⟩
  · rintro ⟨nonempty, rfl⟩
    rw [if_neg nonempty]

end GroupBy

/-- Elements with an empty image may be left out of a concatenation. -/
theorem flatMap_eq_flatMap_filter
    {list : List α}
    (keep : α → Bool)
    {image : α → List β}
    (dropped : ∀ element ∈ list, keep element = false → image element = []) :
    list.flatMap image = (list.filter keep).flatMap image := by
  induction list with
  | nil => rfl
  | cons element rest inductionHypothesis =>
      obtain ⟨headDropped, restDropped⟩ := List.forall_mem_cons.mp dropped
      cases kept : keep element with
      | true =>
          rw [List.filter_cons_of_pos kept, List.flatMap_cons, List.flatMap_cons,
            inductionHypothesis restDropped]
      | false =>
          rw [List.filter_cons_of_neg (by simp [kept]), List.flatMap_cons, headDropped kept,
            List.nil_append, inductionHypothesis restDropped]

/-- The distinct elements of a list in increasing order. -/
def sortedSet [LinearOrder α] (list : List α) : List α :=
  list.dedup.insertionSort (· ≤ ·)

section SortedSet

variable [LinearOrder α]

@[simp] theorem mem_sortedSet
    (list : List α)
    (element : α) :
    element ∈ sortedSet list ↔ element ∈ list := by
  simp [sortedSet, List.mem_insertionSort]

end SortedSet

/-- The elements of a list in the order that a number encodes. -/
def arrange (order : Nat) : List α → List α
  | [] => []
  | element :: rest =>
      (arrange (order / (rest.length + 1)) rest).insertIdx (order % (rest.length + 1)) element

section Arrange

theorem arrange_perm
    (order : Nat)
    (list : List α) :
    (arrange order list).Perm list := by
  induction list generalizing order with
  | nil => exact .refl []
  | cons element rest inductionHypothesis =>
      have arranged := inductionHypothesis (order / (rest.length + 1))
      have inside : order % (rest.length + 1) ≤
          (arrange (order / (rest.length + 1)) rest).length := by
        rw [arranged.length_eq]
        exact Nat.le_of_lt_succ (Nat.mod_lt _ (Nat.succ_pos _))
      exact (List.perm_insertIdx _ _ inside).trans (arranged.cons element)

theorem insertIdx_length_append
    (before after : List α)
    (element : α) :
    (before ++ after).insertIdx before.length element = before ++ element :: after := by
  induction before with
  | nil => rfl
  | cons head rest inductionHypothesis => simp [inductionHypothesis]

/-- Every order of the elements is encoded by some number. -/
theorem exists_arrange_eq
    {list arranged : List α}
    (perm : arranged.Perm list) :
    ∃ order, arrange order list = arranged := by
  induction list generalizing arranged with
  | nil => exact ⟨0, perm.eq_nil.symm⟩
  | cons element rest inductionHypothesis =>
      obtain ⟨before, after, rfl⟩ :=
        List.append_of_mem (perm.mem_iff.mpr List.mem_cons_self)
      have others : (before ++ after).Perm rest :=
        (List.perm_middle.symm.trans perm).cons_inv
      obtain ⟨order, found⟩ := inductionHypothesis others
      have inside : before.length < rest.length + 1 := by
        rw [← others.length_eq, List.length_append]
        omega
      refine ⟨before.length + (rest.length + 1) * order, ?_⟩
      rw [arrange, Nat.add_mul_div_left _ _ (Nat.succ_pos _), Nat.add_mul_mod_self_left,
        Nat.div_eq_of_lt inside, Nat.mod_eq_of_lt inside, Nat.zero_add, found]
      exact insertIdx_length_append before after element

end Arrange
