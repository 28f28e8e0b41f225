import Promch.Library.Dict

/-!
# JSON merge patches

A merge patch is itself a JSON value.  Applied to a target, a patch that is an
object is merged member by member, where null removes a member and any other
value is merged into the old one; a patch that is no object replaces the target.
-/

/-- A JSON value over some scalars. -/
inductive Json (α : Type u)
  | null
  | atom (value : α)
  | array (items : List (Json α))
  | object (members : List (String × Json α))

namespace Json

/-- The members of an object; other values have none. -/
def members : Json α → List (String × Json α)
  | .object members => members
  | _ => []

mutual

/-- Apply a merge patch to a target. -/
def mergePatch : Json α → Json α → Json α
  | .object patch, target => .object (mergeMembers patch target.members)
  | .null, _ => .null
  | .atom value, _ => .atom value
  | .array items, _ => .array items
termination_by structural patch => patch

/-- Apply the members of a patch one after the other. -/
def mergeMembers : List (String × Json α) → List (String × Json α) → List (String × Json α)
  | [], target => target
  | member :: rest, target => mergeMembers rest (mergeMember member target)
termination_by structural patch => patch

/-- Apply one member of a patch. -/
def mergeMember : String × Json α → List (String × Json α) → List (String × Json α)
  | (name, .null), target => target.filter fun member => member.1 ≠ name
  | (name, value), target =>
      Dict.assocSet target name (mergePatch value ((target.lookup name).getD .null))
termination_by structural patch => patch

end

/-- What a merge leaves under a name, given the patch and the target there. -/
def mergeValue : Option (Json α) → Option (Json α) → Option (Json α)
  | none, target => target
  | some .null, _ => none
  | some value, target => some (mergePatch value (target.getD .null))

/-- One member of a patch decides its own name. -/
theorem lookup_mergeMember
    (name other : String)
    (value : Json α)
    (target : List (String × Json α)) :
    (mergeMember (name, value) target).lookup other =
      if other = name then mergeValue (some value) (target.lookup name)
      else target.lookup other := by
  cases value with
  | null => exact Dict.lookup_filter_ne target name other
  | atom | array | object => exact Dict.lookup_assocSet target name other _

/-- A merge decides every name on its own, if the patch names none twice. -/
theorem lookup_mergeMembers
    {patch : List (String × Json α)}
    (distinct : (patch.map Prod.fst).Nodup)
    (target : List (String × Json α))
    (name : String) :
    (mergeMembers patch target).lookup name =
      mergeValue (patch.lookup name) (target.lookup name) := by
  induction patch generalizing target with
  | nil => rfl
  | cons member rest inductionHypothesis =>
      obtain ⟨headAbsent, restDistinct⟩ := List.nodup_cons.mp distinct
      obtain ⟨head, value⟩ := member
      rw [mergeMembers, inductionHypothesis restDistinct, lookup_mergeMember]
      by_cases same : name = head
      · subst same
        have notInRest : rest.lookup name = none := by
          rw [List.lookup_eq_none_iff]
          intro other inRest
          have apart : name ≠ other.1 := fun equal =>
            headAbsent (List.mem_map.mpr ⟨other, inRest, equal.symm⟩)
          simpa using apart
        rw [notInRest, if_pos rfl, List.lookup_cons_self]
        rfl
      · rw [if_neg same, List.lookup_cons, beq_false_of_ne same]

/-! ## Objects with optional fields -/

/-- The members of an object with optional fields: those that are present. -/
def presentMembers (fields : List (String × Option (Json α))) : List (String × Json α) :=
  fields.filterMap fun field => field.2.map (field.1, ·)

variable {fields : List (String × Option (Json α))}

/-- Members have names of fields. -/
theorem map_fst_presentMembers_sublist :
    ((presentMembers fields).map Prod.fst).Sublist (fields.map Prod.fst) := by
  induction fields with
  | nil => exact List.Sublist.refl _
  | cons field rest inductionHypothesis =>
      obtain ⟨name, value⟩ := field
      cases value with
      | none => exact inductionHypothesis.cons name
      | some value => exact inductionHypothesis.cons_cons name

/-- Under its name an object has the value of the field. -/
theorem lookup_presentMembers
    (distinct : (fields.map Prod.fst).Nodup)
    (name : String) :
    (presentMembers fields).lookup name = (fields.lookup name).join := by
  induction fields with
  | nil => rfl
  | cons field rest inductionHypothesis =>
      obtain ⟨headAbsent, restDistinct⟩ := List.nodup_cons.mp distinct
      obtain ⟨head, value⟩ := field
      have step := inductionHypothesis restDistinct
      by_cases same : name = head
      · subst same
        rw [List.lookup_cons_self]
        cases value with
        | none =>
            change (presentMembers rest).lookup name = none
            rw [List.lookup_eq_none_iff]
            intro other member
            have apart : name ≠ other.1 := fun equal => headAbsent
              (map_fst_presentMembers_sublist.subset
                (List.mem_map.mpr ⟨other, member, equal.symm⟩))
            simpa using apart
        | some value => exact List.lookup_cons_self
      · rw [List.lookup_cons, beq_false_of_ne same]
        cases value with
        | none => exact step
        | some value =>
            change ((head, value) :: presentMembers rest).lookup name = _
            rw [List.lookup_cons, beq_false_of_ne same]
            exact step

/-- Fields with the same names, merged one by one. -/
def mergeFields (patch target : List (String × Option (Json α))) :
    List (String × Option (Json α)) :=
  List.zipWith (fun field old => (field.1, mergeValue field.2 old.2)) patch target

theorem lookup_mergeFields
    {patch target : List (String × Option (Json α))}
    (sameNames : patch.map Prod.fst = target.map Prod.fst)
    (name : String) :
    ((mergeFields patch target).lookup name).join =
      mergeValue (patch.lookup name).join (target.lookup name).join := by
  induction patch generalizing target with
  | nil =>
      obtain rfl := List.map_eq_nil_iff.mp sameNames.symm
      rfl
  | cons field rest inductionHypothesis =>
      obtain ⟨old, tail, rfl, sameName, sameRest⟩ := List.map_eq_cons_iff.mp sameNames.symm
      obtain ⟨head, value⟩ := field
      obtain ⟨oldHead, oldValue⟩ := old
      obtain rfl : oldHead = head := sameName
      rw [mergeFields, List.zipWith_cons_cons, ← mergeFields, List.lookup_cons,
        List.lookup_cons, List.lookup_cons]
      cases name == oldHead with
      | true => rfl
      | false => exact inductionHypothesis sameRest.symm

/-- Merging objects with optional fields merges field by field. -/
theorem lookup_mergeMembers_presentMembers
    {patch target : List (String × Option (Json α))}
    (sameNames : patch.map Prod.fst = target.map Prod.fst)
    (distinct : (target.map Prod.fst).Nodup)
    (name : String) :
    (mergeMembers (presentMembers patch) (presentMembers target)).lookup name =
      ((mergeFields patch target).lookup name).join := by
  have patchDistinct : (patch.map Prod.fst).Nodup := by rwa [sameNames]
  rw [lookup_mergeMembers (map_fst_presentMembers_sublist.nodup patchDistinct),
    lookup_presentMembers patchDistinct, lookup_presentMembers distinct,
    lookup_mergeFields sameNames]

/-- Fields whose values replace each other are merged by preferring the
patch. -/
theorem mergeValue_map
    {toJson : β → Json α}
    (replaces : ∀ value old, mergeValue (some (toJson value)) (Option.map toJson old) =
      some (toJson value))
    (patch target : Option β) :
    mergeValue (patch.map toJson) (target.map toJson) = (patch.or target).map toJson := by
  cases patch with
  | none => rfl
  | some value => exact replaces value target

end Json
