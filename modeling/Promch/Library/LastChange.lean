import Mathlib.Data.List.Induction
import Promch.Library.NewestWins

/-!
# Values with the stamp of their last change

A register is read from time to time.  It holds the value of the last reading,
stamped not with that reading but with the one that last changed the value.
-/

namespace Stamped

variable [DecidableEq β]

/-- What is held after a reading: an unchanged value keeps its stamp. -/
def record (held : Option (Stamped τ β)) (reading : Stamped τ β) : Stamped τ β :=
  match held with
  | some old => if old.value = reading.value then old else reading
  | none => reading

/-- What is held after a step that may take no reading. -/
def recordStep (held : Option (Stamped τ β)) :
    Option (Stamped τ β) → Option (Stamped τ β)
  | none => held
  | some reading => some (record held reading)

/-- What is held after several steps, when nothing is held at first. -/
def recordAll (readings : List (Option (Stamped τ β))) : Option (Stamped τ β) :=
  readings.foldl recordStep none

variable {held : Option (Stamped τ β)} {reading : Option (Stamped τ β)}

theorem recordAll_append_singleton
    (readings : List (Option (Stamped τ β)))
    (reading : Option (Stamped τ β)) :
    recordAll (readings ++ [reading]) = recordStep (recordAll readings) reading := by
  simp [recordAll]

/-- A step keeps what is held, or its reading changes the value. -/
theorem recordStep_cases (held reading : Option (Stamped τ β)) :
    recordStep held reading = held ∨
      ∃ taken, reading = some taken ∧ recordStep held reading = some taken ∧
        held.map value ≠ some taken.value := by
  cases reading with
  | none => exact .inl rfl
  | some taken =>
      cases held with
      | none => exact .inr ⟨taken, rfl, rfl, (Option.some_ne_none _).symm⟩
      | some old =>
          by_cases same : old.value = taken.value
          · exact .inl (congrArg some (if_pos same))
          · refine .inr ⟨taken, rfl, congrArg some (if_neg same), ?_⟩
            rintro equal
            exact same (Option.some.inj equal)

/-- A value that is held once is not given up for none. -/
theorem isSome_recordStep (isHeld : held.isSome) : (recordStep held reading).isSome := by
  obtain kept | ⟨taken, -, changed, -⟩ := recordStep_cases held reading
  · rwa [kept]
  · rw [changed]
    rfl

/-- Something is held from the first reading on. -/
theorem isSome_recordAll_of_mem
    {readings : List (Option (Stamped τ β))}
    {taken : Stamped τ β}
    (member : some taken ∈ readings) :
    (recordAll readings).isSome := by
  induction readings using List.reverseRecOn with
  | nil => cases member
  | append_singleton readings reading inductionHypothesis =>
      rw [recordAll_append_singleton]
      obtain earlier | atLast := List.mem_append.mp member
      · exact isSome_recordStep (inductionHypothesis earlier)
      · rw [← List.mem_singleton.mp atLast]
        rfl

/-- What is held is one of the readings, which changed the value and has been held
ever since. -/
theorem recordAll_eq_some
    {readings : List (Option (Stamped τ β))}
    {current : Stamped τ β}
    (isHeld : recordAll readings = some current) :
    ∃ first rest, readings = first ++ some current :: rest ∧
      (recordAll first).map value ≠ some current.value ∧
      ∀ start tail, rest = start ++ tail →
        recordAll (first ++ some current :: start) = some current := by
  induction readings using List.reverseRecOn with
  | nil => cases isHeld
  | append_singleton readings reading inductionHypothesis =>
      have lastStep := recordAll_append_singleton readings reading
      obtain kept | ⟨taken, rfl, changed, differs⟩ :=
        recordStep_cases (recordAll readings) reading
      · obtain ⟨first, rest, rfl, differs, since⟩ :=
          inductionHypothesis (kept.symm.trans (lastStep.symm.trans isHeld))
        refine ⟨first, rest ++ [reading], by simp, differs, fun start tail split => ?_⟩
        -- The steps so far are all of them, or some before the last one.
        obtain rfl | ⟨tail, last, rfl⟩ := tail.eq_nil_or_concat
        · rw [List.append_nil] at split
          subst split
          rw [← List.cons_append, ← List.append_assoc]
          exact isHeld
        · rw [List.concat_eq_append, ← List.append_assoc] at split
          exact since start tail (List.append_inj_left' split rfl)
      · obtain rfl : taken = current :=
          Option.some.inj (changed.symm.trans (lastStep.symm.trans isHeld))
        refine ⟨readings, [], rfl, differs, fun start tail split => ?_⟩
        obtain rfl : start = [] := (List.append_eq_nil_iff.mp split.symm).1
        exact isHeld

/-- If the reading is later than the held stamp, the stamp changes exactly when
the value does. -/
theorem map_stamp_recordStep_ne_iff
    [Preorder τ]
    (later : ∀ old taken, held = some old → reading = some taken → old.stamp < taken.stamp) :
    (recordStep held reading).map stamp ≠ held.map stamp ↔
      (recordStep held reading).map value ≠ held.map value := by
  obtain kept | ⟨taken, taking, changed, differs⟩ := recordStep_cases held reading
  · rw [kept]
    exact iff_of_false (fun apart => apart rfl) fun apart => apart rfl
  · rw [changed]
    refine iff_of_true ?_ differs.symm
    cases held with
    | none => exact Option.some_ne_none _
    | some old =>
        intro equal
        exact (later old taken rfl taking).ne' (Option.some.inj equal)

end Stamped
