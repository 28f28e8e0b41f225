import Mathlib.Data.List.MinMax
import Mathlib.Data.List.Pairwise

/-!
# A flag under stamped reports

Reports with stamps arrive in any order.  A good report sets the flag unless its
stamp is older than the stored one; a bad report clears the flag whatever its
stamp is.  The flag therefore follows the newest report only in some orders of
arrival, and these are characterized exactly.
-/

/-- A flag with the stamp of the last stored good report. -/
structure StampedFlag (τ : Type u) where
  stamp : τ
  flag : Bool

/-- A good or bad report with its stamp. -/
structure StampedReport (τ : Type u) where
  stamp : τ
  good : Bool

namespace StampedFlag

variable [LinearOrder τ]

/-- The state after one report. -/
def observe (state : StampedFlag τ) (report : StampedReport τ) : StampedFlag τ :=
  if report.good then
    if report.stamp < state.stamp then state
    else { stamp := report.stamp, flag := true }
  else { state with flag := false }

/-- The state after several reports. -/
def observeAll
    (state : StampedFlag τ)
    (reports : List (StampedReport τ)) : StampedFlag τ :=
  reports.foldl observe state

/-- The flag agrees with the newest report. -/
def FollowsNewest (state : StampedFlag τ) (reports : List (StampedReport τ)) : Prop :=
  ∀ newest ∈ reports, (∀ other ∈ reports, other.stamp ≤ newest.stamp) →
    ((state.observeAll reports).flag = true ↔ newest.good = true)

/-- The newest good report is the newest of all exactly when no bad report
arrives after it. -/
def OrderRespected (reports : List (StampedReport τ)) : Prop :=
  ∀ earlier success later, reports = earlier ++ success :: later →
    success.good = true →
      (∀ other ∈ reports, other.good = true → other.stamp ≤ success.stamp) →
        ((∀ other ∈ reports, other.stamp ≤ success.stamp) ↔
          ∀ other ∈ later, other.good = true)

variable {state : StampedFlag τ} {reports : List (StampedReport τ)}

@[simp] theorem observeAll_nil : state.observeAll [] = state := rfl

@[simp] theorem observeAll_cons (report : StampedReport τ) :
    state.observeAll (report :: reports) = (state.observe report).observeAll reports := rfl

theorem observeAll_append (first second : List (StampedReport τ)) :
    state.observeAll (first ++ second) = (state.observeAll first).observeAll second :=
  List.foldl_append

/-- Good reports that are all outdated leave the flag, bad ones clear it. -/
theorem flag_observeAll_of_outdated
    (outdated : ∀ report ∈ reports, report.good = true → report.stamp < state.stamp) :
    (state.observeAll reports).flag = true ↔
      state.flag = true ∧ ∀ report ∈ reports, report.good = true := by
  induction reports generalizing state with
  | nil => simp
  | cons report rest inductionHypothesis =>
      have restOutdated := fun other member =>
        outdated other (List.mem_cons_of_mem report member)
      rw [observeAll_cons]
      cases good : report.good with
      | true =>
          have ignored : state.observe report = state := by
            simp [observe, good, outdated report List.mem_cons_self good]
          rw [ignored, inductionHypothesis restOutdated]
          simp [good]
      | false =>
          have cleared : state.observe report = { state with flag := false } := by
            simp [observe, good]
          have restFlag : ({ state with flag := false }.observeAll rest).flag = true ↔ _ :=
            inductionHypothesis restOutdated
          rw [cleared, restFlag]
          simp [good]

/-- The stored stamp is bounded by the good reports. -/
theorem stamp_observeAll_le
    {bound : τ}
    (start : state.stamp ≤ bound)
    (bounded : ∀ report ∈ reports, report.good = true → report.stamp ≤ bound) :
    (state.observeAll reports).stamp ≤ bound := by
  refine List.foldlRecOn reports observe
    (motive := fun current => current.stamp ≤ bound) start ?_
  intro current currentBounded report member
  unfold observe
  split
  · next good =>
      split
      · exact currentBounded
      · exact bounded report member good
  · exact currentBounded

/-- The newest good report is stored, so that the flag depends only on what
arrives after it. -/
theorem flag_observeAll_of_newest_good
    {earlier later : List (StampedReport τ)}
    {success : StampedReport τ}
    (start : state.stamp ≤ success.stamp)
    (good : success.good = true)
    (earlierBounded : ∀ other ∈ earlier, other.good = true → other.stamp ≤ success.stamp)
    (laterOutdated : ∀ other ∈ later, other.good = true → other.stamp < success.stamp) :
    (state.observeAll (earlier ++ success :: later)).flag = true ↔
      ∀ other ∈ later, other.good = true := by
  have reached := stamp_observeAll_le start earlierBounded
  have stored : (state.observeAll earlier).observe success =
      { stamp := success.stamp, flag := true } := by
    simp [observe, good, not_lt.mpr reached]
  rw [observeAll_append, observeAll_cons, stored, flag_observeAll_of_outdated laterOutdated]
  simp

/-- Without a good report the flag is cleared by the first one. -/
theorem flag_observeAll_of_all_bad
    (nonempty : reports ≠ [])
    (bad : ∀ report ∈ reports, report.good = false) :
    (state.observeAll reports).flag = false := by
  have outdated : ∀ report ∈ reports, report.good = true → report.stamp < state.stamp :=
    fun report member good => absurd good (by simp [bad report member])
  rw [← Bool.not_eq_true, flag_observeAll_of_outdated outdated]
  rintro ⟨-, good⟩
  obtain ⟨report, member⟩ := List.exists_mem_of_ne_nil _ nonempty
  exact absurd (good report member) (by simp [bad report member])

/-- Reports have a newest one. -/
theorem exists_newest (nonempty : reports ≠ []) :
    ∃ newest ∈ reports, ∀ other ∈ reports, other.stamp ≤ newest.stamp := by
  cases found : reports.argmax StampedReport.stamp with
  | none => exact absurd (List.argmax_eq_none.mp found) nonempty
  | some newest =>
      exact ⟨newest, List.argmax_mem found, fun other member =>
        List.le_of_mem_argmax member found⟩

section OrderRespected

variable (distinct : reports.Pairwise fun report other => report.stamp ≠ other.stamp)
  (current : ∀ report ∈ reports, state.stamp ≤ report.stamp)

include distinct current in
/-- The flag ends up set exactly when no bad report arrives after the newest
good one. -/
theorem flag_observeAll_iff_later_good
    {earlier later : List (StampedReport τ)}
    {success : StampedReport τ}
    (split : reports = earlier ++ success :: later)
    (good : success.good = true)
    (newestGood : ∀ other ∈ reports, other.good = true → other.stamp ≤ success.stamp) :
    (state.observeAll reports).flag = true ↔ ∀ other ∈ later, other.good = true := by
  subst split
  refine flag_observeAll_of_newest_good (current success (by simp)) good
    (fun other member => newestGood other (List.mem_append_left _ member)) ?_
  intro other member otherGood
  have bounded := newestGood other (by simp [member]) otherGood
  obtain ⟨-, tail, -⟩ := List.pairwise_append.mp distinct
  exact lt_of_le_of_ne bounded (List.rel_of_pairwise_cons tail member).symm

include distinct current in
/-- The flag agrees with the newest report exactly when the order respects the
newest good one. -/
theorem followsNewest_iff_orderRespected :
    state.FollowsNewest reports ↔ OrderRespected reports := by
  constructor
  · intro follows earlier success later split good newestGood
    have flag := flag_observeAll_iff_later_good distinct current split good newestGood
    have member : success ∈ reports := by simp [split]
    rw [← flag]
    constructor
    · exact fun isNewest => (follows success member isNewest).mpr good
    · intro set other otherMember
      obtain ⟨newest, newestMember, isNewest⟩ := exists_newest (List.ne_nil_of_mem member)
      have newestIsGood := (follows newest newestMember isNewest).mp set
      exact (isNewest other otherMember).trans (newestGood newest newestMember newestIsGood)
  · intro respected newest member isNewest
    cases good : newest.good with
    | true =>
        obtain ⟨earlier, later, split⟩ := List.append_of_mem member
        have newestGood := fun other otherMember (_ : other.good = true) =>
          isNewest other otherMember
        rw [flag_observeAll_iff_later_good distinct current split good newestGood,
          ← respected earlier newest later split good newestGood]
        simpa using isNewest
    | false =>
        rw [iff_false_right (by simp), Bool.not_eq_true]
        by_cases allBad : ∀ report ∈ reports, report.good = false
        · exact flag_observeAll_of_all_bad (List.ne_nil_of_mem member) allBad
        · -- The newest good report is older than the newest one, which is bad.
          push Not at allBad
          obtain ⟨report, reportMember, reportGood⟩ := allBad
          obtain ⟨success, successMember, bounded⟩ := exists_newest
            (List.ne_nil_of_mem (List.mem_filter.mpr
              ⟨reportMember, (by simpa using reportGood : report.good = true)⟩))
          obtain ⟨inReports, successGood⟩ := List.mem_filter.mp successMember
          have newestGood : ∀ other ∈ reports, other.good = true →
              other.stamp ≤ success.stamp := fun other otherMember otherGood =>
            bounded other (List.mem_filter.mpr ⟨otherMember, otherGood⟩)
          obtain ⟨earlier, later, split⟩ := List.append_of_mem inReports
          rw [← Bool.not_eq_true,
            flag_observeAll_iff_later_good distinct current split successGood newestGood,
            ← respected earlier success later split successGood newestGood]
          intro isAlsoNewest
          have differ : newest ≠ success := fun same => by simp [← same, good] at successGood
          have symmetric : Std.Symm fun report other : StampedReport τ =>
              report.stamp ≠ other.stamp := ⟨fun _ _ apart => apart.symm⟩
          exact distinct.forall member inReports differ
            (le_antisymm (isAlsoNewest newest member) (isNewest success inReports))

end OrderRespected

end StampedFlag
