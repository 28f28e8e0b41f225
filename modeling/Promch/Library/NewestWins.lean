import Mathlib.Data.List.MinMax
import Mathlib.Data.List.Pairwise

/-!
# A register in which the newest stamp wins

Stamped values arrive in any order, and a value with an older stamp than the
stored one is discarded.  With distinct stamps the register ends with the newest
value, so that the order of arrival does not matter.
-/

/-- A value with its stamp. -/
structure Stamped (τ : Type u) (β : Type v) where
  stamp : τ
  value : β

namespace Stamped

variable [LinearOrder τ]

/-- The stored value after one arrival. -/
def observe (stored arrival : Stamped τ β) : Stamped τ β :=
  if arrival.stamp < stored.stamp then stored else arrival

/-- The stored value after several arrivals. -/
def observeAll (stored : Stamped τ β) (arrivals : List (Stamped τ β)) : Stamped τ β :=
  arrivals.foldl observe stored

variable {stored : Stamped τ β} {arrivals : List (Stamped τ β)}

theorem observe_of_newer {arrival : Stamped τ β} (newer : stored.stamp ≤ arrival.stamp) :
    stored.observe arrival = arrival := by
  rw [observe, if_neg (not_lt.mpr newer)]

theorem observe_of_older {arrival : Stamped τ β} (older : arrival.stamp < stored.stamp) :
    stored.observe arrival = stored := by
  rw [observe, if_pos older]

theorem stamp_observe (stored arrival : Stamped τ β) :
    (stored.observe arrival).stamp = max stored.stamp arrival.stamp := by
  obtain older | newer := lt_or_ge arrival.stamp stored.stamp
  · rw [observe_of_older older, max_eq_left older.le]
  · rw [observe_of_newer newer, max_eq_right newer]

theorem observeAll_append (first second : List (Stamped τ β)) :
    stored.observeAll (first ++ second) = (stored.observeAll first).observeAll second :=
  List.foldl_append

/-- The stored stamp never decreases. -/
theorem le_stamp_observeAll (stored : Stamped τ β) (arrivals : List (Stamped τ β)) :
    stored.stamp ≤ (stored.observeAll arrivals).stamp := by
  induction arrivals generalizing stored with
  | nil => exact le_refl _
  | cons arrival rest inductionHypothesis =>
      calc
        stored.stamp ≤ (stored.observe arrival).stamp := by
          rw [stamp_observe]
          exact le_max_left _ _
        _ ≤ ((stored.observe arrival).observeAll rest).stamp :=
          inductionHypothesis (stored.observe arrival)

/-- The stored stamp is bounded by the arrivals. -/
theorem stamp_observeAll_le
    {bound : τ}
    (start : stored.stamp ≤ bound)
    (bounded : ∀ arrival ∈ arrivals, arrival.stamp ≤ bound) :
    (stored.observeAll arrivals).stamp ≤ bound := by
  induction arrivals generalizing stored with
  | nil => exact start
  | cons arrival rest inductionHypothesis =>
      obtain ⟨headBounded, restBounded⟩ := List.forall_mem_cons.mp bounded
      apply inductionHypothesis _ restBounded
      rw [stamp_observe]
      exact max_le start headBounded

/-- Older arrivals change nothing. -/
theorem observeAll_of_older (older : ∀ arrival ∈ arrivals, arrival.stamp < stored.stamp) :
    stored.observeAll arrivals = stored := by
  induction arrivals with
  | nil => rfl
  | cons arrival rest inductionHypothesis =>
      obtain ⟨headOlder, restOlder⟩ := List.forall_mem_cons.mp older
      calc
        stored.observeAll (arrival :: rest) = (stored.observe arrival).observeAll rest := rfl
        _ = stored.observeAll rest := by rw [observe_of_older headOlder]
        _ = stored := inductionHypothesis restOlder

/-- With distinct stamps the newest arrival is the one that is kept. -/
theorem observeAll_eq_newest
    (distinct : arrivals.Pairwise fun arrival other => arrival.stamp ≠ other.stamp)
    {newest : Stamped τ β}
    (member : newest ∈ arrivals)
    (isNewest : ∀ other ∈ arrivals, other.stamp ≤ newest.stamp)
    (start : stored.stamp ≤ newest.stamp) :
    stored.observeAll arrivals = newest := by
  obtain ⟨earlier, later, rfl⟩ := List.append_of_mem member
  have reached : (stored.observeAll earlier).stamp ≤ newest.stamp :=
    stamp_observeAll_le start fun other present =>
      isNewest other (List.mem_append_left _ present)
  have older : ∀ other ∈ later, other.stamp < newest.stamp := by
    intro other present
    obtain ⟨-, tail, -⟩ := List.pairwise_append.mp distinct
    have differ := List.rel_of_pairwise_cons tail present
    exact lt_of_le_of_ne (isNewest other (by simp [present])) differ.symm
  calc
    stored.observeAll (earlier ++ newest :: later)
        = ((stored.observeAll earlier).observe newest).observeAll later :=
      observeAll_append earlier (newest :: later)
    _ = newest.observeAll later := by rw [observe_of_newer reached]
    _ = newest := observeAll_of_older older

/-- Arrivals have a newest one. -/
theorem exists_newest (nonempty : arrivals ≠ []) :
    ∃ newest ∈ arrivals, ∀ other ∈ arrivals, other.stamp ≤ newest.stamp := by
  cases found : arrivals.argmax Stamped.stamp with
  | none => exact absurd (List.argmax_eq_none.mp found) nonempty
  | some newest =>
      exact ⟨newest, List.argmax_mem found, fun other member =>
        List.le_of_mem_argmax member found⟩

/-- Two registers that see the same arrivals in different orders end alike. -/
theorem observeAll_eq_of_perm
    {other : Stamped τ β}
    {otherArrivals : List (Stamped τ β)}
    (permuted : arrivals.Perm otherArrivals)
    (nonempty : arrivals ≠ [])
    (distinct : arrivals.Pairwise fun arrival later => arrival.stamp ≠ later.stamp)
    (start : ∀ arrival ∈ arrivals, stored.stamp ≤ arrival.stamp)
    (otherStart : ∀ arrival ∈ arrivals, other.stamp ≤ arrival.stamp) :
    stored.observeAll arrivals = other.observeAll otherArrivals := by
  obtain ⟨newest, member, isNewest⟩ := exists_newest nonempty
  have otherDistinct : otherArrivals.Pairwise fun arrival later =>
      arrival.stamp ≠ later.stamp :=
    permuted.pairwise distinct fun apart => apart.symm
  calc
    stored.observeAll arrivals = newest :=
      observeAll_eq_newest distinct member isNewest (start newest member)
    _ = other.observeAll otherArrivals :=
      (observeAll_eq_newest otherDistinct (permuted.mem_iff.mp member)
        (fun arrival present => isNewest arrival (permuted.mem_iff.mpr present))
        (otherStart newest member)).symm

end Stamped
