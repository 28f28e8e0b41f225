import Mathlib.Data.List.Basic
import Mathlib.Logic.Function.Basic

/-!
# Settling a map key by key

A map is brought in line with a target one key after the other.  Cut short, it
is in line on the keys that are done and as it was on the others; `settle` says
what it is then.  It has changed nothing exactly if the keys that are done were
in line before, and it is complete exactly if the other keys were.
-/

/-- A map that is in line with a target on some keys. -/
def settle [DecidableEq κ] (target : κ → β) (done : List κ) (before : κ → β) : κ → β :=
  fun key => if key ∈ done then target key else before key

section Settle

variable [DecidableEq κ] {target before : κ → β} {done more : List κ} {key : κ}

theorem settle_of_mem (member : key ∈ done) : settle target done before key = target key :=
  if_pos member

theorem settle_of_not_mem (absent : key ∉ done) :
    settle target done before key = before key :=
  if_neg absent

@[simp] theorem settle_nil : settle target [] before = before := by
  funext key
  exact settle_of_not_mem List.not_mem_nil

theorem settle_singleton :
    settle target [key] before = Function.update before key (target key) := by
  funext other
  by_cases same : other = key
  · subst same
    simp [settle]
  · simp [settle, same]

/-- Settling goes on where it stopped. -/
theorem settle_append :
    settle target (done ++ more) before = settle target more (settle target done before) := by
  funext key
  by_cases later : key ∈ more
  · simp [settle, later]
  · simp [settle, later]

/-- Only the target on the keys that are done matters. -/
theorem settle_congr
    {other : κ → β}
    (same : ∀ key ∈ done, target key = other key) :
    settle target done before = settle other done before := by
  funext key
  by_cases member : key ∈ done
  · rw [settle_of_mem member, settle_of_mem member, same key member]
  · rw [settle_of_not_mem member, settle_of_not_mem member]

/-- Nothing has changed exactly if the keys that are done were in line before. -/
theorem settle_eq_before_iff :
    settle target done before = before ↔ ∀ key ∈ done, before key = target key := by
  constructor
  · intro unchanged key member
    exact (congrFun unchanged key).symm.trans (settle_of_mem member)
  · intro inLine
    funext key
    by_cases member : key ∈ done
    · rw [settle_of_mem member, inLine key member]
    · exact settle_of_not_mem member

/-- The map is in line exactly if the other keys were in line before. -/
theorem settle_eq_target_iff :
    settle target done before = target ↔ ∀ key ∉ done, before key = target key := by
  constructor
  · intro complete key absent
    exact (settle_of_not_mem absent).symm.trans (congrFun complete key)
  · intro inLine
    funext key
    by_cases member : key ∈ done
    · exact settle_of_mem member
    · rw [settle_of_not_mem member, inLine key member]

end Settle
