/-!
# Guards on the steps of a run

A run follows a step function that some events are not possible for.  A guard
on the steps is exact for a property of the states when the runs that meet the
guard at every step are those that have the property in every state.  For that
the guarded steps keep an invariant that implies the property, and every other
step from an invariant state leads to a state without the property.
-/

namespace GuardedRuns

variable {σ ε : Type}

/-- The state after several events, as long as all of them are possible. -/
def run (step : σ → ε → Option σ) (start : σ) : List ε → Option σ
  | [] => some start
  | event :: rest => (step start event).bind fun next => run step next rest

/-- Every state of a run has a property. -/
def Always
    (step : σ → ε → Option σ)
    (property : σ → Prop)
    (start : σ)
    (events : List ε) : Prop :=
  ∀ earlier later state, events = earlier ++ later →
    run step start earlier = some state → property state

/-- Every step of a run meets a guard. -/
def Guarded
    (step : σ → ε → Option σ)
    (guard : σ → ε → Prop)
    (start : σ)
    (events : List ε) : Prop :=
  ∀ earlier event later state, events = earlier ++ event :: later →
    run step start earlier = some state → guard state event

variable {step : σ → ε → Option σ} {property invariant : σ → Prop}
variable {guard : σ → ε → Prop} {start next : σ} {event : ε} {events : List ε}

theorem always_nil_iff : Always step property start [] ↔ property start := by
  constructor
  · exact fun always => always [] [] start rfl rfl
  · intro holds earlier later state split reached
    obtain ⟨rfl, rfl⟩ := List.append_eq_nil_iff.mp split.symm
    cases reached
    exact holds

theorem always_cons_iff (stepped : step start event = some next) :
    Always step property start (event :: events) ↔
      property start ∧ Always step property next events := by
  constructor
  · intro always
    refine ⟨always [] (event :: events) start rfl rfl, ?_⟩
    rintro earlier later state rfl reached
    exact always (event :: earlier) later state rfl (by rw [run, stepped]; exact reached)
  · rintro ⟨holds, always⟩ earlier later state split reached
    cases earlier with
    | nil =>
        cases reached
        exact holds
    | cons first earlier =>
        obtain ⟨rfl, rfl⟩ := List.cons.inj split
        rw [run, stepped] at reached
        exact always earlier later state rfl reached

theorem guarded_nil : Guarded step guard start [] := by
  intro earlier event later state split
  simp at split

theorem guarded_cons_iff (stepped : step start event = some next) :
    Guarded step guard start (event :: events) ↔
      guard start event ∧ Guarded step guard next events := by
  constructor
  · intro guarded
    refine ⟨guarded [] event events start rfl rfl, ?_⟩
    rintro earlier other later state rfl reached
    exact guarded (event :: earlier) other later state rfl (by rw [run, stepped]; exact reached)
  · rintro ⟨met, guarded⟩ earlier other later state split reached
    cases earlier with
    | nil =>
        obtain ⟨rfl, rfl⟩ := List.cons.inj split
        cases reached
        exact met
    | cons first earlier =>
        obtain ⟨rfl, rfl⟩ := List.cons.inj split
        rw [run, stepped] at reached
        exact guarded earlier other later state rfl reached

/-- A guard is exact when the guarded steps keep an invariant that implies the
property, and the other steps lose the property. -/
theorem always_iff_guarded
    (keeps : ∀ {state event next}, invariant state → guard state event →
      step state event = some next → invariant next)
    (holds : ∀ {state}, invariant state → property state)
    (breaks : ∀ {state event next}, invariant state → ¬guard state event →
      step state event = some next → ¬property next)
    (initial : invariant start)
    (possible : (run step start events).isSome) :
    Always step property start events ↔ Guarded step guard start events := by
  induction events generalizing start with
  | nil => exact iff_of_true (always_nil_iff.mpr (holds initial)) guarded_nil
  | cons event events inductionHypothesis =>
      obtain ⟨final, ran⟩ := Option.isSome_iff_exists.mp possible
      obtain ⟨next, stepped, continued⟩ := Option.bind_eq_some_iff.mp ran
      rw [always_cons_iff stepped, guarded_cons_iff stepped]
      by_cases met : guard start event
      · rw [inductionHypothesis (keeps initial met stepped) (by rw [continued]; rfl)]
        exact and_congr_left fun _ => iff_of_true (holds initial) met
      · refine iff_of_false (fun both => ?_) fun both => met both.1
        exact breaks initial met stepped (both.2 [] events next rfl rfl)

end GuardedRuns
