import Mathlib.Data.List.Induction
import Promch.Collector.Labels
import Promch.Handlers.Operations

/-!
# The history law of the cache

What an entry holds is determined by the operations on its key since its latest
creation.  The history is read without the collector: an update is accepted
when no earlier one of the history has a newer tick, and the entry counts the
failures after the last accepted update and keeps its rows.
-/

namespace Promch

namespace HandlerOp

/-- The tick of an update. -/
def tick? : HandlerOp → Option Time
  | .update _ _ _ tickTs _ _ => some tickTs
  | _ => none

/-- The rows of an update. -/
def rows? : HandlerOp → Option (List QueryResult)
  | .update _ rows _ _ _ _ => some rows
  | _ => none

/-- The operation reports a failure. -/
def isFail : HandlerOp → Bool
  | .fail _ _ _ _ _ => true
  | _ => false

end HandlerOp

/-! ## Reading a history -/

/-- The history of a key after one more operation, newest first.  A removal
ends it, a creation starts an empty one, and an edit is not part of it. -/
def recordOp
    (key : String)
    (past : Option (List HandlerOp))
    (op : HandlerOp) : Option (List HandlerOp) :=
  if key = op.key then
    match op with
    | .register _ _ _ => some (past.getD [])
    | .unregister _ => none
    | op => past.map (op :: ·)
  else past

/-- The operations on a registered key since its latest creation, newest
first. -/
def historyOf (key : String) (ops : List HandlerOp) : Option (List HandlerOp) :=
  ops.foldl (recordOp key) none

/-- No update of the past has a newer tick; a fresh entry counts as tick
zero. -/
def isCurrent (past : List HandlerOp) (tickTs : Time) : Bool :=
  0 ≤ tickTs && past.all fun op => op.tick?.all (· ≤ tickTs)

/-- The operation is an update that is not outdated. -/
def isAccepted (past : List HandlerOp) (op : HandlerOp) : Bool :=
  op.tick?.any (isCurrent past)

/-- The operations after the last accepted update. -/
def sinceAccepted : List HandlerOp → List HandlerOp
  | [] => []
  | op :: past => if isAccepted past op then [] else op :: sinceAccepted past

/-- The last accepted update. -/
def lastAccepted : List HandlerOp → Option HandlerOp
  | [] => none
  | op :: past => if isAccepted past op then some op else lastAccepted past

theorem isCurrent_iff (past : List HandlerOp) (tickTs : Time) :
    isCurrent past tickTs = true ↔
      0 ≤ tickTs ∧ ∀ op ∈ past, ∀ tick, op.tick? = some tick → tick ≤ tickTs := by
  simp only [isCurrent, Bool.and_eq_true, decide_eq_true_eq, List.all_eq_true]
  refine and_congr_right fun _ => forall₂_congr fun op _ => ?_
  cases op.tick? <;> simp

@[simp] theorem historyOf_append_singleton
    (key : String)
    (ops : List HandlerOp)
    (op : HandlerOp) :
    historyOf key (ops ++ [op]) = recordOp key (historyOf key ops) op := by
  simp [historyOf]

/-- The fields of an entry as its history determines them. -/
structure EntryLaw
    (config : OperatorConfig)
    (entry : CachedMetric)
    (past : List HandlerOp) : Prop where
  failures : entry.consecutiveFailures = (sinceAccepted past).countP HandlerOp.isFail
  up_iff : entry.up = true ↔
    lastAccepted past ≠ none ∧ ∀ op ∈ sinceAccepted past, op.isFail = false
  expired_iff : entry.expired = true ↔
    config.expireAfterFailures ≤ entry.consecutiveFailures
  lastSuccessTs_iff : entry.lastSuccessTs = none ↔ lastAccepted past = none
  rows_iff : entry.rows = none ↔ lastAccepted past = none
  rows_eq : entry.rows = (lastAccepted past).bind HandlerOp.rows?

/-- A registered entry, the values its updates returned and its user series
follow from the history of the key. -/
structure HistoryLaw
    (config : OperatorConfig)
    (ops : List HandlerOp)
    (key : String)
    (entry : CachedMetric)
    (past : List HandlerOp) : Prop where
  entryLaw : EntryLaw config entry past
  /-- An accepted update of the run returned whether the entry was down. -/
  accepted : ∀ done op rest, ops = done ++ op :: rest → op.key = key →
    ∀ earlier, historyOf key done = some earlier → isAccepted earlier op = true →
      ∃ before, (runOps config (startCollector config) done).entries.get? key = some before ∧
        (op.apply config (runOps config (startCollector config) done)).2 = some (!before.up)
  /-- A discarded update of the run returned false and changed nothing. -/
  discarded : ∀ done op rest, ops = done ++ op :: rest → op.key = key → op.tick?.isSome →
    ∀ earlier, historyOf key done = some earlier → isAccepted earlier op = false →
      op.apply config (runOps config (startCollector config) done) =
        (runOps config (startCollector config) done, some false)
  /-- The series of a valid entry are exported while it has rows and is not
  expired. -/
  series_iff : entry.isInvalid = false →
    ((runOps config (startCollector config) ops).SeriesPresent key ↔
      (∃ rows, (lastAccepted past).bind HandlerOp.rows? = some rows ∧ rows ≠ []) ∧
        entry.expired = false)

/-! ## One operation -/

/-- The law of an entry together with the tick that guards its updates. -/
structure EntryInvariant
    (config : OperatorConfig)
    (entry : CachedMetric)
    (past : List HandlerOp) : Prop extends EntryLaw config entry past where
  tick : ∀ tickTs, entry.tickTs ≤ tickTs ↔ isCurrent past tickTs = true

namespace EntryInvariant

variable {config : OperatorConfig} {entry : CachedMetric} {past : List HandlerOp}

/-- A new entry has no past. -/
theorem create
    (positive : 1 ≤ config.expireAfterFailures)
    (name help : String)
    (labels : Dict String String)
    (invalidReason : Option String) :
    EntryInvariant config
      { name := name, help := help, labels := labels, invalidReason := invalidReason } [] where
  failures := rfl
  up_iff := by simp [lastAccepted]
  expired_iff := by
    have : ¬config.expireAfterFailures ≤ ((0 : Nat) : Int) := by omega
    simpa using this
  lastSuccessTs_iff := by simp [lastAccepted]
  rows_iff := by simp [lastAccepted]
  rows_eq := rfl
  tick := fun tickTs => by simp [isCurrent]

/-- An edit keeps what the history determines. -/
theorem edit
    (invariant : EntryInvariant config entry past)
    (name help : String)
    (labels : Dict String String)
    (invalidReason : Option String) :
    EntryInvariant config (entry.edit name help labels invalidReason) past where
  failures := invariant.failures
  up_iff := invariant.up_iff
  expired_iff := invariant.expired_iff
  lastSuccessTs_iff := invariant.lastSuccessTs_iff
  rows_iff := invariant.rows_iff
  rows_eq := invariant.rows_eq
  tick := invariant.tick

/-- An operation that is no update leaves the last accepted one. -/
theorem tick_cons_of_not_update
    (invariant : EntryInvariant config entry past)
    {op : HandlerOp}
    (notUpdate : op.tick? = none)
    (tickTs : Time) :
    entry.tickTs ≤ tickTs ↔ isCurrent (op :: past) tickTs = true := by
  simpa [isCurrent, notUpdate] using invariant.tick tickTs

/-- Bookkeeping leaves what the history determines. -/
theorem bookkeeping
    (invariant : EntryInvariant config entry past)
    {op : HandlerOp}
    (notUpdate : op.tick? = none)
    (notFail : op.isFail = false)
    {changed : CachedMetric}
    (same : changed.consecutiveFailures = entry.consecutiveFailures ∧
      changed.up = entry.up ∧ changed.expired = entry.expired ∧
      changed.lastSuccessTs = entry.lastSuccessTs ∧ changed.rows = entry.rows ∧
      changed.tickTs = entry.tickTs) :
    EntryInvariant config changed (op :: past) := by
  obtain ⟨failures, up, expired, lastSuccessTs, rows, tick⟩ := same
  have notAccepted : isAccepted past op = false := by simp [isAccepted, notUpdate]
  have since : sinceAccepted (op :: past) = op :: sinceAccepted past := by
    simp [sinceAccepted, notAccepted]
  have last : lastAccepted (op :: past) = lastAccepted past := by
    simp [lastAccepted, notAccepted]
  exact
    { failures := by rw [failures, since, invariant.failures]; simp [notFail]
      up_iff := by rw [up, since, last, invariant.up_iff]; simp [notFail]
      expired_iff := by rw [expired, failures, invariant.expired_iff]
      lastSuccessTs_iff := by rw [lastSuccessTs, last, invariant.lastSuccessTs_iff]
      rows_iff := by rw [rows, last, invariant.rows_iff]
      rows_eq := by rw [rows, last, invariant.rows_eq]
      tick := by rw [tick]; exact invariant.tick_cons_of_not_update notUpdate }

/-- A failure report counts one more failure, and the count decides on the
expiry. -/
theorem fail
    (invariant : EntryInvariant config entry past)
    (key : String)
    (errorType : ErrorType)
    (message : String)
    (failedNodes : Option (List String))
    (now : Time) :
    EntryInvariant config (entry.fail config errorType message failedNodes now)
      (.fail key errorType message failedNodes now :: past) := by
  have since : sinceAccepted (.fail key errorType message failedNodes now :: past) =
      .fail key errorType message failedNodes now :: sinceAccepted past := rfl
  rw [entry.fail_eq config errorType message failedNodes now]
  exact
    { failures := by
        rw [since, List.countP_cons_of_pos rfl, ← invariant.failures]
        rfl
      up_iff := by rw [since]; simp [CachedMetric.markFailure, HandlerOp.isFail]
      expired_iff := by
        simp only [CachedMetric.markFailure, Bool.or_eq_true, decide_eq_true_eq]
        refine or_iff_right_of_imp fun wasExpired => ?_
        have reached := invariant.expired_iff.mp wasExpired
        omega
      lastSuccessTs_iff := invariant.lastSuccessTs_iff
      rows_iff := invariant.rows_iff
      rows_eq := invariant.rows_eq
      tick := invariant.tick_cons_of_not_update rfl }

/-- An update is stored or discarded as its history says. -/
theorem update
    (positive : 1 ≤ config.expireAfterFailures)
    (invariant : EntryInvariant config entry past)
    (key : String)
    (rows : List QueryResult)
    (durationSeconds tickTs : Time)
    (failedNodes : Option (List String))
    (now : Time) :
    EntryInvariant config (entry.update rows durationSeconds tickTs failedNodes now).1
      (.update key rows durationSeconds tickTs failedNodes now :: past) := by
  have accepted_eq : isAccepted past (.update key rows durationSeconds tickTs failedNodes now) =
      isCurrent past tickTs := rfl
  cases current : isCurrent past tickTs with
  | true =>
      have stored := entry.update_of_current rows durationSeconds failedNodes now
        ((invariant.tick tickTs).mpr current)
      rw [stored]
      exact
        { failures := by simp [sinceAccepted, accepted_eq, current]
          up_iff := by simp [sinceAccepted, lastAccepted, accepted_eq, current]
          expired_iff := by
            have : ¬config.expireAfterFailures ≤ ((0 : Nat) : Int) := by omega
            simpa using this
          lastSuccessTs_iff := by simp [lastAccepted, accepted_eq, current]
          rows_iff := by simp [lastAccepted, accepted_eq, current]
          rows_eq := by simp [lastAccepted, accepted_eq, current, HandlerOp.rows?]
          tick := by
            intro later
            rw [isCurrent_iff] at current ⊢
            simp only [List.forall_mem_cons, HandlerOp.tick?, Option.some.injEq, forall_eq']
            constructor
            · intro newer
              exact ⟨current.1.trans newer, newer, fun op member tick ticked =>
                (current.2 op member tick ticked).trans newer⟩
            · exact fun newer => newer.2.1 }
  | false =>
      have stale : tickTs < entry.tickTs := by
        rw [← not_le, invariant.tick tickTs, current]
        simp
      have since : sinceAccepted (.update key rows durationSeconds tickTs failedNodes now :: past) =
          .update key rows durationSeconds tickTs failedNodes now :: sinceAccepted past := by
        simp [sinceAccepted, accepted_eq, current]
      have last : lastAccepted (.update key rows durationSeconds tickTs failedNodes now :: past) =
          lastAccepted past := by
        simp [lastAccepted, accepted_eq, current]
      rw [entry.update_of_stale rows durationSeconds failedNodes now stale]
      exact
        { failures := by rw [since, invariant.failures]; rfl
          up_iff := by rw [since, last, invariant.up_iff]; simp [HandlerOp.isFail]
          expired_iff := invariant.expired_iff
          lastSuccessTs_iff := by rw [last, invariant.lastSuccessTs_iff]
          rows_iff := by rw [last, invariant.rows_iff]
          rows_eq := by rw [last, invariant.rows_eq]
          tick := by
            intro later
            rw [invariant.tick later, isCurrent_iff, isCurrent_iff]
            simp only [List.forall_mem_cons, HandlerOp.tick?, Option.some.injEq, forall_eq']
            constructor
            · rintro ⟨nonnegative, newer⟩
              have reached := (invariant.tick later).mpr
                ((isCurrent_iff past later).mpr ⟨nonnegative, newer⟩)
              exact ⟨nonnegative, (stale.trans_le reached).le, newer⟩
            · rintro ⟨nonnegative, -, newer⟩
              exact ⟨nonnegative, newer⟩ }

end EntryInvariant

/-! ## Runs -/

section Run

variable {config : OperatorConfig}

/-- One operation keeps the entry of a key, if there is one, in step with the
history of the key. -/
theorem rel_apply
    (positive : 1 ≤ config.expireAfterFailures)
    {collector : Collector}
    {key : String}
    {past : Option (List HandlerOp)}
    (inStep : Option.Rel (EntryInvariant config) (collector.entries.get? key) past)
    (op : HandlerOp) :
    Option.Rel (EntryInvariant config) ((op.apply config collector).1.entries.get? key)
      (recordOp key past op) := by
  rw [get?_apply]
  unfold recordOp
  by_cases same : key = op.key
  · rw [if_pos same, if_pos same]
    cases stored : collector.entries.get? key with
    | none =>
        rw [stored] at inStep
        cases inStep
        cases op with
        | register key spec queryType => exact .some (.create positive _ _ _ _)
        | unregister | update | fail | markWaiting | incInflight | decInflight | recordSkip =>
            exact .none
    | some entry =>
        rw [stored] at inStep
        obtain ⟨invariant⟩ := inStep
        cases op with
        | register key spec queryType => exact .some (invariant.edit _ _ _ _)
        | unregister key => exact .none
        | update key rows durationSeconds tickTs failedNodes now =>
            exact .some (invariant.update positive key rows durationSeconds tickTs failedNodes now)
        | fail key errorType message failedNodes now =>
            exact .some (invariant.fail key errorType message failedNodes now)
        | markWaiting | incInflight | decInflight | recordSkip =>
            exact .some (invariant.bookkeeping rfl rfl ⟨rfl, rfl, rfl, rfl, rfl, rfl⟩)
  · rw [if_neg same, if_neg same]
    exact inStep

/-- After a run the entry of a key, if there is one, is in step with the history
of the key; the induction adds one operation at the end of the run. -/
theorem rel_runOps
    (positive : 1 ≤ config.expireAfterFailures)
    (ops : List HandlerOp)
    (key : String) :
    Option.Rel (EntryInvariant config)
      ((runOps config (startCollector config) ops).entries.get? key) (historyOf key ops) := by
  induction ops using List.reverseRecOn with
  | nil => exact .none
  | append_singleton ops op inductionHypothesis =>
      rw [runOps_append_singleton, historyOf_append_singleton]
      exact rel_apply positive inductionHypothesis op

/-- A key with a history is registered. -/
theorem exists_entry_of_historyOf
    (positive : 1 ≤ config.expireAfterFailures)
    {ops : List HandlerOp}
    {key : String}
    {past : List HandlerOp}
    (recorded : historyOf key ops = some past) :
    ∃ entry, (runOps config (startCollector config) ops).entries.get? key = some entry ∧
      EntryInvariant config entry past := by
  have inStep := rel_runOps positive ops key
  rw [recorded] at inStep
  cases stored : (runOps config (startCollector config) ops).entries.get? key with
  | none => rw [stored] at inStep; cases inStep
  | some entry =>
      rw [stored] at inStep
      obtain ⟨invariant⟩ := inStep
      exact ⟨entry, rfl, invariant⟩

/-- The history law: the entry of a registered key, the values its updates
returned and its user series are those of the history of the key. -/
theorem historyLaw_of_run
    (config : OperatorConfig)
    (positive : 1 ≤ config.expireAfterFailures)
    (ops : List HandlerOp)
    (key : String)
    (entry : CachedMetric)
    (registered :
      (runOps config (startCollector config) ops).entries.get? key = some entry) :
    ∃ past, historyOf key ops = some past ∧ HistoryLaw config ops key entry past := by
  have inStep := rel_runOps positive ops key
  rw [registered] at inStep
  cases recorded : historyOf key ops with
  | none => rw [recorded] at inStep; cases inStep
  | some past =>
  rw [recorded] at inStep
  obtain ⟨invariant⟩ := inStep
  refine ⟨past, rfl, invariant.toEntryLaw, ?_, ?_, ?_⟩
  · rintro done op rest - rfl earlier earlierRecorded accepted
    obtain ⟨before, beforeRegistered, beforeInvariant⟩ :=
      exists_entry_of_historyOf positive earlierRecorded
    refine ⟨before, beforeRegistered, ?_⟩
    cases op with
    | update key rows durationSeconds tickTs failedNodes now =>
        have current := (beforeInvariant.tick tickTs).mpr accepted
        simp only [HandlerOp.key] at beforeRegistered
        simp only [HandlerOp.apply, Collector.snd_update, beforeRegistered, Option.map_some,
          Option.getD_some,
          before.update_of_current rows durationSeconds failedNodes now current]
    | register | unregister | fail | markWaiting | incInflight | decInflight | recordSkip =>
        cases accepted
  · rintro done op rest - rfl isUpdate earlier earlierRecorded discarded
    obtain ⟨before, beforeRegistered, beforeInvariant⟩ :=
      exists_entry_of_historyOf positive earlierRecorded
    cases op with
    | update key rows durationSeconds tickTs failedNodes now =>
        have stale : tickTs < before.tickTs := by
          rw [← not_le, beforeInvariant.tick tickTs]
          exact Bool.eq_false_iff.mp discarded
        simp only [HandlerOp.key] at beforeRegistered
        simp only [HandlerOp.apply,
          Collector.update_of_stale rows durationSeconds failedNodes now beforeRegistered stale]
    | register | unregister | fail | markWaiting | incInflight | decInflight | recordSkip =>
        cases isUpdate
  · intro valid
    rw [Collector.seriesPresent_iff registered, ← invariant.rows_eq]
    cases entry.rows <;> simp [valid, and_comm]

end Run

/-- One row without columns. -/
def oneRow : List QueryResult :=
  [{ value := .finite 1, dynamicLabels := Dict.empty }]

/-- A query that succeeds, fails once and is expired by it. -/
def expiringRun : List HandlerOp :=
  [.register "ns/q" { name := "hits" } .data,
    .update "ns/q" oneRow 1 1 none 1,
    .fail "ns/q" .queryError "boom" none 2]

theorem historyLaw_of_expiringRun :
    ∃ past, historyOf "ns/q" (expiringRun.take 2) = some past ∧
      HistoryLaw defaultConfig (expiringRun.take 2) "ns/q"
        (((runOps defaultConfig (startCollector defaultConfig)
            (expiringRun.take 2)).entries.get? "ns/q").getD
          { name := "", help := "", labels := Dict.empty }) past :=
  historyLaw_of_run defaultConfig (by decide) (expiringRun.take 2) "ns/q" _ rfl

/-- The last accepted rows of a valid entry are not empty, and its series are
gone: it has expired. -/
theorem not_seriesPresent_of_expiringRun :
    let config : OperatorConfig := { defaultConfig with expireAfterFailures := 1 }
    let collector := runOps config (startCollector config) expiringRun
    (collector.entries.get? "ns/q").map CachedMetric.isInvalid = some false ∧
      ((historyOf "ns/q" expiringRun).bind fun past =>
        (lastAccepted past).bind HandlerOp.rows?) = some oneRow ∧
      ¬collector.SeriesPresent "ns/q" := by
  refine ⟨rfl, rfl, ?_⟩
  rw [Collector.seriesPresent_iff rfl]
  decide

end Promch
