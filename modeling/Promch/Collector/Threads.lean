import Promch.Collector.Collect
import Promch.Collector.NewestRows
import Promch.Library.TableHistory

/-!
# The collector under threads

The entries are shared between threads.  Every method looks its entry up under the
global lock, and then works on it under the lock of the entry, one field after the
other; a scrape copies the table of entries and then reads one entry after the
other.  An entry that a method has looked up may be unregistered before the method
gets hold of it.

In whatever way the threads interleave, they see the collector of which every
operation is one step.
-/

namespace Promch

open LockedTable

/-- What a method does with an entry under the lock of the entry. -/
inductive EntryOp
  | edit (name help : String) (labels : Dict String String) (invalidReason : Option String)
  | update
      (rows : List QueryResult)
      (durationSeconds tickTs : Time)
      (failedNodes : Option (List String))
      (now : Time)
  | markFailure
      (errorType : ErrorType)
      (message : String)
      (failedNodes : Option (List String))
      (now : Time)
  | markWaiting (reason : String)
  | expire
  | incInflight
  | decInflight
  | recordSkip (now : Time)
  | inflight
  | invalidReason
  | snapshot
  /-- The fields that a scrape reads. -/
  | read

/-- What a method returns that has worked on an entry. -/
inductive EntryAnswer
  | nothing
  | recovered (recovered : Bool)
  | inflight (count : Nat)
  | invalidReason (reason : Option String)
  | snapshot (snapshot : Snapshot)
  | read (entry : CachedMetric)

/-- The part of an entry that a scrape reads. -/
def CachedMetric.exposed (entry : CachedMetric) : CachedMetric where
  name := entry.name
  help := entry.help
  labels := entry.labels
  rows := entry.rows
  lastSuccessTs := entry.lastSuccessTs
  lastDurationSeconds := entry.lastDurationSeconds
  up := entry.up
  expired := entry.expired
  inflight := entry.inflight
  skippedTotal := entry.skippedTotal
  invalidReason := entry.invalidReason

/-- The entry as its registration created it. -/
def CachedMetric.registered (entry : CachedMetric) : CachedMetric where
  name := entry.name
  help := entry.help
  labels := entry.labels
  invalidReason := entry.invalidReason

/-- Read the entry, and go on. -/
def look (next : CachedMetric → Section CachedMetric EntryAnswer) :
    Section CachedMetric EntryAnswer :=
  .step id next

/-- Write fields one after the other. -/
def writes (answer : EntryAnswer) :
    List (CachedMetric → CachedMetric) → Section CachedMetric EntryAnswer
  | [] => .done answer
  | write :: rest => .step write fun _ => writes answer rest

namespace EntryOp

/-- The body of a method under the lock of the entry, field by field. -/
def code : EntryOp → Section CachedMetric EntryAnswer
  | .edit name help labels reason =>
      writes .nothing
        [fun entry => { entry with name := name },
          fun entry => { entry with help := help },
          fun entry => { entry with labels := labels },
          fun entry => { entry with invalidReason := reason }]
  | .update rows durationSeconds tickTs failedNodes now =>
      look fun entry =>
        if tickTs < entry.tickTs then .done (.recovered false)
        else
          look fun entry =>
            writes (.recovered !entry.up)
              [fun entry => { entry with tickTs := tickTs },
                fun entry => { entry with rows := some rows },
                fun entry => { entry with lastSuccessTs := some now },
                fun entry => { entry with lastDurationSeconds := some durationSeconds },
                fun entry => { entry with up := true },
                fun entry => { entry with expired := false },
                fun entry => { entry with consecutiveFailures := 0 },
                fun entry => { entry with failedNodes := failedNodes.getD [] },
                fun entry => { entry with waitingReason := none }]
  | .markFailure errorType message failedNodes now =>
      .step (fun entry => { entry with up := false }) fun _ =>
        look fun before =>
          writes .nothing
            [fun entry => { entry with consecutiveFailures := before.consecutiveFailures + 1 },
              fun entry =>
                { entry with
                  lastError := some { type := errorType, message := message, timestamp := now } },
              fun entry => { entry with waitingReason := none },
              -- the node list is written only if one is given
              fun entry => { entry with failedNodes := failedNodes.getD entry.failedNodes }]
  | .markWaiting reason =>
      writes .nothing [fun entry => { entry with waitingReason := some reason }]
  | .expire =>
      writes .nothing
        [fun entry => { entry with expired := true }, fun entry => { entry with up := false }]
  | .incInflight =>
      look fun before =>
        writes .nothing [fun entry => { entry with inflight := before.inflight + 1 }]
  | .decInflight =>
      look fun before =>
        writes .nothing [fun entry => { entry with inflight := before.inflight - 1 }]
  | .recordSkip now =>
      look fun before =>
        writes .nothing
          [fun entry => { entry with skippedTotal := before.skippedTotal + 1 },
            fun entry => { entry with lastSkipTs := some now }]
  | .inflight => look fun entry => .done (.inflight entry.inflight)
  | .invalidReason => look fun entry => .done (.invalidReason entry.invalidReason)
  | .snapshot =>
      look fun up => look fun expired => look fun consecutiveFailures => look fun lastError =>
      look fun lastSuccessTs => look fun rows => look fun duration => look fun skippedTotal =>
      look fun lastSkipTs => look fun failedNodes => look fun waitingReason =>
      look fun invalidReason =>
        .done (.snapshot
          { up := up.up
            expired := expired.expired
            consecutiveFailures := consecutiveFailures.consecutiveFailures
            lastError := lastError.lastError
            lastSuccessTs := lastSuccessTs.lastSuccessTs
            rowCount := (rows.rows.map List.length).getD 0
            duration := duration.lastDurationSeconds
            skippedTotal := skippedTotal.skippedTotal
            lastSkipTs := lastSkipTs.lastSkipTs
            failedNodes := failedNodes.failedNodes
            waitingReason := waitingReason.waitingReason
            invalidReason := invalidReason.invalidReason })
  | .read =>
      look fun up => look fun expired => look fun rows => look fun lastSuccessTs =>
      look fun duration => look fun inflight => look fun skippedTotal => look fun name =>
      look fun help => look fun labels => look fun invalidReason =>
        .done (.read
          { name := name.name
            help := help.help
            labels := labels.labels
            rows := rows.rows
            lastSuccessTs := lastSuccessTs.lastSuccessTs
            lastDurationSeconds := duration.lastDurationSeconds
            up := up.up
            expired := expired.expired
            inflight := inflight.inflight
            skippedTotal := skippedTotal.skippedTotal
            invalidReason := invalidReason.invalidReason })

/-- What the body makes of the entry, at once. -/
def apply (entry : CachedMetric) : EntryOp → CachedMetric
  | .edit name help labels reason => entry.edit name help labels reason
  | .update rows durationSeconds tickTs failedNodes now =>
      (entry.update rows durationSeconds tickTs failedNodes now).1
  | .markFailure errorType message failedNodes now =>
      entry.markFailure errorType message failedNodes now
  | .markWaiting reason => entry.markWaiting reason
  | .expire => entry.expire
  | .incInflight => entry.incInflight
  | .decInflight => entry.decInflight
  | .recordSkip now => entry.recordSkip now
  | .inflight => entry
  | .invalidReason => entry
  | .snapshot => entry
  | .read => entry

/-- What the body returns. -/
def answer (entry : CachedMetric) : EntryOp → EntryAnswer
  | .update rows durationSeconds tickTs failedNodes now =>
      .recovered (entry.update rows durationSeconds tickTs failedNodes now).2
  | .inflight => .inflight entry.inflight
  | .invalidReason => .invalidReason entry.invalidReason
  | .snapshot => .snapshot entry.snapshot
  | .read => .read entry.exposed
  | _ => .nothing

/-- Nobody sees more of a body than its effect, as long as the lock is held. -/
theorem run_code (op : EntryOp) (entry : CachedMetric) :
    op.code.run entry = (op.apply entry, op.answer entry) := by
  cases op with
  | update rows durationSeconds tickTs failedNodes now =>
      simp only [code, look, Section.run, apply, answer, CachedMetric.update, id]
      split
      · rfl
      · simp [writes, Section.run]
  | _ => rfl

end EntryOp

/-! ## The methods -/

/-- A method of the collector that a thread calls. -/
inductive CollectorCall
  | operation (op : CollectorOp)
  | inflight (key : String)
  | invalidReason (key : String)
  | snapshot (key : String)
  /-- The entries that a scrape of the active replica exports. -/
  | collect

/-- The lookups and visits of a method. -/
def CollectorCall.locked : CollectorCall → Call String CachedMetric EntryOp
  | .operation (.register key name help labels reason) =>
      .ensure key { name := name, help := help, labels := labels, invalidReason := reason }
        (.edit name help labels reason)
  | .operation (.unregister key) => .erase key
  | .operation (.update key rows durationSeconds tickTs failedNodes now) =>
      .visit key (.update rows durationSeconds tickTs failedNodes now)
  | .operation (.markFailure key errorType message failedNodes now) =>
      .visit key (.markFailure errorType message failedNodes now)
  | .operation (.markWaiting key reason) => .visit key (.markWaiting reason)
  | .operation (.expire key) => .visit key .expire
  | .operation (.incInflight key) => .visit key .incInflight
  | .operation (.decInflight key) => .visit key .decInflight
  | .operation (.recordSkip key now) => .visit key (.recordSkip now)
  | .inflight key => .visit key .inflight
  | .invalidReason key => .visit key .invalidReason
  | .snapshot key => .visit key .snapshot
  | .collect => .scan .read

/-- The collector with the threads that work on it. -/
abbrev CollectorThreads : Type :=
  LockedTable.System String CachedMetric EntryOp EntryAnswer

/-- What a method does with the table or with an entry. -/
abbrev CollectorDeed : Type :=
  Deed String CachedMetric EntryOp EntryAnswer

/-- A deed of a method with its time. -/
abbrev CollectorEvent : Type :=
  LockedTable.Event String CachedMetric EntryOp EntryAnswer

/-- Some threads have called methods, and this is how far they have come. -/
def CollectorThreads.Reached (system : CollectorThreads) : Prop :=
  System.Reaches EntryOp.code (fun call => ∃ method : CollectorCall, call = method.locked) system

/-- The operation that a deed is. -/
def operation? : CollectorDeed → Option CollectorOp
  | .visit key (.edit name help labels reason) _ => some (.register key name help labels reason)
  | .visit key (.update rows durationSeconds tickTs failedNodes now) _ =>
      some (.update key rows durationSeconds tickTs failedNodes now)
  | .visit key (.markFailure errorType message failedNodes now) _ =>
      some (.markFailure key errorType message failedNodes now)
  | .visit key (.markWaiting reason) _ => some (.markWaiting key reason)
  | .visit key .expire _ => some (.expire key)
  | .visit key .incInflight _ => some (.incInflight key)
  | .visit key .decInflight _ => some (.decInflight key)
  | .visit key (.recordSkip now) _ => some (.recordSkip key now)
  | .visit _ .inflight _ => none
  | .visit _ .invalidReason _ => none
  | .visit _ .snapshot _ => none
  | .visit _ .read _ => none
  | .miss _ => none
  | .create key initial =>
      some (.register key initial.name initial.help initial.labels initial.invalidReason)
  | .erase key _ => some (.unregister key)
  | .list _ => none

namespace Collector

/-- The collector after a deed. -/
def perform (collector : Collector) (deed : CollectorDeed) : Collector :=
  ((operation? deed).map (CollectorOp.apply collector)).getD collector

/-- What the collector of single steps returns for a registered key. -/
def reply (collector : Collector) (key : String) : EntryOp → Option EntryAnswer
  | .update rows durationSeconds tickTs failedNodes now =>
      some (.recovered (collector.update key rows durationSeconds tickTs failedNodes now).2)
  | .inflight => some (.inflight (collector.inflight key))
  | .invalidReason => some (.invalidReason (collector.invalidReason key))
  | .snapshot => (collector.snapshot key).map .snapshot
  | .read => (collector.entries.get? key).map fun entry => .read entry.exposed
  | _ => some .nothing

/-- A deed returns what the collector of single steps returns. -/
def Answers (collector : Collector) : CollectorDeed → Prop
  | .visit key op answer =>
      key ∈ collector.entries.keys ∧ collector.reply key op = some answer
  | .miss key => key ∉ collector.entries.keys
  | .create key _ => key ∉ collector.entries.keys
  | .erase _ _ => True
  | .list keys => collector.entries.keys = keys

/-- One deed after the other, each as one step of the collector. -/
def Sequential (collector : Collector) : List CollectorEvent → Prop
  | [] => True
  | event :: rest => collector.Answers event.deed ∧ (collector.perform event.deed).Sequential rest

/-- The collector after the deeds, each as one step. -/
def performAll (collector : Collector) (history : List CollectorEvent) : Collector :=
  history.foldl (fun collector event => collector.perform event.deed) collector

variable {collector : Collector} {deed : CollectorDeed}

/-- What is possible on the entries is what the collector answers. -/
theorem answers_of_fits (fits : deed.Fits EntryOp.code collector.entries) :
    collector.Answers deed := by
  cases deed with
  | visit key op answer =>
      obtain ⟨entry, registered, rfl⟩ := fits
      refine ⟨(Dict.mem_keys_iff _ _).mpr ⟨entry, registered⟩, ?_⟩
      rw [op.run_code]
      cases op with
      | update rows durationSeconds tickTs failedNodes now =>
          simp [reply, EntryOp.answer, snd_update, registered]
      | inflight => simp [reply, EntryOp.answer, inflight, registered]
      | invalidReason => simp [reply, EntryOp.answer, invalidReason, registered]
      | snapshot => simp [reply, EntryOp.answer, snapshot, registered]
      | read => simp [reply, EntryOp.answer, registered]
      | _ => rfl
  | miss key | create key initial => exact (Dict.get?_eq_none_iff _ _).mp fits
  | erase key object => trivial
  | list keys => exact fits

/-- A deed does to the entries what the operation does. -/
theorem entries_perform
    (fits : deed.Fits EntryOp.code collector.entries)
    (fresh : ∀ key initial, deed = .create key initial → initial = initial.registered) :
    (collector.perform deed).entries = deed.apply EntryOp.code collector.entries := by
  cases deed with
  | visit key op answer =>
      obtain ⟨entry, registered, _⟩ := fits
      simp only [Deed.apply, EntryOp.run_code, Dict.modify, registered]
      cases op with
      | edit name help labels reason =>
          simp [perform, operation?, CollectorOp.apply, register, registered, EntryOp.apply]
      | update rows durationSeconds tickTs failedNodes now =>
          simp [perform, operation?, CollectorOp.apply, update, registered, EntryOp.apply]
      | inflight | invalidReason | snapshot | read =>
          exact (Dict.set_of_get?_eq registered).symm
      | _ =>
          simp [perform, operation?, CollectorOp.apply, markFailure, markWaiting, expire,
            incInflight, decInflight, recordSkip, modifyEntry, Dict.modify, registered,
            EntryOp.apply]
  | create key initial =>
      have absent : collector.entries.get? key = none := fits
      rw [Deed.apply, fresh key initial rfl]
      simp [perform, operation?, CollectorOp.apply, register, absent, CachedMetric.registered]
  | miss key | erase key object | list keys => rfl

/-- A legal history of the entries is a sequence of steps of the collector. -/
theorem sequential_of_legal
    {history : List CollectorEvent}
    (legal : Legal EntryOp.code collector.entries history)
    (fresh : ∀ event ∈ history, ∀ key initial, event.deed = .create key initial →
      initial = initial.registered) :
    collector.Sequential history ∧
      (collector.performAll history).entries = replay EntryOp.code collector.entries history := by
  induction history generalizing collector with
  | nil => exact ⟨trivial, rfl⟩
  | cons event rest inductionHypothesis =>
      obtain ⟨fits, legal⟩ := legal
      have performed := entries_perform fits (fresh event List.mem_cons_self)
      rw [← performed] at legal
      obtain ⟨sequential, result⟩ := inductionHypothesis legal fun other member =>
        fresh other (List.mem_cons_of_mem event member)
      refine ⟨⟨answers_of_fits fits, sequential⟩, ?_⟩
      rw [replay_cons, ← performed]
      exact result

end Collector

/-! ## Runs -/

/-- Only a registration creates an entry, and a fresh one. -/
theorem fresh_of_permits
    {method : CollectorCall}
    {progress : Progress String CachedMetric EntryOp EntryAnswer}
    {key : String}
    {initial : CachedMetric}
    (permits : method.locked.Permits progress)
    (done : .create key initial ∈ progress.deeds) :
    initial = initial.registered := by
  have visits : ∀ {key op},
      (Call.visit key op : Call String CachedMetric EntryOp).Permits progress → False := by
    rintro other op (⟨deeds, _⟩ | ⟨_, deeds | ⟨answer, deeds⟩⟩)
    all_goals simp [deeds] at done
  cases method with
  | operation op =>
      cases op with
      | register other name help labels reason =>
          obtain ⟨deeds, _⟩ | ⟨_, deeds | ⟨answer, deeds⟩⟩ := permits
          · simp [deeds] at done
          · simp only [deeds, List.mem_singleton, Deed.create.injEq] at done
            rw [done.2]
            rfl
          · simp [deeds] at done
      | unregister other =>
          obtain ⟨_, object, deeds⟩ := permits
          simp [deeds] at done
      | _ => exact absurd permits visits
  | collect =>
      obtain ⟨_, answers, deeds⟩ := permits
      simp [deeds] at done
  | _ => exact absurd permits visits

/-- Every explanation of the table is a sequence of steps of the collector. -/
theorem sequential_of_explained
    {system : CollectorThreads}
    {history : List CollectorEvent}
    (reached : system.Reached)
    (perm : history.Perm system.trace)
    (legal : Legal EntryOp.code Dict.empty history)
    (metricPrefix : String) :
    (Collector.create metricPrefix).Sequential history ∧
      ((Collector.create metricPrefix).performAll history).entries =
        replay EntryOp.code Dict.empty history := by
  apply Collector.sequential_of_legal legal
  intro event member key initial created
  obtain ⟨call, progress, _, ⟨method, rfl⟩, done, permits⟩ :=
    System.exists_call_of_mem_trace reached (perm.mem_iff.mp member)
  exact fresh_of_permits permits (created ▸ done)

/-- However threads interleave, they see the collector of which every operation is
one step: what they have done to the entries and what they were told can be put in an
order, in keeping with the time, in which the collector does the same one step after
the other, and as soon as nobody works on an entry the entries are those of the
collector. -/
theorem sequential_of_reached
    {system : CollectorThreads}
    (reached : system.Reached)
    (metricPrefix : String) :
    ∃ history : List CollectorEvent, history.Perm system.trace ∧
      (history.Pairwise fun earlier later => ¬later.time < earlier.since) ∧
      (Collector.create metricPrefix).Sequential history ∧
      ((∀ cell ∈ system.cells, cell.holder = none) → ∀ key entry,
        ((Collector.create metricPrefix).performAll history).entries.get? key = some entry ↔
          ∃ object, system.table.get? key = some object ∧
            (system.cells[object]?).map Cell.value = some entry) ∧
      ∀ caller call progress, system.calls[caller]? = some (call, some progress) →
        deedsOf system.trace caller = progress.deeds := by
  have nonempty : Nonempty CachedMetric :=
    ⟨{ name := "", help := "", labels := Dict.empty }⟩
  obtain ⟨history, content, keyOf, explains, guarded⟩ := System.explained_of_reaches reached
  obtain ⟨sequential, result⟩ :=
    sequential_of_explained reached explains.perm explains.legal metricPrefix
  refine ⟨history, explains.perm, explains.inOrder, sequential, ?_, ?_⟩
  · intro atRest key entry
    rw [result, explains.result, Dict.get?_mapValues, Option.map_eq_some_iff]
    refine exists_congr fun object => and_congr_right fun present => ?_
    have inside := (explains.keyed key object present).1
    have found := List.getElem?_eq_getElem inside
    have free := guarded.free object _ found (atRest _ (List.getElem_mem inside))
    rw [found, free]
    simp
  · exact fun caller call progress here =>
      ((System.recorded_of_reaches reached).deeds caller call progress here).1

/-- A thread goes through the body of a method. -/
def visitActions (caller moves : Nat) : List (Action String CachedMetric EntryOp) :=
  .enter caller :: List.replicate moves (.move caller) ++ [.leave caller]

/-- An update and a scrape find an entry that is unregistered before they get hold
of it. -/
def lateVisits : List (Action String CachedMetric EntryOp) :=
  ([.operation (.register "ns/hits" "hits" "Hits." Dict.empty none),
      .operation (.update "ns/hits" [] 1 7 none 9), .collect,
      .operation (.unregister "ns/hits")] : List CollectorCall).map
        (fun method => .call method.locked) ++
    [.look 0, .look 1, .look 2, .look 3] ++ visitActions 1 11 ++ visitActions 2 11

/-- The call is a scrape. -/
def isScrape : Call String CachedMetric EntryOp → Bool
  | .scan .read => true
  | _ => false

/-- The threads after the late visits. -/
theorem exists_lateVisits :
    ∃ system : CollectorThreads, system.Reached ∧
      (system.trace.map Event.call) = [0, 2, 3, 1, 2] ∧ system.table.keys = [] ∧
        ∃ progress, system.calls[2]? = some (CollectorCall.collect.locked, some progress) ∧
          progress.todo = [] := by
  have computed : ((System.run EntryOp.code {} lateVisits).any fun system =>
      (system.trace.map Event.call) = [0, 2, 3, 1, 2] ∧ system.table.keys = [] ∧
        (system.progress? 2).any fun found => isScrape found.1 && found.2.todo.isEmpty) =
          true := by
    decide +kernel
  obtain ⟨system, ran, holds⟩ := (Option.any_eq_true _ _).mp computed
  obtain ⟨callers, erased, known⟩ := of_decide_eq_true holds
  obtain ⟨⟨call, progress⟩, here, scraped⟩ := (Option.any_eq_true _ _).mp known
  obtain ⟨isCall, nothing⟩ := Bool.and_eq_true_iff.mp scraped
  refine ⟨system, System.Reaches.start.of_run ?_ ran, callers, erased, progress, ?_,
    List.isEmpty_iff.mp nothing⟩
  · intro call member
    simp only [lateVisits, visitActions, List.map_cons, List.map_nil, List.cons_append,
      List.nil_append, List.mem_cons, Action.call.injEq, List.mem_append, List.mem_replicate,
      reduceCtorEq, and_false, List.not_mem_nil, or_false] at member
    obtain rfl | rfl | rfl | rfl := member
    all_goals exact ⟨_, rfl⟩
  · rw [System.progress?_eq_some.mp here]
    cases call with
    | scan op =>
        cases op with
        | read => rfl
        | _ => cases isCall
    | _ => cases isCall

/-- What the late visits did is seen as if they had come before the entry was
unregistered. -/
theorem sequential_after_lateVisits :
    ∃ system : CollectorThreads, system.table.keys = [] ∧
      ∃ history : List CollectorEvent, history.Perm system.trace ∧
        (Collector.create "clickhouse").Sequential history := by
  obtain ⟨system, reached, _, erased, _⟩ := exists_lateVisits
  obtain ⟨history, perm, _, sequential, _⟩ := sequential_of_reached reached "clickhouse"
  exact ⟨system, erased, history, perm, sequential⟩

/-! ## Scrapes -/

/-- The identity of an entry comes from one registration. -/
def RegisteredBy (event : CollectorEvent) (key : String) (entry : CachedMetric) : Prop :=
  operation? event.deed =
    some (.register key entry.name entry.help entry.labels entry.invalidReason)

/-- The rows of an entry, their time and their duration come from one update. -/
def UpdatedBy (event : CollectorEvent) (key : String) (entry : CachedMetric) : Prop :=
  ∃ rows durationSeconds tickTs failedNodes now,
    operation? event.deed = some (.update key rows durationSeconds tickTs failedNodes now) ∧
      entry.rows = some rows ∧ entry.lastSuccessTs = some now ∧
      entry.lastDurationSeconds = some durationSeconds

/-- No update has succeeded. -/
def CachedMetric.NeverUpdated (entry : CachedMetric) : Prop :=
  entry.rows = none ∧ entry.lastSuccessTs = none ∧ entry.lastDurationSeconds = none

/-- What an entry shows has been put there as a whole. -/
def Coherent (events : List CollectorEvent) (key : String) (entry : CachedMetric) : Prop :=
  (∃ event ∈ events, RegisteredBy event key entry) ∧
    (entry.NeverUpdated ∨ ∃ event ∈ events, UpdatedBy event key entry)

/-- A body that writes neither the identity nor the rows leaves the entry coherent. -/
theorem Coherent.keep
    {events : List CollectorEvent}
    {key : String}
    {entry later : CachedMetric}
    (coherent : Coherent events key entry)
    (name : later.name = entry.name)
    (help : later.help = entry.help)
    (labels : later.labels = entry.labels)
    (reason : later.invalidReason = entry.invalidReason)
    (rows : later.rows = entry.rows)
    (time : later.lastSuccessTs = entry.lastSuccessTs)
    (duration : later.lastDurationSeconds = entry.lastDurationSeconds) :
    Coherent events key later := by
  simpa only [Coherent, RegisteredBy, CachedMetric.NeverUpdated, UpdatedBy, name, help, labels,
    reason, rows, time, duration] using coherent

theorem Coherent.extend
    {events : List CollectorEvent}
    {key : String}
    {entry : CachedMetric}
    (coherent : Coherent events key entry)
    (event : CollectorEvent) :
    Coherent (events ++ [event]) key entry := by
  obtain ⟨⟨registration, member, registered⟩, updated⟩ := coherent
  refine ⟨⟨registration, List.mem_append_left _ member, registered⟩, updated.imp_right ?_⟩
  rintro ⟨success, member, updated⟩
  exact ⟨success, List.mem_append_left _ member, updated⟩

/-- Every body leaves a coherent entry coherent. -/
theorem Coherent.visit
    {events : List CollectorEvent}
    {event : CollectorEvent}
    {key : String}
    {op : EntryOp}
    {answer : EntryAnswer}
    {entry : CachedMetric}
    (coherent : Coherent events key entry)
    (visits : event.deed = .visit key op answer) :
    Coherent (events ++ [event]) key (op.apply entry) := by
  have kept := coherent.extend event
  have here : event ∈ events ++ [event] := List.mem_append_right _ List.mem_cons_self
  cases op with
  | edit name help labels reason =>
      refine ⟨⟨event, here, ?_⟩, kept.2⟩
      rw [RegisteredBy, visits]
      rfl
  | update rows durationSeconds tickTs failedNodes now =>
      by_cases stale : tickTs < entry.tickTs
      · simp only [EntryOp.apply,
          entry.update_of_stale rows durationSeconds failedNodes now stale]
        exact kept
      · simp only [EntryOp.apply,
          entry.update_of_current rows durationSeconds failedNodes now (not_lt.mp stale)]
        refine ⟨kept.1, .inr ⟨event, here, rows, durationSeconds, tickTs, failedNodes, now, ?_,
          rfl, rfl, rfl⟩⟩
        rw [visits]
        rfl
  | _ => exact kept.keep rfl rfl rfl rfl rfl rfl rfl

/-- The entries of every history are coherent. -/
theorem coherent_of_replay
    {history : List CollectorEvent}
    {key : String}
    {entry : CachedMetric}
    (fresh : ∀ event ∈ history, ∀ key initial, event.deed = .create key initial →
      initial = initial.registered)
    (stored : (replay EntryOp.code Dict.empty history).get? key = some entry) :
    Coherent history key entry := by
  let Fresh := fun history : List CollectorEvent => ∀ event ∈ history, ∀ key initial,
    event.deed = .create key initial → initial = initial.registered
  have earlier : ∀ {history event}, Fresh (history ++ [event]) → Fresh history :=
    fun fresh other member => fresh other (List.mem_append_left _ member)
  refine forall_replay (motive := fun history key entry =>
    Fresh history → Coherent history key entry) ?_ ?_ ?_ history key entry stored fresh
  · exact fun history event key entry coherent fresh =>
      (coherent (earlier fresh)).extend event
  · intro history event key initial created fresh
    have here : event ∈ history ++ [event] := List.mem_append_right _ List.mem_cons_self
    rw [fresh event here key initial created]
    refine ⟨⟨event, here, ?_⟩, .inl ⟨rfl, rfl, rfl⟩⟩
    rw [RegisteredBy, created]
    rfl
  · intro history event key op answer entry visits coherent fresh
    rw [op.run_code]
    exact (coherent (earlier fresh)).visit visits

/-- A scrape reads an entry as the collector of single steps has it at that point of a
history, and everything it reads was put there as a whole, by methods that had begun
by then. -/
structure Collector.ShowsAt
    (collector : Collector)
    (past : List CollectorEvent)
    (shown : CollectorEvent)
    (caller : Nat)
    (read : Read) : Prop where
  own : shown.call = caller
  visits : shown.deed = .visit read.1 .read (.read read.2)
  whole : ((collector.performAll past).entries.get? read.1).map CachedMetric.exposed =
    some read.2
  begun : ∀ event ∈ past, event.since ≤ shown.time
  coherent : Coherent past read.1 read.2

/-- Somewhere in a history a scrape reads an entry as a whole. -/
def Collector.Shows
    (collector : Collector)
    (history : List CollectorEvent)
    (caller : Nat)
    (read : Read) : Prop :=
  ∃ past shown later, history = past ++ shown :: later ∧
    collector.ShowsAt past shown caller read

/-- What a history tells of a visit of a scrape. -/
theorem showsAt_of_legal
    {system : CollectorThreads}
    {past later : List CollectorEvent}
    {shown : CollectorEvent}
    {key : String}
    {answer : EntryAnswer}
    (reached : system.Reached)
    (perm : (past ++ shown :: later).Perm system.trace)
    (inOrder : (past ++ shown :: later).Pairwise fun earlier later => ¬later.time < earlier.since)
    (legal : Legal EntryOp.code Dict.empty (past ++ shown :: later))
    (visits : shown.deed = .visit key .read answer)
    (metricPrefix : String) :
    ∃ entry, answer = .read entry ∧
      (Collector.create metricPrefix).ShowsAt past shown shown.call (key, entry) := by
  obtain ⟨legalPast, fits, _⟩ := legal_append.mp legal
  rw [visits] at fits
  obtain ⟨entry, stored, told⟩ := fits
  rw [EntryOp.run_code] at told
  have fresh : ∀ event ∈ past, ∀ key initial, event.deed = .create key initial →
      initial = initial.registered := by
    intro event member key initial created
    have traced := perm.mem_iff.mp (List.mem_append_left _ member)
    obtain ⟨_, _, _, ⟨method, rfl⟩, done, permits⟩ :=
      System.exists_call_of_mem_trace reached traced
    exact fresh_of_permits permits (created ▸ done)
  have performed : ((Collector.create metricPrefix).performAll past).entries =
      replay EntryOp.code Dict.empty past := (Collector.sequential_of_legal legalPast fresh).2
  refine ⟨entry.exposed, told.symm, rfl, ?_, ?_, ?_, ?_⟩
  · rw [visits, ← told]
    rfl
  · rw [performed, stored]
    rfl
  · intro event member
    have ordered := (List.pairwise_append.mp inOrder).2.2 event member shown List.mem_cons_self
    exact Nat.not_lt.mp ordered
  · exact (coherent_of_replay fresh stored).keep rfl rfl rfl rfl rfl rfl rfl

/-- Answers that are all reads. -/
theorem exists_reads
    {property : Read → Prop}
    {answers : List (String × EntryAnswer)}
    (shows : ∀ answer ∈ answers, ∃ entry, answer.2 = .read entry ∧ property (answer.1, entry)) :
    ∃ reads : List Read, answers = (reads.map fun read => (read.1, .read read.2)) ∧
      ∀ read ∈ reads, property read := by
  induction answers with
  | nil => exact ⟨[], rfl, by simp⟩
  | cons answer rest inductionHypothesis =>
      obtain ⟨entry, isRead, holds⟩ := shows answer List.mem_cons_self
      obtain ⟨reads, rfl, hold⟩ := inductionHypothesis fun other member =>
        shows other (List.mem_cons_of_mem answer member)
      refine ⟨(answer.1, entry) :: reads, ?_, ?_⟩
      · rw [List.map_cons, ← isRead]
      · intro read member
        obtain rfl | later := List.mem_cons.mp member
        · exact holds
        · exact hold read later

/-- Whatever the threads do during a scrape, the scrape shows every entry as a whole.
In one order of all that the threads have done, in keeping with the time, every entry
is shown as the collector of single steps has it where the scrape visits it: its name,
help, labels and validity are those of one registration, and its rows, their time and
their duration those of one update, and both had begun by then. -/
theorem scrape_of_reached
    {system : CollectorThreads}
    {caller : Nat}
    {progress : Progress String CachedMetric EntryOp EntryAnswer}
    (reached : system.Reached)
    (here : system.calls[caller]? = some (CollectorCall.collect.locked, some progress))
    (finished : progress.todo = [])
    (metricPrefix : String) :
    ∃ history : List CollectorEvent, history.Perm system.trace ∧
      (history.Pairwise fun earlier later => ¬later.time < earlier.since) ∧
      (Collector.create metricPrefix).Sequential history ∧
      ∃ reads : List Read,
        progress.deeds = .list (reads.map Prod.fst) ::
          (reads.map fun read => .visit read.1 .read (.read read.2)) ∧
        ∀ read ∈ reads, (Collector.create metricPrefix).Shows history caller read := by
  have nonempty : Nonempty CachedMetric :=
    ⟨{ name := "", help := "", labels := Dict.empty }⟩
  obtain ⟨history, content, keyOf, explains, _⟩ := System.explained_of_reaches reached
  obtain ⟨sequential, _⟩ := sequential_of_explained reached explains.perm explains.legal metricPrefix
  obtain ⟨done, permits⟩ := (System.recorded_of_reaches reached).deeds caller _ _ here
  obtain ⟨_, answers, deeds⟩ := permits
  rw [finished, List.map_nil, List.append_nil] at deeds
  -- every visit finds an entry, and it shows the entry
  have shows : ∀ answer ∈ answers, ∃ entry : CachedMetric, answer.2 = .read entry ∧
      (Collector.create metricPrefix).Shows history caller (answer.1, entry) := by
    intro answer member
    have visits : .visit answer.1 .read answer.2 ∈ deedsOf system.trace caller := by
      rw [done, deeds]
      exact List.mem_cons_of_mem _ (List.mem_map_of_mem member)
    obtain ⟨shown, traced, isShown⟩ := List.mem_filterMap.mp visits
    split at isShown
    · next own =>
        subst own
        obtain ⟨past, later, split⟩ :=
          List.append_of_mem (explains.perm.mem_iff.mpr traced)
        obtain ⟨entry, told, shows⟩ := showsAt_of_legal reached (split ▸ explains.perm)
          (split ▸ explains.inOrder) (split ▸ explains.legal) (Option.some.inj isShown)
          metricPrefix
        exact ⟨entry, told, past, shown, later, split, shows⟩
    · cases isShown
  obtain ⟨reads, rfl, hold⟩ := exists_reads shows
  refine ⟨history, explains.perm, explains.inOrder, sequential, reads, ?_, hold⟩
  simpa [Function.comp_def] using deeds

theorem scrape_after_lateVisits :
    ∃ system : CollectorThreads, system.table.keys = [] ∧
      ∃ progress, system.calls[2]? = some (CollectorCall.collect.locked, some progress) ∧
        ∃ history : List CollectorEvent, history.Perm system.trace ∧
          ∃ reads : List Read,
            progress.deeds = .list (reads.map Prod.fst) ::
              (reads.map fun read => .visit read.1 .read (.read read.2)) ∧
            ∀ read ∈ reads, (Collector.create "clickhouse").Shows history 2 read := by
  obtain ⟨system, reached, _, erased, progress, here, finished⟩ := exists_lateVisits
  obtain ⟨history, perm, _, _, shows⟩ := scrape_of_reached reached here finished "clickhouse"
  exact ⟨system, erased, progress, here, history, perm, shows⟩

end Promch
