import Mathlib.Data.List.Basic
import Promch.Library.Dict

/-!
# Tables under two levels of locks

A table maps keys to objects.  One lock protects the table, and every object has a
lock of its own.  A call looks at the table once, under the lock of the table, and
then visits the objects that it found there, one after the other, each under its
own lock and in small steps with which the steps of other calls interleave.
Between the look and the visit the object may have left the table.
-/

namespace LockedTable

variable {κ τ ο ν : Type}

/-- What is done with an object under its lock: it is written step by step, and
what comes next may depend on what was read. -/
inductive Section (τ ν : Type)
  | done (answer : ν)
  | step (write : τ → τ) (next : τ → Section τ ν)

/-- A whole section at once. -/
def Section.run : Section τ ν → τ → τ × ν
  | .done answer, value => (value, answer)
  | .step write next, value => (next value).run (write value)

/-- A call on a table. -/
inductive Call (κ τ ο : Type)
  /-- Visit the object of a key. -/
  | visit (key : κ) (op : ο)
  /-- Visit the object of a key, or put one there. -/
  | ensure (key : κ) (initial : τ) (op : ο)
  | erase (key : κ)
  /-- Visit every object. -/
  | scan (op : ο)

/-- What a call does with the table or with an object. -/
inductive Deed (κ τ ο ν : Type)
  | visit (key : κ) (op : ο) (answer : ν)
  /-- The key is not in the table. -/
  | miss (key : κ)
  | create (key : κ) (initial : τ)
  /-- The object, if there is one, leaves the table. -/
  | erase (key : κ) (object : Option Nat)
  | list (keys : List κ)

/-- A deed of a call with its time: the deed happened somewhere between. -/
structure Event (κ τ ο ν : Type) where
  call : Nat
  since : Nat
  time : Nat
  deed : Deed κ τ ο ν

/-- A visit to come. -/
structure Errand (κ ο : Type) where
  key : κ
  object : Nat
  op : ο

/-- How far a call has come that has looked at the table. -/
structure Progress (κ τ ο ν : Type) where
  /-- The time of the look. -/
  since : Nat
  todo : List (Errand κ ο)
  /-- What is left of the visit that is under way. -/
  visiting : Option (Section τ ν) := none
  deeds : List (Deed κ τ ο ν) := []

/-- An object, and the call that holds its lock. -/
structure Cell (τ : Type) where
  value : τ
  holder : Option Nat := none

/-- A table with the calls that work on it.  The time is the length of the trace. -/
structure System (κ τ ο ν : Type) where
  table : Dict κ Nat := Dict.empty
  cells : List (Cell τ) := []
  calls : List (Call κ τ ο × Option (Progress κ τ ο ν)) := []
  trace : List (Event κ τ ο ν) := []

/-- What happens next. -/
inductive Action (κ τ ο : Type)
  | call (call : Call κ τ ο)
  /-- A call looks at the table. -/
  | look (caller : Nat)
  /-- A call takes the lock of the next object. -/
  | enter (caller : Nat)
  | move (caller : Nat)
  /-- A call releases the lock of an object. -/
  | leave (caller : Nat)

variable [DecidableEq κ]

namespace System

variable (code : ο → Section τ ν) (system : System κ τ ο ν)

/-- The time. -/
def now : Nat :=
  system.trace.length

/-- The state of a call. -/
def progress? (caller : Nat) : Option (Call κ τ ο × Progress κ τ ο ν) :=
  match system.calls[caller]? with
  | some (call, some progress) => some (call, progress)
  | _ => none

/-- Replace the progress of a call. -/
def proceed (caller : Nat) (call : Call κ τ ο) (progress : Progress κ τ ο ν) :
    System κ τ ο ν :=
  { system with calls := system.calls.set caller (call, some progress) }

/-- Record a deed. -/
def record (caller since : Nat) (deed : Deed κ τ ο ν) : System κ τ ο ν :=
  { system with trace := system.trace ++ [⟨caller, since, system.now, deed⟩] }

/-- A look at the table that changes nothing and finds work. -/
def find (caller : Nat) (call : Call κ τ ο) (todo : List (Errand κ ο)) : System κ τ ο ν :=
  system.proceed caller call { since := system.now, todo := todo }

/-- A look at the table that is a deed. -/
def act (caller : Nat) (call : Call κ τ ο) (deed : Deed κ τ ο ν) (todo : List (Errand κ ο)) :
    System κ τ ο ν :=
  (system.record caller system.now deed).proceed caller call
    { since := system.now, todo := todo, deeds := [deed] }

/-- Put a new object into the table. -/
def put (key : κ) (initial : τ) : System κ τ ο ν :=
  { system with
    table := system.table.set key system.cells.length
    cells := system.cells ++ [{ value := initial }] }

/-- The object of a key leaves the table. -/
def remove (key : κ) : System κ τ ο ν :=
  { system with table := system.table.erase key }

/-- A call looks at the table. -/
def look (caller : Nat) (call : Call κ τ ο) : System κ τ ο ν :=
  match call with
  | .visit key op =>
      match system.table.get? key with
      | none => system.act caller call (.miss key) []
      | some object => system.find caller call [⟨key, object, op⟩]
  | .ensure key initial op =>
      match system.table.get? key with
      | none =>
          (system.put key initial).act caller call (.create key initial) []
      | some object => system.find caller call [⟨key, object, op⟩]
  | .erase key =>
      (system.remove key).act caller call (.erase key (system.table.get? key)) []
  | .scan op =>
      system.act caller call (.list system.table.keys)
        (system.table.entries.map fun entry => ⟨entry.1, entry.2, op⟩)

/-- Replace an object. -/
def setCell (object : Nat) (cell : Cell τ) : System κ τ ο ν :=
  { system with cells := system.cells.set object cell }

/-- The system after an action, if that is possible. -/
def step : Action κ τ ο → Option (System κ τ ο ν)
  | .call call => some { system with calls := system.calls ++ [(call, none)] }
  | .look caller =>
      match system.calls[caller]? with
      | some (call, none) => some (system.look caller call)
      | _ => none
  | .enter caller => do
      let (call, progress) ← system.progress? caller
      let errand ← progress.todo.head?
      let cell ← system.cells[errand.object]?
      if progress.visiting.isNone ∧ cell.holder = none then
        some ((system.setCell errand.object { cell with holder := some caller }).proceed caller
          call { progress with visiting := some (code errand.op) })
      else none
  | .move caller => do
      let (call, progress) ← system.progress? caller
      let errand ← progress.todo.head?
      let cell ← system.cells[errand.object]?
      match progress.visiting with
      | some (.step write next) =>
          some ((system.setCell errand.object { cell with value := write cell.value }).proceed
            caller call { progress with visiting := some (next cell.value) })
      | _ => none
  | .leave caller => do
      let (call, progress) ← system.progress? caller
      let errand ← progress.todo.head?
      let cell ← system.cells[errand.object]?
      match progress.visiting with
      | some (.done answer) =>
          let deed := Deed.visit errand.key errand.op answer
          some (((system.setCell errand.object { cell with holder := none }).record caller
            progress.since deed).proceed caller call
              { progress with
                todo := progress.todo.tail
                visiting := none
                deeds := progress.deeds ++ [deed] })
      | _ => none

/-- An empty table reaches the system, by calls that are offered. -/
inductive Reaches (code : ο → Section τ ν) (offers : Call κ τ ο → Prop) :
    System κ τ ο ν → Prop
  | start : Reaches code offers {}
  | step {before after : System κ τ ο ν} {action : Action κ τ ο}
      (reaches : Reaches code offers before)
      (offered : ∀ call, action = .call call → offers call)
      (stepped : before.step code action = some after) :
      Reaches code offers after

/-- The system after a list of actions. -/
def run (system : System κ τ ο ν) : List (Action κ τ ο) → Option (System κ τ ο ν)
  | [] => some system
  | action :: rest => (system.step code action).bind fun next => next.run rest

variable {code}

/-- What a run of offered calls computes is reached. -/
theorem Reaches.of_run
    {offers : Call κ τ ο → Prop}
    {system final : System κ τ ο ν}
    {actions : List (Action κ τ ο)}
    (reaches : Reaches code offers system)
    (offered : ∀ call, .call call ∈ actions → offers call)
    (ran : system.run code actions = some final) :
    Reaches code offers final := by
  induction actions generalizing system with
  | nil =>
      obtain rfl := Option.some.inj ran
      exact reaches
  | cons action rest inductionHypothesis =>
      obtain ⟨next, stepped, ran⟩ := Option.bind_eq_some_iff.mp ran
      refine inductionHypothesis (reaches.step ?_ stepped) ?_ ran
      · rintro call rfl
        exact offered call List.mem_cons_self
      · exact fun call member => offered call (List.mem_cons_of_mem _ member)

end System

variable {code : ο → Section τ ν}

omit [DecidableEq κ] in
/-- After one call has gone on, a call is this one or as before. -/
theorem calls_set_cases
    {calls : List (Call κ τ ο × Option (Progress κ τ ο ν))}
    {caller other : Nat}
    {call found : Call κ τ ο}
    {progress known : Progress κ τ ο ν}
    (position : (calls.set caller (call, some progress))[other]? = some (found, some known)) :
    (other = caller ∧ found = call ∧ known = progress) ∨
      other ≠ caller ∧ calls[other]? = some (found, some known) := by
  rw [List.getElem?_set] at position
  split at position
  · next same =>
      split at position
      · cases position
        exact .inl ⟨same.symm, rfl, rfl⟩
      · cases position
  · next apart => exact .inr ⟨Ne.symm apart, position⟩

namespace System

variable {system next : System κ τ ο ν} {caller : Nat} {call : Call κ τ ο}
variable {progress : Progress κ τ ο ν}

omit [DecidableEq κ] in
theorem progress?_eq_some :
    system.progress? caller = some (call, progress) ↔
      system.calls[caller]? = some (call, some progress) := by
  unfold progress?
  split
  · next other found =>
      rw [found]
      constructor
      · rintro ⟨⟩
        rfl
      · rintro ⟨⟩
        rfl
  · next other =>
      refine iff_of_false nofun fun same => ?_
      exact other _ _ same

/-- A call takes the lock of the object of its errand. -/
theorem step_enter (stepped : system.step code (.enter caller) = some next) :
    ∃ call progress errand cell, system.calls[caller]? = some (call, some progress) ∧
      progress.todo.head? = some errand ∧ system.cells[errand.object]? = some cell ∧
      progress.visiting = none ∧ cell.holder = none ∧
      next = (system.setCell errand.object { cell with holder := some caller }).proceed caller
        call { progress with visiting := some (code errand.op) } := by
  simp only [step, Option.bind_eq_bind, Option.bind_eq_some_iff] at stepped
  obtain ⟨⟨call, progress⟩, here, errand, first, cell, found, stepped⟩ := stepped
  split at stepped
  · next possible =>
      obtain ⟨idle, free⟩ := possible
      exact ⟨call, progress, errand, cell, progress?_eq_some.mp here, first, found,
        Option.isNone_iff_eq_none.mp idle, free, (Option.some.inj stepped).symm⟩
  · cases stepped

/-- A call goes on with the object that it visits. -/
theorem step_move (stepped : system.step code (.move caller) = some next) :
    ∃ call progress errand cell write rest,
      system.calls[caller]? = some (call, some progress) ∧
      progress.todo.head? = some errand ∧ system.cells[errand.object]? = some cell ∧
      progress.visiting = some (.step write rest) ∧
      next = (system.setCell errand.object { cell with value := write cell.value }).proceed
        caller call { progress with visiting := some (rest cell.value) } := by
  simp only [step, Option.bind_eq_bind, Option.bind_eq_some_iff] at stepped
  obtain ⟨⟨call, progress⟩, here, errand, first, cell, found, stepped⟩ := stepped
  split at stepped
  · next write rest visits =>
      exact ⟨call, progress, errand, cell, write, rest, progress?_eq_some.mp here, first, found,
        visits, (Option.some.inj stepped).symm⟩
  · cases stepped

/-- A call ends a visit. -/
theorem step_leave (stepped : system.step code (.leave caller) = some next) :
    ∃ call progress errand cell answer,
      system.calls[caller]? = some (call, some progress) ∧
      progress.todo.head? = some errand ∧ system.cells[errand.object]? = some cell ∧
      progress.visiting = some (.done answer) ∧
      next = ((system.setCell errand.object { cell with holder := none }).record caller
        progress.since (.visit errand.key errand.op answer)).proceed caller call
          { progress with
            todo := progress.todo.tail
            visiting := none
            deeds := progress.deeds ++ [.visit errand.key errand.op answer] } := by
  simp only [step, Option.bind_eq_bind, Option.bind_eq_some_iff] at stepped
  obtain ⟨⟨call, progress⟩, here, errand, first, cell, found, stepped⟩ := stepped
  split at stepped
  · next answer visits =>
      exact ⟨call, progress, errand, cell, answer, progress?_eq_some.mp here, first, found,
        visits, (Option.some.inj stepped).symm⟩
  · cases stepped

end System

/-! ## What a call does -/

/-- The deeds of a call in a trace. -/
def deedsOf (trace : List (Event κ τ ο ν)) (caller : Nat) : List (Deed κ τ ο ν) :=
  trace.filterMap fun event => if event.call = caller then some event.deed else none

/-- What a call has done, and what it has yet to do. -/
def Call.Permits : Call κ τ ο → Progress κ τ ο ν → Prop
  | .visit key op, progress =>
      (progress.deeds = [] ∧ ∃ object, progress.todo = [⟨key, object, op⟩]) ∨
        progress.todo = [] ∧
          (progress.deeds = [.miss key] ∨ ∃ answer, progress.deeds = [.visit key op answer])
  | .ensure key initial op, progress =>
      (progress.deeds = [] ∧ ∃ object, progress.todo = [⟨key, object, op⟩]) ∨
        progress.todo = [] ∧
          (progress.deeds = [.create key initial] ∨
            ∃ answer, progress.deeds = [.visit key op answer])
  | .erase key, progress =>
      progress.todo = [] ∧ ∃ object, progress.deeds = [.erase key object]
  | .scan op, progress =>
      (∀ errand ∈ progress.todo, errand.op = op) ∧
        ∃ answers : List (κ × ν),
          progress.deeds = .list (answers.map Prod.fst ++ progress.todo.map Errand.key) ::
            answers.map fun answer => .visit answer.1 op answer.2

omit [DecidableEq κ] in
/-- A call ends a visit. -/
theorem Call.Permits.leave
    {call : Call κ τ ο}
    {progress : Progress κ τ ο ν}
    {errand : Errand κ ο}
    (permits : call.Permits progress)
    (first : progress.todo.head? = some errand)
    (answer : ν) :
    call.Permits { progress with
      todo := progress.todo.tail
      visiting := none
      deeds := progress.deeds ++ [.visit errand.key errand.op answer] } := by
  obtain ⟨rest, todo⟩ := List.head?_eq_some_iff.mp first
  cases call with
  | visit key op | ensure key initial op =>
      obtain ⟨deeds, object, only⟩ | ⟨nothing, _⟩ := permits
      · obtain ⟨rfl, rfl⟩ := List.cons.inj (todo.symm.trans only)
        simp [Permits, deeds, only]
      · rw [nothing] at todo
        cases todo
  | erase key =>
      rw [permits.1] at todo
      cases todo
  | scan op =>
      obtain ⟨same, answers, deeds⟩ := permits
      rw [todo] at same deeds
      refine ⟨?_, answers ++ [(errand.key, answer)], ?_⟩
      · simp only [todo, List.tail_cons]
        exact fun other member => same other (List.mem_cons_of_mem _ member)
      · simp [deeds, todo, same errand List.mem_cons_self]

omit [DecidableEq κ] in
theorem deedsOf_append
    (trace : List (Event κ τ ο ν))
    (event : Event κ τ ο ν)
    (caller : Nat) :
    deedsOf (trace ++ [event]) caller =
      deedsOf trace caller ++ if event.call = caller then [event.deed] else [] := by
  rw [deedsOf, List.filterMap_append]
  congr 1
  by_cases own : event.call = caller
  · simp [own]
  · simp [own]

namespace System

variable {system next : System κ τ ο ν} {caller : Nat} {call : Call κ τ ο}
variable {progress : Progress κ τ ο ν}

/-- The trace records what every call has done. -/
structure Recorded (system : System κ τ ο ν) : Prop where
  deeds : ∀ (caller : Nat) call progress, system.calls[caller]? = some (call, some progress) →
    deedsOf system.trace caller = progress.deeds ∧ call.Permits progress
  quiet : ∀ caller, (∀ call progress, system.calls[caller]? ≠ some (call, some progress)) →
    deedsOf system.trace caller = []

omit [DecidableEq κ] in
/-- A call goes on and does something, or nothing. -/
theorem Recorded.proceed
    {before : System κ τ ο ν}
    (recorded : before.Recorded)
    (calls : system.calls = before.calls)
    (inside : caller < before.calls.length)
    (own : deedsOf system.trace caller = progress.deeds)
    (others : ∀ other, other ≠ caller →
      deedsOf system.trace other = deedsOf before.trace other)
    (permits : call.Permits progress) :
    (system.proceed caller call progress).Recorded := by
  constructor
  · intro other found known position
    obtain ⟨rfl, rfl, rfl⟩ | ⟨apart, older⟩ := calls_set_cases position
    · exact ⟨own, permits⟩
    · rw [calls] at older
      obtain ⟨deeds, permits⟩ := recorded.deeds other found known older
      exact ⟨(others other apart).trans deeds, permits⟩
  · intro other absent
    have here : (system.proceed caller call progress).calls[caller]? =
        some (call, some progress) :=
      List.getElem?_set_self (calls ▸ inside)
    have apart : other ≠ caller := by
      rintro rfl
      exact absent call progress here
    refine (others other apart).trans (recorded.quiet other fun found known position => ?_)
    refine absent found known ((List.getElem?_set_ne (Ne.symm apart)).trans ?_)
    rw [calls]
    exact position

/-- A look at the table is recorded if it is a deed. -/
theorem Recorded.look
    (recorded : system.Recorded)
    (here : system.calls[caller]? = some (call, none)) :
    (system.look caller call).Recorded := by
  have inside := (List.getElem?_eq_some_iff.mp here).1
  have quiet : deedsOf system.trace caller = [] := recorded.quiet caller fun found known position =>
    by cases here.symm.trans position
  have acts : ∀ (before : System κ τ ο ν) deed todo, before.calls = system.calls →
      before.trace = system.trace →
        call.Permits { since := before.now, todo := todo, deeds := [deed] } →
          (before.act caller call deed todo).Recorded := by
    intro before deed todo calls trace permits
    have traced : (before.record caller before.now deed).trace =
        system.trace ++ [⟨caller, before.now, before.now, deed⟩] := by
      rw [← trace]
      rfl
    refine recorded.proceed calls inside ?_ ?_ permits
    · rw [traced, deedsOf_append, quiet, if_pos rfl, List.nil_append]
    · intro other apart
      rw [traced, deedsOf_append, if_neg (Ne.symm apart), List.append_nil]
  have finds : ∀ todo, call.Permits { since := system.now, todo := todo } →
      (system.find caller call todo).Recorded := fun todo permits =>
    recorded.proceed rfl inside quiet (fun _ _ => rfl) permits
  cases call with
  | visit key op =>
      simp only [System.look]
      cases system.table.get? key with
      | none => exact acts system _ _ rfl rfl (.inr ⟨rfl, .inl rfl⟩)
      | some object => exact finds _ (.inl ⟨rfl, object, rfl⟩)
  | ensure key initial op =>
      simp only [System.look]
      cases system.table.get? key with
      | none => exact acts (system.put key initial) _ _ rfl rfl (.inr ⟨rfl, .inl rfl⟩)
      | some object => exact finds _ (.inl ⟨rfl, object, rfl⟩)
  | erase key => exact acts (system.remove key) _ _ rfl rfl ⟨rfl, _, rfl⟩
  | scan op =>
      refine acts system _ _ rfl rfl ⟨?_, [], ?_⟩
      · intro errand member
        obtain ⟨entry, _, rfl⟩ := List.mem_map.mp member
        rfl
      · simp [Dict.keys, Function.comp_def]

/-- Every step is recorded. -/
theorem Recorded.step
    {action : Action κ τ ο}
    (recorded : system.Recorded)
    (stepped : system.step code action = some next) :
    next.Recorded := by
  cases action with
  | call call =>
      obtain rfl := Option.some.inj stepped
      have older : ∀ {caller : Nat} {found : Call κ τ ο} {progress : Progress κ τ ο ν},
          (system.calls ++ [(call, none)])[caller]? = some (found, some progress) →
            system.calls[caller]? = some (found, some progress) := by
        intro caller found progress here
        rw [List.getElem?_append] at here
        split at here
        · exact here
        · simp [List.getElem?_singleton] at here
      constructor
      · exact fun caller found progress here => recorded.deeds caller found progress (older here)
      · refine fun caller absent => recorded.quiet caller fun found progress here => ?_
        have inside := (List.getElem?_eq_some_iff.mp here).1
        exact absent found progress ((List.getElem?_append_left inside).trans here)
  | look caller =>
      simp only [System.step] at stepped
      split at stepped
      · next call here =>
          obtain rfl := Option.some.inj stepped
          exact recorded.look here
      · cases stepped
  | enter caller =>
      obtain ⟨call, progress, errand, cell, here, _, _, _, _, rfl⟩ := step_enter stepped
      obtain ⟨own, permits⟩ := recorded.deeds caller call progress here
      have inside := (List.getElem?_eq_some_iff.mp here).1
      refine recorded.proceed rfl inside own (fun _ _ => rfl) ?_
      cases call <;> exact permits
  | move caller =>
      obtain ⟨call, progress, errand, cell, _, _, here, _, _, _, rfl⟩ := step_move stepped
      obtain ⟨own, permits⟩ := recorded.deeds caller call progress here
      have inside := (List.getElem?_eq_some_iff.mp here).1
      refine recorded.proceed rfl inside own (fun _ _ => rfl) ?_
      cases call <;> exact permits
  | leave caller =>
      obtain ⟨call, progress, errand, cell, answer, here, first, _, _, rfl⟩ := step_leave stepped
      obtain ⟨own, permits⟩ := recorded.deeds caller call progress here
      have inside := (List.getElem?_eq_some_iff.mp here).1
      have traced : ((system.setCell errand.object { cell with holder := none }).record caller
          progress.since (.visit errand.key errand.op answer)).trace =
            system.trace ++ [⟨caller, progress.since, system.now,
              .visit errand.key errand.op answer⟩] := rfl
      refine recorded.proceed rfl inside ?_ ?_ (permits.leave first answer)
      · rw [traced, deedsOf_append, own, if_pos rfl]
      · intro other apart
        rw [traced, deedsOf_append, if_neg (Ne.symm apart), List.append_nil]

variable {offers : Call κ τ ο → Prop}

/-- In every run the trace records what every call has done. -/
theorem recorded_of_reaches (reaches : Reaches code offers system) : system.Recorded := by
  induction reaches with
  | start => exact ⟨nofun, fun _ _ => rfl⟩
  | step _ _ stepped inductionHypothesis => exact inductionHypothesis.step stepped

/-- Only calls that are offered are made. -/
theorem offered_step
    {action : Action κ τ ο}
    (before : ∀ entry ∈ system.calls, offers entry.1)
    (offered : ∀ call, action = .call call → offers call)
    (stepped : system.step code action = some next) :
    ∀ entry ∈ next.calls, offers entry.1 := by
  have proceeds : ∀ {caller call progress later},
      system.calls[caller]? = some (call, progress) →
        ∀ entry ∈ system.calls.set caller (call, later), offers entry.1 := by
    intro caller call progress later here entry member
    obtain old | rfl := List.mem_or_eq_of_mem_set member
    · exact before entry old
    · exact before (call, progress) (List.mem_of_getElem? here)
  cases action with
  | call call =>
      obtain rfl := Option.some.inj stepped
      intro entry member
      obtain old | new := List.mem_append.mp member
      · exact before entry old
      · obtain rfl := List.mem_singleton.mp new
        exact offered call rfl
  | look caller =>
      simp only [System.step] at stepped
      split at stepped
      · next call here =>
          obtain rfl := Option.some.inj stepped
          cases call with
          | visit key op | ensure key initial op =>
              simp only [System.look]
              split <;> exact proceeds here
          | erase key | scan op => exact proceeds here
      · cases stepped
  | enter caller =>
      obtain ⟨call, progress, errand, cell, here, _, _, _, _, rfl⟩ := step_enter stepped
      exact proceeds here
  | move caller =>
      obtain ⟨call, progress, errand, cell, _, _, here, _, _, _, rfl⟩ := step_move stepped
      exact proceeds here
  | leave caller =>
      obtain ⟨call, progress, errand, cell, _, here, _, _, _, rfl⟩ := step_leave stepped
      exact proceeds here

theorem offered_of_reaches (reaches : Reaches code offers system) :
    ∀ entry ∈ system.calls, offers entry.1 := by
  induction reaches with
  | start => nofun
  | step _ offered stepped inductionHypothesis =>
      exact offered_step inductionHypothesis offered stepped

/-- Every deed of a trace was done by a call that was offered. -/
theorem exists_call_of_mem_trace
    {event : Event κ τ ο ν}
    (reaches : Reaches code offers system)
    (member : event ∈ system.trace) :
    ∃ call progress, system.calls[event.call]? = some (call, some progress) ∧
      offers call ∧ event.deed ∈ progress.deeds ∧ call.Permits progress := by
  have recorded := recorded_of_reaches reaches
  have done : event.deed ∈ deedsOf system.trace event.call :=
    List.mem_filterMap.mpr ⟨event, member, if_pos rfl⟩
  by_cases known : ∃ call progress, system.calls[event.call]? = some (call, some progress)
  · obtain ⟨call, progress, here⟩ := known
    obtain ⟨own, permits⟩ := recorded.deeds event.call call progress here
    exact ⟨call, progress, here, offered_of_reaches reaches _ (List.mem_of_getElem? here),
      own ▸ done, permits⟩
  · rw [recorded.quiet event.call fun call progress here => known ⟨call, progress, here⟩] at done
    cases done

end System

end LockedTable
