import Mathlib.Logic.Function.Basic
import Mathlib.Order.Nat
import Mathlib.Tactic.Tauto
import Promch.Library.LockedTable

/-!
# Histories of tables under locks

Every run of calls on a table is explained by a history: an order of their deeds, in
keeping with the time, in which every deed happens at once and finds its object in
the table.  A deed is put at the end of the history when it happens, with one
exception: a visit to an object that has left the table in the meantime happens just
before the object left it.
-/

namespace LockedTable

variable {κ τ ο ν : Type} [DecidableEq κ]

/-! ## Histories -/

namespace Deed

variable (code : ο → Section τ ν)

/-- The deed is possible at once. -/
def Fits (dict : Dict κ τ) : Deed κ τ ο ν → Prop
  | .visit key op answer =>
      ∃ value, dict.get? key = some value ∧ ((code op).run value).2 = answer
  | .miss key => dict.get? key = none
  | .create key _ => dict.get? key = none
  | .erase _ _ => True
  | .list keys => dict.keys = keys

/-- What the deed makes of the table, at once. -/
def apply (dict : Dict κ τ) : Deed κ τ ο ν → Dict κ τ
  | .visit key op _ => dict.modify key fun value => ((code op).run value).1
  | .miss _ => dict
  | .create key initial => dict.set key initial
  | .erase key _ => dict.erase key
  | .list _ => dict

end Deed

/-- The deeds of a history are possible at once, one after the other. -/
def Legal (code : ο → Section τ ν) : Dict κ τ → List (Event κ τ ο ν) → Prop
  | _, [] => True
  | dict, event :: rest => event.deed.Fits code dict ∧ Legal code (event.deed.apply code dict) rest

/-- The table after a history. -/
def replay (code : ο → Section τ ν) (dict : Dict κ τ) (history : List (Event κ τ ο ν)) :
    Dict κ τ :=
  history.foldl (fun dict event => event.deed.apply code dict) dict

variable {code : ο → Section τ ν}

theorem legal_append
    {dict : Dict κ τ}
    {first second : List (Event κ τ ο ν)} :
    Legal code dict (first ++ second) ↔
      Legal code dict first ∧ Legal code (replay code dict first) second := by
  induction first generalizing dict with
  | nil => simp [Legal, replay]
  | cons event rest inductionHypothesis =>
      simp only [List.cons_append, Legal, inductionHypothesis, and_assoc]
      rfl

theorem replay_cons
    (dict : Dict κ τ)
    (event : Event κ τ ο ν)
    (rest : List (Event κ τ ο ν)) :
    replay code dict (event :: rest) = replay code (event.deed.apply code dict) rest := rfl

theorem replay_append
    (dict : Dict κ τ)
    (first second : List (Event κ τ ο ν)) :
    replay code dict (first ++ second) = replay code (replay code dict first) second :=
  List.foldl_append

/-- What holds of every object that a history creates, and is kept by every visit,
holds of the objects in the table. -/
theorem forall_replay
    {motive : List (Event κ τ ο ν) → κ → τ → Prop}
    (extended : ∀ history event key value, motive history key value →
      motive (history ++ [event]) key value)
    (created : ∀ history event key initial, event.deed = .create key initial →
      motive (history ++ [event]) key initial)
    (visited : ∀ history event key op answer value, event.deed = .visit key op answer →
      motive history key value → motive (history ++ [event]) key ((code op).run value).1)
    (history : List (Event κ τ ο ν))
    (key : κ)
    (value : τ)
    (stored : (replay code Dict.empty history).get? key = some value) :
    motive history key value := by
  induction history using List.reverseRecOn generalizing key value with
  | nil => cases stored
  | append_singleton history event inductionHypothesis =>
      rw [replay_append, replay_cons] at stored
      change (event.deed.apply code (replay code Dict.empty history)).get? key = _ at stored
      cases deed : event.deed with
      | visit other op answer =>
          rw [deed, Deed.apply, Dict.get?_modify] at stored
          split at stored
          · next same =>
              subst same
              obtain ⟨before, found, rfl⟩ := Option.map_eq_some_iff.mp stored
              exact visited history event key op answer before deed
                (inductionHypothesis key before found)
          · exact extended history event key value (inductionHypothesis key value stored)
      | create other initial =>
          rw [deed, Deed.apply, Dict.get?_set] at stored
          split at stored
          · next same =>
              subst same
              obtain rfl := Option.some.inj stored
              exact created history event key initial deed
          · exact extended history event key value (inductionHypothesis key value stored)
      | erase other object =>
          rw [deed, Deed.apply, Dict.get?_erase] at stored
          split at stored
          · cases stored
          · exact extended history event key value (inductionHypothesis key value stored)
      | miss other | list keys =>
          rw [deed] at stored
          exact extended history event key value (inductionHypothesis key value stored)

/-- A history explains a trace: it has the same events, in keeping with the time,
and leads to the table, whose objects have the given content.  Errands say which
objects calls have found and when. -/
structure Explains
    (code : ο → Section τ ν)
    (table : Dict κ Nat)
    (count : Nat)
    (seeks : Nat → Errand κ ο → Prop)
    (trace history : List (Event κ τ ο ν))
    (content : Nat → τ)
    (keyOf : Nat → κ) : Prop where
  perm : history.Perm trace
  timely : ∀ event ∈ history, event.since ≤ event.time ∧ event.time < trace.length
  inOrder : history.Pairwise fun earlier later => ¬later.time < earlier.since
  legal : Legal code Dict.empty history
  result : replay code Dict.empty history = table.mapValues content
  /-- Every object of the table is there under its own key. -/
  keyed : ∀ key object, table.get? key = some object → object < count ∧ keyOf object = key
  /-- An object that is not in the table left it at some time, with the content that
  it has now, up to visits by calls that had found it before. -/
  gone : ∀ object < count, table.get? (keyOf object) ≠ some object →
    ∃ before event after, history = before ++ event :: after ∧
      event.deed = .erase (keyOf object) (some object) ∧
      (replay code Dict.empty before).get? (keyOf object) = some (content object) ∧
      (∀ later ∈ after, event.time ≤ later.time) ∧
      ∀ since errand, seeks since errand → errand.object = object → since ≤ event.time
  errands : ∀ since errand, seeks since errand →
    since ≤ trace.length ∧ errand.object < count ∧ keyOf errand.object = errand.key

namespace Explains

variable {table later : Dict κ Nat} {count next : Nat} {seeks seeking : Nat → Errand κ ο → Prop}
variable {trace history : List (Event κ τ ο ν)} {content changed : Nat → τ}
variable {keyOf named : Nat → κ} {event : Event κ τ ο ν}

/-- Calls give up errands, or find objects in the table. -/
theorem seek
    (explains : Explains code table count seeks trace history content keyOf)
    (found : ∀ since errand, seeking since errand →
      seeks since errand ∨
        since = trace.length ∧ table.get? errand.key = some errand.object) :
    Explains code table count seeking trace history content keyOf := by
  refine ⟨explains.perm, explains.timely, explains.inOrder, explains.legal, explains.result,
    explains.keyed, ?_, ?_⟩
  · intro object inside left
    obtain ⟨before, event, after, split, erased, last, times, since⟩ :=
      explains.gone object inside left
    refine ⟨before, event, after, split, erased, last, times, ?_⟩
    rintro when errand seeks rfl
    obtain old | ⟨_, present⟩ := found when errand seeks
    · exact since when errand old rfl
    · rw [← (explains.keyed _ _ present).2] at present
      exact absurd present left
  · intro when errand seeks
    obtain old | ⟨rfl, present⟩ := found when errand seeks
    · exact explains.errands when errand old
    · obtain ⟨inside, same⟩ := explains.keyed _ _ present
      exact ⟨Nat.le_refl _, inside, same⟩

/-- A deed that happens at once comes last. -/
theorem append
    (explains : Explains code table count seeks trace history content keyOf)
    (time : event.time = trace.length)
    (since : event.since ≤ trace.length)
    (fits : event.deed.Fits code (table.mapValues content))
    (result : event.deed.apply code (table.mapValues content) = later.mapValues changed)
    (grows : count ≤ next)
    (stays : ∀ object < count, named object = keyOf object)
    (keyed : ∀ key object, later.get? key = some object → object < next ∧ named object = key)
    (leaves : ∀ object < next, later.get? (named object) ≠ some object →
      object < count ∧ changed object = content object ∧
        (table.get? (keyOf object) = some object →
          event.deed = .erase (keyOf object) (some object))) :
    Explains code later next seeks (trace ++ [event]) (history ++ [event]) changed named := by
  have early : ∀ other ∈ history, other.time < event.time := fun other member =>
    (explains.timely other member).2.trans_eq time.symm
  constructor
  · exact explains.perm.append_right [event]
  · intro other member
    rw [List.length_append]
    obtain old | new := List.mem_append.mp member
    · obtain ⟨ordered, before⟩ := explains.timely other old
      exact ⟨ordered, Nat.lt_succ_of_lt before⟩
    · obtain rfl := List.mem_singleton.mp new
      exact ⟨since.trans_eq time.symm, time.trans_lt (Nat.lt_succ_self _)⟩
  · refine List.pairwise_append.mpr ⟨explains.inOrder, List.pairwise_singleton _ _, ?_⟩
    intro other member last isLast
    obtain rfl := List.mem_singleton.mp isLast
    have ordered := (explains.timely other member).1
    exact Nat.not_lt.mpr (Nat.le_trans ordered (Nat.le_of_lt (early other member)))
  · rw [legal_append, explains.result]
    exact ⟨explains.legal, fits, trivial⟩
  · rw [replay_append, explains.result]
    exact result
  · exact keyed
  · intro object inside left
    obtain ⟨old, same, erased⟩ := leaves object inside left
    rw [same, stays object old]
    by_cases present : table.get? (keyOf object) = some object
    · refine ⟨history, event, [], rfl, erased present, ?_, by simp, ?_⟩
      · rw [explains.result, Dict.get?_mapValues, present]
        rfl
      · intro when errand seeks _
        exact (explains.errands when errand seeks).1.trans_eq time.symm
    · obtain ⟨before, erasure, after, rfl, erased, last, times, since⟩ :=
        explains.gone object old present
      refine ⟨before, erasure, after ++ [event], by simp, erased, last, ?_, since⟩
      intro other member
      obtain older | new := List.mem_append.mp member
      · exact times other older
      · obtain rfl := List.mem_singleton.mp new
        exact Nat.le_of_lt (early erasure (by simp))
  · intro when errand seeks
    obtain ⟨past, inside, same⟩ := explains.errands when errand seeks
    rw [List.length_append]
    exact ⟨Nat.le_succ_of_le past, Nat.lt_of_lt_of_le inside grows,
      (stays _ inside).trans same⟩

/-- A deed that changes nothing. -/
theorem observe
    (explains : Explains code table count seeks trace history content keyOf)
    (time : event.time = trace.length)
    (since : event.since ≤ trace.length)
    (fits : event.deed.Fits code (table.mapValues content))
    (same : event.deed.apply code (table.mapValues content) = table.mapValues content) :
    Explains code table count seeks (trace ++ [event]) (history ++ [event]) content keyOf :=
  explains.append time since fits same (Nat.le_refl _) (fun _ _ => rfl) explains.keyed
    fun _ inside left => ⟨inside, rfl, fun present => absurd present left⟩

/-- A new object is put into the table. -/
theorem create
    {key : κ}
    (explains : Explains code table count seeks trace history content keyOf)
    (absent : table.get? key = none)
    (initial : τ)
    (caller since : Nat)
    (past : since ≤ trace.length) :
    Explains code (table.set key count) (count + 1) seeks
      (trace ++ [⟨caller, since, trace.length, .create key initial⟩])
      (history ++ [⟨caller, since, trace.length, .create key initial⟩])
      (Function.update content count initial) (Function.update keyOf count key) := by
  have others : ∀ object < count, object ≠ count := fun object inside => Nat.ne_of_lt inside
  apply explains.append rfl past
  · simp [Deed.Fits, Dict.get?_mapValues, absent]
  · change (table.mapValues content).set key initial = _
    rw [Dict.mapValues_set, Function.update_self]
    congr 1
    apply Dict.mapValues_congr
    intro other object found
    rw [Function.update_of_ne (others object (explains.keyed other object found).1)]
  · exact Nat.le_succ _
  · exact fun object inside => Function.update_of_ne (others object inside) ..
  · intro other object found
    rw [Dict.get?_set] at found
    split at found
    · next same =>
        cases found
        exact ⟨Nat.lt_succ_self _, same ▸ Function.update_self ..⟩
    · obtain ⟨inside, named⟩ := explains.keyed other object found
      exact ⟨Nat.lt_succ_of_lt inside,
        (Function.update_of_ne (others object inside) ..).trans named⟩
  · intro object inside left
    obtain old | rfl := Nat.lt_succ_iff_lt_or_eq.mp inside
    · refine ⟨old, Function.update_of_ne (others object old) .., fun present => ?_⟩
      rw [Function.update_of_ne (others object old), Dict.get?_set] at left
      split at left
      · next same =>
          rw [same, absent] at present
          cases present
      · exact absurd present left
    · simp at left

/-- An object leaves the table. -/
theorem remove
    {key : κ}
    (explains : Explains code table count seeks trace history content keyOf)
    (caller since : Nat)
    (past : since ≤ trace.length) :
    Explains code (table.erase key) count seeks
      (trace ++ [⟨caller, since, trace.length, .erase key (table.get? key)⟩])
      (history ++ [⟨caller, since, trace.length, .erase key (table.get? key)⟩])
      content keyOf := by
  refine explains.append rfl past ?_ ?_ (Nat.le_refl _) (fun _ _ => rfl) ?_ ?_
  · trivial
  · exact (Dict.mapValues_erase table key content).symm
  · intro other object found
    rw [Dict.get?_erase] at found
    split at found
    · cases found
    · exact explains.keyed other object found
  · intro object inside left
    refine ⟨inside, rfl, fun present => ?_⟩
    rw [Dict.get?_erase] at left
    split at left
    · next same => simp only [same, ← present]
    · exact absurd present left

/-- An object of the table is visited. -/
theorem visit
    {key : κ}
    {op : ο}
    {object since : Nat}
    {value : τ}
    {answer : ν}
    (explains : Explains code table count seeks trace history content keyOf)
    (present : table.get? key = some object)
    (visited : (value, answer) = (code op).run (content object))
    (caller : Nat)
    (past : since ≤ trace.length) :
    Explains code table count seeks
      (trace ++ [⟨caller, since, trace.length, .visit key op answer⟩])
      (history ++ [⟨caller, since, trace.length, .visit key op answer⟩])
      (Function.update content object value) keyOf := by
  have stored : (table.mapValues content).get? key = some (content object) := by
    rw [Dict.get?_mapValues, present]
    rfl
  refine explains.append rfl past ?_ ?_ (Nat.le_refl _) (fun _ _ => rfl) explains.keyed ?_
  · exact ⟨_, stored, (congrArg Prod.snd visited).symm⟩
  · apply Dict.modify_mapValues
    · intro found same
      cases present.symm.trans same
      rw [Function.update_self]
      exact congrArg Prod.fst visited
    · intro other found apart there
      apply Function.update_of_ne
      rintro rfl
      exact apart ((explains.keyed other found there).2.symm.trans
        (explains.keyed key found present).2)
  · intro other inside left
    refine ⟨inside, Function.update_of_ne ?_ .., fun there => absurd there left⟩
    rintro rfl
    obtain ⟨_, rfl⟩ := explains.keyed key other present
    exact left present

/-- An object that has left the table is visited: the visit happens just before it
left, which nothing afterwards can notice. -/
theorem revisit
    {op : ο}
    {object since : Nat}
    {value : τ}
    {answer : ν}
    (explains : Explains code table count seeks trace history content keyOf)
    (inside : object < count)
    (left : table.get? (keyOf object) ≠ some object)
    (visited : (value, answer) = (code op).run (content object))
    (sought : seeks since ⟨keyOf object, object, op⟩)
    (caller : Nat) :
    ∃ history, Explains code table count seeks
      (trace ++ [⟨caller, since, trace.length, .visit (keyOf object) op answer⟩]) history
      (Function.update content object value) keyOf := by
  obtain ⟨before, erasure, after, rfl, erased, last, times, pasts⟩ :=
    explains.gone object inside left
  have past : since ≤ erasure.time := pasts since _ sought rfl
  have early : ∀ other ∈ before ++ erasure :: after, other.time < trace.length :=
    fun other member => (explains.timely other member).2
  generalize named : (⟨caller, since, trace.length, .visit (keyOf object) op answer⟩ :
    Event κ τ ο ν) = event
  have time : event.time = trace.length := named ▸ rfl
  have began : event.since = since := named ▸ rfl
  have fits : event.deed.Fits code (replay code Dict.empty before) := by
    rw [← named]
    exact ⟨_, last, (congrArg Prod.snd visited).symm⟩
  have applied : event.deed.apply code (replay code Dict.empty before) =
      (replay code Dict.empty before).modify (keyOf object) fun old => ((code op).run old).1 := by
    rw [← named]
    rfl
  -- what has been changed just before it is erased has not been changed
  have absorbed : ∀ rest, replay code Dict.empty (before ++ event :: erasure :: rest) =
      replay code Dict.empty (before ++ erasure :: rest) := by
    intro rest
    rw [replay_append, replay_append, replay_cons, replay_cons, replay_cons, applied, erased]
    simp only [Deed.apply, Dict.erase_modify]
  have ordered := List.pairwise_append.mp explains.inOrder
  refine ⟨before ++ event :: erasure :: after, ?_⟩
  constructor
  · refine List.perm_middle.trans (List.Perm.trans ?_ (List.perm_append_singleton _ _).symm)
    exact explains.perm.cons event
  · intro other member
    rw [List.length_append]
    obtain rfl | old : other = event ∨ other ∈ before ++ erasure :: after := by
      simp only [List.mem_append, List.mem_cons] at member ⊢
      tauto
    · rw [began, time]
      exact ⟨past.trans (Nat.le_of_lt (early erasure (by simp))), Nat.lt_succ_self _⟩
    · obtain ⟨ordered, soon⟩ := explains.timely other old
      exact ⟨ordered, Nat.lt_succ_of_lt soon⟩
  · refine List.pairwise_append.mpr ⟨ordered.1, List.pairwise_cons.mpr ⟨?_, ordered.2.1⟩, ?_⟩
    · intro other member
      rw [began]
      obtain rfl | older := List.mem_cons.mp member
      · exact Nat.not_lt.mpr past
      · exact Nat.not_lt.mpr (past.trans (times other older))
    · intro first member other follows
      obtain rfl | old := List.mem_cons.mp follows
      · rw [time]
        obtain ⟨ordered, soon⟩ := explains.timely first (List.mem_append_left _ member)
        exact Nat.not_lt.mpr (ordered.trans (Nat.le_of_lt soon))
      · exact ordered.2.2 first member other old
  · obtain ⟨legal, _, rest⟩ := legal_append.mp explains.legal
    refine legal_append.mpr ⟨legal, fits, ?_, ?_⟩
    · rw [erased]
      trivial
    · rw [applied, erased]
      rw [erased] at rest
      simp only [Deed.apply, Dict.erase_modify]
      exact rest
  · rw [absorbed, explains.result]
    apply Dict.mapValues_congr
    intro key other found
    refine (Function.update_of_ne ?_ ..).symm
    rintro rfl
    obtain ⟨_, rfl⟩ := explains.keyed key other found
    exact left found
  · exact explains.keyed
  · intro other present absent
    by_cases same : other = object
    · subst same
      refine ⟨before ++ [event], erasure, after, by simp, erased, ?_, times, pasts⟩
      rw [replay_append]
      change (event.deed.apply code (replay code Dict.empty before)).get? _ = _
      rw [applied, Dict.get?_modify, if_pos rfl, last, Function.update_self]
      exact congrArg some (congrArg Prod.fst visited).symm
    · rw [Function.update_of_ne same]
      obtain ⟨first, leaving, rest, split, goes, content, late, sinces⟩ :=
        explains.gone other present absent
      have apart : leaving ≠ erasure := by
        rintro rfl
        exact same (Option.some.inj (Deed.erase.inj (goes.symm.trans erased)).2)
      obtain ⟨middle, rfl, tail⟩ | ⟨middle, rfl, tail⟩ := List.append_eq_append_iff.mp split
      · cases middle with
        | nil => exact absurd (List.cons.inj tail).1.symm apart
        | cons head middle =>
            obtain ⟨rfl, rfl⟩ := List.cons.inj tail
            refine ⟨before ++ event :: erasure :: middle, leaving, rest, by simp, goes, ?_, late,
              sinces⟩
            rw [absorbed]
            exact content
      · cases middle with
        | nil => exact absurd (List.cons.inj tail).1 apart
        | cons head middle =>
            obtain ⟨rfl, rfl⟩ := List.cons.inj tail
            refine ⟨first, leaving, middle ++ event :: erasure :: after, by simp, goes, content,
              ?_, sinces⟩
            intro later member
            obtain rfl | old : later = event ∨ later ∈ middle ++ erasure :: after := by
              simp only [List.mem_append, List.mem_cons] at member ⊢
              tauto
            · rw [time]
              exact Nat.le_of_lt (early leaving (by simp))
            · exact late later old
  · intro when errand sought
    obtain ⟨soon, there, same⟩ := explains.errands when errand sought
    rw [List.length_append]
    exact ⟨Nat.le_succ_of_le soon, there, same⟩

end Explains

/-! ## Locks -/

/-- The locks of the objects guard their contents: a free object has its content,
and the rest of a visit leads where the whole visit would have led. -/
structure Guarded
    (code : ο → Section τ ν)
    (calls : List (Call κ τ ο × Option (Progress κ τ ο ν)))
    (cells : List (Cell τ))
    (content : Nat → τ) : Prop where
  free : ∀ (object : Nat) cell, cells[object]? = some cell → cell.holder = none →
    content object = cell.value
  held : ∀ (object : Nat) cell caller, cells[object]? = some cell → cell.holder = some caller →
    ∃ call progress errand rest, calls[caller]? = some (call, some progress) ∧
      progress.todo.head? = some errand ∧ errand.object = object ∧
      progress.visiting = some rest ∧
      rest.run cell.value = (code errand.op).run (content object)
  visiting : ∀ (caller : Nat) call progress rest, calls[caller]? = some (call, some progress) →
    progress.visiting = some rest →
      ∃ errand cell, progress.todo.head? = some errand ∧
        cells[errand.object]? = some cell ∧ cell.holder = some caller

namespace Guarded

variable {calls : List (Call κ τ ο × Option (Progress κ τ ο ν))} {cells : List (Cell τ)}
variable {content changed : Nat → τ} {caller : Nat} {call : Call κ τ ο}
variable {progress later : Progress κ τ ο ν}

omit [DecidableEq κ] in
/-- A call begins. -/
theorem begin
    (guarded : Guarded code calls cells content)
    (call : Call κ τ ο) :
    Guarded code (calls ++ [(call, none)]) cells content := by
  constructor
  · exact guarded.free
  · intro object cell holder found held
    obtain ⟨call, progress, errand, rest, here, facts⟩ := guarded.held object cell holder found held
    have inside := (List.getElem?_eq_some_iff.mp here).1
    exact ⟨call, progress, errand, rest, (List.getElem?_append_left inside).trans here, facts⟩
  · intro caller call progress rest here visits
    rw [List.getElem?_append] at here
    split at here
    · exact guarded.visiting caller call progress rest here visits
    · simp [List.getElem?_singleton] at here

omit [DecidableEq κ] in
/-- A call looks at the table. -/
theorem look
    (guarded : Guarded code calls cells content)
    (here : calls[caller]? = some (call, none))
    (idle : progress.visiting = none) :
    Guarded code (calls.set caller (call, some progress)) cells content := by
  constructor
  · exact guarded.free
  · intro object cell holder found held
    obtain ⟨found, known, errand, rest, there, facts⟩ := guarded.held object cell holder found held
    have apart : caller ≠ holder := by
      rintro rfl
      cases here.symm.trans there
    exact ⟨found, known, errand, rest, (List.getElem?_set_ne apart).trans there, facts⟩
  · intro other found known rest there visits
    obtain ⟨rfl, rfl, rfl⟩ | ⟨_, older⟩ := calls_set_cases there
    · cases idle.symm.trans visits
    · exact guarded.visiting other found known rest older visits

omit [DecidableEq κ] in
/-- A new object is free. -/
theorem put
    (guarded : Guarded code calls cells content)
    (initial : τ) :
    Guarded code calls (cells ++ [{ value := initial }])
      (Function.update content cells.length initial) := by
  have cases : ∀ {object : Nat} {cell : Cell τ},
      (cells ++ [{ value := initial }])[object]? = some cell →
        (cells[object]? = some cell ∧ object ≠ cells.length) ∨
          object = cells.length ∧ cell = { value := initial } := by
    intro object cell found
    rw [List.getElem?_append] at found
    split at found
    · next inside => exact .inl ⟨found, Nat.ne_of_lt inside⟩
    · next outside =>
        obtain ⟨last, rfl⟩ : object - cells.length = 0 ∧ { value := initial } = cell := by
          simpa [List.getElem?_singleton] using found
        exact .inr ⟨by omega, rfl⟩
  constructor
  · intro object cell found free
    obtain ⟨old, apart⟩ | ⟨rfl, rfl⟩ := cases found
    · exact (Function.update_of_ne apart ..).trans (guarded.free object cell old free)
    · exact Function.update_self ..
  · intro object cell holder found held
    obtain ⟨old, apart⟩ | ⟨rfl, rfl⟩ := cases found
    · rw [Function.update_of_ne apart]
      exact guarded.held object cell holder old held
    · cases held
  · intro caller call progress rest here visits
    obtain ⟨errand, cell, first, found, holder⟩ :=
      guarded.visiting caller call progress rest here visits
    have inside := (List.getElem?_eq_some_iff.mp found).1
    exact ⟨errand, cell, first, (List.getElem?_append_left inside).trans found, holder⟩

omit [DecidableEq κ] in
/-- A call goes on with the object of its errand, which it holds or which is free,
and holds it afterwards or releases it. -/
theorem revise
    {errand : Errand κ ο}
    {cell revised : Cell τ}
    (guarded : Guarded code calls cells content)
    (here : calls[caller]? = some (call, some progress))
    (first : progress.todo.head? = some errand)
    (found : cells[errand.object]? = some cell)
    (mine : cell.holder = if progress.visiting.isSome then some caller else none)
    (elsewhere : ∀ object, object ≠ errand.object → changed object = content object)
    (kept : ∀ rest, later.visiting = some rest →
      revised.holder = some caller ∧ later.todo.head? = some errand ∧
        rest.run revised.value = (code errand.op).run (changed errand.object))
    (released : later.visiting = none →
      revised.holder = none ∧ changed errand.object = revised.value) :
    Guarded code (calls.set caller (call, some later)) (cells.set errand.object revised)
      changed := by
  have inside := (List.getElem?_eq_some_iff.mp here).1
  have there := (List.getElem?_eq_some_iff.mp found).1
  -- the call holds no other object
  have others : ∀ (object : Nat) cell, object ≠ errand.object → cells[object]? = some cell →
      cell.holder ≠ some caller := by
    intro object cell apart position holds
    obtain ⟨_, known, other, _, same, head, sought, _⟩ :=
      guarded.held object cell caller position holds
    cases here.symm.trans same
    cases first.symm.trans head
    exact apart sought.symm
  have cases : ∀ {object : Nat} {current : Cell τ},
      (cells.set errand.object revised)[object]? = some current →
        (object = errand.object ∧ current = revised) ∨
          object ≠ errand.object ∧ cells[object]? = some current := by
    intro object current position
    rw [List.getElem?_set] at position
    split at position
    · next same =>
        exact .inl ⟨same.symm, (Option.some.inj position).symm⟩
    · next apart => exact .inr ⟨Ne.symm apart, position⟩
  constructor
  · intro object current position free
    obtain ⟨rfl, rfl⟩ | ⟨apart, older⟩ := cases position
    · cases visits : later.visiting with
      | none => exact (released visits).2
      | some rest => cases free.symm.trans (kept rest visits).1
    · exact (elsewhere object apart).trans (guarded.free object current older free)
  · intro object current holder position held
    obtain ⟨rfl, rfl⟩ | ⟨apart, older⟩ := cases position
    · cases visits : later.visiting with
      | none => cases held.symm.trans (released visits).1
      | some rest =>
          obtain ⟨holds, head, leads⟩ := kept rest visits
          cases held.symm.trans holds
          exact ⟨call, later, errand, rest, List.getElem?_set_self inside, head, rfl, visits,
            leads⟩
    · obtain ⟨found, known, other, rest, same, facts⟩ :=
        guarded.held object current holder older held
      have different : caller ≠ holder := by
        rintro rfl
        exact others object current apart older held
      rw [elsewhere object apart]
      exact ⟨found, known, other, rest, (List.getElem?_set_ne different).trans same, facts⟩
  · intro other called known rest position visits
    obtain ⟨rfl, rfl, rfl⟩ | ⟨apart, older⟩ := calls_set_cases position
    · obtain ⟨holds, head, _⟩ := kept rest visits
      exact ⟨errand, revised, head, List.getElem?_set_self there, holds⟩
    · obtain ⟨sought, current, head, position, holds⟩ :=
        guarded.visiting other called known rest older visits
      refine ⟨sought, current, head, ?_, holds⟩
      rw [List.getElem?_set_ne]
      · exact position
      · intro same
        rw [← same, found] at position
        cases position
        rw [mine] at holds
        split at holds
        · exact apart (Option.some.inj holds).symm
        · cases holds

end Guarded

/-! ## Runs -/

namespace System

variable {system next : System κ τ ο ν} {history : List (Event κ τ ο ν)}
variable {caller : Nat} {call : Call κ τ ο} {progress : Progress κ τ ο ν}

/-- A call that looked at the table at some time has an errand. -/
def Seeks (system : System κ τ ο ν) (since : Nat) (errand : Errand κ ο) : Prop :=
  ∃ (caller : Nat) (call : Call κ τ ο) (progress : Progress κ τ ο ν),
    system.calls[caller]? = some (call, some progress) ∧
      progress.since = since ∧ errand ∈ progress.todo

/-- A history explains what the calls on a table have done. -/
def Explained
    (code : ο → Section τ ν)
    (system : System κ τ ο ν)
    (history : List (Event κ τ ο ν)) : Prop :=
  ∃ content keyOf,
    Explains code system.table system.cells.length system.Seeks system.trace history content
        keyOf ∧
      Guarded code system.calls system.cells content

omit [DecidableEq κ] in
/-- An errand of a call that has gone on is one of its own or one of another call. -/
theorem seeks_proceed
    {since : Nat}
    {errand : Errand κ ο}
    (seeks : (system.proceed caller call progress).Seeks since errand) :
    (since = progress.since ∧ errand ∈ progress.todo) ∨ system.Seeks since errand := by
  obtain ⟨other, found, known, position, rfl, member⟩ := seeks
  obtain ⟨rfl, rfl, rfl⟩ | ⟨_, older⟩ := calls_set_cases position
  · exact .inl ⟨rfl, member⟩
  · exact .inr ⟨other, found, known, older, rfl, member⟩

/-- A call goes on with the object of its errand: no object leaves or enters the
table, and no errand is new. -/
theorem explains_revise
    {later : Progress κ τ ο ν}
    {trace : List (Event κ τ ο ν)}
    {content : Nat → τ}
    {keyOf : Nat → κ}
    (explains : Explains code system.table system.cells.length system.Seeks trace history
      content keyOf)
    (here : system.calls[caller]? = some (call, some progress))
    (since : later.since = progress.since)
    (fewer : later.todo ⊆ progress.todo)
    (object : Nat)
    (cell : Cell τ) :
    Explains code system.table (system.cells.set object cell).length
      (system.proceed caller call later).Seeks trace history content keyOf := by
  rw [List.length_set]
  refine explains.seek fun when errand seeks => .inl ?_
  obtain ⟨rfl, member⟩ | older := seeks_proceed seeks
  · exact ⟨caller, call, progress, here, since.symm, fewer member⟩
  · exact older

/-- A look at the table that finds work. -/
theorem Explained.find
    {todo : List (Errand κ ο)}
    (explained : system.Explained code history)
    (here : system.calls[caller]? = some (call, none))
    (found : ∀ errand ∈ todo, system.table.get? errand.key = some errand.object) :
    (system.find caller call todo).Explained code history := by
  obtain ⟨content, keyOf, explains, guarded⟩ := explained
  refine ⟨content, keyOf, explains.seek ?_, guarded.look here rfl⟩
  intro since errand seeks
  obtain ⟨rfl, member⟩ | older := seeks_proceed seeks
  · exact .inr ⟨rfl, found errand member⟩
  · exact .inl older

/-- A look at the table that is a deed, once the deed has been explained. -/
theorem explained_act
    {deed : Deed κ τ ο ν}
    {todo : List (Errand κ ο)}
    {content : Nat → τ}
    {keyOf : Nat → κ}
    {seeks : Nat → Errand κ ο → Prop}
    (explains : Explains code system.table system.cells.length seeks
      (system.trace ++ [⟨caller, system.now, system.now, deed⟩]) history content keyOf)
    (guarded : Guarded code system.calls system.cells content)
    (here : system.calls[caller]? = some (call, none))
    (sought : ∀ since errand, system.Seeks since errand → seeks since errand)
    (found : ∀ errand ∈ todo, seeks system.now errand) :
    (system.act caller call deed todo).Explained code history := by
  refine ⟨content, keyOf, explains.seek ?_, guarded.look here rfl⟩
  intro since errand seeks
  obtain ⟨rfl, member⟩ | older := seeks_proceed seeks
  · exact .inl (found errand member)
  · exact .inl (sought since errand older)

/-- Every look at the table is explained. -/
theorem Explained.look
    (explained : system.Explained code history)
    (here : system.calls[caller]? = some (call, none)) :
    ∃ history, (system.look caller call).Explained code history := by
  have seek := explained
  obtain ⟨content, keyOf, explains, guarded⟩ := explained
  have now : system.now ≤ system.trace.length := Nat.le_refl _
  cases call with
  | visit key op =>
      simp only [System.look]
      cases found : system.table.get? key with
      | none =>
          refine ⟨_, explained_act (explains.observe rfl now ?_ rfl) guarded here
            (fun _ _ sought => sought) fun _ member => absurd member List.not_mem_nil⟩
          simp [Deed.Fits, Dict.get?_mapValues, found]
      | some object =>
          refine ⟨_, seek.find here ?_⟩
          simpa using found
  | ensure key initial op =>
      simp only [System.look]
      cases found : system.table.get? key with
      | none =>
          have created := explains.create found initial caller system.now now
          have grown : (system.put key initial).cells.length = system.cells.length + 1 := by
            simp [put]
          rw [← grown] at created
          exact ⟨_, explained_act created (guarded.put initial) here
            (fun _ _ sought => sought) fun _ member => absurd member List.not_mem_nil⟩
      | some object =>
          refine ⟨_, seek.find here ?_⟩
          simpa using found
  | erase key =>
      exact ⟨_, explained_act (explains.remove caller system.now now) guarded here
        (fun _ _ sought => sought) fun _ member => absurd member List.not_mem_nil⟩
  | scan op =>
      let seeks := fun since errand => system.Seeks since errand ∨
        since = system.now ∧ system.table.get? errand.key = some errand.object
      have extended : Explains code system.table system.cells.length seeks system.trace history
          content keyOf := explains.seek fun _ _ sought => sought
      refine ⟨_, explained_act (extended.observe rfl now ?_ rfl) guarded here
        (fun _ _ sought => .inl sought) ?_⟩
      · simp [Deed.Fits]
      · intro errand member
        obtain ⟨⟨key, object⟩, stored, rfl⟩ := List.mem_map.mp member
        exact .inr ⟨rfl, (Dict.mem_entries_iff _ _ _).mp stored⟩

omit [DecidableEq κ] in
/-- A visiting call holds the object of its errand. -/
theorem holder_of_visiting
    {content : Nat → τ}
    {errand : Errand κ ο}
    {cell : Cell τ}
    {rest : Section τ ν}
    (guarded : Guarded code system.calls system.cells content)
    (here : system.calls[caller]? = some (call, some progress))
    (first : progress.todo.head? = some errand)
    (found : system.cells[errand.object]? = some cell)
    (visits : progress.visiting = some rest) :
    cell.holder = some caller ∧
      rest.run cell.value = (code errand.op).run (content errand.object) := by
  obtain ⟨sought, current, head, position, holds⟩ :=
    guarded.visiting caller call progress rest here visits
  cases first.symm.trans head
  cases found.symm.trans position
  obtain ⟨_, known, other, left, same, head, _, remains, leads⟩ :=
    guarded.held errand.object cell caller found holds
  cases here.symm.trans same
  cases first.symm.trans head
  cases visits.symm.trans remains
  exact ⟨holds, leads⟩

/-- Every step is explained: a history of the system before becomes a history of the
system after by inserting what the step did. -/
theorem Explained.step
    {action : Action κ τ ο}
    (explained : system.Explained code history)
    (stepped : system.step code action = some next) :
    ∃ history, next.Explained code history := by
  have known := explained
  obtain ⟨content, keyOf, explains, guarded⟩ := explained
  cases action with
  | call call =>
      obtain rfl := Option.some.inj stepped
      refine ⟨history, content, keyOf, explains.seek ?_, guarded.begin call⟩
      rintro since errand ⟨caller, found, progress, here, seeks⟩
      rw [List.getElem?_append] at here
      split at here
      · exact .inl ⟨caller, found, progress, here, seeks⟩
      · simp [List.getElem?_singleton] at here
  | look caller =>
      simp only [System.step] at stepped
      split at stepped
      · next call here =>
          obtain rfl := Option.some.inj stepped
          exact known.look here
      · cases stepped
  | enter caller =>
      obtain ⟨call, progress, errand, cell, here, first, found, idle, free, rfl⟩ :=
        step_enter stepped
      refine ⟨history, content, keyOf, ?_, ?_⟩
      · refine explains_revise explains here ?_ ?_ _ _
        · rfl
        · exact List.Subset.refl _
      · refine guarded.revise here first found (by simp [idle, free]) (fun _ _ => rfl) ?_ ?_
        · rintro rest ⟨⟩
          exact ⟨rfl, first, by rw [guarded.free errand.object cell found free]⟩
        · rintro ⟨⟩
  | move caller =>
      obtain ⟨call, progress, errand, cell, write, rest, here, first, found, visits, rfl⟩ :=
        step_move stepped
      obtain ⟨holds, leads⟩ := holder_of_visiting guarded here first found visits
      refine ⟨history, content, keyOf, ?_, ?_⟩
      · refine explains_revise explains here ?_ ?_ _ _
        · rfl
        · exact List.Subset.refl _
      · refine guarded.revise here first found (by simp [visits, holds]) (fun _ _ => rfl) ?_ ?_
        · rintro rest ⟨⟩
          exact ⟨holds, first, leads⟩
        · rintro ⟨⟩
  | leave caller =>
      obtain ⟨call, progress, errand, cell, answer, here, first, found, visits, rfl⟩ :=
        step_leave stepped
      obtain ⟨holds, leads⟩ := holder_of_visiting guarded here first found visits
      have sought : system.Seeks progress.since errand :=
        ⟨caller, call, progress, here, rfl, List.mem_of_mem_head? first⟩
      obtain ⟨past, inside, named⟩ := explains.errands progress.since errand sought
      have visited : ∃ history, Explains code system.table system.cells.length system.Seeks
          (system.trace ++ [⟨caller, progress.since, system.now,
            .visit errand.key errand.op answer⟩]) history
          (Function.update content errand.object cell.value) keyOf := by
        obtain ⟨key, object, op⟩ := errand
        change keyOf object = key at named
        subst named
        by_cases present : system.table.get? (keyOf object) = some object
        · exact ⟨_, explains.visit present leads caller past⟩
        · exact explains.revisit inside present leads sought caller
      obtain ⟨history, explains⟩ := visited
      refine ⟨history, Function.update content errand.object cell.value, keyOf, ?_, ?_⟩
      · refine explains_revise explains here ?_ ?_ _ _
        · rfl
        · exact (List.tail_sublist _).subset
      · refine guarded.revise here first found (by simp [visits, holds])
          (fun object apart => Function.update_of_ne apart ..) ?_ fun _ => ⟨rfl, ?_⟩
        · rintro rest ⟨⟩
        · exact Function.update_self ..

/-- An empty table needs no explanation. -/
theorem explained_start [Nonempty κ] [Nonempty τ] :
    ({} : System κ τ ο ν).Explained code [] := by
  refine ⟨fun _ => Classical.ofNonempty, fun _ => Classical.ofNonempty, ?_, ?_⟩
  · constructor
    · exact List.Perm.nil
    · nofun
    · exact List.Pairwise.nil
    · trivial
    · rfl
    · nofun
    · nofun
    · rintro since errand ⟨caller, call, progress, here, _⟩
      cases here
  · constructor
    · nofun
    · nofun
    · nofun

/-- Every run is explained by a history. -/
theorem explained_of_reaches [Nonempty κ] [Nonempty τ]
    {offers : Call κ τ ο → Prop}
    (reaches : Reaches code offers system) :
    ∃ history, system.Explained code history := by
  induction reaches with
  | start => exact ⟨[], explained_start⟩
  | step _ _ stepped inductionHypothesis =>
      obtain ⟨history, explained⟩ := inductionHypothesis
      exact explained.step stepped

end System

end LockedTable
