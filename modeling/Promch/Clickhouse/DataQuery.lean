import Mathlib.Data.Finset.Card
import Promch.Clickhouse.SystemQuery

/-!
# Data queries

A data query runs on one live node and fails over to another one on a
connection error, until a node answers, nothing is left to try, or the failover
budget is used up.  The environment is a script: for every attempt the random
pick, the outcome of the node query, and the steps of other activities while it
is awaited.
-/

namespace Promch

/-- What the environment does during one attempt. -/
structure DataAttempt where
  /-- The random pick among the candidates. -/
  choice : Nat
  /-- Steps of other activities before the node query settles. -/
  before : List PoolEvent := []
  outcome : NodeOutcome
  clock : ClockReading
  /-- Steps of other activities before the exception is handled. -/
  after : List PoolEvent := []

/-- The local state of the failover loop. -/
structure Failover where
  topology : ClusterTopology
  tried : List String := []
  attempts : Nat := 0
  /-- The message of the last connection error. -/
  lastError : Option String := none

/-- A finished data query: what it returned or raised, and what it attempted. -/
structure DataQueryRun where
  result : Except Raised (List Row)
  attempts : List (Node × NodeOutcome)

namespace Failover

/-- The node of the next attempt. -/
def pick (state : Failover) (attempt : DataAttempt) : Option Node :=
  state.topology.pickOneLive state.tried attempt.choice

/-- The pool after an attempt on the given node. -/
def settle (state : Failover) (node : Node) (attempt : DataAttempt) : ClusterTopology :=
  ((state.topology.applyAll attempt.before).updateIdent node.ident
    (attempt.outcome.change attempt.clock)).applyAll attempt.after

/-- The state after a connection error on the given node. -/
def failOver
    (state : Failover)
    (node : Node)
    (attempt : DataAttempt)
    (message : String) : Failover where
  topology := state.settle node attempt
  tried := node.host :: state.tried
  attempts := state.attempts + 1
  lastError := some message

/-- Nothing is left to try. -/
def giveUp (state : Failover) : Raised :=
  match state.lastError with
  | some message => .nodeConnectionError message
  | none => state.topology.noLiveNodes

/-- The failover budget is used up after this many connection errors; without a
budget all live nodes are tried. -/
def isOverBudget (maxFailovers : Option Int) (attempts : Nat) : Bool :=
  maxFailovers.any fun budget : Int => budget < attempts

/-- Prepend an attempt to a run. -/
def prepend (call : Node × NodeOutcome) (run : DataQueryRun) : DataQueryRun :=
  { run with attempts := call :: run.attempts }

/-- The failover loop; `none` when the script ends before the loop does. -/
def loop (maxFailovers : Option Int) (state : Failover) : List DataAttempt → Option DataQueryRun
  | [] =>
      if state.topology.candidates state.tried = [] then
        some { result := .error state.giveUp, attempts := [] }
      else none
  | attempt :: rest =>
      match state.pick attempt with
      | none => some { result := .error state.giveUp, attempts := [] }
      | some node =>
          let call := (node, attempt.outcome)
          match attempt.outcome.result with
          | .ok rows => some { result := .ok rows, attempts := [call] }
          | .error (.nodeConnectionError message) =>
              let failed := state.failOver node attempt message
              if isOverBudget maxFailovers failed.attempts then
                some { result := .error (.nodeConnectionError message), attempts := [call] }
              else (loop maxFailovers failed rest).map (prepend call)
          | .error raised => some { result := .error raised, attempts := [call] }

end Failover

/-- Run a data query on the pool of a connection. -/
def ClusterTopology.executeDataQuery
    (topology : ClusterTopology)
    (maxFailovers : Option Int)
    (script : List DataAttempt) : Option DataQueryRun :=
  Failover.loop maxFailovers { topology := topology } script

/-- Some attempt is answered or rejected by its node before nothing is left to
try and before the budget is used up. -/
inductive Failover.AnswersInTime (maxFailovers : Option Int) :
    Failover → List DataAttempt → Prop
  | decided
      (picked : state.pick attempt = some node)
      (outcome : (∃ rows, attempt.outcome = .answered rows) ∨
        ∃ message, attempt.outcome = .queryError message) :
      AnswersInTime maxFailovers state (attempt :: rest)
  | failedOver
      (picked : state.pick attempt = some node)
      (outcome : attempt.outcome = .connectionError recorded message)
      (inBudget : Failover.isOverBudget maxFailovers (state.attempts + 1) = false)
      (later : AnswersInTime maxFailovers (state.failOver node attempt message) rest) :
      AnswersInTime maxFailovers state (attempt :: rest)

/-- The script tracks only hosts of the given set. -/
def HostsWithin (hosts : Finset String) (script : List DataAttempt) : Prop :=
  ∀ attempt ∈ script, ∀ event ∈ attempt.before ++ attempt.after,
    ∀ host, event.addedHost = some host → host ∈ hosts

namespace Failover

variable {state : Failover} {maxFailovers : Option Int}

/-- An attempt keeps the pool within the given hosts. -/
theorem mem_keys_settle
    {hosts : Finset String}
    {node : Node}
    {attempt : DataAttempt}
    (pool : ∀ host ∈ state.topology.nodes.keys, host ∈ hosts)
    (added : ∀ event ∈ attempt.before ++ attempt.after,
      ∀ host, event.addedHost = some host → host ∈ hosts)
    {host : String}
    (member : host ∈ (state.settle node attempt).nodes.keys) :
    host ∈ hosts := by
  obtain beforeAfter | ⟨event, present, added_eq⟩ :=
    ClusterTopology.mem_keys_applyAll member
  · have settled : host ∈ (state.topology.applyAll attempt.before).nodes.keys := by
      simpa [ClusterTopology.updateIdent] using beforeAfter
    obtain atStart | ⟨event, present, added_eq⟩ := ClusterTopology.mem_keys_applyAll settled
    · exact pool host atStart
    · exact added event (List.mem_append_left _ present) host added_eq
  · exact added event (List.mem_append_right _ present) host added_eq

/-- The loop ends when the script has an attempt for every host that is not
tried yet; each failed attempt tries a new one. -/
theorem loop_isSome
    (hosts : Finset String)
    (script : List DataAttempt)
    (pool : ∀ host ∈ state.topology.nodes.keys, host ∈ hosts)
    (within : HostsWithin hosts script)
    (enough : (hosts.filter (· ∉ state.tried)).card ≤ script.length) :
    (loop maxFailovers state script).isSome = true := by
  induction script generalizing state with
  | nil =>
      have noneLeft : state.topology.candidates state.tried = [] := by
        by_contra nonempty
        obtain ⟨node, member⟩ := List.exists_mem_of_ne_nil _ nonempty
        obtain ⟨tracked, -, untried⟩ := (state.topology.mem_candidates_iff _ node).mp member
        have left : node.host ∈ hosts.filter (· ∉ state.tried) :=
          Finset.mem_filter.mpr ⟨pool _ (state.topology.host_mem_keys tracked), untried⟩
        rw [Finset.card_eq_zero.mp (Nat.le_zero.mp enough)] at left
        exact absurd left (Finset.notMem_empty _)
      rw [loop, if_pos noneLeft]
      rfl
  | cons attempt rest inductionHypothesis =>
      rw [loop]
      cases picked : state.pick attempt with
      | none => rfl
      | some node =>
          cases settled : attempt.outcome.result with
          | ok rows => rfl
          | error raised =>
              cases raised with
              | nodeQueryError | noLiveNodesError | valueError | exception => rfl
              | nodeConnectionError message =>
                  dsimp only
                  split
                  · rfl
                  · obtain ⟨tracked, -, untried⟩ := (state.topology.mem_candidates_iff _ node).mp
                      (state.topology.mem_candidates_of_pickOneLive picked)
                    have smaller : (hosts.filter (· ∉ node.host :: state.tried)).card <
                        (hosts.filter (· ∉ state.tried)).card := by
                      apply Finset.card_lt_card
                      refine ⟨fun host member => ?_, fun subset => ?_⟩
                      · obtain ⟨inHosts, outside⟩ := Finset.mem_filter.mp member
                        exact Finset.mem_filter.mpr ⟨inHosts, fun earlier =>
                          outside (List.mem_cons_of_mem _ earlier)⟩
                      · have left : node.host ∈ hosts.filter (· ∉ state.tried) :=
                          Finset.mem_filter.mpr
                            ⟨pool _ (state.topology.host_mem_keys tracked), untried⟩
                        exact (Finset.mem_filter.mp (subset left)).2 List.mem_cons_self
                    rw [Option.isSome_map]
                    refine inductionHypothesis ?_
                      (fun other member => within other (List.mem_cons_of_mem _ member)) ?_
                    · exact fun host member =>
                        mem_keys_settle pool (within attempt List.mem_cons_self) member
                    · exact Nat.le_of_lt_succ (smaller.trans_le enough)

/-- A loop that gives up repeats the last connection error, if there is one. -/
theorem giveUp_cases (state : Failover) :
    (state.lastError = none ∧ state.giveUp = state.topology.noLiveNodes) ∨
      ∃ message, state.giveUp = .nodeConnectionError message := by
  cases earlier : state.lastError with
  | none => exact .inl ⟨rfl, by rw [giveUp, earlier]⟩
  | some message => exact .inr ⟨message, by rw [giveUp, earlier]⟩

/-- When nothing is left to try the loop gives up at once. -/
theorem loop_of_noneLeft
    (maxFailovers : Option Int)
    (script : List DataAttempt)
    (noneLeft : state.topology.candidates state.tried = []) :
    loop maxFailovers state script = some { result := .error state.giveUp, attempts := [] } := by
  cases script with
  | nil => rw [loop, if_pos noneLeft]
  | cons attempt rest =>
      rw [loop, show state.pick attempt = none from
        (state.topology.pickOneLive_eq_none_iff _ _).mpr noneLeft]

/-- How a loop ends that got neither an answer nor a query error: nothing was
live at its start, or a connection error or an unknown exception escapes. -/
def EndsWithout (state : Failover) (result : Except Raised (List Row)) : Prop :=
  (state.lastError = none ∧ state.topology.candidates state.tried = [] ∧
      result = .error state.topology.noLiveNodes) ∨
    (∃ message, result = .error (.nodeConnectionError message)) ∨
    ∃ message, result = .error (.exception message)

theorem endsWithout_giveUp
    (noneLeft : state.topology.candidates state.tried = []) :
    state.EndsWithout (.error state.giveUp) := by
  obtain ⟨first, raised⟩ | ⟨message, raised⟩ := state.giveUp_cases
  · exact .inl ⟨first, noneLeft, by rw [raised]⟩
  · exact .inr (.inl ⟨message, by rw [raised]⟩)

/-- What one iteration of a loop that ends can do: give up without a candidate,
end with the outcome of its attempt, or fail over after a connection error. -/
theorem loop_cons_cases
    {run : DataQueryRun}
    {attempt : DataAttempt}
    {rest : List DataAttempt}
    (ran : loop maxFailovers state (attempt :: rest) = some run) :
    (state.pick attempt = none ∧ run.result = .error state.giveUp) ∨
      ∃ node, state.pick attempt = some node ∧
        (run = { result := attempt.outcome.result, attempts := [(node, attempt.outcome)] } ∧
            (∀ recorded message, attempt.outcome = .connectionError recorded message →
              isOverBudget maxFailovers (state.attempts + 1) = true) ∨
          ∃ recorded message later,
            attempt.outcome = .connectionError recorded message ∧
            isOverBudget maxFailovers (state.attempts + 1) = false ∧
            loop maxFailovers (state.failOver node attempt message) rest = some later ∧
            run = prepend (node, attempt.outcome) later) := by
  rw [loop] at ran
  cases picked : state.pick attempt with
  | none =>
      rw [picked] at ran
      cases ran
      exact .inl ⟨rfl, rfl⟩
  | some node =>
      refine .inr ⟨node, rfl, ?_⟩
      rw [picked] at ran
      cases outcome : attempt.outcome with
      | answered | queryError | otherError =>
          simp only [outcome, NodeOutcome.result] at ran
          cases ran
          refine .inl ⟨rfl, ?_⟩
          rintro recorded message ⟨⟩
      | connectionError recorded message =>
          simp only [outcome, NodeOutcome.result] at ran
          split at ran
          · next exceeded =>
              cases ran
              exact .inl ⟨rfl, fun _ _ _ => exceeded⟩
          · next within =>
              obtain ⟨later, laterRan, rfl⟩ := Option.map_eq_some_iff.mp ran
              have inBudget := Bool.eq_false_iff.mpr within
              exact .inr ⟨recorded, message, later, rfl, inBudget, laterRan, rfl⟩

/-- An answer or a query error in time is what the loop returns or raises; every
other loop ends without. -/
theorem loop_cases
    {run : DataQueryRun}
    {script : List DataAttempt}
    (ran : loop maxFailovers state script = some run) :
    (AnswersInTime maxFailovers state script ∧
      ((∃ rows, run.result = .ok rows) ∨
        ∃ node message, run.result = .error (.nodeQueryError message) ∧
          (node, NodeOutcome.queryError message) ∈ run.attempts)) ∨
    (¬AnswersInTime maxFailovers state script ∧ state.EndsWithout run.result) := by
  induction script generalizing state run with
  | nil =>
      rw [loop] at ran
      split at ran
      · next noneLeft =>
          cases ran
          exact .inr ⟨nofun, endsWithout_giveUp noneLeft⟩
      · cases ran
  | cons attempt rest inductionHypothesis =>
      obtain ⟨nonePicked, gaveUp⟩ | ⟨node, picked, iteration⟩ := loop_cons_cases ran
      · have noneLeft := (state.topology.pickOneLive_eq_none_iff _ _).mp nonePicked
        rw [gaveUp]
        refine .inr ⟨?_, endsWithout_giveUp noneLeft⟩
        rintro (⟨picked, -⟩ | ⟨picked, -⟩) <;> simp [nonePicked] at picked
      obtain ⟨rfl, budget⟩ | ⟨recorded, message, later, outcome, inBudget, laterRan, rfl⟩ :=
        iteration
      · -- The attempt ends the loop.
        cases outcome : attempt.outcome with
        | answered rows =>
            exact .inl ⟨.decided picked (.inl ⟨rows, outcome⟩), .inl ⟨rows, rfl⟩⟩
        | queryError message =>
            exact .inl ⟨.decided picked (.inr ⟨message, outcome⟩),
              .inr ⟨node, message, rfl, List.mem_cons_self⟩⟩
        | otherError message =>
            refine .inr ⟨?_, .inr (.inr ⟨message, rfl⟩)⟩
            rintro (⟨-, other⟩ | ⟨-, other⟩) <;> simp [outcome] at other
        | connectionError recorded message =>
            have exceeded := budget recorded message outcome
            refine .inr ⟨?_, .inr (.inl ⟨message, rfl⟩)⟩
            rintro (⟨-, other⟩ | ⟨-, -, inBudget, -⟩)
            · simp [outcome] at other
            · simp [exceeded] at inBudget
      · obtain ⟨inTime, decided⟩ | ⟨notInTime, ends⟩ := inductionHypothesis laterRan
        · refine .inl ⟨.failedOver picked outcome inBudget inTime, decided.imp_right ?_⟩
          rintro ⟨other, text, raised, member⟩
          exact ⟨other, text, raised, List.mem_cons_of_mem _ member⟩
        · refine .inr ⟨?_, .inr (ends.resolve_left ?_)⟩
          · rintro (⟨-, other⟩ | ⟨otherPicked, otherOutcome, -, inTime⟩)
            · simp [outcome] at other
            · cases picked.symm.trans otherPicked
              cases outcome.symm.trans otherOutcome
              exact notInTime inTime
          · -- After a connection error the loop cannot say that nothing was live.
            rintro ⟨noError, -⟩
            cases noError

end Failover

end Promch
