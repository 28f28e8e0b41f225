import Mathlib.Data.List.Induction
import Promch.Clickhouse.Node

/-!
# Liveness of one node over a run of calls

Each completed call has a verdict on the node's liveness: positive, negative,
or none for a failure of the query itself.  The flag a node keeps is compared
with the latest verdict in every state of a run.  The two agree as long as no
client answers a ping with `False`: the node takes such an answer for a sign of
life.
-/

namespace Promch

/-- One completed call on a node, with the behaviour it met. -/
inductive NodeCall
  | ping
      (connect : Except DriverError Nat)
      (reply : Except DriverError Bool)
      (clock : ClockReading)
  | query
      (connect : Except DriverError Nat)
      (reply : Except DriverError QueryResultSet)
      (clock : ClockReading)

namespace NodeCall

/-- The node after the call. -/
def run (call : NodeCall) (node : Node) : Node :=
  match call with
  | .ping connect reply clock => (node.ping connect reply clock).1
  | .query connect reply clock => (node.query connect reply clock).1

/-- What a ping returned to its caller. -/
def pingResult (call : NodeCall) (node : Node) : Option (Except Raised Bool) :=
  match call with
  | .ping connect reply clock => some (node.ping connect reply clock).2
  | .query _ _ _ => none

/-- The behaviour stays within the client protocol: the factory and queries
raise driver or transport errors, pings raise only connection-level ones. -/
def Conforms : NodeCall → Prop
  | .ping connect reply _ =>
      (∀ error, connect = .error error → error.isProtocolError = true) ∧
        ∀ error, reply = .error error → error.isConnectionLevel = true
  | .query connect reply _ =>
      (∀ error, connect = .error error → error.isProtocolError = true) ∧
        ∀ error, reply = .error error → error.isProtocolError = true

/-- A call gets a client: the node has one or the factory returns one. -/
def getsClient (node : Node) (connect : Except DriverError Nat) : Bool :=
  node.client.isSome || connect.isOk

/-- What a call says about liveness, if it says anything. -/
def verdict (call : NodeCall) (node : Node) : Option Bool :=
  match call with
  | .ping connect reply _ =>
      match getsClient node connect, reply with
      | true, .ok answer => some answer
      | _, _ => some false
  | .query connect reply _ =>
      match getsClient node connect, reply with
      | false, _ => some false
      | true, .ok _ => some true
      | true, .error error =>
          if error.isConnectionLevel then some false else none

/-- The call is a ping that its client answers with `False`. -/
def AnswersFalse (call : NodeCall) (node : Node) : Prop :=
  match call with
  | .ping connect reply _ => getsClient node connect = true ∧ reply = .ok false
  | .query _ _ _ => False

end NodeCall

/-- The node after a sequence of completed calls. -/
def runCalls (start : Node) (calls : List NodeCall) : Node :=
  calls.foldl (fun node call => call.run node) start

/-- The verdicts of a sequence of calls, in order. -/
def verdicts : Node → List NodeCall → List (Option Bool)
  | _, [] => []
  | node, call :: rest => call.verdict node :: verdicts (call.run node) rest

/-- The most recent verdict of a sequence of calls. -/
def latestVerdict (start : Node) (calls : List NodeCall) : Option Bool :=
  ((verdicts start calls).filterMap id).getLast?

@[simp] theorem runCalls_append_singleton
    (start : Node)
    (calls : List NodeCall)
    (call : NodeCall) :
    runCalls start (calls ++ [call]) = call.run (runCalls start calls) := by
  simp [runCalls]

private theorem verdicts_append_singleton
    (start : Node)
    (calls : List NodeCall)
    (call : NodeCall) :
    verdicts start (calls ++ [call]) =
      verdicts start calls ++ [call.verdict (runCalls start calls)] := by
  induction calls generalizing start with
  | nil => rfl
  | cons first rest inductionHypothesis =>
      simp [verdicts, runCalls, inductionHypothesis]

@[simp] theorem latestVerdict_append_singleton
    (start : Node)
    (calls : List NodeCall)
    (call : NodeCall) :
    latestVerdict start (calls ++ [call]) =
      (call.verdict (runCalls start calls)).or (latestVerdict start calls) := by
  rw [latestVerdict, verdicts_append_singleton, List.filterMap_append]
  cases call.verdict (runCalls start calls) <;> simp [latestVerdict]

/-- The health record of a node explains its flag. -/
def Node.Explained (node : Node) : Prop :=
  (node.alive = true → node.lastError = none ∧ node.lastChecked.isSome) ∧
    (node.alive = false → node.lastChecked.isSome → node.lastError.isSome)

/-- A node is as live as its latest verdict says, in every state of a run. -/
structure LivenessLaw (start : Node) (calls : List NodeCall) : Prop where
  /-- The flag is the latest verdict; without one the node is down. -/
  alive_iff : ∀ done, done <+: calls →
    (runCalls start done).alive = (latestVerdict start done).getD false
  /-- A ping returns `True` exactly when its verdict is positive. -/
  ping_true : ∀ done call, done ++ [call] <+: calls →
    ∀ result, call.pingResult (runCalls start done) = some result →
      (result = .ok true ↔ call.verdict (runCalls start done) = some true)
  /-- A call without a verdict leaves the health record alone. -/
  silent : ∀ done call, done ++ [call] <+: calls →
    call.verdict (runCalls start done) = none →
      (runCalls start (done ++ [call])).alive = (runCalls start done).alive ∧
        (runCalls start (done ++ [call])).lastError =
          (runCalls start done).lastError ∧
        (runCalls start (done ++ [call])).lastChecked =
          (runCalls start done).lastChecked
  /-- In every state reached the health record explains the flag. -/
  explained : ∀ done, done <+: calls → (runCalls start done).Explained

section Step

variable {node : Node} {call : NodeCall}

/-- The node while its client is used: connecting touches only the client. -/
theorem Node.ensureClient_of_getsClient
    {connect : Except DriverError Nat}
    (clock : ClockReading)
    (connected : NodeCall.getsClient node connect = true) :
    ∃ client, node.ensureClient connect clock = (node.withClient client, .ok ()) := by
  cases held : node.client with
  | some client =>
      exact ⟨some client, by
        simp [Node.ensureClient, held, node.withClient_of_eq held]⟩
  | none =>
      cases connect with
      | ok client => exact ⟨some client, by simp [Node.ensureClient, held]⟩
      | error error =>
          simp [NodeCall.getsClient, held, Except.isOk, Except.toBool] at connected

/-- A protocol error while connecting marks the node down. -/
theorem Node.ensureClient_of_not_getsClient
    {connect : Except DriverError Nat}
    (clock : ClockReading)
    (unconnected : NodeCall.getsClient node connect = false)
    (conforms : ∀ error, connect = .error error → error.isProtocolError = true) :
    ∃ error, node.ensureClient connect clock =
      (node.markDown error clock,
        .error (.nodeConnectionError
          (node.host ++ ": connect failed: " ++ error))) := by
  cases held : node.client with
  | some client => simp [NodeCall.getsClient, held] at unconnected
  | none =>
      cases connect with
      | ok client =>
          simp [NodeCall.getsClient, held, Except.isOk, Except.toBool] at unconnected
      | error error =>
          refine ⟨error.message, ?_⟩
          simp [Node.ensureClient, held, conforms error rfl]

/-- What a conforming call does to the health record: its verdict, a `False`
answer counting as a sign of life. -/
theorem NodeCall.run_cases (node : Node) (conforms : call.Conforms) :
    (call.verdict node = some false ∧ ¬call.AnswersFalse node ∧
        (∃ error checked, (call.run node).alive = false ∧
          (call.run node).lastError = some error ∧
          (call.run node).lastChecked = some checked) ∧
        ∀ result, call.pingResult node = some result → result = .ok false) ∨
      ((call.verdict node = some true ∨
          call.verdict node = some false ∧ call.AnswersFalse node) ∧
        (∃ checked, (call.run node).alive = true ∧
          (call.run node).lastError = none ∧
          (call.run node).lastChecked = some checked) ∧
        ∀ result, call.pingResult node = some result → result = .ok true) ∨
      (call.verdict node = none ∧ ¬call.AnswersFalse node ∧
        (call.run node).alive = node.alive ∧
        (call.run node).lastError = node.lastError ∧
        (call.run node).lastChecked = node.lastChecked ∧
        call.pingResult node = none) := by
  cases call with
  | ping connect reply clock =>
      obtain ⟨connectConforms, replyConforms⟩ := conforms
      cases connected : NodeCall.getsClient node connect with
      | false =>
          obtain ⟨error, failed⟩ :=
            Node.ensureClient_of_not_getsClient clock connected connectConforms
          left
          simp [NodeCall.verdict, NodeCall.AnswersFalse, NodeCall.run,
            NodeCall.pingResult, Node.ping, connected, failed]
      | true =>
          obtain ⟨client, ready⟩ := Node.ensureClient_of_getsClient clock connected
          cases reply with
          | ok answer =>
              right; left
              cases answer <;>
                simp [NodeCall.verdict, NodeCall.AnswersFalse, NodeCall.run,
                  NodeCall.pingResult, Node.ping, connected, ready]
          | error error =>
              left
              simp [NodeCall.verdict, NodeCall.AnswersFalse, NodeCall.run,
                NodeCall.pingResult, Node.ping, connected, ready,
                replyConforms error rfl]
  | query connect reply clock =>
      obtain ⟨connectConforms, replyConforms⟩ := conforms
      cases connected : NodeCall.getsClient node connect with
      | false =>
          obtain ⟨error, failed⟩ :=
            Node.ensureClient_of_not_getsClient clock connected connectConforms
          left
          simp [NodeCall.verdict, NodeCall.AnswersFalse, NodeCall.run,
            NodeCall.pingResult, Node.query, connected, failed]
      | true =>
          obtain ⟨client, ready⟩ := Node.ensureClient_of_getsClient clock connected
          cases reply with
          | ok result =>
              right; left
              simp [NodeCall.verdict, NodeCall.AnswersFalse, NodeCall.run,
                NodeCall.pingResult, Node.query, Node.queryClient, connected, ready]
          | error error =>
              cases level : error.isConnectionLevel with
              | true =>
                  left
                  simp [NodeCall.verdict, NodeCall.AnswersFalse, NodeCall.run,
                    NodeCall.pingResult, Node.query, Node.queryClient, connected,
                    ready, level]
              | false =>
                  right; right
                  simp [NodeCall.verdict, NodeCall.AnswersFalse, NodeCall.run,
                    NodeCall.pingResult, Node.query, Node.queryClient, connected,
                    ready, level, Node.withClient, replyConforms error rfl]

/-- Without a `False` answer the flag follows the verdict. -/
theorem NodeCall.alive_run
    (conforms : call.Conforms)
    (answered : ¬call.AnswersFalse node) :
    (call.run node).alive = (call.verdict node).getD node.alive := by
  obtain ⟨negative, -, ⟨_, _, down, -⟩, -⟩ | ⟨positive, ⟨_, up, -⟩, -⟩ |
    ⟨silent, -, same, -⟩ := call.run_cases node conforms
  · simp [negative, down]
  · obtain positive | ⟨-, false_answer⟩ := positive
    · simp [positive, up]
    · exact absurd false_answer answered
  · simp [silent, same]

/-- Without a `False` answer a ping returns `True` exactly on a positive
verdict. -/
theorem NodeCall.pingResult_eq_true_iff
    (conforms : call.Conforms)
    (answered : ¬call.AnswersFalse node)
    {result : Except Raised Bool}
    (returned : call.pingResult node = some result) :
    result = .ok true ↔ call.verdict node = some true := by
  obtain ⟨negative, -, -, resultFalse⟩ | ⟨positive, -, resultTrue⟩ |
    ⟨-, -, -, -, -, noResult⟩ := call.run_cases node conforms
  · simp [negative, resultFalse result returned]
  · obtain positive | ⟨-, false_answer⟩ := positive
    · simp [positive, resultTrue result returned]
    · exact absurd false_answer answered
  · simp [noResult] at returned

/-- Every conforming call leaves an explained health record. -/
theorem NodeCall.explained_run
    (conforms : call.Conforms)
    (explained : node.Explained) :
    (call.run node).Explained := by
  obtain ⟨-, -, ⟨_, _, down, error, -⟩, -⟩ |
    ⟨-, ⟨_, up, noError, checked⟩, -⟩ |
    ⟨-, -, alive, error, checked, -⟩ := call.run_cases node conforms
  · simp [Node.Explained, down, error]
  · simp [Node.Explained, up, noError, checked]
  · simpa [Node.Explained, alive, error, checked] using explained

end Step

section Run

variable {calls : List NodeCall} {host : String} {ident : Nat} {clock : ClockReading}

/-- A fresh node's flag is the latest verdict of a run without `False`
answers; the induction adds one call at the end of the run. -/
theorem alive_runCalls
    (conforms : ∀ call ∈ calls, call.Conforms)
    (noFalse : ∀ done call, done ++ [call] <+: calls →
      ¬call.AnswersFalse (runCalls (Node.create host ident clock) done)) :
    (runCalls (Node.create host ident clock) calls).alive =
      (latestVerdict (Node.create host ident clock) calls).getD false := by
  induction calls using List.reverseRecOn with
  | nil => rfl
  | append_singleton done call inductionHypothesis =>
      have earlier := inductionHypothesis
        (fun other member => conforms other (List.mem_append_left _ member))
        (fun before other prior =>
          noFalse before other (prior.trans (List.prefix_append _ _)))
      have answered := noFalse done call List.prefix_rfl
      rw [runCalls_append_singleton, latestVerdict_append_singleton,
        NodeCall.alive_run (conforms call (by simp)) answered, earlier]
      cases call.verdict (runCalls (Node.create host ident clock) done) <;> rfl

/-- Every state of a run of conforming calls has an explained health record. -/
theorem explained_runCalls (conforms : ∀ call ∈ calls, call.Conforms) :
    (runCalls (Node.create host ident clock) calls).Explained :=
  List.foldlRecOn calls (fun node call => NodeCall.run call node)
    (by simp [Node.Explained, Node.create])
    (fun _ explained call member =>
      NodeCall.explained_run (conforms call member) explained)

/-- The liveness law holds in every state of a run exactly when no ping of the
run is answered with `False`. -/
theorem livenessLaw_iff_no_false_answer
    (host : String)
    (ident : Nat)
    (clock : ClockReading)
    (calls : List NodeCall)
    (conforms : ∀ call ∈ calls, call.Conforms) :
    LivenessLaw (Node.create host ident clock) calls ↔
      ∀ done call, done ++ [call] <+: calls →
        ¬call.AnswersFalse (runCalls (Node.create host ident clock) done) := by
  constructor
  · intro law done call reached false_answer
    have callConforms := conforms call (reached.subset (by simp))
    obtain ⟨-, answered, -⟩ | ⟨-, -, resultTrue⟩ | ⟨-, answered, -⟩ :=
      call.run_cases (runCalls (Node.create host ident clock) done) callConforms
    · exact answered false_answer
    · -- The ping returns `True` although its verdict is negative.
      cases call with
      | query connect reply reading => exact false_answer
      | ping connect reply reading =>
          have positive := (law.ping_true done _ reached _ rfl).mp (resultTrue _ rfl)
          obtain ⟨connected, answeredFalse⟩ := false_answer
          simp [NodeCall.verdict, connected, answeredFalse] at positive
    · exact answered false_answer
  · intro noFalse
    have conformsUpTo : ∀ done, done <+: calls → ∀ call ∈ done, call.Conforms :=
      fun done reached call member => conforms call (reached.subset member)
    refine
      { alive_iff := ?_
        ping_true := ?_
        silent := ?_
        explained := ?_ }
    · intro done reached
      exact alive_runCalls (conformsUpTo done reached)
        fun before call prior => noFalse before call (prior.trans reached)
    · intro done call reached result returned
      exact NodeCall.pingResult_eq_true_iff
        (conformsUpTo _ reached call (by simp))
        (noFalse done call reached) returned
    · intro done call reached silent
      rw [runCalls_append_singleton]
      obtain ⟨negative, -⟩ | ⟨positive | ⟨negative, -⟩, -⟩ |
        ⟨-, -, alive, error, checked, -⟩ :=
        call.run_cases (runCalls (Node.create host ident clock) done)
          (conformsUpTo _ reached call (by simp))
      · simp [negative] at silent
      · simp [positive] at silent
      · simp [negative] at silent
      · exact ⟨alive, error, checked⟩
    · intro done reached
      exact explained_runCalls (conformsUpTo done reached)

/-- A failed connect, a ping, a rejected query and a query that breaks off. -/
def probes : List NodeCall :=
  [.ping (.error (.transport "refused")) (.ok true) ⟨1, 1⟩,
    .ping (.ok 7) (.ok true) ⟨2, 2⟩,
    .query (.ok 8) (.error (.database "syntax error")) ⟨3, 3⟩,
    .query (.ok 8) (.error (.operational "broken pipe")) ⟨4, 4⟩]

/-- A node that is pinged and queried without a `False` answer follows the law. -/
theorem livenessLaw_of_true_answer : LivenessLaw (Node.create "h1" 0 ⟨0, 0⟩) probes := by
  refine (livenessLaw_iff_no_false_answer "h1" 0 ⟨0, 0⟩ probes ?_).mpr ?_
  · simp [probes, NodeCall.Conforms, DriverError.isProtocolError]
  · intro done call reached answersFalse
    have member : call ∈ probes := reached.subset (by simp)
    simp only [probes, List.mem_cons, List.not_mem_nil, or_false] at member
    obtain rfl | rfl | rfl | rfl := member <;> simp [NodeCall.AnswersFalse] at answersFalse

/-- A client that answers `False` leaves the node up and the ping `True`. -/
theorem not_livenessLaw_of_false_answer :
    ¬LivenessLaw (Node.create "h1" 0 ⟨0, 0⟩) [.ping (.ok 7) (.ok false) ⟨1, 1⟩] := by
  intro law
  have alive := law.alive_iff [.ping (.ok 7) (.ok false) ⟨1, 1⟩] List.prefix_rfl
  simp [runCalls, NodeCall.run, Node.ping, Node.ensureClient, Node.create,
    latestVerdict, verdicts, NodeCall.verdict, NodeCall.getsClient,
    Except.isOk, Except.toBool] at alive

end Run

end Promch
