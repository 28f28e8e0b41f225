import Promch.Handlers.QueryStatus

/-!
# The operations that the handlers issue

The handlers drive the collector through a few operations: registration with a
resolved metric, removal, the success and the failure report of an execution,
and the bookkeeping of the scheduler.  A run is a list of such operations.
-/

namespace Promch

namespace CachedMetric

/-- A failure report: count the failure, and expire the entry when the count
reaches the limit. -/
def fail
    (entry : CachedMetric)
    (config : OperatorConfig)
    (errorType : ErrorType)
    (message : String)
    (failedNodes : Option (List String))
    (now : Time) : CachedMetric :=
  let marked := entry.markFailure errorType message failedNodes now
  if config.expireAfterFailures ≤ marked.consecutiveFailures then marked.expire else marked

end CachedMetric

/-- Record a failed execution; the entry is read back to decide on expiry. -/
def fail
    (config : OperatorConfig)
    (collector : Collector)
    (key : String)
    (errorType : ErrorType)
    (message : String)
    (failedNodes : Option (List String))
    (now : Time) : Collector :=
  let marked := collector.markFailure key errorType message failedNodes now
  match marked.snapshot key with
  | some snap =>
      if config.expireAfterFailures ≤ snap.consecutiveFailures then marked.expire key
      else marked
  | none => marked

/-- Register a resource under its resolved metric identity. -/
def register
    (config : OperatorConfig)
    (collector : Collector)
    (key : String)
    (spec : MetricSpec)
    (queryType : QueryType) : Collector :=
  let resolved := resolveMetric spec queryType config.metricPrefixNormalized config.nodeLabel
  collector.register key resolved.name resolved.help resolved.labels resolved.invalidReason

/-- One operation of a handler on the collector. -/
inductive HandlerOp
  | register (key : String) (spec : MetricSpec) (queryType : QueryType)
  | unregister (key : String)
  | update
      (key : String)
      (rows : List QueryResult)
      (durationSeconds tickTs : Time)
      (failedNodes : Option (List String))
      (now : Time)
  | fail
      (key : String)
      (errorType : ErrorType)
      (message : String)
      (failedNodes : Option (List String))
      (now : Time)
  | markWaiting (key reason : String)
  | incInflight (key : String)
  | decInflight (key : String)
  | recordSkip (key : String) (now : Time)

namespace HandlerOp

/-- The key an operation is about. -/
def key : HandlerOp → String
  | .register key _ _ => key
  | .unregister key => key
  | .update key _ _ _ _ _ => key
  | .fail key _ _ _ _ => key
  | .markWaiting key _ => key
  | .incInflight key => key
  | .decInflight key => key
  | .recordSkip key _ => key

/-- The collector after the operation, and the value that an update returns. -/
def apply
    (config : OperatorConfig)
    (collector : Collector) : HandlerOp → Collector × Option Bool
  | .register key spec queryType => (Promch.register config collector key spec queryType, none)
  | .unregister key => (collector.unregister key, none)
  | .update key rows durationSeconds tickTs failedNodes now =>
      let (changed, recovered) :=
        collector.update key rows durationSeconds tickTs failedNodes now
      (changed, some recovered)
  | .fail key errorType message failedNodes now =>
      (Promch.fail config collector key errorType message failedNodes now, none)
  | .markWaiting key reason => (collector.markWaiting key reason, none)
  | .incInflight key => (collector.incInflight key, none)
  | .decInflight key => (collector.decInflight key, none)
  | .recordSkip key now => (collector.recordSkip key now, none)

/-- What the operation does to a registered entry of its key; a removal leaves
none. -/
def change
    (config : OperatorConfig)
    (entry : CachedMetric) : HandlerOp → Option CachedMetric
  | .register _ spec queryType =>
      let resolved :=
        resolveMetric spec queryType config.metricPrefixNormalized config.nodeLabel
      some (entry.edit resolved.name resolved.help resolved.labels resolved.invalidReason)
  | .unregister _ => none
  | .update _ rows durationSeconds tickTs failedNodes now =>
      some (entry.update rows durationSeconds tickTs failedNodes now).1
  | .fail _ errorType message failedNodes now =>
      some (entry.fail config errorType message failedNodes now)
  | .markWaiting _ reason => some (entry.markWaiting reason)
  | .incInflight _ => some entry.incInflight
  | .decInflight _ => some entry.decInflight
  | .recordSkip _ now => some (entry.recordSkip now)

/-- The entry that the operation creates for an unknown key. -/
def created (config : OperatorConfig) : HandlerOp → Option CachedMetric
  | .register _ spec queryType =>
      let resolved :=
        resolveMetric spec queryType config.metricPrefixNormalized config.nodeLabel
      some
        { name := resolved.name
          help := resolved.help
          labels := resolved.labels
          invalidReason := resolved.invalidReason }
  | _ => none

end HandlerOp

/-- The collector after a list of operations. -/
def runOps
    (config : OperatorConfig)
    (collector : Collector)
    (ops : List HandlerOp) : Collector :=
  ops.foldl (fun collector op => (op.apply config collector).1) collector

/-- The empty collector of a starting operator. -/
def startCollector (config : OperatorConfig) : Collector :=
  Collector.create config.metricPrefixNormalized

/-- The collectors that an operator can reach: the operations of the handlers,
and the bare failure mark of an execution whose connection is gone. -/
inductive Reachable (config : OperatorConfig) : Collector → Prop
  | start : Reachable config (startCollector config)
  | op
      (reached : Reachable config collector)
      (op : HandlerOp) :
      Reachable config (op.apply config collector).1
  | connectionGone
      (reached : Reachable config collector)
      (key message : String)
      (now : Time) :
      Reachable config (collector.markFailure key .connectionNotReady message none now)

section Lemmas

variable (config : OperatorConfig) (collector : Collector)

/-- A failure report marks the failure, and the entry is expired from the limit
on. -/
theorem CachedMetric.fail_eq
    (entry : CachedMetric)
    (errorType : ErrorType)
    (message : String)
    (failedNodes : Option (List String))
    (now : Time) :
    entry.fail config errorType message failedNodes now =
      { entry.markFailure errorType message failedNodes now with
        expired := entry.expired ||
          config.expireAfterFailures ≤ ((entry.consecutiveFailures + 1 : Nat) : Int) } := by
  unfold CachedMetric.fail CachedMetric.markFailure CachedMetric.expire
  by_cases limit : config.expireAfterFailures ≤ ((entry.consecutiveFailures + 1 : Nat) : Int)
  · rw [if_pos limit, decide_eq_true limit, Bool.or_true]
  · rw [if_neg limit, decide_eq_false limit, Bool.or_false]

/-- A failure report changes only the entry of its key. -/
theorem get?_fail
    (key other : String)
    (errorType : ErrorType)
    (message : String)
    (failedNodes : Option (List String))
    (now : Time) :
    (fail config collector key errorType message failedNodes now).entries.get? other =
      if other = key then
        (collector.entries.get? key).map fun entry =>
          entry.fail config errorType message failedNodes now
      else collector.entries.get? other := by
  unfold fail CachedMetric.fail
  cases stored : collector.entries.get? key with
  | none =>
      simp [Collector.markFailure, Collector.snapshot, stored]
  | some entry =>
      have snapshot : (collector.markFailure key errorType message failedNodes now).snapshot key =
          some (entry.markFailure errorType message failedNodes now).snapshot := by
        simp [Collector.snapshot, Collector.markFailure, stored]
      simp only [snapshot, CachedMetric.snapshot]
      by_cases limit : config.expireAfterFailures ≤
          (entry.markFailure errorType message failedNodes now).consecutiveFailures
      · rw [if_pos limit]
        by_cases same : other = key <;>
          simp [Collector.expire, Collector.markFailure, stored, same, limit]
      · rw [if_neg limit]
        by_cases same : other = key <;>
          simp only [Collector.markFailure, Collector.get?_modifyEntry, stored, same, limit,
            if_true, if_false, Option.map_some]

/-- An operation acts on the entry of its key alone. -/
theorem get?_apply (op : HandlerOp) (key : String) :
    (op.apply config collector).1.entries.get? key =
      if key = op.key then
        match collector.entries.get? key with
        | some entry => op.change config entry
        | none => op.created config
      else collector.entries.get? key := by
  by_cases same : key = op.key
  · subst same
    cases stored : collector.entries.get? op.key <;> cases op <;>
      simp_all [HandlerOp.apply, HandlerOp.key, HandlerOp.change, HandlerOp.created, register,
        Collector.get?_register, Collector.get?_update, get?_fail, Collector.markWaiting,
        Collector.incInflight, Collector.decInflight, Collector.recordSkip]
  · cases op <;>
      simp_all [HandlerOp.apply, HandlerOp.key, register, Collector.get?_register,
        Collector.get?_update, get?_fail, Collector.markWaiting, Collector.incInflight,
        Collector.decInflight, Collector.recordSkip]

/-- A property that fresh entries have and that every change of an entry keeps
holds of every entry of a reachable collector. -/
theorem Reachable.forall_entry
    {config : OperatorConfig}
    {motive : CachedMetric → Prop}
    (fresh : ∀ name help labels invalidReason,
      motive { name := name, help := help, labels := labels, invalidReason := invalidReason })
    (changed : ∀ entry op after, motive entry → HandlerOp.change config entry op = some after →
      motive after)
    (failed : ∀ entry message now, motive entry →
      motive (CachedMetric.markFailure entry .connectionNotReady message none now))
    {collector : Collector}
    (reachable : Reachable config collector)
    {key : String}
    {entry : CachedMetric}
    (registered : collector.entries.get? key = some entry) :
    motive entry := by
  induction reachable generalizing entry with
  | start => cases registered
  | @op collector reached op inductionHypothesis =>
      rw [get?_apply] at registered
      split at registered
      · cases stored : collector.entries.get? key with
        | some before =>
            rw [stored] at registered
            exact changed before op entry (inductionHypothesis stored) registered
        | none =>
            rw [stored] at registered
            cases op with
            | register =>
                cases registered
                exact fresh _ _ _ _
            | unregister | update | fail | markWaiting | incInflight | decInflight
            | recordSkip => cases registered
      · exact inductionHypothesis registered
  | @connectionGone collector reached failedKey message now inductionHypothesis =>
      rw [Collector.markFailure, Collector.get?_modifyEntry] at registered
      split at registered
      · next same =>
          subst same
          obtain ⟨before, stored, rfl⟩ := Option.map_eq_some_iff.mp registered
          exact failed before message now (inductionHypothesis stored)
      · exact inductionHypothesis registered

/-- Every state of a run is reachable. -/
theorem Reachable.runOps (ops : List HandlerOp) :
    Reachable config (Promch.runOps config (startCollector config) ops) :=
  List.foldlRecOn ops (fun collector op => (op.apply config collector).1)
    (motive := Reachable config)
    .start (fun _ reached op _ => .op reached op)

@[simp] theorem runOps_append_singleton (ops : List HandlerOp) (op : HandlerOp) :
    runOps config collector (ops ++ [op]) =
      (op.apply config (runOps config collector ops)).1 := by
  simp [runOps]

end Lemmas

end Promch
