import Promch.Clickhouse.HealthReports

/-!
# The status that a discovery cycle returns

A cycle holds the discovery lock, so the pool stays the same but for its own changes.
The liveness pass vets the tracked nodes, and the topology pass pings every node that
it adds; queries that fail meanwhile only check a node once more.  So the status
that the cycle returns is coherent and not older than the call.
-/

namespace Promch

open EventLoop EventLoop.Coroutine EventLoop.Attainment

namespace ConnectionState

variable {state : ConnectionState} {first task : Nat} {pending : List Nat}

/-- The task holds the discovery lock, and has vetted the tracked nodes but for those
that are pending. -/
structure Vetting
    (first task : Nat)
    (pending : List Nat)
    (state : ConnectionState) : Prop where
  held : state.discoveryLock.holder = some task
  vetted : ∀ n ∈ state.tracked, n ∈ pending ∨ state.Vetted first n

/-- No change that tracks no new node undoes what has been vetted. -/
theorem Vetting.apply
    (effect : ConnectionEffect)
    (vetting : state.Vetting first task pending)
    (wellformed : state.Wellformed)
    (later : first ≤ state.readings)
    (tracked_subset : (state.apply effect).tracked ⊆ state.tracked)
    (held : (state.apply effect).discoveryLock.holder = some task) :
    (state.apply effect).Vetting first task pending := by
  refine ⟨held, fun n tracked => ?_⟩
  have before := tracked_subset tracked
  exact (vetting.vetted n before).imp_right fun vetted =>
    vetted.apply (wellformed.tracked_lt before) later

theorem tracked_subset_of_leavesPool
    {effect : ConnectionEffect}
    (leaves : effect.LeavesPool) :
    (state.apply effect).tracked ⊆ state.tracked := by
  rw [tracked, (state.samePool_apply leaves).pool]
  exact List.Subset.refl _

/-- A new member still has to be vetted. -/
theorem Vetting.welcome
    (vetting : state.Vetting first task [])
    (wellformed : state.Wellformed)
    (later : first ≤ state.readings)
    (host : String) :
    (state.apply (.welcome host)).Vetting first task [state.count] := by
  refine ⟨vetting.held, fun n tracked => ?_⟩
  obtain ⟨other, found⟩ := mem_tracked_iff.mp tracked
  change (state.pool.set host state.count).get? other = some n at found
  rw [Dict.get?_set] at found
  split at found
  · cases found
    exact .inl List.mem_cons_self
  · have before : n ∈ state.tracked := mem_tracked_iff.mpr ⟨other, found⟩
    have vetted := (vetting.vetted n before).resolve_left List.not_mem_nil
    exact .inr (vetted.apply (wellformed.tracked_lt before) later)

end ConnectionState

/-- What a call tells of the health of the nodes once it has returned. -/
def ConnectionCall.Tells
    (first : Nat) :
    ConnectionCall → Except Fault ConnectionValue → ConnectionState → Prop
  | .ping n, .ok _, state => n < state.count ∧ state.CheckedSince first n
  | .refresh, .ok (.status status), state =>
      status.IsCoherent state.seedHosts ∧
        status.IsFresh state.spec state.clock first state.readings
  | .recheck, .ok (.status status), state =>
      status.IsCoherent state.seedHosts ∧
        status.IsFresh state.spec state.clock first state.readings
  | .rediscover, .ok (.status status), state => status.IsCoherent state.seedHosts
  | _, _, _ => True

/-- The calls tell what they have found since the given reading of the clock. -/
def healthAttainment (first : Nat) : Attainment tenancyPolicy.contract where
  target := ConnectionCall.Tells first
  inv state := first ≤ state.readings ∧ state.HealthKnown
  keeps _ invariant _ :=
    ⟨invariant.1.trans ConnectionState.readings_le_apply, invariant.2.apply⟩
  lasts {task effect state call outcome} _ invariant _ told := by
    have sameSeeds : (connectionLoop.apply effect state).seedHosts = state.seedHosts :=
      state.seedHosts_apply effect
    have sameClock : (connectionLoop.apply effect state).clock = state.clock :=
      state.clock_apply effect
    have sameSpec : (connectionLoop.apply effect state).spec = state.spec :=
      state.spec_apply effect
    unfold ConnectionCall.Tells at told ⊢
    split
    · exact ⟨told.1.trans_le ConnectionState.count_le_apply,
        told.2.apply told.1 invariant.1⟩
    · rw [sameSeeds, sameClock, sameSpec]
      exact ⟨told.1, told.2.mono ConnectionState.readings_le_apply⟩
    · rw [sameSeeds, sameClock, sameSpec]
      exact ⟨told.1, told.2.mono ConnectionState.readings_le_apply⟩
    · rw [sameSeeds]
      exact told
    · trivial

namespace healthAttainment

variable {first task n : Nat} {known : List (Nat × ConnectionCall)} {pending : List Nat}
variable {state : ConnectionState}

private theorem vetting_stable (first task : Nat) (pending : List Nat) :
    (healthAttainment first).Stable task (ConnectionState.Vetting first task pending) := by
  intro other effect state different kept invariant permitted vetting
  exact vetting.apply effect kept.1 invariant.1 (ConnectionState.tracked_subset_of_leavesPool
      (ConnectionState.leavesPool_of_held permitted.1 different vetting.held))
    (ConnectionState.discoveryHolder_apply permitted.1 different vetting.held)

/-- A quiet program leaves as vetted what the task has vetted. -/
private theorem attains_quiet
    {program : Async α}
    {goal : Except Fault α → ConnectionState → Prop}
    (quiet : program.Writes ConnectionEffect.Quiet)
    (kept : tenancyPolicy.contract.inv state)
    (invariant : (healthAttainment first).inv state)
    (vetting : state.Vetting first task pending)
    (continues : ∀ outcome later, tenancyPolicy.contract.inv later →
      (healthAttainment first).inv later → later.Vetting first task pending →
        goal outcome later) :
    (healthAttainment first).Attains task known program goal state := by
  refine (attains_of_writes _ quiet (vetting_stable first task pending) ?_ kept invariant
    vetting).mono kept invariant fun outcome later _ _ both =>
      continues outcome later both.1 both.2.1 both.2.2
  intro effect before quiet kept invariant permitted vetting
  refine vetting.apply effect kept.1 invariant.1
    (ConnectionState.tracked_subset_of_leavesPool quiet.leavesPool) ?_
  cases effect with
  | node m change | pick | look | examine examiner nodes | fork calls => exact vetting.held
  | _ => exact quiet.elim

/-! ## One node -/

/-- The node exists. -/
private theorem built_stable (first task n : Nat) :
    (healthAttainment first).Stable task fun state => n < state.count :=
  fun _ _ _ _ _ _ _ built => built.trans_le ConnectionState.count_le_apply

/-- The node exists and has been checked. -/
private theorem checked_stable (first task n : Nat) :
    (healthAttainment first).Stable task fun state =>
      n < state.count ∧ state.CheckedSince first n :=
  fun _ _ _ _ _ invariant _ checked => ⟨checked.1.trans_le ConnectionState.count_le_apply,
    checked.2.apply checked.1 invariant.1⟩

private theorem checkedSince_apply_markDown
    (later : first ≤ state.readings)
    (error : String) :
    (state.apply (.node n (.markDown error))).CheckedSince first n := by
  refine ⟨state.readings, later, Nat.lt_succ_self _, ?_⟩
  simp only [ConnectionState.node, ConnectionState.objects_apply_node]
  rfl

private theorem checkedSince_apply_markAlive (later : first ≤ state.readings) :
    (state.apply (.node n .markAlive)).CheckedSince first n := by
  refine ⟨state.readings, later, Nat.lt_succ_self _, ?_⟩
  simp only [ConnectionState.node, ConnectionState.objects_apply_node]
  rfl

/-- What a ping that returns has attained. -/
private def Checked (first n : Nat) (outcome : Except Fault α) (state : ConnectionState) : Prop :=
  outcome.isOk → n < state.count ∧ state.CheckedSince first n

/-- A ping that finds the node unreachable has checked it. -/
private theorem attains_pingFailed
    {fault : Fault}
    {own : Option Nat}
    (kept : tenancyPolicy.contract.inv state)
    (invariant : (healthAttainment first).inv state)
    (built : n < state.count) :
    (healthAttainment first).Attains task known
      (if fault.isUnreachable then do
        emit (.node n (.markDown fault.message))
        dropClient n own
        return false
      else raise fault : Async Bool) (Checked first n) state := by
  split
  · refine attains_bind (attains_emit fun permitted => attains_bind ?_)
    have keptMarked := tenancyPolicy.contract.keeps kept permitted
    have invariantMarked := (healthAttainment first).keeps kept invariant permitted
    have writes : (dropClient n own).Writes fun _ => True :=
      writes_dropClient (fun _ => trivial) own
    refine (attains_of_writes (fun state => n < state.count ∧ state.CheckedSince first n) writes
      (checked_stable first task n) ?_ keptMarked invariantMarked
      ⟨built, checkedSince_apply_markDown invariant.1 _⟩).mono keptMarked invariantMarked ?_
    · exact fun _ _ _ _ invariant _ checked =>
        ⟨checked.1.trans_le ConnectionState.count_le_apply, checked.2.apply checked.1 invariant.1⟩
    · intro outcome later _ _ both
      cases outcome with
      | ok value => exact fun _ => both.2.2
      | error fault => exact nofun
  · exact nofun

/-- A ping that returns has checked the node. -/
private theorem attains_ping
    (kept : tenancyPolicy.contract.inv state)
    (invariant : (healthAttainment first).inv state)
    (built : n < state.count) :
    (healthAttainment first).Attains task known (ping n) (Checked first n) state := by
  refine attains_bind (attains_attempt ?_)
  have writes : (ensureClient n).Writes fun _ => True := writes_ensureClient fun _ => trivial
  refine (attains_of_writes (fun state => n < state.count) writes (built_stable first task n) ?_
    kept invariant built).mono kept invariant ?_
  · exact fun _ _ _ _ _ _ built => built.trans_le ConnectionState.count_le_apply
  · rintro connected later _ _ ⟨kept, invariant, built⟩
    cases connected with
    | error fault => exact attains_pingFailed kept invariant built
    | ok client =>
        refine attains_bind (attains_attempt ?_)
        refine attains_await (fun state => n < state.count) (built_stable first task n) built ?_
        intro answered outcome kept invariant built
        cases outcome with
        | error fault => exact attains_pingFailed kept invariant built
        | ok alive =>
            exact attains_bind (attains_emit fun _ _ =>
              ⟨built, checkedSince_apply_markAlive invariant.1⟩)

/-- A ping leaves what is vetted as it is. -/
private theorem holds_ping
    (kept : tenancyPolicy.contract.inv state)
    (invariant : (healthAttainment first).inv state)
    (vetting : state.Vetting first task pending) :
    (healthAttainment first).Attains task known (ping n)
      (fun _ later => later.Vetting first task pending) state :=
  attains_quiet (quiet_ping n) kept invariant vetting fun _ _ _ _ vetting => vetting

/-! ## Liveness -/

/-- Pings that run in parallel have checked all their nodes when they are back. -/
private theorem attains_gatherPings
    {nodes : List Nat}
    {goal : Except Fault (List ConnectionValue) → ConnectionState → Prop}
    (kept : tenancyPolicy.contract.inv state)
    (invariant : (healthAttainment first).inv state)
    (vetting : state.Vetting first task nodes)
    (failed : ∀ fault later, goal (.error fault) later)
    (joined : ∀ values later, tenancyPolicy.contract.inv later →
      (healthAttainment first).inv later → later.Vetting first task [] → goal (.ok values) later) :
    (healthAttainment first).Attains task known (gather (nodes.map .ping)) goal state := by
  have vettedAll : ∀ later : ConnectionState, later.Vetting first task nodes →
      (∀ n ∈ nodes, later.CheckedSince first n) → later.Vetting first task [] := by
    intro later vetting checked
    refine ⟨vetting.held, fun n tracked => .inr ?_⟩
    exact (vetting.vetted n tracked).elim (fun pending => .inl (checked n pending)) id
  unfold gather
  split
  · next empty =>
      refine joined [] state kept invariant (vettedAll state vetting fun n member => ?_)
      rw [List.map_eq_nil_iff.mp (List.isEmpty_iff.mp empty)] at member
      exact absurd member List.not_mem_nil
  · refine attains_emitAndJoin (ConnectionState.Vetting first task nodes)
      (vetting_stable first task nodes) ?_ (fun fault later _ _ _ => failed fault later) ?_
    · exact fun _ => vetting
    · intro values later kept invariant vetting told
      have each : List.Forall₂ (fun n _ => later.CheckedSince first n ∧ True) nodes values :=
        (List.forall₂_map_left_iff.mp told).imp fun n value pinged => ⟨pinged.2, trivial⟩
      exact joined values later kept invariant
        (vettedAll later vetting ((List.forall₂_and_left ..).mp each).1)

/-- A liveness pass that returns has vetted all tracked nodes. -/
private theorem attains_healthTick
    {goal : Except Fault Unit → ConnectionState → Prop}
    (kept : tenancyPolicy.contract.inv state)
    (invariant : (healthAttainment first).inv state)
    (held : state.discoveryLock.holder = some task)
    (failed : ∀ fault later, goal (.error fault) later)
    (vetted : ∀ later, tenancyPolicy.contract.inv later → (healthAttainment first).inv later →
      later.Vetting first task [] → goal (.ok ()) later) :
    (healthAttainment first).Attains task known healthTick goal state := by
  refine attains_bind ?_
  rw [attains_gets]
  cases mode : state.spec.livenessMode with
  | passive =>
      refine attains_bind ?_
      rw [attains_gets]
      refine attains_bind ?_
      rw [attains_currentTask]
      refine attains_bind (attains_emit fun permitted => attains_bind ?_)
      rw [attains_gets]
      refine attains_bind ?_
      have keptExamined := tenancyPolicy.contract.keeps kept permitted
      have invariantExamined := (healthAttainment first).keeps kept invariant permitted
      refine attains_gatherPings keptExamined invariantExamined ⟨held, fun n tracked => ?_⟩
        failed ?_
      · cases alive : (state.node n).alive with
        | true => exact .inr (.inr ⟨mode, alive⟩)
        | false =>
            exact .inl (List.mem_filter.mpr ⟨tracked, congrArg not alive⟩)
      · intro values later kept invariant vetting
        refine attains_quiet (quiet_evictIdle _) kept invariant vetting ?_
        intro outcome last kept invariant vetting
        cases outcome with
        | ok value => exact vetted last kept invariant vetting
        | error fault => exact failed fault last
  | active =>
      refine attains_bind ?_
      rw [attains_gets]
      refine attains_bind ?_
      refine attains_gatherPings kept invariant ⟨held, fun n tracked => .inl tracked⟩ failed ?_
      exact fun values later kept invariant vetting => vetted later kept invariant vetting

/-! ## Topology -/

/-- New members have been pinged when all of them are tracked. -/
private theorem attains_welcomeAll
    {hosts : List String}
    {goal : Except Fault Unit → ConnectionState → Prop}
    (kept : tenancyPolicy.contract.inv state)
    (invariant : (healthAttainment first).inv state)
    (vetting : state.Vetting first task [])
    (failed : ∀ fault later, goal (.error fault) later)
    (vetted : ∀ later, tenancyPolicy.contract.inv later → (healthAttainment first).inv later →
      later.Vetting first task [] → goal (.ok ()) later) :
    (healthAttainment first).Attains task known (welcomeAll hosts) goal state := by
  induction hosts generalizing known state with
  | nil => exact vetted state kept invariant vetting
  | cons host rest inductionHypothesis =>
      refine attains_bind ?_
      rw [attains_gets]
      refine attains_bind (attains_emit fun permitted => attains_bind ?_)
      have keptWelcomed := tenancyPolicy.contract.keeps kept permitted
      have invariantWelcomed := (healthAttainment first).keeps kept invariant permitted
      have vettingWelcomed := vetting.welcome kept.1 invariant.1 host
      have built : state.count < (state.apply (.welcome host)).count := Nat.lt_succ_self _
      refine ((attains_ping keptWelcomed invariantWelcomed built).and
        (holds_ping keptWelcomed invariantWelcomed vettingWelcomed)).mono keptWelcomed
        invariantWelcomed ?_
      rintro outcome later kept invariant ⟨checked, vetting⟩
      cases outcome with
      | error fault => exact failed fault later
      | ok alive =>
          refine inductionHypothesis kept invariant ⟨vetting.held, fun n tracked => .inr ?_⟩
          obtain pending | vetted := vetting.vetted n tracked
          · obtain rfl := List.mem_singleton.mp pending
            exact .inl (checked rfl).2
          · exact vetted

/-- Reconciling the tracked hosts leaves the nodes that stay as vetted as they were. -/
private theorem attains_reconcile
    {members hosts : List String}
    {goal : Except Fault Unit → ConnectionState → Prop}
    (kept : tenancyPolicy.contract.inv state)
    (invariant : (healthAttainment first).inv state)
    (vetting : state.Vetting first task pending)
    (failed : ∀ fault later, goal (.error fault) later)
    (reconciled : ∀ later, tenancyPolicy.contract.inv later →
      (healthAttainment first).inv later → later.Vetting first task pending →
        goal (.ok ()) later) :
    (healthAttainment first).Attains task known (reconcile members hosts) goal state := by
  induction hosts generalizing known state with
  | nil => exact reconciled state kept invariant vetting
  | cons host rest inductionHypothesis =>
      have confirmed : ∀ member, (healthAttainment first).Attains task []
          (do
            emit (.confirm host member)
            reconcile members rest) goal state := by
        intro member
        refine attains_bind (attains_emit fun permitted => ?_)
        refine inductionHypothesis (tenancyPolicy.contract.keeps kept permitted)
          ((healthAttainment first).keeps kept invariant permitted)
          (vetting.apply (.confirm host member) kept.1 invariant.1 ?_ ?_)
        · have same : (state.apply (.confirm host member)).pool = state.pool :=
            state.pool_confirm host member
          rw [ConnectionState.tracked, same]
          exact List.Subset.refl _
        · exact (congrArg AsyncLock.holder
            (ConnectionState.discoveryLock_confirm host member)).trans vetting.held
      refine attains_bind ?_
      rw [attains_gets]
      cases tracked : state.pool.get? host with
      | none => exact failed _ state
      | some n =>
          simp only [andThen]
          split
          · exact confirmed true
          · refine attains_bind ?_
            rw [attains_gets]
            simp only [andThen]
            split
            · exact confirmed false
            · refine attains_bind ?_
              refine attains_quiet (quiet_closeNode n .depart) kept invariant vetting ?_
              intro outcome later kept invariant vetting
              cases outcome with
              | error fault => exact failed fault later
              | ok closed =>
                  refine attains_bind (attains_emit fun permitted => ?_)
                  refine inductionHypothesis (tenancyPolicy.contract.keeps kept permitted)
                    ((healthAttainment first).keeps kept invariant permitted)
                    (vetting.apply (.remove host) kept.1 invariant.1 (fun m left => ?_)
                      vetting.held)
                  obtain ⟨other, found⟩ := ConnectionState.mem_tracked_iff.mp left
                  change (later.pool.erase host).get? other = some m at found
                  rw [Dict.get?_erase] at found
                  split at found
                  · cases found
                  · exact ConnectionState.mem_tracked_iff.mpr ⟨other, found⟩

private theorem attains_updateMembers
    {members : List String}
    {goal : Except Fault Unit → ConnectionState → Prop}
    (kept : tenancyPolicy.contract.inv state)
    (invariant : (healthAttainment first).inv state)
    (vetting : state.Vetting first task [])
    (failed : ∀ fault later, goal (.error fault) later)
    (updated : ∀ later, tenancyPolicy.contract.inv later → (healthAttainment first).inv later →
      later.Vetting first task [] → goal (.ok ()) later) :
    (healthAttainment first).Attains task known (updateMembers members) goal state := by
  refine attains_bind ?_
  rw [attains_gets]
  refine attains_bind ?_
  rw [attains_gets]
  refine attains_bind (attains_emit fun permitted => attains_bind ?_)
  refine attains_welcomeAll (tenancyPolicy.contract.keeps kept permitted)
    ((healthAttainment first).keeps kept invariant permitted)
    (vetting.apply .pick kept.1 invariant.1 (List.Subset.refl _) vetting.held) failed ?_
  intro welcomed kept invariant vetting
  refine attains_bind ?_
  rw [attains_gets]
  refine attains_bind ?_
  refine attains_reconcile kept invariant vetting failed ?_
  intro reconciled kept invariant vetting
  exact attains_emit fun permitted => updated _ (tenancyPolicy.contract.keeps kept permitted)
    ((healthAttainment first).keeps kept invariant permitted)
    (vetting.apply (.discovered members) kept.1 invariant.1 (List.Subset.refl _) vetting.held)

private theorem quiet_pickOneLive (exclude : List String) :
    (pickOneLive exclude).Writes ConnectionEffect.Quiet := by
  apply Writes.bind (writes_gets _)
  intro candidates
  split
  · exact writes_pure _
  · apply Writes.bind (writes_gets _)
    intro choice
    exact Writes.bind (writes_emit trivial) fun _ => writes_pure _

/-- A topology pass that returns has vetted what it added. -/
private theorem attains_refreshTopology
    {goal : Except Fault Unit → ConnectionState → Prop}
    (kept : tenancyPolicy.contract.inv state)
    (invariant : (healthAttainment first).inv state)
    (vetting : state.Vetting first task [])
    (failed : ∀ fault later, goal (.error fault) later)
    (refreshed : ∀ later, tenancyPolicy.contract.inv later →
      (healthAttainment first).inv later → later.Vetting first task [] → goal (.ok ()) later) :
    (healthAttainment first).Attains task known refreshTopology goal state := by
  refine attains_bind ?_
  refine attains_quiet (quiet_pickOneLive []) kept invariant vetting ?_
  intro picked before kept invariant vetting
  cases picked with
  | error fault => exact failed fault before
  | ok choice =>
      cases choice with
      | none => exact refreshed before kept invariant vetting
      | some seed =>
          refine attains_bind (attains_attempt ?_)
          refine attains_quiet (quiet_query seed discoverySql 10) kept invariant vetting ?_
          intro outcome later kept invariant vetting
          cases outcome with
          | error fault =>
              cases fault with
              | raised exception =>
                  cases exception with
                  | nodeConnectionError message | nodeQueryError message =>
                      exact refreshed later kept invariant vetting
                  | _ => exact failed _ later
              | _ => exact failed _ later
          | ok rows =>
              refine attains_bind ?_
              rw [attains_gets]
              refine attains_bind ?_
              cases membersOf later.spec.clusterName rows with
              | error fault => exact failed fault later
              | ok members => exact attains_updateMembers kept invariant vetting failed refreshed

/-! ## Cycles -/

/-- A cycle tells what its pass has attained. -/
private theorem attains_discoveryCycle
    {pass : Async Unit}
    {goal : Except Fault ConnectionStatus → ConnectionState → Prop}
    (passed : ConnectionState → Prop)
    (kept : tenancyPolicy.contract.inv state)
    (invariant : (healthAttainment first).inv state)
    (passes : ∀ before (met : Except Fault Unit → ConnectionState → Prop),
      tenancyPolicy.contract.inv before → (healthAttainment first).inv before →
      before.discoveryLock.holder = some task →
      (∀ fault later, met (.error fault) later) →
      (∀ later, tenancyPolicy.contract.inv later → (healthAttainment first).inv later →
        passed later → met (.ok ()) later) →
      (healthAttainment first).Attains task [] pass met before)
    (failed : ∀ fault later, goal (.error fault) later)
    (told : ∀ later, tenancyPolicy.contract.inv later → (healthAttainment first).inv later →
      passed later → goal (.ok later.statusSnapshot)
        ((later.apply .finishCycle).apply (.discoveryLock .release))) :
    (healthAttainment first).Attains task known (discoveryCycle pass) goal state := by
  refine attains_withLock (fun _ _ => rfl) kept invariant ?_ failed
  intro before kept invariant held
  refine attains_bind (passes before _ kept invariant held ?_ ?_)
  · exact fun fault later => failed fault _
  · intro later kept invariant done
    refine attains_bind (attains_emit fun _ => ?_)
    exact told later kept invariant done

private theorem isFresh_of_vetting (vetting : state.Vetting first task []) :
    state.statusSnapshot.IsFresh state.spec state.clock first state.readings := by
  intro status member
  obtain ⟨_, ⟨n, tracked, rfl⟩, rfl⟩ := by
    simpa only [ConnectionState.statusSnapshot, List.mem_map] using member
  exact (vetting.vetted n tracked).resolve_left List.not_mem_nil

/-- Every call tells what it has found. -/
private theorem attainingBodies (first : Nat) : (healthAttainment first).AttainingBodies := by
  intro task call state kept invariant begins
  have vettedAll : ∀ before : ConnectionState, before.discoveryLock.holder = some task →
      before.Vetting first task before.tracked :=
    fun before held => ⟨held, fun n tracked => .inl tracked⟩
  cases call with
  | ping n =>
      refine attains_bind ((attains_ping kept invariant (begins n rfl)).mono kept invariant ?_)
      intro outcome later _ _ checked
      cases outcome with
      | ok alive => exact checked rfl
      | error fault => trivial
  | refresh =>
      refine attains_bind ?_
      refine attains_discoveryCycle (ConnectionState.Vetting first task []) kept invariant ?_ ?_ ?_
      · intro before met kept invariant held failed passed
        refine attains_bind (attains_healthTick kept invariant held failed ?_)
        intro later kept invariant vetting
        exact attains_refreshTopology kept invariant vetting failed passed
      · exact fun _ _ => trivial
      · intro later kept invariant vetting
        have coherent := ConnectionState.isCoherent_statusSnapshot kept.1 invariant.2
        have fresh := isFresh_of_vetting vetting
        exact ⟨coherent, fresh⟩
  | recheck =>
      refine attains_bind ?_
      refine attains_discoveryCycle (ConnectionState.Vetting first task []) kept invariant ?_ ?_ ?_
      · exact fun before met kept invariant held failed passed =>
          attains_healthTick kept invariant held failed passed
      · exact fun _ _ => trivial
      · intro later kept invariant vetting
        have coherent := ConnectionState.isCoherent_statusSnapshot kept.1 invariant.2
        have fresh := isFresh_of_vetting vetting
        exact ⟨coherent, fresh⟩
  | rediscover =>
      refine attains_bind ?_
      refine attains_discoveryCycle (fun _ => True) kept invariant ?_ ?_ ?_
      · intro before met kept invariant _ failed passed
        have returns : (healthAttainment first).Attains task [] refreshTopology
          (fun _ _ => True) before := attains_of_forall fun _ _ => trivial
        refine returns.mono kept invariant fun outcome later kept invariant _ => ?_
        cases outcome with
        | ok done => exact passed later kept invariant trivial
        | error fault => exact failed fault later
      · exact fun _ _ => trivial
      · intro later kept invariant _
        have coherent := ConnectionState.isCoherent_statusSnapshot kept.1 invariant.2
        exact coherent
  | _ => exact attains_of_forall fun _ _ => trivial

end healthAttainment

/-! ## Runs -/

section Runs

variable {spec : PoolSpec} {clock : Nat → ClockReading} {picks : Nat → Nat}
variable {before after : ConnectionSystem} {task : Nat} {call : ConnectionCall}
variable {status : ConnectionStatus}

private theorem healthKnown_of_reaches
    (reaches : connectionLoop.Reaches (fun before action => addressesNodes before action)
      (ConnectionSystem.fresh spec clock picks) before) :
    before.state.HealthKnown := by
  apply reaches.keeps (fun state _ => state.HealthKnown)
  · exact fun effect state _ known => known.apply
  · exact fun _ _ _ known => known
  · exact ConnectionState.healthKnown_create spec clock picks

private theorem tells_of_reaches
    {value : ConnectionValue}
    (reaches : connectionLoop.Reaches (fun before action => addressesNodes before action)
      (ConnectionSystem.fresh spec clock picks) before)
    (continues : connectionLoop.Reaches (fun before action => addressesNodes before action)
      before after)
    (new : before.tasks.length ≤ task)
    (made : after.calls[task]? = some call)
    (returned : after.returned task = some value) :
    call.Tells before.state.readings (.ok value) after.state := by
  have ended : after.tasks[task]? = some ⟨call, .ended (.ok value)⟩ := by
    rw [System.calls, List.getElem?_map] at made
    obtain ⟨entry, found, rfl⟩ := Option.map_eq_some_iff.mp made
    obtain ⟨call, progress⟩ := entry
    simp only [System.returned, System.status?, found, Option.map_some] at returned
    split at returned
    · next ended =>
        cases Option.some.inj ended
        cases returned
        exact found
    · cases returned
  exact target_of_reaches tenancyPolicy.safeBodies
    (healthAttainment.attainingBodies before.state.readings) (tenancy_sound reaches)
    ⟨Nat.le_refl _, healthKnown_of_reaches reaches⟩
    (fun _ _ => Policy.permits_of_carefree rfl) continues new ended

private theorem clock_of_reaches
    {condition : ConnectionSystem → ConnectionAction → Prop}
    (reaches : connectionLoop.Reaches condition
      (ConnectionSystem.fresh spec clock picks) after) :
    after.state.clock = clock := by
  apply reaches.keeps (fun state _ => state.clock = clock)
  · exact fun effect state _ same => (state.clock_apply effect).trans same
  · exact fun _ _ _ same => same
  · exact ConnectionState.clock_create spec clock picks

/-- Every status that a discovery cycle of a run has returned is coherent, whatever
ran next to the cycle. -/
theorem isCoherent_of_returned
    (reaches : connectionLoop.Reaches (fun before action => addressesNodes before action)
      (ConnectionSystem.fresh spec clock picks) after)
    (cycle : call = .refresh ∨ call = .recheck ∨ call = .rediscover)
    (made : after.calls[task]? = some call)
    (returned : after.returned task = some (.status status)) :
    status.IsCoherent spec.seedHosts := by
  have tells := tells_of_reaches .refl reaches (Nat.zero_le _) made returned
  have coherent : status.IsCoherent after.state.seedHosts := by
    obtain rfl | rfl | rfl := cycle
    · exact tells.1
    · exact tells.1
    · exact tells
  exact coherent.congr (mem_seedHosts_of_reaches reaches)

/-- The status that a task has returned, if it has. -/
def ConnectionSystem.status? (system : ConnectionSystem) (task : Nat) : Option ConnectionStatus :=
  match system.returned task with
  | some (.status status) => some status
  | _ => none

theorem ConnectionSystem.returned_of_status?
    {system : ConnectionSystem}
    (found : ConnectionSystem.status? system task = some status) :
    system.returned task = some (.status status) := by
  unfold ConnectionSystem.status? at found
  split at found
  · next same =>
      cases found
      exact same
  · cases found

/-- A new member that does not answer is reported as down. -/
theorem isCoherent_after_failed_ping :
    ∃ status : ConnectionStatus,
      status.phase = "Degraded" ∧
      (status.nodes.map fun node => (node.host, node.alive)) = [("a", true), ("b", false)] ∧
      status.IsCoherent ["a"] := by
  obtain ⟨system, reaches, found⟩ := ConnectionSystem.exists_reached addressesNodes
    { seedHosts := ["a"], clusterName := "main" } (fun reading => ⟨reading, reading⟩)
    (fun _ => 0)
    [.start .refresh, .begin 0,
      .begin 1, .answer 1 (.factory 0) (.ok ()), .answer 1 (.ping 0 0) (.ok true),
      .join 0 none,
      .answer 0 (.query 0 0 discoverySql 10)
        (.ok ⟨["cluster", "host_name"], [[.str "main", .str "b"]]⟩),
      .answer 0 (.factory 1) (.error (.driver (.transport "refused")))]
    (fun system => system.calls[0]? = some .refresh ∧
      (ConnectionSystem.status? system 0).any fun status => status.phase = "Degraded" ∧
        (status.nodes.map fun node => (node.host, node.alive)) = [("a", true), ("b", false)])
    (by decide +kernel)
  obtain ⟨made, told⟩ := of_decide_eq_true found
  obtain ⟨status, returned, shown⟩ := (Option.any_eq_true _ _).mp told
  obtain ⟨phase, nodes⟩ := of_decide_eq_true shown
  exact ⟨status, phase, nodes, isCoherent_of_returned reaches (.inl rfl) made
    (ConnectionSystem.returned_of_status? returned)⟩

/-- What the status of a cycle with a liveness pass says of a node is not older than
the call of the cycle. -/
theorem isFresh_of_returned
    (reaches : connectionLoop.Reaches (fun before action => addressesNodes before action)
      (ConnectionSystem.fresh spec clock picks) before)
    (continues : connectionLoop.Reaches (fun before action => addressesNodes before action)
      before after)
    (new : before.tasks.length ≤ task)
    (cycle : call = .refresh ∨ call = .recheck)
    (made : after.calls[task]? = some call)
    (returned : after.returned task = some (.status status)) :
    status.IsFresh spec clock before.state.readings after.state.readings := by
  have tells := tells_of_reaches reaches continues new made returned
  have fresh : status.IsFresh after.state.spec after.state.clock before.state.readings
      after.state.readings := by
    obtain rfl | rfl := cycle
    · exact tells.2
    · exact tells.2
  rwa [spec_of_reaches (reaches.trans continues),
    clock_of_reaches (reaches.trans continues)] at fresh

end Runs

/-- The actions of a recheck of two nodes, one of which no longer answers. -/
def recheckActions : List ConnectionAction :=
  [.start .recheck, .begin 1,
    .begin 2, .answer 2 (.ping 0 0) (.error (.driver (.transport "timed out"))),
    .answer 2 (.close .drop 0 0) (.ok ()),
    .begin 3, .answer 3 (.factory 1) (.ok ()), .answer 3 (.ping 1 0) (.ok true),
    .join 1 none]

theorem isFresh_after_recheck :
    ∃ (before : ConnectionSystem) (last : Nat) (status : ConnectionStatus),
      0 < before.state.readings ∧
      (status.nodes.map fun node => (node.host, node.alive)) = [("a", false), ("b", true)] ∧
      status.IsFresh { seedHosts := ["a", "b"], clusterName := "main" }
        (fun reading => ⟨reading, reading⟩) before.state.readings last := by
  obtain ⟨before, reaches, found⟩ := ConnectionSystem.exists_reached addressesNodes
    { seedHosts := ["a", "b"], clusterName := "main" } (fun reading => ⟨reading, reading⟩)
    (fun _ => 0)
    [.start (.ping 0), .begin 0, .answer 0 (.factory 0) (.ok ()),
      .answer 0 (.ping 0 0) (.ok true)]
    (fun before => before.tasks.length ≤ 1 ∧ 0 < before.state.readings ∧
      (connectionLoop.run (fun before action => addressesNodes before action) before
        recheckActions).any fun after => after.calls[1]? = some .recheck ∧
          (ConnectionSystem.status? after 1).any fun status =>
            (status.nodes.map fun node => (node.host, node.alive)) =
              [("a", false), ("b", true)])
    (by decide +kernel)
  obtain ⟨new, read, ran⟩ := of_decide_eq_true found
  obtain ⟨after, continues, told⟩ := Machine.exists_reaches_of_run recheckActions _ ran
  obtain ⟨made, told⟩ := of_decide_eq_true told
  obtain ⟨status, returned, shown⟩ := (Option.any_eq_true _ _).mp told
  exact ⟨before, after.state.readings, status, read, of_decide_eq_true shown,
    isFresh_of_returned reaches continues new (.inr rfl) made
      (ConnectionSystem.returned_of_status? returned)⟩

end Promch
