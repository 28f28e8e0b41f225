import Mathlib.Data.List.Nodup
import Mathlib.Logic.Relation
import Promch.Library.AsyncLock
import Promch.Library.Typestate

/-!
# Locks that are taken in an order

Every task takes its locks in the order of their ranks and releases them before it
ends, and the tasks that it creates and waits for take locks of higher ranks only.
Then nobody waits in vain: from a task that is under way those who wait for each
other lead to a task that can go on, without a new call, and without anything
raised from outside.
-/

namespace EventLoop

variable {σ η ρ κ ε υ α ι : Type} {ω : ρ → Type}

/-- The locks of a machine in the order of their ranks. -/
structure LockOrder {machine : Machine σ η ρ ω κ ε υ} (contract : Contract machine) (ι : Type)
    [DecidableEq ι] where
  lockOf : ι → σ → AsyncLock
  /-- The operation on a lock that an effect is. -/
  lockOp? : η → Option (ι × LockOp)
  /-- The lock on which a request awaits the turn of the task. -/
  turnOf : ρ → Option ι
  rank : ι → Nat
  /-- A call takes locks of this rank and of higher ones. -/
  floor : κ → Nat
  /-- Others may wait for the tasks of a call. -/
  isReliable : κ → Bool
  /-- A request that nobody has to answer. -/
  isIdle : ρ → Bool
  isIdle_of_turn : ∀ {request lock}, turnOf request = some lock → isIdle request = false
  /-- An effect that creates tasks, to be waited for at once. -/
  isFork : η → Bool
  /-- A lock has come into being. -/
  IsThere : ι → σ → Prop
  forks_eq_nil : ∀ effect state, isFork effect = false → machine.forks effect state = []
  isFork_of_lockOp : ∀ {effect operation}, lockOp? effect = some operation →
    isFork effect = false
  lock_apply : ∀ {effect lock operation} other state, lockOp? effect = some (lock, operation) →
    lockOf other (machine.apply effect state) =
      if other = lock then (lockOf lock state).apply operation else lockOf other state
  isThere_of_lockOp : ∀ {task effect lock operation state},
    contract.may task effect state → lockOp? effect = some (lock, operation) →
      IsThere lock state
  isThere_apply : ∀ {lock state} effect, IsThere lock state →
    IsThere lock (machine.apply effect state)
  isThere_of_apply : ∀ {effect operation lock state}, lockOp? effect = some operation →
    IsThere lock (machine.apply effect state) → IsThere lock state
  lock_kept : ∀ {effect lock state}, lockOp? effect = none → IsThere lock state →
    lockOf lock (machine.apply effect state) = lockOf lock state
  lock_fresh : ∀ {effect lock state}, ¬IsThere lock state →
    IsThere lock (machine.apply effect state) → lockOf lock (machine.apply effect state) = {}

/-- Where a task is with the locks and with the tasks that it creates. -/
inductive LockStage (ι : Type)
  | away
  /-- It is in the queue of a lock. -/
  | queued (lock : ι)
  /-- Its turn has come. -/
  | granted (lock : ι)
  /-- Its wait was cut short. -/
  | dismissed (lock : ι)
  /-- It has created tasks and is about to wait for them. -/
  | forked (children : List Nat)

/-- The lock in whose queue a task is. -/
def LockStage.lock? : LockStage ι → Option ι
  | .queued lock => some lock
  | .granted lock => some lock
  | .dismissed lock => some lock
  | _ => none

/-- What a task has to do with the locks. -/
structure LockMode (ι : Type) where
  /-- The task takes locks of this rank and of higher ones. -/
  base : Nat
  isReliable : Bool
  /-- The locks that it holds, the last one first. -/
  held : List ι := []
  stage : LockStage ι := .away

/-- What the tasks that a task creates may be. -/
def LockMode.Trusts (mode : LockMode ι) (level : Nat) : Prop :=
  level ≤ mode.base ∧ mode.isReliable = true

section CanGoOn

/-- Something that happens by itself: no call is new, and nothing is raised from
outside. -/
def Action.isCalm : Action ρ ω κ ε → Bool
  | .start _ => false
  | .begin _ => true
  | .answer _ _ outcome => outcome.isOk
  | .join _ _ => true

/-- A task can go on by itself. -/
def Machine.CanGoOn [DecidableEq ρ]
    (machine : Machine σ η ρ ω κ ε υ)
    (system : System σ η ρ ω κ ε υ)
    (task : Nat) : Prop :=
  ∃ action next, action.task? = some task ∧ action.isCalm = true ∧
    machine.step system action = some next

end CanGoOn

namespace LockOrder

variable [DecidableEq ι] {machine : Machine σ η ρ ω κ ε υ} {contract : Contract machine}
variable (order : LockOrder contract ι)

/-- The rank from which on a task may take a lock. -/
def level (mode : LockMode ι) : Nat :=
  match mode.held with
  | [] => mode.base
  | lock :: _ => order.rank lock + 1

/-- The mode in which a call begins. -/
def initial (call : κ) : LockMode ι where
  base := order.floor call
  isReliable := order.isReliable call

/-- A task takes locks upwards and releases the last one first; a fork is for
reliable calls that take higher locks only. -/
def MayWrite (task : Nat) (mode : LockMode ι) (effect : η) : Prop :=
  match order.lockOp? effect with
  | some (lock, .take taker) =>
      taker = task ∧ mode.stage = .away ∧ order.level mode ≤ order.rank lock
  | some (lock, .enqueue waiter) =>
      waiter = task ∧ mode.stage = .away ∧ order.level mode ≤ order.rank lock
  | some (lock, .wake taker) =>
      taker = task ∧ mode.stage = .granted lock ∧ order.level mode ≤ order.rank lock
  | some (lock, .leave waiter) => waiter = task ∧ mode.stage = .dismissed lock
  | some (lock, .release) => mode.stage = .away ∧ mode.held.head? = some lock
  | none =>
      mode.stage = .away ∧ ∀ state, ∀ call ∈ machine.forks effect state,
        (order.initial call).Trusts (order.level mode)

/-- The mode after an effect. -/
def write (mode : LockMode ι) (effect : η) (created : List Nat) : LockMode ι :=
  match order.lockOp? effect with
  | some (lock, .take _) => { mode with held := lock :: mode.held }
  | some (lock, .enqueue _) => { mode with stage := .queued lock }
  | some (lock, .wake _) => { mode with held := lock :: mode.held, stage := .away }
  | some (_, .leave _) => { mode with stage := .away }
  | some (_, .release) => { mode with held := mode.held.tail }
  | none => if order.isFork effect then { mode with stage := .forked created } else mode

/-- A task awaits its turn when it is in a queue, and it leaves nobody waiting for
it when it awaits what need not come. -/
def MayAwait (mode : LockMode ι) (request : ρ) : Prop :=
  match order.turnOf request with
  | some lock => mode.stage = .queued lock ∧ order.level mode ≤ order.rank lock
  | none =>
      mode.stage = .away ∧
        (order.isIdle request = true → mode.held = [] ∧ mode.isReliable = false)

/-- The mode after the answer to a request. -/
def resume (mode : LockMode ι) (request : ρ) (outcome : Except ε (ω request)) : LockMode ι :=
  match order.turnOf request, outcome with
  | some lock, .ok _ => { mode with stage := .granted lock }
  | some lock, .error _ => { mode with stage := .dismissed lock }
  | none, _ => mode

/-- What the locks and the modes of the tasks have to do with each other. -/
structure Agrees (state : σ) (modes : List (LockMode ι)) : Prop where
  /-- The locks that tasks hold or wait for are there. -/
  there : ∀ (task : Nat) mode lock, modes[task]? = some mode →
    lock ∈ mode.held ∨ mode.stage.lock? = some lock → order.IsThere lock state
  /-- The holder of a lock knows that it holds it. -/
  holder : ∀ lock task, order.IsThere lock state →
    (order.lockOf lock state).holder = some task →
      ∃ mode, modes[task]? = some mode ∧ lock ∈ mode.held
  /-- The queue of a lock consists of the tasks that know that they wait for it. -/
  queue : ∀ lock (task : Nat) mode, order.IsThere lock state → modes[task]? = some mode →
    (task ∈ (order.lockOf lock state).waiters ↔ mode.stage.lock? = some lock)
  inside : ∀ lock task, order.IsThere lock state →
    task ∈ (order.lockOf lock state).waiters → task < modes.length
  nodup : ∀ lock, order.IsThere lock state → (order.lockOf lock state).waiters.Nodup
  /-- The locks of a task were taken upwards, from its base on. -/
  ordered : ∀ (task : Nat) mode, modes[task]? = some mode →
    mode.held.Pairwise fun later earlier => order.rank earlier < order.rank later
  based : ∀ (task : Nat) mode, modes[task]? = some mode → ∀ lock ∈ mode.held,
    mode.base ≤ order.rank lock
  /-- The tasks that a task waits for come after it and can be relied on. -/
  children : ∀ (task : Nat) mode created, modes[task]? = some mode →
    mode.stage = .forked created → ∀ child ∈ created,
      task < child ∧ ∃ other, modes[child]? = some other ∧ other.Trusts (order.level mode)

variable {order} {state : σ} {modes : List (LockMode ι)} {task : Nat} {mode : LockMode ι}

/-! ## The modes of one task -/

/-- The base is below the level. -/
theorem base_le_level (based : ∀ lock ∈ mode.held, mode.base ≤ order.rank lock) :
    mode.base ≤ order.level mode := by
  unfold level
  cases held : mode.held with
  | nil => exact Nat.le_refl _
  | cons lock rest =>
      exact Nat.le_succ_of_le (based lock (held ▸ List.mem_cons_self))

/-- Held locks are below the level. -/
theorem rank_lt_level
    {lock : ι}
    (ordered : mode.held.Pairwise fun later earlier => order.rank earlier < order.rank later)
    (member : lock ∈ mode.held) :
    order.rank lock < order.level mode := by
  unfold level
  cases held : mode.held with
  | nil => simp [held] at member
  | cons first rest =>
      rw [held] at ordered member
      obtain rfl | earlier := List.mem_cons.mp member
      · exact Nat.lt_succ_self _
      · exact Nat.lt_succ_of_lt ((List.pairwise_cons.mp ordered).1 lock earlier)

omit [DecidableEq ι] in
/-- After one mode has been replaced, a mode is the new one or an old one. -/
private theorem mode_set_cases
    {later found : LockMode ι}
    {other : Nat}
    (position : (modes.set task later)[other]? = some found) :
    (other = task ∧ found = later) ∨ other ≠ task ∧ modes[other]? = some found := by
  by_cases same : other = task
  · subst same
    obtain ⟨inside, rfl⟩ := List.getElem?_eq_some_iff.mp position
    exact .inl ⟨rfl, List.getElem_set_self _⟩
  · rw [List.getElem?_set_ne (Ne.symm same)] at position
    exact .inr ⟨same, position⟩

omit [DecidableEq ι] in
/-- Replacing a mode by one of the same nature does not disappoint those who wait. -/
private theorem trusts_set
    {later other : LockMode ι}
    {child level : Nat}
    (here : modes[task]? = some mode)
    (base : later.base = mode.base)
    (reliable : later.isReliable = mode.isReliable)
    (found : modes[child]? = some other)
    (trusts : other.Trusts level) :
    ∃ other, (modes.set task later)[child]? = some other ∧ other.Trusts level := by
  by_cases same : child = task
  · subst same
    cases here.symm.trans found
    exact ⟨later, List.getElem?_set_self (List.getElem?_eq_some_iff.mp here).1,
      base ▸ trusts.1, reliable ▸ trusts.2⟩
  · exact ⟨other, (List.getElem?_set_ne (Ne.symm same)).trans found, trusts⟩

namespace Agrees

/-- A task moves on and stays in the queue of the same lock; what it is going to
wait for can be relied on. -/
theorem restage
    {stage : LockStage ι}
    (agrees : order.Agrees state modes)
    (here : modes[task]? = some mode)
    (sameLock : stage.lock? = mode.stage.lock?)
    (reliable : ∀ created, stage = .forked created → ∀ child ∈ created,
      task < child ∧ ∃ other, modes[child]? = some other ∧ other.Trusts (order.level mode)) :
    order.Agrees state (modes.set task { mode with stage := stage }) := by
  constructor
  · intro other found lock position concerns
    obtain ⟨rfl, rfl⟩ | ⟨_, older⟩ := mode_set_cases position
    · exact agrees.there other mode lock here (sameLock ▸ concerns)
    · exact agrees.there other found lock older concerns
  · intro lock holder there held
    obtain ⟨before, found, member⟩ := agrees.holder lock holder there held
    by_cases same : holder = task
    · subst same
      cases here.symm.trans found
      exact ⟨_, List.getElem?_set_self (List.getElem?_eq_some_iff.mp here).1, member⟩
    · exact ⟨before, (List.getElem?_set_ne (Ne.symm same)).trans found, member⟩
  · intro lock other found there position
    obtain ⟨rfl, rfl⟩ | ⟨_, older⟩ := mode_set_cases position
    · exact (agrees.queue lock other mode there here).trans (by rw [← sameLock])
    · exact agrees.queue lock other found there older
  · intro lock waiter there member
    rw [List.length_set]
    exact agrees.inside lock waiter there member
  · exact agrees.nodup
  · intro other found position
    obtain ⟨rfl, rfl⟩ | ⟨_, older⟩ := mode_set_cases position
    · exact agrees.ordered other mode here
    · exact agrees.ordered other found older
  · intro other found position
    obtain ⟨rfl, rfl⟩ | ⟨_, older⟩ := mode_set_cases position
    · exact agrees.based other mode here
    · exact agrees.based other found older
  · intro other found created position forked child member
    obtain ⟨rfl, rfl⟩ | ⟨_, older⟩ := mode_set_cases position
    · obtain ⟨after, before, known, trusts⟩ := reliable created forked child member
      exact ⟨after, trusts_set here rfl rfl known trusts⟩
    · obtain ⟨after, before, known, trusts⟩ :=
        agrees.children other found created older forked child member
      exact ⟨after, trusts_set here rfl rfl known trusts⟩

/-- A task that is away stays as it is. -/
theorem keep
    (agrees : order.Agrees state modes)
    (here : modes[task]? = some mode)
    (away : mode.stage = .away) :
    order.Agrees state (modes.set task mode) := by
  have staged : order.Agrees state (modes.set task { mode with stage := .away }) :=
    agrees.restage here (by rw [away]) (by simp)
  rwa [← away] at staged

/-- A task performs an operation on a lock and knows of it. -/
theorem operate
    {effect : η}
    {lock : ι}
    {operation : LockOp}
    {later : LockMode ι}
    (agrees : order.Agrees state modes)
    (here : modes[task]? = some mode)
    (performs : order.lockOp? effect = some (lock, operation))
    (there : order.IsThere lock state)
    (base : later.base = mode.base)
    (reliable : later.isReliable = mode.isReliable)
    (unforked : ∀ created, later.stage ≠ .forked created)
    (heldOthers : ∀ other, other ≠ lock → (other ∈ later.held ↔ other ∈ mode.held))
    (queuedOthers : ∀ other, other ≠ lock →
      (later.stage.lock? = some other ↔ mode.stage.lock? = some other))
    (holds : ∀ holder, ((order.lockOf lock state).apply operation).holder = some holder →
      if holder = task then lock ∈ later.held
      else (order.lockOf lock state).holder = some holder)
    (waits : ∀ waiter, waiter ∈ ((order.lockOf lock state).apply operation).waiters ↔
      if waiter = task then later.stage.lock? = some lock
      else waiter ∈ (order.lockOf lock state).waiters)
    (nodup : ((order.lockOf lock state).apply operation).waiters.Nodup)
    (ordered : later.held.Pairwise fun later earlier => order.rank earlier < order.rank later)
    (based : ∀ lock ∈ later.held, later.base ≤ order.rank lock) :
    order.Agrees (machine.apply effect state) (modes.set task later) := by
  have inside := (List.getElem?_eq_some_iff.mp here).1
  have applied := fun other => order.lock_apply other state performs
  constructor
  · intro other found another position concerns
    apply order.isThere_apply
    by_cases same : another = lock
    · exact same ▸ there
    obtain ⟨rfl, rfl⟩ | ⟨_, older⟩ := mode_set_cases position
    · exact agrees.there other mode another here
        (concerns.imp (heldOthers another same).mp (queuedOthers another same).mp)
    · exact agrees.there other found another older concerns
  · intro another holder thereLater held
    have before := order.isThere_of_apply performs thereLater
    rw [applied] at held
    split at held
    · next same =>
        subst same
        have known := holds holder held
        split at known
        · next same =>
            subst same
            exact ⟨later, List.getElem?_set_self inside, known⟩
        · next apart =>
            obtain ⟨found, position, member⟩ := agrees.holder another holder before known
            exact ⟨found, (List.getElem?_set_ne (Ne.symm apart)).trans position, member⟩
    · next apart =>
        obtain ⟨found, position, member⟩ := agrees.holder another holder before held
        by_cases same : holder = task
        · subst same
          cases here.symm.trans position
          exact ⟨later, List.getElem?_set_self inside, (heldOthers another apart).mpr member⟩
        · exact ⟨found, (List.getElem?_set_ne (Ne.symm same)).trans position, member⟩
  · intro another other found thereLater position
    have before := order.isThere_of_apply performs thereLater
    rw [applied]
    split
    · next same =>
        subst same
        rw [waits]
        obtain ⟨rfl, rfl⟩ | ⟨apart, older⟩ := mode_set_cases position
        · rw [if_pos rfl]
        · rw [if_neg apart]
          exact agrees.queue another other found there older
    · next apart =>
        obtain ⟨rfl, rfl⟩ | ⟨_, older⟩ := mode_set_cases position
        · exact (agrees.queue another other mode before here).trans
            (queuedOthers another apart).symm
        · exact agrees.queue another other found before older
  · intro another waiter thereLater member
    have before := order.isThere_of_apply performs thereLater
    rw [List.length_set]
    rw [applied] at member
    split at member
    · next same =>
        subst same
        by_cases same : waiter = task
        · exact same ▸ inside
        · rw [waits, if_neg same] at member
          exact agrees.inside another waiter there member
    · exact agrees.inside another waiter before member
  · intro another thereLater
    have before := order.isThere_of_apply performs thereLater
    rw [applied]
    split
    · next same => exact nodup
    · exact agrees.nodup another before
  · intro other found position
    obtain ⟨rfl, rfl⟩ | ⟨_, older⟩ := mode_set_cases position
    · exact ordered
    · exact agrees.ordered other found older
  · intro other found position
    obtain ⟨rfl, rfl⟩ | ⟨_, older⟩ := mode_set_cases position
    · exact based
    · exact agrees.based other found older
  · intro other found created position forked child member
    obtain ⟨rfl, rfl⟩ | ⟨_, older⟩ := mode_set_cases position
    · exact absurd forked (unforked created)
    · obtain ⟨after, before, known, trusts⟩ :=
        agrees.children other found created older forked child member
      exact ⟨after, trusts_set here base reliable known trusts⟩

/-- A lock operation of the protocol. -/
theorem writeLock
    {effect : η}
    {lock : ι}
    {operation : LockOp}
    (agrees : order.Agrees state modes)
    (here : modes[task]? = some mode)
    (performs : order.lockOp? effect = some (lock, operation))
    (there : order.IsThere lock state)
    (fitting : order.MayWrite task mode effect)
    (created : List Nat) :
    order.Agrees (machine.apply effect state)
      (modes.set task (order.write mode effect created)) := by
  have queued := fun waiter found => agrees.queue lock waiter found there
  have ordered := agrees.ordered task mode here
  have based := agrees.based task mode here
  have nodup := agrees.nodup lock there
  have taken : order.level mode ≤ order.rank lock →
      (lock :: mode.held).Pairwise fun later earlier => order.rank earlier < order.rank later := by
    intro above
    refine List.pairwise_cons.mpr ⟨fun other member => ?_, ordered⟩
    exact Nat.lt_of_lt_of_le (rank_lt_level ordered member) above
  have rooted : order.level mode ≤ order.rank lock →
      ∀ other ∈ lock :: mode.held, mode.base ≤ order.rank other := by
    intro above other member
    obtain rfl | earlier := List.mem_cons.mp member
    · exact Nat.le_trans (base_le_level based) above
    · exact based other earlier
  have consOthers : ∀ other, other ≠ lock → (other ∈ lock :: mode.held ↔ other ∈ mode.held) :=
    fun other apart => by simp [apart]
  cases operation with
  | take taker =>
      simp only [MayWrite, performs] at fitting
      obtain ⟨rfl, away, above⟩ := fitting
      have absent : taker ∉ (order.lockOf lock state).waiters := by
        rw [queued taker mode here, away]
        simp [LockStage.lock?]
      simp only [write, performs]
      refine agrees.operate here performs there rfl rfl (by simp [away]) consOthers
        (fun _ _ => Iff.rfl) ?_ ?_ nodup (taken above) (rooted above)
      · intro holder held
        obtain rfl := Option.some.inj held
        rw [if_pos rfl]
        exact List.mem_cons_self
      · intro waiter
        split
        · next same => simpa [AsyncLock.apply, same, away, LockStage.lock?] using absent
        · exact Iff.rfl
  | enqueue waiter =>
      simp only [MayWrite, performs] at fitting
      obtain ⟨rfl, away, above⟩ := fitting
      have absent : waiter ∉ (order.lockOf lock state).waiters := by
        rw [queued waiter mode here, away]
        simp [LockStage.lock?]
      simp only [write, performs]
      refine agrees.operate here performs there rfl rfl (by simp) (fun _ _ => Iff.rfl)
        ?_ ?_ ?_ ?_ ordered based
      · intro other apart
        simp [away, LockStage.lock?, apart.symm]
      · intro holder held
        split
        · next same =>
            subst same
            obtain ⟨found, position, member⟩ := agrees.holder lock holder there held
            cases here.symm.trans position
            exact member
        · exact held
      · intro other
        split
        · next same => simp [AsyncLock.apply, LockStage.lock?, same]
        · next apart => simp [AsyncLock.apply, apart]
      · exact nodup.append (List.nodup_singleton waiter) (by simpa using absent)
  | wake taker =>
      simp only [MayWrite, performs] at fitting
      obtain ⟨rfl, granted, above⟩ := fitting
      simp only [write, performs]
      refine agrees.operate here performs there rfl rfl (by simp) consOthers ?_ ?_ ?_
        (nodup.erase taker) (taken above) (rooted above)
      · intro other apart
        simp [granted, LockStage.lock?, apart.symm]
      · intro holder held
        obtain rfl := Option.some.inj held
        rw [if_pos rfl]
        exact List.mem_cons_self
      · intro waiter
        split
        · next same =>
            subst same
            simpa [AsyncLock.apply, LockStage.lock?] using nodup.not_mem_erase
        · next apart => simpa [AsyncLock.apply] using List.mem_erase_of_ne apart
  | leave waiter =>
      simp only [MayWrite, performs] at fitting
      obtain ⟨rfl, dismissed⟩ := fitting
      simp only [write, performs]
      refine agrees.operate here performs there rfl rfl (by simp) (fun _ _ => Iff.rfl) ?_ ?_ ?_
        (nodup.erase waiter) ordered based
      · intro other apart
        simp [dismissed, LockStage.lock?, apart.symm]
      · intro holder held
        split
        · next same =>
            subst same
            obtain ⟨found, position, member⟩ := agrees.holder lock holder there held
            cases here.symm.trans position
            exact member
        · exact held
      · intro other
        split
        · next same =>
            subst same
            simpa [AsyncLock.apply, LockStage.lock?] using nodup.not_mem_erase
        · next apart => simpa [AsyncLock.apply] using List.mem_erase_of_ne apart
  | release =>
      simp only [MayWrite, performs] at fitting
      obtain ⟨away, first⟩ := fitting
      obtain ⟨rest, held⟩ := List.head?_eq_some_iff.mp first
      rw [held] at ordered based
      simp only [write, performs, held, List.tail_cons]
      refine agrees.operate here performs there rfl rfl (by simp [away]) ?_
        (fun _ _ => Iff.rfl) (by simp [AsyncLock.apply]) ?_ nodup
        (List.pairwise_cons.mp ordered).2 fun other member =>
          based other (List.mem_cons_of_mem lock member)
      · intro other apart
        simp [held, apart]
      · intro waiter
        split
        · next same =>
            subst same
            exact queued waiter mode here
        · exact Iff.rfl

/-- An effect without a lock operation leaves the locks as they are. -/
theorem keepLocks
    {effect : η}
    (agrees : order.Agrees state modes)
    (foreign : order.lockOp? effect = none) :
    order.Agrees (machine.apply effect state) modes := by
  have cases : ∀ lock, order.IsThere lock (machine.apply effect state) →
      order.IsThere lock state ∧
          order.lockOf lock (machine.apply effect state) = order.lockOf lock state ∨
        ¬order.IsThere lock state ∧ order.lockOf lock (machine.apply effect state) = {} := by
    intro lock there
    by_cases before : order.IsThere lock state
    · exact .inl ⟨before, order.lock_kept foreign before⟩
    · exact .inr ⟨before, order.lock_fresh before there⟩
  constructor
  · exact fun other found lock position concerns =>
      order.isThere_apply effect (agrees.there other found lock position concerns)
  · intro lock holder there held
    obtain ⟨before, same⟩ | ⟨_, fresh⟩ := cases lock there
    · exact agrees.holder lock holder before (same ▸ held)
    · rw [fresh] at held
      cases held
  · intro lock other found there position
    obtain ⟨before, same⟩ | ⟨absent, fresh⟩ := cases lock there
    · rw [same]
      exact agrees.queue lock other found before position
    · rw [fresh]
      refine iff_of_false (List.not_mem_nil) fun waits => ?_
      exact absent (agrees.there other found lock position (.inr waits))
  · intro lock waiter there member
    obtain ⟨before, same⟩ | ⟨_, fresh⟩ := cases lock there
    · exact agrees.inside lock waiter before (same ▸ member)
    · rw [fresh] at member
      cases member
  · intro lock there
    obtain ⟨before, same⟩ | ⟨_, fresh⟩ := cases lock there
    · rw [same]
      exact agrees.nodup lock before
    · rw [fresh]
      exact List.nodup_nil
  · exact agrees.ordered
  · exact agrees.based
  · exact agrees.children

/-- Tasks that are created hold no locks and wait for nothing. -/
theorem extend
    (agrees : order.Agrees state modes)
    (calls : List κ) :
    order.Agrees state (modes ++ calls.map order.initial) := by
  have cases : ∀ {other : Nat} {found : LockMode ι},
      (modes ++ calls.map order.initial)[other]? = some found →
        modes[other]? = some found ∨ modes.length ≤ other ∧ ∃ call, found = order.initial call := by
    intro other found position
    rw [List.getElem?_append] at position
    split at position
    · exact .inl position
    · next outside =>
        obtain ⟨call, _, rfl⟩ := List.mem_map.mp (List.mem_of_getElem? position)
        exact .inr ⟨Nat.le_of_not_lt outside, call, rfl⟩
  have kept : ∀ {other : Nat} {found : LockMode ι}, modes[other]? = some found →
      (modes ++ calls.map order.initial)[other]? = some found := by
    intro other found position
    exact (List.getElem?_append_left (List.getElem?_eq_some_iff.mp position).1).trans position
  constructor
  · intro other found lock position concerns
    obtain older | ⟨_, call, rfl⟩ := cases position
    · exact agrees.there other found lock older concerns
    · simp [initial, LockStage.lock?] at concerns
  · intro lock holder there held
    obtain ⟨found, position, member⟩ := agrees.holder lock holder there held
    exact ⟨found, kept position, member⟩
  · intro lock other found there position
    obtain older | ⟨outside, call, rfl⟩ := cases position
    · exact agrees.queue lock other found there older
    · refine iff_of_false (fun member => ?_) (by simp [initial, LockStage.lock?])
      exact Nat.not_lt.mpr outside (agrees.inside lock other there member)
  · intro lock waiter there member
    have inside := agrees.inside lock waiter there member
    rw [List.length_append]
    exact Nat.lt_add_right _ inside
  · exact agrees.nodup
  · intro other found position
    obtain older | ⟨_, call, rfl⟩ := cases position
    · exact agrees.ordered other found older
    · exact List.Pairwise.nil
  · intro other found position
    obtain older | ⟨_, call, rfl⟩ := cases position
    · exact agrees.based other found older
    · simp [initial]
  · intro other found created position forked child member
    obtain older | ⟨_, call, rfl⟩ := cases position
    · obtain ⟨after, before, known, trusts⟩ :=
        agrees.children other found created older forked child member
      exact ⟨after, before, kept known, trusts⟩
    · simp [initial] at forked

/-- An effect without a lock operation, and the tasks that it creates. -/
theorem writePlain
    {effect : η}
    (agrees : order.Agrees state modes)
    (here : modes[task]? = some mode)
    (foreign : order.lockOp? effect = none)
    (fitting : order.MayWrite task mode effect) :
    order.Agrees (machine.apply effect state)
      (modes.set task (order.write mode effect
        (List.range' modes.length (machine.forks effect state).length)) ++
          (machine.forks effect state).map order.initial) := by
  have inside := (List.getElem?_eq_some_iff.mp here).1
  have extended := (agrees.keepLocks foreign).extend (machine.forks effect state)
  simp only [MayWrite, foreign] at fitting
  obtain ⟨away, trusted⟩ := fitting
  have kept : (modes ++ (machine.forks effect state).map order.initial)[task]? = some mode :=
    (List.getElem?_append_left inside).trans here
  rw [← List.set_append_left _ _ inside]
  simp only [write, foreign]
  cases forks : order.isFork effect with
  | false =>
      rw [if_neg Bool.false_ne_true]
      exact extended.keep kept away
  | true =>
      rw [if_pos rfl]
      apply extended.restage kept (by rw [away]; rfl)
      intro created same child member
      obtain rfl := LockStage.forked.inj same
      obtain ⟨after, before⟩ := List.mem_range'_1.mp member
      refine ⟨Nat.lt_of_lt_of_le inside after, ?_⟩
      have position : child - modes.length < (machine.forks effect state).length := by omega
      refine ⟨order.initial (machine.forks effect state)[child - modes.length], ?_,
        trusted state _ (List.getElem_mem position)⟩
      rw [List.getElem?_append_right after]
      simp [position]

end Agrees

/-! ## The protocol -/

/-- Nothing is held and nobody waits before the first call. -/
theorem agrees_nil {state : σ}
    (free : ∀ lock, order.IsThere lock state → order.lockOf lock state = {}) :
    order.Agrees state [] := by
  constructor <;> simp +contextual [free]

/-- The protocol of tasks that take their locks in order. -/
def protocol (order : LockOrder contract ι) : Protocol contract (LockMode ι) where
  initial := order.initial
  mayWrite := order.MayWrite
  write _ := order.write
  mayAwait _ := order.MayAwait
  await := order.resume
  mayJoin mode children := mode.stage = .forked children
  join mode := { mode with stage := .away }
  mayEnd mode := mode.stage = .away ∧ mode.held = []
  inv := order.Agrees
  inv_start call agrees := agrees.extend [call]
  inv_write {state modes task mode effect} agrees here fitting permitted := by
    cases performs : order.lockOp? effect with
    | none => exact agrees.writePlain here performs fitting
    | some operation =>
        rw [order.forks_eq_nil effect state (order.isFork_of_lockOp performs), List.map_nil,
          List.append_nil]
        exact agrees.writeLock here performs (order.isThere_of_lockOp permitted performs) fitting _
  inv_await {state modes task mode request} outcome agrees here fitting _ := by
    simp only [MayAwait] at fitting
    simp only [resume]
    cases awaited : order.turnOf request with
    | none =>
        rw [awaited] at fitting
        exact agrees.keep here fitting.1
    | some lock =>
        rw [awaited] at fitting
        have waiting : mode.stage.lock? = some lock := by rw [fitting.1]; rfl
        cases outcome with
        | ok value => exact agrees.restage here waiting.symm (by simp)
        | error fault => exact agrees.restage here waiting.symm (by simp)
  inv_join {state modes task mode children} agrees here forked := by
    exact agrees.restage here (by rw [forked]; rfl) (by simp)

/-! ## Programs that leave the locks as they found them -/

section Balanced

open Coroutine

variable {β : Type}

/-- A program keeps to the protocol and comes back to the mode in which it began. -/
def Balanced
    (order : LockOrder contract ι)
    (task : Nat)
    (mode : LockMode ι)
    (program : Coroutine σ η ρ ω ε υ α) : Prop :=
  order.protocol.Keeps task program (fun _ later => later = mode) mode

theorem Balanced.bind
    {program : Coroutine σ η ρ ω ε υ α}
    {next : α → Coroutine σ η ρ ω ε υ β}
    (balanced : order.Balanced task mode program)
    (continues : ∀ value, order.Balanced task mode (next value)) :
    order.Balanced task mode (program >>= next) := by
  rw [Balanced, Protocol.keeps_bind]
  apply Protocol.Keeps.mono balanced
  rintro outcome later rfl
  cases outcome with
  | ok value => exact continues value
  | error fault => rfl

theorem Balanced.attempt
    {program : Coroutine σ η ρ ω ε υ α}
    (balanced : order.Balanced task mode program) :
    order.Balanced task mode program.attempt := by
  rw [Balanced, Protocol.keeps_attempt]
  exact balanced

theorem balanced_pure (value : α) :
    order.Balanced task mode (pure value : Coroutine σ η ρ ω ε υ α) := rfl

theorem balanced_raise (fault : ε) :
    order.Balanced task mode (raise fault : Coroutine σ η ρ ω ε υ α) := rfl

theorem balanced_conclude (outcome : Except ε α) :
    order.Balanced task mode (conclude outcome : Coroutine σ η ρ ω ε υ α) := rfl

theorem balanced_currentTask :
    order.Balanced task mode (currentTask : Coroutine σ η ρ ω ε υ Nat) := rfl

theorem balanced_gets (part : σ → α) :
    order.Balanced task mode (gets part : Coroutine σ η ρ ω ε υ α) := fun _ => rfl

/-- An effect that is neither a lock operation nor a fork. -/
theorem balanced_emit
    {effect : η}
    (away : mode.stage = .away)
    (foreign : order.lockOp? effect = none)
    (single : order.isFork effect = false) :
    order.Balanced task mode (emit effect : Coroutine σ η ρ ω ε υ Unit) := by
  refine ⟨?_, fun created => ?_⟩
  · simp only [protocol, MayWrite, foreign, order.forks_eq_nil _ _ single]
    exact ⟨away, by simp⟩
  · change order.write mode effect created = mode
    simp [write, foreign, single]

/-- A request that is no turn of a lock and that is answered. -/
theorem balanced_await
    {request : ρ}
    (away : mode.stage = .away)
    (foreign : order.turnOf request = none)
    (answered : order.isIdle request = true → mode.held = [] ∧ mode.isReliable = false) :
    order.Balanced task mode (await request : Coroutine σ η ρ ω ε υ (ω request)) := by
  refine ⟨?_, fun outcome => ?_⟩
  · simp only [protocol, MayAwait, foreign]
    exact ⟨away, answered⟩
  · change order.resume mode request outcome = mode
    simp [resume, foreign]

/-- To create tasks that can be relied on and wait for them. -/
theorem balanced_emitAndJoin
    {effect : η}
    (away : mode.stage = .away)
    (foreign : order.lockOp? effect = none)
    (forks : order.isFork effect = true)
    (trusted : ∀ state, ∀ call ∈ machine.forks effect state,
      (order.initial call).Trusts (order.level mode)) :
    order.Balanced task mode (emitAndJoin effect : Coroutine σ η ρ ω ε υ (List υ)) := by
  refine ⟨?_, fun created => ⟨?_, fun outcome => ?_⟩⟩
  · simp only [protocol, MayWrite, foreign]
    exact ⟨away, trusted⟩
  · change (order.write mode effect created).stage = _
    simp [write, foreign, forks]
  · change { order.write mode effect created with stage := LockStage.away } = mode
    simp only [write, foreign, forks, if_true]
    rw [← away]

/-- A program under a lock, which the task may take from where it is. -/
theorem balanced_withLock
    {program : Coroutine σ η ρ ω ε υ α}
    {lockOf : σ → AsyncLock}
    {op : LockOp → η}
    {turn : ρ}
    {lock : ι}
    (away : mode.stage = .away)
    (operates : ∀ operation, order.lockOp? (op operation) = some (lock, operation))
    (waits : order.turnOf turn = some lock)
    (above : order.level mode ≤ order.rank lock)
    (balanced : order.Balanced task { mode with held := lock :: mode.held } program) :
    order.Balanced task mode (withLock lockOf op turn program) := by
  have restored : { mode with stage := LockStage.away } = mode := by rw [← away]
  have under : order.protocol.Keeps task (holding op program) (fun _ later => later = mode)
      { mode with held := lock :: mode.held } := by
    rw [holding, Protocol.keeps_bind, Protocol.keeps_attempt]
    apply Protocol.Keeps.mono balanced
    rintro outcome later rfl
    refine ⟨?_, fun created => ?_⟩
    · simp only [protocol, MayWrite, operates]
      exact ⟨away, rfl⟩
    · change order.write _ _ created = mode
      simp [write, operates]
  have taken : ∀ created, order.write mode (op (.take task)) created =
      { mode with held := lock :: mode.held } := fun created => by simp [write, operates]
  have queued : ∀ created, order.write mode (op (.enqueue task)) created =
      { mode with stage := .queued lock } := fun created => by simp [write, operates]
  have woken : ∀ created, order.write { mode with stage := .granted lock } (op (.wake task))
      created = { mode with held := lock :: mode.held } := fun created => by
    simp [write, operates, away]
  have left : ∀ created, order.write { mode with stage := .dismissed lock } (op (.leave task))
      created = mode := fun created => by simpa [write, operates] using restored
  rw [withLock_eq]
  intro state
  dsimp only
  split
  · refine ⟨?_, fun created => ?_⟩
    · simp only [protocol, MayWrite, operates]
      exact ⟨trivial, away, above⟩
    · change order.protocol.Keeps task _ _ (order.write _ _ created)
      rw [taken]
      exact under
  · refine ⟨?_, fun created => ?_⟩
    · simp only [protocol, MayWrite, operates]
      exact ⟨trivial, away, above⟩
    · change order.protocol.Keeps task _ _ (order.write _ _ created)
      rw [queued]
      refine ⟨?_, fun outcome => ?_⟩
      · simp only [protocol, MayAwait, waits]
        exact ⟨trivial, above⟩
      · change order.protocol.Keeps task _ _ (order.resume _ turn outcome)
        simp only [resume, waits]
        cases outcome with
        | ok value =>
            refine ⟨?_, fun created => ?_⟩
            · simp only [protocol, MayWrite, operates]
              exact ⟨trivial, trivial, above⟩
            · change order.protocol.Keeps task _ _ (order.write _ _ created)
              rw [woken]
              exact under
        | error fault =>
            refine ⟨?_, fun created => ?_⟩
            · simp only [protocol, MayWrite, operates]
              exact ⟨trivial, trivial⟩
            · exact left created

end Balanced

/-! ## Progress -/

section Progress

/-- A task has not ended, and does not await what need not come. -/
def UnderWay (order : LockOrder contract ι) (status : Status σ η ρ ω ε υ) : Prop :=
  status.outcome? = none ∧
    ∀ request, status.request? = some request → order.isIdle request = false

/-- A task waits for another one: for the holder of a lock, for the first in the
queue of a free lock, or for a task that it created. -/
inductive WaitsFor
    (order : LockOrder contract ι)
    (system : System σ η ρ ω κ ε υ) : Nat → Nat → Prop
  | holder {task other call request next lock}
      (found : system.tasks[task]? = some ⟨call, .awaiting request next⟩)
      (awaited : order.turnOf request = some lock)
      (held : (order.lockOf lock system.state).holder = some other) :
      WaitsFor order system task other
  | ahead {task other call request next lock}
      (found : system.tasks[task]? = some ⟨call, .awaiting request next⟩)
      (awaited : order.turnOf request = some lock)
      (free : (order.lockOf lock system.state).holder = none)
      (first : (order.lockOf lock system.state).waiters.head? = some other)
      (apart : other ≠ task) :
      WaitsFor order system task other
  | child {task other call children next entry}
      (found : system.tasks[task]? = some ⟨call, .joining children next⟩)
      (member : other ∈ children)
      (created : system.tasks[other]? = some entry)
      (running : entry.status.outcome? = none) :
      WaitsFor order system task other

variable {system : System σ η ρ ω κ ε υ} {call : κ} {lock : ι}

/-- A task in the queue of a lock awaits its turn. -/
theorem exists_awaiting_of_queued
    {entry : Task σ η ρ ω κ ε υ}
    (fits : order.protocol.Fits task entry mode)
    (queued : mode.stage.lock? = some lock) :
    ∃ call request next, entry = ⟨call, .awaiting request next⟩ ∧
      order.turnOf request = some lock := by
  obtain ⟨call, status⟩ := entry
  cases status with
  | created =>
      cases fits
      cases queued
  | awaiting request next =>
      have fitting : order.MayAwait mode request := fits.1
      simp only [MayAwait] at fitting
      cases awaited : order.turnOf request with
      | none =>
          rw [awaited] at fitting
          rw [fitting.1] at queued
          cases queued
      | some other =>
          rw [awaited] at fitting
          rw [fitting.1] at queued
          cases queued
          exact ⟨call, request, next, rfl, awaited⟩
  | joining children next =>
      have forked : mode.stage = .forked children := fits.1
      rw [forked] at queued
      cases queued
  | ended outcome =>
      have away : mode.stage = .away := fits.1
      rw [away] at queued
      cases queued

/-- The holder of a lock is under way. -/
theorem underWay_of_held
    {entry : Task σ η ρ ω κ ε υ}
    (fits : order.protocol.Fits task entry mode)
    (held : lock ∈ mode.held) :
    order.UnderWay entry.status := by
  obtain ⟨call, status⟩ := entry
  cases status with
  | created =>
      cases fits
      cases held
  | awaiting request next =>
      refine ⟨rfl, fun asked same => ?_⟩
      cases same
      have fitting : order.MayAwait mode request := fits.1
      simp only [MayAwait] at fitting
      cases awaited : order.turnOf request with
      | none =>
          rw [awaited] at fitting
          by_contra idle
          have alone := (fitting.2 (Bool.of_not_eq_false idle)).1
          simp [alone] at held
      | some other => exact order.isIdle_of_turn awaited
  | joining children next => exact ⟨rfl, nofun⟩
  | ended outcome =>
      have nothing : mode.held = [] := fits.2
      simp [nothing] at held

/-- Once no task is under way any more, every lock is free and nobody waits for
it. -/
theorem free_of_finished
    (describes : order.protocol.Describes modes system)
    (finished : system.Finished)
    (there : order.IsThere lock system.state) :
    order.lockOf lock system.state = {} := by
  have agrees : order.Agrees system.state modes := describes.inv
  have atRest : ∀ (task : Nat) mode, modes[task]? = some mode →
      mode.stage = .away ∧ mode.held = [] := by
    intro task mode here
    have inside : task < system.tasks.length :=
      describes.length ▸ (List.getElem?_eq_some_iff.mp here).1
    have found := List.getElem?_eq_getElem inside
    have fits := describes.fits task _ mode found here
    have ended := finished _ (List.getElem_mem inside)
    generalize system.tasks[task] = entry at fits ended
    obtain ⟨call, status⟩ := entry
    cases status with
    | ended outcome => exact fits
    | created | awaiting request next | joining children next => cases ended
  have vacant : (order.lockOf lock system.state).holder = none := by
    by_contra held
    obtain ⟨holder, held⟩ := Option.ne_none_iff_exists'.mp held
    obtain ⟨mode, here, member⟩ := agrees.holder lock holder there held
    rw [(atRest holder mode here).2] at member
    cases member
  have empty : (order.lockOf lock system.state).waiters = [] := by
    rw [List.eq_nil_iff_forall_not_mem]
    intro waiter member
    have here := List.getElem?_eq_getElem (agrees.inside lock waiter there member)
    have waits := (agrees.queue lock waiter _ there here).mp member
    rw [(atRest waiter _ here).1] at waits
    cases waits
  generalize order.lockOf lock system.state = held at vacant empty
  obtain ⟨holder, waiters⟩ := held
  cases vacant
  cases empty
  rfl

/-- A task that others wait for is under way until it ends. -/
theorem underWay_of_trusted
    {entry : Task σ η ρ ω κ ε υ}
    {level : Nat}
    (fits : order.protocol.Fits task entry mode)
    (trusts : mode.Trusts level)
    (unfinished : entry.status.outcome? = none) :
    order.UnderWay entry.status := by
  refine ⟨unfinished, fun asked same => ?_⟩
  obtain ⟨call, status⟩ := entry
  cases status with
  | awaiting request next =>
      cases same
      have fitting : order.MayAwait mode asked := fits.1
      simp only [MayAwait] at fitting
      cases awaited : order.turnOf asked with
      | none =>
          rw [awaited] at fitting
          by_contra idle
          have unreliable := (fitting.2 (Bool.of_not_eq_false idle)).2
          cases trusts.2.symm.trans unreliable
      | some other => exact order.isIdle_of_turn awaited
  | created | joining children next | ended outcome => cases same

variable [DecidableEq ρ]

omit [DecidableEq ι] in
/-- Once all its children have ended, a task can go on. -/
theorem canGoOn_of_ended
    {children : List Nat}
    {next : Except ε (List υ) → Coroutine σ η ρ ω ε υ υ}
    (found : system.tasks[task]? = some ⟨call, .joining children next⟩)
    (ended : ∀ child ∈ children, ∃ call outcome,
      system.tasks[child]? = some ⟨call, .ended outcome⟩) :
    machine.CanGoOn system task := by
  have joins : ∀ failed outcome, system.joined children failed = some outcome →
      machine.CanGoOn system task := by
    intro failed outcome joined
    refine ⟨.join task failed, machine.advance task (next outcome) system, rfl, rfl, ?_⟩
    simp [Machine.step, found, joined]
  by_cases raised : ∃ child ∈ children, ∃ call fault,
      system.tasks[child]? = some ⟨call, .ended (.error fault)⟩
  · obtain ⟨child, member, call, fault, position⟩ := raised
    apply joins (some child) (.error fault)
    simp [System.joined, member, System.raisedBy, System.status?, position]
  · have returned : ∀ child ∈ children, ∃ value, system.returned child = some value := by
      intro child member
      obtain ⟨call, outcome, position⟩ := ended child member
      cases outcome with
      | ok value => exact ⟨value, by simp [System.returned, System.status?, position]⟩
      | error fault => exact absurd ⟨child, member, call, fault, position⟩ raised
    obtain ⟨results, collected⟩ : ∃ results, children.mapM system.returned = some results := by
      clear found ended joins raised
      induction children with
      | nil => exact ⟨[], rfl⟩
      | cons child rest inductionHypothesis =>
          obtain ⟨value, here⟩ := returned child List.mem_cons_self
          obtain ⟨values, there⟩ := inductionHypothesis fun other member =>
            returned other (List.mem_cons_of_mem child member)
          exact ⟨value :: values, by simp [List.mapM_cons, here, there]⟩
    apply joins none (.ok results)
    simp [System.joined, collected]

/-- Where locks are taken in order nobody waits for ever: from a task that is under
way the tasks that wait for each other lead to one that can go on. -/
theorem canGoOn_of_underWay
    {bound : Nat}
    (bounded : ∀ lock, order.rank lock < bound)
    (answers : ∀ task request state, order.turnOf request = none →
      order.isIdle request = false →
        ∃ value, machine.admits task request (.ok value) state = true)
    (grants : ∀ task request lock state, order.turnOf request = some lock →
      (order.lockOf lock state).isTurn task = true →
        ∃ value, machine.admits task request (.ok value) state = true)
    (describes : order.protocol.Describes modes system)
    (task : Nat)
    (mode : LockMode ι)
    (entry : Task σ η ρ ω κ ε υ)
    (found : system.tasks[task]? = some entry)
    (here : modes[task]? = some mode)
    (underWay : order.UnderWay entry.status) :
    ∃ last, Relation.ReflTransGen (order.WaitsFor system) task last ∧
      machine.CanGoOn system last := by
  have agrees : order.Agrees system.state modes := describes.inv
  have fits := describes.fits task entry mode found here
  have answered : ∀ {task call request next} value,
      system.tasks[task]? = some ⟨call, .awaiting request next⟩ →
        machine.admits task request (.ok value) system.state = true →
          machine.CanGoOn system task := by
    intro task call request next value found admitted
    refine ⟨.answer task request (.ok value), machine.advance task (next (.ok value)) system,
      rfl, rfl, ?_⟩
    rw [Machine.step_answer found, if_pos admitted]
  obtain ⟨call, status⟩ := entry
  cases status with
  | ended outcome => cases underWay.1
  | created =>
      refine ⟨task, .refl, .begin task, machine.advance task (machine.body call) system, rfl,
        rfl, ?_⟩
      simp only [Machine.step, found]
  | awaiting request next =>
      cases awaited : order.turnOf request with
      | none =>
          obtain ⟨value, admitted⟩ :=
            answers task request system.state awaited (underWay.2 request rfl)
          exact ⟨task, .refl, answered value found admitted⟩
      | some lock =>
          have fitting : order.MayAwait mode request := fits.1
          simp only [MayAwait, awaited] at fitting
          obtain ⟨queued, above⟩ := fitting
          have waits : mode.stage.lock? = some lock := by rw [queued]; rfl
          have there := agrees.there task mode lock here (.inr waits)
          cases held : (order.lockOf lock system.state).holder with
          | none =>
              -- the lock is free, so whoever is first in its queue takes it
              have inQueue := (agrees.queue lock task mode there here).mpr waits
              obtain ⟨first, rest, waiters⟩ := List.exists_cons_of_ne_nil
                (List.ne_nil_of_mem inQueue)
              have head : (order.lockOf lock system.state).waiters.head? = some first := by
                rw [waiters]
                rfl
              have member := List.mem_of_mem_head? head
              have inside := agrees.inside lock first there member
              have firstMode := List.getElem?_eq_getElem inside
              have firstWaits := (agrees.queue lock first _ there firstMode).mp member
              have position := List.getElem?_eq_getElem (describes.length ▸ inside)
              obtain ⟨_, asked, resume, waiting, turn⟩ := exists_awaiting_of_queued
                (describes.fits first _ _ position firstMode) firstWaits
              obtain ⟨value, admitted⟩ := grants first asked lock system.state turn
                (AsyncLock.isTurn_iff.mpr ⟨held, head⟩)
              refine ⟨first, ?_, answered value (position.trans (congrArg some waiting)) admitted⟩
              by_cases same : first = task
              · exact same ▸ .refl
              · exact .single (.ahead found awaited held head same)
          | some holder =>
              -- the holder takes higher locks only
              obtain ⟨holding, position, member⟩ := agrees.holder lock holder there held
              have inside : holder < system.tasks.length :=
                describes.length ▸ (List.getElem?_eq_some_iff.mp position).1
              have holderFound := List.getElem?_eq_getElem inside
              have higher := rank_lt_level (agrees.ordered holder holding position) member
              have below := bounded lock
              obtain ⟨last, chain, goesOn⟩ := canGoOn_of_underWay bounded answers grants
                describes holder holding _ holderFound position (underWay_of_held
                  (describes.fits holder _ _ holderFound position) member)
              exact ⟨last, .head (.holder found awaited held) chain, goesOn⟩
  | joining children next =>
      have forked : mode.stage = .forked children := fits.1
      have reliable := agrees.children task mode children here forked
      by_cases unfinished : ∃ child ∈ children, ∃ entry, system.tasks[child]? = some entry ∧
          entry.status.outcome? = none
      · obtain ⟨child, member, entry, childFound, running⟩ := unfinished
        obtain ⟨after, childMode, childHere, trusts⟩ := reliable child member
        have inside := (List.getElem?_eq_some_iff.mp childFound).1
        have based : childMode.base ≤ order.level childMode :=
          base_le_level (agrees.based child childMode childHere)
        have level := Nat.le_trans trusts.1 based
        obtain ⟨last, chain, goesOn⟩ := canGoOn_of_underWay bounded answers grants
          describes child childMode entry childFound childHere (underWay_of_trusted
            (describes.fits child _ _ childFound childHere) trusts running)
        exact ⟨last, .head (.child found member childFound running) chain, goesOn⟩
      · refine ⟨task, .refl, canGoOn_of_ended found ?_⟩
        intro child member
        obtain ⟨_, childMode, childHere, _⟩ := reliable child member
        have inside : child < system.tasks.length :=
          describes.length ▸ (List.getElem?_eq_some_iff.mp childHere).1
        have position := List.getElem?_eq_getElem inside
        generalize system.tasks[child] = entry at position
        obtain ⟨call, status⟩ := entry
        cases status with
        | ended outcome => exact ⟨call, outcome, position⟩
        | created | awaiting request next | joining children next =>
            exact absurd ⟨child, member, _, position, rfl⟩ unfinished
termination_by (bound - order.level mode, system.tasks.length - task)
decreasing_by
  · apply Prod.Lex.left
    omega
  · apply Prod.Lex.right'
    · omega
    · omega

end Progress

end LockOrder

end EventLoop
