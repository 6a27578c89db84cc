import PingGuard.Concurrent.Handover
import PingGuard.Concurrent.Spacing

/-!
# The backlog of the broker

A sweep hands its tasks to the broker with `expires=interval`, so that a worker discards a task that
has waited too long. With this, the tasks of a monitor do not pile up while the workers are down or
slow: a claim is only made when the interval of the one before is over, and a task lives no longer
than the interval that its claim has read. Tasks can only overlap by the time that a sweep takes
between reading its clock and handing the task over (`lag`), and the bound counts how many claims
fit into that time. Tasks of on-demand checks and retries are not counted.
-/

set_option autoImplicit false
set_option relaxedAutoImplicit false

namespace PingGuard.Concurrent

open Library.SerialTable Library.Transition Models ProbeTask Schemas Sweep

variable {settings : Settings}

/-! ### The broker -/

/-- A task that a sweep has handed to the broker: `execute_ping` or `execute_keep_alive` of a
monitor, with the clock of the sweep, the time at which it was handed over, and `expires`. -/
structure QueuedTask where
  schedule : Schedule
  monitorId : ℕ
  claimedAt : ℤ
  publishedAt : ℤ
  expires : ℤ
  deriving DecidableEq

/-- A task has been handed over by a time, and has not expired then. -/
def QueuedTask.isLive (time : ℤ) (task : QueuedTask) : Bool :=
  task.publishedAt ≤ time && time ≤ task.publishedAt + seconds task.expires

/-- The dispatch that the system records for a task. -/
def QueuedTask.toDispatch (task : QueuedTask) : Schedule × ℕ × ℤ :=
  (task.schedule, task.monitorId, task.claimedAt)

/-- The system and the queue of the broker, newest first. -/
structure BrokerSystem where
  system : System
  queue : List QueuedTask

/-- Nothing runs, and nothing is queued. -/
def BrokerSystem.idle (database : Database) : BrokerSystem := ⟨System.idle database, []⟩

/-- The steps of the system, and those with the broker: a sweep hands over a task, a worker receives
one, and it acknowledges one when it is done with it (`task_acks_late`). -/
inductive BrokerAction
  | other (action : Action)
  | publish (processId : ℕ) (time : ℤ)
  | receive (task : QueuedTask) (time : ℤ)
  | acknowledge (task : QueuedTask)

/-- `apply_async` with the item that comes next, at a time. -/
def publish (settings : Settings) (state : BrokerSystem) (processId : ℕ) (time : ℤ) :
    Option BrokerSystem :=
  match state.system.processes.get processId with
  | some (.sweep run) =>
    match run.stage with
    | .dispatching (item :: _) =>
      (step settings state.system (.enqueue processId true)).map fun system ↦
        ⟨system, ⟨run.schedule, item.1, run.now, time, item.2⟩ :: state.queue⟩
    | _ => none
  | _ => none

/-- The task of a schedule. -/
def taskOf : Schedule → Task
  | .health => .executePing
  | .keepAlive => .executeKeepAlive

/-- A worker receives a task, the first time or again. It runs a task that has not expired, which
stays in the queue until it is acknowledged, and discards any other. (A task that finds no monitor,
or one that its gatekeeper refuses, has nothing to do but to be acknowledged.) -/
def receive (settings : Settings) (state : BrokerSystem) (task : QueuedTask) (time : ℤ) :
    Option BrokerSystem :=
  if task ∈ state.queue then
    if time ≤ task.publishedAt + seconds task.expires then
      (step settings state.system (.loadProbe (taskOf task.schedule) task.monitorId time)).map
        fun system ↦ { state with system := system }
    else some { state with queue := state.queue.erase task }
  else none

/-- A step, if it is enabled. What the broker takes from a sweep is a task. -/
def stepBroker (settings : Settings) (state : BrokerSystem) : BrokerAction → Option BrokerSystem
  | .other action =>
    match action with
    | .enqueue _ true => none
    | _ => (step settings state.system action).map fun system ↦ { state with system := system }
  | .publish processId time => publish settings state processId time
  | .receive task time => receive settings state task time
  | .acknowledge task => some { state with queue := state.queue.erase task }

variable {state next : BrokerSystem} {action : BrokerAction}

/-- The steps by what they do to the queue. -/
inductive BrokerStep (settings : Settings) (state : BrokerSystem) :
    BrokerAction → BrokerSystem → Prop
  | stepped {action : Action} {system : System}
      (hne : ∀ processId, action ≠ .enqueue processId true)
      (hstep : step settings state.system action = some system) :
      BrokerStep settings state (.other action) { state with system := system }
  | received (task : QueuedTask) (time : ℤ) {system : System}
      (hstep : step settings state.system
        (.loadProbe (taskOf task.schedule) task.monitorId time) = some system) :
      BrokerStep settings state (.receive task time) { state with system := system }
  | published {processId : ℕ} {time : ℤ} {run : SweepRun} {item : ℕ × ℤ} {rest : List (ℕ × ℤ)}
      {system : System} (hget : state.system.processes.get processId = some (.sweep run))
      (hstage : run.stage = .dispatching (item :: rest))
      (hstep : step settings state.system (.enqueue processId true) = some system) :
      BrokerStep settings state (.publish processId time)
        ⟨system, ⟨run.schedule, item.1, run.now, time, item.2⟩ :: state.queue⟩
  | removed {label : BrokerAction} (task : QueuedTask) :
      BrokerStep settings state label { state with queue := state.queue.erase task }

/-- Every step is one of them. -/
theorem brokerStep_of_step (hstep : stepBroker settings state action = some next) :
    BrokerStep settings state action next := by
  cases action with
  | other action =>
    have hother : (∀ processId, action ≠ .enqueue processId true) ∧
        (step settings state.system action).map (fun system ↦ { state with system := system }) =
          some next := by
      unfold stepBroker at hstep
      dsimp only at hstep
      split at hstep
      · nomatch hstep
      · rename_i hne
        exact ⟨fun processId heq ↦ hne processId heq, hstep⟩
    obtain ⟨system, hsystem, rfl⟩ := Option.map_eq_some_iff.mp hother.2
    exact .stepped hother.1 hsystem
  | publish processId time =>
    change publish settings state processId time = some next at hstep
    unfold publish at hstep
    split at hstep
    · rename_i run hget
      split at hstep
      · rename_i item rest hstage
        obtain ⟨system, hsystem, rfl⟩ := Option.map_eq_some_iff.mp hstep
        exact .published hget hstage hsystem
      · nomatch hstep
    · nomatch hstep
  | receive task time =>
    change receive settings state task time = some next at hstep
    unfold receive at hstep
    split_ifs at hstep
    · obtain ⟨system, hsystem, rfl⟩ := Option.map_eq_some_iff.mp hstep
      exact .received task time hsystem
    · obtain rfl := Option.some.inj hstep
      exact .removed task
  | acknowledge task =>
    obtain rfl := Option.some.inj hstep
    exact .removed task

/-! ### The claims behind the tasks -/

section Claims

variable {system after : System} {label : Action}

/-- What sweeps hold are claims, and claims have read an interval of at least 15 seconds. -/
structure ItemsClaimed (system : System) : Prop where
  claimed : ∀ processId run, system.processes.get processId = some (.sweep run) →
    ∀ item ∈ run.items, (run.now, item.2) ∈ claimsOf run.schedule item.1 system.writes
  le : ∀ schedule monitorId claim, claim ∈ claimsOf schedule monitorId system.writes →
    15 ≤ claim.2

/-- No claim is forgotten. -/
theorem claimsOf_subset (hlocks : LocksHold system)
    (htransition : Transition settings system label after) (schedule : Schedule) (monitorId : ℕ) :
    claimsOf schedule monitorId system.writes ⊆ claimsOf schedule monitorId after.writes := by
  obtain ⟨added, hadded, -⟩ := writes_of_transition hlocks htransition
  intro claim hclaim
  obtain ⟨write, hwrite, hmatches⟩ := mem_claimsOf_iff.mp hclaim
  exact mem_claimsOf_iff.mpr ⟨write, hadded ▸ List.mem_append_right added hwrite, hmatches⟩

/-- A claim after a step was there before, or has just been committed. -/
theorem claim_of_transition (htransition : Transition settings system label after)
    {schedule : Schedule} {monitorId : ℕ} {claim : ℤ × ℤ}
    (hclaim : claim ∈ claimsOf schedule monitorId after.writes) :
    claim ∈ claimsOf schedule monitorId system.writes ∨
      ∃ processId run batch, system.processes.get processId = some (.sweep run) ∧
        run.stage = .selected batch ∧ (monitorId, claim.2) ∈ batchItems run.schedule batch := by
  obtain ⟨write, hwrite, hschedule, hmonitorId, hwriter⟩ := mem_claimsOf_iff.mp hclaim
  have hold : write ∈ system.writes → claim ∈ claimsOf schedule monitorId system.writes :=
    fun hmem ↦ mem_claimsOf_iff.mpr ⟨write, hmem, hschedule, hmonitorId, hwriter⟩
  cases htransition with
  | claimed processId run batch hbefore hstage =>
    rcases List.mem_append.mp hwrite with hnew | hmem
    · obtain ⟨item, hitem, rfl⟩ := List.mem_map.mp hnew
      obtain rfl := hmonitorId
      obtain rfl := Option.some.inj hwriter
      exact Or.inr ⟨processId, run, batch, hbefore, hstage, hitem⟩
    · exact Or.inl (hold hmem)
  | recovered processId run items hbefore hstage hunlocked =>
    rcases List.mem_append.mp hwrite with hnew | hmem
    · obtain ⟨item, -, rfl⟩ := List.mem_map.mp hnew
      nomatch hwriter
    · exact Or.inl (hold hmem)
  | created processId createdId row hbefore hreserved =>
    rcases List.mem_append.mp hwrite with hnew | hmem
    · rcases List.mem_pair.mp hnew with rfl | rfl <;> nomatch hwriter
    · exact Or.inl (hold hmem)
  | updated processId updatedId payload loaded stored monitor now hbefore hstored hunlocked
      hcommit =>
    rcases List.mem_append.mp hwrite with hnew | hmem
    · obtain ⟨value, hvalue⟩ := request_of_mem_updateWrites hnew
      rw [hvalue] at hwriter
      nomatch hwriter
    · exact Or.inl (hold hmem)
  | _ => exact Or.inl (hold hwrite)

/-- What a sweep holds after a step: what it held or less, nothing, or what it has claimed. -/
def HeldFrom (system after : System) (processId : ℕ) (run : SweepRun) : Prop :=
  (∃ before, system.processes.get processId = some (.sweep before) ∧
      before.schedule = run.schedule ∧ before.now = run.now ∧ run.items ⊆ before.items) ∨
    run.items = [] ∨
    ∀ item ∈ run.items, (run.now, item.2) ∈ claimsOf run.schedule item.1 after.writes

/-- The items that are left to hand over are held. -/
theorem items_of_dispatching {run : SweepRun} {items : List (ℕ × ℤ)}
    (hstage : run.stage = .dispatching items) : run.items = items := by
  rw [SweepRun.items, hstage]

/-- The items that a sweep holds after a step are those that it held, or has just claimed. -/
theorem heldFrom_of_transition (htransition : Transition settings system label after)
    {processId : ℕ} {run : SweepRun} (hget : after.processes.get processId = some (.sweep run)) :
    HeldFrom system after processId run := by
  have hsame : system.processes.get processId = some (.sweep run) →
      HeldFrom system after processId run := fun hbefore ↦
    Or.inl ⟨run, hbefore, rfl, rfl, List.Subset.refl run.items⟩
  have hentered : Entered settings system label (.sweep run) →
      HeldFrom system after processId run := fun hentered ↦
    Or.inr (Or.inl (items_of_entered hentered))
  cases htransition with
  | started process hnew =>
    rcases of_get_start hget with ⟨-, rfl⟩ | ⟨-, hbefore⟩
    · exact hentered hnew
    · exact hsame hbefore
  | resumed actingId before process hbefore hnew =>
    rcases of_get_modify hget with ⟨-, rfl⟩ | ⟨-, hold⟩
    · exact hentered hnew
    · exact hsame hold
  | handed actingId begun item rest hbefore hstage =>
    rcases of_get_modify hget with ⟨rfl, heq⟩ | ⟨-, hold⟩
    · obtain rfl := Process.sweep.inj heq
      refine Or.inl ⟨begun, hbefore, rfl, rfl, ?_⟩
      rw [items_of_dispatching hstage]
      exact List.subset_cons_self item rest
    · exact hsame hold
  | refused actingId begun item rest hbefore hstage =>
    rcases of_get_modify hget with ⟨rfl, heq⟩ | ⟨-, hold⟩
    · obtain rfl := Process.sweep.inj heq
      refine Or.inl ⟨begun, hbefore, rfl, rfl, ?_⟩
      rw [items_of_dispatching hstage]
      exact List.Subset.refl _
    · exact hsame hold
  | claimed actingId begun batch hbefore hstage =>
    rcases of_get_modify hget with ⟨rfl, heq⟩ | ⟨-, hold⟩
    · obtain rfl := Process.sweep.inj heq
      refine Or.inr (Or.inr fun item hitem ↦ mem_claimsOf_iff.mpr
        ⟨⟨begun.schedule, item.1, .claim processId begun.now item.2⟩, ?_, rfl, rfl, rfl⟩)
      exact List.mem_append_left _ (List.mem_map.mpr ⟨item, hitem, rfl⟩)
    · exact hsame hold
  | recovered actingId begun items hbefore hstage hunlocked =>
    rcases of_get_modify hget with ⟨-, heq⟩ | ⟨-, hold⟩
    · exact hentered (heq ▸ entered_endPhase settings system _ begun)
    · exact hsame hold
  | probed actingId begun committed rewrite result stored hbefore hcommit hstored hunlocked =>
    rcases of_get_modify hget with ⟨-, heq⟩ | ⟨-, hold⟩
    · cases hcommit <;> nomatch heq
    · exact hsame hold
  | inserted actingId row skipped hbefore =>
    rcases of_get_modify hget with ⟨-, heq⟩ | ⟨-, hold⟩
    · nomatch heq
    · exact hsame hold
  | created actingId monitorId row hbefore hreserved =>
    rcases of_get_modify hget with ⟨-, heq⟩ | ⟨-, hold⟩
    · nomatch heq
    · exact hsame hold
  | updated actingId monitorId payload loaded stored monitor now hbefore hstored hunlocked
      hcommit =>
    rcases of_get_modify hget with ⟨-, heq⟩ | ⟨-, hold⟩
    · nomatch heq
    · exact hsame hold
  | deleted actingId monitorId hbefore hunlocked =>
    rcases of_get_modify hget with ⟨-, heq⟩ | ⟨-, hold⟩
    · nomatch heq
    · exact hsame hold

/-- Every step keeps this. -/
theorem ItemsClaimed.step (hitems : ItemsClaimed system) (hkept : Undisturbed settings system)
    (htransition : Transition settings system label after) : ItemsClaimed after := by
  have hlocks := hkept.timed.locks
  refine ⟨fun processId run hget item hitem ↦ ?_, fun schedule monitorId claim hclaim ↦ ?_⟩
  · rcases heldFrom_of_transition htransition hget with
      ⟨before, hbefore, hschedule, hnow, hsubset⟩ | hnone | hnew
    · rw [← hschedule, ← hnow]
      exact claimsOf_subset hlocks htransition _ _
        (hitems.claimed processId before hbefore item (hsubset hitem))
    · rw [hnone] at hitem
      nomatch hitem
    · exact hnew item hitem
  · rcases claim_of_transition htransition hclaim with hold |
      ⟨processId, run, batch, hbefore, hstage, hitem⟩
    · exact hitems.le schedule monitorId claim hold
    · obtain ⟨monitor, hstored, -, hread⟩ :=
        (hlocks.of_mem_batchItems hbefore hstage).2.2 monitorId claim.2 hitem
      exact Api.intervalsMeet_claimInterval (hkept.intervals monitorId monitor hstored) hread

end Claims

/-! ### The queue -/

/-- The broker works and no update enables or disables keep-alive; and a task is handed over when
the sweep has read its clock, but no later than `lag` after that. -/
def HandsOverWithin (lag : ℤ) (state : BrokerSystem) : BrokerAction → Prop
  | .other action => IsUndisturbed state.system action
  | .publish processId time => ∀ run, state.system.processes.get processId = some (.sweep run) →
      run.now ≤ time ∧ time ≤ run.now + lag
  | _ => True

/-- What such runs keep: the claims are spaced, and every task in the queue is a dispatch of its own
and has a claim that read its `expires`. -/
structure Queued (settings : Settings) (lag : ℤ) (state : BrokerSystem) : Prop where
  kept : Undisturbed settings state.system
  spaced : Spaced state.system
  dispatches : DispatchesClaimed state.system
  items : ItemsClaimed state.system
  sublist : (state.queue.map QueuedTask.toDispatch).Sublist state.system.dispatches
  claimed : ∀ task ∈ state.queue, (task.claimedAt, task.expires) ∈
    claimsOf task.schedule task.monitorId state.system.writes
  within : ∀ task ∈ state.queue,
    task.claimedAt ≤ task.publishedAt ∧ task.publishedAt ≤ task.claimedAt + lag

/-- Nothing is queued at the start. -/
theorem Queued.idle {database : Database} {lag : ℤ}
    (hrows : ∀ monitorId monitor, database.monitors.get monitorId = some monitor →
      Api.KeepAliveTimed monitor ∧ Api.IntervalsMeet (15 ≤ ·) monitor) :
    Queued settings lag (BrokerSystem.idle database) where
  kept := ⟨Timed.idle fun monitorId monitor hget ↦ (hrows monitorId monitor hget).1,
    PayloadsAccepted.idle settings database, fun _ _ _ hget ↦ (nomatch hget),
    fun _ _ _ _ hget ↦ (nomatch hget),
    fun monitorId monitor hget ↦ (hrows monitorId monitor hget).2⟩
  spaced := ⟨fun _ hwrite ↦ absurd hwrite List.not_mem_nil, fun _ _ ↦ List.Pairwise.nil,
    fun _ _ _ _ _ hclaim ↦ absurd hclaim List.not_mem_nil⟩
  dispatches := fun _ ↦ Nat.le_refl _
  items := ⟨fun _ _ hget ↦ (nomatch hget), fun _ _ _ hclaim ↦ absurd hclaim List.not_mem_nil⟩
  sublist := List.Sublist.refl _
  claimed := List.forall_mem_nil _
  within := List.forall_mem_nil _

/-- A step hands something to the broker only where the broker takes an item. -/
theorem dispatches_of_transition {system after : System} {label : Action}
    (htransition : Transition settings system label after) :
    after.dispatches = system.dispatches ∨ ∃ processId, label = .enqueue processId true := by
  cases htransition with
  | handed processId run item rest hbefore hstage => exact Or.inr ⟨processId, rfl⟩
  | _ => exact Or.inl rfl

/-- Every step of the system that hands nothing over keeps the queue as it should be. -/
theorem Queued.stepped {lag : ℤ} (hqueued : Queued settings lag state) {label : Action}
    {system : System} (hundisturbed : IsUndisturbed state.system label)
    (hne : ∀ processId, label ≠ .enqueue processId true)
    (hstep : step settings state.system label = some system) :
    Queued settings lag { state with system := system } := by
  have htransition := transition_of_step hstep
  refine ⟨hqueued.kept.step hundisturbed htransition,
    hqueued.spaced.step hqueued.kept htransition, hqueued.dispatches.step htransition,
    hqueued.items.step hqueued.kept htransition, ?_, fun task htask ↦ ?_, hqueued.within⟩
  · rcases dispatches_of_transition htransition with hsame | ⟨processId, heq⟩
    · exact hsame ▸ hqueued.sublist
    · exact absurd heq (hne processId)
  · exact claimsOf_subset hqueued.kept.timed.locks htransition _ _ (hqueued.claimed task htask)

/-- Every step keeps the queue as it should be. -/
theorem Queued.step {lag : ℤ} (hqueued : Queued settings lag state)
    (hallowed : HandsOverWithin lag state action) (hstep : BrokerStep settings state action next) :
    Queued settings lag next := by
  cases hstep with
  | stepped hne hstep => exact hqueued.stepped hallowed hne hstep
  | received task time hstep => exact hqueued.stepped (by simp [IsUndisturbed]) (by simp) hstep
  | @published processId time run item rest system hget hstage hstep =>
    have htransition := transition_of_step hstep
    have hlocks := hqueued.kept.timed.locks
    obtain ⟨hread, hlag⟩ := hallowed run hget
    have hitem : item ∈ run.items := by
      rw [items_of_dispatching hstage]
      exact List.mem_cons_self
    have hdispatches : system.dispatches =
        (run.schedule, item.1, run.now) :: state.system.dispatches := by
      change enqueue state.system processId true = some system at hstep
      unfold enqueue at hstep
      simp only [hget, hstage] at hstep
      exact (congrArg System.dispatches (Option.some.inj hstep)).symm
    refine ⟨hqueued.kept.step (by simp [IsUndisturbed]) htransition,
      hqueued.spaced.step hqueued.kept htransition, hqueued.dispatches.step htransition,
      hqueued.items.step hqueued.kept htransition, ?_, ?_, ?_⟩
    · rw [hdispatches]
      exact hqueued.sublist.cons_cons _
    · rintro task htask
      rcases List.mem_cons.mp htask with rfl | hold
      · exact claimsOf_subset hlocks htransition _ _
          (hqueued.items.claimed processId run hget item hitem)
      · exact claimsOf_subset hlocks htransition _ _ (hqueued.claimed task hold)
    · rintro task htask
      rcases List.mem_cons.mp htask with rfl | hold
      · exact ⟨hread, hlag⟩
      · exact hqueued.within task hold
  | removed task =>
    exact
      { kept := hqueued.kept
        spaced := hqueued.spaced
        dispatches := hqueued.dispatches
        items := hqueued.items
        sublist := (List.erase_sublist.map _).trans hqueued.sublist
        claimed := fun other hother ↦ hqueued.claimed other (List.mem_of_mem_erase hother)
        within := fun other hother ↦ hqueued.within other (List.mem_of_mem_erase hother) }

/-! ### The bound -/

/-- Spaced claims whose intervals have not ended before a time go back from the newest by 15 seconds
each, all but the oldest. -/
theorem le_newest_of_spaced {bound : ℤ} {newest claim : ℤ × ℤ} {older : List (ℤ × ℤ)}
    (hspaced : (newest :: claim :: older).Pairwise fun later earlier ↦ IsOver later.1 earlier)
    (hbound : ∀ other ∈ claim :: older, bound ≤ other.1 + seconds other.2)
    (hle : ∀ other ∈ claim :: older, 15 ≤ other.2) :
    bound + seconds 15 * older.length ≤ newest.1 := by
  induction older generalizing newest claim with
  | nil =>
    have hover := (List.pairwise_cons.mp hspaced).1 claim List.mem_cons_self
    have hlate := hbound claim List.mem_cons_self
    have hend := hover.2
    rw [List.length_nil]
    omega
  | cons other older ih =>
    have hrest := (List.pairwise_cons.mp hspaced).2
    have hover := ((List.pairwise_cons.mp hspaced).1 claim List.mem_cons_self).2
    have hinterval := hle claim List.mem_cons_self
    have hih := ih hrest (fun last hlast ↦ hbound last (List.mem_cons_of_mem _ hlast))
      fun last hlast ↦ hle last (List.mem_cons_of_mem _ hlast)
    rw [List.length_cons, Nat.cast_succ]
    unfold seconds at *
    omega

/-- Spaced claims up to a time, none of which has ended before `lag`, are at most two and one
for every 15 seconds of `lag`. -/
theorem length_le_of_spaced {claims : List (ℤ × ℤ)} {lag time : ℤ} (hnonneg : 0 ≤ lag)
    (hspaced : claims.Pairwise fun later earlier ↦ IsOver later.1 earlier)
    (hmem : ∀ claim ∈ claims,
      15 ≤ claim.2 ∧ claim.1 ≤ time ∧ time - lag ≤ claim.1 + seconds claim.2) :
    seconds 15 * claims.length ≤ lag + seconds 30 := by
  rcases claims with - | ⟨newest, older⟩
  · rw [List.length_nil]
    unfold seconds
    omega
  rcases older with - | ⟨claim, older⟩
  · rw [List.length_singleton]
    unfold seconds
    omega
  have hlate := le_newest_of_spaced hspaced
    (fun other hother ↦ (hmem other (List.mem_cons_of_mem _ hother)).2.2)
    fun other hother ↦ (hmem other (List.mem_cons_of_mem _ hother)).1
  have hnow := (hmem newest List.mem_cons_self).2.1
  rw [List.length_cons, List.length_cons, Nat.cast_succ, Nat.cast_succ]
  unfold seconds at *
  omega

/-- The tasks of a schedule of a monitor in the queue that have not expired. -/
def BrokerSystem.live (state : BrokerSystem) (schedule : Schedule) (monitorId : ℕ) (time : ℤ) :
    List QueuedTask :=
  state.queue.filter fun task ↦
    task.schedule = schedule ∧ task.monitorId = monitorId ∧ task.isLive time = true

/-- The claims of the tasks that have not expired. -/
theorem length_live_le {lag : ℤ} (hqueued : Queued settings lag state) (schedule : Schedule)
    (monitorId : ℕ) (time : ℤ) :
    (state.live schedule monitorId time).length ≤
      ((claimsOf schedule monitorId state.system.writes).filter fun claim ↦
        claim.1 ≤ time ∧ time ≤ claim.1 + lag + seconds claim.2).length := by
  have honce := dispatchedOnce_of_claimsSpaced hqueued.dispatches hqueued.spaced.spaced
  have hlive : ∀ task ∈ state.live schedule monitorId time, task ∈ state.queue ∧
      task.schedule = schedule ∧ task.monitorId = monitorId ∧ task.isLive time = true :=
    fun task htask ↦ by simpa [BrokerSystem.live] using htask
  -- different tasks are different dispatches, and so have different claims
  have hnodup : ((state.live schedule monitorId time).map QueuedTask.toDispatch).Nodup :=
    honce.1.sublist ((List.filter_sublist.map _).trans hqueued.sublist)
  have hclaims : ((state.live schedule monitorId time).map fun task ↦
      (task.claimedAt, task.expires)).Nodup := by
    refine List.Nodup.map_on ?_ (List.Nodup.of_map _ hnodup)
    intro first hfirst second hsecond heq
    refine List.inj_on_of_nodup_map hnodup hfirst hsecond ?_
    obtain ⟨-, hschedule, hmonitorId, -⟩ := hlive first hfirst
    obtain ⟨-, hschedule', hmonitorId', -⟩ := hlive second hsecond
    rw [QueuedTask.toDispatch, QueuedTask.toDispatch, hschedule, hmonitorId, hschedule',
      hmonitorId', (Prod.mk.inj heq).1]
  have hsubset : ((state.live schedule monitorId time).map fun task ↦
      (task.claimedAt, task.expires)) ⊆
        (claimsOf schedule monitorId state.system.writes).filter fun claim ↦
          claim.1 ≤ time ∧ time ≤ claim.1 + lag + seconds claim.2 := by
    intro claim hclaim
    obtain ⟨task, htask, rfl⟩ := List.mem_map.mp hclaim
    obtain ⟨hmem, rfl, rfl, halive⟩ := hlive task htask
    obtain ⟨hread, hlag⟩ := hqueued.within task hmem
    rw [QueuedTask.isLive, Bool.and_eq_true, decide_eq_true_iff, decide_eq_true_iff] at halive
    exact List.mem_filter.mpr ⟨hqueued.claimed task hmem, decide_eq_true (by dsimp only; omega)⟩
  simpa using (hclaims.subperm hsubset).length_le

/-- Tasks do not pile up. In every run in which the broker takes the tasks of the sweeps no later
than `lag` after they have read their clocks, whatever workers receive and acknowledge, the tasks of
one schedule of a monitor that have not expired at a time are at most two, and one more for every 15
seconds of `lag`. (A task may still be run at the moment at which it expires, so that two are live
at the end of an interval even without a lag.)
Assumes: no update enables or disables keep-alive; and at the start nothing runs, the monitors with
a keep-alive time are the enabled ones, and the intervals are at least 15. -/
theorem live_le_of_reaches {database : Database} {lag : ℤ} (hnonneg : 0 ≤ lag)
    (hrows : ∀ monitorId monitor, database.monitors.get monitorId = some monitor →
      Api.KeepAliveTimed monitor ∧ Api.IntervalsMeet (15 ≤ ·) monitor)
    (hreaches : Reaches (stepBroker settings) (HandsOverWithin lag) (BrokerSystem.idle database)
      state) (schedule : Schedule) (monitorId : ℕ) (time : ℤ) :
    seconds 15 * (state.live schedule monitorId time).length ≤ lag + seconds 30 := by
  have hqueued : Queued settings lag state := by
    refine hreaches.invariant (motive := Queued settings lag) (.idle hrows) ?_
    intro middle label after hmiddle hallowed hstep
    exact hmiddle.step hallowed (brokerStep_of_step hstep)
  have hlength := length_live_le hqueued schedule monitorId time
  have hspaced := (hqueued.spaced.spaced schedule monitorId).sublist
    (@List.filter_sublist _ (fun claim : ℤ × ℤ ↦
      decide (claim.1 ≤ time ∧ time ≤ claim.1 + lag + seconds claim.2)) _)
  have hmem : ∀ claim ∈ (claimsOf schedule monitorId state.system.writes).filter fun claim ↦
      claim.1 ≤ time ∧ time ≤ claim.1 + lag + seconds claim.2,
        15 ≤ claim.2 ∧ claim.1 ≤ time ∧ time - lag ≤ claim.1 + seconds claim.2 := by
    intro claim hclaim
    obtain ⟨hclaimed, hbounds⟩ := List.mem_filter.mp hclaim
    have hbounds' := of_decide_eq_true hbounds
    exact ⟨hqueued.items.le schedule monitorId claim hclaimed, hbounds'.1, by omega⟩
  have hsmall := length_le_of_spaced hnonneg hspaced hmem
  unfold seconds at *
  omega

/-- A run of allowed steps that ends with a task handed over in time reaches its last state. -/
theorem reaches_publish {lag : ℤ} {start before middle : BrokerSystem} {labels : List BrokerAction}
    {processId : ℕ} {time : ℤ} {sweep : SweepRun}
    (hreaches : Reaches (stepBroker settings) (HandsOverWithin lag) start before)
    (hlabels : ∀ label ∈ labels, ∀ state, HandsOverWithin lag state label)
    (hmiddle : run (stepBroker settings) before labels = some middle)
    (hget : middle.system.processes.get processId = some (.sweep sweep))
    (htime : sweep.now ≤ time ∧ time ≤ sweep.now + lag)
    (hstep : stepBroker settings middle (.publish processId time) = some next) :
    Reaches (stepBroker settings) (HandsOverWithin lag) start next := by
  have hallowed : HandsOverWithin lag middle (.publish processId time) := by
    intro other hother
    obtain rfl := Process.sweep.inj (Option.some.inj (hget.symm.trans hother))
    exact htime
  exact (reaches_of_run hreaches hlabels hmiddle).step hallowed hstep

/-- The run of a sweep up to the commit of its claim. -/
def claimingTasks (processId : ℕ) (now : ℤ) : List BrokerAction :=
  [.other (.startSweep now 1 1), .other (.select processId [1]), .other (.commitClaim processId)]

/-- Its steps are allowed at any time. -/
theorem handsOverWithin_claimingTasks {lag : ℤ} (processId : ℕ) (now : ℤ) :
    ∀ label ∈ claimingTasks processId now, ∀ state, HandsOverWithin lag state label := by
  intro label hlabel state
  simp only [claimingTasks, List.mem_cons, List.not_mem_nil, or_false] at hlabel
  rcases hlabel with rfl | rfl | rfl <;> simp [HandsOverWithin, IsUndisturbed]

/-- Two sweeps a minute apart hand over the health check of a monitor, the first after five seconds.
A worker receives its task just before it expires. -/
def overlappingTasks : List BrokerAction :=
  claimingTasks 1 0 ++ .publish 1 (seconds 5) :: (claimingTasks 2 (seconds 60) ++
    [.publish 2 (seconds 61), .receive ⟨.health, 1, 0, seconds 5, 60⟩ (seconds 62)])

/-- Both tasks are in the queue then, as many as five seconds allow. -/
theorem live_overlappingTasks : ∃ state,
    run (stepBroker .default) (BrokerSystem.idle .oneMonitor) overlappingTasks = some state ∧
      (state.live .health 1 (seconds 62)).length = 2 ∧
        ∀ schedule monitorId time,
          seconds 15 * (state.live schedule monitorId time).length ≤ seconds 5 + seconds 30 := by
  have hrows : ∀ monitorId monitor, Database.oneMonitor.monitors.get monitorId = some monitor →
      Api.KeepAliveTimed monitor ∧ Api.IntervalsMeet (15 ≤ ·) monitor := by
    intro monitorId monitor hget
    rw [Database.of_get_oneMonitor hget]
    refine ⟨rfl, by decide, ?_⟩
    rintro _ ⟨⟩
    decide
  -- the states before and after the first task is handed over
  obtain ⟨first, sweep, handed, hfirst, hget, hnow, hhanded⟩ : ∃ first sweep handed,
      run (stepBroker .default) (BrokerSystem.idle .oneMonitor) (claimingTasks 1 0) = some first ∧
        first.system.processes.get 1 = some (.sweep sweep) ∧ sweep.now = 0 ∧
          stepBroker .default first (.publish 1 (seconds 5)) = some handed :=
    ⟨_, _, _, rfl, rfl, rfl, rfl⟩
  have hhandedReached : Reaches (stepBroker .default) (HandsOverWithin (seconds 5))
      (BrokerSystem.idle .oneMonitor) handed :=
    reaches_publish .start (handsOverWithin_claimingTasks 1 0) hfirst hget
      (by rw [hnow]; decide) hhanded
  -- the state before the second is, and the end
  obtain ⟨second, sweep, state, hsecond, hget, hnow, hrun, hlive⟩ : ∃ second sweep state,
      run (stepBroker .default) (BrokerSystem.idle .oneMonitor)
          (claimingTasks 1 0 ++ .publish 1 (seconds 5) :: claimingTasks 2 (seconds 60)) =
        some second ∧
        second.system.processes.get 2 = some (.sweep sweep) ∧ sweep.now = seconds 60 ∧
          run (stepBroker .default) (BrokerSystem.idle .oneMonitor) overlappingTasks = some state ∧
            (state.live .health 1 (seconds 62)).length = 2 :=
    ⟨_, _, _, rfl, rfl, rfl, rfl, rfl⟩
  rw [run_append hfirst, run, hhanded, Option.bind_some] at hsecond
  have hreached : Reaches (stepBroker .default) (HandsOverWithin (seconds 5))
      (BrokerSystem.idle .oneMonitor) state := by
    have hrest := hrun
    rw [overlappingTasks, run_append hfirst, run, hhanded, Option.bind_some, run_append hsecond,
      run] at hrest
    obtain ⟨next, hnext, hreceived⟩ := Option.bind_eq_some_iff.mp hrest
    have hnextReached := reaches_publish hhandedReached
      (handsOverWithin_claimingTasks 2 (seconds 60)) hsecond hget (by rw [hnow]; decide) hnext
    refine reaches_of_run hnextReached ?_ hreceived
    intro label hlabel state
    obtain rfl := List.mem_singleton.mp hlabel
    exact trivial
  exact ⟨state, hrun, hlive, live_le_of_reaches (by decide) hrows hreached⟩

end PingGuard.Concurrent
