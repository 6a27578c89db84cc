import PingGuard.Concurrent.Advances
import PingGuard.Concurrent.Rows
import PingGuard.Frequency

/-!
# How long a monitor waits

A claim may be lost: the sweep is killed before it has handed the claim to the broker, or the broker
fails and the recovery fails too. The monitor then waits for its next time, and that is not far off.
With clocks up to `latest` no step writes a time that is later than a day after `latest`, since the
intervals of the API end there, and no step takes away the time of a health check. So every sweep
whose clock is a day later finds the monitor due.

A keep-alive time is taken away when keep-alive is disabled. It stays in step with
`keep_alive_enabled`, unless a recovery gives a disabled monitor a time (`RecoversEnabled`): after
that an update that enables keep-alive and one that does not change it can leave an enabled monitor
without a time, which no sweep selects again.
-/

set_option autoImplicit false
set_option relaxedAutoImplicit false

namespace PingGuard.Concurrent

open Library.SerialTable Library.Transition Lifecycle Models ProbeTask Schemas Sweep

variable {settings : Settings} {system next : System} {action : Action} {latest : ℤ}

/-! ### The clocks -/

/-- The clock that a step reads. -/
def Action.clock : Action → Option ℤ
  | .startSweep now _ _ | .insertMonitor _ now _ | .commitUpdate _ now | .loadProbe _ _ now |
    .timeLimit _ now => some now
  | _ => none

/-- No step reads a clock that is later. -/
def ReadsUntil (latest : ℤ) (action : Action) : Prop :=
  ∀ now, action.clock = some now → now ≤ latest

/-- What a sweep goes on with after a phase has its clock. -/
theorem now_of_endPhase {run begun : SweepRun} (hends : begun.endPhase = .sweep run) :
    begun.now = run.now := by
  unfold SweepRun.endPhase at hends
  split at hends
  · rw [← Process.sweep.inj hends]
  · exact Process.noConfusion hends

/-- A sweep that goes on keeps its clock. -/
theorem now_of_advance {processId : ℕ} {before after : Process} {run : SweepRun}
    {handed : List (Schedule × ℕ × ℤ)} {added : List ScheduleWrite}
    (hadvance : Advance system processId action before after handed added)
    (hafter : after = .sweep run) :
    ∃ begun, before = .sweep begun ∧ begun.now = run.now := by
  cases hadvance with
  | phaseEnded begun hstage => exact ⟨begun, rfl, now_of_endPhase hafter⟩
  | recovered begun items hstage => exact ⟨begun, rfl, now_of_endPhase hafter⟩
  | notRecovered begun items hstage => exact ⟨begun, rfl, now_of_endPhase hafter⟩
  | selected begun monitorIds hstage hleft hlength =>
    exact ⟨begun, rfl, by rw [← Process.sweep.inj hafter]⟩
  | claimed begun batch hstage => exact ⟨begun, rfl, by rw [← Process.sweep.inj hafter]⟩
  | handed begun item rest hstage => exact ⟨begun, rfl, by rw [← Process.sweep.inj hafter]⟩
  | refused begun item rest hstage => exact ⟨begun, rfl, by rw [← Process.sweep.inj hafter]⟩
  | batchEnded begun hstage => exact ⟨begun, rfl, by rw [← Process.sweep.inj hafter]⟩
  | _ => exact Process.noConfusion hafter

/-- A sweep that a step starts has read its clock in it. -/
theorem clock_of_start (hstarts : action.goesOn = false)
    (hstep : step settings system action = some next) {processId : ℕ} {run : SweepRun}
    (hget : next.processes.get processId = some (.sweep run)) :
    system.processes.get processId = some (.sweep run) ∨ action.clock = some run.now := by
  have hother : ∀ process, next = system.start process → (∀ begun, process ≠ .sweep begun) →
      system.processes.get processId = some (.sweep run) := by
    rintro process rfl hne
    rcases of_get_start hget with ⟨-, heq⟩ | ⟨-, hbefore⟩
    · exact absurd heq.symm (hne run)
    · exact hbefore
  cases action with
  | startSweep now batchSize maxBatches =>
    obtain rfl := Option.some.inj hstep
    rcases of_get_start hget with ⟨-, heq⟩ | ⟨-, hbefore⟩
    · rw [Process.sweep.inj heq]
      exact Or.inr rfl
    · exact Or.inl hbefore
  | countMonitors payload =>
    change countMonitors settings system payload = some next at hstep
    unfold countMonitors at hstep
    split_ifs at hstep
    exact Or.inl (hother _ (Option.some.inj hstep).symm nofun)
  | loadUpdate monitorId payload =>
    change loadUpdate system monitorId payload = some next at hstep
    unfold loadUpdate at hstep
    split at hstep
    · nomatch hstep
    · split_ifs at hstep
      exact Or.inl (hother _ (Option.some.inj hstep).symm nofun)
  | loadDelete monitorId =>
    change loadDelete system monitorId = some next at hstep
    unfold loadDelete at hstep
    split at hstep
    · nomatch hstep
    · exact Or.inl (hother _ (Option.some.inj hstep).symm nofun)
  | loadProbe task monitorId now =>
    change loadProbe system task monitorId now = some next at hstep
    unfold loadProbe at hstep
    split at hstep
    · nomatch hstep
    · split_ifs at hstep
      exact Or.inl (hother _ (Option.some.inj hstep).symm nofun)
  | abandon abandonedId =>
    obtain ⟨before, hbefore, rfl⟩ := Option.map_eq_some_iff.mp hstep
    rcases of_get_modify hget with ⟨-, heq⟩ | ⟨-, hsame⟩
    · exact Process.noConfusion heq
    · exact Or.inl hsame
  | _ => exact Bool.noConfusion hstarts

/-- A sweep after a step has the clock that it had before, or has just read it. -/
theorem clock_of_step (hstep : step settings system action = some next) {processId : ℕ}
    {run : SweepRun} (hget : next.processes.get processId = some (.sweep run)) :
    (∃ begun, system.processes.get processId = some (.sweep begun) ∧ begun.now = run.now) ∨
      action.clock = some run.now := by
  cases hgoesOn : action.goesOn with
  | true =>
    obtain ⟨actingId, before, after, _, _, hbefore, hadvance, hprocesses, -, -⟩ :=
      advances_of_step hgoesOn hstep
    rw [hprocesses] at hget
    rcases of_get_modify hget with ⟨rfl, heq⟩ | ⟨-, hsame⟩
    · obtain ⟨begun, rfl, hnow⟩ := now_of_advance hadvance heq.symm
      exact Or.inl ⟨begun, hbefore, hnow⟩
    · exact Or.inl ⟨run, hsame, rfl⟩
  | false => exact (clock_of_start hgoesOn hstep hget).imp_left fun hsame ↦ ⟨run, hsame, rfl⟩

/-! ### The times -/

/-- The longest interval of the API, a day. -/
def day : ℤ := seconds 86400

/-- The intervals that the API admits are no longer than a day. -/
theorem le_day_of_isInterval (interval : ℤ) (hinterval : isInterval interval = true) :
    seconds interval ≤ day := by
  unfold isInterval at hinterval
  simp only [Bool.and_eq_true, decide_eq_true_eq] at hinterval
  unfold day seconds
  omega

/-- The times of a row: none is later than a day after the clocks, and there is one for the health
check. -/
structure IsInTime (latest : ℤ) (monitor : Monitor) : Prop where
  le : ∀ (schedule : Schedule) due, schedule.next monitor = some due → due ≤ latest + day
  isSome : monitor.nextCheckAt.isSome = true

/-- A row keeps this if a schedule gets a time that is not too late. -/
theorem IsInTime.setNext {monitor : Monitor} (htime : IsInTime latest monitor) (schedule : Schedule)
    {due : ℤ} (hle : due ≤ latest + day) :
    IsInTime latest (schedule.setNext (some due) monitor) := by
  refine ⟨fun other value hvalue ↦ ?_, ?_⟩
  · by_cases heq : other = schedule
    · rw [heq, Schedule.next_setNext] at hvalue
      rwa [← Option.some.inj hvalue]
    · rw [Schedule.next_setNext_of_ne heq] at hvalue
      exact htime.le other value hvalue
  · cases schedule with
    | health => rfl
    | keepAlive => exact htime.isSome

/-- A new row is due at once. -/
theorem isInTime_newMonitor (payload : MonitorCreate) {now : ℤ} (hle : now ≤ latest) :
    IsInTime latest (Api.newMonitor payload now) := by
  refine ⟨fun schedule due hdue ↦ ?_, rfl⟩
  rw [next_newMonitor payload now schedule due hdue, day, seconds]
  omega

/-- An update leaves a time as it is stored, clears it, or sets it to now. -/
theorem IsInTime.commitUpdate {payload : MonitorUpdate} {now : ℤ} {loaded stored monitor : Monitor}
    (hstored : IsInTime latest stored) (hle : now ≤ latest)
    (hcommit : Api.commitUpdate payload now loaded stored = .ok monitor) :
    IsInTime latest monitor := by
  obtain ⟨draft, -, hdraft, hflushed⟩ := Api.commitUpdate_eq_ok hcommit
  refine ⟨fun schedule due hdue ↦ ?_, (congrArg _ hflushed.nextCheckAt).trans hstored.isSome⟩
  cases schedule with
  | health => exact hstored.le .health due (hflushed.nextCheckAt.symm.trans hdue)
  | keepAlive =>
    have hnext := hflushed.nextKeepAliveAt.symm.trans hdue
    by_cases hsame : draft.nextKeepAliveAt = loaded.nextKeepAliveAt
    · rw [hsame, flushColumn_unchanged] at hnext
      exact hstored.le .keepAlive due hnext
    · -- a changed time is now, or null
      rw [flushColumn_of_ne hsame] at hnext
      rw [hdraft.nextKeepAliveAt, Api.syncNextKeepAliveAt] at hnext hsame
      split_ifs at hnext hsame with henabled hnone
      · rw [← Option.some.inj hnext, day, seconds]
        omega
      · exact absurd rfl hsame

/-! ### Every step -/

/-- What runs keep whose clocks are up to `latest`. -/
structure WaitsBounded (settings : Settings) (latest : ℤ) (system : System) : Prop where
  locks : LocksHold system
  items : ItemsDistinct system
  accepted : PayloadsAccepted settings system
  clocks : ∀ processId run, system.processes.get processId = some (.sweep run) → run.now ≤ latest
  inserted : ∀ processId monitorId row,
    system.processes.get processId = some (.inserted monitorId row) → row.now ≤ latest
  intervals : ∀ monitorId monitor, system.monitor monitorId = some monitor →
    Api.IntervalsMeet (seconds · ≤ day) monitor
  rows : ∀ monitorId monitor, system.monitor monitorId = some monitor → IsInTime latest monitor

/-- Nothing waits in an empty database. -/
theorem WaitsBounded.empty : WaitsBounded settings latest (System.idle .empty) where
  locks := LocksHold.idle .empty
  items := fun _ _ hget ↦ nomatch hget
  accepted := PayloadsAccepted.idle settings .empty
  clocks := fun _ _ hget ↦ nomatch hget
  inserted := fun _ _ _ hget ↦ nomatch hget
  intervals := fun _ _ hget ↦ nomatch hget
  rows := fun _ _ hget ↦ nomatch hget

/-- A row after a step has intervals of at most a day and times that are not too late. -/
theorem WaitsBounded.row (hbounded : WaitsBounded settings latest system)
    (hclock : ReadsUntil latest action) (htransition : Transition settings system action next)
    {monitorId : ℕ} {monitor : Monitor} (hget : next.monitor monitorId = some monitor) :
    Api.IntervalsMeet (seconds · ≤ day) monitor ∧ IsInTime latest monitor := by
  obtain ⟨writers, hrow, -⟩ :=
    rowStep_of_transition hbounded.locks hbounded.items htransition hget
  cases hrow with
  | kept monitor hstored =>
    exact ⟨hbounded.intervals monitorId monitor hstored, hbounded.rows monitorId monitor hstored⟩
  | claimed processId run interval before hbefore hstored hdue hclaim =>
    have hmeets := hbounded.intervals monitorId before hstored
    have hnow := hbounded.clocks processId run hbefore
    have hinterval := @Api.intervalsMeet_claimInterval _ (seconds · ≤ day) _ _ hmeets hclaim
    exact ⟨Api.intervalsMeet_setNext _ _ hmeets,
      (hbounded.rows monitorId before hstored).setNext _ (by omega)⟩
  | recovered processId run items interval before hbefore hstage hitem hstored =>
    have hnow := hbounded.clocks processId run hbefore
    refine ⟨Api.intervalsMeet_setNext _ _ (hbounded.intervals monitorId before hstored),
      (hbounded.rows monitorId before hstored).setNext _ ?_⟩
    rw [day, seconds]
    omega
  | created processId row hbefore hreserved =>
    exact ⟨Api.intervalsMeet_newMonitor le_day_of_isInterval
      (hbounded.accepted.inserts processId monitorId row hbefore) row.now,
      isInTime_newMonitor row.payload (hbounded.inserted processId monitorId row hbefore)⟩
  | updated processId payload loaded stored monitor now hbefore hstored hcommit =>
    exact ⟨Api.intervalsMeet_commitUpdate le_day_of_isInterval
      (hbounded.accepted.updates processId monitorId payload loaded hbefore)
      (hbounded.intervals monitorId stored hstored) hcommit,
      (hbounded.rows monitorId stored hstored).commitUpdate (hclock now rfl) hcommit⟩
  | probed processId run after rewrite result stored hbefore hcommit hmonitorId hstored hresults =>
    obtain ⟨status, lastCheckedAt, heq⟩ := hcommit.rewrite_eq stored
    rw [heq]
    have htime := hbounded.rows monitorId stored hstored
    refine ⟨hbounded.intervals monitorId stored hstored, fun schedule due hdue ↦ ?_, htime.isSome⟩
    cases schedule with
    | health => exact htime.le .health due hdue
    | keepAlive => exact htime.le .keepAlive due hdue

/-- Every step keeps it. -/
theorem WaitsBounded.step (hbounded : WaitsBounded settings latest system)
    (hclock : ReadsUntil latest action)
    (hstep : Concurrent.step settings system action = some next) :
    WaitsBounded settings latest next := by
  have htransition := transition_of_step hstep
  refine ⟨hbounded.locks.step htransition, hbounded.items.step hbounded.locks htransition,
    hbounded.accepted.step htransition, ?_, ?_, ?_, ?_⟩
  · intro processId run hget
    rcases clock_of_step hstep hget with ⟨begun, hbegun, hnow⟩ | hread
    · exact hnow ▸ hbounded.clocks processId begun hbegun
    · exact hclock run.now hread
  · intro processId monitorId row hget
    rcases inserted_of_transition htransition hget with hsame | ⟨_, -, rfl, -⟩
    · exact hbounded.inserted processId monitorId row hsame
    · exact hclock row.now rfl
  · exact fun monitorId monitor hget ↦ (hbounded.row hclock htransition hget).1
  · exact fun monitorId monitor hget ↦ (hbounded.row hclock htransition hget).2

/-- A recovery of keep-alive requests resets enabled monitors only. -/
def RecoversEnabled (system : System) (action : Action) : Prop :=
  ∀ processId run items monitorId interval monitor, action = .recoverItems processId true →
    system.processes.get processId = some (.sweep run) → run.schedule = .keepAlive →
      run.stage = .recovering items → (monitorId, interval) ∈ items →
        system.monitor monitorId = some monitor → monitor.keepAliveEnabled = true

/-- The keep-alive times stay in step with keep-alive where recoveries reset enabled monitors. -/
theorem WaitsBounded.timed_step (hbounded : WaitsBounded settings latest system)
    (htimed : Timed system) (hrecovers : RecoversEnabled system action)
    (htransition : Transition settings system action next) : Timed next := by
  refine htimed.step htransition ?_
  intro processId run items monitorId interval monitor haction hbefore hstage hitem hstored
  cases hschedule : run.schedule with
  | health => exact (hbounded.rows monitorId monitor hstored).isSome
  | keepAlive =>
    exact (htimed.rows monitorId monitor hstored).trans
      (hrecovers processId run items monitorId interval monitor haction hbefore hschedule hstage
        hitem hstored)

/-- No monitor drops out of its schedule. In every run from an empty database whose clocks are up to
`latest`, whatever sweeps are killed and whatever recoveries fail, a monitor that a phase of the
sweep selects by its configuration is due for every sweep whose clock is a day later.
Assumes, for keep-alive requests: a recovery resets enabled monitors only. -/
theorem isDue_of_reaches {schedule : Schedule} {now : ℤ} {monitorId : ℕ} {monitor : Monitor}
    (hreaches : Reaches (step settings) (fun system action ↦ ReadsUntil latest action ∧
      (schedule = .keepAlive → RecoversEnabled system action)) (System.idle .empty) system)
    (hstored : system.monitor monitorId = some monitor)
    (hselected : schedule.isSelected monitor = true) (hnow : latest + day ≤ now) :
    schedule.isDue now monitor = true := by
  have hinv : WaitsBounded settings latest system ∧ (schedule = .keepAlive → Timed system) := by
    refine hreaches.invariant (motive := fun state ↦
      WaitsBounded settings latest state ∧ (schedule = .keepAlive → Timed state))
      ⟨.empty, fun _ ↦ Timed.idle fun _ _ hget ↦ nomatch hget⟩ ?_
    rintro state label after ⟨hbounded, htimed⟩ ⟨hclock, hrecovers⟩ hstep
    exact ⟨hbounded.step hclock hstep, fun heq ↦
      hbounded.timed_step (htimed heq) (hrecovers heq) (transition_of_step hstep)⟩
  have htime := hinv.1.rows monitorId monitor hstored
  have hsome : (schedule.next monitor).isSome = true := by
    cases schedule with
    | health => exact htime.isSome
    | keepAlive =>
      rw [Schedule.isSelected, Bool.and_eq_true] at hselected
      exact ((hinv.2 rfl).rows monitorId monitor hstored).trans hselected.1
  obtain ⟨due, hdue⟩ := Option.isSome_iff_exists.mp hsome
  exact (Schedule.isDue_iff _ _ _).mpr
    ⟨hselected, due, hdue, (htime.le schedule due hdue).trans hnow⟩

/-- A monitor is created and swept. The broker takes neither of its tasks: the recovery of the
health check fails, and the worker is killed before the keep-alive request is handed over. -/
def lostClaims : List Action :=
  [.countMonitors sampleCreate, .insertMonitor 1 0 0, .commitCreate 1, .startSweep 5 1 1,
    .select 2 [1], .commitClaim 2, .enqueue 2 false, .recoverItems 2 false, .select 2 [1],
    .commitClaim 2, .abandon 2]

/-- The monitor is due for both phases a day later. -/
theorem isDue_lostClaims : ∃ system monitor,
    run (step .default) (System.idle .empty) lostClaims = some system ∧
      system.monitor 1 = some monitor ∧ system.dispatches = [] ∧
        Schedule.health.isDue (5 + day) monitor = true ∧
          Schedule.keepAlive.isDue (5 + day) monitor = true := by
  have hleft : (run (step .default) (System.idle .empty) lostClaims).map (fun system ↦
      ((system.monitor 1).map fun monitor ↦ (monitor.mode, monitor.keepAliveEnabled),
        system.dispatches)) = some (some (.monitorAndKeepAlive, true), []) := by rfl
  obtain ⟨system, hrun, hsystem⟩ := Option.map_eq_some_iff.mp hleft
  obtain ⟨hmonitor, hdispatches⟩ := Prod.mk.inj hsystem
  obtain ⟨monitor, hstored, hconfig⟩ := Option.map_eq_some_iff.mp hmonitor
  obtain ⟨hmode, henabled⟩ := Prod.mk.inj hconfig
  have hallowed : ∀ schedule : Schedule, ∀ label ∈ lostClaims, ∀ state,
      ReadsUntil 5 label ∧ (schedule = .keepAlive → RecoversEnabled state label) := by
    intro schedule label hlabel state
    simp only [lostClaims, List.mem_cons, List.not_mem_nil, or_false] at hlabel
    rcases hlabel with rfl | rfl | rfl | rfl | rfl | rfl | rfl | rfl | rfl | rfl | rfl <;>
      refine ⟨?_, fun _ _ _ _ _ _ _ haction ↦ by simp at haction⟩ <;>
        rintro _ ⟨⟩ <;> decide
  refine ⟨system, monitor, hrun, hstored, hdispatches, ?_, ?_⟩
  · refine isDue_of_reaches (reaches_of_run .start (hallowed .health) hrun) hstored ?_ le_rfl
    rw [Schedule.isSelected, hmode]
    rfl
  · refine isDue_of_reaches (reaches_of_run .start (hallowed .keepAlive) hrun) hstored ?_ le_rfl
    rw [Schedule.isSelected, hmode, henabled]
    rfl

/-- A recovery gives a monitor a keep-alive time that has been disabled meanwhile. One update
enables keep-alive and leaves that time, another gives the monitor a name and takes the time away,
since it has loaded the monitor as disabled. -/
def strandingRun : List Action :=
  [.countMonitors sampleCreate, .insertMonitor 1 0 0, .commitCreate 1, .startSweep 5 1 1,
    .select 2 [], .select 2 [1], .commitClaim 2, .enqueue 2 false,
    .loadUpdate 1 ⟨.omitted, .omitted, .omitted, .value false, .omitted, .omitted⟩,
    .commitUpdate 3 6, .recoverItems 2 true,
    .loadUpdate 1 ⟨.omitted, .omitted, .value .keepAlive, .value true, .value 60, .omitted⟩,
    .loadUpdate 1 ⟨.value "renamed".toList, .omitted, .omitted, .omitted, .omitted, .omitted⟩,
    .commitUpdate 4 7, .commitUpdate 5 8]

/-- The monitor is selected by the keep-alive phase but for the time, and it has none: without a
condition on the recoveries it is never due again. -/
theorem strandingRun_strands :
    (run (step .default) (System.idle .empty) strandingRun).map (fun system ↦
      (system.monitor 1).map fun monitor ↦
        (Schedule.keepAlive.isSelected monitor, monitor.nextKeepAliveAt)) =
      some (some (true, none)) := by rfl

end PingGuard.Concurrent
