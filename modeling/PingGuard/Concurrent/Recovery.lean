import PingGuard.Concurrent.Rows

/-!
# Recovery after a broker failure

The recovery of a sweep resets rows by their keys, whatever has happened to them since the claim.
`NewestWriteStands` is what it should respect: a schedule column holds what the newest writer wrote,
and a recovery is the newest writer only directly after the claim that it takes back.

`RecoveryIsCurrent` is the condition on the state before a recovery under which it does. A run of
two sweeps shows that nothing enforces the condition.
-/

set_option autoImplicit false
set_option relaxedAutoImplicit false

namespace PingGuard.Concurrent

open Library.SerialTable Library.Transition Models ProbeTask Schemas Sweep

variable {settings : Settings} {system next : System} {action : Action}

/-- A recovery is current when every row that it resets was last written by the claim of the same
sweep. A row that is deleted by then does not count. -/
def RecoveryIsCurrent (system : System) (action : Action) : Prop :=
  ∀ processId run items, action = .recoverItems processId true →
    system.processes.get processId = some (.sweep run) → run.stage = .recovering items →
      ∀ monitorId interval, (monitorId, interval) ∈ items →
        (system.monitor monitorId).isSome = true → ∃ claimed,
          (writesOf run.schedule monitorId system.writes).head? =
            some (.claim processId run.now claimed)

/-- Whether a schedule column holds what its newest writer wrote, newest first. A recovery may only
follow the claim that it takes back. -/
def Stands (value : Option ℤ) : List Writer → Prop
  | [] => True
  | writer :: earlier => value = writer.value ∧ ∀ processId now, writer = .recovery processId now →
    ∃ interval, earlier.head? = some (.claim processId now interval)

/-- Every schedule column that was written holds what its newest writer wrote. -/
def NewestWriteStands (system : System) : Prop :=
  ∀ schedule monitorId monitor, system.monitor monitorId = some monitor →
    Stands (schedule.next monitor) (writesOf schedule monitorId system.writes)

/-- A disabled monitor has no keep-alive time. -/
def DisabledIsUntimed (system : System) : Prop :=
  ∀ monitorId monitor, system.monitor monitorId = some monitor →
    monitor.keepAliveEnabled = false → monitor.nextKeepAliveAt = none

/-- In a state where the newest writes stand, a current recovery resets rows that have a time. -/
theorem isSome_next_of_recoveryIsCurrent (hstands : NewestWriteStands system)
    (hcurrent : RecoveryIsCurrent system action) {processId monitorId : ℕ} {run : SweepRun}
    {items : List (ℕ × ℤ)} {interval : ℤ} {monitor : Monitor}
    (haction : action = .recoverItems processId true)
    (hbefore : system.processes.get processId = some (.sweep run))
    (hstage : run.stage = .recovering items) (hitem : (monitorId, interval) ∈ items)
    (hstored : system.monitor monitorId = some monitor) :
    (run.schedule.next monitor).isSome = true := by
  obtain ⟨claimed, hhead⟩ := hcurrent processId run items haction hbefore hstage monitorId interval
    hitem (by rw [hstored]; rfl)
  have hstand := hstands run.schedule monitorId monitor hstored
  cases hwrites : writesOf run.schedule monitorId system.writes with
  | nil =>
    rw [hwrites] at hhead
    nomatch hhead
  | cons writer earlier =>
    rw [hwrites] at hhead hstand
    obtain rfl := Option.some.inj hhead
    rw [hstand.1]
    rfl

/-- The newest writes stand after a step, where a recovery is current. -/
theorem NewestWriteStands.step (hstands : NewestWriteStands system) (htimed : Timed system)
    (hcurrent : RecoveryIsCurrent system action)
    (htransition : Transition settings system action next) : NewestWriteStands next := by
  intro schedule monitorId monitor hget
  obtain ⟨writers, hrow, hwrites⟩ :=
    rowStep_of_transition htimed.locks htimed.items htransition hget
  rw [hwrites]
  cases hrow with
  | kept monitor hstored => exact hstands schedule monitorId monitor hstored
  | claimed processId run interval before hbefore hstored hdue hclaim =>
    unfold onSchedule
    by_cases heq : schedule = run.schedule
    · rw [if_pos heq, heq, Schedule.next_setNext]
      exact ⟨rfl, fun _ _ h ↦ nomatch h⟩
    · rw [if_neg heq, Schedule.next_setNext_of_ne heq]
      exact hstands schedule monitorId before hstored
  | recovered processId run items interval before hbefore hstage hitem hstored =>
    unfold onSchedule
    by_cases heq : schedule = run.schedule
    · rw [if_pos heq, heq, Schedule.next_setNext]
      refine ⟨rfl, ?_⟩
      rintro _ _ ⟨⟩
      exact hcurrent processId run items rfl hbefore hstage monitorId interval hitem
        (by rw [hstored]; rfl)
    · rw [if_neg heq, Schedule.next_setNext_of_ne heq]
      exact hstands schedule monitorId before hstored
  | created processId row hbefore hreserved => exact ⟨rfl, fun _ _ h ↦ nomatch h⟩
  | updated processId payload loaded stored monitor now hbefore hstored hcommit =>
    rcases next_of_commitUpdate hcommit monitorId schedule with ⟨hnone, hsame⟩ | ⟨value, hwritten,
      hvalue⟩
    · dsimp only
      rw [hnone, hsame]
      exact hstands schedule monitorId stored hstored
    · dsimp only
      rw [hwritten, hvalue]
      exact ⟨rfl, fun _ _ h ↦ nomatch h⟩
  | probed processId run after rewrite result stored hbefore hcommit hmonitorId hstored hresults =>
    obtain ⟨status, lastCheckedAt, heq⟩ := hcommit.rewrite_eq stored
    rw [heq]
    have hnext := hstands schedule monitorId stored hstored
    cases schedule <;> exact hnext

/-- The condition is exact: after a recovery the newest writes stand only if it was current. -/
theorem recoveryIsCurrent_of_newestWriteStands (htimed : Timed system) {processId : ℕ}
    (hstep : step settings system (.recoverItems processId true) = some next)
    (hstands : NewestWriteStands next) :
    RecoveryIsCurrent system (.recoverItems processId true) := by
  rintro _ run items ⟨⟩ hbefore hstage monitorId interval hitem hpresent
  obtain ⟨monitor, hstored⟩ := Option.isSome_iff_exists.mp hpresent
  have hnodup := htimed.items processId run hbefore
  unfold SweepRun.items at hnodup
  rw [hstage] at hnodup
  unfold step recoverItems at hstep
  simp only [hbefore, hstage, not_true_eq_false, if_false] at hstep
  split_ifs at hstep with hunlocked
  obtain rfl := Option.some.inj hstep
  -- the recovery is recorded on top of what was recorded for the row
  have hstand := hstands run.schedule monitorId (run.schedule.setNext (some run.now) monitor) (by
    refine (get_recover run.schedule run.now _ _ monitorId).trans ?_
    rw [← System.monitor, hstored, Option.map_some,
      if_pos (List.mem_map.mpr ⟨_, hitem, rfl⟩)])
  have hrecord := (writesOf_append run.schedule monitorId
    ((items.filter fun item ↦ (system.monitor item.1).isSome).map fun item ↦
      ⟨run.schedule, item.1, .recovery processId run.now⟩) system.writes)
  rw [writesOf_recovery run.schedule run.schedule hnodup hitem hpresent, if_pos rfl] at hrecord
  have hstands' : Stands _ (writesOf run.schedule monitorId (_ ++ system.writes)) := hstand
  rw [hrecord] at hstands'
  exact hstands'.2 processId run.now rfl

/-- In every run whose recoveries are current, no recovery undoes a newer write, and a disabled
monitor has no keep-alive time.
Assumes: at the start nothing runs, and the monitors with a keep-alive time are the enabled ones. -/
theorem newestWriteStands_of_reaches {database : Database}
    (hrows : ∀ monitorId monitor, database.monitors.get monitorId = some monitor →
      Api.KeepAliveTimed monitor)
    (hreaches : Reaches (step settings) RecoveryIsCurrent (System.idle database) system) :
    NewestWriteStands system ∧ DisabledIsUntimed system := by
  have hinv : Timed system ∧ NewestWriteStands system := by
    refine hreaches.invariant (motive := fun state ↦ Timed state ∧ NewestWriteStands state)
      ⟨Timed.idle hrows, fun _ _ _ _ ↦ trivial⟩ ?_
    intro state label after hinv hcurrent hstep
    have htransition := transition_of_step hstep
    refine ⟨hinv.1.step htransition ?_, hinv.2.step hinv.1 hcurrent htransition⟩
    intro processId run items monitorId interval monitor haction hbefore hstage hitem hstored
    exact isSome_next_of_recoveryIsCurrent hinv.2 hcurrent haction hbefore hstage hitem hstored
  refine ⟨hinv.2, fun monitorId monitor hstored hdisabled ↦ ?_⟩
  have htimed := hinv.1.rows monitorId monitor hstored
  rw [Api.KeepAliveTimed, hdisabled] at htimed
  exact Option.isNone_iff_eq_none.mp (by simpa using htimed)

/-- A sweep claims a health check, and the broker fails. Meanwhile an update shortens the interval,
and another sweep claims the keep-alive request of the monitor. -/
def refusedRun : List Action :=
  [.startSweep 0 1 1, .select 1 [1],
    .loadUpdate 1 ⟨.omitted, .value 15, .omitted, .omitted, .omitted, .omitted⟩, .commitClaim 1,
    .startSweep (seconds 30) 1 1, .enqueue 1 false, .commitUpdate 2 1, .select 3 [], .select 3 [1],
    .commitClaim 3]

/-- The recovery of the first sweep is current, and the second hands over what it has claimed: both
writes stand. -/
theorem newestWriteStands_refusedRun : ∃ before after system,
    run (step .default) (System.idle .oneMonitor) refusedRun = some before ∧
      step .default before (.recoverItems 1 true) = some after ∧
      step .default after (.enqueue 3 true) = some system ∧
      (before.monitor 1).map Monitor.nextCheckAt = some (some (seconds 60)) ∧
      (system.monitor 1).map (fun monitor ↦ (monitor.nextCheckAt, monitor.nextKeepAliveAt)) =
        some (some 0, some (seconds 90)) ∧
      system.dispatches = [(.keepAlive, 1, seconds 30)] ∧
      NewestWriteStands system ∧ DisabledIsUntimed system := by
  have hrows : ∀ monitorId monitor, Database.oneMonitor.monitors.get monitorId = some monitor →
      Api.KeepAliveTimed monitor := by
    intro monitorId monitor hget
    rw [Database.of_get_oneMonitor hget]
    rfl
  have hother : ∀ label ∈ refusedRun, ∀ state, RecoveryIsCurrent state label := by
    intro label hlabel state processId run items hrecovery
    subst hrecovery
    simp [refusedRun] at hlabel
  obtain ⟨before, after, system, sweep, hbefore, hget, hstage, hhealth, hhead, hafter, hsystem,
    hclaimed, hmonitor, hdispatches⟩ : ∃ before after system sweep,
      run (step .default) (System.idle .oneMonitor) refusedRun = some before ∧
        before.processes.get 1 = some (.sweep sweep) ∧ sweep.stage = .recovering [(1, 60)] ∧
        sweep.schedule = .health ∧
        (writesOf .health 1 before.writes).head? = some (.claim 1 sweep.now 60) ∧
        step .default before (.recoverItems 1 true) = some after ∧
        step .default after (.enqueue 3 true) = some system ∧
        (before.monitor 1).map Monitor.nextCheckAt = some (some (seconds 60)) ∧
        (system.monitor 1).map (fun monitor ↦ (monitor.nextCheckAt, monitor.nextKeepAliveAt)) =
          some (some 0, some (seconds 90)) ∧
        system.dispatches = [(.keepAlive, 1, seconds 30)] :=
    ⟨_, _, _, _, rfl, rfl, rfl, rfl, rfl, rfl, rfl, rfl, rfl, rfl⟩
  -- the newest write of the row is the claim that is taken back
  have hcurrent : RecoveryIsCurrent before (.recoverItems 1 true) := by
    rintro _ other items ⟨⟩ hother hitems monitorId interval hitem -
    obtain rfl := Process.sweep.inj (Option.some.inj (hget.symm.trans hother))
    obtain rfl := SweepStage.recovering.inj (hstage.symm.trans hitems)
    obtain ⟨rfl, -⟩ := Prod.mk.inj (List.mem_singleton.mp hitem)
    rw [hhealth]
    exact ⟨60, hhead⟩
  have hrecovered : Reaches (step .default) RecoveryIsCurrent (System.idle .oneMonitor) after :=
    (reaches_of_run .start hother hbefore).step hcurrent hafter
  have hreaches : Reaches (step .default) RecoveryIsCurrent (System.idle .oneMonitor) system :=
    hrecovered.step (fun _ _ _ hrecovery ↦ absurd hrecovery Action.noConfusion) hsystem
  exact ⟨before, after, system, hbefore, hafter, hsystem, hclaimed, hmonitor, hdispatches,
    newestWriteStands_of_reaches hrows hreaches⟩

/-- A sweep claims a monitor at time 0, and the broker fails. Before the recovery another sweep
claims the monitor a minute later, and its task is with the broker. -/
def reclaimedRun : List Action :=
  [.startSweep 0 1 1, .select 1 [1], .commitClaim 1, .enqueue 1 false,
    .startSweep (seconds 60) 1 1, .select 2 [1], .commitClaim 2, .enqueue 2 true]

/-- A sweep claims a keep-alive request at time 0, and the broker fails. Before the recovery an
update disables keep-alive. -/
def disabledRun : List Action :=
  [.startSweep 0 1 1, .select 1 [], .select 1 [1], .commitClaim 1, .enqueue 1 false,
    .loadUpdate 1 ⟨.omitted, .omitted, .omitted, .value false, .omitted, .omitted⟩,
    .commitUpdate 2 1]

/-- The recovery of the first sweep undoes the claim of the second, and gives a disabled monitor a
keep-alive time. -/
theorem recovery_undoes_newer_writes :
    (∃ before after,
      run (step .default) (System.idle .oneMonitor) reclaimedRun = some before ∧
      step .default before (.recoverItems 1 true) = some after ∧
      before.dispatches = [(.health, 1, seconds 60)] ∧
      (before.monitor 1).map Monitor.nextCheckAt = some (some (seconds 120)) ∧
      (after.monitor 1).map Monitor.nextCheckAt = some (some 0)) ∧
    ∃ before after,
      run (step .default) (System.idle .oneMonitor) disabledRun = some before ∧
      step .default before (.recoverItems 1 true) = some after ∧
      (before.monitor 1).map Monitor.keepAliveEnabled = some false ∧
      (before.monitor 1).map Monitor.nextKeepAliveAt = some none ∧
      (after.monitor 1).map Monitor.nextKeepAliveAt = some (some 0) := by
  refine ⟨⟨_, _, rfl, rfl, rfl, rfl, rfl⟩, ⟨_, _, rfl, rfl, rfl, rfl, rfl⟩⟩

end PingGuard.Concurrent
