import PingGuard.Concurrent.Rows

/-!
# Health checks

Any number of runs of `execute_ping` on one monitor. A run reads the row before its probe and writes
it afterwards, without a lock or a version check, and the flush writes a column only if it differs
from what the run has read.

`StatusIsRecorded` is what the two columns should mean: the status of a monitor is the one of the
check that is recorded for its `last_checked_at`. `ChecksAdvance` is what a step should keep: that
time never goes back. `CommitInOrder` is the condition on the state before a commit under which both
hold; one commit meets it exactly when it keeps both (`commitInOrder_of_flushStatus`).
-/

set_option autoImplicit false
set_option relaxedAutoImplicit false

namespace PingGuard.Concurrent

open Library.SerialTable Library.Transition Models Net ProbeTask Status Sweep

variable {settings : Settings} {system next : System} {action : Action}

/-! ### Recorded checks -/

/-- Whether a health check of a monitor is recorded for a time, with an outcome of that status. -/
def IsRecorded (results : Table PingResult) (monitorId : ℕ) (time : ℤ) (status : MonitorStatus) :
    Prop :=
  ∃ key result, results.get key = some result ∧ result.monitorId = monitorId ∧
    result.checkType = .monitor ∧ result.checkedAt = time ∧ outcomeToStatus result.outcome = status

/-- The status of a monitor that was checked is that of a check recorded for its
`last_checked_at`. -/
def StatusIsRecorded (results : Table PingResult) (monitorId : ℕ) (monitor : Monitor) : Prop :=
  ∀ time, monitor.lastCheckedAt = some time → IsRecorded results monitorId time monitor.status

/-- The last check of a row is not before the last check of another. -/
def ChecksAdvance (before after : Monitor) : Prop :=
  ∀ time, before.lastCheckedAt = some time →
    ∃ later, after.lastCheckedAt = some later ∧ time ≤ later

/-- A time that is kept does not go back. -/
theorem ChecksAdvance.of_eq {before after : Monitor}
    (heq : after.lastCheckedAt = before.lastCheckedAt) : ChecksAdvance before after :=
  fun time htime ↦ ⟨time, heq.trans htime, le_refl time⟩

/-- Times that do not go back compose. -/
theorem ChecksAdvance.trans {before middle after : Monitor} (hfirst : ChecksAdvance before middle)
    (hsecond : ChecksAdvance middle after) : ChecksAdvance before after := by
  intro time htime
  obtain ⟨later, hlater, hle⟩ := hfirst time htime
  obtain ⟨latest, hlatest, hle'⟩ := hsecond later hlater
  exact ⟨latest, hlatest, hle.trans hle'⟩

/-- What is recorded after a result is added. -/
theorem isRecorded_insert_iff {results : Table PingResult} {result : PingResult} {monitorId : ℕ}
    {time : ℤ} {status : MonitorStatus} :
    IsRecorded (results.insert result) monitorId time status ↔
      IsRecorded results monitorId time status ∨
        (result.monitorId = monitorId ∧ result.checkType = .monitor ∧ result.checkedAt = time ∧
          outcomeToStatus result.outcome = status) := by
  constructor
  · rintro ⟨key, other, hget, hother⟩
    rw [Table.get_insert] at hget
    split_ifs at hget with hkey
    · obtain rfl := Option.some.inj hget
      exact Or.inr hother
    · exact Or.inl ⟨key, other, hget, hother⟩
  · rintro (⟨key, other, hget, hother⟩ | hresult)
    · refine ⟨key, other, ?_, hother⟩
      rw [Table.get_insert, if_neg (Nat.ne_of_lt (results.lt_nextKey_of_get hget))]
      exact hget
    · refine ⟨results.nextKey, result, ?_, hresult⟩
      rw [Table.get_insert, if_pos rfl]

/-! ### One commit -/

/-- When a check may be committed over a row that another check has changed since it was loaded. The
stored check has the time of this one; or it is earlier, and the status is written or is the stored
one; or the time is not written, because the row was loaded with it, and the status is not written
or is recorded for the stored check. -/
def CommitInOrder (results : Table PingResult) (outcome : PingOutcome) (run : ProbeRun)
    (stored : Monitor) : Prop :=
  stored.lastCheckedAt = some run.now ∨
  ((∀ time, stored.lastCheckedAt = some time → time < run.now) ∧
    (outcomeToStatus outcome ≠ run.loaded.status ∨ outcomeToStatus outcome = stored.status)) ∨
  (run.loaded.lastCheckedAt = some run.now ∧
    (outcomeToStatus outcome = run.loaded.status ∨
      ∃ time, stored.lastCheckedAt = some time ∧
        IsRecorded results run.monitorId time (outcomeToStatus outcome)))

/-- Whether a result records a check of a run. -/
def Records (result : PingResult) (run : ProbeRun) (outcome : PingOutcome) : Prop :=
  result.monitorId = run.monitorId ∧ result.checkType = .monitor ∧ result.checkedAt = run.now ∧
    result.outcome = outcome

section Commit

variable {results : Table PingResult} {outcome : PingOutcome} {run : ProbeRun} {stored : Monitor}
  {result : PingResult}

/-- The time of the last check after a flush is the stored one or that of the check. -/
theorem lastCheckedAt_flushStatus (outcome : PingOutcome) (run : ProbeRun) (stored : Monitor) :
    (flushStatus outcome run.now run.loaded stored).lastCheckedAt =
      flushColumn run.loaded.lastCheckedAt (some run.now) stored.lastCheckedAt := rfl

/-- It is that of the check, if no later check is stored. -/
theorem lastCheckedAt_flushStatus_of_le (hloaded : ChecksAdvance run.loaded stored)
    (hle : ∀ time, stored.lastCheckedAt = some time → time ≤ run.now) :
    (flushStatus outcome run.now run.loaded stored).lastCheckedAt = some run.now := by
  rw [lastCheckedAt_flushStatus]
  by_cases hsame : run.loaded.lastCheckedAt = some run.now
  · obtain ⟨time, htime, hge⟩ := hloaded run.now hsame
    rw [hsame, flushColumn_unchanged, htime, le_antisymm (hle time htime) hge]
  · exact flushColumn_of_ne (Ne.symm hsame) _

/-- It is the stored one, if the row was loaded with that of the check. -/
theorem lastCheckedAt_flushStatus_of_loaded (hloaded : run.loaded.lastCheckedAt = some run.now) :
    (flushStatus outcome run.now run.loaded stored).lastCheckedAt = stored.lastCheckedAt := by
  rw [lastCheckedAt_flushStatus, hloaded, flushColumn_unchanged]

/-- The status after a flush is the stored one or that of the check. -/
theorem status_flushStatus (outcome : PingOutcome) (run : ProbeRun) (stored : Monitor) :
    (flushStatus outcome run.now run.loaded stored).status =
      if outcomeToStatus outcome = run.loaded.status then stored.status
      else outcomeToStatus outcome := rfl

/-- A commit in order keeps what the columns mean, and the time does not go back. -/
theorem flushStatus_of_commitInOrder (hrecords : Records result run outcome)
    (hstored : StatusIsRecorded results run.monitorId stored)
    (hloaded : ChecksAdvance run.loaded stored)
    (horder : CommitInOrder results outcome run stored) :
    ChecksAdvance stored (flushStatus outcome run.now run.loaded stored) ∧
      StatusIsRecorded (results.insert result) run.monitorId
        (flushStatus outcome run.now run.loaded stored) := by
  have hnew : IsRecorded (results.insert result) run.monitorId run.now
      (outcomeToStatus outcome) := by
    obtain ⟨hmonitorId, htype, htime, houtcome⟩ := hrecords
    exact isRecorded_insert_iff.mpr (Or.inr ⟨hmonitorId, htype, htime, by rw [houtcome]⟩)
  have hold : ∀ time status, IsRecorded results run.monitorId time status →
      IsRecorded (results.insert result) run.monitorId time status :=
    fun time status h ↦ isRecorded_insert_iff.mpr (Or.inl h)
  rcases horder with hsame | ⟨hearlier, hstatus⟩ | ⟨hunwritten, hstatus⟩
  · -- both checks are recorded for the time, so either status is
    have htime : (flushStatus outcome run.now run.loaded stored).lastCheckedAt = some run.now := by
      refine lastCheckedAt_flushStatus_of_le hloaded fun time htime ↦ ?_
      exact le_of_eq (Option.some.inj (htime.symm.trans hsame))
    refine ⟨ChecksAdvance.of_eq (htime.trans hsame.symm), fun time hlast ↦ ?_⟩
    obtain rfl := Option.some.inj (htime.symm.trans hlast)
    rw [status_flushStatus]
    split_ifs
    · exact hold _ _ (hstored run.now hsame)
    · exact hnew
  · have htime : (flushStatus outcome run.now run.loaded stored).lastCheckedAt = some run.now :=
      lastCheckedAt_flushStatus_of_le hloaded fun time htime ↦ (hearlier time htime).le
    refine ⟨fun time hlast ↦ ⟨run.now, htime, (hearlier time hlast).le⟩, fun time hlast ↦ ?_⟩
    obtain rfl := Option.some.inj (htime.symm.trans hlast)
    rw [status_flushStatus]
    split_ifs with hread
    · rw [← hstatus.resolve_left (fun h ↦ h hread)]
      exact hnew
    · exact hnew
  · have htime : (flushStatus outcome run.now run.loaded stored).lastCheckedAt =
        stored.lastCheckedAt := lastCheckedAt_flushStatus_of_loaded hunwritten
    refine ⟨ChecksAdvance.of_eq htime, fun time hlast ↦ ?_⟩
    rw [htime] at hlast
    rw [status_flushStatus]
    split_ifs with hread
    · exact hold _ _ (hstored time hlast)
    · obtain ⟨other, hother, hrecorded⟩ := hstatus.resolve_left hread
      obtain rfl := Option.some.inj (hlast.symm.trans hother)
      exact hold _ _ hrecorded

/-- The condition is exact: a commit that keeps both is in order.
Assumes: no check is recorded that is later than the last one of the stored row. -/
theorem commitInOrder_of_flushStatus (hrecords : Records result run outcome)
    (hlatest : ∀ time status, IsRecorded results run.monitorId time status →
      ∃ last, stored.lastCheckedAt = some last ∧ time ≤ last)
    (hloaded : ChecksAdvance run.loaded stored)
    (hadvance : ChecksAdvance stored (flushStatus outcome run.now run.loaded stored))
    (hafter : StatusIsRecorded (results.insert result) run.monitorId
      (flushStatus outcome run.now run.loaded stored)) :
    CommitInOrder results outcome run stored := by
  obtain ⟨-, -, hresultTime, hresultOutcome⟩ := hrecords
  by_cases hle : ∀ time, stored.lastCheckedAt = some time → time ≤ run.now
  · by_cases hsame : stored.lastCheckedAt = some run.now
    · exact Or.inl hsame
    · -- the time is written, and only the new result has it
      have hearlier : ∀ time, stored.lastCheckedAt = some time → time < run.now := by
        intro time htime
        refine lt_of_le_of_ne (hle time htime) ?_
        rintro rfl
        exact hsame htime
      refine Or.inr (Or.inl ⟨hearlier, ?_⟩)
      rcases isRecorded_insert_iff.mp
        (hafter run.now (lastCheckedAt_flushStatus_of_le hloaded hle)) with
        hold | ⟨-, -, -, hstatus⟩
      · obtain ⟨last, hlast, hge⟩ := hlatest run.now _ hold
        exact absurd (hearlier last hlast) (not_lt.mpr hge)
      · rw [status_flushStatus, hresultOutcome] at hstatus
        by_cases hread : outcomeToStatus outcome = run.loaded.status
        · rw [if_pos hread] at hstatus
          exact Or.inr hstatus
        · exact Or.inl hread
  · -- a later check is stored, so the time is not written
    push Not at hle
    obtain ⟨time, htime, hlt⟩ := hle
    obtain ⟨later, hlater, hge⟩ := hadvance time htime
    have hunwritten : run.loaded.lastCheckedAt = some run.now := by
      by_contra hne
      have hwritten : (flushStatus outcome run.now run.loaded stored).lastCheckedAt =
          some run.now := flushColumn_of_ne (Ne.symm hne) _
      rw [hwritten] at hlater
      obtain rfl := Option.some.inj hlater
      exact absurd hlt (not_lt.mpr hge)
    refine Or.inr (Or.inr ⟨hunwritten, ?_⟩)
    by_cases hread : outcomeToStatus outcome = run.loaded.status
    · exact Or.inl hread
    · refine Or.inr ⟨time, htime, ?_⟩
      have hrecorded := hafter time ((lastCheckedAt_flushStatus_of_loaded hunwritten).trans htime)
      rw [status_flushStatus, if_neg hread] at hrecorded
      rcases isRecorded_insert_iff.mp hrecorded with hold | ⟨-, -, hnow, -⟩
      · exact hold
      · exact absurd (hresultTime.symm.trans hnow) (ne_of_lt hlt)

end Commit

/-! ### Every step -/

/-- The commits of checks are in order. The commit after the soft time limit of `execute_keep_alive`
writes the same columns, and is no check. -/
def CheckInOrder (system : System) : Action → Prop
  | .commitProbe processId dto => ∀ run stored,
      system.processes.get processId = some (.probe run) →
        system.monitor run.monitorId = some stored → run.task = .executePing →
          CommitInOrder system.database.pingResults dto.outcome run stored
  | .commitTimeLimit processId => ∀ run stored,
      system.processes.get processId = some (.probe run) →
        system.monitor run.monitorId = some stored → run.task = .executePing ∧
          CommitInOrder system.database.pingResults .down run stored
  | _ => True

/-- What runs with checks in order keep. -/
structure ChecksOrdered (system : System) : Prop where
  locks : LocksHold system
  items : ItemsDistinct system
  rows : ∀ monitorId monitor, system.monitor monitorId = some monitor →
    StatusIsRecorded system.database.pingResults monitorId monitor
  loads : ∀ processId run, system.processes.get processId = some (.probe run) →
    system.database.monitors.IsSpent run.monitorId ∧
      ∀ stored, system.monitor run.monitorId = some stored → ChecksAdvance run.loaded stored

/-- What is recorded for a monitor stays recorded while the monitor is stored. -/
theorem isRecorded_of_transition (htransition : Transition settings system action next)
    {monitorId : ℕ} (hpresent : (next.monitor monitorId).isSome = true) {time : ℤ}
    {status : MonitorStatus}
    (hrecorded : IsRecorded system.database.pingResults monitorId time status) :
    IsRecorded next.database.pingResults monitorId time status := by
  cases htransition with
  | probed processId run after rewrite result stored hbefore hcommit hstored hunlocked =>
    exact isRecorded_insert_iff.mpr (Or.inl hrecorded)
  | deleted processId deletedId hbefore hunlocked =>
    obtain ⟨key, result, hget, hmonitorId, hresult⟩ := hrecorded
    have hne : monitorId ≠ deletedId := by
      rintro rfl
      have hnone := (congrArg Option.isSome (Table.get_erase _ _ _)).symm.trans hpresent
      rw [if_pos rfl] at hnone
      nomatch hnone
    refine ⟨key, result, (Table.get_filterRows _ _ _).trans ?_, hmonitorId, hresult⟩
    rw [hget, Option.filter_some, if_pos (decide_eq_true (hmonitorId ▸ hne))]
  | _ => exact hrecorded

/-- A row after a step in order: its status is recorded, its last check is not before the one
stored, and unless it is new it was stored. -/
theorem ChecksOrdered.row (hordered : ChecksOrdered system) (hallowed : CheckInOrder system action)
    (htransition : Transition settings system action next) {monitorId : ℕ} {monitor : Monitor}
    (hget : next.monitor monitorId = some monitor) :
    StatusIsRecorded next.database.pingResults monitorId monitor ∧
      (∀ stored, system.monitor monitorId = some stored → ChecksAdvance stored monitor) ∧
      (system.database.monitors.IsSpent monitorId →
        (system.monitor monitorId).isSome = true) := by
  -- a row whose status and last check are as they were
  have hkept : ∀ stored, system.monitor monitorId = some stored →
      monitor.status = stored.status → monitor.lastCheckedAt = stored.lastCheckedAt →
        StatusIsRecorded next.database.pingResults monitorId monitor ∧
          (∀ stored, system.monitor monitorId = some stored → ChecksAdvance stored monitor) ∧
          (system.database.monitors.IsSpent monitorId →
            (system.monitor monitorId).isSome = true) := by
    intro stored hstored hstatus hlast
    refine ⟨fun time htime ↦ ?_, fun other hother ↦ ?_, fun _ ↦ by rw [hstored]; rfl⟩
    · rw [hstatus]
      exact isRecorded_of_transition htransition (by rw [hget]; rfl)
        (hordered.rows monitorId stored hstored time (hlast.symm.trans htime))
    · obtain rfl := Option.some.inj (hstored.symm.trans hother)
      exact ChecksAdvance.of_eq hlast
  obtain ⟨writers, hrow, -⟩ :=
    rowStep_of_transition hordered.locks hordered.items htransition hget
  cases hrow with
  | kept monitor hstored => exact hkept monitor hstored rfl rfl
  | claimed processId run interval before hbefore hstored hdue hclaim =>
    refine hkept before hstored ?_ ?_
    · cases run.schedule <;> rfl
    · cases run.schedule <;> rfl
  | recovered processId run items interval before hbefore hstage hitem hstored =>
    refine hkept before hstored ?_ ?_
    · cases run.schedule <;> rfl
    · cases run.schedule <;> rfl
  | created processId row hbefore hreserved =>
    have hnew := Table.not_isSpent_of_mem_reserved hreserved
    refine ⟨fun _ htime ↦ (nomatch htime), fun stored hstored ↦ ?_, fun hspent ↦ ?_⟩
    · exact absurd (Table.isSpent_of_get _ hstored) hnew
    · exact absurd hspent hnew
  | updated processId payload loaded stored monitor now hbefore hstored hcommit =>
    obtain ⟨draft, -, -, hflushed⟩ := Api.commitUpdate_eq_ok hcommit
    exact hkept stored hstored hflushed.status hflushed.lastCheckedAt
  | probed processId run after rewrite result stored hbefore hcommit hmonitorId hstored hresults =>
    subst hmonitorId
    -- a check that is committed
    have hflushed : ∀ outcome, Records result run outcome →
        CommitInOrder system.database.pingResults outcome run stored →
          rewrite = flushStatus outcome run.now run.loaded →
            StatusIsRecorded next.database.pingResults run.monitorId (rewrite stored) ∧
              (∀ other, system.monitor run.monitorId = some other →
                ChecksAdvance other (rewrite stored)) ∧
              (system.database.monitors.IsSpent run.monitorId →
                (system.monitor run.monitorId).isSome = true) := by
      rintro outcome hrecords horder rfl
      obtain ⟨hadvance, hrecorded⟩ := flushStatus_of_commitInOrder hrecords
        (hordered.rows run.monitorId stored hstored)
        ((hordered.loads processId run hbefore).2 stored hstored) horder
      rw [hresults]
      refine ⟨hrecorded, fun other hother ↦ ?_, fun _ ↦ by rw [hstored]; rfl⟩
      obtain rfl := Option.some.inj (hstored.symm.trans hother)
      exact hadvance
    cases hcommit with
    | probe dto hstage =>
      by_cases htask : run.task = .executePing
      · refine hflushed dto.outcome ⟨rfl, congrArg Task.checkType htask, rfl, rfl⟩
          (hallowed run stored hbefore hstored htask) ?_
        rw [htask, flushProbe_executePing]
      · have hkeepAlive : run.task = .executeKeepAlive := by
          cases hother : run.task with
          | executePing => exact absurd hother htask
          | executeKeepAlive => rfl
        have hsame := flushProbe_executeKeepAlive dto.outcome run.now run.loaded stored
        rw [← hkeepAlive] at hsame
        exact hkept stored hstored (congrArg Monitor.status hsame)
          (congrArg Monitor.lastCheckedAt hsame)
    | timeLimit hstage =>
      obtain ⟨htask, horder⟩ := hallowed run stored hbefore hstored
      exact hflushed .down ⟨rfl, congrArg Task.checkType htask, rfl, rfl⟩ horder rfl

/-- Steps in order keep the order. -/
theorem ChecksOrdered.step (hordered : ChecksOrdered system)
    (hallowed : CheckInOrder system action)
    (htransition : Transition settings system action next) : ChecksOrdered next := by
  refine ⟨hordered.locks.step htransition, hordered.items.step hordered.locks htransition,
    fun monitorId monitor hget ↦ (hordered.row hallowed htransition hget).1, ?_⟩
  -- a row that a run has loaded is not behind it after the step
  have hloads : ∀ run : ProbeRun, system.database.monitors.IsSpent run.monitorId →
      (∀ stored, system.monitor run.monitorId = some stored → ChecksAdvance run.loaded stored) →
        next.database.monitors.IsSpent run.monitorId ∧
          ∀ stored, next.monitor run.monitorId = some stored →
            ChecksAdvance run.loaded stored := by
    intro run hspent hloaded
    refine ⟨isSpent_of_transition htransition hspent, fun stored hstored ↦ ?_⟩
    obtain ⟨-, hadvance, hpresent⟩ := hordered.row hallowed htransition hstored
    obtain ⟨before, hbefore⟩ := Option.isSome_iff_exists.mp (hpresent hspent)
    exact (hloaded before hbefore).trans (hadvance before hbefore)
  intro processId run hget
  rcases probe_of_transition htransition hget with ⟨before, hbefore, hmonitorId, heq⟩ | hread
  · obtain ⟨hspent, hloaded⟩ := hordered.loads processId before hbefore
    rw [hmonitorId] at hspent hloaded
    rw [heq] at hloaded
    exact hloads run hspent hloaded
  · refine hloads run (Table.isSpent_of_get _ hread) fun stored hstored ↦ ?_
    obtain rfl := Option.some.inj (hread.symm.trans hstored)
    exact ChecksAdvance.of_eq rfl

/-! ### Every run -/

/-- In every run whose checks are committed in order, the status of every monitor that was checked
is that of a check recorded for its `last_checked_at`, and no further step in order takes that time
back.
Assumes: at the start nothing runs, and the same holds of the rows. -/
theorem checksOrdered_of_reaches {database : Database}
    (hrows : ∀ monitorId monitor, database.monitors.get monitorId = some monitor →
      StatusIsRecorded database.pingResults monitorId monitor)
    (hreaches : Reaches (step settings) CheckInOrder (System.idle database) system) :
    (∀ monitorId monitor, system.monitor monitorId = some monitor →
      StatusIsRecorded system.database.pingResults monitorId monitor) ∧
    ∀ action next, CheckInOrder system action → step settings system action = some next →
      ∀ monitorId before after, system.monitor monitorId = some before →
        next.monitor monitorId = some after → ChecksAdvance before after := by
  have hordered : ChecksOrdered system := by
    refine hreaches.invariant (motive := ChecksOrdered) ?_ ?_
    · exact ⟨LocksHold.idle database, fun _ _ hget ↦ (nomatch hget), hrows,
        fun _ _ hget ↦ (nomatch hget)⟩
    · intro state label after hordered hallowed hstep
      exact hordered.step hallowed (transition_of_step hstep)
  refine ⟨hordered.rows, ?_⟩
  intro action next hallowed hstep monitorId before after hbefore hafter
  exact (hordered.row hallowed (transition_of_step hstep) hafter).2.1 before hbefore

/-- What a probe of an outcome returns, the rest left empty. -/
def probed (outcome : PingOutcome) : PingResultDTO := ⟨outcome, none, none, none, [], none⟩

/-- The commit of a check that is in order. -/
theorem checkInOrder_commitProbe {processId : ℕ} {dto : PingResultDTO} {run : ProbeRun}
    {stored : Monitor} (hprocess : system.processes.get processId = some (.probe run))
    (hstored : system.monitor run.monitorId = some stored)
    (horder : CommitInOrder system.database.pingResults dto.outcome run stored) :
    CheckInOrder system (.commitProbe processId dto) := by
  intro other monitor hother hmonitor _
  obtain rfl := Process.probe.inj (Option.some.inj (hprocess.symm.trans hother))
  obtain rfl := Option.some.inj (hstored.symm.trans hmonitor)
  exact horder

/-- Two checks and a keep-alive request are started before any of them is committed. -/
def overlappingChecks : List Action :=
  [.loadProbe .executePing 1 0, .loadProbe .executeKeepAlive 1 1, .loadProbe .executePing 1 2]

/-- Both checks are in order: the row is pending for both, and the earlier is committed first. -/
theorem checksOrdered_overlappingChecks : ∃ loaded first second system,
    run (step .default) (System.idle .oneMonitor) overlappingChecks = some loaded ∧
    step .default loaded (.commitProbe 1 (probed .up)) = some first ∧
    step .default first (.commitProbe 2 (probed .down)) = some second ∧
    step .default second (.commitProbe 3 (probed .down)) = some system ∧
    (first.monitor 1).map (fun monitor ↦ (monitor.status, monitor.lastCheckedAt)) =
      some (.up, some 0) ∧
    (system.monitor 1).map (fun monitor ↦ (monitor.status, monitor.lastCheckedAt)) =
      some (.down, some 2) ∧
    ∀ monitorId monitor, system.monitor monitorId = some monitor →
      StatusIsRecorded system.database.pingResults monitorId monitor := by
  have hrows : ∀ monitorId monitor, Database.oneMonitor.monitors.get monitorId = some monitor →
      StatusIsRecorded Database.oneMonitor.pingResults monitorId monitor := by
    intro monitorId monitor hget
    rw [Database.of_get_oneMonitor hget]
    exact fun _ htime ↦ nomatch htime
  have hload : ∀ label ∈ overlappingChecks, ∀ state, CheckInOrder state label := by
    intro label hlabel state
    simp only [overlappingChecks, List.mem_cons, List.not_mem_nil, or_false] at hlabel
    rcases hlabel with rfl | rfl | rfl <;> exact trivial
  obtain ⟨loaded, first, second, system, pending, checked, hloaded, hpending, hfirst, hkeepAlive,
    hsecond, hchecked, hlast, hsystem, hup, hdown⟩ : ∃ loaded first second system pending checked,
      run (step .default) (System.idle .oneMonitor) overlappingChecks = some loaded ∧
        (loaded.processes.get 1 = some (.probe ⟨.executePing, 1, 0, .dueAtZero, .probing⟩) ∧
          loaded.monitor 1 = some pending ∧ pending.lastCheckedAt = none) ∧
        step .default loaded (.commitProbe 1 (probed .up)) = some first ∧
        first.processes.get 2 = some (.probe ⟨.executeKeepAlive, 1, 1, .dueAtZero, .probing⟩) ∧
        step .default first (.commitProbe 2 (probed .down)) = some second ∧
        (second.processes.get 3 = some (.probe ⟨.executePing, 1, 2, .dueAtZero, .probing⟩) ∧
          second.monitor 1 = some checked) ∧ checked.lastCheckedAt = some 0 ∧
        step .default second (.commitProbe 3 (probed .down)) = some system ∧
        (first.monitor 1).map (fun monitor ↦ (monitor.status, monitor.lastCheckedAt)) =
          some (.up, some 0) ∧
        (system.monitor 1).map (fun monitor ↦ (monitor.status, monitor.lastCheckedAt)) =
          some (.down, some 2) :=
    ⟨_, _, _, _, _, _, rfl, ⟨rfl, rfl, rfl⟩, rfl, rfl, rfl, ⟨rfl, rfl⟩, rfl, rfl, rfl, rfl⟩
  have hearlier : CheckInOrder loaded (.commitProbe 1 (probed .up)) := by
    refine checkInOrder_commitProbe hpending.1 hpending.2.1 (Or.inr (Or.inl ⟨?_, Or.inl nofun⟩))
    exact fun _ htime ↦ nomatch hpending.2.2.symm.trans htime
  -- a keep-alive request is no check
  have hother : CheckInOrder first (.commitProbe 2 (probed .down)) := by
    intro run stored hprocess _ htask
    obtain rfl := Process.probe.inj (Option.some.inj (hkeepAlive.symm.trans hprocess))
    nomatch htask
  have hlater : CheckInOrder second (.commitProbe 3 (probed .down)) := by
    refine checkInOrder_commitProbe hchecked.1 hchecked.2 (Or.inr (Or.inl ⟨?_, Or.inl nofun⟩))
    intro time htime
    obtain rfl := Option.some.inj (hlast.symm.trans htime)
    decide
  have hreaches : Reaches (step .default) CheckInOrder (System.idle .oneMonitor) system :=
    (((reaches_of_run .start hload hloaded).step hearlier hfirst).step hother hsecond).step hlater
      hsystem
  exact ⟨loaded, first, second, system, hloaded, hfirst, hsecond, hsystem, hup, hdown,
    (checksOrdered_of_reaches hrows hreaches).1⟩

/-- A check reads the row at time 0. Another reads it at time 1 and is committed first. -/
def overtakenRun : List Action :=
  [.loadProbe .executePing 1 0, .loadProbe .executePing 1 1, .commitProbe 2 (probed .up)]

/-- A check finds the site up. Two more read that, the first finds it down, and the second finds it
up as it has read. -/
def unwrittenRun : List Action :=
  [.loadProbe .executePing 1 0, .commitProbe 1 (probed .up), .loadProbe .executePing 1 1,
    .loadProbe .executePing 1 2, .commitProbe 2 (probed .down), .commitProbe 3 (probed .up)]

/-- The overtaken check takes `last_checked_at` back, and the unwritten status is not that of the
last check. -/
theorem checks_out_of_order :
    (∃ before after, run (step .default) (System.idle .oneMonitor) overtakenRun = some before ∧
      step .default before (.commitProbe 1 (probed .down)) = some after ∧
      (before.monitor 1).map Monitor.lastCheckedAt = some (some 1) ∧
      (after.monitor 1).map Monitor.lastCheckedAt = some (some 0)) ∧
    ∃ after, run (step .default) (System.idle .oneMonitor) unwrittenRun = some after ∧
      (after.monitor 1).map Monitor.lastCheckedAt = some (some 2) ∧
      (after.monitor 1).map Monitor.status = some .down ∧
      (after.database.pingResults.rows.filter fun row ↦ row.2.checkedAt = 2).map
        (fun row ↦ outcomeToStatus row.2.outcome) = [.up] := by
  refine ⟨⟨_, _, rfl, rfl, rfl, rfl⟩, ⟨_, rfl, rfl, rfl, rfl⟩⟩

end PingGuard.Concurrent
