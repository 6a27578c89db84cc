import PingGuard.Lifecycle

/-!
# The frequency that a schedule honours

Operations one after the other on a clock that does not go back. A monitor is next checked within an
interval of now, and the interval is the one that was configured when the time of its next check
last changed: `timesHonoured_of_reaches`, for both schedules and whatever fails in a sweep.

It need not be the interval configured now. No operation reschedules a monitor because its interval
was changed, so a monitor whose interval is lowered waits for the rest of the longer one:
`lowered_interval_waits`. A `Timeline` therefore keeps with every time the interval that was
configured when it changed.
-/

set_option autoImplicit false
set_option relaxedAutoImplicit false

namespace PingGuard.Lifecycle

open Api Library.PyText Library.SerialTable Library.Transition Models ProbeTask Schemas Status Sweep

/-! ### Intervals -/

/-- The interval configured for a schedule. -/
def configured : Schedule → Monitor → Option ℤ
  | .health, monitor => some monitor.checkIntervalSeconds
  | .keepAlive, monitor => monitor.keepAliveIntervalSeconds

/-- Whether a monitor is to be visited by a schedule: it has a monitoring mode, or keep-alive is
enabled. -/
def isRunning : Schedule → Monitor → Bool
  | .health, monitor => monitor.mode.isMonitoring
  | .keepAlive, monitor => monitor.keepAliveEnabled

@[simp] theorem configured_setNext (schedule other : Schedule) (value : Option ℤ)
    (monitor : Monitor) :
    configured schedule (other.setNext value monitor) = configured schedule monitor := by
  cases schedule <;> cases other <;> rfl

/-- A claim reads the configured interval. -/
theorem configured_of_claimInterval {schedule : Schedule} {monitor : Monitor} {interval : ℤ}
    (hclaim : schedule.claimInterval monitor = some interval) :
    configured schedule monitor = some interval := by
  cases schedule with
  | health => exact hclaim
  | keepAlive => exact ((Schedule.claimInterval_keepAlive_iff monitor interval).mp hclaim).2.1

/-- A well-formed row that has a time has an interval for it. -/
theorem IsWellFormed.exists_configured {monitor : Monitor} (hwell : IsWellFormed monitor)
    {schedule : Schedule} (hsome : (schedule.next monitor).isSome = true) :
    ∃ interval, configured schedule monitor = some interval ∧ 0 < interval := by
  have hpos : ∀ interval, isInterval interval = true → 0 < interval := by
    intro interval hinterval
    unfold isInterval at hinterval
    rw [Bool.and_eq_true, decide_eq_true_eq] at hinterval
    omega
  cases schedule with
  | health => exact ⟨monitor.checkIntervalSeconds, rfl, hpos _ hwell.intervals.1⟩
  | keepAlive =>
    have henabled : monitor.keepAliveEnabled = true := hwell.timed.symm.trans hsome
    obtain ⟨interval, hinterval⟩ := Option.ne_none_iff_exists'.mp
      ((rulesAccept_enabled_iff henabled).mp hwell.rules).2
    exact ⟨interval, hinterval, hpos interval (hwell.intervals.2 interval hinterval)⟩

/-- A well-formed row has a time for every schedule that is to visit it. -/
theorem IsWellFormed.exists_next {monitor : Monitor} (hwell : IsWellFormed monitor)
    {schedule : Schedule} (hrunning : isRunning schedule monitor = true) :
    ∃ due, schedule.next monitor = some due := by
  cases schedule with
  | health => exact Option.isSome_iff_exists.mp hwell.checked
  | keepAlive => exact Option.isSome_iff_exists.mp (Eq.trans hwell.timed hrunning)

/-! ### What an operation does to a time -/

/-- The time of a row is that of the row before, or is within the configured interval. -/
def IsRetimed (schedule : Schedule) (now : ℤ) (before : Option Monitor) (later : Monitor) : Prop :=
  (∃ earlier, before = some earlier ∧ schedule.next later = schedule.next earlier) ∨
    ∀ due, schedule.next later = some due →
      ∃ interval, configured schedule later = some interval ∧ due ≤ now + seconds interval

/-- A well-formed row whose time is now is within its interval. -/
theorem IsWellFormed.isRetimed_now {monitor : Monitor} (hwell : IsWellFormed monitor)
    {schedule : Schedule} {now : ℤ}
    (hnow : ∀ due, schedule.next monitor = some due → due = now) (before : Option Monitor) :
    IsRetimed schedule now before monitor := by
  refine Or.inr fun due hdue ↦ ?_
  obtain ⟨interval, hinterval, hpos⟩ :=
    hwell.exists_configured (Option.isSome_iff_exists.mpr ⟨due, hdue⟩)
  have hseconds := seconds_pos hpos
  refine ⟨interval, hinterval, ?_⟩
  rw [hnow due hdue]
  omega

/-- A new row is due now. -/
theorem next_newMonitor (payload : MonitorCreate) (now : ℤ) (schedule : Schedule) (due : ℤ)
    (hdue : schedule.next (newMonitor payload now) = some due) : due = now := by
  cases schedule with
  | health => exact (Option.some.inj hdue).symm
  | keepAlive =>
    change (if payload.keepAliveEnabled then some now else none) = some due at hdue
    split_ifs at hdue
    exact (Option.some.inj hdue).symm

/-- A committed update leaves a time as it was, clears it, or sets it to now. -/
theorem next_commitUpdate {payload : MonitorUpdate} {now : ℤ} {loaded monitor : Monitor}
    (hcommit : commitUpdate payload now loaded loaded = .ok monitor) (schedule : Schedule) :
    schedule.next monitor = schedule.next loaded ∨
      ∀ due, schedule.next monitor = some due → due = now := by
  obtain ⟨draft, -, hdraft, hflushed⟩ := commitUpdate_eq_ok hcommit
  cases schedule with
  | health => exact Or.inl hflushed.nextCheckAt
  | keepAlive =>
    have hnext : monitor.nextKeepAliveAt =
        syncNextKeepAliveAt loaded draft.keepAliveEnabled now := by
      rw [hflushed.nextKeepAliveAt, flushColumn_self, hdraft.nextKeepAliveAt]
    unfold syncNextKeepAliveAt at hnext
    split_ifs at hnext with henabled hnone
    · exact Or.inr fun due hdue ↦ (Option.some.inj (hnext.symm.trans hdue)).symm
    · exact Or.inl hnext
    · exact Or.inr fun due hdue ↦ nomatch hnext.symm.trans hdue

/-- What a sweep does to a row leaves its time or puts it within the configured interval. -/
theorem isRetimed_of_moved {schedule : Schedule} {now : ℤ} {before after : Monitor}
    (hwell : IsWellFormed before) (hmoved : schedule.Moved now before after) :
    IsRetimed schedule now (some before) after := by
  rcases hmoved with rfl | ⟨interval, hclaim, hafter⟩
  · exact Or.inl ⟨_, rfl, rfl⟩
  refine Or.inr fun due hdue ↦ ⟨interval, ?_, ?_⟩
  · have hconfigured := configured_of_claimInterval hclaim
    rcases hafter with rfl | rfl <;> rw [configured_setNext, hconfigured]
  · have hpos : 0 < interval := by
      have hbounds := intervalsMeet_claimInterval hwell.intervals hclaim
      unfold isInterval at hbounds
      rw [Bool.and_eq_true, decide_eq_true_eq] at hbounds
      omega
    have hseconds := seconds_pos hpos
    rcases hafter with rfl | rfl
    · rw [Schedule.next_setNext] at hdue
      obtain rfl := Option.some.inj hdue
      omega
    · rw [Schedule.next_setNext] at hdue
      exact (Option.some.inj hdue).ge

/-- A row found after a phase of a sweep was found before. -/
theorem exists_before_of_movedTable {schedule : Schedule} {now : ℤ} {before after : Table Monitor}
    (hmoved : MovedTable schedule now before after) {monitorId : ℕ} {later : Monitor}
    (hget : after.get monitorId = some later) :
    ∃ monitor, before.get monitorId = some monitor ∧ schedule.Moved now monitor later := by
  obtain ⟨rewrite, hrewrite, rfl⟩ := hmoved
  rw [Table.get_mapRows] at hget
  obtain ⟨monitor, hmonitor, rfl⟩ := Option.map_eq_some_iff.mp hget
  exact ⟨monitor, hmonitor, hrewrite monitorId monitor⟩

/-- A sweep leaves every time or puts it within the configured interval: each phase for its own
schedule, and neither touches the times of the other. -/
theorem isRetimed_sweepDueMonitors {database : Database} (hrows : RowsWellFormed database)
    (now : ℤ) (batchSize maxBatches : ℕ) (healthEnv keepAliveEnv : PhaseEnv) {monitorId : ℕ}
    {later : Monitor}
    (hget : (Sweep.sweepDueMonitors now batchSize maxBatches healthEnv keepAliveEnv
      database.monitors).monitors.get monitorId = some later) (schedule : Schedule) :
    IsRetimed schedule now (database.monitors.get monitorId) later := by
  obtain ⟨middle, hmiddle, hkeepAlive⟩ :=
    exists_before_of_movedTable (sweepPhase_moved .keepAlive now batchSize keepAliveEnv _ _ _) hget
  obtain ⟨before, hbefore, hhealth⟩ :=
    exists_before_of_movedTable (sweepPhase_moved .health now batchSize healthEnv _ _ _) hmiddle
  have hwell : IsWellFormed before := hrows monitorId before hbefore
  rw [hbefore]
  cases schedule with
  | health =>
    have hnext : Schedule.health.next later = Schedule.health.next middle :=
      hkeepAlive.rescheduled.next_eq nofun
    have hconfigured : configured .health later = configured .health middle := by
      rcases hkeepAlive with rfl | ⟨_, -, rfl | rfl⟩
      · rfl
      · exact configured_setNext _ _ _ _
      · exact configured_setNext _ _ _ _
    have hretimed := isRetimed_of_moved hwell hhealth
    unfold IsRetimed at hretimed ⊢
    rwa [hconfigured, hnext]
  | keepAlive =>
    have hnext : Schedule.keepAlive.next middle = Schedule.keepAlive.next before :=
      hhealth.rescheduled.next_eq nofun
    rcases isRetimed_of_moved (hwell.rescheduled hhealth.rescheduled) hkeepAlive with
      ⟨_, ⟨⟩, hsame⟩ | hwithin
    · exact Or.inl ⟨before, rfl, hsame.trans hnext⟩
    · exact Or.inr hwithin

/-! ### Operations on a clock -/

/-- The clock that an operation reads, if it writes times by it. -/
def Operation.now : Operation → Option ℤ
  | createMonitor _ now _ | updateMonitor _ _ now | sweepDueMonitors now _ _ _ _ => some now
  | deleteMonitor _ | probeTask _ _ _ => none

/-- A row after a request was there before, or is one of the database that the request returns. -/
theorem get_ofRequest {database : Database} {response : Except RequestFailure Database}
    {monitorId : ℕ} {monitor : Monitor}
    (hget : (ofRequest database response).database.monitors.get monitorId = some monitor) :
    database.monitors.get monitorId = some monitor ∨
      ∃ after, response = .ok after ∧ after.monitors.get monitorId = some monitor := by
  cases response with
  | error failure => exact Or.inl hget
  | ok after => exact Or.inr ⟨after, rfl, hget⟩

/-- Every operation leaves every time or puts it within the configured interval. -/
theorem isRetimed_run {tables : UnicodeTables} {maxMonitors : ℕ} {database : Database}
    (hrows : RowsWellFormed database) {operation : Operation} {now : ℤ}
    (hnow : operation.now.all (· = now) = true) {monitorId : ℕ} {later : Monitor}
    (hget : (operation.run tables maxMonitors database).database.monitors.get monitorId =
      some later) (schedule : Schedule) :
    IsRetimed schedule now (database.monitors.get monitorId) later := by
  have hwell : IsWellFormed later :=
    hrows.run tables maxMonitors operation monitorId later hget
  have hkept : database.monitors.get monitorId = some later →
      IsRetimed schedule now (database.monitors.get monitorId) later :=
    fun hsame ↦ Or.inl ⟨later, hsame, rfl⟩
  cases operation with
  | createMonitor payload now' skipped =>
    obtain rfl : now' = now := of_decide_eq_true hnow
    rcases get_ofRequest hget with hsame | ⟨after, hcreate, hafter⟩
    · exact hkept hsame
    rcases get_createMonitor hcreate hafter with ⟨-, -, rfl⟩ | hsame
    · exact hwell.isRetimed_now (next_newMonitor payload _ schedule) _
    · exact hkept hsame
  | updateMonitor otherId payload now' =>
    obtain rfl : now' = now := of_decide_eq_true hnow
    rcases get_ofRequest hget with hsame | ⟨after, hupdate, hafter⟩
    · exact hkept hsame
    rcases get_updateMonitor hupdate hafter with ⟨-, loaded, hloaded, hcommit⟩ | hsame
    · rcases next_commitUpdate hcommit schedule with hnext | hnext
      · exact Or.inl ⟨loaded, hloaded, hnext⟩
      · exact hwell.isRetimed_now hnext _
    · exact hkept hsame
  | deleteMonitor otherId =>
    rcases get_ofRequest hget with hsame | ⟨after, hdelete, hafter⟩
    · exact hkept hsame
    · exact hkept (get_deleteMonitor hdelete hafter)
  | sweepDueMonitors now' batchSize maxBatches healthEnv keepAliveEnv =>
    obtain rfl : now' = now := of_decide_eq_true hnow
    exact isRetimed_sweepDueMonitors hrows _ batchSize maxBatches healthEnv keepAliveEnv hget
      schedule
  | probeTask task otherId execution =>
    obtain ⟨earlier, hearlier, _, _, rfl⟩ :=
      checksRows_runProbeTask task otherId execution database monitorId later hget
    exact Or.inl ⟨earlier, hearlier, by cases schedule <;> rfl⟩

/-! ### Timelines -/

/-- The database on a clock, with the interval that was configured when a time last changed. -/
structure Timeline where
  database : Database
  clock : ℤ
  intervals : Schedule → ℕ → Option ℤ

/-- The empty database at some time. -/
def Timeline.start (clock : ℤ) : Timeline := ⟨Database.empty, clock, fun _ _ ↦ none⟩

/-- The interval to remember for a row: the one it had, if the time of the row did not change. -/
def intervalAt (schedule : Schedule) (before after : Option Monitor) (interval : Option ℤ) :
    Option ℤ :=
  after.bind fun later ↦
    if before.any (schedule.next · = schedule.next later) then interval
    else configured schedule later

/-- A row whose time did not change keeps its interval. -/
theorem intervalAt_of_next_eq {schedule : Schedule} {earlier later : Monitor}
    (hsame : schedule.next earlier = schedule.next later) (interval : Option ℤ) :
    intervalAt schedule (some earlier) (some later) interval = interval :=
  if_pos (decide_eq_true hsame)

/-- The interval to remember is the one that was remembered, or the configured one. -/
theorem intervalAt_cases (schedule : Schedule) (before : Option Monitor) (later : Monitor)
    (interval : Option ℤ) :
    (∃ earlier, before = some earlier ∧ schedule.next later = schedule.next earlier ∧
      intervalAt schedule before (some later) interval = interval) ∨
      intervalAt schedule before (some later) interval = configured schedule later := by
  cases before with
  | none => exact Or.inr rfl
  | some earlier =>
    by_cases hsame : schedule.next earlier = schedule.next later
    · exact Or.inl ⟨earlier, rfl, hsame.symm, intervalAt_of_next_eq hsame interval⟩
    · exact Or.inr (if_neg fun hany ↦ hsame (of_decide_eq_true hany))

/-- An operation at a time, as a step. The clock does not go back. -/
def serveAt (tables : UnicodeTables) (maxMonitors : ℕ) (timeline : Timeline)
    (label : ℤ × Operation) : Option Timeline :=
  let after := (label.2.run tables maxMonitors timeline.database).database
  if timeline.clock ≤ label.1 ∧ label.2.now.all (· = label.1) then some
    { database := after
      clock := label.1
      intervals := fun schedule monitorId ↦
        intervalAt schedule (timeline.database.monitors.get monitorId)
          (after.monitors.get monitorId) (timeline.intervals schedule monitorId) }
  else none

/-- Every time of a stored row is within the interval that was configured when it last changed. -/
structure TimesHonoured (timeline : Timeline) : Prop where
  rows : RowsWellFormed timeline.database
  times : ∀ schedule monitorId monitor due,
    timeline.database.monitors.get monitorId = some monitor → schedule.next monitor = some due →
      ∃ interval, timeline.intervals schedule monitorId = some interval ∧
        due ≤ timeline.clock + seconds interval

/-- Every operation keeps the times honoured. -/
theorem TimesHonoured.step {tables : UnicodeTables} {maxMonitors : ℕ}
    {timeline next : Timeline} {label : ℤ × Operation} (hhonoured : TimesHonoured timeline)
    (hstep : serveAt tables maxMonitors timeline label = some next) : TimesHonoured next := by
  unfold serveAt at hstep
  dsimp only at hstep
  split_ifs at hstep with henabled
  obtain rfl := Option.some.inj hstep
  obtain ⟨hclock, hnow⟩ := henabled
  refine ⟨hhonoured.rows.run tables maxMonitors label.2, ?_⟩
  intro schedule monitorId later due hget hdue
  dsimp only at hget ⊢
  rw [hget]
  -- a time that did not change was honoured at an earlier clock
  have hkept : ∀ earlier, timeline.database.monitors.get monitorId = some earlier →
      schedule.next later = schedule.next earlier →
        ∃ interval, timeline.intervals schedule monitorId = some interval ∧
          due ≤ label.1 + seconds interval := by
    intro earlier hearlier hsame
    obtain ⟨interval, hinterval, hwithin⟩ :=
      hhonoured.times schedule monitorId earlier due hearlier (hsame.symm.trans hdue)
    exact ⟨interval, hinterval, by omega⟩
  rcases intervalAt_cases schedule (timeline.database.monitors.get monitorId) later
    (timeline.intervals schedule monitorId) with ⟨earlier, hearlier, hnext, hinterval⟩ | hinterval
  · rw [hinterval]
    exact hkept earlier hearlier hnext
  · rcases isRetimed_run hhonoured.rows hnow hget schedule with ⟨earlier, hearlier, hnext⟩ | hwithin
    · rw [hearlier, intervalAt_of_next_eq hnext.symm]
      exact hkept earlier hearlier hnext
    · rw [hinterval]
      exact hwithin due hdue

/-- After any operations on a clock that does not go back, every schedule that is to visit a monitor
is due within the interval that was configured when its time last changed. Where that interval is
not above the one configured now, it is due within the latter. -/
theorem timesHonoured_of_reaches {tables : UnicodeTables} {maxMonitors : ℕ} {clock : ℤ}
    {timeline : Timeline}
    (hreaches : Reaches (serveAt tables maxMonitors) (fun _ _ ↦ True) (Timeline.start clock)
      timeline) {schedule : Schedule} {monitorId : ℕ} {monitor : Monitor}
    (hget : timeline.database.monitors.get monitorId = some monitor)
    (hrunning : isRunning schedule monitor = true) :
    ∃ due interval, schedule.next monitor = some due ∧
      timeline.intervals schedule monitorId = some interval ∧
      due ≤ timeline.clock + seconds interval ∧
      ∀ current, configured schedule monitor = some current → interval ≤ current →
        due ≤ timeline.clock + seconds current := by
  have hhonoured : TimesHonoured timeline := by
    refine hreaches.invariant (motive := TimesHonoured) ?_ ?_
    · exact ⟨fun _ _ hget ↦ (nomatch hget), fun _ _ _ _ hget ↦ (nomatch hget)⟩
    · exact fun _ _ _ hhonoured _ hstep ↦ hhonoured.step hstep
  obtain ⟨due, hdue⟩ := (hhonoured.rows monitorId monitor hget).exists_next hrunning
  obtain ⟨interval, hinterval, hwithin⟩ :=
    hhonoured.times schedule monitorId monitor due hget hdue
  refine ⟨due, interval, hdue, hinterval, hwithin, fun current _ hle ↦ ?_⟩
  unfold seconds at hwithin ⊢
  omega

/-- A monitor with intervals of a day is created and swept, and its intervals are lowered to 15
seconds. -/
def loweringOperations : List (ℤ × Operation) :=
  let everyDay := { sampleCreate with
    checkIntervalSeconds := 86400
    keepAliveIntervalSeconds := some 86400 }
  let works : PhaseEnv := ⟨fun _ _ ↦ 0, fun _ ↦ true, true⟩
  [(0, .createMonitor everyDay 0 0), (5, .sweepDueMonitors 5 1 1 works works),
    (6, .updateMonitor 1 ⟨.omitted, .value 15, .omitted, .omitted, .value 15, .omitted⟩ 6)]

/-- After them the monitor is due a day after the sweep, within the interval of that time. -/
theorem timesHonoured_loweringOperations : ∃ timeline monitor,
    run (serveAt UnicodeTables.caseless 100) (Timeline.start 0) loweringOperations =
      some timeline ∧ timeline.database.monitors.get 1 = some monitor ∧
      ∃ due interval, Schedule.health.next monitor = some due ∧
        timeline.intervals .health 1 = some interval ∧
        due ≤ timeline.clock + seconds interval := by
  have hmode : (run (serveAt UnicodeTables.caseless 100) (Timeline.start 0)
      loweringOperations).bind (fun timeline ↦ (timeline.database.monitors.get 1).map fun monitor ↦
        isRunning .health monitor) = some true := by rfl
  obtain ⟨timeline, hrun, hmonitor⟩ := Option.bind_eq_some_iff.mp hmode
  obtain ⟨monitor, hget, hrunning⟩ := Option.map_eq_some_iff.mp hmonitor
  have hreaches : Reaches (serveAt UnicodeTables.caseless 100) (fun _ _ ↦ True) (Timeline.start 0)
      timeline := reaches_of_run .start (fun _ _ _ ↦ trivial) hrun
  obtain ⟨due, interval, hdue, hinterval, hwithin, -⟩ :=
    timesHonoured_of_reaches hreaches hget hrunning
  exact ⟨timeline, monitor, hrun, hget, due, interval, hdue, hinterval, hwithin⟩

/-- Neither schedule of the monitor honours the frequency that is configured by then: both are due
a day later, not within 15 seconds. -/
theorem lowered_interval_waits : ∃ timeline monitor due keepAliveDue interval,
    run (serveAt UnicodeTables.caseless 100) (Timeline.start 0) loweringOperations =
      some timeline ∧ timeline.database.monitors.get 1 = some monitor ∧
      monitor.mode.isMonitoring = true ∧ monitor.nextCheckAt = some due ∧
      timeline.clock + seconds monitor.checkIntervalSeconds < due ∧
      monitor.keepAliveEnabled = true ∧ monitor.nextKeepAliveAt = some keepAliveDue ∧
      monitor.keepAliveIntervalSeconds = some interval ∧
      timeline.clock + seconds interval < keepAliveDue := by
  have hend : (run (serveAt UnicodeTables.caseless 100) (Timeline.start 0)
      loweringOperations).bind (fun timeline ↦ (timeline.database.monitors.get 1).map fun monitor ↦
        (monitor.mode, monitor.checkIntervalSeconds, monitor.nextCheckAt, monitor.keepAliveEnabled,
          monitor.nextKeepAliveAt, monitor.keepAliveIntervalSeconds, timeline.clock)) =
        some (.monitorAndKeepAlive, 15, some (5 + seconds 86400), true, some (5 + seconds 86400),
          some 15, 6) := by rfl
  obtain ⟨timeline, hrun, hmonitor⟩ := Option.bind_eq_some_iff.mp hend
  obtain ⟨monitor, hget, hcolumns⟩ := Option.map_eq_some_iff.mp hmonitor
  simp only [Prod.mk.injEq] at hcolumns
  obtain ⟨hmode, hcheck, hnext, henabled, hkeepAlive, hinterval, hclock⟩ := hcolumns
  refine ⟨timeline, monitor, 5 + seconds 86400, 5 + seconds 86400, 15, hrun, hget, ?_, hnext, ?_,
    henabled, hkeepAlive, hinterval, ?_⟩
  · rw [hmode]
    rfl
  · rw [hcheck, hclock]
    decide
  · rw [hclock]
    decide

end PingGuard.Lifecycle
