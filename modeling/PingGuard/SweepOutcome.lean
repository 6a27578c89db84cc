import PingGuard.SweepReach

/-!
# What a sweep does

The two phases of a sweep put together. A phase leaves the schedule of the other as it is, so each
can be described from the table before the sweep.

`sweepDueMonitors_health` is about every pattern of broker failures.
`sweepDueMonitors_keepAlive_iff` says when no skipped row takes the place of a valid one: exactly
when the valid rows can be cut into batches together with the skipped rows before them.
-/

set_option autoImplicit false
set_option relaxedAutoImplicit false

namespace PingGuard.Sweep

open Library.OrderedBatch Library.SerialTable Models Status

variable {now : ℤ}

/-! ### The other schedule -/

section OtherSchedule

variable {schedule other : Schedule} {before after : Table Monitor}

/-- A row is still found after the phase of one schedule. -/
theorem RescheduledTable.exists_after (hchange : RescheduledTable schedule before after)
    {monitorId : ℕ} {monitor : Monitor} (hget : before.get monitorId = some monitor) :
    ∃ later, after.get monitorId = some later ∧ schedule.Rescheduled monitor later := by
  obtain ⟨rewrite, hrewrite, rfl⟩ := hchange
  exact ⟨rewrite monitorId monitor, by rw [Table.get_mapRows, hget, Option.map_some],
    hrewrite monitorId monitor⟩

/-- A row found after the phase of one schedule was found before. -/
theorem RescheduledTable.exists_before (hchange : RescheduledTable schedule before after)
    {monitorId : ℕ} {later : Monitor} (hget : after.get monitorId = some later) :
    ∃ monitor, before.get monitorId = some monitor ∧ schedule.Rescheduled monitor later := by
  obtain ⟨rewrite, hrewrite, rfl⟩ := hchange
  rw [Table.get_mapRows] at hget
  obtain ⟨monitor, hmonitor, rfl⟩ := Option.map_eq_some_iff.mp hget
  exact ⟨monitor, hmonitor, hrewrite monitorId monitor⟩

/-- The phase of one schedule leaves the counts of the other as they are. -/
theorem RescheduledTable.countP_dueRows (hchange : RescheduledTable schedule before after)
    (hne : other ≠ schedule) {kind : ℕ × Monitor → Bool}
    (hkind : ∀ monitorId monitor later, schedule.Rescheduled monitor later →
      kind (monitorId, later) = kind (monitorId, monitor)) :
    (dueRows other now after).countP kind = (dueRows other now before).countP kind := by
  obtain ⟨rewrite, hrewrite, rfl⟩ := hchange
  unfold dueRows
  rw [List.countP_filter, List.countP_filter, Table.mapRows, List.countP_map]
  refine List.countP_congr fun row _ ↦ ?_
  simp only [Function.comp_apply, hkind row.1 row.2 _ (hrewrite row.1 row.2), Prod.mk.eta,
    (hrewrite row.1 row.2).isDue_eq hne]

/-- The phase of one schedule leaves the rows of the other that can be claimed, and the groups they
can be cut into. -/
theorem RescheduledTable.canBeCut_iff (hchange : RescheduledTable schedule before after)
    (hne : other ≠ schedule) (batchSize batches count : ℕ) :
    claimable other now after = claimable other now before ∧
      (CanBeCut other now batchSize after batches count ↔
        CanBeCut other now batchSize before batches count) := by
  have hclaimable : ∀ monitorId monitor later, schedule.Rescheduled monitor later →
      isClaimable other (monitorId, later) = isClaimable other (monitorId, monitor) := by
    intro monitorId monitor later hrow
    rw [isClaimable, isClaimable, (hrow.claimInterval_eq other).2]
  have hisBy : ∀ time monitorId monitor later, schedule.Rescheduled monitor later →
      isBy other time (monitorId, later) = isBy other time (monitorId, monitor) := by
    intro time monitorId monitor later hrow
    rw [isBy, isBy, hrow.next_eq hne]
  have hby : ∀ time, claimableBy other now after time = claimableBy other now before time ∧
      skippedBy other now after time = skippedBy other now before time := by
    intro time
    refine ⟨hchange.countP_dueRows hne ?_, hchange.countP_dueRows hne ?_⟩
    · intro monitorId monitor later hrow
      rw [hclaimable monitorId monitor later hrow, hisBy time monitorId monitor later hrow]
    · intro monitorId monitor later hrow
      rw [hclaimable monitorId monitor later hrow, hisBy time monitorId monitor later hrow]
  refine ⟨hchange.countP_dueRows hne hclaimable, ?_⟩
  unfold CanBeCut
  simp only [hby]

/-- The phase of one schedule leaves positive intervals of the other positive. -/
theorem RescheduledTable.intervalsPositive (hchange : RescheduledTable schedule before after)
    (hne : other ≠ schedule) (hpos : IntervalsPositive other now before) :
    IntervalsPositive other now after := by
  intro monitorId later interval hget hdue hclaim
  obtain ⟨monitor, hbefore, hrow⟩ := hchange.exists_before hget
  rw [hrow.isDue_eq hne] at hdue
  rw [(hrow.claimInterval_eq other).2] at hclaim
  exact hpos monitorId monitor interval hbefore hdue hclaim

/-- The phase of one schedule leaves the order of the other as it is. -/
theorem RescheduledTable.dueNoLater (hchange : RescheduledTable schedule before after)
    (hne : other ≠ schedule) {monitorId otherId : ℕ}
    (hle : DueNoLater other after monitorId otherId) :
    DueNoLater other before monitorId otherId := by
  intro monitor otherMonitor due otherDue hget hother hdue hotherDue
  obtain ⟨rewrite, hrewrite, rfl⟩ := hchange
  refine hle (rewrite monitorId monitor) (rewrite otherId otherMonitor) due otherDue ?_ ?_ ?_ ?_
  · rw [Table.get_mapRows, hget, Option.map_some]
  · rw [Table.get_mapRows, hother, Option.map_some]
  · rw [(hrewrite monitorId monitor).next_eq hne, hdue]
  · rw [(hrewrite otherId otherMonitor).next_eq hne, hotherDue]

end OtherSchedule

/-! ### The health phase -/

/-- What the health phase of a sweep leaves behind: which monitors it dispatches, what becomes of
those that were due and of the others, and the count that the sweep returns. -/
structure HealthEffect (now : ℤ) (before after : Table Monitor) (dispatched : List ℕ)
    (monitorsEnqueued : ℕ) : Prop where
  nodup : dispatched.Nodup
  wasDue : ∀ monitorId ∈ dispatched, ∃ monitor, before.get monitorId = some monitor ∧
    Schedule.health.isDue now monitor = true
  due : ∀ monitorId monitor, before.get monitorId = some monitor →
    Schedule.health.isDue now monitor = true → ∃ later, after.get monitorId = some later ∧
      ((monitorId ∈ dispatched ∧
          later.nextCheckAt = some (now + seconds monitor.checkIntervalSeconds)) ∨
        (monitorId ∉ dispatched ∧ Schedule.health.isDue now later = true))
  notDue : ∀ monitorId monitor, before.get monitorId = some monitor →
    Schedule.health.isDue now monitor = false → ∃ later, after.get monitorId = some later ∧
      later.nextCheckAt = monitor.nextCheckAt
  count : monitorsEnqueued = dispatched.length

/-- The health phase claims every due row. -/
theorem claimable_health (now : ℤ) (monitors : Table Monitor) :
    claimable .health now monitors = (dueRows .health now monitors).length := by
  rw [claimable, List.countP_eq_length]
  intro row _
  rfl

/-- A phase that skips no row dispatches as many as there are, up to what its batches hold. -/
theorem canBeCut_health (now : ℤ) (batchSize batches : ℕ) (monitors : Table Monitor) :
    CanBeCut .health now batchSize monitors batches
      (min (claimable .health now monitors) (batchSize * batches)) := by
  refine ⟨fun batch ↦ min (claimable .health now monitors) (batchSize * batch), ?_, rfl, ?_⟩
  · exact Nat.min_eq_zero_iff.mpr (Or.inr (Nat.mul_zero batchSize))
  · intro batch _
    refine Or.inr ⟨now, ?_, ?_⟩
    · -- every due row is due by now
      refine (Nat.min_le_left _ _).trans (le_of_eq (List.countP_congr fun row hrow ↦ ?_))
      obtain ⟨-, due, hdue, hle⟩ := (Schedule.isDue_iff _ _ _).mp
        ((mem_dueRows_iff .health now monitors row.1 row.2).mp hrow).2
      rw [Bool.and_eq_true, iff_self_and]
      intro _
      rw [isBy, hdue]
      exact decide_eq_true hle
    · have hskipped : skippedBy .health now monitors now = 0 := by
        refine List.countP_eq_zero.mpr fun row _ hrow ↦ ?_
        exact Bool.false_ne_true (Bool.and_eq_true_iff.mp hrow).1
      dsimp only
      rw [hskipped, Nat.mul_succ]
      omega

/-- The health phase claims rows with positive intervals when check intervals are positive. -/
theorem intervalsPositive_health {monitors : Table Monitor}
    (hintervals : ∀ monitorId monitor, monitors.get monitorId = some monitor →
      0 < monitor.checkIntervalSeconds) : IntervalsPositive .health now monitors := by
  intro monitorId monitor interval hget _ hclaim
  obtain rfl := Option.some.inj hclaim
  exact hintervals monitorId monitor hget

/-- What the health phase leaves of a row is left of it by the keep-alive phase. -/
theorem HealthEffect.of_phaseEffect {before middle after : Table Monitor}
    {dispatched : List (ℕ × ℤ)} (heffect : PhaseEffect .health now before middle dispatched)
    (hkeepAlive : RescheduledTable .keepAlive middle after) :
    HealthEffect now before after (dispatched.map Prod.fst) dispatched.length := by
  have hne : Schedule.health ≠ Schedule.keepAlive := Schedule.noConfusion
  have hwasDue : ∀ monitorId ∈ dispatched.map Prod.fst, ∃ monitor,
      before.get monitorId = some monitor ∧ Schedule.health.isDue now monitor = true := by
    intro monitorId hmem
    obtain ⟨⟨_, interval⟩, hitem, rfl⟩ := List.mem_map.mp hmem
    obtain ⟨monitor, hget, hdue, -, -⟩ := heffect.advanced _ interval hitem
    exact ⟨monitor, hget, hdue⟩
  refine ⟨heffect.nodup, hwasDue, ?_, ?_, (List.length_map Prod.fst).symm⟩
  · intro monitorId monitor hget hdue
    by_cases hmem : monitorId ∈ dispatched.map Prod.fst
    · obtain ⟨⟨_, interval⟩, hitem, rfl⟩ := List.mem_map.mp hmem
      obtain ⟨other, hother, -, hclaim, hmiddle⟩ := heffect.advanced _ interval hitem
      obtain rfl := Option.some.inj (hget.symm.trans hother)
      obtain rfl := Option.some.inj hclaim
      obtain ⟨later, hlater, hrow⟩ := hkeepAlive.exists_after hmiddle
      exact ⟨later, hlater, Or.inl ⟨hmem, hrow.next_eq hne⟩⟩
    · rcases heffect.kept monitorId hmem with hsame | ⟨other, hother, -, -, hmiddle⟩
      · obtain ⟨later, hlater, hrow⟩ := hkeepAlive.exists_after (hsame.trans hget)
        exact ⟨later, hlater, Or.inr ⟨hmem, (hrow.isDue_eq hne now).trans hdue⟩⟩
      · -- after a recovery the row is due now
        obtain rfl := Option.some.inj (hget.symm.trans hother)
        obtain ⟨later, hlater, hrow⟩ := hkeepAlive.exists_after hmiddle
        refine ⟨later, hlater, Or.inr ⟨hmem, (hrow.isDue_eq hne now).trans ?_⟩⟩
        rw [Schedule.isDue_iff, Schedule.isSelected_setNext, Schedule.next_setNext]
        exact ⟨((Schedule.isDue_iff _ _ _).mp hdue).1, now, rfl, le_rfl⟩
  · intro monitorId monitor hget hnotDue
    have hnot : monitorId ∉ dispatched.map Prod.fst := by
      intro hmem
      obtain ⟨other, hother, hdue⟩ := hwasDue monitorId hmem
      obtain rfl := Option.some.inj (hget.symm.trans hother)
      exact Bool.false_ne_true (hnotDue.symm.trans hdue)
    rcases heffect.kept monitorId hnot with hsame | ⟨other, hother, hdue, -, -⟩
    · obtain ⟨later, hlater, hrow⟩ := hkeepAlive.exists_after (hsame.trans hget)
      exact ⟨later, hlater, hrow.next_eq hne⟩
    · obtain rfl := Option.some.inj (hget.symm.trans hother)
      exact absurd (hnotDue.symm.trans hdue) Bool.false_ne_true

/-- The health phase of a sweep, for every pattern of broker failures. The keep-alive phase that
follows leaves all this as it is.
Assumes: check intervals are positive, and recovery transactions succeed. -/
theorem sweepDueMonitors_health {monitors : Table Monitor} {healthEnv : PhaseEnv}
    (hintervals : ∀ monitorId monitor, monitors.get monitorId = some monitor →
      0 < monitor.checkIntervalSeconds)
    (hrecovers : healthEnv.recovers = true) (batchSize maxBatches : ℕ) (keepAliveEnv : PhaseEnv) :
    let sweep := sweepDueMonitors now batchSize maxBatches healthEnv keepAliveEnv monitors
    let dispatched :=
      (healthPhase now batchSize maxBatches healthEnv monitors).dispatched.map Prod.fst
    HealthEffect now monitors sweep.monitors dispatched sweep.monitorsEnqueued ∧
      ((∀ count, healthEnv.broker count = true) →
        dispatched.length =
            min (dueRows .health now monitors).length (batchSize * maxBatches) ∧
          ∀ monitorId ∈ dispatched, ∀ otherId other, monitors.get otherId = some other →
            Schedule.health.isDue now other = true → otherId ∉ dispatched →
              DueNoLater .health monitors monitorId otherId) := by
  intro sweep dispatched
  have hpos : IntervalsPositive .health now monitors := intervalsPositive_health hintervals
  have heffect : PhaseEffect .health now monitors
      (healthPhase now batchSize maxBatches healthEnv monitors).monitors
      (healthPhase now batchSize maxBatches healthEnv monitors).dispatched :=
    (sweepPhase_effect (Or.inl hrecovers) maxBatches 0 hpos).1
  have hcount : sweep.monitorsEnqueued =
      (healthPhase now batchSize maxBatches healthEnv monitors).dispatched.length :=
    (sweepPhase_effect (Or.inl hrecovers) maxBatches 0 hpos).2.trans (Nat.zero_add _)
  have hkeepAlive : RescheduledTable .keepAlive
      (healthPhase now batchSize maxBatches healthEnv monitors).monitors sweep.monitors :=
    sweepPhase_rescheduled .keepAlive now batchSize keepAliveEnv maxBatches 0 _
  refine ⟨?_, fun hworks ↦ ⟨?_, ?_⟩⟩
  · rw [hcount]
    exact HealthEffect.of_phaseEffect heffect hkeepAlive
  · rw [List.length_map, ← claimable_health]
    exact le_antisymm (length_dispatched_le hworks maxBatches 0 hpos)
      (le_length_dispatched hworks maxBatches 0 _ hpos
        (canBeCut_health now batchSize maxBatches monitors))
  · intro monitorId hmem otherId other hother hdue hnot
    have horder : PhaseOrder .health now monitors
        (healthPhase now batchSize maxBatches healthEnv monitors).dispatched :=
      sweepPhase_earliest hworks maxBatches 0 hpos
    exact horder.passed monitorId hmem otherId other hother hdue (Option.some_ne_none _) hnot

/-- What a phase meets while the broker is down. -/
def brokerDown : PhaseEnv where
  rank := fun _ _ ↦ 0
  broker := fun _ ↦ false
  recovers := true

/-- What a phase meets when nothing fails. -/
def brokerWorks : PhaseEnv where
  rank := fun _ _ ↦ 0
  broker := fun _ ↦ true
  recovers := true

/-- What a phase meets when the broker takes three tasks and refuses the fourth. -/
def brokerFailsOnce : PhaseEnv where
  rank := fun _ _ ↦ 0
  broker := fun count ↦ count ≠ 3
  recovers := true

/-- A row that is due at a time by both schedules. -/
def dueSince (due : ℤ) : Monitor :=
  { Monitor.dueAtZero with nextCheckAt := some due, nextKeepAliveAt := some due }

/-- Five rows that are due at time 0, and one that is not. -/
def sixMonitors : Table Monitor :=
  (Table.empty Monitor).insertAll
    [dueSince 0, dueSince (-3), dueSince 5, dueSince (-1), dueSince (-2), dueSince (-4)]

/-- The broker fails in the second of three batches: three rows are dispatched, the earliest due
first, and the failed row and the one that no batch has come to are still due. With two batches and
a broker that works, four are dispatched. -/
theorem sweepDueMonitors_health_brokerFailsOnce :
    HealthEffect 0 sixMonitors
        (sweepDueMonitors 0 2 3 brokerFailsOnce brokerDown sixMonitors).monitors [6, 2, 5] 3 ∧
      (sweepDueMonitors 0 2 3 brokerFailsOnce brokerDown sixMonitors).monitors.rows.map
          (fun row ↦ (row.1, row.2.nextCheckAt)) =
        [(1, some 0), (2, some (seconds 60)), (3, some 5), (4, some 0), (5, some (seconds 60)),
          (6, some (seconds 60))] ∧
      ((healthPhase 0 2 2 brokerWorks sixMonitors).dispatched.map Prod.fst).length =
        min (dueRows .health 0 sixMonitors).length (2 * 2) := by
  have hintervals : ∀ monitorId monitor, sixMonitors.get monitorId = some monitor →
      0 < monitor.checkIntervalSeconds := by
    have hrows : ∀ row ∈ sixMonitors.rows, 0 < row.2.checkIntervalSeconds := by decide
    exact fun monitorId monitor hget ↦ hrows _ ((Table.mem_rows_iff _ _ _).mpr hget)
  have hsent : (healthPhase 0 2 3 brokerFailsOnce sixMonitors).dispatched.map Prod.fst =
      [6, 2, 5] := by decide
  have heffect : HealthEffect 0 sixMonitors
      (sweepDueMonitors 0 2 3 brokerFailsOnce brokerDown sixMonitors).monitors
      ((healthPhase 0 2 3 brokerFailsOnce sixMonitors).dispatched.map Prod.fst)
      (sweepDueMonitors 0 2 3 brokerFailsOnce brokerDown sixMonitors).monitorsEnqueued :=
    (sweepDueMonitors_health hintervals rfl 2 3 brokerDown).1
  rw [hsent] at heffect
  exact ⟨heffect, by decide,
    ((sweepDueMonitors_health hintervals rfl 2 2 brokerDown).2 fun _ ↦ rfl).1⟩

/-! ### The keep-alive phase -/

/-- A row that is due for a keep-alive request and has what it takes to send one. -/
def isValidDue (now : ℤ) (monitor : Monitor) : Bool :=
  monitor.keepAliveEnabled && monitor.mode.isKeepAlive &&
    monitor.nextKeepAliveAt.any (· ≤ now) && monitor.keepAliveIntervalSeconds.any (0 < ·)

/-- How many rows are valid and due. -/
def validDue (now : ℤ) (monitors : Table Monitor) : ℕ :=
  monitors.rows.countP fun row ↦ isValidDue now row.2

/-- What the keep-alive phase of a sweep is to do: dispatch as many valid due monitors as there are,
up to a capacity, each once and advanced by its interval, earliest due first. -/
structure KeepAliveEffect (now : ℤ) (capacity : ℕ) (before after : Table Monitor)
    (dispatched : List ℕ) (keepAlivesEnqueued : ℕ) : Prop where
  length : dispatched.length = min (validDue now before) capacity
  nodup : dispatched.Nodup
  advanced : ∀ monitorId ∈ dispatched, ∃ monitor interval later,
    before.get monitorId = some monitor ∧ isValidDue now monitor = true ∧
      monitor.keepAliveIntervalSeconds = some interval ∧ after.get monitorId = some later ∧
        later.nextKeepAliveAt = some (now + seconds interval)
  ordered : dispatched.Pairwise (DueNoLater .keepAlive before)
  passed : ∀ monitorId ∈ dispatched, ∀ otherId other, before.get otherId = some other →
    isValidDue now other = true → otherId ∉ dispatched →
      DueNoLater .keepAlive before monitorId otherId
  count : keepAlivesEnqueued = dispatched.length

/-- The keep-alive phase claims a due row exactly when its interval is positive, where no interval
is negative. -/
theorem isValidDue_iff {monitor : Monitor}
    (hinterval : Schedule.keepAlive.isDue now monitor = true → ∀ interval,
      monitor.keepAliveIntervalSeconds = some interval → 0 ≤ interval) :
    isValidDue now monitor = true ↔ Schedule.keepAlive.isDue now monitor = true ∧
      ∃ interval, Schedule.keepAlive.claimInterval monitor = some interval := by
  have hvalid : isValidDue now monitor = true ↔ Schedule.keepAlive.isDue now monitor = true ∧
      ∃ interval, monitor.keepAliveIntervalSeconds = some interval ∧ 0 < interval := by
    unfold isValidDue Schedule.isDue
    rw [Bool.and_eq_true, Option.any_eq_true]
    simp only [decide_eq_true_eq]
    rfl
  rw [hvalid]
  refine and_congr_right fun hdue ↦ ?_
  have henabled : monitor.keepAliveEnabled = true :=
    (Bool.and_eq_true_iff.mp ((Schedule.isDue_iff _ _ _).mp hdue).1).1
  simp only [Schedule.claimInterval_keepAlive_iff]
  constructor
  · rintro ⟨interval, heq, hpos⟩
    exact ⟨interval, henabled, heq, hpos.ne'⟩
  · rintro ⟨interval, -, heq, hne⟩
    exact ⟨interval, heq, lt_of_le_of_ne (hinterval hdue interval heq) hne.symm⟩

section NoNegativeInterval

variable {monitors : Table Monitor}
  (hintervals : ∀ monitorId monitor interval, monitors.get monitorId = some monitor →
    Schedule.keepAlive.isDue now monitor = true →
      monitor.keepAliveIntervalSeconds = some interval → 0 ≤ interval)

include hintervals

/-- The keep-alive phase claims rows with positive intervals when none is negative. -/
theorem intervalsPositive_keepAlive : IntervalsPositive .keepAlive now monitors := by
  intro monitorId monitor interval hget hdue hclaim
  obtain ⟨-, heq, hne⟩ := (Schedule.claimInterval_keepAlive_iff monitor interval).mp hclaim
  exact lt_of_le_of_ne (hintervals monitorId monitor interval hget hdue heq) hne.symm

/-- The rows that the keep-alive phase can claim are the valid ones. -/
theorem claimable_keepAlive : claimable .keepAlive now monitors = validDue now monitors := by
  rw [claimable, dueRows, List.countP_filter]
  refine List.countP_congr fun row hrow ↦ ?_
  have hget := (monitors.mem_rows_iff row.1 row.2).mp hrow
  rw [isValidDue_iff fun hdue interval ↦ hintervals row.1 row.2 interval hget hdue,
    Bool.and_eq_true, isClaimable, Option.isSome_iff_exists]
  exact and_comm

/-- A keep-alive phase after a health phase does what it is to do, seen from the table before both,
when it dispatches as many rows as it is to dispatch. -/
theorem KeepAliveEffect.of_phaseEffect {middle after : Table Monitor} {dispatched : List (ℕ × ℤ)}
    {capacity : ℕ} (hhealth : RescheduledTable .health monitors middle)
    (heffect : PhaseEffect .keepAlive now middle after dispatched)
    (horder : PhaseOrder .keepAlive now middle dispatched)
    (hlength : dispatched.length = min (validDue now monitors) capacity) :
    KeepAliveEffect now capacity monitors after (dispatched.map Prod.fst) dispatched.length := by
  have hne : Schedule.keepAlive ≠ Schedule.health := Schedule.noConfusion
  refine ⟨?_, heffect.nodup, ?_, ?_, ?_, (List.length_map Prod.fst).symm⟩
  · rw [List.length_map, hlength]
  · intro monitorId hmem
    obtain ⟨⟨_, interval⟩, hitem, rfl⟩ := List.mem_map.mp hmem
    obtain ⟨later, hlater, hdue, hclaim, hafter⟩ := heffect.advanced _ interval hitem
    obtain ⟨monitor, hget, hrow⟩ := hhealth.exists_before hlater
    rw [hrow.isDue_eq hne] at hdue
    rw [(hrow.claimInterval_eq .keepAlive).2] at hclaim
    have hvalid : isValidDue now monitor = true :=
      (isValidDue_iff fun hdue interval ↦ hintervals _ monitor interval hget hdue).mpr
        ⟨hdue, interval, hclaim⟩
    exact ⟨monitor, interval, _, hget, hvalid,
      ((Schedule.claimInterval_keepAlive_iff monitor interval).mp hclaim).2.1, hafter, rfl⟩
  · exact horder.ordered.imp fun hle ↦ hhealth.dueNoLater hne hle
  · intro monitorId hmem otherId other hother hvalid hnot
    obtain ⟨hdue, interval, hclaim⟩ :=
      (isValidDue_iff fun hdue interval ↦ hintervals otherId other interval hother hdue).mp hvalid
    obtain ⟨later, hlater, hrow⟩ := hhealth.exists_after hother
    refine hhealth.dueNoLater hne (horder.passed monitorId hmem otherId later hlater ?_ ?_ hnot)
    · rw [hrow.isDue_eq hne, hdue]
    · rw [(hrow.claimInterval_eq .keepAlive).2, hclaim]
      exact Option.some_ne_none interval

end NoNegativeInterval

/-- The keep-alive phase of a sweep with a broker that works does what it is to do, in whatever
order the database returns rows due at the same time, exactly when the valid rows it is to dispatch
can be cut into groups such that each group and the skipped rows due no later than its last row fit
into a batch.
Assumes: no keep-alive interval is negative. -/
theorem sweepDueMonitors_keepAlive_iff {monitors : Table Monitor}
    (hintervals : ∀ monitorId monitor interval, monitors.get monitorId = some monitor →
      Schedule.keepAlive.isDue now monitor = true →
        monitor.keepAliveIntervalSeconds = some interval → 0 ≤ interval)
    (batchSize maxBatches : ℕ) :
    (∀ healthEnv keepAliveEnv : PhaseEnv, (∀ count, healthEnv.broker count = true) →
      (∀ count, keepAliveEnv.broker count = true) →
      let sweep := sweepDueMonitors now batchSize maxBatches healthEnv keepAliveEnv monitors
      let health := healthPhase now batchSize maxBatches healthEnv monitors
      KeepAliveEffect now (batchSize * maxBatches) monitors sweep.monitors
        ((keepAlivePhase now batchSize maxBatches keepAliveEnv health.monitors).dispatched.map
          Prod.fst) sweep.keepAlivesEnqueued) ↔
      CanBeCut .keepAlive now batchSize monitors maxBatches
        (min (validDue now monitors) (batchSize * maxBatches)) := by
  have hpos : IntervalsPositive .keepAlive now monitors := intervalsPositive_keepAlive hintervals
  have hne : Schedule.keepAlive ≠ Schedule.health := Schedule.noConfusion
  have hhealth : ∀ healthEnv, RescheduledTable .health monitors
      (healthPhase now batchSize maxBatches healthEnv monitors).monitors := fun healthEnv ↦
    sweepPhase_rescheduled .health now batchSize healthEnv maxBatches 0 monitors
  constructor
  · intro hall
    -- the database may return the skipped rows first
    let health := healthPhase now batchSize maxBatches brokerWorks monitors
    let worst : PhaseEnv :=
      { rank := fun _ ↦ worstRank .keepAlive health.monitors
        broker := fun _ ↦ true
        recovers := true }
    have hlength : ((keepAlivePhase now batchSize maxBatches worst health.monitors).dispatched.map
        Prod.fst).length = min (validDue now monitors) (batchSize * maxBatches) :=
      (hall brokerWorks worst (fun _ ↦ rfl) (fun _ ↦ rfl)).length
    have hcut : CanBeCut .keepAlive now batchSize health.monitors maxBatches
        (keepAlivePhase now batchSize maxBatches worst health.monitors).dispatched.length :=
      canBeCut_of_worstRank (fun _ ↦ rfl) maxBatches 0
        ((hhealth brokerWorks).intervalsPositive hne hpos) (fun _ ↦ rfl)
    rw [List.length_map] at hlength
    rw [hlength] at hcut
    exact ((hhealth brokerWorks).canBeCut_iff hne batchSize maxBatches _).2.mp hcut
  · intro hcut healthEnv keepAliveEnv _ hworks sweep health
    have hposHealth : IntervalsPositive .keepAlive now health.monitors :=
      (hhealth healthEnv).intervalsPositive hne hpos
    have heffect : PhaseEffect .keepAlive now health.monitors sweep.monitors
        (keepAlivePhase now batchSize maxBatches keepAliveEnv health.monitors).dispatched :=
      (sweepPhase_effect (Or.inr hworks) maxBatches 0 hposHealth).1
    have hcount : sweep.keepAlivesEnqueued =
        (keepAlivePhase now batchSize maxBatches keepAliveEnv health.monitors).dispatched.length :=
      (sweepPhase_effect (Or.inr hworks) maxBatches 0 hposHealth).2.trans (Nat.zero_add _)
    have hcutHealth : CanBeCut .keepAlive now batchSize health.monitors maxBatches
        (min (validDue now monitors) (batchSize * maxBatches)) :=
      ((hhealth healthEnv).canBeCut_iff hne batchSize maxBatches _).2.mpr hcut
    have hsame : claimable .keepAlive now health.monitors = validDue now monitors :=
      ((hhealth healthEnv).canBeCut_iff hne batchSize maxBatches 0).1.trans
        (claimable_keepAlive hintervals)
    rw [hcount]
    refine KeepAliveEffect.of_phaseEffect hintervals (hhealth healthEnv) heffect
      (sweepPhase_earliest hworks maxBatches 0 hposHealth) ?_
    rw [← hsame] at hcutHealth ⊢
    exact le_antisymm (length_dispatched_le hworks maxBatches 0 hposHealth)
      (le_length_dispatched hworks maxBatches 0 _ hposHealth hcutHealth)

/-- Three valid rows that are due at time 0, and two rows between them that are skipped: their
keep-alive intervals are null. -/
def twoSkipped : Table Monitor :=
  (Table.empty Monitor).insertAll
    [dueSince (-1), { dueSince (-3) with keepAliveIntervalSeconds := none }, dueSince (-4),
      { dueSince (-2) with keepAliveIntervalSeconds := none }, dueSince 0]

/-- Batches of three have room for the skipped rows: every valid row is dispatched. -/
theorem sweepDueMonitors_keepAlive_twoSkipped :
    let sweep := sweepDueMonitors 0 3 3 brokerWorks brokerWorks twoSkipped
    let health := healthPhase 0 3 3 brokerWorks twoSkipped
    KeepAliveEffect 0 (3 * 3) twoSkipped sweep.monitors
      ((keepAlivePhase 0 3 3 brokerWorks health.monitors).dispatched.map Prod.fst)
      sweep.keepAlivesEnqueued ∧
    (keepAlivePhase 0 3 3 brokerWorks health.monitors).dispatched.map Prod.fst = [3, 1, 5] := by
  refine ⟨(sweepDueMonitors_keepAlive_iff ?_ 3 3).mpr ?_ brokerWorks brokerWorks (fun _ ↦ rfl)
    (fun _ ↦ rfl), by decide⟩
  · have hrows : ∀ row ∈ twoSkipped.rows, ∀ interval ∈ row.2.keepAliveIntervalSeconds,
        0 ≤ interval := by decide
    intro monitorId monitor interval hget _ hinterval
    exact hrows _ ((Table.mem_rows_iff _ _ _).mpr hget) interval hinterval
  · -- each batch dispatches one row, beside both skipped rows
    refine ⟨id, rfl, by decide, fun batch hbatch ↦ Or.inr ⟨0, ?_⟩⟩
    have hskipped : skippedBy .keepAlive 0 twoSkipped 0 = 2 := by decide
    have hclaimable : claimableBy .keepAlive 0 twoSkipped 0 = 3 := by decide
    rw [hskipped, hclaimable]
    dsimp only [id]
    omega

/-- A row that is due before `Monitor.dueAtZero` and is skipped: its keep-alive interval is null. -/
def skippedBeforeZero : Monitor :=
  { Monitor.dueAtZero with keepAliveIntervalSeconds := none, nextKeepAliveAt := some (-1) }

/-- With batches of one row, a skipped row takes the place of a valid row in every batch. -/
theorem sweepDueMonitors_keepAlive_starved :
    let monitors := ((Table.empty Monitor).insert skippedBeforeZero).insert Monitor.dueAtZero
    let sweep := sweepDueMonitors 0 1 3 brokerWorks brokerWorks monitors
    let health := healthPhase 0 1 3 brokerWorks monitors
    validDue 0 monitors = 1 ∧
      ¬ KeepAliveEffect 0 (1 * 3) monitors sweep.monitors
        ((keepAlivePhase 0 1 3 brokerWorks health.monitors).dispatched.map Prod.fst)
        sweep.keepAlivesEnqueued := by
  refine ⟨by decide, fun heffect ↦ ?_⟩
  have hlength := heffect.length
  revert hlength
  decide

end PingGuard.Sweep
