import Mathlib.Data.Prod.Lex
import PingGuard.Library.OrderedBatch
import PingGuard.Models

/-!
# The scheduling sweep

`sweep_due_monitors` of `app/tasks.py`, with nothing else running. The sweep has two phases of the
same shape, one for each schedule of a monitor. A phase goes through batches: it claims the rows
that are due first by advancing their schedule, commits, and then hands every claimed row to the
broker. Where the broker fails, the rest of the batch is reset to now and the phase ends.

`Schedule` carries what the phases differ in: the column, the filter, and which of the selected rows
are claimed. The concurrent model takes the same pieces apart into steps.

The order among rows due at the same time is the database's and may be another in every batch.
-/

set_option autoImplicit false
set_option relaxedAutoImplicit false

namespace PingGuard.Sweep

open Library.OrderedBatch Library.SerialTable Models Status

/-! ### The two schedules -/

/-- The schedules of a monitor: health checks by `next_check_at`, and keep-alive requests by
`next_keep_alive_at`. -/
inductive Schedule
  | health
  | keepAlive
  deriving DecidableEq

namespace Schedule

/-- The column of a schedule. -/
def next : Schedule → Monitor → Option ℤ
  | health => Monitor.nextCheckAt
  | keepAlive => Monitor.nextKeepAliveAt

/-- A row with the column of a schedule set. -/
def setNext : Schedule → Option ℤ → Monitor → Monitor
  | health, value, monitor => { monitor with nextCheckAt := value }
  | keepAlive, value, monitor => { monitor with nextKeepAliveAt := value }

/-- The filter of a phase, the time aside. -/
def isSelected : Schedule → Monitor → Bool
  | health, monitor => monitor.mode.isMonitoring
  | keepAlive, monitor => monitor.keepAliveEnabled && monitor.mode.isKeepAlive

/-- The interval by which a selected row is advanced. The keep-alive phase skips a row that is
disabled or whose interval is null or zero. -/
def claimInterval : Schedule → Monitor → Option ℤ
  | health, monitor => some monitor.checkIntervalSeconds
  | keepAlive, monitor =>
    if monitor.keepAliveEnabled ∧ monitor.keepAliveIntervalSeconds ≠ some 0 then
      monitor.keepAliveIntervalSeconds
    else none

/-- The filter of a phase: a row is due at a time. -/
def isDue (schedule : Schedule) (now : ℤ) (monitor : Monitor) : Bool :=
  schedule.isSelected monitor && (schedule.next monitor).any (· ≤ now)

/-- The row after its claim. -/
def claim (schedule : Schedule) (now : ℤ) (monitor : Monitor) : Monitor :=
  match schedule.claimInterval monitor with
  | none => monitor
  | some interval => schedule.setNext (some (now + seconds interval)) monitor

@[simp] theorem next_setNext (schedule : Schedule) (value : Option ℤ) (monitor : Monitor) :
    schedule.next (schedule.setNext value monitor) = value := by
  cases schedule <;> rfl

/-- Setting the time of one schedule leaves the other as it is. -/
theorem next_setNext_of_ne {schedule other : Schedule} (hne : other ≠ schedule)
    (value : Option ℤ) (monitor : Monitor) :
    other.next (schedule.setNext value monitor) = other.next monitor := by
  cases schedule <;> cases other <;> first | rfl | exact absurd rfl hne

@[simp] theorem isSelected_setNext (schedule other : Schedule) (value : Option ℤ)
    (monitor : Monitor) :
    schedule.isSelected (other.setNext value monitor) = schedule.isSelected monitor := by
  cases schedule <;> cases other <;> rfl

@[simp] theorem claimInterval_setNext (schedule other : Schedule) (value : Option ℤ)
    (monitor : Monitor) :
    schedule.claimInterval (other.setNext value monitor) = schedule.claimInterval monitor := by
  cases schedule <;> cases other <;> rfl

@[simp] theorem setNext_setNext (schedule : Schedule) (first second : Option ℤ)
    (monitor : Monitor) :
    schedule.setNext second (schedule.setNext first monitor) = schedule.setNext second monitor := by
  cases schedule <;> rfl

/-- The keep-alive phase claims an enabled row whose interval is neither null nor zero. -/
theorem claimInterval_keepAlive_iff (monitor : Monitor) (interval : ℤ) :
    keepAlive.claimInterval monitor = some interval ↔
      monitor.keepAliveEnabled = true ∧ monitor.keepAliveIntervalSeconds = some interval ∧
        interval ≠ 0 := by
  simp only [claimInterval, Option.ite_none_right_eq_some]
  constructor
  · rintro ⟨⟨henabled, hne⟩, heq⟩
    exact ⟨henabled, heq, fun hzero ↦ hne (hzero ▸ heq)⟩
  · rintro ⟨henabled, heq, hne⟩
    exact ⟨⟨henabled, fun hzero ↦ hne (Option.some.inj (heq.symm.trans hzero))⟩, heq⟩

/-- A claim leaves the interval of a row as it is. -/
@[simp] theorem claimInterval_claim (schedule : Schedule) (now : ℤ) (monitor : Monitor) :
    schedule.claimInterval (schedule.claim now monitor) = schedule.claimInterval monitor := by
  unfold claim
  split
  · rfl
  · exact claimInterval_setNext schedule schedule _ monitor

/-- Whether a row is the other with nothing but the time of a schedule changed, and that to a time:
only rows that can be claimed change. -/
def Rescheduled (schedule : Schedule) (before after : Monitor) : Prop :=
  after = before ∨
    ∃ value, after = schedule.setNext (some value) before ∧ schedule.claimInterval before ≠ none

/-- Changes of one schedule leave the other as it is. -/
theorem Rescheduled.next_eq {schedule other : Schedule} {before after : Monitor}
    (hchange : schedule.Rescheduled before after) (hne : other ≠ schedule) :
    other.next after = other.next before := by
  rcases hchange with rfl | ⟨value, rfl, -⟩
  · rfl
  · exact next_setNext_of_ne hne _ before

/-- Changes of a schedule leave what is selected and claimed as it is. -/
theorem Rescheduled.claimInterval_eq {schedule : Schedule} {before after : Monitor}
    (hchange : schedule.Rescheduled before after) (other : Schedule) :
    other.isSelected after = other.isSelected before ∧
      other.claimInterval after = other.claimInterval before := by
  rcases hchange with rfl | ⟨value, rfl, -⟩
  · exact ⟨rfl, rfl⟩
  · exact ⟨isSelected_setNext other schedule _ before,
      claimInterval_setNext other schedule _ before⟩

/-- Changes of one schedule leave what is due by the other as it is. -/
theorem Rescheduled.isDue_eq {schedule other : Schedule} {before after : Monitor}
    (hchange : schedule.Rescheduled before after) (hne : other ≠ schedule) (now : ℤ) :
    other.isDue now after = other.isDue now before := by
  rw [isDue, isDue, hchange.next_eq hne, (hchange.claimInterval_eq other).1]

/-- Whether a row is the other as a sweep leaves it: as it was, or claimable and advanced by its
interval or reset to the time of the sweep. -/
def Moved (schedule : Schedule) (now : ℤ) (before after : Monitor) : Prop :=
  after = before ∨
    ∃ interval, schedule.claimInterval before = some interval ∧
      (after = schedule.setNext (some now) before ∨
        after = schedule.setNext (some (now + seconds interval)) before)

/-- What a sweep does to a row composes. -/
theorem Moved.trans {schedule : Schedule} {now : ℤ} {before middle after : Monitor}
    (hfirst : schedule.Moved now before middle) (hsecond : schedule.Moved now middle after) :
    schedule.Moved now before after := by
  rcases hfirst with rfl | ⟨interval, hclaim, hfirst⟩
  · exact hsecond
  rcases hsecond with rfl | ⟨other, hother, hsecond⟩
  · exact Or.inr ⟨interval, hclaim, hfirst⟩
  · -- the later time stands, and the interval is the same
    have hset : ∀ value, schedule.setNext value middle = schedule.setNext value before := by
      intro value
      rcases hfirst with rfl | rfl <;> exact setNext_setNext schedule _ value before
    have hsame : schedule.claimInterval middle = schedule.claimInterval before := by
      rcases hfirst with rfl | rfl <;> exact claimInterval_setNext schedule schedule _ before
    rw [hsame] at hother
    rw [hset, hset] at hsecond
    exact Or.inr ⟨other, hother, hsecond⟩

/-- A sweep changes nothing of a row but the time of the schedule. -/
theorem Moved.rescheduled {schedule : Schedule} {now : ℤ} {before after : Monitor}
    (hmoved : schedule.Moved now before after) : schedule.Rescheduled before after := by
  rcases hmoved with rfl | ⟨interval, hclaim, rfl | rfl⟩
  · exact Or.inl rfl
  · exact Or.inr ⟨now, rfl, hclaim ▸ Option.some_ne_none interval⟩
  · exact Or.inr ⟨_, rfl, hclaim ▸ Option.some_ne_none interval⟩

/-- A claim advances a row by its interval. -/
theorem moved_claim (schedule : Schedule) (now : ℤ) (monitor : Monitor) :
    schedule.Moved now monitor (schedule.claim now monitor) := by
  unfold claim
  cases hclaim : schedule.claimInterval monitor with
  | none => exact Or.inl rfl
  | some interval => exact Or.inr ⟨interval, hclaim, Or.inr rfl⟩

/-- A row is due when it is selected and its time has come. -/
theorem isDue_iff (schedule : Schedule) (now : ℤ) (monitor : Monitor) :
    schedule.isDue now monitor = true ↔
      schedule.isSelected monitor = true ∧ ∃ due, schedule.next monitor = some due ∧ due ≤ now := by
  rw [isDue, Bool.and_eq_true, Option.any_eq_true]
  simp only [decide_eq_true_eq]

/-- A claimed row is not due any more when its interval is positive. -/
theorem isDue_claim {schedule : Schedule} {now interval : ℤ} {monitor : Monitor}
    (hclaim : schedule.claimInterval monitor = some interval) (hpos : 0 < interval) :
    schedule.isDue now (schedule.claim now monitor) = false := by
  have hseconds := seconds_pos hpos
  rw [← Bool.not_eq_true, isDue_iff, claim, hclaim]
  rintro ⟨-, due, hnext, hle⟩
  rw [next_setNext] at hnext
  obtain rfl := Option.some.inj hnext
  omega

end Schedule

/-! ### One batch -/

/-- The order of a selection: by the due time, ties by a rank. -/
def dueKey (schedule : Schedule) (rank : ℕ → ℕ) (row : ℕ × Monitor) : ℤ ×ₗ ℕ :=
  toLex ((schedule.next row.2).getD 0, rank row.1)

/-- The rows that are due. -/
def dueRows (schedule : Schedule) (now : ℤ) (monitors : Table Monitor) : List (ℕ × Monitor) :=
  monitors.rows.filter fun row ↦ schedule.isDue now row.2

/-- The selection of a batch. -/
def selectBatch (schedule : Schedule) (now : ℤ) (batchSize : ℕ) (rank : ℕ → ℕ)
    (monitors : Table Monitor) : List (ℕ × Monitor) :=
  firstBy (dueKey schedule rank) batchSize (dueRows schedule now monitors)

/-- `batch_items`: the claimed rows with the intervals they are advanced by. -/
def batchItems (schedule : Schedule) (batch : List (ℕ × Monitor)) : List (ℕ × ℤ) :=
  batch.filterMap fun row ↦ (schedule.claimInterval row.2).map (row.1, ·)

/-- The table after the claim of a batch is committed. -/
def claimBatch (schedule : Schedule) (now : ℤ) (batch : List (ℕ × Monitor))
    (monitors : Table Monitor) : Table Monitor :=
  monitors.mapRows fun monitorId monitor ↦
    if monitorId ∈ batch.map Prod.fst then schedule.claim now monitor else monitor

/-- The loop that enqueues the items of a batch: those enqueued, and those from the first failure
on. The broker is asked with the number of tasks enqueued so far. -/
def dispatch (broker : ℕ → Bool) (enqueued : ℕ) :
    List (ℕ × ℤ) → List (ℕ × ℤ) × List (ℕ × ℤ)
  | [] => ([], [])
  | item :: rest =>
    if broker enqueued then
      (item :: (dispatch broker (enqueued + 1) rest).1, (dispatch broker (enqueued + 1) rest).2)
    else ([], item :: rest)

/-- The table after the recovery of failed rows. -/
def recover (schedule : Schedule) (now : ℤ) (failedIds : List ℕ) (monitors : Table Monitor) :
    Table Monitor :=
  monitors.mapRows fun monitorId monitor ↦
    if monitorId ∈ failedIds then schedule.setNext (some now) monitor else monitor

/-! ### The sweep -/

/-- What a phase meets: the order among rows due at the same time, by the number of batches left,
the broker, and whether a recovery transaction succeeds. -/
structure PhaseEnv where
  rank : ℕ → ℕ → ℕ
  broker : ℕ → Bool
  recovers : Bool

/-- The end of a phase: the table, the count of enqueued tasks, and the tasks with their
expirations in the order they were enqueued. -/
structure PhaseResult where
  monitors : Table Monitor
  enqueued : ℕ
  dispatched : List (ℕ × ℤ)

/-- A phase from a batch on. The first number is how many batches are left. -/
def sweepPhase (schedule : Schedule) (now : ℤ) (batchSize : ℕ) (env : PhaseEnv) :
    ℕ → ℕ → Table Monitor → PhaseResult
  | 0, enqueued, monitors => ⟨monitors, enqueued, []⟩
  | batchesLeft + 1, enqueued, monitors =>
    let batch := selectBatch schedule now batchSize (env.rank batchesLeft) monitors
    if batch = [] then ⟨monitors, enqueued, []⟩
    else
      let claimed := claimBatch schedule now batch monitors
      match dispatch env.broker enqueued (batchItems schedule batch) with
      | (sent, []) =>
        let rest := sweepPhase schedule now batchSize env batchesLeft (enqueued + sent.length)
          claimed
        ⟨rest.monitors, rest.enqueued, sent ++ rest.dispatched⟩
      | (sent, failed) =>
        ⟨if env.recovers then recover schedule now (failed.map Prod.fst) claimed else claimed,
          enqueued + sent.length, sent⟩

/-- The health phase. -/
def healthPhase (now : ℤ) (batchSize maxBatches : ℕ) (env : PhaseEnv) (monitors : Table Monitor) :
    PhaseResult :=
  sweepPhase .health now batchSize env maxBatches 0 monitors

/-- The keep-alive phase. -/
def keepAlivePhase (now : ℤ) (batchSize maxBatches : ℕ) (env : PhaseEnv)
    (monitors : Table Monitor) : PhaseResult :=
  sweepPhase .keepAlive now batchSize env maxBatches 0 monitors

/-- The end of a sweep: the table and the two counts that it returns. -/
structure SweepResult where
  monitors : Table Monitor
  monitorsEnqueued : ℕ
  keepAlivesEnqueued : ℕ

/-- `sweep_due_monitors`. -/
def sweepDueMonitors (now : ℤ) (batchSize maxBatches : ℕ) (healthEnv keepAliveEnv : PhaseEnv)
    (monitors : Table Monitor) : SweepResult :=
  let health := healthPhase now batchSize maxBatches healthEnv monitors
  let keepAlive := keepAlivePhase now batchSize maxBatches keepAliveEnv health.monitors
  ⟨keepAlive.monitors, health.enqueued, keepAlive.enqueued⟩

/-! ### What a batch selects -/

/-- The rows that are due are the due rows of the table. -/
theorem mem_dueRows_iff (schedule : Schedule) (now : ℤ) (monitors : Table Monitor)
    (monitorId : ℕ) (monitor : Monitor) :
    (monitorId, monitor) ∈ dueRows schedule now monitors ↔
      monitors.get monitorId = some monitor ∧ schedule.isDue now monitor = true := by
  rw [dueRows, List.mem_filter, monitors.mem_rows_iff]

/-- The keys of the rows that are due are distinct. -/
theorem nodup_dueRows (schedule : Schedule) (now : ℤ) (monitors : Table Monitor) :
    ((dueRows schedule now monitors).map Prod.fst).Nodup :=
  monitors.nodup.sublist (List.filter_sublist.map _)

/-- A selected row is a due row of the table. -/
theorem of_mem_selectBatch {schedule : Schedule} {now : ℤ} {batchSize : ℕ} {rank : ℕ → ℕ}
    {monitors : Table Monitor} {monitorId : ℕ} {monitor : Monitor}
    (hmem : (monitorId, monitor) ∈ selectBatch schedule now batchSize rank monitors) :
    monitors.get monitorId = some monitor ∧ schedule.isDue now monitor = true :=
  (mem_dueRows_iff schedule now monitors monitorId monitor).mp (mem_of_mem_firstBy hmem)

/-- The keys of a selection are distinct. -/
theorem nodup_selectBatch (schedule : Schedule) (now : ℤ) (batchSize : ℕ) (rank : ℕ → ℕ)
    (monitors : Table Monitor) :
    ((selectBatch schedule now batchSize rank monitors).map Prod.fst).Nodup := by
  have hperm := firstBy_append_perm (dueKey schedule rank) batchSize
    (dueRows schedule now monitors)
  have hnodup := ((hperm.map Prod.fst).nodup_iff).mpr (nodup_dueRows schedule now monitors)
  rw [List.map_append] at hnodup
  exact (List.nodup_append.mp hnodup).1

/-- A due row left behind is due no earlier than a selected one. -/
theorem next_le_of_notMem_selectBatch {schedule : Schedule} {now : ℤ} {batchSize : ℕ}
    {rank : ℕ → ℕ} {monitors : Table Monitor} {monitorId otherId : ℕ} {monitor other : Monitor}
    {due otherDue : ℤ}
    (hmem : (monitorId, monitor) ∈ selectBatch schedule now batchSize rank monitors)
    (hdue : schedule.next monitor = some due)
    (hother : (otherId, other) ∈ dueRows schedule now monitors)
    (hotherDue : schedule.next other = some otherDue)
    (hnot : (otherId, other) ∉ selectBatch schedule now batchSize rank monitors) :
    due ≤ otherDue := by
  have hle := le_of_notMem_firstBy hmem hother hnot
  simp only [dueKey, hdue, hotherDue, Option.getD_some, Prod.Lex.toLex_le_toLex] at hle
  rcases hle with hlt | ⟨heq, -⟩
  · exact le_of_lt hlt
  · exact le_of_eq heq

/-- What is found after the claim of a batch. -/
theorem get_claimBatch (schedule : Schedule) (now : ℤ) (batch : List (ℕ × Monitor))
    (monitors : Table Monitor) (monitorId : ℕ) :
    (claimBatch schedule now batch monitors).get monitorId =
      (monitors.get monitorId).map fun monitor ↦
        if monitorId ∈ batch.map Prod.fst then schedule.claim now monitor else monitor := by
  rw [claimBatch, Table.get_mapRows]

/-- What is found after a recovery. -/
theorem get_recover (schedule : Schedule) (now : ℤ) (failedIds : List ℕ)
    (monitors : Table Monitor) (monitorId : ℕ) :
    (recover schedule now failedIds monitors).get monitorId =
      (monitors.get monitorId).map fun monitor ↦
        if monitorId ∈ failedIds then schedule.setNext (some now) monitor else monitor := by
  rw [recover, Table.get_mapRows]

/-- An item is a claimed row of the batch. -/
theorem mem_batchItems_iff {schedule : Schedule} {batch : List (ℕ × Monitor)} {monitorId : ℕ}
    {interval : ℤ} :
    (monitorId, interval) ∈ batchItems schedule batch ↔
      ∃ monitor, (monitorId, monitor) ∈ batch ∧ schedule.claimInterval monitor = some interval := by
  simp only [batchItems, List.mem_filterMap, Option.map_eq_some_iff, Prod.exists, Prod.mk.injEq]
  constructor
  · rintro ⟨_, monitor, hmem, _, hclaim, rfl, rfl⟩
    exact ⟨monitor, hmem, hclaim⟩
  · rintro ⟨monitor, hmem, hclaim⟩
    exact ⟨monitorId, monitor, hmem, interval, hclaim, rfl, rfl⟩

/-- The keys of the items of a batch are keys of the batch, in the same order. -/
theorem batchItems_sublist (schedule : Schedule) (batch : List (ℕ × Monitor)) :
    ((batchItems schedule batch).map Prod.fst).Sublist (batch.map Prod.fst) := by
  induction batch with
  | nil => exact List.Sublist.refl _
  | cons row rest ih =>
    unfold batchItems at ih ⊢
    cases hclaim : schedule.claimInterval row.2 with
    | none =>
      rw [List.filterMap_cons_none (by rw [hclaim]; rfl), List.map_cons]
      exact ih.cons _
    | some interval =>
      rw [List.filterMap_cons_some (by rw [hclaim]; rfl), List.map_cons, List.map_cons]
      exact ih.cons_cons _

/-! ### What a dispatch does -/

/-- The items enqueued and the items that failed are the items, in order. -/
theorem dispatch_append (broker : ℕ → Bool) (enqueued : ℕ) (items : List (ℕ × ℤ)) :
    (dispatch broker enqueued items).1 ++ (dispatch broker enqueued items).2 = items := by
  induction items generalizing enqueued with
  | nil => rfl
  | cons item rest ih =>
    unfold dispatch
    split_ifs
    · rw [List.cons_append, ih]
    · rfl

/-- A broker that works takes every item. -/
theorem dispatch_of_works {broker : ℕ → Bool} (hworks : ∀ count, broker count = true)
    (enqueued : ℕ) (items : List (ℕ × ℤ)) : dispatch broker enqueued items = (items, []) := by
  induction items generalizing enqueued with
  | nil => rfl
  | cons item rest ih => rw [dispatch, if_pos (hworks enqueued), ih]

end PingGuard.Sweep
