import PingGuard.Concurrent.Locks
import PingGuard.Update

/-!
# What a step does to a row

`RowStep` says where a stored row comes from: it is as it was, or a claim, a recovery, a request or
a probe task has written it. `rowStep_of_transition` adds what is recorded for its schedule columns.
The invariants of the rows go through these six cases.
-/

set_option autoImplicit false
set_option relaxedAutoImplicit false

namespace PingGuard.Concurrent

open Library.SerialTable Library.Transition Models ProbeTask Schemas Sweep

variable {settings : Settings} {system next : System} {action : Action}

/-! ### Items -/

/-- The items that a sweep holds: those left to hand to the broker, or to reset. -/
def SweepRun.items (run : SweepRun) : List (ℕ × ℤ) :=
  match run.stage with
  | .dispatching items | .recovering items => items
  | _ => []

/-- No sweep holds two items for one monitor. -/
def ItemsDistinct (system : System) : Prop :=
  ∀ processId run, system.processes.get processId = some (.sweep run) →
    (run.items.map Prod.fst).Nodup

/-- A process that enters a state without a commit holds no items. -/
theorem items_of_entered {run : SweepRun}
    (hentered : Entered settings system action (.sweep run)) : run.items = [] := by
  unfold SweepRun.items
  cases hstage : run.stage with
  | ready => rfl
  | selected batch => rfl
  | dispatching items =>
    rw [Entered, hstage] at hentered
    exact hentered.elim
  | recovering items =>
    rw [Entered, hstage] at hentered
    exact hentered.elim

/-- The items stay distinct after every step. -/
theorem ItemsDistinct.step (hitems : ItemsDistinct system) (hlocks : LocksHold system)
    (htransition : Transition settings system action next) : ItemsDistinct next := by
  -- one process changes, and the others hold what they held
  have hmodify : ∀ processId process, (∀ run, process = .sweep run →
      (run.items.map Prod.fst).Nodup) → ∀ otherId run,
      (system.processes.modify processId fun _ ↦ process).get otherId = some (.sweep run) →
        (run.items.map Prod.fst).Nodup := by
    intro processId process hprocess otherId run hget
    rcases of_get_modify hget with ⟨-, heq⟩ | ⟨-, hbefore⟩
    · exact hprocess run heq.symm
    · exact hitems otherId run hbefore
  cases htransition with
  | started process hentered =>
    intro otherId run hget
    rcases of_get_start hget with ⟨-, rfl⟩ | ⟨-, hbefore⟩
    · rw [items_of_entered hentered]
      exact List.nodup_nil
    · exact hitems otherId run hbefore
  | resumed processId before process hbefore hentered =>
    refine hmodify processId process ?_
    rintro run rfl
    rw [items_of_entered hentered]
    exact List.nodup_nil
  | handed processId run item rest hbefore hstage =>
    refine hmodify processId _ ?_
    rintro _ ⟨⟩
    have hnodup := hitems processId run hbefore
    unfold SweepRun.items at hnodup
    rw [hstage] at hnodup
    exact (List.nodup_cons.mp hnodup).2
  | refused processId run item rest hbefore hstage =>
    refine hmodify processId _ ?_
    rintro _ ⟨⟩
    have hnodup := hitems processId run hbefore
    unfold SweepRun.items at hnodup
    rw [hstage] at hnodup
    exact hnodup
  | claimed processId run batch hbefore hstage =>
    refine hmodify processId _ ?_
    rintro _ ⟨⟩
    exact (hlocks.of_mem_batchItems hbefore hstage).1
  | recovered processId run items hbefore hstage hunlocked =>
    refine hmodify processId _ ?_
    intro after hafter
    have hentered : Entered settings system (.recoverItems processId true) (.sweep after) :=
      hafter ▸ entered_endPhase settings system _ run
    rw [items_of_entered hentered]
    exact List.nodup_nil
  | inserted processId row skipped hbefore => exact hmodify processId _ nofun
  | created processId monitorId row hbefore hreserved => exact hmodify processId _ nofun
  | updated processId monitorId payload loaded stored monitor now hbefore hstored hunlocked
      hcommit =>
    exact hmodify processId _ nofun
  | deleted processId monitorId hbefore hunlocked => exact hmodify processId _ nofun
  | probed processId run after rewrite result stored hbefore hcommit hstored hunlocked =>
    refine hmodify processId _ ?_
    cases hcommit <;> exact nofun

/-! ### Records -/

/-- The record of one column after some writes. -/
theorem writesOf_append (schedule : Schedule) (monitorId : ℕ) (first second : List ScheduleWrite) :
    writesOf schedule monitorId (first ++ second) =
      writesOf schedule monitorId first ++ writesOf schedule monitorId second := by
  rw [writesOf, List.filter_append, List.map_append]
  rfl

/-- Writes of other rows leave the record. -/
theorem writesOf_append_of_ne {monitorId : ℕ} {first : List ScheduleWrite}
    (hne : ∀ write ∈ first, write.monitorId ≠ monitorId) (schedule : Schedule)
    (second : List ScheduleWrite) :
    writesOf schedule monitorId (first ++ second) = writesOf schedule monitorId second := by
  have hnone : writesOf schedule monitorId first = [] := by
    rw [writesOf, List.filter_eq_nil_iff.mpr, List.map_nil]
    exact fun write hwrite hkept ↦ hne write hwrite (of_decide_eq_true hkept).2
  rw [writesOf_append, hnone, List.nil_append]

/-- An update writes columns of its own row. -/
theorem monitorId_of_mem_updateWrites {monitorId : ℕ} {payload : MonitorUpdate} {now : ℤ}
    {loaded : Monitor} {write : ScheduleWrite}
    (hwrite : write ∈ updateWrites monitorId payload now loaded) : write.monitorId = monitorId := by
  unfold updateWrites at hwrite
  split at hwrite
  · nomatch hwrite
  · split_ifs at hwrite
    · nomatch hwrite
    · rw [List.mem_singleton.mp hwrite]

/-- The record of one column after a write for every item. -/
theorem writesOf_items (schedule written : Schedule) (monitorId : ℕ) (items : List (ℕ × ℤ))
    (writer : ℕ × ℤ → Writer) :
    writesOf schedule monitorId (items.map fun item ↦ ⟨written, item.1, writer item⟩) =
      if schedule = written then (items.filter fun item ↦ item.1 = monitorId).map writer
      else [] := by
  unfold writesOf
  rw [List.filter_map, List.map_map]
  split_ifs with heq
  · rw [heq]
    simp only [Function.comp_def, true_and]
  · simp only [Function.comp_def, Ne.symm heq, false_and, decide_false, List.filter_false,
      List.map_nil]

/-- The items for one monitor, where the items are distinct. -/
theorem filter_items_of_mem {items : List (ℕ × ℤ)} (hnodup : (items.map Prod.fst).Nodup)
    {monitorId : ℕ} {interval : ℤ} (hmem : (monitorId, interval) ∈ items) :
    (items.filter fun item ↦ item.1 = monitorId) = [(monitorId, interval)] := by
  obtain ⟨first, last, rfl⟩ := List.append_of_mem hmem
  rw [List.map_append, List.map_cons, List.nodup_append, List.nodup_cons] at hnodup
  obtain ⟨-, ⟨hlast, -⟩, hfirst⟩ := hnodup
  rw [List.filter_append, List.filter_cons, if_pos (decide_eq_true rfl),
    List.filter_eq_nil_iff.mpr, List.filter_eq_nil_iff.mpr]
  · rfl
  · intro item hitem heq
    exact hlast (List.mem_map.mpr ⟨item, hitem, of_decide_eq_true heq⟩)
  · intro item hitem heq
    exact hfirst item.1 (List.mem_map_of_mem hitem) monitorId List.mem_cons_self
      (of_decide_eq_true heq)

/-- The record of a recovery, for a row that it resets. -/
theorem writesOf_recovery (schedule written : Schedule) {monitorId : ℕ} {interval : ℤ}
    {items : List (ℕ × ℤ)} (hnodup : (items.map Prod.fst).Nodup)
    (hitem : (monitorId, interval) ∈ items)
    (hpresent : (system.monitor monitorId).isSome = true) (writer : Writer) :
    writesOf schedule monitorId
        ((items.filter fun item ↦ (system.monitor item.1).isSome).map fun item ↦
          ⟨written, item.1, writer⟩) =
      if schedule = written then [writer] else [] := by
  rw [writesOf_items schedule written monitorId _ fun _ ↦ writer,
    filter_items_of_mem (hnodup.sublist (List.filter_sublist.map _))
      (List.mem_filter.mpr ⟨hitem, hpresent⟩)]
  rfl

/-! ### Rows -/

/-- The writers of one schedule column. -/
def onSchedule (written : Schedule) (writers : List Writer) (schedule : Schedule) : List Writer :=
  if schedule = written then writers else []

/-- Where a row comes from in a step, with the results stored after it and the writers recorded for
the schedule columns of the row. -/
inductive RowStep (settings : Settings) (system : System) (results : Table PingResult)
    (monitorId : ℕ) : Action → Monitor → (Schedule → List Writer) → Prop
  | kept {action : Action} (monitor : Monitor) (hstored : system.monitor monitorId = some monitor) :
      RowStep settings system results monitorId action monitor fun _ ↦ []
  | claimed (processId : ℕ) (run : SweepRun) (interval : ℤ) (monitor : Monitor)
      (hbefore : system.processes.get processId = some (.sweep run))
      (hstored : system.monitor monitorId = some monitor)
      (hdue : run.schedule.isDue run.now monitor = true)
      (hclaim : run.schedule.claimInterval monitor = some interval) :
      RowStep settings system results monitorId (.commitClaim processId)
        (run.schedule.setNext (some (run.now + seconds interval)) monitor)
        (onSchedule run.schedule [.claim processId run.now interval])
  | recovered (processId : ℕ) (run : SweepRun) (items : List (ℕ × ℤ)) (interval : ℤ)
      (monitor : Monitor) (hbefore : system.processes.get processId = some (.sweep run))
      (hstage : run.stage = .recovering items) (hitem : (monitorId, interval) ∈ items)
      (hstored : system.monitor monitorId = some monitor) :
      RowStep settings system results monitorId (.recoverItems processId true)
        (run.schedule.setNext (some run.now) monitor)
        (onSchedule run.schedule [.recovery processId run.now])
  | created (processId : ℕ) (row : NewRow)
      (hbefore : system.processes.get processId = some (.inserted monitorId row))
      (hreserved : monitorId ∈ system.database.monitors.reserved) :
      RowStep settings system results monitorId (.commitCreate processId) row.monitor
        fun schedule ↦ [.request (schedule.next row.monitor)]
  | updated (processId : ℕ) (payload : MonitorUpdate) (loaded stored monitor : Monitor) (now : ℤ)
      (hbefore : system.processes.get processId = some (.update monitorId payload loaded))
      (hstored : system.monitor monitorId = some stored)
      (hcommit : Api.commitUpdate payload now loaded stored = .ok monitor) :
      RowStep settings system results monitorId (.commitUpdate processId now) monitor
        fun schedule ↦ writesOf schedule monitorId (updateWrites monitorId payload now loaded)
  | probed {action : Action} (processId : ℕ) (run : ProbeRun) (after : Process)
      (rewrite : Monitor → Monitor) (result : PingResult) (stored : Monitor)
      (hbefore : system.processes.get processId = some (.probe run))
      (hcommit : SessionCommit run processId action after rewrite result)
      (hmonitorId : run.monitorId = monitorId) (hstored : system.monitor monitorId = some stored)
      (hresults : results = system.database.pingResults.insert result) :
      RowStep settings system results monitorId action (rewrite stored) fun _ ↦ []

/-- Where a row comes from in a step, and that the writes of the step grow the record of the row by
its writers. -/
def ComesFrom (settings : Settings) (system : System) (results : Table PingResult)
    (monitorId : ℕ) (action : Action) (monitor : Monitor) (written : List ScheduleWrite) : Prop :=
  ∃ writers : Schedule → List Writer,
    RowStep settings system results monitorId action monitor writers ∧
      ∀ schedule, writesOf schedule monitorId (written ++ system.writes) =
        writers schedule ++ writesOf schedule monitorId system.writes

section Sources

variable {results : Table PingResult} {processId monitorId : ℕ} {monitor : Monitor}

/-- A row that a step does not write. -/
theorem comesFrom_kept (hstored : system.monitor monitorId = some monitor)
    {written : List ScheduleWrite} (hne : ∀ write ∈ written, write.monitorId ≠ monitorId) :
    ComesFrom settings system results monitorId action monitor written :=
  ⟨_, .kept monitor hstored, fun schedule ↦ writesOf_append_of_ne hne schedule _⟩

/-- A row after a claim. -/
theorem comesFrom_claimed (hlocks : LocksHold system) {run : SweepRun} {batch : List (ℕ × Monitor)}
    (hbefore : system.processes.get processId = some (.sweep run))
    (hstage : run.stage = .selected batch)
    (hget : (writeClaims run.schedule run.now (batchItems run.schedule batch)
      system.database.monitors).get monitorId = some monitor) :
    ComesFrom settings system results monitorId (.commitClaim processId) monitor
      ((batchItems run.schedule batch).map fun item ↦
        ⟨run.schedule, item.1, .claim processId run.now item.2⟩) := by
  obtain ⟨hnodup, -, hread⟩ := hlocks.of_mem_batchItems hbefore hstage
  by_cases hmem : monitorId ∈ (batchItems run.schedule batch).map Prod.fst
  · obtain ⟨⟨_, interval⟩, hitem, rfl⟩ := List.mem_map.mp hmem
    obtain ⟨before, hstored, hdue, hclaim⟩ := hread _ interval hitem
    have hwritten : (system.monitor _).map
        (run.schedule.setNext (some (run.now + seconds interval))) = some monitor :=
      (get_writeClaims_of_mem hnodup hitem).symm.trans hget
    rw [hstored] at hwritten
    obtain rfl := Option.some.inj hwritten
    refine ⟨_, .claimed processId run interval before hbefore hstored hdue hclaim, ?_⟩
    intro schedule
    rw [writesOf_append, writesOf_items, filter_items_of_mem hnodup hitem]
    rfl
  · refine comesFrom_kept ((get_writeClaims_of_notMem hmem).symm.trans hget) ?_
    rintro write hwrite rfl
    obtain ⟨item, hitem, rfl⟩ := List.mem_map.mp hwrite
    exact hmem (List.mem_map_of_mem hitem)

/-- A row after a recovery. -/
theorem comesFrom_recovered (hitems : ItemsDistinct system) {run : SweepRun}
    {items : List (ℕ × ℤ)} (hbefore : system.processes.get processId = some (.sweep run))
    (hstage : run.stage = .recovering items)
    (hget : (recover run.schedule run.now (items.map Prod.fst) system.database.monitors).get
      monitorId = some monitor) :
    ComesFrom settings system results monitorId (.recoverItems processId true) monitor
      ((items.filter fun item ↦ (system.monitor item.1).isSome).map fun item ↦
        ⟨run.schedule, item.1, .recovery processId run.now⟩) := by
  have hnodup := hitems processId run hbefore
  unfold SweepRun.items at hnodup
  rw [hstage] at hnodup
  dsimp only at hnodup
  have hafter := (get_recover run.schedule run.now (items.map Prod.fst)
    system.database.monitors monitorId).symm.trans hget
  obtain ⟨before, hstored, hmonitor⟩ := Option.map_eq_some_iff.mp hafter
  by_cases hmem : monitorId ∈ items.map Prod.fst
  · rw [if_pos hmem] at hmonitor
    obtain rfl := hmonitor
    obtain ⟨⟨itemId, interval⟩, hitem, rfl⟩ := List.mem_map.mp hmem
    refine ⟨_, .recovered processId run items interval before hbefore hstage hitem hstored, ?_⟩
    intro schedule
    have hpresent : (system.monitor itemId).isSome = true := by
      rw [System.monitor, hstored]
      rfl
    rw [writesOf_append, writesOf_recovery schedule run.schedule hnodup hitem hpresent]
    rfl
  · rw [if_neg hmem] at hmonitor
    obtain rfl := hmonitor
    refine comesFrom_kept hstored ?_
    rintro write hwrite rfl
    obtain ⟨item, hitem, rfl⟩ := List.mem_map.mp hwrite
    exact hmem (List.mem_map_of_mem (List.mem_filter.mp hitem).1)

/-- A row after a creation. -/
theorem comesFrom_created {createdId : ℕ} {row : NewRow}
    (hbefore : system.processes.get processId = some (.inserted createdId row))
    (hreserved : createdId ∈ system.database.monitors.reserved)
    (hget : (system.database.monitors.store createdId row.monitor).get monitorId =
      some monitor) :
    ComesFrom settings system results monitorId (.commitCreate processId) monitor
      [⟨.health, createdId, .request row.monitor.nextCheckAt⟩,
        ⟨.keepAlive, createdId, .request row.monitor.nextKeepAliveAt⟩] := by
  have hafter := (Table.get_store hreserved _ _).symm.trans hget
  by_cases heq : monitorId = createdId
  · subst heq
    rw [if_pos rfl] at hafter
    obtain rfl := Option.some.inj hafter
    refine ⟨_, .created processId row hbefore hreserved, ?_⟩
    intro schedule
    rw [writesOf_append]
    congr 1
    cases schedule <;> simp [writesOf, Schedule.next]
  · rw [if_neg heq] at hafter
    refine comesFrom_kept hafter fun write hwrite ↦ ?_
    rcases List.mem_pair.mp hwrite with rfl | rfl
    · exact Ne.symm heq
    · exact Ne.symm heq

/-- A row after an update. -/
theorem comesFrom_updated {updatedId : ℕ} {payload : MonitorUpdate}
    {loaded stored updated : Monitor} {now : ℤ}
    (hbefore : system.processes.get processId = some (.update updatedId payload loaded))
    (hstored : system.monitor updatedId = some stored)
    (hcommit : Api.commitUpdate payload now loaded stored = .ok updated)
    (hget : (system.database.monitors.modify updatedId fun _ ↦ updated).get monitorId =
      some monitor) :
    ComesFrom settings system results monitorId (.commitUpdate processId now) monitor
      (updateWrites updatedId payload now loaded) := by
  have hafter := (Table.get_modify _ _ _ _).symm.trans hget
  by_cases heq : monitorId = updatedId
  · subst heq
    rw [if_pos rfl, ← System.monitor, hstored] at hafter
    obtain rfl := Option.some.inj hafter
    exact ⟨_, .updated processId payload loaded stored _ now hbefore hstored hcommit,
      fun schedule ↦ writesOf_append _ _ _ _⟩
  · rw [if_neg heq] at hafter
    refine comesFrom_kept hafter fun write hwrite ↦ ?_
    exact monitorId_of_mem_updateWrites hwrite ▸ Ne.symm heq

/-- A row after a check. -/
theorem comesFrom_probed {run : ProbeRun} {after : Process} {rewrite : Monitor → Monitor}
    {result : PingResult} {stored : Monitor}
    (hbefore : system.processes.get processId = some (.probe run))
    (hcommit : SessionCommit run processId action after rewrite result)
    (hstored : system.monitor run.monitorId = some stored)
    (hget : (system.database.monitors.modify run.monitorId rewrite).get monitorId =
      some monitor) :
    ComesFrom settings system (system.database.pingResults.insert result) monitorId action monitor
      [] := by
  have hafter := (Table.get_modify _ _ _ _).symm.trans hget
  by_cases heq : monitorId = run.monitorId
  · subst heq
    rw [if_pos rfl, ← System.monitor, hstored] at hafter
    obtain rfl := Option.some.inj hafter
    exact ⟨_, .probed processId run after rewrite result stored hbefore hcommit rfl hstored rfl,
      fun _ ↦ rfl⟩
  · rw [if_neg heq] at hafter
    exact comesFrom_kept hafter (List.forall_mem_nil _)

end Sources

/-- The rows after a step come from the rows before it, and the record grows by their writers. -/
theorem rowStep_of_transition (hlocks : LocksHold system) (hitems : ItemsDistinct system)
    (htransition : Transition settings system action next) {monitorId : ℕ} {monitor : Monitor}
    (hget : next.monitor monitorId = some monitor) :
    ∃ writers : Schedule → List Writer,
      RowStep settings system next.database.pingResults monitorId action monitor writers ∧
        ∀ schedule, writesOf schedule monitorId next.writes =
          writers schedule ++ writesOf schedule monitorId system.writes := by
  cases htransition with
  | started process hentered => exact ⟨_, .kept monitor hget, fun _ ↦ rfl⟩
  | resumed processId before process hbefore hentered =>
    exact ⟨_, .kept monitor hget, fun _ ↦ rfl⟩
  | handed processId run item rest hbefore hstage => exact ⟨_, .kept monitor hget, fun _ ↦ rfl⟩
  | refused processId run item rest hbefore hstage => exact ⟨_, .kept monitor hget, fun _ ↦ rfl⟩
  | claimed processId run batch hbefore hstage =>
    exact comesFrom_claimed hlocks hbefore hstage hget
  | recovered processId run items hbefore hstage hunlocked =>
    exact comesFrom_recovered hitems hbefore hstage hget
  | inserted processId row skipped hbefore => exact ⟨_, .kept monitor hget, fun _ ↦ rfl⟩
  | created processId createdId row hbefore hreserved =>
    exact comesFrom_created hbefore hreserved hget
  | updated processId updatedId payload loaded stored updated now hbefore hstored hunlocked
      hcommit =>
    exact comesFrom_updated hbefore hstored hcommit hget
  | deleted processId deletedId hbefore hunlocked =>
    have hafter := (Table.get_erase _ _ _).symm.trans hget
    split_ifs at hafter
    exact ⟨_, .kept monitor hafter, fun _ ↦ rfl⟩
  | probed processId run after rewrite result stored hbefore hcommit hstored hunlocked =>
    exact comesFrom_probed hbefore hcommit hstored hget

/-- A spent key stays spent. -/
theorem isSpent_of_transition (htransition : Transition settings system action next)
    {monitorId : ℕ} (hspent : system.database.monitors.IsSpent monitorId) :
    next.database.monitors.IsSpent monitorId := by
  cases htransition with
  | inserted processId row skipped hbefore =>
    exact (Table.isSpent_reserve _ _).mpr (Table.isSpent_skip hspent skipped)
  | created processId createdId row hbefore hreserved =>
    exact (Table.isSpent_store hreserved _ _).mpr (Or.inr hspent)
  | _ => exact hspent

/-- A probe task writes nothing but the status and the time of the check. -/
theorem SessionCommit.rewrite_eq {run : ProbeRun} {processId : ℕ} {after : Process}
    {rewrite : Monitor → Monitor} {result : PingResult}
    (hcommit : SessionCommit run processId action after rewrite result) (monitor : Monitor) :
    ∃ status lastCheckedAt,
      rewrite monitor = { monitor with status := status, lastCheckedAt := lastCheckedAt } := by
  cases hcommit with
  | probe dto hstage =>
    unfold flushProbe
    split_ifs
    · exact ⟨_, _, rfl⟩
    · exact ⟨_, _, rfl⟩
  | timeLimit hstage => exact ⟨_, _, rfl⟩

/-- An update leaves the time of a schedule as it is and records nothing for it, or records the
value that it writes. -/
theorem next_of_commitUpdate {payload : MonitorUpdate} {now : ℤ} {loaded stored monitor : Monitor}
    (hcommit : Api.commitUpdate payload now loaded stored = .ok monitor) (monitorId : ℕ)
    (schedule : Schedule) :
    (writesOf schedule monitorId (updateWrites monitorId payload now loaded) = [] ∧
        schedule.next monitor = schedule.next stored) ∨
      ∃ value, writesOf schedule monitorId (updateWrites monitorId payload now loaded) =
        [.request value] ∧ schedule.next monitor = value := by
  obtain ⟨draft, hdraft, -, hflushed⟩ := Api.commitUpdate_eq_ok hcommit
  unfold updateWrites
  rw [hdraft]
  dsimp only
  cases schedule with
  | health =>
    refine Or.inl ⟨?_, hflushed.nextCheckAt⟩
    split_ifs
    · rfl
    · simp [writesOf]
  | keepAlive =>
    by_cases heq : draft.nextKeepAliveAt = loaded.nextKeepAliveAt
    · rw [if_pos heq]
      refine Or.inl ⟨rfl, ?_⟩
      rw [Schedule.next, hflushed.nextKeepAliveAt, heq, flushColumn_unchanged]
    · rw [if_neg heq]
      refine Or.inr ⟨draft.nextKeepAliveAt, by simp [writesOf], ?_⟩
      rw [Schedule.next, hflushed.nextKeepAliveAt, flushColumn_of_ne heq]

/-! ### The keep-alive time -/

/-- What every run keeps: the locks, the distinct items, and rows and loaded rows whose keep-alive
time is set exactly when keep-alive is enabled. -/
structure Timed (system : System) : Prop where
  locks : LocksHold system
  items : ItemsDistinct system
  rows : ∀ monitorId monitor, system.monitor monitorId = some monitor → Api.KeepAliveTimed monitor
  loads : ∀ processId monitorId payload loaded,
    system.processes.get processId = some (.update monitorId payload loaded) →
      Api.KeepAliveTimed loaded

/-- A system where nothing runs keeps what its rows keep. -/
theorem Timed.idle {database : Database}
    (hrows : ∀ monitorId monitor, database.monitors.get monitorId = some monitor →
      Api.KeepAliveTimed monitor) : Timed (System.idle database) where
  locks := LocksHold.idle database
  items := fun _ _ hget ↦ nomatch hget
  rows := hrows
  loads := fun _ _ _ _ hget ↦ nomatch hget

/-- A step keeps it, where a recovery resets enabled rows only. -/
theorem Timed.step (htimed : Timed system)
    (htransition : Transition settings system action next)
    (hrecovery : ∀ processId run items monitorId interval monitor,
      action = .recoverItems processId true →
        system.processes.get processId = some (.sweep run) → run.stage = .recovering items →
          (monitorId, interval) ∈ items → system.monitor monitorId = some monitor →
            (run.schedule.next monitor).isSome = true) : Timed next := by
  refine ⟨htimed.locks.step htransition, htimed.items.step htimed.locks htransition, ?_, ?_⟩
  · intro monitorId monitor hget
    obtain ⟨writers, hrow, -⟩ := rowStep_of_transition htimed.locks htimed.items htransition hget
    cases hrow with
    | kept monitor hstored => exact htimed.rows monitorId monitor hstored
    | claimed processId run interval before hbefore hstored hdue hclaim =>
      obtain ⟨-, due, hnext, -⟩ := (Schedule.isDue_iff _ _ _).mp hdue
      exact Api.keepAliveTimed_setNext (htimed.rows monitorId before hstored) (by rw [hnext]; rfl) _
    | recovered processId run items interval before hbefore hstage hitem hstored =>
      exact Api.keepAliveTimed_setNext (htimed.rows monitorId before hstored)
        (hrecovery processId run items monitorId interval before rfl hbefore hstage hitem hstored) _
    | created processId row hbefore hreserved => exact Api.keepAliveTimed_newMonitor _ _
    | updated processId payload loaded stored monitor now hbefore hstored hcommit =>
      exact Api.keepAliveTimed_commitUpdate
        (htimed.loads processId monitorId payload loaded hbefore)
        (htimed.rows monitorId stored hstored) hcommit
    | probed processId run after rewrite result stored hbefore hcommit hmonitorId hstored
        hresults =>
      obtain ⟨status, lastCheckedAt, heq⟩ := hcommit.rewrite_eq stored
      rw [heq]
      exact htimed.rows monitorId stored hstored
  · intro processId monitorId payload loaded hget
    rcases update_of_transition htransition hget with hsame | ⟨-, hloaded, -⟩
    · exact htimed.loads processId monitorId payload loaded hsame
    · exact htimed.rows monitorId loaded hloaded

end PingGuard.Concurrent
