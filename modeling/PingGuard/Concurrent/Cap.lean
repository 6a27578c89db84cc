import PingGuard.Concurrent.Steps

/-!
# The cap on monitors

Any number of `create_monitor` and `delete_monitor` requests, and everything else. A creation counts
the rows, and then inserts its own and commits it without counting again. Creations that count the
same rows may together exceed the cap: `creations_exceed_cap`.

A `Census` records how many rows were added and removed, and what was there when each process
started. The room that a creation has counted is still there when it commits exactly when
`RoomIsLeft`, and in runs whose creations find room the cap holds. Where nothing comes between its
steps, a creation is that of the sequential model (`run_creation`).
-/

set_option autoImplicit false
set_option relaxedAutoImplicit false

namespace PingGuard.Concurrent

open Library.PyText Library.SerialTable Library.Transition Models ProbeTask Schemas Status Sweep

variable {settings : Settings} {system next : System} {action : Action}

/-! ### A creation by itself -/

section Creation

variable {processId monitorId : ℕ} {row : NewRow}

/-- A creation inserts a row that fits. -/
theorem insertMonitor_of_get
    (hget : system.processes.get processId = some (.create row.payload)) (skipped : ℕ) :
    insertMonitor system processId row.now skipped =
      some ((system.resume processId
        (.inserted (system.database.monitors.nextKey + skipped) row)).withMonitors
          (system.database.monitors.skip skipped).reserve) := by
  unfold insertMonitor
  rw [hget]
  exact dif_pos row.fits

/-- A creation commits the row that it has inserted. -/
theorem database_commitCreate
    (hget : system.processes.get processId = some (.inserted monitorId row))
    (hreserved : monitorId ∈ system.database.monitors.reserved) :
    (commitCreate system processId).map System.database = some { system.database with
      monitors := system.database.monitors.store monitorId row.monitor } := by
  unfold commitCreate
  rw [hget]
  dsimp only
  rw [if_pos hreserved]
  rfl

/-- The `INSERT` and the commit, where nothing comes between. -/
theorem run_insertAndCommit
    (hget : system.processes.get processId = some (.create row.payload)) (skipped : ℕ) :
    ∃ next, run (step settings) system [.insertMonitor processId row.now skipped,
        .commitCreate processId] = some next ∧
      next.database = { system.database with
        monitors := (system.database.monitors.skip skipped).insert row.monitor } := by
  have hinserted : (system.processes.modify processId fun _ ↦
      .inserted (system.database.monitors.nextKey + skipped) row).get processId =
        some (.inserted (system.database.monitors.nextKey + skipped) row) := by
    rw [Table.get_modify, if_pos rfl, hget, Option.map_some]
  have hcommit := @database_commitCreate ((system.resume processId
    (.inserted (system.database.monitors.nextKey + skipped) row)).withMonitors
      (system.database.monitors.skip skipped).reserve) _ _ row hinserted List.mem_cons_self
  obtain ⟨next, hnext, hdatabase⟩ := Option.map_eq_some_iff.mp hcommit
  refine ⟨next, Option.bind_eq_some_iff.mpr ⟨_, insertMonitor_of_get hget skipped,
    Option.bind_eq_some_iff.mpr ⟨next, hnext, rfl⟩⟩, hdatabase.trans ?_⟩
  exact congrArg (fun monitors ↦ Database.mk monitors system.database.pingResults)
    (Table.store_reserve (system.database.monitors.skip skipped) _)

/-- A creation that nothing comes between leaves the database that `create_monitor` leaves as one
operation. -/
theorem run_creation {payload : MonitorCreate} {now : ℤ} {skipped : ℕ} {database : Database}
    (hcreate : Api.createMonitor settings.tables settings.maxMonitors system.database payload now
      skipped = .ok database) :
    ∃ next, run (step settings) system [.countMonitors payload,
        .insertMonitor system.processes.nextKey now skipped,
        .commitCreate system.processes.nextKey] = some next ∧ next.database = database := by
  unfold Api.createMonitor at hcreate
  split_ifs at hcreate with haccepted hfull hfits
  obtain rfl := Except.ok.inj hcreate
  have hcount : step settings system (.countMonitors payload) =
      some (system.start (.create payload)) := if_pos ⟨haccepted, not_le.mp hfull⟩
  have hcreating : (system.start (.create payload)).processes.get system.processes.nextKey =
      some (.create payload) := (Table.get_insert _ _ _).trans (if_pos rfl)
  obtain ⟨next, hrun, hdatabase⟩ :=
    @run_insertAndCommit settings _ _ ⟨payload, now, hfits⟩ hcreating skipped
  exact ⟨next, Option.bind_eq_some_iff.mpr ⟨_, hcount, hrun⟩, hdatabase⟩

end Creation

/-! ### Rows added and removed -/

/-- The rows that a step adds. -/
def rowsAdded (system : System) : Action → ℕ
  | .commitCreate processId =>
    match system.processes.get processId with
    | some (.inserted monitorId _) =>
      if monitorId ∈ system.database.monitors.reserved then 1 else 0
    | _ => 0
  | _ => 0

/-- The rows that a step removes. -/
def rowsRemoved (system : System) : Action → ℕ
  | .commitDelete processId =>
    match system.processes.get processId with
    | some (.delete monitorId) => if (system.monitor monitorId).isSome then 1 else 0
    | _ => 0
  | _ => 0

/-- The number of stored monitors. -/
def System.monitorCount (system : System) : ℕ := system.database.monitors.rows.length

/-- A step that commits neither a creation nor a deletion leaves the number of rows. -/
theorem monitorCount_of_transition (htransition : Transition settings system action next)
    (hcreate : ∀ processId, action ≠ .commitCreate processId)
    (hdelete : ∀ processId, action ≠ .commitDelete processId) :
    next.monitorCount = system.monitorCount := by
  cases htransition with
  | started process hentered => rfl
  | resumed processId before process hbefore hentered => rfl
  | handed processId run item rest hbefore hstage => rfl
  | refused processId run item rest hbefore hstage => rfl
  | claimed processId run batch hbefore hstage => exact Table.length_rows_mapRows _ _
  | recovered processId run items hbefore hstage hunlocked => exact Table.length_rows_mapRows _ _
  | inserted processId row skipped hbefore => rfl
  | created processId monitorId row hbefore hreserved => exact absurd rfl (hcreate processId)
  | updated processId monitorId payload loaded stored monitor now hbefore hstored hunlocked
      hcommit => exact Table.length_rows_modify _ _ _
  | deleted processId monitorId hbefore hunlocked => exact absurd rfl (hdelete processId)
  | probed processId run after rewrite result stored hbefore hcommit hstored hunlocked =>
    exact Table.length_rows_modify _ _ _

/-- The number of rows changes by what a step adds and removes. -/
theorem monitorCount_of_step (hstep : step settings system action = some next) :
    next.monitorCount + rowsRemoved system action =
      system.monitorCount + rowsAdded system action := by
  have htransition := transition_of_step hstep
  cases action with
  | commitCreate processId =>
    unfold step commitCreate at hstep
    dsimp only at hstep
    split at hstep
    · rename_i monitorId row hprocess
      unfold rowsAdded rowsRemoved
      dsimp only
      rw [hprocess]
      dsimp only
      split_ifs at hstep with hreserved
      · obtain rfl := Option.some.inj hstep
        rw [if_pos hreserved]
        exact Table.length_rows_store hreserved _
      · obtain rfl := Option.some.inj hstep
        rw [if_neg hreserved]
        rfl
    · nomatch hstep
  | commitDelete processId =>
    unfold step commitDelete at hstep
    dsimp only at hstep
    split at hstep
    · rename_i monitorId hprocess
      unfold rowsAdded rowsRemoved
      dsimp only
      rw [hprocess]
      split_ifs at hstep with hlocked
      obtain rfl := Option.some.inj hstep
      exact Table.length_rows_erase _ _
    · nomatch hstep
  | _ => exact monitorCount_of_transition htransition nofun nofun

/-- A step starts at most one process. -/
theorem nextKey_processes_le (htransition : Transition settings system action next) :
    next.processes.nextKey ≤ system.processes.nextKey + 1 := by
  cases htransition with
  | started process hentered => exact Nat.le_refl _
  | _ => exact Nat.le_succ _

/-! ### The census -/

/-- What there is at some time: the stored rows, and the rows added and removed so far. -/
structure Count where
  rows : ℕ
  added : ℕ
  removed : ℕ

/-- The system, with the rows added and removed so far and what there was when each process
started. -/
structure Census where
  system : System
  added : ℕ
  removed : ℕ
  counts : ℕ → Count

namespace Census

/-- Nothing has happened. -/
def start (database : Database) : Census where
  system := System.idle database
  added := 0
  removed := 0
  counts := fun _ ↦ ⟨database.monitors.rows.length, 0, 0⟩

/-- What there is now. -/
def count (census : Census) : Count :=
  ⟨census.system.monitorCount, census.added, census.removed⟩

/-- The rows added since a process started. -/
def addedSince (census : Census) (processId : ℕ) : ℕ :=
  census.added - (census.counts processId).added

/-- The rows removed since a process started. -/
def removedSince (census : Census) (processId : ℕ) : ℕ :=
  census.removed - (census.counts processId).removed

end Census

/-- A step of the system. A process that it starts has what there is before the step. -/
def stepCensus (settings : Settings) (census : Census) (action : Action) : Option Census :=
  (step settings census.system action).map fun next ↦
    { system := next
      added := census.added + rowsAdded census.system action
      removed := census.removed + rowsRemoved census.system action
      counts := fun processId ↦
        if processId = census.system.processes.nextKey then census.count
        else census.counts processId }

/-- Every row is accounted for: what was there when a process started, and what was added and
removed since, is what is there. -/
def Accounted (census : Census) : Prop :=
  ∀ processId < census.system.processes.nextKey,
    (census.counts processId).added ≤ census.added ∧
      (census.counts processId).removed ≤ census.removed ∧
      census.system.monitorCount + census.removedSince processId =
        (census.counts processId).rows + census.addedSince processId

/-- Every step keeps the accounts. -/
theorem Accounted.step {census after : Census} (haccounted : Accounted census)
    (hstep : stepCensus settings census action = some after) : Accounted after := by
  obtain ⟨next, hnext, rfl⟩ := Option.map_eq_some_iff.mp hstep
  have hrows := monitorCount_of_step hnext
  have hkeys := nextKey_processes_le (transition_of_step hnext)
  intro processId hlt
  unfold Census.addedSince Census.removedSince
  dsimp only at hlt ⊢
  by_cases hnew : processId = census.system.processes.nextKey
  · rw [if_pos hnew]
    unfold Census.count
    dsimp only
    omega
  · rw [if_neg hnew]
    have hbefore := haccounted processId (by omega)
    unfold Census.addedSince Census.removedSince at hbefore
    omega

/-- A creation that is committed finds room: what it has counted, with the rows added since, is
below the cap and the rows removed since. -/
def RoomIsLeft (settings : Settings) (census : Census) (action : Action) : Prop :=
  ∀ processId monitorId row, action = .commitCreate processId →
    census.system.processes.get processId = some (.inserted monitorId row) →
      (census.counts processId).rows + census.addedSince processId <
        settings.maxMonitors + census.removedSince processId

/-- A step adds rows only where a creation is committed. -/
theorem exists_create_of_rowsAdded (hadded : rowsAdded system action ≠ 0) :
    ∃ processId monitorId row, action = .commitCreate processId ∧
      system.processes.get processId = some (.inserted monitorId row) ∧
        rowsAdded system action = 1 := by
  cases action with
  | commitCreate processId =>
    unfold rowsAdded at hadded ⊢
    dsimp only at hadded ⊢
    split at hadded
    · rename_i monitorId row hprocess
      split_ifs at hadded with hreserved
      · exact ⟨processId, monitorId, row, rfl, hprocess, if_pos hreserved⟩
      · exact absurd rfl hadded
    · exact absurd rfl hadded
  | _ => exact absurd rfl hadded

/-- The condition is exact: a step that adds a row keeps the cap only if there is room. -/
theorem roomIsLeft_iff_of_rowsAdded {census after : Census} (haccounted : Accounted census)
    (hstep : stepCensus settings census action = some after)
    (hadded : rowsAdded census.system action ≠ 0) :
    RoomIsLeft settings census action ↔ after.system.monitorCount ≤ settings.maxMonitors := by
  obtain ⟨next, hnext, rfl⟩ := Option.map_eq_some_iff.mp hstep
  obtain ⟨processId, monitorId, row, rfl, hprocess, hone⟩ := exists_create_of_rowsAdded hadded
  have hrows : next.monitorCount + 0 = census.system.monitorCount + _ := monitorCount_of_step hnext
  rw [hone] at hrows
  have haccount := haccounted processId (Table.lt_nextKey_of_get _ hprocess)
  dsimp only
  constructor
  · intro hroom
    have hleft := hroom processId monitorId row rfl hprocess
    omega
  · rintro hcap _ _ _ ⟨⟩ _
    omega

/-- In every run whose creations find room, there are never more monitors than the cap.
Assumes: at the start nothing runs, and there are not more monitors than the cap. -/
theorem monitorCount_le_of_reaches {database : Database} {census : Census}
    (hstart : database.monitors.rows.length ≤ settings.maxMonitors)
    (hreaches : Reaches (stepCensus settings) (RoomIsLeft settings) (Census.start database)
      census) : census.system.monitorCount ≤ settings.maxMonitors := by
  have hinv : Accounted census ∧ census.system.monitorCount ≤ settings.maxMonitors := by
    refine hreaches.invariant
      (motive := fun census ↦ Accounted census ∧
        census.system.monitorCount ≤ settings.maxMonitors) ⟨?_, hstart⟩ ?_
    · exact fun _ _ ↦ ⟨Nat.le_refl _, Nat.le_refl _, rfl⟩
    · intro state label after hinv hroom hstep
      refine ⟨hinv.1.step hstep, ?_⟩
      by_cases hadded : rowsAdded state.system label = 0
      · obtain ⟨next, hnext, rfl⟩ := Option.map_eq_some_iff.mp hstep
        have hrows := monitorCount_of_step hnext
        have hcap := hinv.2
        dsimp only
        omega
      · exact (roomIsLeft_iff_of_rowsAdded hinv.1 hstep hadded).mp hroom
  exact hinv.2

/-- A payload for health checks only. -/
def siteCreate : MonitorCreate where
  name := "site".toList
  url := ⟨"https://example.com/".toList, "https".toList, none, none, some "example.com".toList⟩
  checkIntervalSeconds := 60
  mode := .monitor
  keepAliveEnabled := false
  keepAliveIntervalSeconds := none
  keepAlivePath := none

/-- A service for a single monitor. -/
def singleMonitor : Settings := ⟨UnicodeTables.caseless, 1⟩

/-- A service for two monitors. -/
def twoMonitors : Settings := ⟨UnicodeTables.caseless, 2⟩

/-- Two creations count the one monitor that is stored and insert their own, and it is deleted. -/
def countedBoth : List Action :=
  [.countMonitors siteCreate, .loadDelete 1, .countMonitors siteCreate, .insertMonitor 1 0 0,
    .insertMonitor 3 0 0, .commitDelete 2]

/-- Both creations find room for their monitors then. -/
theorem monitorCount_countedBoth : ∃ deleted created census,
    run (stepCensus twoMonitors) (Census.start .oneMonitor) countedBoth = some deleted ∧
    stepCensus twoMonitors deleted (.commitCreate 3) = some created ∧
    stepCensus twoMonitors created (.commitCreate 1) = some census ∧
    census.system.monitorCount = 2 ∧ census.system.monitorCount ≤ twoMonitors.maxMonitors := by
  have hcount : ∀ label ∈ countedBoth, ∀ state, RoomIsLeft twoMonitors state label := by
    intro label hlabel state processId monitorId row hcreate
    subst hcreate
    simp [countedBoth] at hlabel
  obtain ⟨deleted, created, census, hdeleted, hroom, hcreated, hroom', hcensus, htwo⟩ :
      ∃ deleted created census,
        run (stepCensus twoMonitors) (Census.start .oneMonitor) countedBoth = some deleted ∧
          (deleted.counts 3).rows + deleted.addedSince 3 < 2 + deleted.removedSince 3 ∧
          stepCensus twoMonitors deleted (.commitCreate 3) = some created ∧
          (created.counts 1).rows + created.addedSince 1 < 2 + created.removedSince 1 ∧
          stepCensus twoMonitors created (.commitCreate 1) = some census ∧
          census.system.monitorCount = 2 :=
    ⟨_, _, _, rfl, by decide, rfl, by decide, rfl, rfl⟩
  have hfirst : RoomIsLeft twoMonitors deleted (.commitCreate 3) := by
    rintro _ _ _ ⟨⟩ -
    exact hroom
  have hsecond : RoomIsLeft twoMonitors created (.commitCreate 1) := by
    rintro _ _ _ ⟨⟩ -
    exact hroom'
  have hreaches : Reaches (stepCensus twoMonitors) (RoomIsLeft twoMonitors)
      (Census.start .oneMonitor) census :=
    ((reaches_of_run .start hcount hdeleted).step hfirst hcreated).step hsecond hcensus
  exact ⟨deleted, created, census, hdeleted, hcreated, hcensus, htwo,
    monitorCount_le_of_reaches (by decide) hreaches⟩

/-- Two creations that both count no monitors exceed a cap of one. -/
theorem creations_exceed_cap :
    Database.empty.monitors.rows.length ≤ singleMonitor.maxMonitors ∧ ∃ system,
      run (step singleMonitor) (System.idle .empty)
        [.countMonitors siteCreate, .countMonitors siteCreate, .insertMonitor 1 0 0,
          .insertMonitor 2 0 0, .commitCreate 1, .commitCreate 2] = some system ∧
      singleMonitor.maxMonitors < system.monitorCount := by
  refine ⟨by decide, _, rfl, ?_⟩
  decide

end PingGuard.Concurrent
