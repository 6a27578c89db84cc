import PingGuard.Concurrent.System

/-!
# What a step does

`Transition` lists the steps of the concurrent system by what they do: eleven kinds of changes for
eighteen actions. Most actions only start a process or let one go on, with what it has just read.
`transition_of_step` covers every step, and the invariants go through the kinds.
-/

set_option autoImplicit false
set_option relaxedAutoImplicit false

namespace PingGuard.Concurrent

open Library.SerialTable Models Net ProbeTask Schemas Status Sweep

/-! ### Kinds of steps -/

/-- What a process holds when it enters a state without a commit: it has just read it. -/
def Entered (settings : Settings) (system : System) (action : Action) : Process → Prop
  | .sweep run =>
    match run.stage with
    | .ready => True
    | .selected batch => ∃ monitorIds : List ℕ,
        batch = readRows system.database.monitors monitorIds ∧ monitorIds.Nodup ∧
          ∀ monitorId ∈ monitorIds,
            (system.monitor monitorId).any (run.schedule.isDue run.now) = true ∧
              system.isLocked monitorId = false
    | .dispatching _ | .recovering _ => False
  | .update monitorId payload loaded =>
    action = .loadUpdate monitorId payload ∧ system.monitor monitorId = some loaded ∧
      payload.isAccepted = true
  | .create payload => payload.isAccepted settings.tables = true ∧
      system.database.monitors.rows.length < settings.maxMonitors
  | .inserted _ _ => False
  | .delete _ => True
  | .probe run => system.monitor run.monitorId = some run.loaded
  | .done => True

/-- What the commit of a session of a probe task writes, and how the task goes on. -/
inductive SessionCommit (run : ProbeRun) (processId : ℕ) :
    Action → Process → (Monitor → Monitor) → PingResult → Prop
  | probe (dto : PingResultDTO) (hstage : run.stage = .probing) :
      SessionCommit run processId (.commitProbe processId dto)
        (.probe { run with stage := .committed })
        (flushProbe run.task dto.outcome run.now run.loaded)
        (probeResult run.task run.monitorId dto run.now)
  | timeLimit (hstage : run.stage = .timeLimited) :
      SessionCommit run processId (.commitTimeLimit processId) .done
        (flushStatus .down run.now run.loaded) (timeLimitResult run.task run.monitorId run.now)

/-- The steps by what they do: a process is started or goes on, the broker takes or refuses an item,
or a transaction commits. -/
inductive Transition (settings : Settings) (system : System) : Action → System → Prop
  | started {action : Action} (process : Process)
      (hentered : Entered settings system action process) :
      Transition settings system action (system.start process)
  | resumed {action : Action} (processId : ℕ) (before process : Process)
      (hbefore : system.processes.get processId = some before)
      (hentered : Entered settings system action process) :
      Transition settings system action (system.resume processId process)
  | handed (processId : ℕ) (run : SweepRun) (item : ℕ × ℤ) (rest : List (ℕ × ℤ))
      (hbefore : system.processes.get processId = some (.sweep run))
      (hstage : run.stage = .dispatching (item :: rest)) :
      Transition settings system (.enqueue processId true)
        { system.resume processId (.sweep { run with stage := .dispatching rest }) with
          dispatches := (run.schedule, item.1, run.now) :: system.dispatches }
  | refused (processId : ℕ) (run : SweepRun) (item : ℕ × ℤ) (rest : List (ℕ × ℤ))
      (hbefore : system.processes.get processId = some (.sweep run))
      (hstage : run.stage = .dispatching (item :: rest)) :
      Transition settings system (.enqueue processId false)
        (system.resume processId (.sweep { run with stage := .recovering (item :: rest) }))
  | claimed (processId : ℕ) (run : SweepRun) (batch : List (ℕ × Monitor))
      (hbefore : system.processes.get processId = some (.sweep run))
      (hstage : run.stage = .selected batch) :
      Transition settings system (.commitClaim processId)
        (((system.resume processId (.sweep
            { run with stage := .dispatching (batchItems run.schedule batch) })).withMonitors
          (writeClaims run.schedule run.now (batchItems run.schedule batch)
            system.database.monitors)).record
          ((batchItems run.schedule batch).map fun item ↦
            ⟨run.schedule, item.1, .claim processId run.now item.2⟩))
  | recovered (processId : ℕ) (run : SweepRun) (items : List (ℕ × ℤ))
      (hbefore : system.processes.get processId = some (.sweep run))
      (hstage : run.stage = .recovering items)
      (hunlocked : ∀ item ∈ items, system.isLocked item.1 = false) :
      Transition settings system (.recoverItems processId true)
        (((system.resume processId run.endPhase).withMonitors
          (recover run.schedule run.now (items.map Prod.fst) system.database.monitors)).record
          ((items.filter fun item ↦ (system.monitor item.1).isSome).map fun item ↦
            ⟨run.schedule, item.1, .recovery processId run.now⟩))
  | inserted (processId : ℕ) (row : NewRow) (skipped : ℕ)
      (hbefore : system.processes.get processId = some (.create row.payload)) :
      Transition settings system (.insertMonitor processId row.now skipped)
        ((system.resume processId
          (.inserted (system.database.monitors.nextKey + skipped) row)).withMonitors
            (system.database.monitors.skip skipped).reserve)
  | created (processId monitorId : ℕ) (row : NewRow)
      (hbefore : system.processes.get processId = some (.inserted monitorId row))
      (hreserved : monitorId ∈ system.database.monitors.reserved) :
      Transition settings system (.commitCreate processId)
        (((system.resume processId .done).withMonitors
          (system.database.monitors.store monitorId row.monitor)).record
          [⟨.health, monitorId, .request row.monitor.nextCheckAt⟩,
            ⟨.keepAlive, monitorId, .request row.monitor.nextKeepAliveAt⟩])
  | updated (processId monitorId : ℕ) (payload : MonitorUpdate) (loaded stored monitor : Monitor)
      (now : ℤ) (hbefore : system.processes.get processId = some (.update monitorId payload loaded))
      (hstored : system.monitor monitorId = some stored)
      (hunlocked : system.isLocked monitorId = false)
      (hcommit : Api.commitUpdate payload now loaded stored = .ok monitor) :
      Transition settings system (.commitUpdate processId now)
        (((system.resume processId .done).withMonitors
          (system.database.monitors.modify monitorId fun _ ↦ monitor)).record
          (updateWrites monitorId payload now loaded))
  | deleted (processId monitorId : ℕ)
      (hbefore : system.processes.get processId = some (.delete monitorId))
      (hunlocked : system.isLocked monitorId = false) :
      Transition settings system (.commitDelete processId)
        { system.resume processId .done with database := system.database.deleteMonitor monitorId }
  | probed {action : Action} (processId : ℕ) (run : ProbeRun) (after : Process)
      (rewrite : Monitor → Monitor) (result : PingResult) (stored : Monitor)
      (hbefore : system.processes.get processId = some (.probe run))
      (hcommit : SessionCommit run processId action after rewrite result)
      (hstored : system.monitor run.monitorId = some stored)
      (hunlocked : system.isLocked run.monitorId = false) :
      Transition settings system action
        { system.resume processId after with
          database :=
            { monitors := system.database.monitors.modify run.monitorId rewrite
              pingResults := system.database.pingResults.insert result } }

/-- After a phase a sweep holds nothing. -/
theorem entered_endPhase (settings : Settings) (system : System) (action : Action)
    (run : SweepRun) : Entered settings system action run.endPhase := by
  unfold SweepRun.endPhase
  split <;> exact trivial

/-- The commit of a session of a probe task. -/
theorem transition_of_commitSession {settings : Settings} {system next : System} {processId : ℕ}
    {run : ProbeRun} {after : Process} {rewrite : Monitor → Monitor} {result : PingResult}
    {action : Action} (hbefore : system.processes.get processId = some (.probe run))
    (hcommit : SessionCommit run processId action after rewrite result)
    (hstep : commitSession system processId after rewrite result = some next) :
    Transition settings system action next := by
  have hmonitorId : result.monitorId = run.monitorId := by cases hcommit <;> rfl
  unfold commitSession commitResult at hstep
  rw [hmonitorId] at hstep
  split_ifs at hstep with hlocked
  cases hstored : system.database.monitors.get run.monitorId with
  | none =>
    rw [hstored] at hstep
    obtain rfl := Option.some.inj hstep
    exact .resumed _ _ _ hbefore trivial
  | some stored =>
    rw [hstored] at hstep
    obtain rfl := Option.some.inj hstep
    exact .probed _ _ _ _ _ stored hbefore hcommit hstored (Bool.eq_false_iff.mpr hlocked)

/-! ### Processes after a step -/

/-- The processes after a start: the new one, and the others. -/
theorem of_get_start {system : System} {process other : Process} {processId : ℕ}
    (hget : (system.start process).processes.get processId = some other) :
    (processId = system.processes.nextKey ∧ other = process) ∨
      (processId ≠ system.processes.nextKey ∧
        system.processes.get processId = some other) := by
  unfold System.start at hget
  rw [Table.get_insert] at hget
  split_ifs at hget with heq
  · exact Or.inl ⟨heq, (Option.some.inj hget).symm⟩
  · exact Or.inr ⟨heq, hget⟩

/-- The processes after one went on: that one, and the others. -/
theorem of_get_modify {system : System} {process other : Process} {processId otherId : ℕ}
    (hget : (system.processes.modify processId fun _ ↦ process).get otherId = some other) :
    (otherId = processId ∧ other = process) ∨
      (otherId ≠ processId ∧ system.processes.get otherId = some other) := by
  rw [Table.get_modify] at hget
  split_ifs at hget with heq
  · obtain ⟨_, -, rfl⟩ := Option.map_eq_some_iff.mp hget
    exact Or.inl ⟨heq, rfl⟩
  · exact Or.inr ⟨heq, hget⟩

/-- A process after a step is as it was, has entered a state without a commit, is a sweep, which has
items to reset only if the broker has just failed, has just committed, or has just inserted a row.
-/
theorem process_of_transition {settings : Settings} {system next : System} {action : Action}
    (htransition : Transition settings system action next) {processId : ℕ} {process : Process}
    (hget : next.processes.get processId = some process) :
    system.processes.get processId = some process ∨ Entered settings system action process ∨
      (∃ run, process = .sweep run ∧ ∀ items, run.stage = .recovering items →
        action = .enqueue processId false) ∨
      (∃ run, system.processes.get processId = some (.probe run) ∧
        process = .probe { run with stage := .committed }) ∨
      ∃ row skipped, process = .inserted (system.database.monitors.nextKey + skipped) row ∧
        action = .insertMonitor processId row.now skipped ∧
          system.processes.get processId = some (.create row.payload) ∧
            system.database.monitors.nextKey + skipped ∈ next.database.monitors.reserved := by
  cases htransition with
  | started entered hentered =>
    rcases of_get_start hget with ⟨-, rfl⟩ | ⟨-, hbefore⟩
    · exact Or.inr (Or.inl hentered)
    · exact Or.inl hbefore
  | probed actingId run after rewrite result stored hbefore hcommit hstored hunlocked =>
    rcases of_get_modify hget with ⟨rfl, rfl⟩ | ⟨-, hsame⟩
    · cases hcommit with
      | probe dto hstage => exact Or.inr (Or.inr (Or.inr (Or.inl ⟨run, hbefore, rfl⟩)))
      | timeLimit hstage => exact Or.inr (Or.inl trivial)
    · exact Or.inl hsame
  | resumed actingId before entered hbefore hentered =>
    rcases of_get_modify hget with ⟨-, rfl⟩ | ⟨-, hsame⟩
    · exact Or.inr (Or.inl hentered)
    · exact Or.inl hsame
  | recovered actingId run items hbefore hstage hunlocked =>
    rcases of_get_modify hget with ⟨-, rfl⟩ | ⟨-, hsame⟩
    · exact Or.inr (Or.inl (entered_endPhase settings system _ run))
    · exact Or.inl hsame
  | handed actingId run item rest hbefore hstage =>
    rcases of_get_modify hget with ⟨-, rfl⟩ | ⟨-, hsame⟩
    · exact Or.inr (Or.inr (Or.inl ⟨_, rfl, nofun⟩))
    · exact Or.inl hsame
  | refused actingId run item rest hbefore hstage =>
    rcases of_get_modify hget with ⟨rfl, rfl⟩ | ⟨-, hsame⟩
    · exact Or.inr (Or.inr (Or.inl ⟨_, rfl, fun _ _ ↦ rfl⟩))
    · exact Or.inl hsame
  | claimed actingId run batch hbefore hstage =>
    rcases of_get_modify hget with ⟨-, rfl⟩ | ⟨-, hsame⟩
    · exact Or.inr (Or.inr (Or.inl ⟨_, rfl, nofun⟩))
    · exact Or.inl hsame
  | inserted actingId row skipped hbefore =>
    rcases of_get_modify hget with ⟨rfl, rfl⟩ | ⟨-, hsame⟩
    · exact Or.inr (Or.inr (Or.inr (Or.inr
        ⟨row, skipped, rfl, rfl, hbefore, List.mem_cons_self⟩)))
    · exact Or.inl hsame
  | created actingId monitorId row hbefore hreserved =>
    rcases of_get_modify hget with ⟨-, rfl⟩ | ⟨-, hsame⟩
    · exact Or.inr (Or.inl trivial)
    · exact Or.inl hsame
  | updated actingId monitorId payload loaded stored monitor now hbefore hstored hunlocked
      hcommit =>
    rcases of_get_modify hget with ⟨-, rfl⟩ | ⟨-, hsame⟩
    · exact Or.inr (Or.inl trivial)
    · exact Or.inl hsame
  | deleted actingId monitorId hbefore hunlocked =>
    rcases of_get_modify hget with ⟨-, rfl⟩ | ⟨-, hsame⟩
    · exact Or.inr (Or.inl trivial)
    · exact Or.inl hsame

/-! ### Requests and tasks in progress -/

section InProgress

variable {settings : Settings} {system next : System} {action : Action} {processId monitorId : ℕ}

/-- A creation that has counted the rows after a step has done so before it, or has just done so. -/
theorem create_of_transition (htransition : Transition settings system action next)
    {payload : MonitorCreate} (hget : next.processes.get processId = some (.create payload)) :
    system.processes.get processId = some (.create payload) ∨
      Entered settings system action (.create payload) := by
  rcases process_of_transition htransition hget with hsame | hentered | ⟨_, heq, -⟩ |
    ⟨_, -, heq⟩ | ⟨_, _, heq, -⟩
  · exact Or.inl hsame
  · exact Or.inr hentered
  · exact Process.noConfusion heq
  · exact Process.noConfusion heq
  · exact Process.noConfusion heq

/-- A creation that has inserted its row after a step has done so before it, or has just done so. -/
theorem inserted_of_transition (htransition : Transition settings system action next)
    {row : NewRow} (hget : next.processes.get processId = some (.inserted monitorId row)) :
    system.processes.get processId = some (.inserted monitorId row) ∨
      ∃ skipped, monitorId = system.database.monitors.nextKey + skipped ∧
        action = .insertMonitor processId row.now skipped ∧
          system.processes.get processId = some (.create row.payload) ∧
            monitorId ∈ next.database.monitors.reserved := by
  rcases process_of_transition htransition hget with hsame | hentered | ⟨_, heq, -⟩ |
    ⟨_, -, heq⟩ | ⟨_, skipped, heq, haction, hbefore, hreserved⟩
  · exact Or.inl hsame
  · exact hentered.elim
  · exact Process.noConfusion heq
  · exact Process.noConfusion heq
  · obtain ⟨rfl, rfl⟩ := Process.inserted.inj heq
    exact Or.inr ⟨skipped, rfl, haction, hbefore, hreserved⟩

/-- A probe task that runs after a step ran before it, or has just loaded its monitor. -/
theorem probe_of_transition (htransition : Transition settings system action next)
    {run : ProbeRun} (hget : next.processes.get processId = some (.probe run)) :
    (∃ before, system.processes.get processId = some (.probe before) ∧
      before.monitorId = run.monitorId ∧ before.loaded = run.loaded) ∨
      system.monitor run.monitorId = some run.loaded := by
  rcases process_of_transition htransition hget with hsame | hentered | ⟨_, heq, -⟩ |
    ⟨before, hbefore, heq⟩ | ⟨_, _, heq, -⟩
  · exact Or.inl ⟨run, hsame, rfl, rfl⟩
  · exact Or.inr hentered
  · exact Process.noConfusion heq
  · obtain rfl := Process.probe.inj heq
    exact Or.inl ⟨before, hbefore, rfl, rfl⟩
  · exact Process.noConfusion heq

/-- An update that is in progress after a step was so before it, or has just loaded its row. -/
theorem update_of_transition (htransition : Transition settings system action next)
    {payload : MonitorUpdate} {loaded : Monitor}
    (hget : next.processes.get processId = some (.update monitorId payload loaded)) :
    system.processes.get processId = some (.update monitorId payload loaded) ∨
      (action = .loadUpdate monitorId payload ∧ system.monitor monitorId = some loaded ∧
        payload.isAccepted = true) := by
  rcases process_of_transition htransition hget with hsame | hentered | ⟨_, heq, -⟩ |
    ⟨_, -, heq⟩ | ⟨_, _, heq, -⟩
  · exact Or.inl hsame
  · exact Or.inr hentered
  · exact Process.noConfusion heq
  · exact Process.noConfusion heq
  · exact Process.noConfusion heq

end InProgress

/-- The payloads that processes hold were accepted. -/
structure PayloadsAccepted (settings : Settings) (system : System) : Prop where
  creates : ∀ processId payload, system.processes.get processId = some (.create payload) →
    payload.isAccepted settings.tables = true
  inserts : ∀ processId monitorId row,
    system.processes.get processId = some (.inserted monitorId row) →
      row.payload.isAccepted settings.tables = true
  updates : ∀ processId monitorId payload loaded,
    system.processes.get processId = some (.update monitorId payload loaded) →
      payload.isAccepted = true

/-- Nothing is held where nothing runs. -/
theorem PayloadsAccepted.idle (settings : Settings) (database : Database) :
    PayloadsAccepted settings (System.idle database) where
  creates := fun _ _ hget ↦ nomatch hget
  inserts := fun _ _ _ hget ↦ nomatch hget
  updates := fun _ _ _ _ hget ↦ nomatch hget

/-- A payload is checked before a process holds it. -/
theorem PayloadsAccepted.step {settings : Settings} {system next : System} {action : Action}
    (haccepted : PayloadsAccepted settings system)
    (htransition : Transition settings system action next) : PayloadsAccepted settings next := by
  refine ⟨?_, ?_, ?_⟩
  · intro processId payload hget
    rcases create_of_transition htransition hget with hsame | ⟨haccepts, -⟩
    · exact haccepted.creates processId payload hsame
    · exact haccepts
  · intro processId monitorId row hget
    rcases inserted_of_transition htransition hget with hsame | ⟨_, -, -, hcreating, -⟩
    · exact haccepted.inserts processId monitorId row hsame
    · exact haccepted.creates processId row.payload hcreating
  · intro processId monitorId payload loaded hget
    rcases update_of_transition htransition hget with hsame | ⟨-, -, haccepts⟩
    · exact haccepted.updates processId monitorId payload loaded hsame
    · exact haccepts

/-! ### The functions -/

section Functions

variable {settings : Settings} {system next : System}

theorem transition_of_select {processId : ℕ} {monitorIds : List ℕ}
    (hstep : select system processId monitorIds = some next) :
    Transition settings system (.select processId monitorIds) next := by
  unfold select at hstep
  split at hstep
  · rename_i run hbefore
    split at hstep
    · rename_i hstage
      split_ifs at hstep with hnil hguard
      · obtain rfl := Option.some.inj hstep
        exact .resumed _ _ _ hbefore (entered_endPhase settings system _ run)
      · obtain rfl := Option.some.inj hstep
        exact .resumed _ _ _ hbefore ⟨monitorIds, rfl, hguard.2.1, hguard.2.2.2⟩
    · nomatch hstep
  · nomatch hstep

theorem transition_of_commitClaim {processId : ℕ}
    (hstep : commitClaim system processId = some next) :
    Transition settings system (.commitClaim processId) next := by
  unfold commitClaim at hstep
  split at hstep
  · rename_i run hbefore
    split at hstep
    · rename_i batch hstage
      obtain rfl := Option.some.inj hstep
      exact .claimed _ _ _ hbefore hstage
    · nomatch hstep
  · nomatch hstep

theorem transition_of_enqueue {processId : ℕ} {accepted : Bool}
    (hstep : enqueue system processId accepted = some next) :
    Transition settings system (.enqueue processId accepted) next := by
  unfold enqueue at hstep
  split at hstep
  · rename_i run hbefore
    split at hstep
    · rename_i item rest hstage
      split_ifs at hstep with haccepted
      · obtain rfl := Option.some.inj hstep
        rw [haccepted]
        exact .handed _ _ _ _ hbefore hstage
      · obtain rfl := Option.some.inj hstep
        rw [Bool.eq_false_iff.mpr haccepted]
        exact .refused _ _ _ _ hbefore hstage
    · nomatch hstep
  · nomatch hstep

theorem transition_of_endBatch {processId : ℕ} (hstep : endBatch system processId = some next) :
    Transition settings system (.endBatch processId) next := by
  unfold endBatch at hstep
  split at hstep
  · rename_i run hbefore
    split at hstep
    · obtain rfl := Option.some.inj hstep
      exact .resumed _ _ _ hbefore trivial
    · nomatch hstep
  · nomatch hstep

theorem transition_of_recoverItems {processId : ℕ} {succeeds : Bool}
    (hstep : recoverItems system processId succeeds = some next) :
    Transition settings system (.recoverItems processId succeeds) next := by
  unfold recoverItems at hstep
  split at hstep
  · rename_i run hbefore
    split at hstep
    · rename_i items hstage
      split_ifs at hstep with hsucceeds hunlocked
      · obtain rfl := Option.some.inj hstep
        rw [hsucceeds]
        exact .recovered _ _ _ hbefore hstage hunlocked
      · obtain rfl := Option.some.inj hstep
        exact .resumed _ _ _ hbefore (entered_endPhase settings system _ run)
    · nomatch hstep
  · nomatch hstep

theorem transition_of_countMonitors {payload : MonitorCreate}
    (hstep : countMonitors settings system payload = some next) :
    Transition settings system (.countMonitors payload) next := by
  unfold countMonitors at hstep
  split_ifs at hstep with hguard
  obtain rfl := Option.some.inj hstep
  exact .started _ hguard

theorem transition_of_insertMonitor {processId skipped : ℕ} {now : ℤ}
    (hstep : insertMonitor system processId now skipped = some next) :
    Transition settings system (.insertMonitor processId now skipped) next := by
  unfold insertMonitor at hstep
  split at hstep
  · rename_i payload hbefore
    split_ifs at hstep with hfits
    · obtain rfl := Option.some.inj hstep
      exact .inserted processId ⟨payload, now, hfits⟩ skipped hbefore
    · obtain rfl := Option.some.inj hstep
      exact .resumed _ _ _ hbefore trivial
  · nomatch hstep

theorem transition_of_commitCreate {processId : ℕ}
    (hstep : commitCreate system processId = some next) :
    Transition settings system (.commitCreate processId) next := by
  unfold commitCreate at hstep
  split at hstep
  · rename_i monitorId row hbefore
    split_ifs at hstep with hreserved
    · obtain rfl := Option.some.inj hstep
      exact .created _ _ _ hbefore hreserved
    · obtain rfl := Option.some.inj hstep
      exact .resumed _ _ _ hbefore trivial
  · nomatch hstep

theorem transition_of_loadUpdate {monitorId : ℕ} {payload : MonitorUpdate}
    (hstep : loadUpdate system monitorId payload = some next) :
    Transition settings system (.loadUpdate monitorId payload) next := by
  unfold loadUpdate at hstep
  split at hstep
  · nomatch hstep
  · rename_i loaded hloaded
    split_ifs at hstep with haccepted
    obtain rfl := Option.some.inj hstep
    exact .started _ ⟨rfl, hloaded, haccepted⟩

theorem transition_of_commitUpdate {processId : ℕ} {now : ℤ}
    (hstep : commitUpdate system processId now = some next) :
    Transition settings system (.commitUpdate processId now) next := by
  unfold commitUpdate at hstep
  split at hstep
  · rename_i monitorId payload loaded hbefore
    split at hstep
    · obtain rfl := Option.some.inj hstep
      exact .resumed _ _ _ hbefore trivial
    · rename_i stored hstored
      split_ifs at hstep with hlocked
      split at hstep
      · obtain rfl := Option.some.inj hstep
        exact .resumed _ _ _ hbefore trivial
      · rename_i monitor hcommit
        obtain rfl := Option.some.inj hstep
        exact .updated _ _ _ _ stored monitor _ hbefore hstored (Bool.eq_false_iff.mpr hlocked)
          hcommit
  · nomatch hstep

theorem transition_of_loadDelete {monitorId : ℕ} (hstep : loadDelete system monitorId = some next) :
    Transition settings system (.loadDelete monitorId) next := by
  unfold loadDelete at hstep
  split at hstep
  · nomatch hstep
  · obtain rfl := Option.some.inj hstep
    exact .started _ trivial

theorem transition_of_commitDelete {processId : ℕ}
    (hstep : commitDelete system processId = some next) :
    Transition settings system (.commitDelete processId) next := by
  unfold commitDelete at hstep
  split at hstep
  · rename_i monitorId hbefore
    split_ifs at hstep with hlocked
    obtain rfl := Option.some.inj hstep
    exact .deleted _ _ hbefore (Bool.eq_false_iff.mpr hlocked)
  · nomatch hstep

theorem transition_of_loadProbe {task : Task} {monitorId : ℕ} {now : ℤ}
    (hstep : loadProbe system task monitorId now = some next) :
    Transition settings system (.loadProbe task monitorId now) next := by
  unfold loadProbe at hstep
  split at hstep
  · nomatch hstep
  · rename_i loaded hloaded
    split_ifs at hstep with hguard
    obtain rfl := Option.some.inj hstep
    exact .started _ hloaded

theorem transition_of_commitProbe {processId : ℕ} {dto : PingResultDTO}
    (hstep : commitProbe system processId dto = some next) :
    Transition settings system (.commitProbe processId dto) next := by
  unfold commitProbe at hstep
  split at hstep
  · rename_i run hbefore
    split_ifs at hstep with hstage
    exact transition_of_commitSession hbefore (.probe dto hstage) hstep
  · nomatch hstep

theorem transition_of_timeLimit {processId : ℕ} {now : ℤ}
    (hstep : timeLimit system processId now = some next) :
    Transition settings system (.timeLimit processId now) next := by
  unfold timeLimit at hstep
  split at hstep
  · rename_i run hbefore
    split_ifs at hstep with hstage
    split at hstep
    · obtain rfl := Option.some.inj hstep
      exact .resumed _ _ _ hbefore trivial
    · rename_i loaded hloaded
      obtain rfl := Option.some.inj hstep
      exact .resumed _ _ _ hbefore hloaded
  · nomatch hstep

theorem transition_of_commitTimeLimit {processId : ℕ}
    (hstep : commitTimeLimit system processId = some next) :
    Transition settings system (.commitTimeLimit processId) next := by
  unfold commitTimeLimit at hstep
  split at hstep
  · rename_i run hbefore
    split_ifs at hstep with hstage
    exact transition_of_commitSession hbefore (.timeLimit hstage) hstep
  · nomatch hstep

/-- Every step is one of these. -/
theorem transition_of_step {action : Action} (hstep : step settings system action = some next) :
    Transition settings system action next := by
  cases action with
  | startSweep now batchSize maxBatches =>
    obtain rfl := Option.some.inj hstep
    exact .started _ trivial
  | select processId monitorIds => exact transition_of_select hstep
  | commitClaim processId => exact transition_of_commitClaim hstep
  | enqueue processId accepted => exact transition_of_enqueue hstep
  | endBatch processId => exact transition_of_endBatch hstep
  | recoverItems processId succeeds => exact transition_of_recoverItems hstep
  | countMonitors payload => exact transition_of_countMonitors hstep
  | insertMonitor processId now skipped => exact transition_of_insertMonitor hstep
  | commitCreate processId => exact transition_of_commitCreate hstep
  | loadUpdate monitorId payload => exact transition_of_loadUpdate hstep
  | commitUpdate processId now => exact transition_of_commitUpdate hstep
  | loadDelete monitorId => exact transition_of_loadDelete hstep
  | commitDelete processId => exact transition_of_commitDelete hstep
  | loadProbe task monitorId now => exact transition_of_loadProbe hstep
  | commitProbe processId dto => exact transition_of_commitProbe hstep
  | timeLimit processId now => exact transition_of_timeLimit hstep
  | commitTimeLimit processId => exact transition_of_commitTimeLimit hstep
  | abandon processId =>
    obtain ⟨before, hbefore, rfl⟩ := Option.map_eq_some_iff.mp hstep
    exact .resumed _ _ _ hbefore trivial

end Functions

end PingGuard.Concurrent
