import PingGuard.Concurrent.Steps

/-!
# How processes advance

`Advance` says what a step is for the process that makes it: what it was and what it becomes, and
what it hands to the broker and what it records. Where `Transition` follows the database, this
follows the processes. `advances_of_step` covers every step with which a process goes on, and
`start_of_step` the steps with which one starts.
-/

set_option autoImplicit false
set_option relaxedAutoImplicit false

namespace PingGuard.Concurrent

open Library.SerialTable Models Net ProbeTask Schemas Sweep

variable {settings : Settings} {system next : System} {action : Action}

/-! ### The advances -/

/-- The steps with which a process goes on that was started before. -/
def Action.goesOn : Action → Bool
  | .startSweep .. | .countMonitors _ | .loadUpdate .. | .loadDelete _ | .loadProbe .. |
    .abandon _ => false
  | _ => true

/-- What a process was and becomes, what it hands to the broker, and what it records. -/
inductive Advance (system : System) (processId : ℕ) :
    Action → Process → Process → List (Schedule × ℕ × ℤ) → List ScheduleWrite → Prop
  | phaseEnded (run : SweepRun) (hstage : run.stage = .ready) :
      Advance system processId (.select processId []) (.sweep run) run.endPhase [] []
  | selected (run : SweepRun) (monitorIds : List ℕ) (hstage : run.stage = .ready)
      (hleft : run.batchesLeft ≠ 0) (hlength : monitorIds.length ≤ run.batchSize) :
      Advance system processId (.select processId monitorIds) (.sweep run)
        (.sweep { run with stage := .selected (readRows system.database.monitors monitorIds) })
        [] []
  | claimed (run : SweepRun) (batch : List (ℕ × Monitor)) (hstage : run.stage = .selected batch) :
      Advance system processId (.commitClaim processId) (.sweep run)
        (.sweep { run with stage := .dispatching (batchItems run.schedule batch) }) []
        ((batchItems run.schedule batch).map fun item ↦
          ⟨run.schedule, item.1, .claim processId run.now item.2⟩)
  | handed (run : SweepRun) (item : ℕ × ℤ) (rest : List (ℕ × ℤ))
      (hstage : run.stage = .dispatching (item :: rest)) :
      Advance system processId (.enqueue processId true) (.sweep run)
        (.sweep { run with stage := .dispatching rest }) [(run.schedule, item.1, run.now)] []
  | refused (run : SweepRun) (item : ℕ × ℤ) (rest : List (ℕ × ℤ))
      (hstage : run.stage = .dispatching (item :: rest)) :
      Advance system processId (.enqueue processId false) (.sweep run)
        (.sweep { run with stage := .recovering (item :: rest) }) [] []
  | batchEnded (run : SweepRun) (hstage : run.stage = .dispatching []) :
      Advance system processId (.endBatch processId) (.sweep run)
        (.sweep { run with batchesLeft := run.batchesLeft - 1, stage := .ready }) [] []
  | recovered (run : SweepRun) (items : List (ℕ × ℤ)) (hstage : run.stage = .recovering items) :
      Advance system processId (.recoverItems processId true) (.sweep run) run.endPhase []
        ((items.filter fun item ↦ (system.monitor item.1).isSome).map fun item ↦
          ⟨run.schedule, item.1, .recovery processId run.now⟩)
  | notRecovered (run : SweepRun) (items : List (ℕ × ℤ)) (hstage : run.stage = .recovering items) :
      Advance system processId (.recoverItems processId false) (.sweep run) run.endPhase [] []
  | inserted (row : NewRow) (skipped : ℕ) :
      Advance system processId (.insertMonitor processId row.now skipped) (.create row.payload)
        (.inserted (system.database.monitors.nextKey + skipped) row) [] []
  | notInserted (payload : MonitorCreate) (now : ℤ) (skipped : ℕ) :
      Advance system processId (.insertMonitor processId now skipped) (.create payload) .done
        [] []
  | created (monitorId : ℕ) (row : NewRow)
      (hreserved : monitorId ∈ system.database.monitors.reserved) :
      Advance system processId (.commitCreate processId) (.inserted monitorId row) .done []
        [⟨.health, monitorId, .request row.monitor.nextCheckAt⟩,
          ⟨.keepAlive, monitorId, .request row.monitor.nextKeepAliveAt⟩]
  | notCreated (monitorId : ℕ) (row : NewRow) :
      Advance system processId (.commitCreate processId) (.inserted monitorId row) .done [] []
  | updated (monitorId : ℕ) (payload : MonitorUpdate) (loaded : Monitor) (now : ℤ) :
      Advance system processId (.commitUpdate processId now) (.update monitorId payload loaded)
        .done [] (updateWrites monitorId payload now loaded)
  | notUpdated (monitorId : ℕ) (payload : MonitorUpdate) (loaded : Monitor) (now : ℤ) :
      Advance system processId (.commitUpdate processId now) (.update monitorId payload loaded)
        .done [] []
  | deleted (monitorId : ℕ) :
      Advance system processId (.commitDelete processId) (.delete monitorId) .done [] []
  | probed (run : ProbeRun) (dto : PingResultDTO) (hstage : run.stage = .probing) :
      Advance system processId (.commitProbe processId dto) (.probe run)
        (.probe { run with stage := .committed }) [] []
  | timeLimited (run : ProbeRun) (now : ℤ) (loaded : Monitor) (hstage : run.stage ≠ .timeLimited) :
      Advance system processId (.timeLimit processId now) (.probe run)
        (.probe { run with now := now, loaded := loaded, stage := .timeLimited }) [] []
  | probeEnded {action : Action} (run : ProbeRun) :
      Advance system processId action (.probe run) .done [] []

/-- A process advances, and the others are as they were. -/
def Advances (system : System) (action : Action) (next : System) : Prop :=
  ∃ processId before after handed added,
    system.processes.get processId = some before ∧
      Advance system processId action before after handed added ∧
        next.processes = (system.processes.modify processId fun _ ↦ after) ∧
          next.dispatches = handed ++ system.dispatches ∧ next.writes = added ++ system.writes

/-! ### The functions -/

section Functions

variable {processId : ℕ}

theorem advances_of_select {monitorIds : List ℕ}
    (hstep : select system processId monitorIds = some next) :
    Advances system (.select processId monitorIds) next := by
  unfold select at hstep
  split at hstep
  · rename_i run hbefore
    split at hstep
    · rename_i hstage
      split_ifs at hstep with hnil hguard
      · obtain rfl := Option.some.inj hstep
        subst hnil
        exact ⟨processId, _, _, _, _, hbefore, .phaseEnded run hstage, rfl, rfl, rfl⟩
      · obtain rfl := Option.some.inj hstep
        exact ⟨processId, _, _, _, _, hbefore,
          .selected run monitorIds hstage hguard.1 hguard.2.2.1, rfl, rfl, rfl⟩
    · nomatch hstep
  · nomatch hstep

theorem advances_of_commitClaim (hstep : commitClaim system processId = some next) :
    Advances system (.commitClaim processId) next := by
  unfold commitClaim at hstep
  split at hstep
  · rename_i run hbefore
    split at hstep
    · rename_i batch hstage
      obtain rfl := Option.some.inj hstep
      exact ⟨processId, _, _, _, _, hbefore, .claimed run batch hstage, rfl, rfl, rfl⟩
    · nomatch hstep
  · nomatch hstep

theorem advances_of_enqueue {accepted : Bool}
    (hstep : enqueue system processId accepted = some next) :
    Advances system (.enqueue processId accepted) next := by
  unfold enqueue at hstep
  split at hstep
  · rename_i run hbefore
    split at hstep
    · rename_i item rest hstage
      cases accepted with
      | true =>
        obtain rfl := Option.some.inj hstep
        exact ⟨processId, _, _, _, _, hbefore, .handed run item rest hstage, rfl, rfl, rfl⟩
      | false =>
        obtain rfl := Option.some.inj hstep
        exact ⟨processId, _, _, _, _, hbefore, .refused run item rest hstage, rfl, rfl, rfl⟩
    · nomatch hstep
  · nomatch hstep

theorem advances_of_endBatch (hstep : endBatch system processId = some next) :
    Advances system (.endBatch processId) next := by
  unfold endBatch at hstep
  split at hstep
  · rename_i run hbefore
    split at hstep
    · rename_i hstage
      obtain rfl := Option.some.inj hstep
      exact ⟨processId, _, _, _, _, hbefore, .batchEnded run hstage, rfl, rfl, rfl⟩
    · nomatch hstep
  · nomatch hstep

theorem advances_of_recoverItems {succeeds : Bool}
    (hstep : recoverItems system processId succeeds = some next) :
    Advances system (.recoverItems processId succeeds) next := by
  unfold recoverItems at hstep
  split at hstep
  · rename_i run hbefore
    split at hstep
    · rename_i items hstage
      cases succeeds with
      | true =>
        rw [if_neg (not_not_intro rfl)] at hstep
        split_ifs at hstep
        obtain rfl := Option.some.inj hstep
        exact ⟨processId, _, _, _, _, hbefore, .recovered run items hstage, rfl, rfl, rfl⟩
      | false =>
        obtain rfl := Option.some.inj hstep
        exact ⟨processId, _, _, _, _, hbefore, .notRecovered run items hstage, rfl, rfl, rfl⟩
    · nomatch hstep
  · nomatch hstep

theorem advances_of_insertMonitor {now : ℤ} {skipped : ℕ}
    (hstep : insertMonitor system processId now skipped = some next) :
    Advances system (.insertMonitor processId now skipped) next := by
  unfold insertMonitor at hstep
  split at hstep
  · rename_i payload hbefore
    split_ifs at hstep with hfits
    · obtain rfl := Option.some.inj hstep
      exact ⟨processId, _, _, _, _, hbefore, .inserted ⟨payload, now, hfits⟩ skipped, rfl, rfl,
        rfl⟩
    · obtain rfl := Option.some.inj hstep
      exact ⟨processId, _, _, _, _, hbefore, .notInserted payload now skipped, rfl, rfl, rfl⟩
  · exact absurd hstep.symm (Option.some_ne_none next)

theorem advances_of_commitCreate (hstep : commitCreate system processId = some next) :
    Advances system (.commitCreate processId) next := by
  unfold commitCreate at hstep
  split at hstep
  · rename_i monitorId row hbefore
    split_ifs at hstep with hreserved
    · obtain rfl := Option.some.inj hstep
      exact ⟨processId, _, _, _, _, hbefore, .created monitorId row hreserved, rfl, rfl, rfl⟩
    · obtain rfl := Option.some.inj hstep
      exact ⟨processId, _, _, _, _, hbefore, .notCreated monitorId row, rfl, rfl, rfl⟩
  · nomatch hstep

theorem advances_of_commitUpdate {now : ℤ}
    (hstep : commitUpdate system processId now = some next) :
    Advances system (.commitUpdate processId now) next := by
  unfold commitUpdate at hstep
  split at hstep
  · rename_i monitorId payload loaded hbefore
    have hrefused : Advance system processId (.commitUpdate processId now)
        (.update monitorId payload loaded) .done [] [] := .notUpdated monitorId payload loaded now
    split at hstep
    · obtain rfl := Option.some.inj hstep
      exact ⟨processId, _, _, _, _, hbefore, hrefused, rfl, rfl, rfl⟩
    · split_ifs at hstep
      split at hstep
      · obtain rfl := Option.some.inj hstep
        exact ⟨processId, _, _, _, _, hbefore, hrefused, rfl, rfl, rfl⟩
      · obtain rfl := Option.some.inj hstep
        exact ⟨processId, _, _, _, _, hbefore, .updated monitorId payload loaded now, rfl, rfl, rfl⟩
  · nomatch hstep

theorem advances_of_commitDelete (hstep : commitDelete system processId = some next) :
    Advances system (.commitDelete processId) next := by
  unfold commitDelete at hstep
  split at hstep
  · rename_i monitorId hbefore
    split_ifs at hstep
    obtain rfl := Option.some.inj hstep
    exact ⟨processId, _, _, _, _, hbefore, .deleted monitorId, rfl, rfl, rfl⟩
  · nomatch hstep

/-- A session ends the task, or the task goes on with what comes after the session. -/
theorem advances_of_commitSession {run : ProbeRun} {after : Process}
    {rewrite : Monitor → Monitor} {result : PingResult}
    (hbefore : system.processes.get processId = some (.probe run))
    (hafter : Advance system processId action (.probe run) after [] [])
    (hstep : commitSession system processId after rewrite result = some next) :
    Advances system action next := by
  unfold commitSession at hstep
  split_ifs at hstep
  split at hstep
  · obtain rfl := Option.some.inj hstep
    exact ⟨processId, _, _, _, _, hbefore, .probeEnded run, rfl, rfl, rfl⟩
  · obtain rfl := Option.some.inj hstep
    exact ⟨processId, _, _, _, _, hbefore, hafter, rfl, rfl, rfl⟩

theorem advances_of_commitProbe {dto : PingResultDTO}
    (hstep : commitProbe system processId dto = some next) :
    Advances system (.commitProbe processId dto) next := by
  unfold commitProbe at hstep
  split at hstep
  · rename_i run hbefore
    split_ifs at hstep with hstage
    exact advances_of_commitSession hbefore (.probed run dto hstage) hstep
  · nomatch hstep

theorem advances_of_timeLimit {now : ℤ} (hstep : timeLimit system processId now = some next) :
    Advances system (.timeLimit processId now) next := by
  unfold timeLimit at hstep
  split at hstep
  · rename_i run hbefore
    split_ifs at hstep with hstage
    split at hstep
    · obtain rfl := Option.some.inj hstep
      exact ⟨processId, _, _, _, _, hbefore, .probeEnded run, rfl, rfl, rfl⟩
    · rename_i loaded _
      obtain rfl := Option.some.inj hstep
      exact ⟨processId, _, _, _, _, hbefore, .timeLimited run now loaded hstage, rfl, rfl, rfl⟩
  · nomatch hstep

theorem advances_of_commitTimeLimit (hstep : commitTimeLimit system processId = some next) :
    Advances system (.commitTimeLimit processId) next := by
  unfold commitTimeLimit at hstep
  split at hstep
  · rename_i run hbefore
    split_ifs at hstep
    exact advances_of_commitSession hbefore (.probeEnded run) hstep
  · nomatch hstep

/-- Every step with which a process goes on is an advance of it. -/
theorem advances_of_step (hgoesOn : action.goesOn = true)
    (hstep : step settings system action = some next) : Advances system action next := by
  cases action with
  | select processId monitorIds => exact advances_of_select hstep
  | commitClaim processId => exact advances_of_commitClaim hstep
  | enqueue processId accepted => exact advances_of_enqueue hstep
  | endBatch processId => exact advances_of_endBatch hstep
  | recoverItems processId succeeds => exact advances_of_recoverItems hstep
  | insertMonitor processId now skipped => exact advances_of_insertMonitor hstep
  | commitCreate processId => exact advances_of_commitCreate hstep
  | commitUpdate processId now => exact advances_of_commitUpdate hstep
  | commitDelete processId => exact advances_of_commitDelete hstep
  | commitProbe processId dto => exact advances_of_commitProbe hstep
  | timeLimit processId now => exact advances_of_timeLimit hstep
  | commitTimeLimit processId => exact advances_of_commitTimeLimit hstep
  | _ => nomatch hgoesOn

/-- A step with which no process goes on starts one, or abandons one. -/
theorem start_of_step (hstarts : action.goesOn = false)
    (hstep : step settings system action = some next) :
    (∃ process, Entered settings system action process ∧ next = system.start process) ∨
      ∃ processId before, action = .abandon processId ∧
        system.processes.get processId = some before ∧ next = system.resume processId .done := by
  cases action with
  | startSweep now batchSize maxBatches =>
    exact Or.inl ⟨.sweep ⟨now, batchSize, maxBatches, .health, maxBatches, .ready⟩, trivial,
      (Option.some.inj hstep).symm⟩
  | countMonitors payload =>
    change countMonitors settings system payload = some next at hstep
    unfold countMonitors at hstep
    split_ifs at hstep with hguard
    exact Or.inl ⟨.create payload, hguard, (Option.some.inj hstep).symm⟩
  | loadUpdate monitorId payload =>
    change loadUpdate system monitorId payload = some next at hstep
    unfold loadUpdate at hstep
    split at hstep
    · nomatch hstep
    · rename_i loaded hloaded
      split_ifs at hstep with haccepted
      exact Or.inl ⟨.update monitorId payload loaded, ⟨rfl, hloaded, haccepted⟩,
        (Option.some.inj hstep).symm⟩
  | loadDelete monitorId =>
    change loadDelete system monitorId = some next at hstep
    unfold loadDelete at hstep
    split at hstep
    · nomatch hstep
    · exact Or.inl ⟨.delete monitorId, trivial, (Option.some.inj hstep).symm⟩
  | loadProbe task monitorId now =>
    change loadProbe system task monitorId now = some next at hstep
    unfold loadProbe at hstep
    split at hstep
    · nomatch hstep
    · rename_i loaded hloaded
      split_ifs at hstep
      exact Or.inl ⟨.probe ⟨task, monitorId, now, loaded, .probing⟩, hloaded,
        (Option.some.inj hstep).symm⟩
  | abandon processId =>
    obtain ⟨before, hbefore, rfl⟩ := Option.map_eq_some_iff.mp hstep
    exact Or.inr ⟨processId, before, rfl, hbefore, rfl⟩
  | _ => nomatch hstarts

end Functions

end PingGuard.Concurrent
