import PingGuard.Concurrent.Rows

/-!
# Concurrent updates

Any number of `update_monitor` requests. A request validates the row that it has loaded together
with its payload, and writes the columns in which the merged row differs from the loaded one.
Another request may have written other columns in the meantime, and what is stored then is a row
that neither has validated.

`UpdateIsSafe` is the condition on the state before a commit under which this does not happen. That
one commit keeps the rules exactly then is `Api.rulesAccept_commitUpdate_iff`. The keep-alive time
needs no condition.
-/

set_option autoImplicit false
set_option relaxedAutoImplicit false

namespace PingGuard.Concurrent

open Library.SerialTable Library.Transition Models ProbeTask Schemas Status Sweep

variable {settings : Settings} {system next : System} {action : Action}

/-- A consistent row: the rules accept its configuration, and it has a keep-alive time exactly when
keep-alive is enabled. -/
structure IsConsistent (monitor : Monitor) : Prop where
  rules : Api.RulesAccept monitor
  timed : Api.KeepAliveTimed monitor

/-- The updates that are committed are safe. Sweeps, checks and other requests may come in between,
but no recovery after a broker failure. -/
def UpdateIsSafe (system : System) (action : Action) : Prop :=
  (∀ processId, action ≠ .recoverItems processId true) ∧
    ∀ processId monitorId payload loaded stored monitor now,
      action = .commitUpdate processId now →
        system.processes.get processId = some (.update monitorId payload loaded) →
          system.monitor monitorId = some stored →
            Api.commitUpdate payload now loaded stored = .ok monitor →
              Api.CommitIsSafe payload loaded stored

/-- What runs of safe updates keep. -/
structure Consistent (settings : Settings) (system : System) : Prop where
  timed : Timed system
  accepted : PayloadsAccepted settings system
  rows : ∀ monitorId monitor, system.monitor monitorId = some monitor → Api.RulesAccept monitor
  loads : ∀ processId monitorId payload loaded,
    system.processes.get processId = some (.update monitorId payload loaded) →
      Api.RulesAccept loaded

/-- Safe updates keep the rows consistent. -/
theorem Consistent.step (hconsistent : Consistent settings system)
    (hallowed : UpdateIsSafe system action) (htransition : Transition settings system action next) :
    Consistent settings next := by
  refine ⟨hconsistent.timed.step htransition ?_, hconsistent.accepted.step htransition, ?_, ?_⟩
  · intro processId run items monitorId interval monitor haction
    exact absurd haction (hallowed.1 processId)
  · intro monitorId monitor hget
    obtain ⟨writers, hrow, -⟩ := rowStep_of_transition hconsistent.timed.locks
      hconsistent.timed.items htransition hget
    cases hrow with
    | kept monitor hstored => exact hconsistent.rows monitorId monitor hstored
    | claimed processId run interval before hbefore hstored hdue hclaim =>
      exact Api.rulesAccept_setNext _ _ (hconsistent.rows monitorId before hstored)
    | recovered processId run items interval before hbefore hstage hitem hstored =>
      exact Api.rulesAccept_setNext _ _ (hconsistent.rows monitorId before hstored)
    | created processId row hbefore hreserved =>
      exact Api.rulesAccept_newMonitor
        (hconsistent.accepted.inserts processId monitorId row hbefore) row.now
    | updated processId payload loaded stored monitor now hbefore hstored hcommit =>
      have hsafe := hallowed.2 processId monitorId payload loaded stored monitor now rfl hbefore
        hstored hcommit
      exact (Api.rulesAccept_commitUpdate_iff
        (hconsistent.loads processId monitorId payload loaded hbefore)
        (hconsistent.rows monitorId stored hstored) hcommit).mpr hsafe
    | probed processId run after rewrite result stored hbefore hcommit hmonitorId hstored
        hresults =>
      obtain ⟨status, lastCheckedAt, heq⟩ := hcommit.rewrite_eq stored
      rw [heq]
      exact hconsistent.rows monitorId stored hstored
  · intro processId monitorId payload loaded hget
    rcases update_of_transition htransition hget with hsame | ⟨-, hloaded, -⟩
    · exact hconsistent.loads processId monitorId payload loaded hsame
    · exact hconsistent.rows monitorId loaded hloaded

/-- In every run whose updates are safe, every stored row is consistent.
Assumes: at the start nothing runs, and every row is consistent. -/
theorem isConsistent_of_reaches {database : Database}
    (hrows : ∀ monitorId monitor, database.monitors.get monitorId = some monitor →
      IsConsistent monitor)
    (hreaches : Reaches (step settings) UpdateIsSafe (System.idle database) system) :
    ∀ monitorId monitor, system.monitor monitorId = some monitor → IsConsistent monitor := by
  have hconsistent : Consistent settings system := by
    refine hreaches.invariant (motive := Consistent settings) ?_ ?_
    · exact ⟨Timed.idle fun monitorId monitor hget ↦ (hrows monitorId monitor hget).timed,
        PayloadsAccepted.idle settings database,
        fun monitorId monitor hget ↦ (hrows monitorId monitor hget).rules,
        fun _ _ _ _ hget ↦ (nomatch hget)⟩
    · intro state label after hconsistent hallowed hstep
      exact hconsistent.step hallowed (transition_of_step hstep)
  exact fun monitorId monitor hget ↦
    ⟨hconsistent.rows monitorId monitor hget, hconsistent.timed.rows monitorId monitor hget⟩

/-- An update that disables keep-alive. -/
def disableKeepAlive : MonitorUpdate :=
  ⟨.omitted, .omitted, .omitted, .value false, .omitted, .omitted⟩

/-- An update that stops the health checks. -/
def keepAliveOnly : MonitorUpdate :=
  ⟨.omitted, .omitted, .value .keepAlive, .omitted, .omitted, .omitted⟩

/-- The sample row is consistent. -/
theorem isConsistent_oneMonitor {monitorId : ℕ} {monitor : Monitor}
    (hget : Database.oneMonitor.monitors.get monitorId = some monitor) : IsConsistent monitor := by
  rw [Database.of_get_oneMonitor hget]
  exact ⟨rfl, rfl⟩

/-- An update that shortens the interval of the health checks. -/
def shorterInterval : MonitorUpdate :=
  ⟨.omitted, .value 15, .omitted, .omitted, .omitted, .omitted⟩

/-- The commit of an update that is safe. -/
theorem updateIsSafe_commitUpdate {processId monitorId : ℕ} {payload : MonitorUpdate}
    {loaded stored : Monitor} {now : ℤ}
    (hprocess : system.processes.get processId = some (.update monitorId payload loaded))
    (hstored : system.monitor monitorId = some stored)
    (hsafe : Api.CommitIsSafe payload loaded stored) :
    UpdateIsSafe system (.commitUpdate processId now) := by
  refine ⟨nofun, ?_⟩
  rintro _ otherId other read monitor _ _ ⟨⟩ hother hmonitor -
  obtain ⟨rfl, rfl, rfl⟩ := Process.update.inj (Option.some.inj (hprocess.symm.trans hother))
  obtain rfl := Option.some.inj (hstored.symm.trans hmonitor)
  exact hsafe

/-- Two updates of one row are loaded, and a sweep claims the row. -/
def loadedUpdates : List Action :=
  [.loadUpdate 1 shorterInterval, .loadUpdate 1 disableKeepAlive, .startSweep 0 1 1,
    .select 3 [1], .commitClaim 3]

/-- Both updates are safe: the one that has loaded an enabled row, and is committed when keep-alive
is disabled, leaves the fields of keep-alive alone. -/
theorem isConsistent_loadedUpdates : ∃ claimed disabled system,
    run (step .default) (System.idle .oneMonitor) loadedUpdates = some claimed ∧
    step .default claimed (.commitUpdate 2 1) = some disabled ∧
    step .default disabled (.commitUpdate 1 2) = some system ∧
    (system.monitor 1).map (fun monitor ↦ (monitor.checkIntervalSeconds, monitor.mode,
      monitor.keepAliveEnabled, monitor.nextCheckAt)) =
        some (15, .monitor, false, some (seconds 60)) ∧
    ∀ monitorId monitor, system.monitor monitorId = some monitor → IsConsistent monitor := by
  have hload : ∀ label ∈ loadedUpdates, ∀ state, UpdateIsSafe state label := by
    intro label hlabel state
    simp only [loadedUpdates, List.mem_cons, List.not_mem_nil, or_false] at hlabel
    rcases hlabel with rfl | rfl | rfl | rfl | rfl <;>
      exact ⟨nofun, fun _ _ _ _ _ _ _ haction ↦ absurd haction nofun⟩
  obtain ⟨claimed, disabled, system, enabled, untimed, hclaimed, hdisabling, hdisabled, hshortening,
    hsystem, hmonitor⟩ : ∃ claimed disabled system enabled untimed,
      run (step .default) (System.idle .oneMonitor) loadedUpdates = some claimed ∧
        (claimed.processes.get 2 = some (.update 1 disableKeepAlive .dueAtZero) ∧
          claimed.monitor 1 = some enabled ∧ enabled.keepAlivePath = none) ∧
        step .default claimed (.commitUpdate 2 1) = some disabled ∧
        (disabled.processes.get 1 = some (.update 1 shorterInterval .dueAtZero) ∧
          disabled.monitor 1 = some untimed) ∧
        step .default disabled (.commitUpdate 1 2) = some system ∧
        (system.monitor 1).map (fun monitor ↦ (monitor.checkIntervalSeconds, monitor.mode,
          monitor.keepAliveEnabled, monitor.nextCheckAt)) =
            some (15, .monitor, false, some (seconds 60)) :=
    ⟨_, _, _, _, _, rfl, ⟨rfl, rfl, rfl⟩, rfl, ⟨rfl, rfl⟩, rfl, rfl⟩
  have hfirst : UpdateIsSafe claimed (.commitUpdate 2 1) :=
    updateIsSafe_commitUpdate hdisabling.1 hdisabling.2.1
      ⟨fun hne ↦ absurd rfl hne, fun _ _ _ _ ↦ hdisabling.2.2⟩
  have hsecond : UpdateIsSafe disabled (.commitUpdate 1 2) :=
    updateIsSafe_commitUpdate hshortening.1 hshortening.2
      ⟨fun _ _ _ ↦ ⟨rfl, rfl, Or.inl rfl⟩, fun hvalue ↦ nomatch hvalue⟩
  have hreaches : Reaches (step .default) UpdateIsSafe (System.idle .oneMonitor) system :=
    ((reaches_of_run .start hload hclaimed).step hfirst hdisabled).step hsecond hsystem
  exact ⟨claimed, disabled, system, hclaimed, hdisabled, hsystem, hmonitor,
    isConsistent_of_reaches (fun _ _ ↦ isConsistent_oneMonitor) hreaches⟩

/-- Two updates of one row, each valid on the row that it has loaded. -/
def skewedRun : List Action :=
  [.loadUpdate 1 keepAliveOnly, .loadUpdate 1 disableKeepAlive, .commitUpdate 2 1,
    .commitUpdate 1 2]

/-- Together they leave a row that the rules refuse: it is to send keep-alive requests only, and
they are disabled. Neither phase of a sweep selects it any more. -/
theorem updates_skew :
    (∀ monitorId monitor, Database.oneMonitor.monitors.get monitorId = some monitor →
      IsConsistent monitor) ∧
    ∃ system monitor, run (step .default) (System.idle .oneMonitor) skewedRun = some system ∧
      system.monitor 1 = some monitor ∧ monitor.mode = .keepAlive ∧
      monitor.keepAliveEnabled = false ∧ ¬ Api.RulesAccept monitor ∧
      ∀ schedule : Schedule, schedule.isSelected monitor = false := by
  refine ⟨fun _ _ ↦ isConsistent_oneMonitor, _, _, rfl, rfl, rfl, rfl, nofun, ?_⟩
  intro schedule
  cases schedule <;> rfl

end PingGuard.Concurrent
