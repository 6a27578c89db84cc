import PingGuard.Concurrent.Cap
import PingGuard.Concurrent.Checks
import PingGuard.Concurrent.Deletion

/-!
# What becomes of a monitor and its history

Two states of one run of the concurrent system, the second after the first. An id is not given out
again, so a deleted monitor stays deleted, and no later result is filed under its id. The same holds
of an id that was lost, and not of one that an `INSERT` holds until its commit, which stores its row
(`monitor_commitCreate_of_reaches`). Results are never rewritten: what is found later under an old
key is what was there, unless its monitor has been deleted. `historyKept_of_reaches` says so for
every run.

A row is changed by many, but a column is not: `ColumnGroup.IsWritten` lists the commits that may
write a group of columns, and `agree_of_reaches` says that nothing else changes it.
-/

set_option autoImplicit false
set_option relaxedAutoImplicit false

namespace PingGuard.Concurrent

open Library.SerialTable Library.Transition Models Overlap ProbeTask Sweep

variable {settings : Settings} {system next later : System} {action : Action}

/-! ### Ids -/

/-- The ids that are held by an `INSERT` that is not committed yet. -/
def System.heldIds (system : System) : List ℕ :=
  system.processes.rows.filterMap fun row ↦
    match row.2 with
    | .inserted monitorId _ => some monitorId
    | _ => none

theorem mem_heldIds_iff {monitorId : ℕ} :
    monitorId ∈ system.heldIds ↔
      ∃ processId row, system.processes.get processId = some (.inserted monitorId row) := by
  unfold System.heldIds
  rw [List.mem_filterMap]
  constructor
  · rintro ⟨⟨processId, process⟩, hrow, hheld⟩
    cases process with
    | inserted heldId row =>
      obtain rfl := Option.some.inj hheld
      exact ⟨processId, row, (Table.mem_rows_iff _ _ _).mp hrow⟩
    | _ => nomatch hheld
  · rintro ⟨processId, row, hget⟩
    exact ⟨(processId, .inserted monitorId row), (Table.mem_rows_iff _ _ _).mpr hget, rfl⟩

/-- The next id is never lower than it was. -/
theorem nextKey_le_of_transition (htransition : Transition settings system action next) :
    system.database.monitors.nextKey ≤ next.database.monitors.nextKey := by
  cases htransition with
  | inserted processId row skipped hbefore =>
    exact (Nat.le_add_right _ skipped).trans (Nat.le_succ _)
  | created processId monitorId row hbefore hreserved => exact (Table.nextKey_store _ _ _).ge
  | _ => exact Nat.le_refl _

/-- Rewriting rows keeps their keys. -/
theorem isSome_get_mapRows (table : Table Monitor) (rewrite : ℕ → Monitor → Monitor)
    (monitorId : ℕ) :
    ((table.mapRows rewrite).get monitorId).isSome = (table.get monitorId).isSome := by
  rw [Table.get_mapRows, Option.isSome_map]

/-- A monitor that is stored after a step was stored before it, or an `INSERT` held its id. -/
theorem stored_of_transition (htransition : Transition settings system action next)
    {monitorId : ℕ} (hpresent : (next.monitor monitorId).isSome = true) :
    (system.monitor monitorId).isSome = true ∨
      (monitorId ∈ system.heldIds ∧ monitorId ∈ system.database.monitors.reserved) := by
  cases htransition with
  | claimed processId run batch hbefore hstage =>
    exact Or.inl ((isSome_get_mapRows system.database.monitors _ _).symm.trans hpresent)
  | recovered processId run items hbefore hstage hunlocked =>
    exact Or.inl ((isSome_get_mapRows system.database.monitors _ _).symm.trans hpresent)
  | updated processId updatedId payload loaded stored monitor now hbefore hstored hunlocked
      hcommit =>
    exact Or.inl ((isSome_get_mapRows system.database.monitors _ _).symm.trans hpresent)
  | probed processId run after rewrite result stored hbefore hcommit hstored hunlocked =>
    exact Or.inl ((isSome_get_mapRows system.database.monitors _ _).symm.trans hpresent)
  | created processId createdId row hbefore hreserved =>
    change ((system.database.monitors.store createdId _).get monitorId).isSome = true at hpresent
    rw [Table.get_store hreserved] at hpresent
    split_ifs at hpresent with hcreated
    · subst hcreated
      exact Or.inr ⟨mem_heldIds_iff.mpr ⟨processId, row, hbefore⟩, hreserved⟩
    · exact Or.inl hpresent
  | deleted processId deletedId hbefore hunlocked =>
    change ((system.database.monitors.erase deletedId).get monitorId).isSome = true at hpresent
    rw [Table.get_erase] at hpresent
    split_ifs at hpresent
    · nomatch hpresent
    · exact Or.inl hpresent
  | _ => exact Or.inl hpresent

/-- No key is taken back, and no monitor comes under a key that was spent before. -/
structure KeysGoOn (before after : Database) : Prop where
  nextKey_le : before.monitors.nextKey ≤ after.monitors.nextKey
  spent : ∀ monitorId, before.monitors.IsSpent monitorId → after.monitors.IsSpent monitorId
  kept : ∀ monitorId, before.monitors.IsSpent monitorId →
    (after.monitors.get monitorId).isSome = true → (before.monitors.get monitorId).isSome = true

theorem KeysGoOn.refl (database : Database) : KeysGoOn database database :=
  ⟨le_rfl, fun _ hspent ↦ hspent, fun _ _ hpresent ↦ hpresent⟩

theorem KeysGoOn.trans {before middle after : Database} (hfirst : KeysGoOn before middle)
    (hsecond : KeysGoOn middle after) : KeysGoOn before after where
  nextKey_le := hfirst.nextKey_le.trans hsecond.nextKey_le
  spent := fun monitorId hspent ↦ hsecond.spent monitorId (hfirst.spent monitorId hspent)
  kept := fun monitorId hspent hpresent ↦ hfirst.kept monitorId hspent
    (hsecond.kept monitorId (hfirst.spent monitorId hspent) hpresent)

/-- Every step goes on with the keys. -/
theorem keysGoOn_of_transition (htransition : Transition settings system action next) :
    KeysGoOn system.database next.database where
  nextKey_le := nextKey_le_of_transition htransition
  spent := fun _ ↦ isSpent_of_transition htransition
  kept := fun _ hspent hpresent ↦ (stored_of_transition htransition hpresent).resolve_right
    fun hheld ↦ Table.not_isSpent_of_mem_reserved hheld.2 hspent

/-- Where the ids of a later state come from. The stored ones were stored or held, or are new, and
the held ones were held, or are new. -/
structure IdsGoOn (before after : System) : Prop where
  nextKey_le : before.database.monitors.nextKey ≤ after.database.monitors.nextKey
  stored : ∀ monitorId, (after.monitor monitorId).isSome = true →
    (before.monitor monitorId).isSome = true ∨ monitorId ∈ before.heldIds ∨
      before.database.monitors.nextKey ≤ monitorId
  held : ∀ monitorId ∈ after.heldIds,
    monitorId ∈ before.heldIds ∨ before.database.monitors.nextKey ≤ monitorId

theorem IdsGoOn.refl (system : System) : IdsGoOn system system :=
  ⟨le_rfl, fun _ hpresent ↦ Or.inl hpresent, fun _ hheld ↦ Or.inl hheld⟩

theorem IdsGoOn.trans {before middle after : System} (hfirst : IdsGoOn before middle)
    (hsecond : IdsGoOn middle after) : IdsGoOn before after where
  nextKey_le := hfirst.nextKey_le.trans hsecond.nextKey_le
  stored := by
    intro monitorId hpresent
    rcases hsecond.stored monitorId hpresent with hstored | hheld | hnew
    · exact hfirst.stored monitorId hstored
    · exact Or.inr (hfirst.held monitorId hheld)
    · exact Or.inr (Or.inr (hfirst.nextKey_le.trans hnew))
  held := by
    intro monitorId hafter
    rcases hsecond.held monitorId hafter with hheld | hnew
    · exact hfirst.held monitorId hheld
    · exact Or.inr (hfirst.nextKey_le.trans hnew)

/-- Every step goes on with the ids. -/
theorem idsGoOn_of_transition (htransition : Transition settings system action next) :
    IdsGoOn system next where
  nextKey_le := nextKey_le_of_transition htransition
  stored := fun _ hpresent ↦ (stored_of_transition htransition hpresent).imp_right
    fun hheld ↦ Or.inl hheld.1
  held := by
    intro monitorId hheld
    obtain ⟨processId, row, hget⟩ := mem_heldIds_iff.mp hheld
    rcases inserted_of_transition htransition hget with hsame | ⟨skipped, rfl, -⟩
    · exact Or.inl (mem_heldIds_iff.mpr ⟨processId, row, hsame⟩)
    · exact Or.inr (Nat.le_add_right _ skipped)

/-- Every run goes on with the ids. -/
theorem idsGoOn_of_reaches (hreaches : Reaches (step settings) (fun _ _ ↦ True) system later) :
    IdsGoOn system later := by
  refine hreaches.invariant (motive := IdsGoOn system) (.refl system) ?_
  intro state label after hgoesOn _ hstep
  exact hgoesOn.trans (idsGoOn_of_transition (transition_of_step hstep))

/-- Every `INSERT` that is not committed yet has reserved its id, and no other one holds it. -/
structure IdsHeld (system : System) : Prop where
  reserved : ∀ processId monitorId row,
    system.processes.get processId = some (.inserted monitorId row) →
      monitorId ∈ system.database.monitors.reserved
  unique : ∀ firstId secondId monitorId row other,
    system.processes.get firstId = some (.inserted monitorId row) →
      system.processes.get secondId = some (.inserted monitorId other) → firstId = secondId

/-- An id that is reserved stays so, unless the `INSERT` that holds it is committed. -/
theorem reserved_of_transition (htransition : Transition settings system action next)
    {monitorId : ℕ} (hreserved : monitorId ∈ system.database.monitors.reserved) :
    monitorId ∈ next.database.monitors.reserved ∨
      ∃ processId row, system.processes.get processId = some (.inserted monitorId row) ∧
        next.processes.get processId = some .done := by
  cases htransition with
  | inserted processId row skipped hbefore => exact Or.inl (List.mem_cons_of_mem _ hreserved)
  | created processId createdId row hbefore hcreated =>
    by_cases heq : monitorId = createdId
    · subst heq
      refine Or.inr ⟨processId, row, hbefore, (Table.get_modify _ _ _ _).trans ?_⟩
      rw [if_pos rfl, hbefore, Option.map_some]
    · exact Or.inl ((Table.mem_reserved_store hcreated _ _).mpr ⟨hreserved, heq⟩)
  | _ => exact Or.inl hreserved

/-- Every step keeps this. -/
theorem IdsHeld.step (hheld : IdsHeld system)
    (htransition : Transition settings system action next) : IdsHeld next := by
  -- an id that was held is below the next one
  have hlt : ∀ {processId monitorId row},
      system.processes.get processId = some (.inserted monitorId row) →
        monitorId < system.database.monitors.nextKey := fun hget ↦
    system.database.monitors.reserved_lt _ (hheld.reserved _ _ _ hget)
  refine ⟨?_, ?_⟩
  · intro processId monitorId row hget
    rcases inserted_of_transition htransition hget with hsame | ⟨_, -, -, -, hreserved⟩
    · rcases reserved_of_transition htransition (hheld.reserved _ _ _ hsame) with
        hreserved | ⟨otherId, other, hother, hdone⟩
      · exact hreserved
      · obtain rfl := hheld.unique _ _ _ _ _ hsame hother
        exact Process.noConfusion (Option.some.inj (hget.symm.trans hdone))
    · exact hreserved
  · intro firstId secondId monitorId row other hfirst hsecond
    rcases inserted_of_transition htransition hfirst with hfirst | ⟨_, hnew, haction, -⟩
    · rcases inserted_of_transition htransition hsecond with hsecond | ⟨_, hnew, -, -⟩
      · exact hheld.unique _ _ _ _ _ hfirst hsecond
      · have hold := hlt hfirst
        omega
    · rcases inserted_of_transition htransition hsecond with hsecond | ⟨_, -, hother, -⟩
      · have hold := hlt hsecond
        omega
      · exact (Action.insertMonitor.inj (haction.symm.trans hother)).1

/-- In every run, the commit of a row that was inserted stores it. -/
theorem monitor_commitCreate_of_reaches {database : Database} {processId monitorId : ℕ}
    {row : NewRow}
    (hreaches : Reaches (step settings) (fun _ _ ↦ True) (System.idle database) system)
    (hget : system.processes.get processId = some (.inserted monitorId row)) :
    ∃ next, step settings system (.commitCreate processId) = some next ∧
      next.monitor monitorId = some row.monitor := by
  have hheld : IdsHeld system := by
    refine hreaches.invariant (motive := IdsHeld) ⟨fun _ _ _ hget ↦ (nomatch hget),
      fun _ _ _ _ _ hget ↦ (nomatch hget)⟩ ?_
    intro state label after hheld _ hstep
    exact hheld.step (transition_of_step hstep)
  have hreserved := hheld.reserved processId monitorId row hget
  obtain ⟨next, hnext, hdatabase⟩ :=
    Option.map_eq_some_iff.mp (database_commitCreate hget hreserved)
  refine ⟨next, hnext, ?_⟩
  rw [System.monitor, hdatabase]
  exact (Table.get_store hreserved _ _).trans (if_pos rfl)

/-! ### Results -/

/-- What a database keeps of the one before: ids and result keys are not given out again, every
result refers to a stored monitor, and an old result is as it was or has gone with its monitor. -/
structure HistoryKept (before after : Database) : Prop where
  keys : KeysGoOn before after
  refers : ResultsRefer after
  nextKey_le : before.pingResults.nextKey ≤ after.pingResults.nextKey
  results : ∀ key, key < before.pingResults.nextKey → after.pingResults.get key =
    (before.pingResults.get key).filter fun result ↦
      (after.monitors.get result.monitorId).isSome

/-- A filter that every stored result meets leaves the result. -/
theorem filter_eq_self {stored : Option PingResult} {keep : PingResult → Bool}
    (hkeep : ∀ result, stored = some result → keep result = true) :
    stored.filter keep = stored := by
  cases stored with
  | none => rfl
  | some result => exact Option.filter_some_pos (hkeep result rfl)

theorem HistoryKept.refl {database : Database} (hrefer : ResultsRefer database) :
    HistoryKept database database where
  keys := .refl database
  refers := hrefer
  nextKey_le := le_rfl
  results := fun key _ ↦ (filter_eq_self fun result hget ↦
    Option.isSome_iff_ne_none.mpr (hrefer key result hget)).symm

theorem HistoryKept.trans {before middle after : Database} (hrefer : ResultsRefer before)
    (hfirst : HistoryKept before middle) (hsecond : HistoryKept middle after) :
    HistoryKept before after where
  keys := hfirst.keys.trans hsecond.keys
  refers := hsecond.refers
  nextKey_le := hfirst.nextKey_le.trans hsecond.nextKey_le
  results := by
    intro key hkey
    rw [hsecond.results key (hkey.trans_le hfirst.nextKey_le), hfirst.results key hkey,
      Option.filter_filter]
    cases hget : before.pingResults.get key with
    | none => rfl
    | some result =>
      -- a monitor that is there in the end was there in between
      have hspent : middle.monitors.IsSpent result.monitorId := by
        obtain ⟨monitor, hmonitor⟩ := Option.ne_none_iff_exists'.mp (hrefer key result hget)
        exact hfirst.keys.spent result.monitorId (Table.isSpent_of_get _ hmonitor)
      have hkept := hsecond.keys.kept result.monitorId hspent
      rw [Option.filter_some, Option.filter_some]
      refine if_congr ?_ rfl rfl
      rw [Bool.and_eq_true]
      exact and_iff_right_of_imp hkept

/-- A change of the monitors alone that deletes none. -/
theorem HistoryKept.of_monitors {before after : Database} (hrefer : ResultsRefer before)
    (hkeys : KeysGoOn before after) (hresults : after.pingResults = before.pingResults)
    (hpresent : ∀ monitorId, (before.monitors.get monitorId).isSome = true →
      (after.monitors.get monitorId).isSome = true) : HistoryKept before after := by
  have hstored : ∀ key result, before.pingResults.get key = some result →
      (after.monitors.get result.monitorId).isSome = true := fun key result hget ↦
    hpresent _ (Option.isSome_iff_ne_none.mpr (hrefer key result hget))
  refine ⟨hkeys, ?_, (congrArg Table.nextKey hresults).ge, fun key _ ↦ ?_⟩
  · intro key result hget
    rw [hresults] at hget
    exact Option.isSome_iff_ne_none.mp (hstored key result hget)
  · rw [hresults]
    exact (filter_eq_self (hstored key)).symm

/-- Every step keeps the history. -/
theorem historyKept_of_transition (hrefer : ResultsRefer system.database)
    (htransition : Transition settings system action next) :
    HistoryKept system.database next.database := by
  have hkeys := keysGoOn_of_transition htransition
  cases htransition with
  | claimed processId run batch hbefore hstage =>
    exact .of_monitors hrefer hkeys rfl fun monitorId hpresent ↦
      (isSome_get_mapRows system.database.monitors _ monitorId).trans hpresent
  | recovered processId run items hbefore hstage hunlocked =>
    exact .of_monitors hrefer hkeys rfl fun monitorId hpresent ↦
      (isSome_get_mapRows system.database.monitors _ monitorId).trans hpresent
  | updated processId monitorId payload loaded stored monitor now hbefore hstored hunlocked
      hcommit =>
    exact .of_monitors hrefer hkeys rfl fun other hpresent ↦
      (isSome_get_mapRows system.database.monitors _ other).trans hpresent
  | inserted processId row skipped hbefore =>
    exact .of_monitors hrefer hkeys rfl fun _ hpresent ↦ hpresent
  | created processId createdId row hbefore hreserved =>
    refine .of_monitors hrefer hkeys rfl fun monitorId hpresent ↦ ?_
    change ((system.database.monitors.store createdId _).get monitorId).isSome = true
    rw [Table.get_store hreserved]
    split_ifs
    · rfl
    · exact hpresent
  | deleted processId deletedId hbefore hunlocked =>
    refine ⟨hkeys, hrefer.deleteMonitor deletedId, le_rfl, fun key _ ↦ ?_⟩
    refine (Table.get_filterRows _ _ _).trans ?_
    cases hget : system.database.pingResults.get key with
    | none => rfl
    | some result =>
      have hmonitor := Option.isSome_iff_ne_none.mpr (hrefer key result hget)
      have hafter : (system.database.deleteMonitor deletedId).monitors.get result.monitorId =
          if result.monitorId = deletedId then none
          else system.database.monitors.get result.monitorId := Table.get_erase _ _ _
      rw [Option.filter_some, Option.filter_some]
      dsimp only
      rw [hafter]
      by_cases hdeleted : result.monitorId = deletedId
      · simp [hdeleted]
      · simp [hdeleted, hmonitor]
  | probed processId run after rewrite result stored hbefore hcommit hstored hunlocked =>
    have hmonitorId : result.monitorId = run.monitorId := by cases hcommit <;> rfl
    have hpresent : ∀ monitorId, (system.database.monitors.get monitorId).isSome = true →
        ((system.database.monitors.modify run.monitorId rewrite).get monitorId).isSome = true :=
      fun monitorId hpresent ↦
        (isSome_get_mapRows system.database.monitors _ monitorId).trans hpresent
    have hrefers : ∀ key other, system.database.pingResults.get key = some other →
        ((system.database.monitors.modify run.monitorId rewrite).get other.monitorId).isSome =
          true := fun key other hget ↦
      hpresent _ (Option.isSome_iff_ne_none.mpr (hrefer key other hget))
    refine ⟨hkeys, ?_, Nat.le_succ _, fun key hkey ↦ ?_⟩
    · intro key other hget
      apply Option.isSome_iff_ne_none.mp
      rcases Nat.lt_or_ge key system.database.pingResults.nextKey with hlt | hge
      · refine hrefers key other ?_
        exact (if_neg (Nat.ne_of_lt hlt)).symm.trans ((Table.get_insert _ _ _).symm.trans hget)
      · have hnew := (Table.get_insert _ _ _).symm.trans hget
        split_ifs at hnew with heq
        · rw [← Option.some.inj hnew, hmonitorId]
          refine hpresent _ ?_
          rw [← System.monitor, hstored]
          rfl
        · exact hrefers key other hnew
    · refine (Table.get_insert _ _ _).trans ?_
      rw [if_neg (Nat.ne_of_lt hkey)]
      exact (filter_eq_self (hrefers key)).symm
  | _ => exact .refl hrefer

/-- The columns of a monitor by who writes them. -/
inductive ColumnGroup
  | identity
  | configuration
  | health
  | times (schedule : Schedule)

/-- Two rows have the same values in a group. -/
def ColumnGroup.Agree (before after : Monitor) : ColumnGroup → Prop
  | .identity => after.url = before.url
  | .configuration => after.name = before.name ∧
      after.checkIntervalSeconds = before.checkIntervalSeconds ∧ after.mode = before.mode ∧
        after.keepAliveEnabled = before.keepAliveEnabled ∧
          after.keepAliveIntervalSeconds = before.keepAliveIntervalSeconds ∧
            after.keepAlivePath = before.keepAlivePath
  | .health => after.status = before.status ∧ after.lastCheckedAt = before.lastCheckedAt
  | .times schedule => schedule.next after = schedule.next before

theorem ColumnGroup.Agree.refl (monitor : Monitor) (group : ColumnGroup) :
    group.Agree monitor monitor := by
  cases group with
  | configuration => exact ⟨rfl, rfl, rfl, rfl, rfl, rfl⟩
  | health => exact ⟨rfl, rfl⟩
  | _ => rfl

theorem ColumnGroup.Agree.trans {group : ColumnGroup} {before middle after : Monitor}
    (hfirst : group.Agree before middle) (hsecond : group.Agree middle after) :
    group.Agree before after := by
  cases group with
  | identity => exact Eq.trans hsecond hfirst
  | configuration =>
    obtain ⟨hname, hinterval, hmode, henabled, hkeepAlive, hpath⟩ := hfirst
    obtain ⟨hname', hinterval', hmode', henabled', hkeepAlive', hpath'⟩ := hsecond
    exact ⟨hname'.trans hname, hinterval'.trans hinterval, hmode'.trans hmode,
      henabled'.trans henabled, hkeepAlive'.trans hkeepAlive, hpath'.trans hpath⟩
  | health => exact ⟨hsecond.1.trans hfirst.1, hsecond.2.trans hfirst.2⟩
  | times schedule => exact Eq.trans hsecond hfirst

/-- The commits that may write a group of columns of a monitor. The configuration is for updates.
The health is for the checks of `execute_ping`, and for what either task commits after the soft time
limit. The time of a schedule is for the sweeps, where the monitor is due or the sweep holds it, and
the keep-alive time also for an update that changes it. -/
def ColumnGroup.IsWritten (group : ColumnGroup) (monitorId : ℕ) (system : System) : Action → Prop
  | .commitUpdate processId now => ∃ payload loaded,
      system.processes.get processId = some (.update monitorId payload loaded) ∧
        (group = .configuration ∨
          group = .times .keepAlive ∧ updateWrites monitorId payload now loaded ≠ [])
  | .commitProbe processId _ => ∃ run, system.processes.get processId = some (.probe run) ∧
      run.monitorId = monitorId ∧ run.task = .executePing ∧ group = .health
  | .commitTimeLimit processId => ∃ run, system.processes.get processId = some (.probe run) ∧
      run.monitorId = monitorId ∧ group = .health
  | .commitClaim processId => ∃ run monitor,
      system.processes.get processId = some (.sweep run) ∧
        system.monitor monitorId = some monitor ∧
          run.schedule.isDue run.now monitor = true ∧ group = .times run.schedule
  | .recoverItems processId _ => ∃ run, system.processes.get processId = some (.sweep run) ∧
      monitorId ∈ run.items.map Prod.fst ∧ group = .times run.schedule
  | _ => False

/-- A step that may not write a group of columns of a row leaves it. -/
theorem RowStep.agree {results : Table PingResult} {monitorId : ℕ} {after : Monitor}
    {writers : Schedule → List Writer} {group : ColumnGroup}
    (hrow : RowStep settings system results monitorId action after writers)
    (hspent : system.database.monitors.IsSpent monitorId)
    (hnot : ¬ group.IsWritten monitorId system action) :
    ∃ before, system.monitor monitorId = some before ∧ group.Agree before after := by
  -- a sweep writes the time of its schedule only
  have hsetNext : ∀ (schedule : Schedule) (value : Option ℤ) (monitor : Monitor),
      group ≠ .times schedule → group.Agree monitor (schedule.setNext value monitor) := by
    intro schedule value monitor hne
    cases group with
    | times other =>
      cases schedule with
      | health =>
        cases other with
        | health => exact absurd rfl hne
        | keepAlive => rfl
      | keepAlive =>
        cases other with
        | health => rfl
        | keepAlive => exact absurd rfl hne
    | identity => cases schedule <;> rfl
    | configuration => cases schedule <;> exact ⟨rfl, rfl, rfl, rfl, rfl, rfl⟩
    | health => cases schedule <;> exact ⟨rfl, rfl⟩
  -- a check writes the health only
  have hchecked : ∀ (monitor : Monitor) (status : Status.MonitorStatus) (time : Option ℤ),
      group ≠ .health →
        group.Agree monitor { monitor with status := status, lastCheckedAt := time } := by
    intro monitor status time hne
    cases group with
    | health => exact absurd rfl hne
    | identity => rfl
    | configuration => exact ⟨rfl, rfl, rfl, rfl, rfl, rfl⟩
    | times schedule => cases schedule <;> rfl
  cases hrow with
  | kept monitor hget => exact ⟨after, hget, .refl after group⟩
  | claimed processId run interval before hbefore hget hdue hclaim =>
    refine ⟨before, hget, hsetNext _ _ _ fun heq ↦ hnot ?_⟩
    exact ⟨run, before, hbefore, hget, hdue, heq⟩
  | recovered processId run items interval before hbefore hstage hitem hget =>
    refine ⟨before, hget, hsetNext _ _ _ fun heq ↦ hnot ⟨run, hbefore, ?_, heq⟩⟩
    unfold SweepRun.items
    rw [hstage]
    exact List.mem_map_of_mem hitem
  | created processId row hbefore hreserved =>
    exact absurd hspent (Table.not_isSpent_of_mem_reserved hreserved)
  | updated processId payload loaded stored monitor now hbefore hget hcommit =>
    refine ⟨stored, hget, ?_⟩
    obtain ⟨draft, -, -, hflushed⟩ := Api.commitUpdate_eq_ok hcommit
    cases group with
    | identity => exact hflushed.url
    | configuration => exact absurd ⟨payload, loaded, hbefore, Or.inl rfl⟩ hnot
    | health => exact ⟨hflushed.status, hflushed.lastCheckedAt⟩
    | times schedule =>
      rcases next_of_commitUpdate hcommit monitorId schedule with
        ⟨-, hsame⟩ | ⟨value, hwritten, -⟩
      · exact hsame
      · cases schedule with
        | health => exact hflushed.nextCheckAt
        | keepAlive =>
          refine absurd ⟨payload, loaded, hbefore, Or.inr ⟨rfl, fun hnone ↦ ?_⟩⟩ hnot
          rw [hnone] at hwritten
          nomatch hwritten
  | probed processId run process rewrite result stored hbefore hcommit hmonitorId hget hresults =>
    refine ⟨stored, hget, ?_⟩
    obtain ⟨status, time, heq⟩ := hcommit.rewrite_eq stored
    by_cases hhealth : group = .health
    · subst hhealth
      cases hcommit with
      | timeLimit hstage => exact absurd ⟨run, hbefore, hmonitorId, rfl⟩ hnot
      | probe dto hstage =>
        cases htask : run.task with
        | executePing => exact absurd ⟨run, hbefore, hmonitorId, htask, rfl⟩ hnot
        | executeKeepAlive =>
          rw [flushProbe_executeKeepAlive]
          exact ⟨rfl, rfl⟩
    · rw [heq]
      exact hchecked stored status time hhealth

/-- A group of columns of a monitor is in a later state what it was, if no commit in between was one
that may write it. -/
theorem agree_of_reaches {database : Database} {monitorId : ℕ} {before after : Monitor}
    {group : ColumnGroup}
    (hreaches : Reaches (step settings) (fun _ _ ↦ True) (System.idle database) system)
    (hlater : Reaches (step settings) (fun state label ↦ ¬ group.IsWritten monitorId state label)
      system later)
    (hbefore : system.monitor monitorId = some before)
    (hafter : later.monitor monitorId = some after) : group.Agree before after := by
  have hstart : LocksHold system ∧ ItemsDistinct system := by
    refine hreaches.invariant (motive := fun state ↦ LocksHold state ∧ ItemsDistinct state)
      ⟨LocksHold.idle database, fun _ _ hget ↦ (nomatch hget)⟩ ?_
    rintro state label next ⟨hlocks, hitems⟩ - hstep
    have htransition := transition_of_step hstep
    exact ⟨hlocks.step htransition, hitems.step hlocks htransition⟩
  have hinv : (LocksHold later ∧ ItemsDistinct later) ∧
      later.database.monitors.IsSpent monitorId ∧
        ∀ monitor, later.monitor monitorId = some monitor → group.Agree before monitor := by
    refine hlater.invariant (motive := fun state ↦ (LocksHold state ∧ ItemsDistinct state) ∧
      state.database.monitors.IsSpent monitorId ∧
        ∀ monitor, state.monitor monitorId = some monitor → group.Agree before monitor)
      ⟨hstart, Table.isSpent_of_get _ hbefore, ?_⟩ ?_
    · intro monitor hget
      obtain rfl := Option.some.inj (hbefore.symm.trans hget)
      exact .refl before group
    · rintro state label next ⟨⟨hlocks, hitems⟩, hspent, hagree⟩ hnot hstep
      have htransition := transition_of_step hstep
      refine ⟨⟨hlocks.step htransition, hitems.step hlocks htransition⟩,
        isSpent_of_transition htransition hspent, fun monitor hget ↦ ?_⟩
      obtain ⟨writers, hrow, -⟩ := rowStep_of_transition hlocks hitems htransition hget
      obtain ⟨middle, hmiddle, hsame⟩ := hrow.agree hspent hnot
      exact (hagree middle hmiddle).trans hsame
  exact hinv.2.2 after hafter

/-- A sweep claims the monitor and a check of it is committed. Its configuration is as it was. -/
theorem agree_claimedAndChecked : ∃ later, run (step .default) (System.idle .oneMonitor)
    [.startSweep 0 1 1, .select 1 [1], .loadProbe .executePing 1 0, .commitClaim 1,
      .commitProbe 2 (probed .down)] = some later ∧
    ∀ after, later.monitor 1 = some after → after ≠ Monitor.dueAtZero ∧
      ColumnGroup.configuration.Agree Monitor.dueAtZero after := by
  have hallowed : ∀ label ∈ [Action.startSweep 0 1 1, .select 1 [1], .loadProbe .executePing 1 0,
      .commitClaim 1, .commitProbe 2 (probed .down)],
      ∀ state, ¬ ColumnGroup.configuration.IsWritten 1 state label := by
    intro label hlabel state
    simp only [List.mem_cons, List.not_mem_nil, or_false] at hlabel
    rcases hlabel with rfl | rfl | rfl | rfl | rfl <;> simp [ColumnGroup.IsWritten]
  have hstatus : (run (step .default) (System.idle .oneMonitor) [.startSweep 0 1 1, .select 1 [1],
      .loadProbe .executePing 1 0, .commitClaim 1, .commitProbe 2 (probed .down)]).map (fun later ↦
        (later.monitor 1).map Monitor.status) = some (some .down) := rfl
  obtain ⟨later, hlater, hdown⟩ := Option.map_eq_some_iff.mp hstatus
  refine ⟨later, hlater, fun after hafter ↦ ⟨?_, ?_⟩⟩
  · rintro rfl
    rw [hafter] at hdown
    nomatch hdown
  · exact agree_of_reaches .start (reaches_of_run .start hallowed hlater) rfl hafter

end PingGuard.Concurrent
