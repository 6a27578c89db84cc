import PingGuard.Concurrent.Steps

/-!
# Locks

What `FOR UPDATE SKIP LOCKED` is for: the rows that a sweep has selected are locked by no other
sweep, and are stored as they were read, until the claim is committed. `LocksHold` is an invariant
of every run.
-/

set_option autoImplicit false
set_option relaxedAutoImplicit false

namespace PingGuard.Concurrent

open Library.SerialTable Library.Transition Models Sweep

variable {settings : Settings} {system next : System}

/-! ### The invariant -/

/-- A row that is not locked is locked by no process. -/
theorem notMem_locked_of_isLocked {monitorId : ℕ} (hunlocked : system.isLocked monitorId = false)
    {processId : ℕ} {process : Process} (hget : system.processes.get processId = some process) :
    monitorId ∉ process.locked.map Prod.fst := by
  intro hmem
  have hlocked : system.isLocked monitorId = true :=
    List.any_eq_true.mpr ⟨(processId, process), (Table.mem_rows_iff _ _ _).mpr hget,
      decide_eq_true hmem⟩
  exact Bool.false_ne_true (hunlocked.symm.trans hlocked)

/-- Locked rows are stored as they were read, are due for the sweep that locked them, and are locked
by that sweep only. -/
structure LocksHold (system : System) : Prop where
  nodup : ∀ processId process, system.processes.get processId = some process →
    (process.locked.map Prod.fst).Nodup
  stored : ∀ processId process, system.processes.get processId = some process →
    ∀ row ∈ process.locked, system.monitor row.1 = some row.2
  due : ∀ processId run, system.processes.get processId = some (.sweep run) →
    ∀ row ∈ (Process.sweep run).locked, run.schedule.isDue run.now row.2 = true
  disjoint : ∀ processId otherId process other, processId ≠ otherId →
    system.processes.get processId = some process → system.processes.get otherId = some other →
      ∀ monitorId ∈ process.locked.map Prod.fst, monitorId ∉ other.locked.map Prod.fst

/-- A system where nothing runs has no locks. -/
theorem LocksHold.idle (database : Database) : LocksHold (System.idle database) := by
  have hnone : ∀ processId process,
      (System.idle database).processes.get processId ≠ some process := by
    intro processId process hget
    nomatch hget
  exact ⟨fun _ _ h ↦ absurd h (hnone _ _), fun _ _ h ↦ absurd h (hnone _ _),
    fun _ _ h ↦ absurd h (hnone _ _), fun _ _ _ _ _ h ↦ absurd h (hnone _ _)⟩

/-- The rows that a selection reads are the stored rows under the keys. -/
theorem mem_readRows_iff {monitors : Table Monitor} {monitorIds : List ℕ} {row : ℕ × Monitor} :
    row ∈ readRows monitors monitorIds ↔
      row.1 ∈ monitorIds ∧ monitors.get row.1 = some row.2 := by
  obtain ⟨monitorId, monitor⟩ := row
  simp only [readRows, List.mem_filterMap, Option.map_eq_some_iff, Prod.mk.injEq]
  constructor
  · rintro ⟨_, hmem, _, hget, rfl, rfl⟩
    exact ⟨hmem, hget⟩
  · rintro ⟨hmem, hget⟩
    exact ⟨monitorId, hmem, monitor, hget, rfl, rfl⟩

/-- The keys of the rows that a selection reads are among the keys, in the same order. -/
theorem readRows_sublist (monitors : Table Monitor) (monitorIds : List ℕ) :
    ((readRows monitors monitorIds).map Prod.fst).Sublist monitorIds := by
  induction monitorIds with
  | nil => exact List.Sublist.refl _
  | cons monitorId rest ih =>
    unfold readRows at ih ⊢
    cases hget : monitors.get monitorId with
    | none =>
      rw [List.filterMap_cons_none (by rw [hget]; rfl)]
      exact ih.cons _
    | some monitor =>
      rw [List.filterMap_cons_some (by rw [hget]; rfl), List.map_cons]
      exact ih.cons_cons _

/-- The locks after a step of one process, which then has no locks, if the step leaves the rows that
others have locked as they are. -/
theorem LocksHold.release (hlocks : LocksHold system) (processId : ℕ)
    (hprocesses : ∀ otherId other, next.processes.get otherId = some other →
      (otherId ≠ processId ∧ system.processes.get otherId = some other) ∨ other.locked = [])
    (hrows : ∀ otherId other, otherId ≠ processId → system.processes.get otherId = some other →
      ∀ monitorId ∈ other.locked.map Prod.fst,
        next.monitor monitorId = system.monitor monitorId) : LocksHold next := by
  refine ⟨?_, ?_, ?_, ?_⟩
  · intro otherId other hget
    rcases hprocesses otherId other hget with ⟨-, hbefore⟩ | hnone
    · exact hlocks.nodup otherId other hbefore
    · rw [hnone]
      exact List.nodup_nil
  · intro otherId other hget row hrow
    rcases hprocesses otherId other hget with ⟨hne, hbefore⟩ | hnone
    · rw [hrows otherId other hne hbefore row.1 (List.mem_map_of_mem hrow)]
      exact hlocks.stored otherId other hbefore row hrow
    · rw [hnone] at hrow
      exact absurd hrow List.not_mem_nil
  · intro otherId run hget row hrow
    rcases hprocesses otherId _ hget with ⟨-, hbefore⟩ | hnone
    · exact hlocks.due otherId run hbefore row hrow
    · rw [hnone] at hrow
      exact absurd hrow List.not_mem_nil
  · intro firstId secondId first second hne hfirst hsecond monitorId hmem
    rcases hprocesses firstId first hfirst with ⟨-, hfirstBefore⟩ | hnone
    · rcases hprocesses secondId second hsecond with ⟨-, hsecondBefore⟩ | hnone
      · exact hlocks.disjoint firstId secondId first second hne hfirstBefore hsecondBefore
          monitorId hmem
      · rw [hnone]
        exact List.not_mem_nil
    · rw [hnone] at hmem
      exact absurd hmem List.not_mem_nil

/-- The locks after a process selected rows that nothing has locked. -/
theorem LocksHold.acquire (hlocks : LocksHold system) (processId : ℕ) (run : SweepRun)
    {monitorIds : List ℕ} (hnodup : monitorIds.Nodup)
    (hselected : ∀ monitorId ∈ monitorIds,
      (system.monitor monitorId).any (run.schedule.isDue run.now) = true ∧
        system.isLocked monitorId = false)
    (hprocesses : ∀ otherId other, next.processes.get otherId = some other →
      (otherId ≠ processId ∧ system.processes.get otherId = some other) ∨
        (otherId = processId ∧ other = .sweep
          { run with stage := .selected (readRows system.database.monitors monitorIds) }))
    (hdatabase : next.database = system.database) : LocksHold next := by
  have hrows : ∀ monitorId, next.monitor monitorId = system.monitor monitorId := by
    intro monitorId
    unfold System.monitor
    rw [hdatabase]
  have hfree : ∀ monitorId ∈ (readRows system.database.monitors monitorIds).map Prod.fst,
      ∀ otherId other, system.processes.get otherId = some other →
        monitorId ∉ other.locked.map Prod.fst := by
    intro monitorId hmem otherId other hget
    exact notMem_locked_of_isLocked
      (hselected monitorId ((readRows_sublist _ _).subset hmem)).2 hget
  refine ⟨?_, ?_, ?_, ?_⟩
  · intro otherId other hget
    rcases hprocesses otherId other hget with ⟨-, hbefore⟩ | ⟨-, rfl⟩
    · exact hlocks.nodup otherId other hbefore
    · exact hnodup.sublist (readRows_sublist _ _)
  · intro otherId other hget row hrow
    rw [hrows]
    rcases hprocesses otherId other hget with ⟨-, hbefore⟩ | ⟨-, rfl⟩
    · exact hlocks.stored otherId other hbefore row hrow
    · exact (mem_readRows_iff.mp hrow).2
  · intro otherId otherRun hget row hrow
    rcases hprocesses otherId _ hget with ⟨-, hbefore⟩ | ⟨-, hnew⟩
    · exact hlocks.due otherId otherRun hbefore row hrow
    · obtain rfl := Process.sweep.inj hnew
      obtain ⟨hmem, hstored⟩ := mem_readRows_iff.mp hrow
      have hdue := (hselected row.1 hmem).1
      rw [System.monitor, hstored] at hdue
      exact hdue
  · intro firstId secondId first second hne hfirst hsecond monitorId hmem
    rcases hprocesses firstId first hfirst with ⟨-, hfirstBefore⟩ | ⟨hfirstId, rfl⟩
    · rcases hprocesses secondId second hsecond with ⟨-, hsecondBefore⟩ | ⟨-, rfl⟩
      · exact hlocks.disjoint firstId secondId first second hne hfirstBefore hsecondBefore
          monitorId hmem
      · exact fun hread ↦ hfree monitorId hread firstId first hfirstBefore hmem
    · rcases hprocesses secondId second hsecond with ⟨-, hsecondBefore⟩ | ⟨hsecondId, -⟩
      · exact hfree monitorId hmem secondId second hsecondBefore
      · exact absurd (hfirstId.trans hsecondId.symm) hne

/-- The locks after a process entered a state without a commit. -/
theorem LocksHold.enter (hlocks : LocksHold system) {action : Action} {processId : ℕ}
    {process : Process} (hentered : Entered settings system action process)
    (hprocesses : ∀ otherId other, next.processes.get otherId = some other →
      (otherId = processId ∧ other = process) ∨
        (otherId ≠ processId ∧ system.processes.get otherId = some other))
    (hdatabase : next.database = system.database) : LocksHold next := by
  have hrelease : process.locked = [] → LocksHold next := by
    intro hnone
    refine hlocks.release processId ?_ ?_
    · intro otherId other hget
      rcases hprocesses otherId other hget with ⟨-, rfl⟩ | hbefore
      · exact Or.inr hnone
      · exact Or.inl hbefore
    · intro otherId other _ _ monitorId _
      unfold System.monitor
      rw [hdatabase]
  cases process with
  | sweep run =>
    cases hstage : run.stage with
    | selected batch =>
      rw [Entered, hstage] at hentered
      obtain ⟨monitorIds, rfl, hnodup, hselected⟩ := hentered
      refine hlocks.acquire processId run hnodup hselected ?_ hdatabase
      · intro otherId other hget
        rcases hprocesses otherId other hget with ⟨heq, rfl⟩ | hbefore
        · refine Or.inr ⟨heq, ?_⟩
          rw [← hstage]
        · exact Or.inl hbefore
    | _ =>
      refine hrelease ?_
      unfold Process.locked
      dsimp only
      rw [hstage]
  | _ => exact hrelease rfl

/-! ### Claims -/

/-- An item of a claim is found by its key. -/
theorem lookup_of_mem {items : List (ℕ × ℤ)} (hnodup : (items.map Prod.fst).Nodup)
    {monitorId : ℕ} {interval : ℤ} (hmem : (monitorId, interval) ∈ items) :
    items.lookup monitorId = some interval := by
  obtain ⟨first, last, rfl⟩ := List.append_of_mem hmem
  rw [List.lookup_eq_some_iff]
  refine ⟨first, last, rfl, fun item hitem ↦ ?_⟩
  rw [List.map_append, List.map_cons, List.nodup_append] at hnodup
  rw [bne_iff_ne]
  exact (hnodup.2.2 item.1 (List.mem_map_of_mem hitem) monitorId List.mem_cons_self).symm

/-- A row that is no item of a claim is found as it was. -/
theorem get_writeClaims_of_notMem {schedule : Schedule} {now : ℤ} {items : List (ℕ × ℤ)}
    {monitors : Table Monitor} {monitorId : ℕ} (hnot : monitorId ∉ items.map Prod.fst) :
    (writeClaims schedule now items monitors).get monitorId = monitors.get monitorId := by
  have hnone : items.lookup monitorId = none := by
    rw [List.lookup_eq_none_iff]
    intro item hitem
    rw [bne_iff_ne]
    rintro rfl
    exact hnot (List.mem_map_of_mem hitem)
  rw [writeClaims, Table.get_mapRows, hnone]
  exact Option.map_id'

/-- An item of a claim is found advanced. -/
theorem get_writeClaims_of_mem {schedule : Schedule} {now interval : ℤ} {items : List (ℕ × ℤ)}
    {monitors : Table Monitor} {monitorId : ℕ} (hnodup : (items.map Prod.fst).Nodup)
    (hmem : (monitorId, interval) ∈ items) :
    (writeClaims schedule now items monitors).get monitorId =
      (monitors.get monitorId).map (schedule.setNext (some (now + seconds interval))) := by
  rw [writeClaims, Table.get_mapRows, lookup_of_mem hnodup hmem]

/-- The items of a claim are locked rows that are stored as they were read, are due and can be
claimed. -/
theorem LocksHold.of_mem_batchItems (hlocks : LocksHold system) {processId : ℕ} {run : SweepRun}
    {batch : List (ℕ × Monitor)}
    (hget : system.processes.get processId = some (.sweep run))
    (hstage : run.stage = .selected batch) :
    ((batchItems run.schedule batch).map Prod.fst).Nodup ∧
      (∀ monitorId ∈ (batchItems run.schedule batch).map Prod.fst,
        monitorId ∈ (Process.sweep run).locked.map Prod.fst) ∧
      ∀ monitorId interval, (monitorId, interval) ∈ batchItems run.schedule batch →
        ∃ monitor, system.monitor monitorId = some monitor ∧
          run.schedule.isDue run.now monitor = true ∧
            run.schedule.claimInterval monitor = some interval := by
  have hlocked : (Process.sweep run).locked = batch := by
    unfold Process.locked
    dsimp only
    rw [hstage]
  have hsublist := batchItems_sublist run.schedule batch
  refine ⟨?_, ?_, ?_⟩
  · have hnodup := hlocks.nodup processId _ hget
    rw [hlocked] at hnodup
    exact hnodup.sublist hsublist
  · rw [hlocked]
    exact fun monitorId hmem ↦ hsublist.subset hmem
  · intro monitorId interval hmem
    obtain ⟨monitor, hbatch, hclaim⟩ := mem_batchItems_iff.mp hmem
    rw [← hlocked] at hbatch
    exact ⟨monitor, hlocks.stored processId _ hget _ hbatch,
      hlocks.due processId run hget _ hbatch, hclaim⟩

/-! ### Every step -/

/-- After a step that lets a process go on without locks, it has none and the others are as they
were. -/
theorem locked_of_get_modify {processId otherId : ℕ} {process other : Process}
    (hnone : process.locked = [])
    (hget : (system.processes.modify processId fun _ ↦ process).get otherId = some other) :
    (otherId ≠ processId ∧ system.processes.get otherId = some other) ∨ other.locked = [] := by
  rcases of_get_modify hget with ⟨-, rfl⟩ | hbefore
  · exact Or.inr hnone
  · exact Or.inl hbefore

/-- After a phase a sweep has no locks. -/
theorem locked_endPhase (run : SweepRun) : run.endPhase.locked = [] := by
  unfold SweepRun.endPhase
  split <;> rfl

/-- The locks hold after every step. -/
theorem LocksHold.step {action : Action} (hlocks : LocksHold system)
    (htransition : Transition settings system action next) : LocksHold next := by
  cases htransition with
  | started process hentered => exact hlocks.enter hentered (fun _ _ ↦ of_get_start) rfl
  | resumed processId before process hbefore hentered =>
    exact hlocks.enter hentered (fun _ _ ↦ of_get_modify) rfl
  | handed processId run item rest hbefore hstage =>
    exact hlocks.release processId (fun _ _ ↦ locked_of_get_modify rfl) fun _ _ _ _ _ _ ↦ rfl
  | refused processId run item rest hbefore hstage =>
    exact hlocks.release processId (fun _ _ ↦ locked_of_get_modify rfl) fun _ _ _ _ _ _ ↦ rfl
  | claimed processId run batch hbefore hstage =>
    refine hlocks.release processId (fun _ _ ↦ locked_of_get_modify rfl) ?_
    intro otherId other hne hother monitorId hmem
    refine get_writeClaims_of_notMem fun hitem ↦ ?_
    have hlocked := (hlocks.of_mem_batchItems hbefore hstage).2.1 monitorId hitem
    exact hlocks.disjoint processId otherId _ other hne.symm hbefore hother monitorId hlocked hmem
  | recovered processId run items hbefore hstage hunlocked =>
    refine hlocks.release processId (fun _ _ ↦ locked_of_get_modify (locked_endPhase run)) ?_
    intro otherId other _ hother monitorId hmem
    have hnot : monitorId ∉ items.map Prod.fst := by
      intro hfailed
      obtain ⟨item, hitem, rfl⟩ := List.mem_map.mp hfailed
      exact notMem_locked_of_isLocked (hunlocked item hitem) hother hmem
    refine (get_recover run.schedule run.now _ _ monitorId).trans ?_
    simp only [if_neg hnot, Option.map_id']
    rfl
  | inserted processId row skipped hbefore =>
    exact hlocks.release processId (fun _ _ ↦ locked_of_get_modify rfl) fun _ _ _ _ _ _ ↦ rfl
  | created processId createdId row hbefore hreserved =>
    refine hlocks.release processId (fun _ _ ↦ locked_of_get_modify rfl) ?_
    intro otherId other _ hother monitorId hmem
    obtain ⟨locked, hlocked, rfl⟩ := List.mem_map.mp hmem
    refine (Table.get_store hreserved _ _).trans (if_neg ?_)
    exact Table.ne_of_mem_reserved (hlocks.stored otherId other hother locked hlocked) hreserved
  | updated processId monitorId payload loaded stored monitor now hbefore hstored hunlocked
      hcommit =>
    refine hlocks.release processId (fun _ _ ↦ locked_of_get_modify rfl) ?_
    intro otherId other _ hother lockedId hmem
    refine (Table.get_modify _ _ _ _).trans (if_neg ?_)
    rintro rfl
    exact notMem_locked_of_isLocked hunlocked hother hmem
  | deleted processId monitorId hbefore hunlocked =>
    refine hlocks.release processId (fun _ _ ↦ locked_of_get_modify rfl) ?_
    intro otherId other _ hother lockedId hmem
    refine (Table.get_erase _ _ _).trans (if_neg ?_)
    rintro rfl
    exact notMem_locked_of_isLocked hunlocked hother hmem
  | probed processId run after rewrite result stored hbefore hcommit hstored hunlocked =>
    have hnone : after.locked = [] := by cases hcommit <;> rfl
    refine hlocks.release processId (fun _ _ ↦ locked_of_get_modify hnone) ?_
    intro otherId other _ hother lockedId hmem
    refine (Table.get_modify _ _ _ _).trans (if_neg ?_)
    rintro rfl
    exact notMem_locked_of_isLocked hunlocked hother hmem

end PingGuard.Concurrent
