import PingGuard.Sweep

/-!
# What a phase of the sweep does

`PhaseEffect` describes the end of a phase from its beginning: the dispatched rows are distinct rows
that were due, each is advanced by its interval, and any other row is as it was, or reset to now if
it was claimed and its dispatch failed. `sweepPhase_effect` proves it by induction on the batches
left. It needs positive intervals: an advanced row must not come up in the next batch again.

With a broker that works, a phase dispatches in the order of the due times, and passes no row over
for one that is due later: `sweepPhase_earliest`.
-/

set_option autoImplicit false
set_option relaxedAutoImplicit false

namespace PingGuard.Sweep

open Library.OrderedBatch Library.SerialTable Models Status

variable {schedule : Schedule} {now : ℤ}

/-! ### One batch -/

/-- The rows of a phase that can be claimed have positive intervals. -/
def IntervalsPositive (schedule : Schedule) (now : ℤ) (monitors : Table Monitor) : Prop :=
  ∀ monitorId monitor interval, monitors.get monitorId = some monitor →
    schedule.isDue now monitor = true → schedule.claimInterval monitor = some interval →
      0 < interval

/-- A claimed item is found advanced. -/
theorem get_claimBatch_of_mem {monitors : Table Monitor} {batchSize : ℕ} {rank : ℕ → ℕ}
    {monitorId : ℕ} {interval : ℤ}
    (hmem : (monitorId, interval) ∈
      batchItems schedule (selectBatch schedule now batchSize rank monitors)) :
    ∃ monitor, monitors.get monitorId = some monitor ∧ schedule.isDue now monitor = true ∧
      schedule.claimInterval monitor = some interval ∧
      (claimBatch schedule now (selectBatch schedule now batchSize rank monitors) monitors).get
        monitorId = some (schedule.setNext (some (now + seconds interval)) monitor) := by
  obtain ⟨monitor, hbatch, hclaim⟩ := mem_batchItems_iff.mp hmem
  obtain ⟨hget, hdue⟩ := of_mem_selectBatch hbatch
  refine ⟨monitor, hget, hdue, hclaim, ?_⟩
  rw [get_claimBatch, hget, Option.map_some, if_pos (List.mem_map.mpr ⟨_, hbatch, rfl⟩),
    Schedule.claim, hclaim]

/-- A row that is no item of the batch is found as it was. -/
theorem get_claimBatch_of_notMem {monitors : Table Monitor} {batchSize : ℕ} {rank : ℕ → ℕ}
    {monitorId : ℕ}
    (hnot : monitorId ∉
      (batchItems schedule (selectBatch schedule now batchSize rank monitors)).map Prod.fst) :
    (claimBatch schedule now (selectBatch schedule now batchSize rank monitors) monitors).get
      monitorId = monitors.get monitorId := by
  rw [get_claimBatch]
  cases hget : monitors.get monitorId with
  | none => rfl
  | some monitor =>
    rw [Option.map_some]
    split_ifs with hbatch
    · -- a selected row that is no item is skipped
      obtain ⟨⟨_, other⟩, hrow, rfl⟩ := List.mem_map.mp hbatch
      obtain rfl := Option.some.inj (hget.symm.trans (of_mem_selectBatch hrow).1)
      cases hclaim : schedule.claimInterval monitor with
      | none => rw [Schedule.claim, hclaim]
      | some interval =>
        exact absurd (List.mem_map.mpr ⟨_, mem_batchItems_iff.mpr ⟨monitor, hrow, hclaim⟩, rfl⟩)
          hnot
    · rfl

/-- A claimed item is not due after the claim. -/
theorem notMem_items_of_isDue {monitors : Table Monitor} {batchSize : ℕ} {rank : ℕ → ℕ}
    (hpos : IntervalsPositive schedule now monitors) {monitorId : ℕ} {monitor : Monitor}
    (hget : (claimBatch schedule now (selectBatch schedule now batchSize rank monitors)
      monitors).get monitorId = some monitor) (hdue : schedule.isDue now monitor = true) :
    monitorId ∉
      (batchItems schedule (selectBatch schedule now batchSize rank monitors)).map Prod.fst := by
  intro hmem
  obtain ⟨⟨_, interval⟩, hitem, rfl⟩ := List.mem_map.mp hmem
  obtain ⟨before, hbefore, hbeforeDue, hclaim, hafter⟩ := get_claimBatch_of_mem hitem
  have hnotDue : schedule.isDue now (schedule.claim now before) = false :=
    Schedule.isDue_claim hclaim (hpos _ before interval hbefore hbeforeDue hclaim)
  rw [Schedule.claim, hclaim] at hnotDue
  rw [Option.some.inj (hget.symm.trans hafter), hnotDue] at hdue
  exact Bool.false_ne_true hdue

/-- A claim leaves positive intervals positive. -/
theorem IntervalsPositive.claimBatch {monitors : Table Monitor} {batchSize : ℕ} {rank : ℕ → ℕ}
    (hpos : IntervalsPositive schedule now monitors) :
    IntervalsPositive schedule now
      (claimBatch schedule now (selectBatch schedule now batchSize rank monitors) monitors) := by
  intro monitorId monitor interval hget hdue hclaim
  rw [get_claimBatch_of_notMem (notMem_items_of_isDue hpos hget hdue)] at hget
  exact hpos monitorId monitor interval hget hdue hclaim

/-! ### The whole phase -/

/-- The effect of a phase: what is dispatched was due and is advanced, and what is not dispatched is
as it was or, after a failed dispatch, due now. -/
structure PhaseEffect (schedule : Schedule) (now : ℤ) (before after : Table Monitor)
    (dispatched : List (ℕ × ℤ)) : Prop where
  nodup : (dispatched.map Prod.fst).Nodup
  advanced : ∀ monitorId interval, (monitorId, interval) ∈ dispatched →
    ∃ monitor, before.get monitorId = some monitor ∧ schedule.isDue now monitor = true ∧
      schedule.claimInterval monitor = some interval ∧
        after.get monitorId = some (schedule.setNext (some (now + seconds interval)) monitor)
  kept : ∀ monitorId, monitorId ∉ dispatched.map Prod.fst →
    after.get monitorId = before.get monitorId ∨
      ∃ monitor, before.get monitorId = some monitor ∧ schedule.isDue now monitor = true ∧
        schedule.claimInterval monitor ≠ none ∧
          after.get monitorId = some (schedule.setNext (some now) monitor)

/-- A phase that does nothing has no effect. -/
theorem PhaseEffect.refl (monitors : Table Monitor) :
    PhaseEffect schedule now monitors monitors [] where
  nodup := List.nodup_nil
  advanced := fun _ _ hmem ↦ absurd hmem List.not_mem_nil
  kept := fun _ _ ↦ Or.inl rfl

/-- A batch that is dispatched whole and the effect of what follows compose. -/
theorem PhaseEffect.claimBatch_trans {monitors after : Table Monitor} {batchSize : ℕ}
    {rank : ℕ → ℕ} {dispatched : List (ℕ × ℤ)} (hpos : IntervalsPositive schedule now monitors)
    (hrest : PhaseEffect schedule now
      (claimBatch schedule now (selectBatch schedule now batchSize rank monitors) monitors)
      after dispatched) :
    PhaseEffect schedule now monitors after
      (batchItems schedule (selectBatch schedule now batchSize rank monitors) ++ dispatched) := by
  have hdisjoint : ∀ monitorId ∈ dispatched.map Prod.fst, monitorId ∉
      (batchItems schedule (selectBatch schedule now batchSize rank monitors)).map Prod.fst := by
    intro monitorId hmem
    obtain ⟨⟨_, interval⟩, hitem, rfl⟩ := List.mem_map.mp hmem
    obtain ⟨monitor, hget, hdue, -, -⟩ := hrest.advanced _ interval hitem
    exact notMem_items_of_isDue hpos hget hdue
  refine ⟨?_, ?_, ?_⟩
  · rw [List.map_append, List.nodup_append]
    refine ⟨(nodup_selectBatch schedule now batchSize rank monitors).sublist
      (batchItems_sublist schedule _), hrest.nodup, ?_⟩
    rintro monitorId hitem _ hother rfl
    exact hdisjoint monitorId hother hitem
  · intro monitorId interval hmem
    rcases List.mem_append.mp hmem with hitem | hlater
    · obtain ⟨monitor, hget, hdue, hclaim, hclaimed⟩ := get_claimBatch_of_mem hitem
      refine ⟨monitor, hget, hdue, hclaim, ?_⟩
      have hnot : monitorId ∉ dispatched.map Prod.fst := fun hmem' ↦
        hdisjoint monitorId hmem' (List.mem_map.mpr ⟨_, hitem, rfl⟩)
      rcases hrest.kept monitorId hnot with hsame | ⟨other, hother, hotherDue, -, -⟩
      · rw [hsame, hclaimed]
      · -- an advanced row is not due again
        exact absurd (List.mem_map.mpr ⟨_, hitem, rfl⟩)
          (notMem_items_of_isDue hpos hother hotherDue)
    · obtain ⟨monitor, hget, hdue, hclaim, hafter⟩ := hrest.advanced monitorId interval hlater
      rw [get_claimBatch_of_notMem (notMem_items_of_isDue hpos hget hdue)] at hget
      exact ⟨monitor, hget, hdue, hclaim, hafter⟩
  · intro monitorId hnot
    rw [List.map_append, List.mem_append, not_or] at hnot
    rcases hrest.kept monitorId hnot.2 with hsame | ⟨monitor, hget, hdue, hclaim, hafter⟩
    · exact Or.inl (hsame.trans (get_claimBatch_of_notMem hnot.1))
    · rw [get_claimBatch_of_notMem hnot.1] at hget
      exact Or.inr ⟨monitor, hget, hdue, hclaim, hafter⟩

/-- A batch whose dispatch fails at some item, and its recovery: the items before are advanced, the
others are due now. -/
theorem PhaseEffect.of_recover {monitors : Table Monitor} {batchSize : ℕ} {rank : ℕ → ℕ}
    {sent failed : List (ℕ × ℤ)}
    (hitems : sent ++ failed =
      batchItems schedule (selectBatch schedule now batchSize rank monitors)) :
    PhaseEffect schedule now monitors
      (recover schedule now (failed.map Prod.fst)
        (claimBatch schedule now (selectBatch schedule now batchSize rank monitors) monitors))
      sent := by
  have hnodup : ((sent ++ failed).map Prod.fst).Nodup := by
    rw [hitems]
    exact (nodup_selectBatch schedule now batchSize rank monitors).sublist
      (batchItems_sublist schedule _)
  rw [List.map_append, List.nodup_append] at hnodup
  refine ⟨hnodup.1, ?_, ?_⟩
  · intro monitorId interval hmem
    obtain ⟨monitor, hget, hdue, hclaim, hclaimed⟩ :=
      get_claimBatch_of_mem (hitems ▸ List.mem_append_left failed hmem)
    refine ⟨monitor, hget, hdue, hclaim, ?_⟩
    have hnotFailed : monitorId ∉ failed.map Prod.fst := fun hfailed ↦
      hnodup.2.2 monitorId (List.mem_map.mpr ⟨_, hmem, rfl⟩) monitorId hfailed rfl
    rw [get_recover, hclaimed, Option.map_some, if_neg hnotFailed]
  · intro monitorId hnot
    by_cases hfailed : monitorId ∈ failed.map Prod.fst
    · obtain ⟨⟨_, interval⟩, hitem, rfl⟩ := List.mem_map.mp hfailed
      obtain ⟨monitor, hget, hdue, hclaim, hclaimed⟩ :=
        get_claimBatch_of_mem (hitems ▸ List.mem_append_right sent hitem)
      refine Or.inr ⟨monitor, hget, hdue, by rw [hclaim]; exact Option.some_ne_none interval, ?_⟩
      rw [get_recover, hclaimed, Option.map_some, if_pos hfailed, Schedule.setNext_setNext]
    · refine Or.inl ?_
      have hnotItem : monitorId ∉ (batchItems schedule
          (selectBatch schedule now batchSize rank monitors)).map Prod.fst := by
        rw [← hitems, List.map_append, List.mem_append]
        exact fun h ↦ h.elim hnot hfailed
      rw [get_recover, get_claimBatch_of_notMem hnotItem]
      simp only [if_neg hfailed, Option.map_id_fun', id_eq]

/-- The effect of a phase, for every pattern of broker failures.
Assumes: recovery transactions succeed, or are not needed, and the intervals are positive. -/
theorem sweepPhase_effect {batchSize : ℕ} {env : PhaseEnv}
    (hrecovers : env.recovers = true ∨ ∀ count, env.broker count = true)
    (batchesLeft enqueued : ℕ) {monitors : Table Monitor}
    (hpos : IntervalsPositive schedule now monitors) :
    PhaseEffect schedule now monitors
        (sweepPhase schedule now batchSize env batchesLeft enqueued monitors).monitors
        (sweepPhase schedule now batchSize env batchesLeft enqueued monitors).dispatched ∧
      (sweepPhase schedule now batchSize env batchesLeft enqueued monitors).enqueued =
        enqueued +
          (sweepPhase schedule now batchSize env batchesLeft enqueued monitors).dispatched.length
    := by
  induction batchesLeft generalizing enqueued monitors with
  | zero => exact ⟨PhaseEffect.refl monitors, rfl⟩
  | succ batchesLeft ih =>
    unfold sweepPhase
    dsimp only
    by_cases hempty : selectBatch schedule now batchSize (env.rank batchesLeft) monitors = []
    · rw [if_pos hempty]
      exact ⟨PhaseEffect.refl monitors, rfl⟩
    rw [if_neg hempty]
    have hclaimed : IntervalsPositive schedule now (claimBatch schedule now
        (selectBatch schedule now batchSize (env.rank batchesLeft) monitors) monitors) :=
      hpos.claimBatch
    have hitems := dispatch_append env.broker enqueued
      (batchItems schedule (selectBatch schedule now batchSize (env.rank batchesLeft) monitors))
    rcases hdispatch : dispatch env.broker enqueued (batchItems schedule
      (selectBatch schedule now batchSize (env.rank batchesLeft) monitors)) with ⟨sent, failed⟩
    rw [hdispatch] at hitems
    dsimp only at hitems ⊢
    cases failed with
    | nil =>
      rw [List.append_nil] at hitems
      obtain ⟨heffect, hcount⟩ := ih (enqueued + sent.length) hclaimed
      refine ⟨?_, ?_⟩
      · rw [hitems]
        rw [hitems] at heffect
        exact heffect.claimBatch_trans hpos
      · rw [hcount, List.length_append, Nat.add_assoc]
    | cons item rest =>
      rcases hrecovers with hrecovers | hworks
      · dsimp only
        rw [if_pos hrecovers]
        exact ⟨PhaseEffect.of_recover hitems, rfl⟩
      · -- a broker that works leaves nothing to recover
        rw [dispatch_of_works hworks] at hdispatch
        exact absurd (Prod.mk.inj hdispatch).2 (List.cons_ne_nil item rest).symm

/-! ### Which columns a phase touches -/

/-- Whether a table is the other with nothing but the times of a schedule changed, and those only of
rows that can be claimed. -/
def RescheduledTable (schedule : Schedule) (before after : Table Monitor) : Prop :=
  ∃ rewrite : ℕ → Monitor → Monitor,
    (∀ monitorId monitor, schedule.Rescheduled monitor (rewrite monitorId monitor)) ∧
      after = before.mapRows rewrite

/-- Whether every row of a table is as a sweep leaves the row of the other. -/
def MovedTable (schedule : Schedule) (now : ℤ) (before after : Table Monitor) : Prop :=
  ∃ rewrite : ℕ → Monitor → Monitor,
    (∀ monitorId monitor, schedule.Moved now monitor (rewrite monitorId monitor)) ∧
      after = before.mapRows rewrite

theorem MovedTable.refl (monitors : Table Monitor) : MovedTable schedule now monitors monitors :=
  ⟨fun _ monitor ↦ monitor, fun _ _ ↦ Or.inl rfl, (Table.mapRows_id monitors).symm⟩

theorem MovedTable.trans {before middle after : Table Monitor}
    (hfirst : MovedTable schedule now before middle)
    (hsecond : MovedTable schedule now middle after) : MovedTable schedule now before after := by
  obtain ⟨first, hfirst, rfl⟩ := hfirst
  obtain ⟨second, hsecond, rfl⟩ := hsecond
  refine ⟨fun monitorId monitor ↦ second monitorId (first monitorId monitor), ?_,
    Table.mapRows_mapRows before first second⟩
  intro monitorId monitor
  exact (hfirst monitorId monitor).trans (hsecond monitorId _)

theorem movedTable_claimBatch (batch : List (ℕ × Monitor)) (monitors : Table Monitor) :
    MovedTable schedule now monitors (claimBatch schedule now batch monitors) := by
  refine ⟨_, ?_, rfl⟩
  intro monitorId monitor
  split_ifs
  · exact Schedule.moved_claim schedule now monitor
  · exact Or.inl rfl

/-- A recovery of rows that can be claimed. -/
theorem movedTable_recover {failedIds : List ℕ} {monitors : Table Monitor}
    (hfailed : ∀ monitorId ∈ failedIds, ∀ monitor, monitors.get monitorId = some monitor →
      schedule.claimInterval monitor ≠ none) :
    MovedTable schedule now monitors (recover schedule now failedIds monitors) := by
  refine ⟨fun monitorId monitor ↦
    if monitorId ∈ failedIds ∧ schedule.claimInterval monitor ≠ none then
      schedule.setNext (some now) monitor
    else monitor, ?_, Table.mapRows_congr ?_⟩
  · intro monitorId monitor
    dsimp only
    split_ifs with hclaim
    · obtain ⟨interval, hinterval⟩ := Option.ne_none_iff_exists'.mp hclaim.2
      exact Or.inr ⟨interval, hinterval, Or.inl rfl⟩
    · exact Or.inl rfl
  · intro monitorId monitor hget
    by_cases hmem : monitorId ∈ failedIds
    · rw [if_pos hmem, if_pos ⟨hmem, hfailed monitorId hmem monitor hget⟩]
    · rw [if_neg hmem, if_neg fun h ↦ hmem h.1]

/-- A phase leaves every row as it was, advances it by its interval, or resets it to its own time,
whatever fails. -/
theorem sweepPhase_moved (schedule : Schedule) (now : ℤ) (batchSize : ℕ) (env : PhaseEnv)
    (batchesLeft enqueued : ℕ) (monitors : Table Monitor) :
    MovedTable schedule now monitors
      (sweepPhase schedule now batchSize env batchesLeft enqueued monitors).monitors := by
  induction batchesLeft generalizing enqueued monitors with
  | zero => exact MovedTable.refl monitors
  | succ batchesLeft ih =>
    unfold sweepPhase
    dsimp only
    by_cases hempty : selectBatch schedule now batchSize (env.rank batchesLeft) monitors = []
    · rw [if_pos hempty]
      exact MovedTable.refl monitors
    rw [if_neg hempty]
    have hclaimed : MovedTable schedule now monitors (claimBatch schedule now
        (selectBatch schedule now batchSize (env.rank batchesLeft) monitors) monitors) :=
      movedTable_claimBatch _ monitors
    have hitems := dispatch_append env.broker enqueued
      (batchItems schedule (selectBatch schedule now batchSize (env.rank batchesLeft) monitors))
    rcases hdispatch : dispatch env.broker enqueued (batchItems schedule
      (selectBatch schedule now batchSize (env.rank batchesLeft) monitors)) with ⟨sent, failed⟩
    rw [hdispatch] at hitems
    dsimp only at hitems ⊢
    cases failed with
    | nil => exact hclaimed.trans (ih _ _)
    | cons item rest =>
      dsimp only
      by_cases hrecovers : env.recovers = true
      · rw [if_pos hrecovers]
        refine hclaimed.trans (movedTable_recover ?_)
        intro monitorId hmem monitor hget
        obtain ⟨⟨_, interval⟩, hitem, rfl⟩ := List.mem_map.mp hmem
        obtain ⟨before, -, -, hclaim, hafter⟩ :=
          get_claimBatch_of_mem (hitems ▸ List.mem_append_right sent hitem)
        obtain rfl := Option.some.inj (hget.symm.trans hafter)
        rw [Schedule.claimInterval_setNext, hclaim]
        exact Option.some_ne_none interval
      · rw [if_neg hrecovers]
        exact hclaimed

/-- A phase changes nothing but the times of its schedule, and those only of rows that it can claim,
whatever fails. -/
theorem sweepPhase_rescheduled (schedule : Schedule) (now : ℤ) (batchSize : ℕ) (env : PhaseEnv)
    (batchesLeft enqueued : ℕ) (monitors : Table Monitor) :
    RescheduledTable schedule monitors
      (sweepPhase schedule now batchSize env batchesLeft enqueued monitors).monitors := by
  obtain ⟨rewrite, hrewrite, hafter⟩ :=
    sweepPhase_moved schedule now batchSize env batchesLeft enqueued monitors
  exact ⟨rewrite, fun monitorId monitor ↦ (hrewrite monitorId monitor).rescheduled, hafter⟩

/-! ### A broker that works -/

/-- Claiming nothing changes nothing. -/
theorem claimBatch_nil (monitors : Table Monitor) :
    claimBatch schedule now [] monitors = monitors := by
  simp only [claimBatch, List.map_nil, List.not_mem_nil, if_false, Table.mapRows_id]

/-- A phase that finds nothing to select does nothing. -/
theorem sweepPhase_of_no_batch {batchSize : ℕ} {env : PhaseEnv} {monitors : Table Monitor}
    (hnone : min batchSize (dueRows schedule now monitors).length = 0)
    (batchesLeft enqueued : ℕ) :
    sweepPhase schedule now batchSize env batchesLeft enqueued monitors =
      ⟨monitors, enqueued, []⟩ := by
  cases batchesLeft with
  | zero => rfl
  | succ batchesLeft =>
    unfold sweepPhase
    dsimp only
    rw [if_pos]
    rw [← List.length_eq_zero_iff, selectBatch, length_firstBy]
    exact hnone

/-- A phase dispatches its first batch and goes on with the rows that are left. -/
theorem dispatched_sweepPhase_succ {batchSize : ℕ} {env : PhaseEnv}
    (hworks : ∀ count, env.broker count = true) (batchesLeft enqueued : ℕ)
    (monitors : Table Monitor) :
    (sweepPhase schedule now batchSize env (batchesLeft + 1) enqueued monitors).dispatched =
      batchItems schedule (selectBatch schedule now batchSize (env.rank batchesLeft) monitors) ++
        (sweepPhase schedule now batchSize env batchesLeft
          (enqueued + (batchItems schedule (selectBatch schedule now batchSize
            (env.rank batchesLeft) monitors)).length)
          (claimBatch schedule now (selectBatch schedule now batchSize (env.rank batchesLeft)
            monitors) monitors)).dispatched := by
  by_cases hempty : selectBatch schedule now batchSize (env.rank batchesLeft) monitors = []
  · have hnone : min batchSize (dueRows schedule now monitors).length = 0 := by
      rw [← length_firstBy (dueKey schedule (env.rank batchesLeft)) batchSize, ← selectBatch,
        hempty, List.length_nil]
    rw [hempty, claimBatch_nil, sweepPhase_of_no_batch hnone, sweepPhase_of_no_batch hnone]
    rfl
  · conv_lhs => unfold sweepPhase
    dsimp only
    rw [if_neg hempty, dispatch_of_works hworks]

/-- The induction on the batches of a phase: what holds of no batch, and passes from the rows left
after a batch to the rows before it. -/
theorem dispatched_induction {batchSize : ℕ} {env : PhaseEnv}
    (hworks : ∀ count, env.broker count = true)
    {motive : ℕ → Table Monitor → List (ℕ × ℤ) → Prop} (hzero : ∀ monitors, motive 0 monitors [])
    (hbatch : ∀ batchesLeft monitors dispatched, IntervalsPositive schedule now monitors →
      motive batchesLeft (claimBatch schedule now (selectBatch schedule now batchSize
        (env.rank batchesLeft) monitors) monitors) dispatched →
      motive (batchesLeft + 1) monitors (batchItems schedule (selectBatch schedule now batchSize
        (env.rank batchesLeft) monitors) ++ dispatched))
    (batchesLeft enqueued : ℕ) {monitors : Table Monitor}
    (hpos : IntervalsPositive schedule now monitors) :
    motive batchesLeft monitors
      (sweepPhase schedule now batchSize env batchesLeft enqueued monitors).dispatched := by
  induction batchesLeft generalizing enqueued monitors with
  | zero => exact hzero monitors
  | succ batchesLeft ih =>
    rw [dispatched_sweepPhase_succ hworks]
    exact hbatch batchesLeft monitors _ hpos (ih _ hpos.claimBatch)

/-- A row under one key is due no later than the row under another. -/
def DueNoLater (schedule : Schedule) (monitors : Table Monitor) (monitorId otherId : ℕ) : Prop :=
  ∀ monitor other due otherDue, monitors.get monitorId = some monitor →
    monitors.get otherId = some other → schedule.next monitor = some due →
      schedule.next other = some otherDue → due ≤ otherDue

/-- The rows of a batch stand in the order of their due times. -/
theorem pairwise_selectBatch (schedule : Schedule) (now : ℤ) (batchSize : ℕ) (rank : ℕ → ℕ)
    (monitors : Table Monitor) :
    ((selectBatch schedule now batchSize rank monitors).map Prod.fst).Pairwise
      (DueNoLater schedule monitors) := by
  rw [List.pairwise_map]
  refine (pairwise_firstBy (dueKey schedule rank) batchSize _).imp_of_mem ?_
  intro row otherRow hrow hotherRow hle monitor other due otherDue hget hother hdue hotherDue
  obtain rfl : row.2 = monitor := Option.some.inj ((of_mem_selectBatch hrow).1.symm.trans hget)
  obtain rfl : otherRow.2 = other :=
    Option.some.inj ((of_mem_selectBatch hotherRow).1.symm.trans hother)
  simp only [dueKey, hdue, hotherDue, Option.getD_some, Prod.Lex.toLex_le_toLex] at hle
  rcases hle with hlt | ⟨heq, -⟩
  · exact le_of_lt hlt
  · exact le_of_eq heq

/-- A due row that could be claimed and is not is due no earlier than the claimed ones. -/
theorem dueNoLater_of_mem_items {monitors : Table Monitor} {batchSize : ℕ} {rank : ℕ → ℕ}
    {monitorId otherId : ℕ} {other : Monitor}
    (hmem : monitorId ∈
      (batchItems schedule (selectBatch schedule now batchSize rank monitors)).map Prod.fst)
    (hother : monitors.get otherId = some other) (hdue : schedule.isDue now other = true)
    (hclaim : schedule.claimInterval other ≠ none)
    (hnot : otherId ∉
      (batchItems schedule (selectBatch schedule now batchSize rank monitors)).map Prod.fst) :
    DueNoLater schedule monitors monitorId otherId := by
  intro monitor other' due otherDue hget hother' hnext hotherNext
  obtain rfl := Option.some.inj (hother.symm.trans hother')
  obtain ⟨⟨_, interval⟩, hitem, rfl⟩ := List.mem_map.mp hmem
  obtain ⟨claimed, hbatch, -⟩ := mem_batchItems_iff.mp hitem
  obtain rfl := Option.some.inj ((of_mem_selectBatch hbatch).1.symm.trans hget)
  refine next_le_of_notMem_selectBatch hbatch hnext
    ((mem_dueRows_iff schedule now monitors otherId other).mpr ⟨hother, hdue⟩) hotherNext ?_
  intro hselected
  obtain ⟨otherInterval, hotherClaim⟩ := Option.ne_none_iff_exists'.mp hclaim
  exact hnot (List.mem_map.mpr
    ⟨_, mem_batchItems_iff.mpr ⟨other, hselected, hotherClaim⟩, rfl⟩)

/-- The order of a phase: rows are dispatched in the order of their due times, and a row that could
be dispatched and is not is due no earlier than those dispatched. -/
structure PhaseOrder (schedule : Schedule) (now : ℤ) (before : Table Monitor)
    (dispatched : List (ℕ × ℤ)) : Prop where
  ordered : (dispatched.map Prod.fst).Pairwise (DueNoLater schedule before)
  passed : ∀ monitorId ∈ dispatched.map Prod.fst, ∀ otherId other,
    before.get otherId = some other → schedule.isDue now other = true →
      schedule.claimInterval other ≠ none → otherId ∉ dispatched.map Prod.fst →
        DueNoLater schedule before monitorId otherId

/-- A batch that is dispatched whole and the order of what follows compose. -/
theorem PhaseOrder.claimBatch_trans {monitors after : Table Monitor} {batchSize : ℕ}
    {rank : ℕ → ℕ} {dispatched : List (ℕ × ℤ)} (hpos : IntervalsPositive schedule now monitors)
    (heffect : PhaseEffect schedule now
      (claimBatch schedule now (selectBatch schedule now batchSize rank monitors) monitors)
      after dispatched)
    (horder : PhaseOrder schedule now
      (claimBatch schedule now (selectBatch schedule now batchSize rank monitors) monitors)
      dispatched) :
    PhaseOrder schedule now monitors
      (batchItems schedule (selectBatch schedule now batchSize rank monitors) ++ dispatched) := by
  -- a later row is no item of the batch, is found as it was, and was due and could be claimed
  have hlater : ∀ monitorId ∈ dispatched.map Prod.fst,
      monitorId ∉ (batchItems schedule
        (selectBatch schedule now batchSize rank monitors)).map Prod.fst ∧
      ∃ monitor, monitors.get monitorId = some monitor ∧ schedule.isDue now monitor = true ∧
        schedule.claimInterval monitor ≠ none := by
    intro monitorId hmem
    obtain ⟨⟨_, interval⟩, hitem, rfl⟩ := List.mem_map.mp hmem
    obtain ⟨monitor, hget, hdue, hclaim, -⟩ := heffect.advanced _ interval hitem
    have hnot := notMem_items_of_isDue hpos hget hdue
    rw [get_claimBatch_of_notMem hnot] at hget
    exact ⟨hnot, monitor, hget, hdue, by rw [hclaim]; exact Option.some_ne_none interval⟩
  have htransfer : ∀ monitorId otherId, monitorId ∉ (batchItems schedule
        (selectBatch schedule now batchSize rank monitors)).map Prod.fst →
      otherId ∉ (batchItems schedule
        (selectBatch schedule now batchSize rank monitors)).map Prod.fst →
      DueNoLater schedule (claimBatch schedule now
        (selectBatch schedule now batchSize rank monitors) monitors) monitorId otherId →
      DueNoLater schedule monitors monitorId otherId := by
    intro monitorId otherId hnot hotherNot hle
    unfold DueNoLater at hle
    rw [get_claimBatch_of_notMem hnot, get_claimBatch_of_notMem hotherNot] at hle
    exact hle
  refine ⟨?_, ?_⟩
  · rw [List.map_append, List.pairwise_append]
    refine ⟨(pairwise_selectBatch schedule now batchSize rank monitors).sublist
      (batchItems_sublist schedule _), ?_, ?_⟩
    · refine horder.ordered.imp_of_mem ?_
      intro monitorId otherId hmem hother
      exact htransfer monitorId otherId (hlater monitorId hmem).1 (hlater otherId hother).1
    · intro monitorId hmem otherId hother
      obtain ⟨hnot, other, hget, hdue, hclaim⟩ := hlater otherId hother
      exact dueNoLater_of_mem_items hmem hget hdue hclaim hnot
  · intro monitorId hmem otherId other hother hdue hclaim hnot
    rw [List.map_append, List.mem_append, not_or] at hnot
    rw [List.map_append] at hmem
    rcases List.mem_append.mp hmem with hitem | hrest
    · exact dueNoLater_of_mem_items hitem hother hdue hclaim hnot.1
    · refine htransfer monitorId otherId (hlater monitorId hrest).1 hnot.1
        (horder.passed monitorId hrest otherId other ?_ hdue hclaim hnot.2)
      rw [get_claimBatch_of_notMem hnot.1, hother]

/-- With a broker that works, a phase goes in the order of the due times. -/
theorem sweepPhase_earliest {batchSize : ℕ} {env : PhaseEnv}
    (hworks : ∀ count, env.broker count = true) (batchesLeft enqueued : ℕ)
    {monitors : Table Monitor} (hpos : IntervalsPositive schedule now monitors) :
    PhaseOrder schedule now monitors
      (sweepPhase schedule now batchSize env batchesLeft enqueued monitors).dispatched := by
  induction batchesLeft generalizing enqueued monitors with
  | zero => exact ⟨List.Pairwise.nil, fun _ hmem ↦ absurd hmem List.not_mem_nil⟩
  | succ batchesLeft ih =>
    rw [dispatched_sweepPhase_succ hworks]
    exact PhaseOrder.claimBatch_trans hpos
      (sweepPhase_effect (Or.inr hworks) batchesLeft _ hpos.claimBatch).1 (ih _ hpos.claimBatch)

end PingGuard.Sweep
