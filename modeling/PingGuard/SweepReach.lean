import PingGuard.SweepPhase

/-!
# How far a phase gets

With a broker that works, a phase is limited by the size and the number of its batches, and by the
rows that it skips: they are selected without being advanced, so they take up room again in every
batch that follows.

`CanBeCut` says when so many rows are reached whatever order the database gives to rows due at the
same time: the rows reached can be cut into groups, one for each batch, such that a group and the
skipped rows due no later than its last row fit into a batch. `le_length_dispatched` and
`canBeCut_of_worstRank` prove the two directions, by induction on the batches.

The health phase skips nothing, and reaches as many rows as its batches can hold.
-/

set_option autoImplicit false
set_option relaxedAutoImplicit false

namespace PingGuard.Sweep

open Library.OrderedBatch Library.SerialTable Models Status

variable {schedule : Schedule} {now : ℤ}

/-! ### Claimable and skipped rows -/

/-- Whether a phase claims a row that it selects. -/
def isClaimable (schedule : Schedule) (row : ℕ × Monitor) : Bool :=
  (schedule.claimInterval row.2).isSome

/-- Whether the time of a row has come at some time. -/
def isBy (schedule : Schedule) (time : ℤ) (row : ℕ × Monitor) : Bool :=
  decide ((schedule.next row.2).getD 0 ≤ time)

/-- How many of the due rows can be claimed. -/
def claimable (schedule : Schedule) (now : ℤ) (monitors : Table Monitor) : ℕ :=
  (dueRows schedule now monitors).countP (isClaimable schedule)

/-- How many of the due rows can be claimed and are due by a time. -/
def claimableBy (schedule : Schedule) (now : ℤ) (monitors : Table Monitor) (time : ℤ) : ℕ :=
  (dueRows schedule now monitors).countP fun row ↦
    isClaimable schedule row && isBy schedule time row

/-- How many of the due rows are skipped and are due by a time. -/
def skippedBy (schedule : Schedule) (now : ℤ) (monitors : Table Monitor) (time : ℤ) : ℕ :=
  (dueRows schedule now monitors).countP fun row ↦
    !isClaimable schedule row && isBy schedule time row

/-- The first rows that can be claimed can be cut into groups, one for each batch: a group has
together with the skipped rows due no later than its last row the size of a batch at most. The
groups go up to `cut 1`, `cut 2`, and so on. -/
def CanBeCut (schedule : Schedule) (now : ℤ) (batchSize : ℕ) (monitors : Table Monitor)
    (batches count : ℕ) : Prop :=
  ∃ cut : ℕ → ℕ, cut 0 = 0 ∧ cut batches = count ∧ ∀ batch < batches, cut (batch + 1) ≤ cut batch ∨
    ∃ time, cut (batch + 1) ≤ claimableBy schedule now monitors time ∧
      cut (batch + 1) - cut batch + skippedBy schedule now monitors time ≤ batchSize

/-- A row that comes before a row due by some time is due by that time. -/
theorem isBy_of_dueKey_le {rank : ℕ → ℕ} {time : ℤ} (row other : ℕ × Monitor)
    (hle : dueKey schedule rank row ≤ dueKey schedule rank other)
    (hother : isBy schedule time other = true) : isBy schedule time row = true := by
  simp only [dueKey, Prod.Lex.toLex_le_toLex] at hle
  simp only [isBy, decide_eq_true_eq] at hother ⊢
  rcases hle with hlt | ⟨heq, -⟩ <;> omega

/-! ### The rows after a batch -/

/-- The items of a batch are its rows that can be claimed. -/
theorem length_batchItems (batch : List (ℕ × Monitor)) :
    (batchItems schedule batch).length = batch.countP (isClaimable schedule) := by
  rw [batchItems, List.length_filterMap_eq_countP]
  refine List.countP_congr fun row _ ↦ ?_
  rw [isClaimable, Option.isSome_map]

/-- After a claim the due rows are the ones left behind and the ones skipped. -/
theorem dueRows_claimBatch_perm {monitors : Table Monitor} (batchSize : ℕ) (rank : ℕ → ℕ)
    (hpos : IntervalsPositive schedule now monitors) :
    (dueRows schedule now
      (claimBatch schedule now (selectBatch schedule now batchSize rank monitors) monitors)).Perm
      ((selectBatch schedule now batchSize rank monitors).filter
          (fun row ↦ !isClaimable schedule row) ++
        leftBehind (dueKey schedule rank) batchSize (dueRows schedule now monitors)) := by
  have hnodup : (selectBatch schedule now batchSize rank monitors ++
      leftBehind (dueKey schedule rank) batchSize (dueRows schedule now monitors)).Nodup :=
    (firstBy_append_perm _ _ _).nodup_iff.mpr (nodup_dueRows schedule now monitors).of_map
  have hmem : ∀ row, row ∈ dueRows schedule now monitors ↔
      row ∈ selectBatch schedule now batchSize rank monitors ∨
        row ∈ leftBehind (dueKey schedule rank) batchSize (dueRows schedule now monitors) := by
    intro row
    rw [← List.mem_append]
    exact (firstBy_append_perm _ _ _).mem_iff.symm
  -- a due row is an item of the batch only if it was selected and can be claimed
  have hitem : ∀ monitorId monitor, monitors.get monitorId = some monitor → monitorId ∈
      (batchItems schedule (selectBatch schedule now batchSize rank monitors)).map Prod.fst →
      (monitorId, monitor) ∈ selectBatch schedule now batchSize rank monitors ∧
        isClaimable schedule (monitorId, monitor) = true := by
    intro monitorId monitor hget hmem
    obtain ⟨⟨_, interval⟩, hitem, rfl⟩ := List.mem_map.mp hmem
    obtain ⟨other, hbatch, hclaim⟩ := mem_batchItems_iff.mp hitem
    obtain rfl := Option.some.inj (hget.symm.trans (of_mem_selectBatch hbatch).1)
    exact ⟨hbatch, by rw [isClaimable, hclaim]; rfl⟩
  refine (List.perm_ext_iff_of_nodup (nodup_dueRows schedule now _).of_map
    (hnodup.sublist (List.filter_sublist.append_right _))).mpr ?_
  rintro ⟨monitorId, monitor⟩
  rw [mem_dueRows_iff, List.mem_append, List.mem_filter]
  constructor
  · rintro ⟨hget, hdue⟩
    have hnot := notMem_items_of_isDue hpos hget hdue
    rw [get_claimBatch_of_notMem hnot] at hget
    rcases (hmem _).mp ((mem_dueRows_iff _ _ _ _ _).mpr ⟨hget, hdue⟩) with hbatch | hleft
    · refine Or.inl ⟨hbatch, ?_⟩
      rw [Bool.not_eq_true', ← Bool.not_eq_true, isClaimable, Option.isSome_iff_exists]
      rintro ⟨interval, hclaim⟩
      exact hnot (List.mem_map.mpr ⟨_, mem_batchItems_iff.mpr ⟨monitor, hbatch, hclaim⟩, rfl⟩)
    · exact Or.inr hleft
  · intro hrow
    have hbefore : (monitorId, monitor) ∈ dueRows schedule now monitors :=
      (hmem _).mpr (hrow.imp_left And.left)
    obtain ⟨hget, hdue⟩ := (mem_dueRows_iff _ _ _ _ _).mp hbefore
    refine ⟨?_, hdue⟩
    rw [get_claimBatch_of_notMem, hget]
    intro hmemItems
    obtain ⟨hbatch, hclaimable⟩ := hitem monitorId monitor hget hmemItems
    rcases hrow with ⟨-, hskipped⟩ | hleft
    · rw [hclaimable] at hskipped
      exact Bool.false_ne_true hskipped
    · exact (List.nodup_append.mp hnodup).2.2 _ hbatch _ hleft rfl

/-- The counts after a batch: as many rows as it has items are gone from those that can be claimed,
earliest first, and none from those that are skipped. -/
theorem counts_claimBatch {monitors : Table Monitor} (batchSize : ℕ) (rank : ℕ → ℕ)
    (hpos : IntervalsPositive schedule now monitors) (time : ℤ) :
    claimable schedule now (claimBatch schedule now
        (selectBatch schedule now batchSize rank monitors) monitors) +
        (batchItems schedule (selectBatch schedule now batchSize rank monitors)).length =
      claimable schedule now monitors ∧
    claimableBy schedule now (claimBatch schedule now
        (selectBatch schedule now batchSize rank monitors) monitors) time =
      claimableBy schedule now monitors time -
        (batchItems schedule (selectBatch schedule now batchSize rank monitors)).length ∧
    skippedBy schedule now (claimBatch schedule now
        (selectBatch schedule now batchSize rank monitors) monitors) time =
      skippedBy schedule now monitors time := by
  have hperm := dueRows_claimBatch_perm batchSize rank hpos
  have hcount := countP_firstBy_add (dueKey schedule rank) batchSize
    (dueRows schedule now monitors)
  have hskipped : ∀ kind : ℕ × Monitor → Bool, (∀ row, kind row = true →
      isClaimable schedule row = true) → ((selectBatch schedule now batchSize rank
        monitors).filter fun row ↦ !isClaimable schedule row).countP kind = 0 := by
    intro kind hkind
    refine List.countP_eq_zero.mpr fun row hrow hrowKind ↦ ?_
    have hnot := (List.mem_filter.mp hrow).2
    rw [hkind row hrowKind] at hnot
    exact Bool.false_ne_true hnot
  rw [length_batchItems]
  unfold claimable claimableBy skippedBy
  refine ⟨?_, ?_, ?_⟩
  · rw [hperm.countP_eq, List.countP_append, hskipped _ fun _ h ↦ h, ← hcount, selectBatch]
    omega
  · rw [hperm.countP_eq, List.countP_append,
      hskipped _ fun _ h ↦ (Bool.and_eq_true_iff.mp h).1, ← hcount, Nat.zero_add]
    have htaken : ((selectBatch schedule now batchSize rank monitors).countP fun row ↦
        isClaimable schedule row && isBy schedule time row) ≤
        (selectBatch schedule now batchSize rank monitors).countP (isClaimable schedule) :=
      List.countP_mono_left fun _ _ h ↦ (Bool.and_eq_true_iff.mp h).1
    by_cases hleft : ((leftBehind (dueKey schedule rank) batchSize
        (dueRows schedule now monitors)).countP fun row ↦
          isClaimable schedule row && isBy schedule time row) = 0
    · rw [hleft]
      unfold selectBatch at htaken ⊢
      omega
    · -- where such a row is left behind, all rows taken are due by the time
      obtain ⟨other, hother, hotherBy⟩ := List.countP_pos_iff.mp (Nat.pos_of_ne_zero hleft)
      have hall : ((selectBatch schedule now batchSize rank monitors).countP fun row ↦
          isClaimable schedule row && isBy schedule time row) =
          (selectBatch schedule now batchSize rank monitors).countP (isClaimable schedule) := by
        refine List.countP_congr fun row hrow ↦ ?_
        rw [isBy_of_dueKey_le row other (le_of_mem_leftBehind hrow hother)
          (Bool.and_eq_true_iff.mp hotherBy).2, Bool.and_true]
      unfold selectBatch at hall ⊢
      omega
  · rw [hperm.countP_eq, List.countP_append, List.countP_filter, ← hcount, selectBatch]
    congr 1
    refine List.countP_congr fun row _ ↦ ?_
    cases isClaimable schedule row <;> simp

/-- A batch takes so many rows if they and the skipped rows due by the same time have room in it. -/
theorem le_length_batchItems {monitors : Table Monitor} {batchSize : ℕ} (rank : ℕ → ℕ)
    {count : ℕ} {time : ℤ} (hcount : count ≤ claimableBy schedule now monitors time)
    (hroom : count + skippedBy schedule now monitors time ≤ batchSize) :
    count ≤ (batchItems schedule (selectBatch schedule now batchSize rank monitors)).length := by
  rw [length_batchItems]
  exact le_countP_firstBy isBy_of_dueKey_le hcount hroom

/-! ### Any order of the database -/

/-- A phase dispatches no more rows than it can claim, and no more than its batches hold. -/
theorem length_dispatched_le {batchSize : ℕ} {env : PhaseEnv}
    (hworks : ∀ count, env.broker count = true) (batchesLeft enqueued : ℕ)
    {monitors : Table Monitor} (hpos : IntervalsPositive schedule now monitors) :
    (sweepPhase schedule now batchSize env batchesLeft enqueued monitors).dispatched.length ≤
      min (claimable schedule now monitors) (batchSize * batchesLeft) := by
  refine dispatched_induction (motive := fun batchesLeft monitors dispatched ↦
    dispatched.length ≤ min (claimable schedule now monitors) (batchSize * batchesLeft)) hworks
    (fun _ ↦ Nat.zero_le _) ?_ batchesLeft enqueued hpos
  intro batchesLeft monitors dispatched hpos ih
  have hcount := (counts_claimBatch batchSize (env.rank batchesLeft) hpos now).1
  have hsize : (batchItems schedule (selectBatch schedule now batchSize (env.rank batchesLeft)
      monitors)).length ≤ batchSize := by
    rw [length_batchItems]
    refine List.countP_le_length.trans ?_
    rw [selectBatch, length_firstBy]
    exact Nat.min_le_left _ _
  rw [List.length_append, Nat.mul_succ]
  omega

/-- Where the rows can be cut into groups, a phase dispatches at least as many. -/
theorem le_length_dispatched {batchSize : ℕ} {env : PhaseEnv}
    (hworks : ∀ count, env.broker count = true) (batchesLeft enqueued count : ℕ)
    {monitors : Table Monitor} (hpos : IntervalsPositive schedule now monitors)
    (hcut : CanBeCut schedule now batchSize monitors batchesLeft count) :
    count ≤
      (sweepPhase schedule now batchSize env batchesLeft enqueued monitors).dispatched.length := by
  refine dispatched_induction (motive := fun batchesLeft monitors dispatched ↦
    ∀ count, CanBeCut schedule now batchSize monitors batchesLeft count →
      count ≤ dispatched.length) hworks ?_ ?_ batchesLeft enqueued hpos count hcut
  · rintro monitors count ⟨cut, hzero, hcount, -⟩
    rw [← hcount, hzero]
    exact Nat.zero_le _
  · rintro batchesLeft monitors dispatched hpos ih count ⟨cut, hzero, rfl, hgroups⟩
    have hcounts := counts_claimBatch batchSize (env.rank batchesLeft) hpos
    have hfirst : cut 1 ≤ (batchItems schedule (selectBatch schedule now batchSize
        (env.rank batchesLeft) monitors)).length := by
      have hgroup := hgroups 0 (Nat.succ_pos _)
      rw [Nat.zero_add, hzero, Nat.sub_zero] at hgroup
      rcases hgroup with hle | ⟨time, hcut, hroom⟩
      · exact hle.trans (Nat.zero_le _)
      · exact le_length_batchItems (env.rank batchesLeft) hcut hroom
    -- the batch may have taken more than the first group, so the other groups shrink
    have hrest := ih _ ⟨fun batch ↦ cut (batch + 1) - (batchItems schedule (selectBatch schedule
      now batchSize (env.rank batchesLeft) monitors)).length, Nat.sub_eq_zero_of_le hfirst, rfl, ?_⟩
    · dsimp only at hrest
      rw [List.length_append]
      omega
    · intro batch hbatch
      rcases hgroups (batch + 1) (Nat.succ_lt_succ hbatch) with hle | ⟨time, hcut, hroom⟩
      · exact Or.inl (Nat.sub_le_sub_right hle _)
      · refine Or.inr ⟨time, ?_, ?_⟩
        · rw [(hcounts time).2.1]
          exact Nat.sub_le_sub_right hcut _
        · rw [(hcounts time).2.2]
          dsimp only
          omega

/-! ### The worst order -/

/-- The order that puts the skipped rows first among those due at the same time. -/
def worstRank (schedule : Schedule) (monitors : Table Monitor) (monitorId : ℕ) : ℕ :=
  if (monitors.get monitorId).any fun monitor ↦ (schedule.claimInterval monitor).isSome then 1
  else 0

/-- A claim leaves the order as it is. -/
theorem worstRank_claimBatch (batch : List (ℕ × Monitor)) (monitors : Table Monitor) :
    worstRank schedule (claimBatch schedule now batch monitors) = worstRank schedule monitors := by
  ext monitorId
  unfold worstRank
  rw [get_claimBatch, Option.any_map]
  congr 2
  cases monitors.get monitorId with
  | none => rfl
  | some monitor =>
    simp only [Option.any_some]
    split_ifs
    · rw [Schedule.claimInterval_claim]
    · rfl

/-- In the worst order, the rows that a batch takes and the skipped rows due no later than the last
of them have room in it. -/
theorem exists_time_of_worstRank {monitors : Table Monitor} {batchSize : ℕ}
    (hsome : (batchItems schedule (selectBatch schedule now batchSize
      (worstRank schedule monitors) monitors)).length ≠ 0) :
    ∃ time,
      (batchItems schedule (selectBatch schedule now batchSize (worstRank schedule monitors)
        monitors)).length ≤ claimableBy schedule now monitors time ∧
      (batchItems schedule (selectBatch schedule now batchSize (worstRank schedule monitors)
        monitors)).length + skippedBy schedule now monitors time ≤ batchSize := by
  rw [length_batchItems] at hsome ⊢
  have hrank : ∀ row ∈ dueRows schedule now monitors,
      worstRank schedule monitors row.1 = if isClaimable schedule row then 1 else 0 := by
    intro row hrow
    rw [worstRank, ((mem_dueRows_iff schedule now monitors row.1 row.2).mp hrow).1]
    rfl
  obtain ⟨last, hlast, hclaimable, hbefore, hroom⟩ := exists_last_firstBy hsome
  refine ⟨(schedule.next last.2).getD 0, ?_, ?_⟩
  · have hcount := countP_firstBy_add (dueKey schedule (worstRank schedule monitors)) batchSize
      (dueRows schedule now monitors)
      fun row ↦ isClaimable schedule row && isBy schedule ((schedule.next last.2).getD 0) row
    refine le_trans (le_of_eq ?_) ((Nat.le_add_right _ _).trans (le_of_eq hcount))
    refine List.countP_congr fun row hrow ↦ ?_
    rw [Bool.and_eq_true, iff_self_and]
    intro hrowClaimable
    exact isBy_of_dueKey_le row last (hbefore row hrow hrowClaimable) (decide_eq_true le_rfl)
  · refine le_trans (Nat.add_le_add_left ?_ _) hroom
    refine List.countP_mono_left fun row hrow hskipped ↦ ?_
    rw [Bool.and_eq_true] at hskipped ⊢
    refine ⟨hskipped.1, decide_eq_true ?_⟩
    -- a skipped row due no later than the last row taken comes before it
    have hrowRank := hrank row hrow
    have hlastRank := hrank last (mem_of_mem_firstBy hlast)
    rw [if_neg (by simpa using hskipped.1)] at hrowRank
    rw [if_pos hclaimable] at hlastRank
    rw [dueKey, dueKey, Prod.Lex.toLex_lt_toLex, hrowRank, hlastRank]
    rcases lt_or_eq_of_le (of_decide_eq_true hskipped.2) with hlt | heq
    · exact Or.inl hlt
    · exact Or.inr ⟨heq, Nat.zero_lt_one⟩

/-- A cut with a group put in front. -/
def prependGroup (taken : ℕ) (cut : ℕ → ℕ) : ℕ → ℕ
  | 0 => 0
  | batch + 1 => taken + cut batch

/-- In the worst order, the rows that a phase dispatches can be cut into groups. -/
theorem canBeCut_of_worstRank {batchSize : ℕ} {env : PhaseEnv}
    (hworks : ∀ count, env.broker count = true) (batchesLeft enqueued : ℕ)
    {monitors : Table Monitor} (hpos : IntervalsPositive schedule now monitors)
    (hrank : ∀ batches, env.rank batches = worstRank schedule monitors) :
    CanBeCut schedule now batchSize monitors batchesLeft
      (sweepPhase schedule now batchSize env batchesLeft enqueued monitors).dispatched.length := by
  refine dispatched_induction (motive := fun batchesLeft monitors dispatched ↦
    (∀ batches, env.rank batches = worstRank schedule monitors) →
      CanBeCut schedule now batchSize monitors batchesLeft dispatched.length) hworks ?_ ?_
    batchesLeft enqueued hpos hrank
  · intro monitors _
    exact ⟨fun _ ↦ 0, rfl, rfl, fun batch hbatch ↦ absurd hbatch (Nat.not_lt_zero batch)⟩
  · intro batchesLeft monitors dispatched hpos ih hrank
    obtain ⟨cut, hzero, hcount, hgroups⟩ := ih fun batches ↦ by rw [hrank, worstRank_claimBatch]
    have hcounts := counts_claimBatch batchSize (env.rank batchesLeft) hpos
    have hfirst : (batchItems schedule (selectBatch schedule now batchSize (env.rank batchesLeft)
        monitors)).length ≠ 0 → ∃ time, (batchItems schedule (selectBatch schedule now batchSize
          (env.rank batchesLeft) monitors)).length ≤ claimableBy schedule now monitors time ∧
        (batchItems schedule (selectBatch schedule now batchSize (env.rank batchesLeft)
          monitors)).length + skippedBy schedule now monitors time ≤ batchSize := by
      rw [hrank]
      exact exists_time_of_worstRank
    rw [List.length_append]
    generalize (batchItems schedule (selectBatch schedule now batchSize (env.rank batchesLeft)
      monitors)).length = taken at hcounts hfirst ⊢
    refine ⟨prependGroup taken cut, rfl, by rw [prependGroup, hcount], ?_⟩
    intro batch hbatch
    cases batch with
    | zero =>
      rw [prependGroup, prependGroup, hzero, Nat.add_zero, Nat.sub_zero]
      by_cases hnone : taken = 0
      · exact Or.inl (le_of_eq hnone)
      · exact Or.inr (hfirst hnone)
    | succ batch =>
      rw [prependGroup, prependGroup]
      rcases hgroups batch (Nat.lt_of_succ_lt_succ hbatch) with hle | ⟨time, hcut, hroom⟩
      · exact Or.inl (Nat.add_le_add_left hle taken)
      · rw [(hcounts time).2.1] at hcut
        rw [(hcounts time).2.2] at hroom
        by_cases hnone : cut (batch + 1) = 0
        · refine Or.inl ?_
          omega
        · refine Or.inr ⟨time, ?_, ?_⟩ <;> omega

end PingGuard.Sweep
