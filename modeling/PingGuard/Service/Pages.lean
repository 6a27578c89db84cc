import PingGuard.Concurrent.History
import PingGuard.Library.Pages
import PingGuard.Lifecycle
import PingGuard.Service

/-!
# Pages of monitors

A client that lists all monitors asks for one page after the other, and the database changes in
between: sweeps, probe tasks and other requests run in any interleaving. The pages never repeat a
monitor and come in the order of the ids, if no monitor appears below one that is listed. While
nothing is deleted, they then list every monitor that was there at the first page.

An `INSERT` takes its id before its commit, so a monitor can appear below another one. It does not
where every `INSERT` in progress holds an id above the stored ones (`InsertsAbove`) whenever a page
is read. Otherwise a monitor can be listed twice (`walkedIds_repeats`).
-/

set_option autoImplicit false
set_option relaxedAutoImplicit false

namespace PingGuard.Service

open Concurrent Library.OrderedBatch Library.Pages Library.SerialTable Library.Transition Models

/-! ### Ids -/

/-- The ids of the stored monitors, in order. -/
def monitorIds (database : Database) : List ℕ :=
  (orderedBy Prod.fst database.monitors.rows).map Prod.fst

theorem mem_monitorIds_iff (database : Database) (monitorId : ℕ) :
    monitorId ∈ monitorIds database ↔ (database.monitors.get monitorId).isSome = true := by
  unfold monitorIds
  rw [List.mem_map, Option.isSome_iff_exists]
  constructor
  · rintro ⟨⟨_, monitor⟩, hrow, rfl⟩
    exact ⟨monitor, (Table.mem_rows_iff _ _ _).mp ((orderedBy_perm _ _).mem_iff.mp hrow)⟩
  · rintro ⟨monitor, hget⟩
    exact ⟨(monitorId, monitor),
      (orderedBy_perm _ _).mem_iff.mpr ((Table.mem_rows_iff _ _ _).mpr hget), rfl⟩

/-- The ids are strictly in order. -/
theorem pairwise_monitorIds (database : Database) : (monitorIds database).Pairwise (· < ·) := by
  have hle := List.pairwise_map.mpr (pairwise_orderedBy Prod.fst database.monitors.rows)
  have hnodup : (monitorIds database).Nodup :=
    ((orderedBy_perm _ _).map Prod.fst).nodup_iff.mpr database.monitors.nodup
  exact hle.imp₂ (fun _ _ hle hne ↦ lt_of_le_of_ne hle hne) hnodup

/-- Every `INSERT` that is not committed yet holds an id above those of the stored monitors. -/
def InsertsAbove (system : System) : Prop :=
  ∀ heldId ∈ system.heldIds, ∀ monitorId ∈ monitorIds system.database, monitorId < heldId

/-- The ids after a while: some of those before, and new ones above them. -/
theorem goesOn_of_idsGoOn {before after : System} (hgoesOn : IdsGoOn before after)
    (habove : InsertsAbove before) :
    GoesOn (monitorIds before.database) (monitorIds after.database) := by
  intro laterId hlater hnew monitorId hmem
  rcases hgoesOn.stored laterId ((mem_monitorIds_iff _ _).mp hlater) with hstored | hheld | hge
  · exact absurd ((mem_monitorIds_iff _ _).mpr hstored) hnew
  · exact habove laterId hheld monitorId hmem
  · obtain ⟨monitor, hget⟩ := Option.isSome_iff_exists.mp ((mem_monitorIds_iff _ _).mp hmem)
    exact (Table.lt_nextKey_of_get _ hget).trans_le hge

/-! ### Pages -/

/-- The ids that `list_monitors` answers with. -/
def listedIds (database : Database) (skip limit : ℤ) : List ℕ :=
  match listMonitors database skip limit with
  | .ok ⟨_, .monitors reads, _, _⟩ => reads.map MonitorRead.id
  | _ => []

/-- A page is a page of the ids. -/
theorem listedIds_eq (database : Database) {skip limit : ℕ} (hlimit : 1 ≤ limit ∧ limit ≤ 1000)
    (hskip : skip ≤ 9223372036854775807) :
    listedIds database skip limit = Library.Pages.page skip limit (monitorIds database) := by
  have hvalid : ¬ ((skip : ℤ) < 0 ∨ (limit : ℤ) < 1 ∨ 1000 < (limit : ℤ)) := by omega
  have hfits : ¬ 9223372036854775807 < (skip : ℤ) := by omega
  unfold listedIds listMonitors
  rw [if_neg hvalid, if_neg hfits]
  dsimp only
  rw [List.map_map, Int.toNat_natCast, Int.toNat_natCast, Service.page, Library.Pages.page,
    monitorIds, List.map_take, List.map_drop]
  rfl

/-- What a client gets that asks for so many pages of a size, one in each of some states. -/
def walkedIds (systems : ℕ → System) (size pages : ℕ) : List ℕ :=
  (List.range pages).flatMap fun index ↦
    listedIds (systems index).database ((index * size : ℕ) : ℤ) size

/-- A client that lists the monitors page by page gets their ids in order and none of them twice,
whatever runs between the pages. If no monitor of the first state is deleted in between, and the
pages are enough for these, the client gets all of them.
Assumes: when a page is read, the `INSERT`s in progress hold ids above those of the monitors. -/
theorem pairwise_walkedIds {settings : Concurrent.Settings} {systems : ℕ → System}
    (hruns : ∀ index, Reaches (step settings) (fun _ _ ↦ True) (systems index)
      (systems (index + 1)))
    (habove : ∀ index, InsertsAbove (systems index)) {size pages : ℕ}
    (hsize : 1 ≤ size ∧ size ≤ 1000) (hoffset : pages * size ≤ 9223372036854775807) :
    (walkedIds systems size pages).Pairwise (· < ·) ∧
      ((∀ index monitorId, ((systems 0).monitor monitorId).isSome = true →
          ((systems index).monitor monitorId).isSome = true) →
        (systems 0).database.monitors.rows.length ≤ pages * size →
          ∀ monitorId, ((systems 0).monitor monitorId).isSome = true →
            monitorId ∈ walkedIds systems size pages) := by
  have hids : ∀ first second, first ≤ second → IdsGoOn (systems first) (systems second) := by
    intro first second hle
    induction second, hle using Nat.le_induction with
    | base => exact .refl _
    | succ second _ ih => exact ih.trans (idsGoOn_of_reaches (hruns second))
  have hgoesOn : ∀ first second, first ≤ second →
      GoesOn (monitorIds (systems first).database) (monitorIds (systems second).database) :=
    fun first second hle ↦ goesOn_of_idsGoOn (hids first second hle) (habove first)
  have hsorted : ∀ index, (monitorIds (systems index).database).Pairwise (· < ·) :=
    fun index ↦ pairwise_monitorIds _
  have hpages : walkedIds systems size pages =
      readPages size (fun index ↦ monitorIds (systems index).database) pages := by
    refine List.flatMap_congr fun index hindex ↦ listedIds_eq _ hsize ?_
    exact (Nat.mul_le_mul_right size (Nat.le_of_lt (List.mem_range.mp hindex))).trans hoffset
  rw [hpages]
  refine ⟨pairwise_readPages hsorted hgoesOn size pages, fun hkept henough monitorId hpresent ↦ ?_⟩
  have hall : ∀ index, monitorIds (systems 0).database ⊆ monitorIds (systems index).database := by
    intro index other hmem
    rw [mem_monitorIds_iff] at hmem ⊢
    exact hkept index other hmem
  have hlength : (monitorIds (systems 0).database).length ≤ pages * size := by
    unfold monitorIds
    rw [List.length_map, (orderedBy_perm _ _).length_eq]
    exact henough
  exact subset_readPages hsorted hgoesOn hall hsize.1 hlength
    ((mem_monitorIds_iff _ _).mpr hpresent)

/-- One monitor, and a request that has inserted another and not committed it. -/
def secondInserted : System :=
  let counted := (System.idle .oneMonitor).start (.create Lifecycle.sampleCreate)
  (insertMonitor counted 1 0 0).getD counted

/-- The two monitors. -/
def secondCreated : System := (commitCreate secondInserted 1).getD secondInserted

/-- The first page is read before the commit, and the others after it. -/
def createdBetweenPages : ℕ → System
  | 0 => secondInserted
  | _ + 1 => secondCreated

/-- A client with pages of one monitor gets both. -/
theorem pairwise_walkedIds_createdBetweenPages :
    walkedIds createdBetweenPages 1 2 = [1, 2] ∧
      (walkedIds createdBetweenPages 1 2).Pairwise (· < ·) := by
  have hcreated : step .default secondInserted (.commitCreate 1) = some secondCreated := rfl
  have hruns : ∀ index, Reaches (step .default) (fun _ _ ↦ True) (createdBetweenPages index)
      (createdBetweenPages (index + 1)) := by
    intro index
    cases index with
    | zero => exact Reaches.start.step trivial hcreated
    | succ index => exact .start
  have hheld : secondInserted.heldIds = [2] ∧ monitorIds secondInserted.database = [1] ∧
      secondCreated.heldIds = [] := by decide +kernel
  have habove : ∀ index, InsertsAbove (createdBetweenPages index) := by
    intro index
    cases index with
    | zero =>
      unfold InsertsAbove createdBetweenPages
      rw [hheld.1, hheld.2.1]
      decide
    | succ index =>
      unfold InsertsAbove createdBetweenPages
      rw [hheld.2.2]
      exact List.forall_mem_nil _
  exact ⟨by decide +kernel, (pairwise_walkedIds hruns habove (by decide) (by decide)).1⟩

/-- Two monitors are inserted, and the second is committed first. -/
def overtakingRun : List Action :=
  [.countMonitors Lifecycle.sampleCreate, .countMonitors Lifecycle.sampleCreate,
    .insertMonitor 1 0 0, .insertMonitor 2 0 0, .commitCreate 2]

/-- A client with pages of one monitor gets the second one, and after the commit of the first it
gets the second one again. -/
theorem walkedIds_repeats : ∃ systems : ℕ → System,
    Reaches (step .default) (fun _ _ ↦ True) (System.idle .empty) (systems 0) ∧
    (∀ index, Reaches (step .default) (fun _ _ ↦ True) (systems index) (systems (index + 1))) ∧
    walkedIds systems 1 2 = [2, 2] := by
  have hpages : (run (step .default) (System.idle .empty) overtakingRun).bind (fun first ↦
      (step .default first (.commitCreate 1)).map fun second ↦
        (listedIds first.database 0 1, listedIds second.database 1 1)) = some ([2], [2]) := by
    decide +kernel
  obtain ⟨first, hfirst, hrest⟩ := Option.bind_eq_some_iff.mp hpages
  obtain ⟨second, hsecond, hlisted⟩ := Option.map_eq_some_iff.mp hrest
  obtain ⟨hfirstIds, hsecondIds⟩ := Prod.mk.inj hlisted
  refine ⟨fun index ↦ if index = 0 then first else second,
    reaches_of_run .start (fun _ _ _ ↦ trivial) hfirst, fun index ↦ ?_, ?_⟩
  · cases index with
    | zero => exact Reaches.start.step trivial hsecond
    | succ index => exact .start
  · exact congrArg₂ (· ++ ·) hfirstIds (congrArg (· ++ []) hsecondIds)

end PingGuard.Service
