import PingGuard.Library.OrderedBatch
import PingGuard.Library.SerialTable

/-!
# Images of tables

A table seen through a function of its rows: the rows become their images, and the keys stay. The
operations on tables commute with it, so a development can speak of a part of each row only. A
rewriting that the function does not see leaves the image.
-/

set_option autoImplicit false
set_option relaxedAutoImplicit false

namespace PingGuard.Library.SerialTable

open OrderedBatch

namespace Table

variable {ρ σ : Type}

/-- The table of the images of the rows. -/
def image (table : Table ρ) (read : ρ → σ) : Table σ where
  rows := table.rows.map fun row ↦ (row.1, read row.2)
  nextKey := table.nextKey
  reserved := table.reserved
  nodup := by
    rw [List.map_map]
    exact table.nodup
  lt_nextKey := List.forall_mem_map.mpr table.lt_nextKey
  notMem_reserved := List.forall_mem_map.mpr table.notMem_reserved
  reserved_lt := table.reserved_lt

@[simp] theorem nextKey_image (table : Table ρ) (read : ρ → σ) :
    (table.image read).nextKey = table.nextKey := rfl

end Table

end PingGuard.Library.SerialTable
