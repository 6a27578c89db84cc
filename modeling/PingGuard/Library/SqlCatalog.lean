import PingGuard.Library.SqlTable

/-!
# Statements that change a table's definition

A `StoredTable` is a table together with its schema, which statements may change: a check is added
or dropped by its name, a column is updated, and the rows are replaced by others that the schema
admits. Each statement fails as a whole.

A check that was added last is undone by its drop (`dropCheck_uncheck`), and a check that is dropped
can be added again, which gives the same table back (`addCheck_uncheck`).
-/

set_option autoImplicit false
set_option relaxedAutoImplicit false

namespace PingGuard.Library.SqlTable

variable {κ : Type}

/-- A table without rows. -/
def Table.empty (schema : Schema κ) : Table schema where
  rows := []
  admitted := List.forall_mem_nil _
  nodup := List.nodup_nil

/-! ### Dropping a check -/

/-- A schema without the checks of a name. -/
def Schema.withoutCheck (schema : Schema κ) (name : String) : Schema κ :=
  { schema with checks := schema.checks.filter (·.name ≠ name) }

/-- A row is admitted without a check if it is admitted with it. -/
theorem Schema.Admits.withoutCheck {schema : Schema κ} {row : Row κ} (hadmits : schema.Admits row)
    (name : String) : (schema.withoutCheck name).Admits row :=
  ⟨hadmits.1, fun check hcheck ↦ hadmits.2 check (List.mem_of_mem_filter hcheck)⟩

/-- A check whose name is new is dropped by its name. -/
theorem Schema.withoutCheck_withCheck {schema : Schema κ} {check : Check κ}
    (hnew : check.name ∉ schema.checks.map Check.name) :
    (schema.withCheck check).withoutCheck check.name = schema := by
  have hkept : schema.checks.filter (·.name ≠ check.name) = schema.checks := by
    refine List.filter_eq_self.mpr fun other hother ↦ decide_eq_true fun heq ↦ hnew ?_
    exact heq ▸ List.mem_map_of_mem hother
  have hchecks : (schema.checks ++ [check]).filter (·.name ≠ check.name) = schema.checks := by
    rw [List.filter_append, hkept, List.filter_cons_of_neg (by simp), List.filter_nil,
      List.append_nil]
  rw [withoutCheck, withCheck, hchecks]

/-- A table without the checks of a name. -/
def Table.withoutCheck {schema : Schema κ} (table : Table schema) (name : String) :
    Table (schema.withoutCheck name) where
  rows := table.rows
  admitted := fun row hrow ↦ (table.admitted row hrow).withoutCheck name
  nodup := table.nodup

/-- A table without the check that was added last. -/
def Table.uncheck {schema : Schema κ} {check : Check κ} (table : Table (schema.withCheck check)) :
    Table schema where
  rows := table.rows
  admitted := fun row hrow ↦ ((schema.admits_withCheck check row).mp (table.admitted row hrow)).1
  nodup := table.nodup

/-- A table of a schema is its rows. -/
theorem Table.eq_of_rows_eq {schema : Schema κ} {first second : Table schema}
    (hrows : first.rows = second.rows) : first = second := by
  obtain ⟨rows, hadmitted, hnodup⟩ := first
  obtain rfl := hrows
  rfl

/-- A check that was taken away can be added again. -/
theorem Table.addCheck_uncheck {schema : Schema κ} {check : Check κ}
    (table : Table (schema.withCheck check)) : table.uncheck.addCheck check = some table := by
  have hholds : ∀ row ∈ table.rows, check.holds row = true := fun row hrow ↦
    ((schema.admits_withCheck check row).mp (table.admitted row hrow)).2
  obtain ⟨checked, hchecked⟩ := (table.uncheck.addCheck_isSome_iff check).mpr hholds
  exact hchecked.trans (congrArg some (Table.eq_of_rows_eq (Table.rows_of_addCheck hchecked)))

/-! ### Tables with their definition -/

/-- A table and its definition. -/
structure StoredTable (κ : Type) where
  schema : Schema κ
  table : Table schema

namespace StoredTable

/-- The rows. -/
def rows (stored : StoredTable κ) : List (Row κ) := stored.table.rows

/-- A stored table is its definition and its rows. -/
theorem eq_of_rows_eq {first second : StoredTable κ} (hschema : first.schema = second.schema)
    (hrows : first.rows = second.rows) : first = second := by
  obtain ⟨schema, table⟩ := first
  obtain ⟨_, other⟩ := second
  obtain rfl := hschema
  exact congrArg (mk _) (Table.eq_of_rows_eq hrows)

/-- `CREATE TABLE`. -/
def create (schema : Schema κ) : StoredTable κ where
  schema := schema
  table := .empty schema

/-- `ALTER TABLE ... ADD CONSTRAINT ... CHECK`, which fails if the name is taken or a row violates
the check. -/
def addCheck (stored : StoredTable κ) (check : Check κ) : Option (StoredTable κ) :=
  if check.name ∈ stored.schema.checks.map Check.name then none
  else (stored.table.addCheck check).map fun table ↦ ⟨stored.schema.withCheck check, table⟩

/-- `ALTER TABLE ... DROP CONSTRAINT`, which fails if no check has the name. -/
def dropCheck (stored : StoredTable κ) (name : String) : Option (StoredTable κ) :=
  if name ∈ stored.schema.checks.map Check.name then
    some ⟨stored.schema.withoutCheck name, stored.table.withoutCheck name⟩
  else none

/-- The rows that transactions leave, each of which is admitted and has a key of its own. -/
def replaceRows [Fintype κ] (stored : StoredTable κ) (rows : List (Row κ)) :
    Option (StoredTable κ) :=
  if h : (∀ row ∈ rows, stored.schema.Admits row) ∧ (rows.map (· stored.schema.primaryKey)).Nodup
  then some ⟨stored.schema, ⟨rows, h.1, h.2⟩⟩
  else none

/-- The definition stays when rows are replaced. -/
theorem of_replaceRows [Fintype κ] {stored replaced : StoredTable κ} {rows : List (Row κ)}
    (hreplace : stored.replaceRows rows = some replaced) :
    ∃ table : Table stored.schema, replaced = ⟨stored.schema, table⟩ ∧ table.rows = rows := by
  unfold replaceRows at hreplace
  split_ifs at hreplace
  exact ⟨_, (Option.some.inj hreplace).symm, rfl⟩

/-- `UPDATE ... SET column = value WHERE selected`. -/
def update [DecidableEq κ] [Fintype κ] (stored : StoredTable κ) (column : κ) (value : Value)
    (selected : Row κ → Bool) : Option (StoredTable κ) :=
  (stored.table.update column value selected).map (⟨stored.schema, ·⟩)

/-- The last check is dropped by its name. -/
theorem dropCheck_uncheck {schema : Schema κ} {check : Check κ}
    (hnew : check.name ∉ schema.checks.map Check.name) (table : Table (schema.withCheck check)) :
    dropCheck ⟨_, table⟩ check.name = some ⟨schema, table.uncheck⟩ := by
  have hmem : check.name ∈ (schema.withCheck check).checks.map Check.name :=
    List.mem_map_of_mem (List.mem_append_right _ (List.mem_singleton_self check))
  rw [dropCheck, if_pos hmem]
  exact congrArg some (eq_of_rows_eq (Schema.withoutCheck_withCheck hnew) rfl)

/-- A check of a new name is added to the table. -/
theorem addCheck_of_new {schema : Schema κ} {check : Check κ}
    (hnew : check.name ∉ schema.checks.map Check.name) (table : Table schema) :
    addCheck ⟨_, table⟩ check = (table.addCheck check).map (⟨schema.withCheck check, ·⟩) :=
  if_neg hnew

end StoredTable

end PingGuard.Library.SqlTable
