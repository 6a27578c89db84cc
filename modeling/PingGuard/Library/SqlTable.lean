import Mathlib.Data.Fintype.Basic
import Mathlib.Data.Rat.Defs
import PingGuard.Library.PyText

/-!
# Tables of a relational schema

A schema gives every column a type, says which columns may be null and which one is the primary
key, and lists `CHECK` constraints of the form `column IN (...)`. A `Table` holds rows that the
schema admits. A statement that would leave a row the schema refuses fails as a whole: `update`
and `addCheck` return nothing then.

`update_isSome` and `addCheck_isSome_iff` say when the two succeed, `rows_of_update` and
`rows_of_addCheck` what they leave.
-/

set_option autoImplicit false
set_option relaxedAutoImplicit false

namespace PingGuard.Library.SqlTable

open PyText

/-! ### Columns -/

/-- A value of a column. A timestamp is a number of microseconds. -/
inductive Value
  | null
  | text (value : PyStr)
  | integer (value : ℤ)
  | float (value : ℚ)
  | boolean (value : Bool)
  | timestamp (value : ℤ)
  deriving DecidableEq

/-- A value that may be missing. -/
def Value.ofOption {α : Type} (value : α → Value) : Option α → Value
  | none => .null
  | some a => value a

/-- The types of a column. -/
inductive ColumnType
  | varchar (length : ℕ)
  | integer
  | float
  | boolean
  | timestamp

/-- Whether an integer has 32 bits. -/
def isInt32 (value : ℤ) : Bool := -2147483648 ≤ value && value ≤ 2147483647

/-- Whether a text fits `VARCHAR(length)`. It is measured in characters, and U+0000, which
PostgreSQL keeps in no text, may not be among them. -/
def isVarchar (length : ℕ) (text : PyStr) : Bool := text.length ≤ length && '\x00' ∉ text

/-- The two conditions on a text. -/
theorem isVarchar_iff {length : ℕ} {text : PyStr} :
    isVarchar length text = true ↔ text.length ≤ length ∧ '\x00' ∉ text := by
  rw [isVarchar, Bool.and_eq_true, decide_eq_true_iff, decide_eq_true_iff]

/-- Whether a value other than null has a type. -/
def ColumnType.admits : ColumnType → Value → Bool
  | varchar length, .text value => isVarchar length value
  | integer, .integer value => isInt32 value
  | float, .float _ => true
  | boolean, .boolean _ => true
  | timestamp, .timestamp _ => true
  | _, _ => false

/-- A column. -/
structure Column where
  type : ColumnType
  nullable : Bool

/-- A column that takes null as well. -/
def Column.orNull (type : ColumnType) : Column := ⟨type, true⟩

/-- A column with `NOT NULL`. -/
def Column.notNull (type : ColumnType) : Column := ⟨type, false⟩

/-- Whether a column takes a value. -/
def Column.admits (column : Column) (value : Value) : Bool :=
  if value = .null then column.nullable else column.type.admits value

/-- A nullable column takes a value that may be missing if it takes the value. -/
theorem Column.admits_ofOption {α : Type} (type : ColumnType) {value : α → Value}
    (hvalue : ∀ a, value a ≠ .null) (option : Option α) :
    (Column.orNull type).admits (.ofOption value option) =
      option.all fun a ↦ type.admits (value a) := by
  cases option with
  | none => rfl
  | some a => exact if_neg (hvalue a)

variable {κ : Type}

/-- A row over the columns `κ`. -/
abbrev Row (κ : Type) := κ → Value

/-- `column NOT IN (values)`, which null does not satisfy. -/
def notIn (column : κ) (values : List PyStr) (row : Row κ) : Bool :=
  row column ≠ .null && row column ∉ values.map Value.text

/-- A constraint `CHECK (column IN (values))`. -/
structure Check (κ : Type) where
  name : String
  column : κ
  values : List PyStr

/-- Whether a row passes a check. A comparison with null is neither true nor false, and a check
fails only if it is false. -/
def Check.holds (check : Check κ) (row : Row κ) : Bool := !notIn check.column check.values row

/-- A row without a null in the column of a check passes it with one of the values. -/
theorem Check.holds_iff (check : Check κ) {row : Row κ} (hnull : row check.column ≠ .null) :
    check.holds row = true ↔ row check.column ∈ check.values.map Value.text := by
  simp [holds, notIn, hnull]

/-- A row with one of the values of a check passes it. -/
theorem Check.holds_of_mem {check : Check κ} {row : Row κ} {value : PyStr}
    (hrow : row check.column = .text value) (hmem : value ∈ check.values) :
    check.holds row = true := by
  have hnull : row check.column ≠ .null := fun hnull ↦ Value.noConfusion (hrow.symm.trans hnull)
  rw [check.holds_iff hnull, hrow]
  exact List.mem_map_of_mem hmem

/-! ### Schemas -/

/-- The definition of a table. -/
structure Schema (κ : Type) where
  column : κ → Column
  primaryKey : κ
  checks : List (Check κ)

namespace Schema

/-- Whether a row meets the constraints of every column. -/
def Admits (schema : Schema κ) (row : Row κ) : Prop :=
  (∀ column, (schema.column column).admits (row column) = true) ∧
    ∀ check ∈ schema.checks, check.holds row = true

instance [Fintype κ] (schema : Schema κ) (row : Row κ) : Decidable (schema.Admits row) :=
  inferInstanceAs (Decidable (_ ∧ _))

/-- A column that is not nullable holds no null. -/
theorem Admits.ne_null {schema : Schema κ} {row : Row κ} (hadmits : schema.Admits row) {column : κ}
    (hnullable : (schema.column column).nullable = false) : row column ≠ .null := by
  intro hnull
  have hcolumn := hadmits.1 column
  rw [Column.admits, if_pos hnull, hnullable] at hcolumn
  exact Bool.noConfusion hcolumn

/-- `ALTER TABLE ... ADD CONSTRAINT`. -/
def withCheck (schema : Schema κ) (check : Check κ) : Schema κ :=
  { schema with checks := schema.checks ++ [check] }

/-- A new check is one more condition on a row. -/
theorem admits_withCheck (schema : Schema κ) (check : Check κ) (row : Row κ) :
    (schema.withCheck check).Admits row ↔ schema.Admits row ∧ check.holds row = true := by
  simp only [Admits, withCheck, List.forall_mem_append, List.forall_mem_singleton, and_assoc]

end Schema

/-! ### Rows with one column set -/

section SetColumn

variable [DecidableEq κ]

/-- A row with one column set. -/
def setColumn (column : κ) (value : Value) (selected : Row κ → Bool) (row : Row κ) : Row κ :=
  if selected row then Function.update row column value else row

/-- A column that is not set keeps its value. -/
theorem setColumn_of_ne {column other : κ} (hne : other ≠ column) (value : Value)
    (selected : Row κ → Bool) (row : Row κ) :
    setColumn column value selected row other = row other := by
  unfold setColumn
  split_ifs
  · exact Function.update_of_ne hne _ _
  · rfl

/-- A row that is not selected is left as it is. -/
theorem setColumn_of_not_selected {selected : Row κ → Bool} {row : Row κ}
    (hselected : selected row = false) (column : κ) (value : Value) :
    setColumn column value selected row = row := by
  rw [setColumn, hselected, if_neg Bool.false_ne_true]

/-- A row stays admitted if the new value fits its column and the checks hold with it. -/
theorem Schema.Admits.set {schema : Schema κ} {row : Row κ} (hadmits : schema.Admits row)
    {column : κ} {value : Value} (hvalue : (schema.column column).admits value = true)
    (hchecks : ∀ check ∈ schema.checks, check.column ≠ column) (selected : Row κ → Bool) :
    schema.Admits (setColumn column value selected row) := by
  constructor
  · intro other
    by_cases heq : other = column
    · subst heq
      unfold setColumn
      split_ifs
      · rwa [Function.update_self]
      · exact hadmits.1 other
    · rw [setColumn_of_ne heq]
      exact hadmits.1 other
  · intro check hcheck
    have hsame := setColumn_of_ne (hchecks check hcheck) value selected row
    rw [Check.holds, notIn, hsame]
    exact hadmits.2 check hcheck

end SetColumn

/-! ### Tables -/

/-- The rows of a table: each is admitted, and no primary key occurs twice. -/
structure Table (schema : Schema κ) where
  rows : List (Row κ)
  admitted : ∀ row ∈ rows, schema.Admits row
  nodup : (rows.map (· schema.primaryKey)).Nodup

namespace Table

variable {schema : Schema κ}

/-- The addition of a check, which fails if a row violates it. -/
def addCheck (table : Table schema) (check : Check κ) : Option (Table (schema.withCheck check)) :=
  if h : ∀ row ∈ table.rows, check.holds row = true then
    some
      { rows := table.rows
        admitted := fun row hrow ↦
          (schema.admits_withCheck check row).mpr ⟨table.admitted row hrow, h row hrow⟩
        nodup := table.nodup }
  else none

/-- A check that is added leaves the rows as they are. -/
theorem rows_of_addCheck {table : Table schema} {check : Check κ}
    {checked : Table (schema.withCheck check)} (hadd : table.addCheck check = some checked) :
    checked.rows = table.rows := by
  unfold addCheck at hadd
  split_ifs at hadd
  exact (congrArg rows (Option.some.inj hadd)).symm

/-- A check can be added exactly if every row passes it. -/
theorem addCheck_isSome_iff (table : Table schema) (check : Check κ) :
    (∃ checked, table.addCheck check = some checked) ↔
      ∀ row ∈ table.rows, check.holds row = true := by
  unfold addCheck
  split_ifs with hholds
  · exact iff_of_true ⟨_, rfl⟩ hholds
  · exact iff_of_false (fun ⟨_, hfalse⟩ ↦ hfalse) hholds

/-- A table is repaired by another for a list of checks: the rows correspond one to one, each under
its primary key, and a row that passed the checks is the same. -/
def IsRepairedBy {repaired : Schema κ} (checks : List (Check κ)) (table : Table schema)
    (after : Table repaired) : Prop :=
  List.Forall₂ (fun row row' ↦ row' schema.primaryKey = row schema.primaryKey ∧
    ((∀ check ∈ checks, check.holds row = true) → row' = row)) table.rows after.rows

/-- A table is repaired by the rows of another function of each row. -/
theorem isRepairedBy_of_map {repaired : Schema κ} {checks : List (Check κ)} {table : Table schema}
    {after : Table repaired} {repair : Row κ → Row κ} (hrows : after.rows = table.rows.map repair)
    (hkey : ∀ row, repair row schema.primaryKey = row schema.primaryKey)
    (hsame : ∀ row ∈ table.rows, (∀ check ∈ checks, check.holds row = true) → repair row = row) :
    table.IsRepairedBy checks after := by
  rw [IsRepairedBy, hrows, List.forall₂_map_right_iff, List.forall₂_same]
  exact fun row hrow ↦ ⟨hkey row, hsame row hrow⟩

section Update

variable [DecidableEq κ] [Fintype κ]

/-- `UPDATE ... SET column = value WHERE selected`. -/
def update (table : Table schema) (column : κ) (value : Value) (selected : Row κ → Bool) :
    Option (Table schema) :=
  let rows := table.rows.map (setColumn column value selected)
  if h : (∀ row ∈ rows, schema.Admits row) ∧ (rows.map (· schema.primaryKey)).Nodup then
    some ⟨rows, h.1, h.2⟩
  else none

/-- What an update leaves. -/
theorem rows_of_update {table updated : Table schema} {column : κ} {value : Value}
    {selected : Row κ → Bool} (hupdate : table.update column value selected = some updated) :
    updated.rows = table.rows.map (setColumn column value selected) := by
  simp only [update] at hupdate
  split_ifs at hupdate
  exact (congrArg rows (Option.some.inj hupdate)).symm

/-- An update succeeds if the value fits its column, no check is about the column, and the column
is not the primary key. -/
theorem update_isSome (table : Table schema) (column : κ) (value : Value)
    (hvalue : (schema.column column).admits value = true)
    (hchecks : ∀ check ∈ schema.checks, check.column ≠ column) (hkey : schema.primaryKey ≠ column)
    (selected : Row κ → Bool) : ∃ updated, table.update column value selected = some updated := by
  have hadmits : ∀ row ∈ table.rows.map (setColumn column value selected), schema.Admits row := by
    intro row hrow
    obtain ⟨before, hbefore, rfl⟩ := List.mem_map.mp hrow
    exact (table.admitted before hbefore).set hvalue hchecks selected
  have hkeys : ((table.rows.map (setColumn column value selected)).map
      (· schema.primaryKey)).Nodup := by
    have hsame : (fun row : Row κ ↦ setColumn column value selected row schema.primaryKey) =
        (· schema.primaryKey) := funext fun row ↦ setColumn_of_ne hkey value selected row
    rw [List.map_map]
    exact (congrArg (fun key ↦ (table.rows.map key).Nodup) hsame).mpr table.nodup
  exact ⟨_, dif_pos ⟨hadmits, hkeys⟩⟩

end Update

end Table

end PingGuard.Library.SqlTable
