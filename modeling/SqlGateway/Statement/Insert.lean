import SqlGateway.Sql.Literal
import SqlGateway.Value.Equality
import SqlGateway.Value.Mapping

/-!
# INSERT statements

Rows are given as mappings from columns to values. The columns of the statement are those of all
rows in the order in which they first appear; a row that lacks one of them gets a value in its
place that is the same for all.
-/

namespace SqlGateway.Statement

/-- A row: its columns with their values. -/
abbrev Row := List (Value × Value)

/-- A column, with the row in which it first appears and its value there. -/
structure Column where
  name : Value
  row : Nat
  value : Value

/-- The row that a value is. -/
def row? : Value → Option Row
  | .mapping entries => some entries
  | _ => none

/-- The rows that a value is: one mapping, or a list or tuple of mappings that is not empty. -/
def rows? : Value → Option (List Row)
  | .mapping entries => some [entries]
  | .group .list (v :: rest) | .group .tuple (v :: rest) => (v :: rest).mapM row?
  | _ => none

/-- The columns with those of one more row. -/
def addColumns (index : Nat) (columns : List Column) (row : Row) : List Column :=
  row.foldl (fun columns (k, v) =>
    if columns.any (·.name.equal k) then columns else columns ++ [⟨k, index, v⟩]) columns

/-- The columns of rows that are numbered from `index` on, added to those of the rows before. -/
def columnsFrom (index : Nat) (columns : List Column) : List Row → List Column
  | [] => columns
  | row :: rest => columnsFrom (index + 1) (addColumns index columns row) rest

/-- The columns of all rows in the order in which they first appear. -/
def columns (rows : List Row) : List Column := columnsFrom 0 [] rows

/-- The value that a row has in a column. -/
def cell (missing : Value) (index : Nat) (row : Row) (column : Column) : Value :=
  if column.row = index then column.value else (Value.find? column.name row).getD missing

/-- The values of a row in all columns, in parentheses. -/
def tupleText (zone : ZoneChoice) (columns : List Column) (missing : Value) (index : Nat)
    (row : Row) : Except Fault Text := do
  let cells ← columns.mapM fun column =>
    Sql.Literal.ofValue zone false (cell missing index row column)
  return '(' :: [','].intercalate cells ++ [')']

/-- The tuples of rows that are numbered from `index` on. -/
def tuplesFrom (zone : ZoneChoice) (columns : List Column) (missing : Value) (index : Nat) :
    List Row → Except Fault (List Text)
  | [] => .ok []
  | row :: rest => do
    let s ← tupleText zone columns missing index row
    return s :: (← tuplesFrom zone columns missing (index + 1) rest)

/-- The statement that inserts rows into a table. -/
def insert (zone : ZoneChoice) (table rows missing : Value) : Except Fault Text :=
  match rows? rows with
  | none => .error .rowsExpected
  | some rows => do
    let columns := columns rows
    let names := columns.map fun column => Sql.Identifier.ofValue column.name
    let tuples ← tuplesFrom zone columns missing 0 rows
    return "INSERT INTO ".toList ++ Sql.Identifier.ofValue table ++
      '(' :: [','].intercalate names ++ ") VALUES ".toList ++ [','].intercalate tuples

end SqlGateway.Statement
