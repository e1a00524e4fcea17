import SqlGateway.Proofs.Condition.Vacuous
import SqlGateway.Proofs.List
import SqlGateway.Statement.Insert

/-!
# Rows with named columns

An INSERT statement collects its columns row by row and keeps with each the row in which it was
found and the value there. For rows whose columns are texts that comes to a table: the columns are
the names in the order in which they first appear, and every row has a cell for each of them, which
is its own value or the one for what is missing (`insert_rows`).

`ColumnOf` is the invariant of the collection. Both the search for columns and the making of tuples
go down the rows with a number, so both are followed along `rows[index + j]? = rest[j]?`, where
`rest` are the rows still to come.
-/

namespace SqlGateway.Statement

/-- A row whose columns are texts. -/
abbrev NamedRow := List (Text × Value)

/-- The row as a mapping has it. -/
def NamedRow.row (r : NamedRow) : Row := r.map fun (name, v) => (.text name, v)

/-- The columns of all rows in the order in which they first appear. -/
def names (rows : List NamedRow) : List Text := (rows.flatMap fun row => row.map Prod.fst).eraseDups

/-- The value of a row in a column, or the one for what is missing. -/
def cellOf (missing : Value) (row : NamedRow) (name : Text) : Value :=
  (row.lookup name).getD missing

/-- Texts in parentheses with commas between neighbours. -/
def tuple (texts : List Text) : Text := '(' :: [','].intercalate texts ++ [')']

theorem tuple_head_ne (texts : List Text) (t : Text) :
    (tuple texts ++ t).head? ≠ some Sql.Identifier.backQuote := by
  simp [tuple, Sql.Identifier.backQuote]

/-- Columns as they are written. -/
def columnTexts (columns : List Text) : List Text :=
  columns.map fun name => Sql.Identifier.ofValue (.text name)

/-- The statement that inserts the cells of rows into a table. -/
def insertion (table : Value) (columns : List Text) (cells : List (List Text)) : Text :=
  "INSERT INTO ".toList ++ (Sql.Identifier.ofValue table ++
    (tuple (columnTexts columns) ++ (" VALUES ".toList ++ [','].intercalate (cells.map tuple))))

theorem insertion_parts (table : Value) (columns : List Text) (cells : List (List Text)) :
    insertion table columns cells = "INSERT INTO ".toList ++ (Sql.Identifier.ofValue table ++
      (tuple (columnTexts columns) ++
        (" VALUES ".toList ++ [','].intercalate (cells.map tuple)))) := rfl

/-- The text is a name of a column or a table, and not the star. -/
def IsName (name : Text) : Prop := name ≠ ['*']

instance (name : Text) : Decidable (IsName name) := inferInstanceAs (Decidable (name ≠ ['*']))

theorem ofValue_name {name : Text} (h : IsName name) :
    Sql.Identifier.ofValue (.text name) = Sql.Identifier.quote name := Condition.ofValue_column h

/-! ## Values that are rows -/

/-- The value is one mapping, or a list or tuple of mappings that is not empty. -/
inductive HasRows : Value → List Row → Prop
  | one (row : Row) : HasRows (.mapping row) [row]
  | many {kind : GroupKind} {rows : List Row} : Condition.IsSequence kind → rows ≠ [] →
      HasRows (.group kind (rows.map .mapping)) rows

theorem mapM_row {vs : List Value} {rows : List Row} :
    vs.mapM row? = some rows ↔ vs = rows.map .mapping := by
  induction vs generalizing rows with
  | nil => cases rows <;> simp
  | cons v vs ih =>
    rw [List.mapM_cons]
    constructor
    · intro h
      obtain ⟨row, hrow, h⟩ := Option.bind_eq_some_iff.mp h
      obtain ⟨rest, hrest, h⟩ := Option.bind_eq_some_iff.mp h
      cases h
      have hv : v = .mapping row := by
        cases v with
        | mapping entries => exact congrArg Value.mapping (Option.some.inj hrow)
        | _ => cases hrow
      rw [hv, ih.mp hrest, List.map_cons]
    · intro h
      cases rows with
      | nil => cases h
      | cons row rows =>
        obtain ⟨rfl, hvs⟩ := List.cons.inj h
        rw [ih.mpr hvs]
        rfl

theorem rows?_eq_some_iff {v : Value} {rows : List Row} : rows? v = some rows ↔ HasRows v rows := by
  constructor
  · intro h
    unfold rows? at h
    split at h
    · cases h
      exact .one _
    · next head rest =>
      rw [mapM_row] at h
      rw [h]
      exact .many (Or.inl rfl) (by rintro rfl; cases h)
    · next head rest =>
      rw [mapM_row] at h
      rw [h]
      exact .many (Or.inr rfl) (by rintro rfl; cases h)
    · cases h
  · intro h
    cases h with
    | one row => rfl
    | many hkind hrows =>
      cases rows with
      | nil => exact absurd rfl hrows
      | cons row rows => rcases hkind with rfl | rfl <;> exact mapM_row.mpr rfl

theorem HasRows.ne_nil {v : Value} {rows : List Row} (h : HasRows v rows) : rows ≠ [] := by
  cases h with
  | one row => exact List.cons_ne_nil row []
  | many _ hrows => exact hrows

/-! ## Columns -/

theorem equal_text (s t : Text) : (Value.text s).equal (.text t) = decide (s = t) := by
  change decide (Agreement.ofBool (s = t) = .same) = decide (s = t)
  by_cases h : s = t <;> simp [Agreement.ofBool, h]

theorem find?_row (name : Text) (row : NamedRow) :
    Value.find? (.text name) row.row = row.lookup name := by
  induction row with
  | nil => rfl
  | cons entry row ih =>
    obtain ⟨k, v⟩ := entry
    have hrow : NamedRow.row ((k, v) :: row) = (.text k, v) :: NamedRow.row row := rfl
    rw [hrow, Value.find?, equal_text, List.lookup_cons, ih]
    by_cases hk : k = name
    · simp [hk]
    · have hname : (name == k) = false := by simpa using fun h : name = k => hk h.symm
      simp [hk, hname]

/-- The names with those of more that are not among them yet. -/
def addNames (seen more : List Text) : List Text :=
  more.foldl (fun seen name => if name ∈ seen then seen else seen ++ [name]) seen

theorem addNames_eq (seen more : List Text) :
    addNames seen more = seen ++ (more.filter fun name => name ∉ seen).eraseDups := by
  induction more generalizing seen with
  | nil => simp [addNames]
  | cons name more ih =>
    rw [addNames, List.foldl_cons]
    by_cases hname : name ∈ seen
    · rw [if_pos hname, List.filter_cons_of_neg (by simpa using hname)]
      exact ih seen
    · have hrest : (more.filter fun other => other ∉ seen ++ [name]) =
          (more.filter fun other => other ∉ seen).filter fun other => !other == name := by
        rw [List.filter_filter]
        congr 1
        funext other
        by_cases h : other = name <;> simp [h]
      rw [if_neg hname, List.filter_cons_of_pos (by simpa using hname), List.eraseDups_cons,
        ← hrest]
      have hmore := ih (seen ++ [name])
      rw [addNames] at hmore
      rw [hmore, List.append_assoc, List.singleton_append]

/-- The column of a name: it was found in one of the rows, with the value that it has there. -/
def ColumnOf (rows : List NamedRow) (name : Text) (column : Column) : Prop :=
  column.name = .text name ∧
    ∃ row, rows[column.row]? = some row ∧ row.lookup name = some column.value

section

variable {zone : ZoneChoice} {missing : Value} {rows : List NamedRow}

theorem any_columns {seen : List Text} {columns : List Column}
    (h : List.Forall₂ (ColumnOf rows) seen columns) (name : Text) :
    columns.any (fun column => column.name.equal (.text name)) = decide (name ∈ seen) := by
  induction h with
  | nil => simp
  | @cons other column seen columns hcolumn _ ih =>
    rw [List.any_cons, ih, hcolumn.1, equal_text]
    simp [List.mem_cons, eq_comm]

/-- Going through a row adds the names that were not seen before. What is looked up of the row for
those is found in the part that is still to come. -/
theorem addColumns_forall₂ {index : Nat} {row rest : NamedRow} (hrow : rows[index]? = some row)
    {seen : List Text} {columns : List Column} (h : List.Forall₂ (ColumnOf rows) seen columns)
    (hrest : ∀ name, name ∉ seen → row.lookup name = rest.lookup name) :
    List.Forall₂ (ColumnOf rows) (addNames seen (rest.map Prod.fst))
      (addColumns index columns rest.row) := by
  induction rest generalizing seen columns with
  | nil => exact h
  | cons entry rest ih =>
    obtain ⟨name, v⟩ := entry
    have hlookup : ∀ other, other ≠ name → List.lookup other ((name, v) :: rest) =
        rest.lookup other := by
      intro other hother
      rw [List.lookup_cons, beq_eq_false_iff_ne.mpr hother]
    show List.Forall₂ _ (addNames (if name ∈ seen then seen else seen ++ [name]) _)
      (addColumns index (if columns.any (fun column => column.name.equal (.text name)) then columns
        else columns ++ [⟨.text name, index, v⟩]) (NamedRow.row rest))
    rw [any_columns h name]
    -- A name that was seen does not count for `hrest`, so the entry may be dropped from `rest`.
    by_cases hname : name ∈ seen
    · rw [if_pos hname, if_pos (decide_eq_true hname)]
      apply ih h
      intro other hother
      rw [hrest other hother]
      exact hlookup other fun he => hother (he ▸ hname)
    · rw [if_neg hname, if_neg (by simpa using hname)]
      have hfound : row.lookup name = some v := by
        rw [hrest name hname, List.lookup_cons_self]
      have hcolumn : ColumnOf rows name ⟨.text name, index, v⟩ := ⟨rfl, row, hrow, hfound⟩
      apply ih (List.rel_append h (.cons hcolumn .nil))
      intro other hother
      rw [List.mem_append, List.mem_singleton, not_or] at hother
      rw [hrest other hother.1]
      exact hlookup other hother.2

theorem columnsFrom_forall₂ {index : Nat} {rest : List NamedRow}
    (hrest : ∀ j, rows[index + j]? = rest[j]?) {seen : List Text} {columns : List Column}
    (h : List.Forall₂ (ColumnOf rows) seen columns) :
    List.Forall₂ (ColumnOf rows) (addNames seen (rest.flatMap fun row => row.map Prod.fst))
      (columnsFrom index columns (rest.map NamedRow.row)) := by
  induction rest generalizing index seen columns with
  | nil => exact h
  | cons row rest ih =>
    have hrow : rows[index]? = some row := hrest 0
    have hnames : addNames seen ((row :: rest).flatMap fun row => row.map Prod.fst) =
        addNames (addNames seen (row.map Prod.fst)) (rest.flatMap fun row => row.map Prod.fst) := by
      rw [List.flatMap_cons, addNames, List.foldl_append]
      rfl
    rw [hnames]
    apply ih
    · intro j
      rw [Nat.add_assoc, Nat.add_comm 1 j]
      exact hrest (j + 1)
    · exact addColumns_forall₂ hrow h fun name _ => rfl

theorem columns_forall₂ (rows : List NamedRow) :
    List.Forall₂ (ColumnOf rows) (names rows) (columns (rows.map NamedRow.row)) := by
  have hrest : ∀ j, rows[0 + j]? = rows[j]? := fun j => by rw [Nat.zero_add]
  have h := columnsFrom_forall₂ hrest .nil
  rw [addNames_eq] at h
  simpa [names, columns] using h

/-! ## Cells -/

theorem cell_columnOf {name : Text} {column : Column} (h : ColumnOf rows name column)
    {index : Nat} {row : NamedRow} (hrow : rows[index]? = some row) (missing : Value) :
    cell missing index row.row column = cellOf missing row name := by
  obtain ⟨hname, other, hother, hvalue⟩ := h
  unfold cell cellOf
  by_cases hindex : column.row = index
  · obtain rfl : other = row := by
      rw [hindex, hrow] at hother
      exact (Option.some.inj hother).symm
    rw [if_pos hindex, hvalue, Option.getD_some]
  · rw [if_neg hindex, hname, find?_row]

/-- The literals of the cells of a row. -/
def cellTexts (zone : ZoneChoice) (missing : Value) (columns : List Text) (row : NamedRow) :
    Except Fault (List Text) :=
  columns.mapM fun name => Sql.Literal.ofValue zone false (cellOf missing row name)

theorem tupleText_row {index : Nat} {row : NamedRow}
    (hrow : rows[index]? = some row) :
    tupleText zone (columns (rows.map NamedRow.row)) missing index row.row =
      (cellTexts zone missing (names rows) row).map tuple := by
  have hcells : (columns (rows.map NamedRow.row)).mapM (fun column =>
      Sql.Literal.ofValue zone false (cell missing index row.row column)) =
        cellTexts zone missing (names rows) row := by
    refine (mapM_congr (columns_forall₂ rows) fun name column hcolumn => ?_).symm
    rw [cell_columnOf hcolumn hrow]
  rw [tupleText, hcells]
  cases cellTexts zone missing (names rows) row <;> rfl

theorem tuplesFrom_rows {index : Nat} {rest : List NamedRow}
    (hrest : ∀ j, rows[index + j]? = rest[j]?) :
    tuplesFrom zone (columns (rows.map NamedRow.row)) missing index (rest.map NamedRow.row) =
      (rest.mapM (cellTexts zone missing (names rows))).map (List.map tuple) := by
  induction rest generalizing index with
  | nil => rfl
  | cons row rest ih =>
    have hrow : rows[index]? = some row := hrest 0
    have htail := @ih (index + 1) fun j => by
      rw [Nat.add_assoc, Nat.add_comm 1 j]
      exact hrest (j + 1)
    rw [List.map_cons, tuplesFrom, tupleText_row hrow, htail, List.mapM_cons]
    cases cellTexts zone missing (names rows) row with
    | error f => rfl
    | ok cells => cases rest.mapM (cellTexts zone missing (names rows)) <;> rfl

theorem columnTexts_names {ns : List Text} {columns : List Column}
    (h : List.Forall₂ (ColumnOf rows) ns columns) :
    columns.map (fun column => Sql.Identifier.ofValue column.name) = columnTexts ns := by
  induction h with
  | nil => rfl
  | cons hcolumn _ ih =>
    rw [List.map_cons, ih, hcolumn.1]
    rfl

theorem insertion_eq (table : Value) (columns : List Text) (cells : List (List Text)) :
    "INSERT INTO ".toList ++ Sql.Identifier.ofValue table ++
      '(' :: [','].intercalate (columnTexts columns) ++
        ") VALUES ".toList ++ [','].intercalate (cells.map tuple) =
      insertion table columns cells := by
  have hvalues : ") VALUES ".toList = [')'] ++ " VALUES ".toList := rfl
  have htuple : tuple (columnTexts columns) =
      '(' :: [','].intercalate (columnTexts columns) ++ [')'] := rfl
  rw [insertion_parts, hvalues, htuple]
  generalize "INSERT INTO ".toList = front
  generalize " VALUES ".toList = middle
  simp only [List.append_assoc, List.cons_append]

/-- Rows with named columns are inserted cell by cell. -/
theorem insert_rows {v : Value} (table : Value)
    (h : HasRows v (rows.map NamedRow.row)) :
    insert zone table v missing = (rows.mapM (cellTexts zone missing (names rows))).map
      (insertion table (names rows)) := by
  have hrest : ∀ j, rows[0 + j]? = rows[j]? := fun j => by rw [Nat.zero_add]
  rw [insert, rows?_eq_some_iff.mpr h]
  dsimp only
  rw [tuplesFrom_rows hrest, columnTexts_names (columns_forall₂ rows)]
  cases rows.mapM (cellTexts zone missing (names rows)) with
  | error f => rfl
  | ok cells => exact congrArg Except.ok (insertion_eq table (names rows) cells)

theorem mem_names {name : Text} (h : name ∈ names rows) :
    ∃ row ∈ rows, ∃ entry ∈ row, entry.1 = name := by
  rw [names, List.mem_eraseDups, List.mem_flatMap] at h
  obtain ⟨row, hrow, hname⟩ := h
  exact ⟨row, hrow, List.mem_map.mp hname⟩

/-- What holds of the values of a row and of the one for what is missing holds of its cells. -/
theorem cellOf_cases {P : Value → Prop} {row : NamedRow} (hrow : ∀ entry ∈ row, P entry.2)
    (hmissing : P missing) (name : Text) : P (cellOf missing row name) := by
  unfold cellOf
  cases hlookup : row.lookup name with
  | none => exact hmissing
  | some v =>
    obtain ⟨front, rest, rfl, -⟩ := List.lookup_eq_some_iff.mp hlookup
    exact hrow (name, v) (by simp)

/-- The texts are the literals of the cells of the row in these columns. -/
def IsTuple (zone : ZoneChoice) (missing : Value) (columns : List Text) (row : NamedRow)
    (texts : List Text) : Prop :=
  List.Forall₂ (fun name text =>
    Sql.Literal.ofValue zone false (cellOf missing row name) = .ok text) columns texts

theorem insert_eq_ok {v : Value} {s : Text} (table : Value)
    (h : HasRows v (rows.map NamedRow.row)) :
    insert zone table v missing = .ok s ↔ ∃ tuples,
      List.Forall₂ (IsTuple zone missing (names rows)) rows tuples ∧
        insertion table (names rows) tuples = s := by
  have htuple (row : NamedRow) (texts : List Text) :
      cellTexts zone missing (names rows) row = .ok texts ↔
        IsTuple zone missing (names rows) row texts := mapM_eq_ok
  rw [insert_rows table h, map_eq_ok]
  simp only [mapM_eq_ok, htuple]

end

end SqlGateway.Statement
