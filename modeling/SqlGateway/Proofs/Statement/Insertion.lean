import SqlGateway.Proofs.Sql.Separated
import SqlGateway.Proofs.Statement.Rows

/-!
# INSERT statements are read back

A scanner that knows identifiers and literals takes an INSERT statement apart into its table, its
columns and its tuples (`Insertion.read?`). What it finds in a statement that was made from rows are
the rows: their columns, and for every row the literals of its cells (`insert_readBack`).
-/

namespace SqlGateway.Statement

open SqlGateway.Sql

/-- The parts of an INSERT statement. -/
structure Insertion where
  table : Text
  columns : List Text
  /-- The literals of every tuple as they are written. -/
  tuples : List (List Text)
  deriving DecidableEq

/-- The parts of a text that is an INSERT statement from its first character to its last. -/
def Insertion.read? (s : Text) : Option Insertion := do
  let s ← s.dropPrefix? "INSERT INTO ".toList
  let (table, s) ← Identifier.scan? s
  let (columns, s) ← parens? Identifier.scan? s
  let s ← s.dropPrefix? " VALUES ".toList
  let (tuples, s) ← separated? (parens? literal?) s
  if s = [] then some ⟨table, columns, tuples⟩ else none

theorem forall₂_identifiers {columns : List Text} (h : ∀ name ∈ columns, IsName name) :
    List.Forall₂ (Reads Identifier.scan?) (columnTexts columns) columns := by
  rw [columnTexts, List.forall₂_map_left_iff, List.forall₂_same]
  intro name hname
  rw [ofValue_name (h name hname)]
  exact reads_identifier name

/-- An INSERT statement of literals is read back part by part. -/
theorem read?_insertion {table : Text} {columns : List Text} {tuples : List (List Text)}
    (htable : IsName table) (hcolumns : ∀ name ∈ columns, IsName name) (hne : tuples ≠ [])
    (htuples : ∀ texts ∈ tuples, List.Forall₂ (Reads literal?) texts texts) :
    Insertion.read? (insertion (.text table) columns tuples) = some ⟨table, columns, tuples⟩ := by
  have hlist (t : Text) :
      parens? Identifier.scan? (tuple (columnTexts columns) ++ t) = some (columns, t) := by
    have hscan := parens?_texts (forall₂_identifiers hcolumns) t
    simpa [tuple] using hscan
  have htexts : List.Forall₂ (Reads (parens? literal?)) (tuples.map tuple) tuples := by
    rw [List.forall₂_map_left_iff, List.forall₂_same]
    exact fun texts h => reads_parens (htuples texts h)
  have hscan := separated?_all (by simpa using hne) htexts
  rw [insertion_parts, Insertion.read?, dropPrefix?_append, ofValue_name htable]
  simp only [Option.bind_eq_bind, Option.bind_some, hlist, dropPrefix?_append, hscan, if_pos,
    Identifier.scan?_quote table (tuple_head_ne _ _)]

/-! ## Rows -/

section

variable {zone : ZoneChoice} {missing : Value} {rows : List NamedRow}

theorem IsTuple.reads {columns : List Text} {row : NamedRow} {texts : List Text}
    (h : IsTuple zone missing columns row texts)
    (hcells : ∀ name, Constant.IsExpression false (cellOf missing row name)) :
    List.Forall₂ (Reads literal?) texts texts := by
  unfold IsTuple at h
  induction h with
  | nil => exact .nil
  | @cons name text columns texts hliteral _ ih =>
    exact .cons (reads_literal (hcells name) hliteral) ih

theorem read?_insert {table : Text} {tuples : List (List Text)} (htable : IsName table)
    (hrows : rows ≠ [])
    (hentries : ∀ row ∈ rows, ∀ entry ∈ row, IsName entry.1 ∧ Constant.IsExpression false entry.2)
    (hmissing : Constant.IsExpression false missing)
    (h : List.Forall₂ (IsTuple zone missing (names rows)) rows tuples) :
    Insertion.read? (insertion (.text table) (names rows) tuples) =
      some ⟨table, names rows, tuples⟩ := by
  apply read?_insertion htable
  · intro name hname
    obtain ⟨row, hrow, entry, hentry, rfl⟩ := mem_names hname
    exact (hentries row hrow entry hentry).1
  · rintro rfl
    exact hrows (List.forall₂_nil_right_iff.mp h)
  · have hread : ∀ row ∈ rows, ∀ texts, IsTuple zone missing (names rows) row texts →
        List.Forall₂ (Reads literal?) texts texts := fun row hrow texts htexts =>
      htexts.reads (cellOf_cases (fun entry hentry => (hentries row hrow entry hentry).2) hmissing)
    exact forall_mem_right h hread

end

/-- The statement that inserts rows is read back as the rows: the table, the names of all rows in
the order in which they first appear, and one tuple for each row, with one literal for each name.
The literal is that of the value that the row has there, whatever that is, and of the value for what
is missing otherwise. What does not have the form of rows is a data format error. -/
theorem insert_readBack (zone : ZoneChoice) (v missing : Value) :
    (∀ (table : Text) (rows : List NamedRow), IsName table → HasRows v (rows.map NamedRow.row) →
      (∀ row ∈ rows, ∀ entry ∈ row, IsName entry.1 ∧ Constant.IsExpression false entry.2) →
      Constant.IsExpression false missing →
      (∀ row ∈ rows, ∀ name ∈ names rows,
        ∃ text, Literal.ofValue zone false (cellOf missing row name) = .ok text) →
      ∃ s tuples, insert zone (.text table) v missing = .ok s ∧
        Insertion.read? s = some ⟨table, names rows, tuples⟩ ∧
        List.Forall₂ (IsTuple zone missing (names rows)) rows tuples) ∧
    (∀ table, (¬∃ rows, HasRows v rows) →
      ∃ f, insert zone table v missing = .error f ∧ f.kind = .dataFormat) := by
  constructor
  · intro table rows htable hrows hentries hmissing hcells
    have hne : rows ≠ [] := by
      rintro rfl
      exact hrows.ne_nil rfl
    have htexts : ∀ row ∈ rows, ∃ texts, cellTexts zone missing (names rows) row = .ok texts :=
      fun row hrow => exists_mapM_eq_ok (hcells row hrow)
    obtain ⟨tuples, htuples⟩ := exists_mapM_eq_ok htexts
    have htuples : List.Forall₂ (IsTuple zone missing (names rows)) rows tuples :=
      (mapM_eq_ok.mp htuples).imp fun _ _ h => mapM_eq_ok.mp h
    exact ⟨_, tuples, (insert_eq_ok _ hrows).mpr ⟨tuples, htuples, rfl⟩,
      read?_insert htable hne hentries hmissing htuples, htuples⟩
  · intro table hrows
    refine ⟨.rowsExpected, ?_, rfl⟩
    cases hread : rows? v with
    | none => rw [insert, hread]
    | some rows => exact absurd ⟨rows, rows?_eq_some_iff.mp hread⟩ hrows

/-- Two rows with different columns, and marks in a name and in a text. -/
def sampleRows : List NamedRow :=
  [[("a".toList, .null), ("b`c".toList, .text "x'),(".toList)],
    [("d".toList, .number (.integer 0) none), ("a".toList, .text [])]]

theorem insert_readBack_sample : ∃ s tuples,
    insert (.ok .utc) (.text "t".toList)
      (.group .list ((sampleRows.map NamedRow.row).map .mapping)) (.text []) = .ok s ∧
    Insertion.read? s = some ⟨"t".toList, ["a".toList, "b`c".toList, "d".toList], tuples⟩ ∧
    List.Forall₂ (IsTuple (.ok .utc) (.text []) ["a".toList, "b`c".toList, "d".toList]) sampleRows
      tuples := by
  have hrows : HasRows (.group .list ((sampleRows.map NamedRow.row).map .mapping))
      (sampleRows.map NamedRow.row) := .many (Or.inl rfl) (by simp [sampleRows])
  have hnames : names sampleRows = ["a".toList, "b`c".toList, "d".toList] := by decide
  have hentries : ∀ row ∈ sampleRows, ∀ entry ∈ row, (IsName entry.1 ∧
      Constant.IsExpression false entry.2) ∧
        ∃ text, Literal.ofValue (.ok .utc) false entry.2 = .ok text := by
    simp only [sampleRows, List.forall_mem_cons]
    exact ⟨⟨⟨⟨by decide, nofun⟩, _, rfl⟩, ⟨⟨by decide, nofun⟩, _, rfl⟩, nofun⟩,
      ⟨⟨⟨by decide, nofun⟩, _, rfl⟩, ⟨⟨by decide, nofun⟩, _, rfl⟩, nofun⟩, nofun⟩
  rw [← hnames]
  refine (insert_readBack (.ok .utc) _ (.text [])).1 "t".toList sampleRows (by decide) hrows
    (fun row hrow entry hentry => (hentries row hrow entry hentry).1) nofun ?_
  intro row hrow name _
  have hliteral : ∀ entry ∈ row, ∃ text, Literal.ofValue (.ok .utc) false entry.2 = .ok text :=
    fun entry hentry => (hentries row hrow entry hentry).2
  exact cellOf_cases (P := fun v => ∃ text, Literal.ofValue (.ok .utc) false v = .ok text)
    hliteral ⟨_, rfl⟩ name

end SqlGateway.Statement
