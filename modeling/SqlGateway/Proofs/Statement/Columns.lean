import SqlGateway.Proofs.Statement.Factoring

/-!
# Column lists are read back

An INSERT statement lists its columns with a comma between neighbours, a SELECT statement its fields
with a comma and a space. Names may hold back-quotes, commas and blanks, or be empty, and still the
list is read back name by name wherever it stands (`columnList_readBack`), so the list tells which
names it was written for (`columnList_injective`).

For one name that is `Identifier.scan?_quote` and its converse; a list follows from `listed?`, which
goes from one closing back-quote to the separator behind it.
-/

namespace SqlGateway.Statement

open SqlGateway.Sql

/-- What stands between the columns of an INSERT statement and between the fields of a SELECT
statement. -/
def separators : List Text := [[','], ", ".toList]

/-- Columns as they are written, with a separator between neighbours. -/
def columnList (separator : Text) (columns : List Text) : Text :=
  separator.intercalate (columnTexts columns)

/-- The column list that stands in a statement behind a given text, and what follows the list. -/
def columnsBehind? (front separator s : Text) : Option (List Text × Text) :=
  (s.dropPrefix? front).bind (listed? separator Identifier.scan?)

section

variable {separator : Text} (hseparator : separator ∈ separators)

include hseparator

theorem afterIdentifier_separator (t : Text) : AfterIdentifier (separator ++ t) := by
  simp only [separators, List.mem_cons, List.not_mem_nil, or_false] at hseparator
  rcases hseparator with rfl | rfl <;> simp [AfterIdentifier, Identifier.backQuote]

theorem not_prefix_of_head_ne {t : Text} (h : t.head? ≠ some ',') : ¬separator <+: t := by
  simp only [separators, List.mem_cons, List.not_mem_nil, or_false] at hseparator
  rintro ⟨rest, rfl⟩
  rcases hseparator with rfl | rfl <;> exact h rfl

/-! ## Reading a list -/

theorem listed?_columnList_iff {columns : List Text} (hne : columns ≠ [])
    (hnames : ∀ name ∈ columns, IsName name) {s t : Text} :
    listed? separator Identifier.scan? s = some (columns, t) ↔
      s = columnList separator columns ++ t ∧ AfterIdentifier t ∧ ¬separator <+: t := by
  have htexts : columnTexts columns = columns.map Identifier.quote :=
    List.map_congr_left fun name hname => ofValue_name (hnames name hname)
  rw [columnList, htexts]
  exact listed?_eq_some_iff canonical_identifier (afterIdentifier_separator hseparator) hne

/-! ## Two lists -/

theorem listed?_columnList {columns : List Text} (hne : columns ≠ []) :
    listed? separator Field.scan? (columnList separator columns) =
      some (columns.map Field.ofName, []) := by
  have hend : [].dropPrefix? separator = none :=
    dropPrefix?_eq_none_iff.mpr (not_prefix_of_head_ne hseparator (by simp))
  have hnil : AfterIdentifier [] := by simp [AfterIdentifier]
  have hlist := listed?_fields hne (afterIdentifier_separator hseparator) hnil hend
  rwa [List.append_nil] at hlist

theorem columnList_ne_nil {columns : List Text} (hne : columns ≠ []) :
    columnList separator columns ≠ [] := by
  intro hnil
  have hlist := listed?_columnList hseparator hne
  rw [hnil, listed?] at hlist
  cases hlist

/-- Different lists are never written alike, whatever names they hold, the star included. -/
theorem columnList_injective : Function.Injective (columnList separator) := by
  intro columns others h
  by_cases hcolumns : columns = []
  · subst hcolumns
    by_contra hothers
    exact columnList_ne_nil hseparator (Ne.symm hothers) h.symm
  by_cases hothers : others = []
  · subst hothers
    exact absurd h (columnList_ne_nil hseparator hcolumns)
  have hread := listed?_columnList hseparator hcolumns
  rw [h, listed?_columnList hseparator hothers] at hread
  obtain ⟨hfields, -⟩ := Prod.mk.inj (Option.some.inj hread)
  exact List.map_injective_iff.mpr ofName_injective hfields.symm

/-! ## Lists in statements -/

theorem columnsBehind?_columnList {columns : List Text} (hne : columns ≠ [])
    (hnames : ∀ name ∈ columns, IsName name) (front : Text) {t : Text} (ht : AfterIdentifier t)
    (hcomma : t.head? ≠ some ',') :
    columnsBehind? front separator (front ++ (columnList separator columns ++ t)) =
      some (columns, t) := by
  rw [columnsBehind?, dropPrefix?_append, Option.bind_some]
  exact (listed?_columnList_iff hseparator hne hnames).mpr
    ⟨rfl, ht, not_prefix_of_head_ne hseparator hcomma⟩

end

section

variable {zone : ZoneChoice} {columns : List Text}

theorem exists_ending {clause : Text} {clauses : List Text} {condition tail : Value} {s : Text}
    (hclause : clause ≠ []) (h : ending zone (clause :: clauses) condition tail = .ok s) :
    ∃ rest, s = clause ++ clauses.flatMap spaced ++ rest := by
  obtain ⟨filter, -, h⟩ := bind_eq_ok.mp h
  obtain ⟨rest, -, h⟩ := bind_eq_ok.mp h
  cases h
  refine ⟨[filter, rest].flatMap spaced, ?_⟩
  rw [List.cons_append, joinClauses_cons hclause, List.flatMap_append, List.append_assoc]

theorem columnsBehind?_select {kind : GroupKind} {table condition tail : Value} {s : Text}
    (hne : columns ≠ []) (hnames : ∀ name ∈ columns, IsName name)
    (h : select zone table (.group kind (columns.map .text)) condition tail = .ok s) :
    ∃ t, columnsBehind? "SELECT ".toList ", ".toList s = some (columns, t) := by
  rw [select_eq, fieldList_names kind hne] at h
  obtain ⟨rest, rfl⟩ := exists_ending (by decide) h
  have hseparator : ", ".toList ∈ separators := by decide
  have hfields : spaced (columnList ", ".toList columns) = ' ' :: columnList ", ".toList columns :=
    spaced_text (columnList_ne_nil hseparator hne)
  have hfrom : spaced "FROM".toList = " FROM".toList := rfl
  let following := " FROM".toList ++ (spaced (Identifier.ofValue table) ++ rest)
  have htext : "SELECT".toList ++ [columnList ", ".toList columns, "FROM".toList,
      Identifier.ofValue table].flatMap spaced ++ rest =
        "SELECT ".toList ++ (columnList ", ".toList columns ++ following) := by
    simp only [List.flatMap_cons, List.flatMap_nil, hfields, hfrom, following]
    simp
  have hfollows : AfterIdentifier following := by
    simp [following, AfterIdentifier, Identifier.backQuote]
  have hcomma : following.head? ≠ some ',' := by simp [following]
  have hread :=
    columnsBehind?_columnList hseparator hne hnames "SELECT ".toList hfollows hcomma
  rw [← htext] at hread
  exact ⟨following, hread⟩

theorem columnsBehind?_insert {table missing v : Value} {rows : List NamedRow} {s : Text}
    (hrows : HasRows v (rows.map NamedRow.row)) (hne : names rows ≠ [])
    (hnames : ∀ name ∈ names rows, IsName name) (h : insert zone table v missing = .ok s) :
    ∃ t, columnsBehind? ("INSERT INTO ".toList ++ Identifier.ofValue table ++ ['(']) [','] s =
      some (names rows, t) := by
  obtain ⟨tuples, -, rfl⟩ := (insert_eq_ok table hrows).mp h
  have hseparator : [','] ∈ separators := by decide
  let following := ')' :: (" VALUES ".toList ++ [','].intercalate (tuples.map tuple))
  have htext : insertion table (names rows) tuples =
      ("INSERT INTO ".toList ++ Identifier.ofValue table ++ ['(']) ++
        (columnList [','] (names rows) ++ following) := by
    rw [insertion_parts, tuple, columnList]
    simp only [following, List.append_assoc, List.cons_append, List.nil_append]
  have hfollows : AfterIdentifier following := by
    simp [following, AfterIdentifier, Identifier.backQuote]
  have hcomma : following.head? ≠ some ',' := by simp [following]
  rw [htext]
  exact ⟨following, columnsBehind?_columnList hseparator hne hnames _ hfollows hcomma⟩

end

/-- The names of a column list are read back before every text that begins neither with a back-quote
nor with the separator, which is left as it is, and they are read from no other text. So different
lists are never written alike. Both hold of both separators. In a SELECT statement the fields, and
in an INSERT statement the columns of all rows, are followed by such a text: they are read back
where they stand. -/
theorem columnList_readBack {columns : List Text} (hne : columns ≠ [])
    (hnames : ∀ name ∈ columns, IsName name) :
    (∀ separator ∈ separators,
      (∀ s t, listed? separator Identifier.scan? s = some (columns, t) ↔
        s = columnList separator columns ++ t ∧ AfterIdentifier t ∧ ¬separator <+: t) ∧
      Function.Injective (columnList separator)) ∧
    (∀ {zone kind table condition tail s},
      select zone table (.group kind (columns.map .text)) condition tail = .ok s →
        ∃ t, columnsBehind? "SELECT ".toList ", ".toList s = some (columns, t)) ∧
    ∀ {zone table v missing rows s}, HasRows v (rows.map NamedRow.row) → names rows = columns →
      insert zone table v missing = .ok s →
        ∃ t, columnsBehind? ("INSERT INTO ".toList ++ Identifier.ofValue table ++ ['(']) [','] s =
          some (columns, t) := by
  refine ⟨fun separator hseparator => ⟨?_, columnList_injective hseparator⟩, ?_, ?_⟩
  · intro s t
    exact listed?_columnList_iff hseparator hne hnames
  · intro zone kind table condition tail s h
    exact columnsBehind?_select hne hnames h
  · rintro zone table v missing rows s hrows rfl h
    exact columnsBehind?_insert hrows hne hnames h

/-- A back-quote, an empty name, and names that look like the end of a name or of a list. -/
def markedColumns : List Text := ["`".toList, [], "a`, `b".toList, "*`,".toList]

/-- A row with these columns. -/
def markedRow : NamedRow := markedColumns.map fun name => (name, .null)

theorem columnList_readBack_marked :
    markedColumns ≠ [] ∧ (∀ name ∈ markedColumns, IsName name) ∧
      listed? ", ".toList Identifier.scan? "````, ``, `a``, ``b`, `*``,`,``".toList =
        some (markedColumns, ",``".toList) ∧
      (∃ s t, select (.ok .utc) (.text "t".toList) (.group .tuple (markedColumns.map .text)) .null
          (.text "FOR UPDATE".toList) = .ok s ∧
        columnsBehind? "SELECT ".toList ", ".toList s = some (markedColumns, t)) ∧
      ∃ s t, insert (.ok .utc) (.text "t".toList) (.mapping markedRow.row) .null = .ok s ∧
        columnsBehind? ("INSERT INTO ".toList ++ Identifier.ofValue (.text "t".toList) ++ ['('])
          [','] s = some (markedColumns, t) := by
  have hne : markedColumns ≠ [] := by decide
  have hnames : ∀ name ∈ markedColumns, IsName name := by decide
  obtain ⟨hlists, hselect, hinsert⟩ := columnList_readBack hne hnames
  obtain ⟨hread, -⟩ := hlists ", ".toList (by decide)
  have hfollows : AfterIdentifier ",``".toList := by
    simp [AfterIdentifier, Identifier.backQuote]
  refine ⟨hne, hnames, (hread _ _).mpr ⟨by decide, hfollows, by decide⟩, ?_, ?_⟩
  · have hselected : ∃ s, select (.ok .utc) (.text "t".toList)
        (.group .tuple (markedColumns.map .text)) .null (.text "FOR UPDATE".toList) = .ok s :=
      ⟨_, rfl⟩
    obtain ⟨s, hs⟩ := hselected
    obtain ⟨t, ht⟩ := hselect hs
    exact ⟨s, t, hs, ht⟩
  · have hrows : HasRows (.mapping markedRow.row) ([markedRow].map NamedRow.row) := .one _
    have hcolumns : names [markedRow] = markedColumns := by decide
    have hinserted : ∃ s, insert (.ok .utc) (.text "t".toList) (.mapping markedRow.row) .null =
        .ok s := ⟨_, rfl⟩
    obtain ⟨s, hs⟩ := hinserted
    obtain ⟨t, ht⟩ := hinsert hrows hcolumns hs
    exact ⟨s, t, hs, ht⟩

end SqlGateway.Statement
