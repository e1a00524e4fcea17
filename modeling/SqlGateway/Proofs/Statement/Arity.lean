import SqlGateway.Proofs.Sql.Nesting
import SqlGateway.Proofs.Sql.Separated
import SqlGateway.Proofs.Statement.Filter
import SqlGateway.Proofs.Statement.Rows

/-!
# How many expressions a statement has

A tuple should have one expression for each column, and a SET list one assignment for each key. What
decides is the commas that stand outside quotation marks and parentheses. A literal has none of
those, with one exception: a mapping that stands by itself is written as one assignment for each of
its entries, and as nothing if it has none. So the shape of a statement is right exactly if every
mapping among its values has one entry (`shape_iff`).

`IsPieces` says how the text of a value is cut at these commas. There is at least one piece to every
value, so a second piece to one of them cannot be made up for by another: that is what the counts
`pieces_count_iff` and `assignments_count_iff` rest on.
-/

namespace SqlGateway.Statement

open SqlGateway.Sql

/-! ## Pieces of literals -/

/-- How many expressions the literal of a value is. -/
def width : Value → Nat
  | .mapping entries => entries.length
  | _ => 1

/-- The value is written as one expression: it is no mapping, or one with a single entry. -/
def IsSingle (v : Value) : Prop := width v = 1

instance (v : Value) : Decidable (IsSingle v) := inferInstanceAs (Decidable (width v = 1))

/-- The parts between the commas of the literal of a value. There is always one, but it may be
empty. -/
structure IsPieces (v : Value) (pieces : List Text) : Prop where
  part : ∀ p ∈ pieces, IsPart p
  length : pieces.length = max 1 (width v)
  filled : (∀ p ∈ pieces, p ≠ []) ↔ width v ≠ 0

/-- The list has so many texts, and none of them is empty. -/
def HasArity (n : Nat) (texts : List Text) : Prop := texts.length = n ∧ ∀ s ∈ texts, s ≠ []

theorem intercalate_space_comma (s : Text) (texts : List Text) :
    ", ".toList.intercalate (s :: texts) =
      [','].intercalate (s :: texts.map fun text => ' ' :: text) := by
  rw [intercalate_cons, intercalate_cons, List.flatMap_map]
  rfl

theorem isPieces_expression {zone : ZoneChoice} {v : Value} {s : Text}
    (hv : Constant.IsExpression false v) (h : Literal.ofValue zone false v = .ok s) :
    IsPieces v [s] := by
  obtain ⟨c, -, hread⟩ := Constant.readsAs_ofValue hv h
  obtain ⟨d, rest, rfl, -⟩ := hread.head
  have hwidth : width v = 1 := by
    unfold width
    split
    · next entries => exact absurd rfl (hv rfl entries)
    · rfl
  constructor
  · exact List.forall_mem_singleton.mpr (isPart_ofValue hv h)
  · rw [hwidth]
    rfl
  · rw [hwidth]
    simp

theorem isPieces_mapping {entries : List (Value × Value)} {s : Text} {texts : List Text}
    (hlength : (s :: texts).length = entries.length)
    (htexts : ∀ t ∈ s :: texts, t ≠ [] ∧ IsPart t) :
    IsPieces (.mapping entries) (s :: texts.map fun text => ' ' :: text) := by
  have hspace : IsPart [' '] := isPart_inert (by decide)
  obtain ⟨hs, hrest⟩ := List.forall_mem_cons.mp htexts
  have hwidth : width (.mapping entries) = texts.length + 1 := hlength.symm
  constructor
  · rw [List.forall_mem_cons, List.forall_mem_map]
    exact ⟨hs.2, fun t ht => hspace.append (hrest t ht).2⟩
  · rw [hwidth, List.length_cons, List.length_map]
    omega
  · rw [hwidth, List.forall_mem_cons, List.forall_mem_map]
    simp [hs.1]

theorem isPieces_empty : IsPieces (.mapping []) [[]] where
  part := List.forall_mem_singleton.mpr rfl
  length := rfl
  filled := by simp [width]

theorem exists_pieces {zone : ZoneChoice} {v : Value} {s : Text}
    (h : Literal.ofValue zone false v = .ok s) :
    ∃ pieces, s = [','].intercalate pieces ∧ IsPieces v pieces := by
  by_cases hv : Constant.IsExpression false v
  · exact ⟨[s], List.intercalate_singleton.symm, isPieces_expression hv h⟩
  · simp only [Constant.IsExpression, not_forall, not_not] at hv
    obtain ⟨-, entries, rfl⟩ := hv
    obtain ⟨texts, htexts, rfl⟩ := map_eq_ok.mp h
    obtain ⟨hlength, hparts⟩ := isPart_ofEntries htexts
    cases texts with
    | nil =>
      obtain rfl := List.length_eq_zero_iff.mp hlength.symm
      exact ⟨[[]], List.intercalate_singleton.symm, isPieces_empty⟩
    | cons s texts => exact ⟨_, intercalate_space_comma s texts, isPieces_mapping hlength hparts⟩

/-! ## Lists of literals -/

/-- The texts are parts, and there is one at least. -/
def Parted (texts : List Text) : Prop := texts ≠ [] ∧ ∀ p ∈ texts, IsPart p

theorem length_le_flatten {α : Type} {R : α → List Text → Prop} {as : List α}
    {lists : List (List Text)} (h : List.Forall₂ R as lists)
    (hparted : ∀ a texts, R a texts → Parted texts) : as.length ≤ lists.flatten.length := by
  induction h with
  | nil => exact Nat.le_refl 0
  | cons hfirst _ ih =>
    have hlength := List.length_pos_of_ne_nil (hparted _ _ hfirst).1
    rw [List.flatten_cons, List.length_append, List.length_cons]
    omega

/-- Lists of parts, each put together with commas and all put together with commas, are cut into the
parts of all of them. -/
theorem parts?_flatten {lists : List (List Text)} (hne : lists ≠ [])
    (h : ∀ texts ∈ lists, Parted texts) :
    ∃ first others, lists.flatten = first :: others ∧
      [','].intercalate (lists.map [','].intercalate) =
        [','].intercalate (first :: others) ∧
      parts? .start ([','].intercalate (first :: others)) = some (first, others) := by
  obtain ⟨texts, lists, rfl⟩ := List.exists_cons_of_ne_nil hne
  obtain ⟨first, rest, rfl⟩ := List.exists_cons_of_ne_nil (h texts (List.mem_cons_self ..)).1
  have hjoin := @intercalate_flatten _ [','] _ fun texts htexts => (h texts htexts).1
  have hparts := List.forall_mem_flatten.mpr fun texts htexts => (h texts htexts).2
  exact ⟨first, rest ++ lists.flatten, rfl, hjoin, parts?_intercalate hparts⟩

theorem IsPieces.parted {v : Value} {pieces : List Text} (h : IsPieces v pieces) :
    Parted pieces := by
  refine ⟨?_, h.part⟩
  rintro rfl
  have hlength : 0 = max 1 (width v) := h.length
  omega

theorem exists_pieces_all {zone : ZoneChoice} {vs : List Value} {texts : List Text}
    (h : List.Forall₂ (fun v s => Literal.ofValue zone false v = .ok s) vs texts) :
    ∃ lists, texts = lists.map [','].intercalate ∧ List.Forall₂ IsPieces vs lists := by
  induction h with
  | nil => exact ⟨[], rfl, .nil⟩
  | cons hv _ ih =>
    obtain ⟨pieces, rfl, hpieces⟩ := exists_pieces hv
    obtain ⟨lists, rfl, hlists⟩ := ih
    exact ⟨pieces :: lists, rfl, .cons hpieces hlists⟩

section

variable {vs : List Value} {lists : List (List Text)}

/-- There are as many pieces as values, and none of them is empty, exactly if every value is
single. -/
theorem pieces_count_iff (h : List.Forall₂ IsPieces vs lists) :
    HasArity vs.length lists.flatten ↔ ∀ v ∈ vs, IsSingle v := by
  induction h with
  | nil => simp [HasArity]
  | @cons v pieces vs lists hpieces hrest ih =>
    have hlength := hpieces.length
    have hle := length_le_flatten hrest fun _ _ h => h.parted
    rw [List.forall_mem_cons, ← ih, HasArity, HasArity, List.flatten_cons, List.length_append,
      List.length_cons, List.forall_mem_append, hpieces.filled]
    unfold IsSingle
    -- By `hle` the other values have a piece each at least, so this one has no more than one.
    constructor
    · rintro ⟨hcount, hfilled, hothers⟩
      exact ⟨by omega, by omega, hothers⟩
    · rintro ⟨hsingle, hcount, hothers⟩
      exact ⟨by omega, by omega, hothers⟩

end

/-! ## Tuples -/

/-- The expressions of a list, given the text between its parentheses. -/
def expressions? (inside : Text) : Option (List Text) :=
  if inside = [] then some []
  else (parts? .start inside).map fun (first, others) => first :: others

/-- A list of literals has one expression for each value, and none that is empty, exactly if every
value is single. -/
theorem exists_expressions {zone : ZoneChoice} {vs : List Value} {texts : List Text}
    (h : List.Forall₂ (fun v s => Literal.ofValue zone false v = .ok s) vs texts) :
    ∃ es, expressions? ([','].intercalate texts) = some es ∧
      (HasArity vs.length es ↔ ∀ v ∈ vs, IsSingle v) := by
  obtain ⟨lists, rfl, hlists⟩ := exists_pieces_all h
  rw [← pieces_count_iff hlists]
  by_cases hne : lists = []
  · subst hne
    exact ⟨[], rfl, Iff.rfl⟩
  obtain ⟨first, others, hflat, hjoin, hparts⟩ :=
    parts?_flatten hne (forall_mem_right hlists fun _ _ _ hpieces => hpieces.parted)
  rw [hflat, hjoin]
  by_cases hempty : [','].intercalate (first :: others) = []
  · -- An empty mapping is all there is between the parentheses.
    refine ⟨[], if_pos hempty, ?_, ?_⟩
    · rintro ⟨hcount, -⟩
      obtain rfl := List.length_eq_zero_iff.mp hcount.symm
      exact absurd (List.forall₂_nil_left_iff.mp hlists) hne
    · rintro ⟨-, hfilled⟩
      exact absurd hempty (intercalate_ne_nil (hfilled first (List.mem_cons_self ..)))
  · refine ⟨first :: others, ?_, Iff.rfl⟩
    rw [expressions?, if_neg hempty, hparts, Option.map_some]

/-- The expressions in the parentheses at the front of a text, and what follows the parentheses. -/
def group? (s : Text) : Option (List Text × Text) :=
  (scanGroup? s).bind fun (inside, rest) => (expressions? inside).map fun es => (es, rest)

theorem group?_tuple {texts es : List Text} (hclosed : ∀ s ∈ texts, Closed s)
    (h : expressions? ([','].intercalate texts) = some es) (t : Text) :
    group? (tuple texts ++ t) = some (es, t) := by
  have hcomma : Closed [','] := rfl
  have htext : tuple texts ++ t = '(' :: [','].intercalate texts ++ ')' :: t := by simp [tuple]
  rw [htext, group?, (closed_intercalate hcomma hclosed).scanGroup t, Option.bind_some]
  dsimp only
  rw [h, Option.map_some]

theorem reads_group {texts es : List Text} (hclosed : ∀ s ∈ texts, Closed s)
    (h : expressions? ([','].intercalate texts) = some es) : Reads group? (tuple texts) es :=
  ⟨⟨'(', _, rfl, by decide⟩, fun t _ => group?_tuple hclosed h t⟩

theorem expressions?_texts {texts : List Text} (h : ∀ s ∈ texts, s ≠ [] ∧ IsPart s) :
    expressions? ([','].intercalate texts) = some texts := by
  cases texts with
  | nil => rfl
  | cons s texts =>
    have hs := (h s (List.mem_cons_self ..)).1
    rw [expressions?, if_neg (intercalate_ne_nil hs), parts?_intercalate fun p hp => (h p hp).2,
      Option.map_some]

/-! ## The shape of INSERT -/

/-- What follows the name of a table, which may be the star. -/
def afterTable? : Text → Option Text
  | '*' :: rest => some rest
  | s => (Identifier.scan? s).map Prod.snd

theorem afterTable?_identifier (table : Value) {t : Text}
    (ht : t.head? ≠ some Identifier.backQuote) :
    afterTable? (Identifier.ofValue table ++ t) = some t := by
  rcases identifier_cases table with ⟨htable, -⟩ | ⟨htable, -⟩
  · rw [htable]
    rfl
  · rw [htable]
    show (Identifier.scan? (Identifier.quote table.plain ++ t)).map Prod.snd = some t
    rw [Identifier.scan?_quote _ ht, Option.map_some]

/-- The expressions of the column list and those of every tuple of an INSERT statement. -/
def insertShape? (s : Text) : Option (List Text × List (List Text)) := do
  let s ← s.dropPrefix? "INSERT INTO ".toList
  let s ← afterTable? s
  let (columns, s) ← group? s
  let s ← s.dropPrefix? " VALUES ".toList
  let (tuples, s) ← separated? group? s
  if s = [] then some (columns, tuples) else none

theorem group?_columns (columns : List Text) (t : Text) :
    group? (tuple (columnTexts columns) ++ t) = some (columnTexts columns, t) := by
  have hparts : ∀ s ∈ columnTexts columns, s ≠ [] ∧ IsPart s := by
    rw [columnTexts, List.forall_mem_map]
    intro name _
    obtain ⟨c, rest, hname, -⟩ := identifier_head (.text name)
    exact ⟨by simp [hname], isPart_identifier _⟩
  exact group?_tuple (fun s hs => (hparts s hs).2.closed) (expressions?_texts hparts) t

theorem insertShape?_insertion (table : Value) (columns : List Text)
    {tuples shapes : List (List Text)} (hne : tuples ≠ [])
    (h : List.Forall₂ (Reads group?) (tuples.map tuple) shapes) :
    insertShape? (insertion table columns tuples) = some (columnTexts columns, shapes) := by
  have hscan := separated?_all (by simpa using hne) h
  rw [insertion_parts, insertShape?, dropPrefix?_append]
  simp only [Option.bind_eq_bind, Option.bind_some,
    afterTable?_identifier table (tuple_head_ne _ _), group?_columns, dropPrefix?_append, hscan,
    if_pos]

section

variable {zone : ZoneChoice} {missing : Value} {rows : List NamedRow}

theorem exists_shape {columns texts : List Text} {row : NamedRow}
    (h : IsTuple zone missing columns row texts) :
    ∃ es, Reads group? (tuple texts) es ∧
      (HasArity columns.length es ↔ ∀ name ∈ columns, IsSingle (cellOf missing row name)) := by
  have hcells : List.Forall₂ (fun v s => Literal.ofValue zone false v = .ok s)
      (columns.map (cellOf missing row)) texts := List.forall₂_map_left_iff.mpr h
  obtain ⟨es, hes, hcount⟩ := exists_expressions hcells
  rw [List.length_map, List.forall_mem_map] at hcount
  have hclosed : ∀ s ∈ texts, Closed s :=
    forall_mem_right h fun _ _ _ hliteral => closed_literal hliteral
  exact ⟨es, reads_group hclosed hes, hcount⟩

theorem exists_shapes {columns : List Text} {cells : List (List Text)}
    (h : List.Forall₂ (IsTuple zone missing columns) rows cells) :
    ∃ shapes, List.Forall₂ (Reads group?) (cells.map tuple) shapes ∧
      List.Forall₂ (fun row es => HasArity columns.length es ↔
        ∀ name ∈ columns, IsSingle (cellOf missing row name)) rows shapes := by
  induction h with
  | nil => exact ⟨[], .nil, .nil⟩
  | cons hrow _ ih =>
    obtain ⟨es, hes, hcount⟩ := exists_shape hrow
    obtain ⟨shapes, hshapes, hcounts⟩ := ih
    exact ⟨es :: shapes, .cons hes hshapes, .cons hcount hcounts⟩

/-- The columns of an INSERT statement are those of its rows, and a tuple has one expression for
each of them exactly if all cells of the row are single. -/
theorem insert_shape {table v : Value} {s : Text} (hrows : HasRows v (rows.map NamedRow.row))
    (h : insert zone table v missing = .ok s) :
    ∃ tuples, insertShape? s = some (columnTexts (names rows), tuples) ∧
      List.Forall₂ (fun row es => HasArity (names rows).length es ↔
        ∀ name ∈ names rows, IsSingle (cellOf missing row name)) rows tuples := by
  obtain ⟨cells, hcells, rfl⟩ := (insert_eq_ok table hrows).mp h
  have hne : cells ≠ [] := by
    rintro rfl
    obtain rfl := List.forall₂_nil_right_iff.mp hcells
    exact hrows.ne_nil rfl
  obtain ⟨shapes, hshapes, hcounts⟩ := exists_shapes hcells
  exact ⟨shapes, insertShape?_insertion table _ hne hshapes, hcounts⟩

end

/-! ## The shape of UPDATE -/

/-- The assignments of an UPDATE statement without a condition and a tail. -/
def updateShape? (s : Text) : Option (List Text) := do
  let s ← s.dropPrefix? "UPDATE ".toList
  let s ← afterTable? s
  let s ← s.dropPrefix? " SET ".toList
  let (first, others) ← parts? .start s
  return first :: others

/-- The target of an assignment and its right side. -/
def assignment? (s : Text) : Option (Text × Text) :=
  match Identifier.scan? (s.dropWhile (· = ' ')) with
  | some (name, '=' :: right) => some (name, right)
  | _ => none

/-- The text assigns something to the column. -/
def Assigns (name s : Text) : Prop := ∃ right, assignment? s = some (name, right) ∧ right ≠ []

theorem assignment?_quote (name right : Text) :
    assignment? (Identifier.quote name ++ '=' :: right) = some (name, right) := by
  have hblank : (Identifier.quote name ++ '=' :: right).dropWhile (· = ' ') =
      Identifier.quote name ++ '=' :: right := rfl
  rw [assignment?, hblank, Identifier.scan?_quote name (by simp [Identifier.backQuote])]
  rfl

theorem assigns_quote (name right : Text) :
    Assigns name (Identifier.quote name ++ '=' :: right) ↔ right ≠ [] := by
  unfold Assigns
  rw [assignment?_quote]
  simp

/-- The parts between the commas of the assignment of a value to a column. -/
def IsAssignment (entry : Text × Value) (pieces : List Text) : Prop :=
  ∃ p rest, pieces = (Identifier.quote entry.1 ++ '=' :: p) :: rest ∧ IsPieces entry.2 (p :: rest)

theorem IsAssignment.parted {entry : Text × Value} {pieces : List Text}
    (h : IsAssignment entry pieces) : Parted pieces := by
  obtain ⟨p, rest, rfl, hpieces⟩ := h
  obtain ⟨hp, hrest⟩ := List.forall_mem_cons.mp hpieces.part
  have hequal : IsPart ['='] := isPart_inert (by decide)
  have hassignment := (isPart_name entry.1).append (hequal.append hp)
  exact ⟨List.cons_ne_nil _ _, List.forall_mem_cons.mpr ⟨hassignment, hrest⟩⟩

section

variable {zone : ZoneChoice} {data : NamedRow} {lists : List (List Text)}

theorem assignments_count_iff (h : List.Forall₂ IsAssignment data lists) :
    List.Forall₂ Assigns (data.map Prod.fst) lists.flatten ↔ ∀ entry ∈ data, IsSingle entry.2 := by
  induction h with
  | nil => simp
  | @cons entry pieces data lists hpieces hrest ih =>
    obtain ⟨p, rest, rfl, hp⟩ := hpieces
    have hle := length_le_flatten hrest fun _ _ h => h.parted
    have hlength : rest.length + 1 = max 1 (width entry.2) := hp.length
    have hfilled := hp.filled
    rw [List.map_cons, List.flatten_cons, List.cons_append, List.forall₂_cons, assigns_quote,
      List.forall_mem_cons, ← ih]
    unfold IsSingle
    constructor
    · rintro ⟨hne, hothers⟩
      have hcount := hothers.length_eq
      rw [List.length_map, List.length_append] at hcount
      obtain rfl : rest = [] := List.length_eq_zero_iff.mp (by omega)
      have hwidth : width entry.2 ≠ 0 := hfilled.mp (List.forall_mem_singleton.mpr hne)
      rw [List.length_nil] at hlength
      exact ⟨by omega, hothers⟩
    · rintro ⟨hsingle, hothers⟩
      obtain rfl : rest = [] := List.length_eq_zero_iff.mp (by omega)
      have hne : ∀ q ∈ [p], q ≠ [] := hfilled.mpr (by omega)
      exact ⟨hne p (List.mem_singleton_self p), hothers⟩

theorem exists_assignments (hnames : ∀ entry ∈ data, IsName entry.1) {texts : List Text}
    (h : assignments zone (NamedRow.row data) = .ok texts) :
    ∃ lists, texts = lists.map [','].intercalate ∧ List.Forall₂ IsAssignment data lists := by
  induction data generalizing texts with
  | nil =>
    cases h
    exact ⟨[], rfl, .nil⟩
  | cons entry data ih =>
    obtain ⟨hname, hnames⟩ := List.forall_mem_cons.mp hnames
    obtain ⟨s, hs, h⟩ := bind_eq_ok.mp h
    obtain ⟨rest, hrest, h⟩ := bind_eq_ok.mp h
    cases h
    obtain ⟨pieces, rfl, hpieces⟩ := exists_pieces hs
    obtain ⟨lists, rfl, hlists⟩ := ih hnames hrest
    obtain ⟨p, more, rfl⟩ := List.exists_cons_of_ne_nil hpieces.parted.1
    refine ⟨((Identifier.quote entry.1 ++ '=' :: p) :: more) :: lists, ?_,
      .cons ⟨p, more, rfl, hpieces⟩ hlists⟩
    rw [List.map_cons, ofValue_name hname]
    cases more <;> simp

theorem spaced_text {clause : Text} (h : clause ≠ []) : spaced clause = ' ' :: clause := by
  rw [spaced, if_neg (by simpa using h)]

theorem assignments_ne_nil {entry : Value × Value} {entries : List (Value × Value)}
    {texts : List Text} (h : assignments zone (entry :: entries) = .ok texts) :
    [','].intercalate texts ≠ [] := by
  obtain ⟨s, -, h⟩ := bind_eq_ok.mp h
  obtain ⟨rest, -, h⟩ := bind_eq_ok.mp h
  cases h
  exact intercalate_ne_nil (List.append_ne_nil_of_right_ne_nil _ (List.cons_ne_nil _ _))

theorem update_eq_ok {table : Value} {s : Text}
    (h : update zone table .null (.mapping (NamedRow.row data)) (.text []) = .ok s) :
    data ≠ [] ∧ ∃ texts, assignments zone (NamedRow.row data) = .ok texts ∧
      s = "UPDATE ".toList ++ (Identifier.ofValue table ++
        (" SET ".toList ++ [','].intercalate texts)) := by
  cases data with
  | nil => cases h
  | cons entry data =>
    refine ⟨List.cons_ne_nil _ _, ?_⟩
    obtain ⟨texts, htexts, h⟩ := bind_eq_ok.mp h
    refine ⟨texts, htexts, ?_⟩
    have hset : spaced "SET".toList = " SET".toList := rfl
    have hassigned := spaced_text (assignments_ne_nil htexts)
    have htable : spaced (Identifier.ofValue table) = ' ' :: Identifier.ofValue table := by
      obtain ⟨c, rest, hname, -⟩ := identifier_head table
      exact spaced_text (by simp [hname])
    have hclauses : joinClauses ["UPDATE".toList, Identifier.ofValue table, "SET".toList,
        [','].intercalate texts, [], []] = s := Except.ok.inj h
    rw [← hclauses, joinClauses_cons (by decide)]
    simp only [List.flatMap_cons, htable, hset, hassigned]
    simp [spaced]

/-- The SET list has exactly one assignment for each key, in order and to that key, exactly if all
values are single. -/
theorem update_shape {table : Value} {s : Text} (hnames : ∀ entry ∈ data, IsName entry.1)
    (h : update zone table .null (.mapping (NamedRow.row data)) (.text []) = .ok s) :
    ∃ parts, updateShape? s = some parts ∧
      (List.Forall₂ Assigns (data.map Prod.fst) parts ↔ ∀ entry ∈ data, IsSingle entry.2) := by
  obtain ⟨hne, texts, htexts, rfl⟩ := update_eq_ok h
  obtain ⟨lists, rfl, hlists⟩ := exists_assignments hnames htexts
  have hlists_ne : lists ≠ [] := by
    rintro rfl
    exact hne (List.forall₂_nil_right_iff.mp hlists)
  obtain ⟨first, others, hflat, hjoin, hparts⟩ :=
    parts?_flatten hlists_ne (forall_mem_right hlists fun _ _ _ hpieces => hpieces.parted)
  refine ⟨lists.flatten, ?_, assignments_count_iff hlists⟩
  have hset (t : Text) : (" SET ".toList ++ t).head? ≠ some Identifier.backQuote := by
    simp [Identifier.backQuote]
  rw [updateShape?, dropPrefix?_append, hjoin, hflat]
  simp only [Option.bind_eq_bind, Option.bind_some, afterTable?_identifier table (hset _),
    dropPrefix?_append, hparts]
  rfl

end

/-- The shape of a statement is that of its columns or keys exactly if its values are single: in an
INSERT statement a tuple has one expression for each column, none of them empty, if and only if all
its cells are single, and in an UPDATE statement the SET list has one assignment for each key, in
order and with something on the right, if and only if all values are. -/
theorem shape_iff (zone : ZoneChoice) (table : Value) :
    (∀ {v missing rows s}, HasRows v (rows.map NamedRow.row) →
      insert zone table v missing = .ok s →
      ∃ tuples, insertShape? s = some (columnTexts (names rows), tuples) ∧
        List.Forall₂ (fun row es => HasArity (names rows).length es ↔
          ∀ name ∈ names rows, IsSingle (cellOf missing row name)) rows tuples) ∧
    (∀ {data s}, (∀ entry ∈ data, IsName entry.1) →
      update zone table .null (.mapping (NamedRow.row data)) (.text []) = .ok s →
      ∃ parts, updateShape? s = some parts ∧
        (List.Forall₂ Assigns (data.map Prod.fst) parts ↔ ∀ entry ∈ data, IsSingle entry.2)) :=
  ⟨insert_shape, update_shape⟩

/-- A list with a mapping in it, and a mapping with a single entry. -/
def singleData : NamedRow :=
  [("a".toList, .group .list
      [.mapping [(.text "k".toList, .bool true), (.text "l".toList, .null)]]),
    ("b".toList, .mapping [(.text "c".toList, .text "x,y".toList)])]

def singleInsert : Text :=
  "INSERT INTO `t`(`a`,`b`) VALUES (('\x7b\\'k\\': True, \\'l\\': None\x7d'),`c`='x,y')".toList

def singleUpdate : Text :=
  "UPDATE `t` SET `a`=('\x7b\\'k\\': True, \\'l\\': None\x7d'),`b`=`c`='x,y'".toList

theorem shape_iff_single :
    (∃ es, insertShape? singleInsert = some (["`a`".toList, "`b`".toList], [es]) ∧ HasArity 2 es) ∧
      ∃ parts, updateShape? singleUpdate = some parts ∧
        List.Forall₂ Assigns ["a".toList, "b".toList] parts := by
  obtain ⟨hinsert, hupdate⟩ := shape_iff (.ok .utc) (.text "t".toList)
  have hrows : HasRows (.mapping (NamedRow.row singleData)) ([singleData].map NamedRow.row) :=
    .one _
  have hsingle : ∀ name ∈ names [singleData], IsSingle (cellOf .null singleData name) := by decide
  have hnames : ∀ entry ∈ singleData, IsName entry.1 := by decide
  have hinserted : insert (.ok .utc) (.text "t".toList) (.mapping (NamedRow.row singleData)) .null =
      .ok singleInsert := by decide +kernel
  have hupdated : update (.ok .utc) (.text "t".toList) .null (.mapping (NamedRow.row singleData))
      (.text []) = .ok singleUpdate := by decide +kernel
  obtain ⟨tuples, htuples, hcounts⟩ := hinsert hrows hinserted
  obtain ⟨parts, hparts, hcount⟩ := hupdate hnames hupdated
  refine ⟨?_, parts, hparts, hcount.mpr (by decide)⟩
  obtain ⟨es, rest, hes, hrest, rfl⟩ := List.forall₂_cons_left_iff.mp hcounts
  obtain rfl := List.forall₂_nil_left_iff.mp hrest
  exact ⟨es, htuples, hes.mpr hsingle⟩

/-- A mapping with two entries assigns to a column that is no key. -/
def doubleData : NamedRow :=
  [("a".toList, .mapping [(.text "b".toList, .number (.integer 1) none),
    (.text "c".toList, .number (.integer 2) none)])]

/-- There is an UPDATE statement whose SET list has more assignments than there are keys. -/
theorem exists_updateShape?_ne : ∃ data s parts, (∀ entry ∈ data, IsName entry.1) ∧
    update (.ok .utc) (.text "t".toList) .null (.mapping (NamedRow.row data)) (.text []) = .ok s ∧
    updateShape? s = some parts ∧ ¬List.Forall₂ Assigns (data.map Prod.fst) parts := by
  have hnames : ∀ entry ∈ doubleData, IsName entry.1 := by decide
  have hupdate : update (.ok .utc) (.text "t".toList) .null (.mapping (NamedRow.row doubleData))
      (.text []) = .ok "UPDATE `t` SET `a`=`b`=1, `c`=2".toList := by decide +kernel
  obtain ⟨parts, hparts, hiff⟩ := update_shape hnames hupdate
  refine ⟨doubleData, _, parts, hnames, hupdate, hparts, ?_⟩
  intro hassigns
  have hsingle : ∀ entry ∈ doubleData, IsSingle entry.2 := hiff.mp hassigns
  exact absurd hsingle (by decide)

end SqlGateway.Statement
