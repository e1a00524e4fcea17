import SqlGateway.Proofs.Sql.Listing
import SqlGateway.Proofs.Statement.Arity

/-!
# UPDATE, DELETE and SELECT statements are taken apart

A scanner that knows identifiers and literals takes from the front of a statement its verb, its
table, and its assignments or fields (`Front.read?`). What it finds in a statement that was written
for these is just these, whatever characters the names and values hold; what it leaves is the WHERE
clause and the tail, as far as they are not empty (`statements_factor`).
-/

namespace SqlGateway.Statement

open SqlGateway.Sql

/-! ## The scanner -/

/-- What a SELECT statement asks for: every column, or the one with the name. -/
inductive Field where
  | star
  | column (name : Text)
  deriving DecidableEq

/-- The field that a name stands for. -/
def Field.ofName (name : Text) : Field := if IsName name then .column name else .star

/-- The field at the front of a text, and what follows it. -/
def Field.scan? : Text → Option (Field × Text)
  | '*' :: rest => some (.star, rest)
  | s => (Identifier.scan? s).map fun (name, rest) => (.column name, rest)

/-- A statement up to its condition. Literals are given as they are written. -/
inductive Front where
  | update (table : Text) (assignments : List (Text × Text))
  | delete (table : Text)
  | select (fields : List Field) (table : Text)
  deriving DecidableEq

namespace Front

/-- The name and the literal of the assignment at the front of a text, and what follows it. -/
def assignment? (s : Text) : Option ((Text × Text) × Text) := do
  let (name, s) ← Identifier.scan? s
  let s ← s.dropPrefix? ['=']
  let (literal, s) ← literal? s
  some ((name, literal), s)

/-- The front of an UPDATE statement, and what follows it. -/
def readUpdate? (s : Text) : Option (Front × Text) := do
  let s ← s.dropPrefix? "UPDATE ".toList
  let (table, s) ← Identifier.scan? s
  let s ← s.dropPrefix? " SET ".toList
  let (assignments, s) ← listed? [','] assignment? s
  some (.update table assignments, s)

/-- The front of a DELETE statement, and what follows it. -/
def readDelete? (s : Text) : Option (Front × Text) := do
  let s ← s.dropPrefix? "DELETE FROM ".toList
  let (table, s) ← Identifier.scan? s
  some (.delete table, s)

/-- The front of a SELECT statement, and what follows it. -/
def readSelect? (s : Text) : Option (Front × Text) := do
  let s ← s.dropPrefix? "SELECT ".toList
  let (fields, s) ← listed? ", ".toList Field.scan? s
  let s ← s.dropPrefix? " FROM ".toList
  let (table, s) ← Identifier.scan? s
  some (.select fields table, s)

/-- The front of the statement, and what follows it. -/
def read? (s : Text) : Option (Front × Text) :=
  readUpdate? s <|> readDelete? s <|> readSelect? s

end Front

/-! ## What follows the front -/

/-- The WHERE clause of the expression of a condition. -/
def filterText : Option Text → Text
  | none => []
  | some s => "WHERE ".toList ++ s

/-- A tail that is a text or missing. -/
def tailValue : Option Text → Value
  | none => .null
  | some s => .text s

/-- The tail as it is written. -/
def tailText : Option Text → Text
  | none => []
  | some s => Text.strip s

/-- The WHERE clause and the tail, each with the space before it, without what is empty. -/
def remainder (s? tail? : Option Text) : Text := spaced (filterText s?) ++ spaced (tailText tail?)

theorem tailClause_tailValue (tail? : Option Text) :
    tailClause (tailValue tail?) = .ok (tailText tail?) := by
  cases tail? with
  | none => rfl
  | some s => cases s <;> rfl

/-- What is left begins with a space, if there is any. -/
theorem remainder_head (s? tail? : Option Text) : ∀ c ∈ (remainder s? tail?).head?, c = ' ' := by
  have hspaced : ∀ clause rest : Text, (∀ c ∈ rest.head?, c = ' ') →
      ∀ c ∈ (spaced clause ++ rest).head?, c = ' ' := by
    intro clause rest hrest c hc
    cases clause with
    | nil => exact hrest c hc
    | cons d clause => exact (Option.some.inj hc).symm
  have htail := hspaced (tailText tail?) [] nofun
  rw [List.append_nil] at htail
  exact hspaced _ _ htail

theorem isBoundary_remainder (s? tail? : Option Text) : IsBoundary (remainder s? tail?) :=
  fun c hc => Or.inl (remainder_head s? tail? c hc)

theorem afterIdentifier_remainder (s? tail? : Option Text) :
    AfterIdentifier (remainder s? tail?) :=
  (isBoundary_remainder s? tail?).head_ne (by decide)

theorem dropPrefix?_remainder (s? tail? : Option Text) :
    (remainder s? tail?).dropPrefix? [','] = none := by
  have hhead := remainder_head s? tail?
  cases hrest : remainder s? tail? with
  | nil => rfl
  | cons c rest =>
    rw [hrest] at hhead
    obtain rfl : c = ' ' := hhead c rfl
    rfl

section

variable {zone : ZoneChoice} {condition : Value} {s? : Option Text}

theorem whereClause_eq (h : Condition.ofValueSql? zone condition = .ok s?) :
    whereClause zone condition = .ok (filterText s?) := by
  cases s? with
  | none => exact whereClause_none h
  | some s => exact whereClause_some h

/-- The clauses of a statement are followed by what is not empty of the WHERE clause and the
tail. -/
theorem ending_eq (h : Condition.ofValueSql? zone condition = .ok s?) {clause : Text}
    (hclause : clause ≠ []) (clauses : List Text) (tail? : Option Text) :
    ending zone (clause :: clauses) condition (tailValue tail?) =
      .ok (clause ++ clauses.flatMap spaced ++ remainder s? tail?) := by
  have hclauses : joinClauses ((clause :: clauses) ++ [filterText s?, tailText tail?]) =
      clause ++ clauses.flatMap spaced ++ remainder s? tail? := by
    rw [List.cons_append, joinClauses_cons hclause]
    simp [remainder]
  rw [ending, whereClause_eq h, tailClause_tailValue, ← hclauses]
  rfl

end

/-! ## Reading what was written -/

theorem readsBefore_field (name : Text) :
    ReadsBefore Field.scan? AfterIdentifier (Identifier.ofValue (.text name))
      (Field.ofName name) := by
  by_cases hname : IsName name
  · rw [ofValue_name hname, Field.ofName, if_pos hname]
    refine ⟨List.cons_ne_nil _ _, fun t ht => ?_⟩
    show (Identifier.scan? (Identifier.quote name ++ t)).map _ = _
    rw [(readsBefore_identifier name).2 t ht, Option.map_some]
  · obtain rfl := not_not.mp hname
    exact ⟨List.cons_ne_nil _ _, fun t _ => rfl⟩

theorem ofName_injective : Function.Injective Field.ofName := by
  intro name other h
  by_cases hname : IsName name <;> by_cases hother : IsName other
  · rw [Field.ofName, Field.ofName, if_pos hname, if_pos hother] at h
    exact Field.column.inj h
  · rw [Field.ofName, Field.ofName, if_pos hname, if_neg hother] at h
    cases h
  · rw [Field.ofName, Field.ofName, if_neg hname, if_pos hother] at h
    cases h
  · exact (not_not.mp hname).trans (not_not.mp hother).symm

/-- Fields are read back, whatever separates them, as long as it may stand behind an identifier. -/
theorem listed?_fields {separator t : Text} {fields : List Text} (hne : fields ≠ [])
    (hseparator : ∀ u, AfterIdentifier (separator ++ u)) (ht : AfterIdentifier t)
    (hend : t.dropPrefix? separator = none) :
    listed? separator Field.scan? (separator.intercalate (columnTexts fields) ++ t) =
      some (fields.map Field.ofName, t) := by
  obtain ⟨name, fields, rfl⟩ := List.exists_cons_of_ne_nil hne
  have htexts : List.Forall₂ (ReadsBefore Field.scan? AfterIdentifier) (columnTexts fields)
      (fields.map Field.ofName) := by
    rw [columnTexts, List.forall₂_map_left_iff, List.forall₂_map_right_iff, List.forall₂_same]
    exact fun name _ => readsBefore_field name
  exact listed?_texts hseparator (readsBefore_field name) htexts ht hend

/-- An assignment as it is written. -/
def assignmentText (a : Text × Text) : Text := Identifier.quote a.1 ++ '=' :: a.2

theorem readsBefore_assignment {a : Text × Text} (h : Reads literal? a.2 a.2) :
    ReadsBefore Front.assignment? IsBoundary (assignmentText a) a := by
  refine ⟨List.cons_ne_nil _ _, fun t ht => ?_⟩
  have htext : assignmentText a ++ t = Identifier.quote a.1 ++ (['='] ++ (a.2 ++ t)) := by
    simp [assignmentText]
  have hequal : (['='] ++ (a.2 ++ t)).head? ≠ some Identifier.backQuote := by
    simp [Identifier.backQuote]
  rw [htext, Front.assignment?, Identifier.scan?_quote a.1 hequal]
  simp only [Option.bind_eq_bind, Option.bind_some, dropPrefix?_append, h.2 t ht]

namespace Front

variable {table t : Text}

theorem read?_update {assignments : List (Text × Text)} (hne : assignments ≠ [])
    (h : ∀ a ∈ assignments, Reads literal? a.2 a.2) (ht : IsBoundary t)
    (hcomma : t.dropPrefix? [','] = none) :
    read? ("UPDATE ".toList ++ (Identifier.quote table ++ (" SET ".toList ++
      ([','].intercalate (assignments.map assignmentText) ++ t)))) =
      some (.update table assignments, t) := by
  obtain ⟨a, assignments, rfl⟩ := List.exists_cons_of_ne_nil hne
  obtain ⟨ha, hothers⟩ := List.forall_mem_cons.mp h
  have htexts : List.Forall₂ (ReadsBefore assignment? IsBoundary) (assignments.map assignmentText)
      assignments := by
    rw [List.forall₂_map_left_iff, List.forall₂_same]
    exact fun b hb => readsBefore_assignment (hothers b hb)
  have hlist := listed?_texts isBoundary_comma (readsBefore_assignment ha) htexts ht hcomma
  have hset (u : Text) : AfterIdentifier (" SET ".toList ++ u) := by
    simp [AfterIdentifier, Identifier.backQuote]
  -- Each part is read in front of the next one, which must be something that may stand there.
  rw [read?, readUpdate?, dropPrefix?_append, List.map_cons]
  simp only [Option.bind_eq_bind, Option.bind_some, (readsBefore_identifier table).2 _ (hset _),
    dropPrefix?_append, hlist]
  rfl

theorem read?_delete (ht : AfterIdentifier t) :
    read? ("DELETE FROM ".toList ++ (Identifier.quote table ++ t)) = some (.delete table, t) := by
  have hupdate (u : Text) : readUpdate? ("DELETE FROM ".toList ++ u) = none := rfl
  rw [read?, hupdate, readDelete?, dropPrefix?_append]
  simp only [Option.bind_eq_bind, Option.bind_some, (readsBefore_identifier table).2 t ht]
  rfl

theorem read?_select {fields : List Text} (hne : fields ≠ []) (ht : AfterIdentifier t) :
    read? ("SELECT ".toList ++ (", ".toList.intercalate
      (fields.map fun name => Identifier.ofValue (.text name)) ++ (" FROM ".toList ++
        (Identifier.quote table ++ t)))) = some (.select (fields.map Field.ofName) table, t) := by
  have hcomma (u : Text) : AfterIdentifier (", ".toList ++ u) := by
    simp [AfterIdentifier, Identifier.backQuote]
  have hfrom (u : Text) : AfterIdentifier (" FROM ".toList ++ u) := by
    simp [AfterIdentifier, Identifier.backQuote]
  have hlist (u : Text) := listed?_fields hne hcomma (hfrom u) rfl
  have hupdate (u : Text) : readUpdate? ("SELECT ".toList ++ u) = none := rfl
  have hdelete (u : Text) : readDelete? ("SELECT ".toList ++ u) = none := rfl
  rw [columnTexts] at hlist
  rw [read?, hupdate, hdelete, readSelect?, dropPrefix?_append]
  simp only [Option.bind_eq_bind, Option.bind_some, hlist, dropPrefix?_append,
    (readsBefore_identifier table).2 t ht]
  rfl

end Front

/-! ## Statements -/

/-- The assignments are those of the entries: the same names with the literals of the values. -/
def IsAssigned (zone : ZoneChoice) (data : NamedRow) (assigned : List (Text × Text)) : Prop :=
  List.Forall₂ (fun entry a => a.1 = entry.1 ∧ Literal.ofValue zone false entry.2 = .ok a.2)
    data assigned

section

variable {zone : ZoneChoice} {data : NamedRow} {condition : Value} {table : Text}
  {s? tail? : Option Text}

theorem assignments_eq_ok (hnames : ∀ entry ∈ data, IsName entry.1) {texts : List Text} :
    assignments zone (NamedRow.row data) = .ok texts ↔
      ∃ assigned, IsAssigned zone data assigned ∧ assigned.map assignmentText = texts := by
  induction data generalizing texts with
  | nil =>
    constructor
    · intro h
      cases h
      exact ⟨[], .nil, rfl⟩
    · rintro ⟨assigned, hassigned, rfl⟩
      cases hassigned
      rfl
  | cons entry data ih =>
    obtain ⟨hname, hnames⟩ := List.forall_mem_cons.mp hnames
    have hcons : assignments zone (NamedRow.row (entry :: data)) = (do
        let s ← Literal.ofValue zone false entry.2
        return (Identifier.ofValue (.text entry.1) ++ '=' :: s) ::
          (← assignments zone (NamedRow.row data))) := rfl
    rw [hcons, bind_eq_ok]
    constructor
    · rintro ⟨s, hs, h⟩
      obtain ⟨rest, hrest, h⟩ := bind_eq_ok.mp h
      cases h
      obtain ⟨assigned, hassigned, rfl⟩ := (ih hnames).mp hrest
      refine ⟨(entry.1, s) :: assigned, .cons ⟨rfl, hs⟩ hassigned, ?_⟩
      rw [List.map_cons, ofValue_name hname]
      rfl
    · rintro ⟨assigned, hassigned, rfl⟩
      cases hassigned with
      | @cons _ a _ assigned ha hassigned =>
        obtain ⟨hkey, hs⟩ := ha
        refine ⟨a.2, hs, bind_eq_ok.mpr ⟨_, (ih hnames).mpr ⟨assigned, hassigned, rfl⟩, ?_⟩⟩
        rw [List.map_cons, ofValue_name hname, ← hkey]
        rfl

theorem spaced_name (htable : IsName table) :
    spaced (Identifier.ofValue (.text table)) = ' ' :: Identifier.quote table := by
  rw [ofValue_name htable]
  exact spaced_text (List.cons_ne_nil _ _)

/-- The text of an UPDATE statement, of which there is one exactly if all values have literals. -/
theorem update_eq_ok_iff (hcondition : Condition.ofValueSql? zone condition = .ok s?)
    (htable : IsName table) (hne : data ≠ []) (hnames : ∀ entry ∈ data, IsName entry.1)
    {text : Text} :
    update zone (.text table) condition (.mapping (NamedRow.row data)) (tailValue tail?) =
        .ok text ↔
      ∃ assigned, IsAssigned zone data assigned ∧
        "UPDATE ".toList ++ (Identifier.quote table ++ (" SET ".toList ++
          ([','].intercalate (assigned.map assignmentText) ++ remainder s? tail?))) = text := by
  obtain ⟨entry, entries, rfl⟩ := List.exists_cons_of_ne_nil hne
  have hset : spaced "SET".toList = " SET".toList := rfl
  have hending (texts : List Text) (htexts : [','].intercalate texts ≠ []) :
      ending zone ["UPDATE".toList, Identifier.ofValue (.text table), "SET".toList,
        [','].intercalate texts] condition (tailValue tail?) =
      .ok ("UPDATE ".toList ++ (Identifier.quote table ++ (" SET ".toList ++
        ([','].intercalate texts ++ remainder s? tail?)))) := by
    rw [ending_eq hcondition (by decide)]
    simp only [List.flatMap_cons, spaced_name htable, hset, spaced_text htexts]
    simp
  change assignments zone (NamedRow.row (entry :: entries)) >>= _ = _ ↔ _
  rw [bind_eq_ok]
  constructor
  · rintro ⟨texts, htexts, h⟩
    have hnonempty := assignments_ne_nil htexts
    obtain ⟨assigned, hassigned, rfl⟩ := (assignments_eq_ok hnames).mp htexts
    exact ⟨assigned, hassigned, Except.ok.inj ((hending _ hnonempty).symm.trans h)⟩
  · rintro ⟨assigned, hassigned, rfl⟩
    have htexts := (assignments_eq_ok hnames).mpr ⟨assigned, hassigned, rfl⟩
    exact ⟨_, htexts, hending _ (assignments_ne_nil htexts)⟩

theorem delete_eq_ok (hcondition : Condition.ofValueSql? zone condition = .ok s?)
    (htable : IsName table) : delete zone (.text table) condition (tailValue tail?) =
      .ok ("DELETE FROM ".toList ++ (Identifier.quote table ++ remainder s? tail?)) := by
  rw [delete_eq, ending_eq hcondition (by decide)]
  simp only [List.flatMap_cons, spaced_name htable]
  simp

theorem fieldList_names (kind : GroupKind) {fields : List Text} (hne : fields ≠ []) :
    fieldList (.group kind (fields.map .text)) =
      .ok (", ".toList.intercalate (fields.map fun name => Identifier.ofValue (.text name))) := by
  obtain ⟨name, fields, rfl⟩ := List.exists_cons_of_ne_nil hne
  show Except.ok (List.intercalate _ (((name :: fields).map Value.text).map Identifier.ofValue)) = _
  rw [List.map_map]
  rfl

theorem select_eq_ok (hcondition : Condition.ofValueSql? zone condition = .ok s?)
    (htable : IsName table) (kind : GroupKind) {fields : List Text} (hne : fields ≠ []) :
    select zone (.text table) (.group kind (fields.map .text)) condition (tailValue tail?) =
      .ok ("SELECT ".toList ++ (", ".toList.intercalate
        (fields.map fun name => Identifier.ofValue (.text name)) ++ (" FROM ".toList ++
          (Identifier.quote table ++ remainder s? tail?)))) := by
  have hfrom : spaced "FROM".toList = " FROM".toList := rfl
  have hfields : ", ".toList.intercalate
      (fields.map fun name => Identifier.ofValue (.text name)) ≠ [] := by
    obtain ⟨name, fields, rfl⟩ := List.exists_cons_of_ne_nil hne
    exact intercalate_ne_nil (readsBefore_field name).1
  rw [select_eq, fieldList_names kind hne]
  change ending _ _ _ _ = _
  rw [ending_eq hcondition (by decide)]
  simp only [List.flatMap_cons, spaced_name htable, hfrom, spaced_text hfields]
  simp

theorem IsAssigned.reads {assigned : List (Text × Text)} (h : IsAssigned zone data assigned)
    (hdata : ∀ entry ∈ data, Constant.IsExpression false entry.2) :
    ∀ a ∈ assigned, Reads literal? a.2 a.2 :=
  forall_mem_right h fun entry hentry _ ha => reads_literal (hdata entry hentry) ha.2

theorem IsAssigned.ne_nil {assigned : List (Text × Text)} (h : IsAssigned zone data assigned)
    (hne : data ≠ []) : assigned ≠ [] := by
  rintro rfl
  exact hne (List.forall₂_nil_right_iff.mp h)

theorem exists_isAssigned_iff : (∃ assigned, IsAssigned zone data assigned) ↔
    ∀ entry ∈ data, ∃ s, Literal.ofValue zone false entry.2 = .ok s := by
  induction data with
  | nil => exact iff_of_true ⟨[], .nil⟩ nofun
  | cons entry data ih =>
    rw [List.forall_mem_cons, ← ih]
    constructor
    · rintro ⟨assigned, hassigned⟩
      cases hassigned with
      | cons ha hrest => exact ⟨⟨_, ha.2⟩, _, hrest⟩
    · rintro ⟨⟨s, hs⟩, assigned, hassigned⟩
      exact ⟨(entry.1, s) :: assigned, .cons ⟨rfl, hs⟩ hassigned⟩

end

/-- From the front of a statement the scanner takes what the statement was written for: the verb,
the table, the names with the literals of their values in order, or the fields in order. What
follows is the WHERE clause of the condition and the stripped tail, as far as they are not empty,
each behind one space. An UPDATE statement is written if all values have literals; without a column
to assign to there is a data format error, whatever the condition is. -/
theorem statements_factor (zone : ZoneChoice) :
    (∀ {table condition s?} (tail? : Option Text), IsName table →
      Condition.ofValueSql? zone condition = .ok s? →
      (∀ data : NamedRow, data ≠ [] →
        (∀ entry ∈ data, IsName entry.1 ∧ Constant.IsExpression false entry.2) →
        ((∃ s, update zone (.text table) condition (.mapping data.row) (tailValue tail?) = .ok s) ↔
          ∀ entry ∈ data, ∃ s, Literal.ofValue zone false entry.2 = .ok s) ∧
        ∀ s, update zone (.text table) condition (.mapping data.row) (tailValue tail?) = .ok s →
          ∃ assigned, IsAssigned zone data assigned ∧
            Front.read? s = some (.update table assigned, remainder s? tail?)) ∧
      (∃ s, delete zone (.text table) condition (tailValue tail?) = .ok s ∧
        Front.read? s = some (.delete table, remainder s? tail?)) ∧
      ∀ (kind : GroupKind) (fields : List Text), fields ≠ [] →
        ∃ s, select zone (.text table) (.group kind (fields.map .text)) condition
            (tailValue tail?) = .ok s ∧
          Front.read? s = some (.select (fields.map Field.ofName) table, remainder s? tail?)) ∧
    ∀ table condition data tail, (∀ entry entries, data ≠ .mapping (entry :: entries)) →
      ∃ f, update zone table condition data tail = .error f ∧ f.kind = .dataFormat := by
  refine ⟨fun {table condition s?} tail? htable hcondition => ⟨?_, ?_, ?_⟩, ?_⟩
  · intro data hne hdata
    have hupdate {s : Text} := @update_eq_ok_iff zone data condition table s? tail? hcondition
      htable hne (fun entry hentry => (hdata entry hentry).1) s
    constructor
    · rw [← exists_isAssigned_iff]
      simp only [hupdate]
      exact ⟨fun ⟨_, assigned, h, _⟩ => ⟨assigned, h⟩, fun ⟨assigned, h⟩ => ⟨_, assigned, h, rfl⟩⟩
    · intro s hs
      obtain ⟨assigned, hassigned, rfl⟩ := hupdate.mp hs
      have hreads := hassigned.reads fun entry hentry => (hdata entry hentry).2
      exact ⟨assigned, hassigned, Front.read?_update (hassigned.ne_nil hne) hreads
        (isBoundary_remainder s? tail?) (dropPrefix?_remainder s? tail?)⟩
  · exact ⟨_, delete_eq_ok hcondition htable,
      Front.read?_delete (afterIdentifier_remainder s? tail?)⟩
  · intro kind fields hne
    exact ⟨_, select_eq_ok hcondition htable kind hne,
      Front.read?_select hne (afterIdentifier_remainder s? tail?)⟩
  · intro table condition data tail hdata
    rcases update_cases zone table data tail with ⟨entry, entries, rfl⟩ | hfault
    · exact absurd rfl (hdata entry entries)
    · exact ⟨_, hfault condition, rfl⟩

/-- Marks and keywords in names and in a text. -/
def markedData : NamedRow :=
  [("a` SET ".toList, .text "x', `b`=1 WHERE ".toList), ("*`".toList, .group .tuple [.null])]

theorem statements_factor_marked :
    ∃ s assigned, update (.ok .utc) (.text "t`,".toList)
        (.mapping [(.text "id".toList, .bool true)]) (.mapping markedData.row)
        (.text " LIMIT 1\n".toList) = .ok s ∧
      IsAssigned (.ok .utc) markedData assigned ∧
      Front.read? s = some (.update "t`,".toList assigned, " WHERE `id`=true LIMIT 1".toList) := by
  have hcondition : Condition.ofValueSql? (.ok .utc)
      (.mapping [(.text "id".toList, .bool true)]) = .ok (some "`id`=true".toList) := by
    decide +kernel
  have htable : IsName "t`,".toList := by decide
  have hdata : ∀ entry ∈ markedData, IsName entry.1 ∧ Constant.IsExpression false entry.2 := by
    simp [markedData, Constant.IsExpression, IsName]
  have hliterals : ∀ entry ∈ markedData, ∃ s, Literal.ofValue (.ok .utc) false entry.2 = .ok s :=
    List.forall_mem_cons.mpr ⟨⟨_, rfl⟩, List.forall_mem_singleton.mpr ⟨_, rfl⟩⟩
  obtain ⟨hupdate, -⟩ :=
    (statements_factor (.ok .utc)).1 (some " LIMIT 1\n".toList) htable hcondition
  obtain ⟨hexists, hread⟩ := hupdate markedData (List.cons_ne_nil _ _) hdata
  obtain ⟨s, hs⟩ := hexists.mpr hliterals
  obtain ⟨assigned, hassigned, hfront⟩ := hread s hs
  exact ⟨s, assigned, hs, hassigned, hfront⟩

end SqlGateway.Statement
