import SqlGateway.Proofs.Condition.Enclosure

/-!
# Where comparisons take values from

The text of a comparison is a row of slots for values, each with a text that leads up to it, and an
ending (`layout?`, `sql?_layout`). A tree is a value like any other, and in its slot stands its
expression as an operand, unless the slot is one of a list that a column is looked up in. There the
tree is written as a string that shows it (`slot_node`).
-/

namespace SqlGateway.Condition

open SqlGateway.Sql

/-! ## Slots -/

/-- A slot for a value in the text of a comparison. -/
structure Slot where
  /-- The text between the slot before and this one. -/
  lead : Text
  value : Value
  /-- The slot belongs to the list of a membership test. -/
  listed : Bool

/-- The text of a value in a slot. -/
def filling (zone : ZoneChoice) (listed : Bool) (v : Value) : Except Fault Text :=
  if listed then Literal.ofValue zone true v else valueSql zone v

/-- The text of the value in its slot. -/
def Slot.text (zone : ZoneChoice) (slot : Slot) : Except Fault Text :=
  filling zone slot.listed slot.value

/-- The texts of slots one after the other, each behind its lead. -/
def slotsText (zone : ZoneChoice) : List Slot → Except Fault Text
  | [] => .ok []
  | slot :: rest => do
    let s ← slot.text zone
    return slot.lead ++ s ++ (← slotsText zone rest)

/-- Slots for values, each with a text of its own in front, and a separator between neighbours. -/
def slotsFrom (listed : Bool) (lead separator : Text) : List (Text × Value) → List Slot
  | [] => []
  | (front, v) :: rest => ⟨lead ++ front, v, listed⟩ :: slotsFrom listed separator separator rest

/-- The text of a comparison: slots and what follows the last. -/
structure Layout where
  slots : List Slot
  ending : Text

/-- The text of a layout. -/
def Layout.text (zone : ZoneChoice) (l : Layout) : Except Fault Text :=
  (slotsText zone l.slots).map (· ++ l.ending)

/-- A test up to the value that its column is compared with. -/
def opening (field : Value) (operator : Operator) : Text :=
  '(' :: (Identifier.ofValue field ++ ' ' :: operator.text ++ [' '])

/-- The layout of a membership test. Only a collection that is not empty has a slot for every
element. -/
def memberLayout (field : Value) (negated : Bool) : Value → Layout
  | .node c => ⟨[⟨opening field (.member negated), .node c, false⟩], [')']⟩
  | .group _ (first :: rest) =>
    ⟨slotsFrom true (opening field (.member negated) ++ ['(']) ", ".toList
      ((first :: rest).map fun v => ([], v)), "))".toList⟩
  | v =>
    match v.elements? with
    | none => ⟨[⟨opening field (.member negated) ++ ['('], v, false⟩], "))".toList⟩
    | some [] => ⟨[], (if negated then "(1=1)" else "(1=0)").toList⟩
    | some _ => ⟨[⟨opening field (.member negated), v, false⟩], [')']⟩

/-- The layout of a range test; only two values are a range. -/
def rangeLayout? (field : Value) (negated : Bool) (v : Value) : Option Layout :=
  match v.elements? with
  | some [low, high] =>
    some ⟨slotsFrom false (opening field (.between negated)) " AND ".toList [([], low), ([], high)],
      [')']⟩
  | _ => none

/-- The layout of a test of a column against a value. -/
def testLayout? (field v : Value) : Operator → Option Layout
  | .member negated => some (memberLayout field negated v)
  | .between negated => rangeLayout? field negated v
  | operator => some ⟨[⟨opening field operator, v, false⟩], [')']⟩

/-- The value of a column in a mapping, behind the column. -/
def assigned (entry : Value × Value) : Text × Value :=
  (Identifier.ofValue entry.1 ++ ['='], entry.2)

/-- The layout of an equality, a comparison or a mapping that is not empty; for other conditions and
for comparisons that cannot be written there is none. -/
def layout? : Condition → Option Layout
  | .equality field v => some ⟨[⟨'(' :: Identifier.ofValue field ++ ['='], v, false⟩], [')']⟩
  | .comparison field spelling v => (Operator.ofValue? spelling).bind (testLayout? field v)
  | .matching (.mapping (entry :: entries)) =>
    some ⟨slotsFrom false [] " AND ".toList ((entry :: entries).map assigned), []⟩
  | _ => none

/-- An equality, a comparison or a mapping. -/
def IsComparison : Condition → Prop
  | .equality .. | .comparison .. | .matching _ => True
  | _ => False

/-! ## Texts of slots -/

section

variable {zone : ZoneChoice}

/-- Around the text of a slot stand the texts of the slots before and after it. -/
theorem slotsText_split {before after : List Slot} {slot : Slot} {s : Text}
    (h : slotsText zone (before ++ slot :: after) = .ok s) :
    ∃ front text rest, slotsText zone before = .ok front ∧ slot.text zone = .ok text ∧
      slotsText zone after = .ok rest ∧ s = front ++ slot.lead ++ text ++ rest := by
  induction before generalizing s with
  | nil =>
    obtain ⟨text, htext, h⟩ := bind_eq_ok.mp h
    obtain ⟨rest, hrest, h⟩ := bind_eq_ok.mp h
    cases h
    exact ⟨[], text, rest, rfl, htext, hrest, rfl⟩
  | cons first before ih =>
    obtain ⟨t, ht, h⟩ := bind_eq_ok.mp h
    obtain ⟨others, hothers, h⟩ := bind_eq_ok.mp h
    cases h
    obtain ⟨front, text, rest, hfront, htext, hrest, rfl⟩ := ih hothers
    refine ⟨first.lead ++ t ++ front, text, rest, ?_, htext, hrest, ?_⟩
    · exact bind_eq_ok.mpr ⟨t, ht, bind_eq_ok.mpr ⟨front, hfront, rfl⟩⟩
    · simp only [List.append_assoc]

/-- Where a slot cannot be filled, the whole text has its fault or that of a slot before it. -/
theorem slotsText_fault (before after : List Slot) {slot : Slot} {f : Fault}
    (h : slot.text zone = .error f) :
    ∃ g, slotsText zone (before ++ slot :: after) = .error g ∧
      (g = f ∨ ∃ q ∈ before, q.text zone = .error g) := by
  induction before with
  | nil => exact ⟨f, bind_eq_error.mpr (Or.inl h), Or.inl rfl⟩
  | cons first before ih =>
    cases hfirst : first.text zone with
    | error g =>
      exact ⟨g, bind_eq_error.mpr (Or.inl hfirst), Or.inr ⟨first, List.mem_cons_self .., hfirst⟩⟩
    | ok t =>
      obtain ⟨g, hg, hcause⟩ := ih
      refine ⟨g, bind_eq_error.mpr (Or.inr ⟨t, hfirst, bind_eq_error.mpr (Or.inl hg)⟩), ?_⟩
      refine hcause.imp_right ?_
      rintro ⟨q, hq, hfault⟩
      exact ⟨q, List.mem_cons_of_mem _ hq, hfault⟩

/-- The texts of slots that are filled, each with the text of its own in front. -/
def fillings (zone : ZoneChoice) (listed : Bool) : List (Text × Value) → Except Fault (List Text)
  | [] => .ok []
  | (front, v) :: rest => do
    let s ← filling zone listed v
    return (front ++ s) :: (← fillings zone listed rest)

/-- What stands in the slots is joined by the separator. -/
theorem slotsText_slotsFrom (listed : Bool) (lead separator : Text) {values : List (Text × Value)}
    (h : values ≠ []) :
    slotsText zone (slotsFrom listed lead separator values) =
      (fillings zone listed values).map fun texts => lead ++ separator.intercalate texts := by
  induction values generalizing lead with
  | nil => exact absurd rfl h
  | cons value rest ih =>
    change (filling zone listed value.2 >>= fun s =>
      slotsText zone (slotsFrom listed separator separator rest) >>= fun t =>
        .ok (lead ++ value.1 ++ s ++ t)) =
      (filling zone listed value.2 >>= fun s =>
        fillings zone listed rest >>= fun texts => .ok ((value.1 ++ s) :: texts)).map _
    cases filling zone listed value.2 with
    | error f => rfl
    | ok s =>
      cases rest with
      | nil => exact congrArg Except.ok (by simp)
      | cons next others =>
        rw [ih separator (List.cons_ne_nil _ _)]
        cases htexts : fillings zone listed (next :: others) with
        | error f => rfl
        | ok texts =>
          obtain ⟨t, -, htexts⟩ := bind_eq_ok.mp htexts
          obtain ⟨ts, -, htexts⟩ := bind_eq_ok.mp htexts
          cases htexts
          exact congrArg Except.ok (by simp)

theorem fillings_items (items : List Value) :
    fillings zone true (items.map fun v => ([], v)) = Literal.ofItems zone items := by
  induction items with
  | nil => rfl
  | cons v rest ih =>
    rw [List.map_cons, fillings, ih]
    rfl

theorem fillings_values (values : List Value) :
    fillings zone false (values.map fun v => ([], v)) = valuesSql zone values := by
  induction values with
  | nil => rfl
  | cons v rest ih =>
    rw [List.map_cons, fillings, ih]
    rfl

theorem fillings_entries (entries : List (Value × Value)) :
    fillings zone false (entries.map assigned) = equalities zone entries := by
  induction entries with
  | nil => rfl
  | cons entry rest ih =>
    obtain ⟨k, v⟩ := entry
    rw [List.map_cons, assigned, fillings, ih, equalities]
    simp [filling]

theorem text_slot (lead : Text) (v : Value) (ending : Text) :
    Layout.text zone ⟨[⟨lead, v, false⟩], ending⟩ =
      (valueSql zone v).map fun s => lead ++ s ++ ending := by
  change (valueSql zone v >>= fun s => .ok (lead ++ s ++ [])).map _ = _
  cases valueSql zone v with
  | error f => rfl
  | ok s => exact congrArg Except.ok (by simp)

theorem text_slotsFrom (listed : Bool) (lead separator ending : Text)
    {values : List (Text × Value)} (h : values ≠ []) :
    Layout.text zone ⟨slotsFrom listed lead separator values, ending⟩ =
      (fillings zone listed values).map
        fun texts => lead ++ separator.intercalate texts ++ ending := by
  rw [Layout.text, slotsText_slotsFrom _ _ _ h, map_map]

theorem testText_opening (field : Value) (operator : Operator) (s : Text) :
    testText (Identifier.ofValue field) operator s = opening field operator ++ s ++ [')'] := by
  simp [testText, opening, parenthesize]

end

/-! ## Texts of comparisons -/

section

variable {zone : ZoneChoice} {field v : Value} {negated : Bool}

theorem membership_layout (hv : ¬IsNode v) :
    membership zone (Identifier.ofValue field) negated v =
      (memberLayout field negated v).text zone := by
  unfold memberLayout
  split
  · next c => exact absurd ⟨c, rfl⟩ hv
  · next kind first rest =>
    have hne : (first :: rest).map (fun v => (([] : Text), v)) ≠ [] := List.cons_ne_nil _ _
    rw [text_slotsFrom _ _ _ _ hne, fillings_items]
    change ((Literal.ofItems zone (first :: rest)).map Literal.listText >>= fun s =>
      .ok (testText _ _ s)) = _
    cases Literal.ofItems zone (first :: rest) with
    | error f => rfl
    | ok texts =>
      refine congrArg Except.ok ?_
      rw [testText_opening]
      simp [Literal.listText]
  · unfold membership
    cases v.elements? with
    | none =>
      rw [text_slot, valueSql_literal hv]
      cases Literal.ofValue zone false v with
      | error f => rfl
      | ok s =>
        refine congrArg Except.ok ?_
        rw [testText_opening]
        simp [parenthesize]
    | some items =>
      cases items with
      | nil => rfl
      | cons first rest =>
        rw [text_slot, valueSql_literal hv]
        cases Literal.ofValue zone false v with
        | error f => rfl
        | ok s => exact congrArg Except.ok (testText_opening _ _ _)

theorem bounds_elements {low high : Value} (h : v.elements? = some [low, high]) :
    bounds zone (.between negated) v = valuesSql zone [low, high] := by
  cases v with
  | group kind items =>
    cases h
    rfl
  | span s =>
    have hints : s.toList.map (fun n => Value.number (.integer n) none) = [low, high] :=
      Option.some.inj h
    obtain ⟨m, n, hpair⟩ : ∃ m n, s.toList = [m, n] :=
      List.length_eq_two.mp (by simpa using congrArg List.length hints)
    have hsize : s.size = 2 := by simpa [Span.toList] using congrArg List.length hpair
    rw [hpair] at hints
    cases hints
    change plainBounds _ (.span s) = _
    rw [plainBounds, hsize, hpair]
    rfl
  | blob kind bytes =>
    cases kind with
    | view =>
      obtain ⟨m, n, rfl⟩ : ∃ m n, bytes = [m, n] :=
        List.length_eq_two.mp (by simpa using congrArg List.length (Option.some.inj h))
      cases h
      rfl
    | _ => cases h
  | _ => cases h

theorem bounds_layout {l : Layout} (h : rangeLayout? field negated v = some l) :
    (bounds zone (.between negated) v).map
      (fun texts => testText (Identifier.ofValue field) (.between negated)
          (" AND ".toList.intercalate texts)) = l.text zone := by
  unfold rangeLayout? at h
  split at h
  · next low high helements =>
    cases h
    rw [bounds_elements helements, text_slotsFrom _ _ _ _ (List.cons_ne_nil _ _), ← fillings_values]
    simp only [testText_opening]
    rfl
  · cases h

theorem bounds_layout_none (h : rangeLayout? field negated v = none) {texts : List Text} :
    bounds zone (.between negated) v ≠ .ok texts := by
  intro hbounds
  rcases bounds_cases hbounds with ⟨kind, a, b, low, high, rfl, -⟩ | ⟨m, n, helements, -⟩
  · cases h
  · rw [rangeLayout?, helements] at h
    cases h

theorem layout?_comparison {spelling : Value} {o : Operator}
    (h : Operator.ofValue? spelling = some o) :
    layout? (.comparison field spelling v) = testLayout? field v o := by
  rw [layout?, h]
  rfl

theorem testLayout?_plain {o : Operator} (ho : IsPlain o) :
    testLayout? field v o = some ⟨[⟨opening field o, v, false⟩], [')']⟩ := by
  cases o with
  | member negated => exact absurd rfl (ho negated).1
  | between negated => exact absurd rfl (ho negated).2
  | _ => rfl

end

section

variable {zone : ZoneChoice}

/-- The layout of a comparison is how it is written. -/
theorem sql?_layout {c : Condition} {l : Layout} (h : c.layout? = some l) :
    c.sql? zone = (l.text zone).map some := by
  cases c with
  | equality field v =>
    cases h
    rw [text_slot, sql?]
    cases valueSql zone v with
    | error f => rfl
    | ok s => exact congrArg (Except.ok ∘ some) (by simp [parenthesize])
  | comparison field spelling v =>
    cases hspelling : Operator.ofValue? spelling with
    | none =>
      rw [layout?, hspelling] at h
      cases h
    | some o =>
      rw [layout?_comparison hspelling] at h
      rcases operator_cases o with ⟨negated, rfl⟩ | ⟨negated, rfl⟩ | ho
      · cases h
        by_cases hv : IsNode v
        · rw [sql?_member_node hspelling hv]
          obtain ⟨c, rfl⟩ := hv
          rw [memberLayout, text_slot, map_map]
          simp only [testText_opening]
        · rw [sql?_member hspelling hv, membership_layout hv]
      · rw [sql?_range hspelling, ← bounds_layout h, map_map]
      · rw [testLayout?_plain ho] at h
        cases h
        rw [sql?_plain hspelling ho, text_slot, map_map]
        simp only [testText_opening]
  | matching v =>
    cases v with
    | mapping entries =>
      cases entries with
      | nil => cases h
      | cons entry entries =>
        cases h
        have hne : (entry :: entries).map assigned ≠ [] := List.cons_ne_nil _ _
        rw [text_slotsFrom _ _ _ _ hne, fillings_entries, map_map]
        change (equalities zone (entry :: entries) >>= fun texts =>
          .ok (some (" AND ".toList.intercalate texts))) = _
        cases equalities zone (entry :: entries) with
        | error f => rfl
        | ok texts => exact congrArg (Except.ok ∘ some) (by simp)
    | _ => cases h
  | _ => cases h

/-- A comparison without a layout has no text. -/
theorem sql?_layout_none {c : Condition} (hc : c.IsComparison) (h : c.layout? = none) {s : Text} :
    c.sql? zone ≠ .ok (some s) := by
  intro hsql
  cases c with
  | equality field v => cases h
  | comparison field spelling v =>
    cases hspelling : Operator.ofValue? spelling with
    | none =>
      rw [sql?_unknown hspelling] at hsql
      cases hsql
    | some o =>
      rw [layout?_comparison hspelling] at h
      rcases operator_cases o with ⟨negated, rfl⟩ | ⟨negated, rfl⟩ | ho
      · cases h
      · rw [sql?_range hspelling] at hsql
        obtain ⟨texts, hbounds, -⟩ := map_eq_ok.mp hsql
        exact bounds_layout_none h hbounds
      · rw [testLayout?_plain ho] at h
        cases h
  | matching v =>
    cases v with
    | mapping entries =>
      cases entries with
      | nil => cases hsql
      | cons entry entries => cases h
    | node c => cases c <;> cases hsql
    | _ =>
      change (if Value.isTruthy _ then Except.error Fault.notSupported else .ok none) = _ at hsql
      split at hsql <;> cases hsql
  | _ => exact hc

/-! ## Trees in slots -/

theorem junction?_parenthesized {keyword : String} {parts : List Text} {s : Text}
    (h : junction? keyword parts = some s) : ∃ inside, s = parenthesize inside := by
  unfold junction? at h
  split at h
  · cases h
  · cases h
    exact ⟨_, rfl⟩

theorem sql?_parenthesized {c : Condition} {s : Text} (hgrouped : c.isGrouped = true)
    (h : c.sql? zone = .ok (some s)) : ∃ inside, s = parenthesize inside := by
  cases c with
  | raw text => cases hgrouped
  | fragment text =>
    obtain ⟨t?, -, h⟩ := bind_eq_ok.mp h
    obtain ⟨t, -, rfl⟩ := Option.map_eq_some_iff.mp (Except.ok.inj h)
    exact ⟨t, rfl⟩
  | all items =>
    obtain ⟨parts, -, h⟩ := bind_eq_ok.mp h
    exact junction?_parenthesized (Except.ok.inj h)
  | any items =>
    obtain ⟨parts, -, h⟩ := bind_eq_ok.mp h
    exact junction?_parenthesized (Except.ok.inj h)
  | negation inner =>
    cases inner with
    | node c =>
      obtain ⟨t?, -, h⟩ := bind_eq_ok.mp h
      obtain ⟨t, -, rfl⟩ := Option.map_eq_some_iff.mp (Except.ok.inj h)
      exact ⟨_, rfl⟩
    | _ => cases h
  | equality field v =>
    obtain ⟨t, -, h⟩ := bind_eq_ok.mp h
    cases h
    exact ⟨_, rfl⟩
  | comparison field spelling v =>
    obtain ⟨t, ht⟩ := comparison_parenthesized h
    exact ⟨t, Option.some.inj ht⟩
  | matching v => cases hgrouped

/-- The expression of a tree as an operand is in parentheses, and they are a pair if the trusted
texts in the tree are closed. -/
theorem operandSql?_parenthesized {c : Condition} {s : Text}
    (h : c.operandSql? zone = .ok (some s)) :
    (∃ inside, s = parenthesize inside) ∧ (c.Sound → Enclosed s) := by
  obtain ⟨t?, ht, h⟩ := bind_eq_ok.mp h
  obtain ⟨t, rfl, rfl⟩ := Option.map_eq_some_iff.mp (Except.ok.inj h)
  unfold asOperand
  split
  · next hgrouped =>
    exact ⟨sql?_parenthesized hgrouped ht, fun hc => (delimited_sql? hc ht).2 hgrouped⟩
  · exact ⟨⟨t, rfl⟩, fun hc => (delimited_sql? hc ht).1.enclosed⟩

theorem valueSql_node {c : Condition} {s : Text} (h : valueSql zone (.node c) = .ok s) :
    c.operandSql? zone = .ok (some s) := by
  obtain ⟨t?, ht, h⟩ := bind_eq_ok.mp h
  cases t? with
  | none => cases h
  | some t =>
    cases h
    exact bind_eq_ok.mpr ⟨_, ht, rfl⟩

theorem valueSql_empty {c : Condition} (h : c.sql? zone = .ok none) :
    valueSql zone (.node c) = .error .emptyOperand := by
  rw [valueSql, h]
  rfl

/-- A tree among the values of a comparison. Its slot holds its expression as an operand, which is
in parentheses, between the texts of the other slots; if it has no expression, the comparison has
none either, and the fault is that of the empty operand or of a slot before it. In the list of a
membership test the tree is not compiled: its slot holds a string that shows it. A tree in the
place of a range is refused. -/
theorem slot_node (zone : ZoneChoice) {c : Condition} (hc : c.IsComparison) :
    (∀ s, c.sql? zone = .ok (some s) → ∃ l, c.layout? = some l ∧
      ∀ before slot after, l.slots = before ++ slot :: after → ∃ front text rest,
        slotsText zone before = .ok front ∧ slotsText zone after = .ok rest ∧
        s = front ++ slot.lead ++ text ++ rest ++ l.ending ∧
        ∀ d, slot.value = .node d →
          (slot.listed = false → d.operandSql? zone = .ok (some text) ∧
            (∃ inside, text = parenthesize inside) ∧ (d.Sound → Enclosed text)) ∧
          (slot.listed = true → text = Quoted.quote d.display)) ∧
    (∀ l before slot after d, c.layout? = some l → l.slots = before ++ slot :: after →
      slot.value = .node d → slot.listed = false → d.sql? zone = .ok none →
      ∃ f, c.sql? zone = .error f ∧
        (f = .emptyOperand ∨ ∃ q ∈ before, q.text zone = .error f)) ∧
    (∀ field spelling negated d, c = .comparison field spelling (.node d) →
      Operator.ofValue? spelling = some (.between negated) →
      ∃ f, c.sql? zone = .error f ∧ f.kind = .condition) := by
  refine ⟨fun s hs => ?_, ?_, ?_⟩
  · cases hlayout : c.layout? with
    | none => exact absurd hs (sql?_layout_none hc hlayout)
    | some l =>
      refine ⟨l, rfl, fun before slot after hslots => ?_⟩
      rw [sql?_layout hlayout, Layout.text, map_map, hslots] at hs
      obtain ⟨t, ht, hs⟩ := map_eq_ok.mp hs
      obtain ⟨front, text, rest, hfront, htext, hrest, rfl⟩ := slotsText_split ht
      cases hs
      refine ⟨front, text, rest, hfront, hrest, rfl, fun d hd => ?_⟩
      constructor <;> intro hlisted
      · rw [Slot.text, hlisted, hd] at htext
        have hoperand := valueSql_node htext
        exact ⟨hoperand, operandSql?_parenthesized hoperand⟩
      · rw [Slot.text, hlisted, hd] at htext
        cases htext
        rfl
  · intro l before slot after d hlayout hslots hd hlisted hempty
    have hslot : slot.text zone = .error .emptyOperand := by
      rw [Slot.text, hlisted, hd]
      exact valueSql_empty hempty
    obtain ⟨f, hf, hcause⟩ := slotsText_fault before after hslot
    refine ⟨f, ?_, hcause⟩
    rw [sql?_layout hlayout, Layout.text, hslots, hf]
    rfl
  · rintro field spelling negated d rfl hspelling
    rw [sql?_range hspelling]
    exact ⟨_, rfl, rfl⟩

end

/-- A subquery, as a bound of a range or in a list. -/
def subquery : Condition := .raw (.text "SELECT 2".toList)

/-- A subquery is the upper bound of a range. -/
theorem slot_node_range :
    let c : Condition := .comparison (.text ['n']) (.text "between".toList)
      (.group .tuple [.number (.integer 1) none, .node subquery])
    ∃ s front text rest, c.sql? (.ok .utc) = .ok (some s) ∧
      s = front ++ " AND ".toList ++ text ++ rest ++ [')'] ∧
      subquery.operandSql? (.ok .utc) = .ok (some text) := by
  intro c
  have hc : c.sql? (.ok .utc) = .ok (some "(`n` BETWEEN 1 AND (SELECT 2))".toList) := by
    decide +kernel
  have hlayout : c.layout? = some ⟨slotsFrom false (opening (.text ['n']) (.between false))
      " AND ".toList [([], .number (.integer 1) none), ([], .node subquery)], [')']⟩ := by
    have hspelling : Operator.ofValue? (.text "between".toList) = some (.between false) := by
      decide +kernel
    rw [layout?_comparison hspelling]
    rfl
  obtain ⟨l, hl, hslots⟩ := (slot_node (.ok .utc) (c := c) trivial).1 _ hc
  cases hlayout.symm.trans hl
  obtain ⟨front, text, rest, -, -, htext, hnode⟩ := hslots [_] _ [] rfl
  exact ⟨_, front, text, rest, hc, htext, ((hnode subquery rfl).1 rfl).1⟩

/-- In a list a subquery is turned into a string. -/
theorem listed_node_quoted :
    let c : Condition := .comparison (.text ['n']) (.text "IN".toList)
      (.group .list [.number (.integer 1) none, .node subquery])
    let s := "(`n` IN (1, 'Raw(sql=\\'SELECT 2\\')'))".toList
    subquery.operandSql? (.ok .utc) = .ok (some "(SELECT 2)".toList) ∧
      c.sql? (.ok .utc) = .ok (some s) ∧ ¬"(SELECT 2)".toList <:+: s := by
  decide +kernel

end SqlGateway.Condition
