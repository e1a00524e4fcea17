import SqlGateway.Proofs.Condition.Vacuous
import SqlGateway.Proofs.Sql.Nesting

/-!
# Conditions in parentheses

The expression of a tree that is grouped begins with a parenthesis that its last character closes,
as long as the trusted texts in the tree are closed (`delimited_sql?`), and so does the operand that
any such tree makes (`operandSql?_enclosed`).

A condition list is read as a tree that is grouped, with one exception: a list of one element is
read as that element, which may be a mapping or a tree without parentheses of its own. `Passed`
follows those through the lists around them, and the expression of a list is in parentheses exactly
if nothing is passed through to it but a trusted text that has its own (`enclosed_iff`).
-/

namespace SqlGateway.Condition

open SqlGateway.Sql

mutual

/-- The trusted texts in the tree are closed. -/
def Sound : Condition → Prop
  | .raw v | .fragment v => ∀ s, trusted v = .ok (some s) → Closed s
  | .all items | .any items => SoundValues items
  | .negation inner => SoundValue inner
  | .equality _ v | .comparison _ _ v | .matching v => SoundValue v
termination_by structural c => c

/-- The trees in the value, and in the collections and mappings in it, are sound. -/
def SoundValue : Value → Prop
  | .node c => c.Sound
  | .group _ items => SoundValues items
  | .mapping entries => SoundEntries entries
  | _ => True
termination_by structural v => v

/-- The trees in the values are sound. -/
def SoundValues : List Value → Prop
  | [] => True
  | v :: rest => SoundValue v ∧ SoundValues rest
termination_by structural vs => vs

/-- The trees in the values of the entries are sound. -/
def SoundEntries : List (Value × Value) → Prop
  | [] => True
  | (_, v) :: rest => SoundValue v ∧ SoundEntries rest
termination_by structural es => es

end

/-! ## The expression of a tree -/

/-- The text is closed, and in parentheses if the tree is grouped. -/
def Delimited (c : Condition) (s : Text) : Prop := Closed s ∧ (c.isGrouped = true → Enclosed s)

theorem delimited_parenthesize (c : Condition) {s : Text} (h : Closed s) :
    Delimited c (parenthesize s) := ⟨h.paren, fun _ => h.enclosed⟩

theorem Delimited.asOperand {c : Condition} {s : Text} (h : Delimited c s) :
    Closed (c.asOperand s) := by
  unfold Condition.asOperand
  by_cases hc : c.isGrouped = true
  · rw [if_pos hc]
    exact h.1
  · rw [if_neg hc]
    exact h.1.paren

theorem delimited_junction {keyword : String} (hkeyword : Closed (' ' :: keyword.toList ++ [' ']))
    {parts : List Text} (h : ∀ part ∈ parts, Closed part) (c : Condition) {s : Text}
    (hs : junction? keyword parts = some s) : Delimited c s := by
  unfold junction? at hs
  by_cases hempty : parts.isEmpty = true
  · rw [if_pos hempty] at hs
    cases hs
  · rw [if_neg hempty] at hs
    cases hs
    exact delimited_parenthesize c (closed_intercalate hkeyword h)

theorem delimited_testText (field : Value) (operator : Operator) (c : Condition) {s : Text}
    (h : Closed s) : Delimited c (testText (Identifier.ofValue field) operator s) := by
  have hspace : Closed [' '] := rfl
  have hoperator : Closed operator.text := by
    have hall : ∀ o ∈ Operator.all, Position.start.after? o.text = some .start := by decide
    exact hall operator (Operator.mem_all operator)
  have htest := (isPart_identifier field).closed.append
    (hspace.append (hoperator.append (hspace.append h)))
  have htext : Identifier.ofValue field ++ ([' '] ++ (operator.text ++ ([' '] ++ s))) =
      Identifier.ofValue field ++ ' ' :: operator.text ++ ' ' :: s := by simp
  rw [htext] at htest
  exact delimited_parenthesize c htest

theorem delimited_membership {zone : ZoneChoice} {field v : Value} {negated : Bool} {s : Text}
    (c : Condition) (h : membership zone (Identifier.ofValue field) negated v = .ok s) :
    Delimited c s := by
  unfold membership at h
  split at h
  · obtain ⟨literal, hliteral, h⟩ := bind_eq_ok.mp h
    cases h
    exact delimited_testText field _ c (closed_literal hliteral).paren
  · cases h
    have hnone : Closed "1=0".toList := rfl
    have hevery : Closed "1=1".toList := rfl
    cases negated with
    | false => exact delimited_parenthesize c hnone
    | true => exact delimited_parenthesize c hevery
  · obtain ⟨literal, hliteral, h⟩ := bind_eq_ok.mp h
    cases h
    exact delimited_testText field _ c (closed_literal hliteral)

theorem closed_ands {texts : List Text} (h : ∀ text ∈ texts, Closed text) :
    Closed (" AND ".toList.intercalate texts) := by
  have hand : Closed " AND ".toList := rfl
  exact closed_intercalate hand h

mutual

/-- The expression of a sound tree is closed, and in parentheses if the tree is grouped. -/
theorem delimited_sql? {zone : ZoneChoice} : ∀ {c : Condition} {s : Text}, c.Sound →
    c.sql? zone = .ok (some s) → Delimited c s
  | .raw v, s, hc, h => ⟨hc s h, nofun⟩
  | .fragment v, s, hc, h => by
    obtain ⟨text?, htext, h⟩ := bind_eq_ok.mp h
    cases text? with
    | none => cases h
    | some text =>
      cases h
      exact delimited_parenthesize _ (hc text htext)
  | .all items, s, hc, h => by
    obtain ⟨parts, hparts, h⟩ := bind_eq_ok.mp h
    have hand : Closed (' ' :: "AND".toList ++ [' ']) := rfl
    exact delimited_junction hand (closed_operands hc hparts) _ (Except.ok.inj h)
  | .any items, s, hc, h => by
    obtain ⟨parts, hparts, h⟩ := bind_eq_ok.mp h
    have hor : Closed (' ' :: "OR".toList ++ [' ']) := rfl
    exact delimited_junction hor (closed_operands hc hparts) _ (Except.ok.inj h)
  | .negation inner, s, hc, h => by
    cases inner with
    | node c =>
      obtain ⟨text?, htext, h⟩ := bind_eq_ok.mp h
      cases text? with
      | none => cases h
      | some text =>
        cases h
        have hnot : Closed "NOT ".toList := rfl
        exact delimited_parenthesize _ (hnot.append (delimited_sql? (c := c) hc htext).asOperand)
    | _ => cases h
  | .equality field v, s, hc, h => by
    obtain ⟨text, htext, h⟩ := bind_eq_ok.mp h
    cases h
    exact delimited_parenthesize _ ((closed_valueSql (v := v) hc htext).assign field)
  | .comparison field spelling v, s, hc, h => by
    cases hspelling : Operator.ofValue? spelling with
    | none =>
      rw [sql?_unknown hspelling] at h
      cases h
    | some operator =>
      rcases operator_cases operator with ⟨negated, rfl⟩ | ⟨negated, rfl⟩ | ho
      · by_cases hv : IsNode v
        · rw [sql?_member_node hspelling hv] at h
          obtain ⟨text, htext, he⟩ := map_eq_ok.mp h
          cases he
          exact delimited_testText field _ _ (closed_valueSql (v := v) hc htext)
        · rw [sql?_member hspelling hv] at h
          obtain ⟨text, htext, he⟩ := map_eq_ok.mp h
          cases he
          exact delimited_membership _ htext
      · rw [sql?_range hspelling] at h
        obtain ⟨texts, htexts, he⟩ := map_eq_ok.mp h
        cases he
        exact delimited_testText field _ _ (closed_ands (closed_bounds (v := v) hc htexts))
      · rw [sql?_plain hspelling ho] at h
        obtain ⟨text, htext, he⟩ := map_eq_ok.mp h
        cases he
        exact delimited_testText field _ _ (closed_valueSql (v := v) hc htext)
  | .matching v, s, hc, h => by
    cases v with
    | mapping entries =>
      cases entries with
      | nil => cases h
      | cons entry entries =>
        obtain ⟨texts, htexts, h⟩ := bind_eq_ok.mp h
        cases h
        exact ⟨closed_ands (closed_equalities hc htexts), nofun⟩
    | node c => cases c <;> cases h
    | _ =>
      change (if Value.isTruthy _ then Except.error Fault.notSupported else .ok none) = _ at h
      split at h <;> cases h
termination_by structural c => c

theorem closed_operands {zone : ZoneChoice} : ∀ {items : List Value} {parts : List Text},
    SoundValues items → operands zone items = .ok parts → ∀ part ∈ parts, Closed part
  | [], _, _, h => by
    cases h
    intro part hpart
    cases hpart
  | v :: rest, _, hitems, h => by
    cases v with
    | node c =>
      obtain ⟨s?, hs, h⟩ := bind_eq_ok.mp h
      obtain ⟨parts, hparts, h⟩ := bind_eq_ok.mp h
      cases h
      have hrest := closed_operands hitems.2 hparts
      cases s? with
      | none => exact hrest
      | some s =>
        intro part hpart
        rcases List.mem_cons.mp hpart with rfl | hpart
        · exact (delimited_sql? (c := c) hitems.1 hs).asOperand
        · exact hrest part hpart
    | _ => cases h
termination_by structural items => items

theorem closed_valueSql {zone : ZoneChoice} : ∀ {v : Value} {s : Text}, SoundValue v →
    valueSql zone v = .ok s → Closed s
  | v, s, hv, h => by
    cases v with
    | node c =>
      obtain ⟨s?, hs, h⟩ := bind_eq_ok.mp h
      cases s? with
      | none => cases h
      | some text =>
        cases h
        exact (delimited_sql? (c := c) hv hs).asOperand
    | _ => exact closed_literal h
termination_by structural v => v

theorem closed_bounds {zone : ZoneChoice} {operator : Operator} : ∀ {v : Value}
    {texts : List Text}, SoundValue v → bounds zone operator v = .ok texts →
      ∀ text ∈ texts, Closed text
  | v, texts, hv, h => by
    cases v with
    | group kind items =>
      simp only [bounds] at h
      split at h
      · exact closed_valuesSql hv h
      · cases h
    | _ =>
      rcases bounds_cases h with ⟨_, _, _, _, _, hgroup, -⟩ | ⟨m, n, -, rfl⟩
      · cases hgroup
      · intro text htext
        simp only [List.mem_cons, List.not_mem_nil, or_false] at htext
        rcases htext with rfl | rfl <;> exact (isPart_token (isToken_ofInt _)).closed
termination_by structural v => v

theorem closed_valuesSql {zone : ZoneChoice} : ∀ {items : List Value} {texts : List Text},
    SoundValues items → valuesSql zone items = .ok texts → ∀ text ∈ texts, Closed text
  | [], _, _, h => by
    cases h
    intro text htext
    cases htext
  | v :: rest, _, hitems, h => by
    obtain ⟨s, hs, h⟩ := bind_eq_ok.mp h
    obtain ⟨texts, htexts, h⟩ := bind_eq_ok.mp h
    cases h
    intro text htext
    rcases List.mem_cons.mp htext with rfl | htext
    · exact closed_valueSql hitems.1 hs
    · exact closed_valuesSql hitems.2 htexts text htext
termination_by structural items => items

theorem closed_equalities {zone : ZoneChoice} : ∀ {entries : List (Value × Value)}
    {texts : List Text}, SoundEntries entries → equalities zone entries = .ok texts →
      ∀ text ∈ texts, Closed text
  | [], _, _, h => by
    cases h
    intro text htext
    cases htext
  | (k, v) :: rest, _, hentries, h => by
    obtain ⟨s, hs, h⟩ := bind_eq_ok.mp h
    obtain ⟨texts, htexts, h⟩ := bind_eq_ok.mp h
    cases h
    intro text htext
    rcases List.mem_cons.mp htext with rfl | htext
    · exact (closed_valueSql hentries.1 hs).assign k
    · exact closed_equalities hentries.2 htexts text htext
termination_by structural entries => entries

end

/-! ## Operands -/

/-- The expression of a mapping begins with a column. -/
theorem not_enclosed_matching {zone : ZoneChoice} {v : Value} {s : Text}
    (h : sql? zone (.matching v) = .ok (some s)) : ¬Enclosed s := by
  cases v with
  | mapping entries =>
    cases entries with
    | nil => cases h
    | cons entry entries =>
      obtain ⟨texts, htexts, h⟩ := bind_eq_ok.mp h
      cases h
      obtain ⟨text, -, htexts⟩ := bind_eq_ok.mp htexts
      obtain ⟨more, -, htexts⟩ := bind_eq_ok.mp htexts
      cases htexts
      obtain ⟨c, rest, hcolumn, hc⟩ := identifier_head entry.1
      rw [hcolumn, List.cons_append, List.intercalate_cons_cons_left]
      intro henclosed
      exact hc (Option.some.inj henclosed.head)
  | node c => cases c <;> cases h
  | _ =>
    change (if Value.isTruthy _ then Except.error Fault.notSupported else .ok none) = _ at h
    split at h <;> cases h

/-- The flag of a tree tells the truth about its parentheses. The operand that a sound tree makes is
in parentheses that its last character closes, and so is the expression of the tree itself if the
tree is grouped. Of the others only a trusted text can have parentheses of its own. There is an
operand exactly if there is an expression, and a tree without has the same fault in both forms. -/
theorem operandSql?_enclosed {zone : ZoneChoice} {c : Condition} (hc : c.Sound) :
    (c.operandSql? zone).map Option.isSome = (c.sql? zone).map Option.isSome ∧
      (∀ s, c.operandSql? zone = .ok (some s) → Closed s ∧ Enclosed s) ∧
      ∀ s, c.sql? zone = .ok (some s) → Closed s ∧ (c.isGrouped = true → Enclosed s) ∧
        (c.isGrouped = false → Enclosed s → ∃ v, c = .raw v) := by
  have hoperand : c.operandSql? zone = (c.sql? zone).map (Option.map c.asOperand) := by
    unfold operandSql?
    cases c.sql? zone <;> rfl
  refine ⟨?_, ?_, ?_⟩
  · rw [hoperand, map_map]
    simp only [Option.isSome_map]
  · intro s hs
    rw [hoperand] at hs
    obtain ⟨s?, htext, he⟩ := map_eq_ok.mp hs
    obtain ⟨text, rfl, rfl⟩ := Option.map_eq_some_iff.mp he
    obtain ⟨hclosed, hgrouped⟩ := delimited_sql? hc htext
    unfold Condition.asOperand
    by_cases hflag : c.isGrouped = true
    · rw [if_pos hflag]
      exact ⟨hclosed, hgrouped hflag⟩
    · rw [if_neg hflag]
      exact ⟨hclosed.paren, hclosed.enclosed⟩
  · intro s hs
    obtain ⟨hclosed, hgrouped⟩ := delimited_sql? hc hs
    refine ⟨hclosed, hgrouped, ?_⟩
    intro hflag henclosed
    cases c with
    | raw v => exact ⟨v, rfl⟩
    | matching v => exact absurd henclosed (not_enclosed_matching hs)
    | _ => cases hflag

/-- Parentheses and marks in a name, in a compared text and in trusted texts. -/
def markedTree : Condition :=
  .matching (.mapping [(.text "f)`".toList, .text "(x'".toList),
    (.text "g".toList, .node (.any [.node (.raw (.text "a=')' OR (b)".toList)),
      .node (.negation (.node (.fragment (.text "c=\"(\"".toList))))]))])

theorem operandSql?_enclosed_marked :
    markedTree.Sound ∧ ∃ s, markedTree.operandSql? (.ok .utc) = .ok (some s) ∧
      s = "(`f)```='(x\\'' AND `g`=((a=')' OR (b)) OR (NOT (c=\"(\"))))".toList ∧
      Closed s ∧ Enclosed s := by
  have hraw : Closed "a=')' OR (b)".toList := rfl
  have hfragment : Closed "c=\"(\"".toList := rfl
  have hsound : markedTree.Sound := by
    refine ⟨trivial, ⟨?_, ?_, trivial⟩, trivial⟩
    · rintro s ⟨⟩
      exact hraw
    · rintro s ⟨⟩
      exact hfragment
  have htext : markedTree.operandSql? (.ok .utc) = .ok (some
      "(`f)```='(x\\'' AND `g`=((a=')' OR (b)) OR (NOT (c=\"(\"))))".toList) := by
    decide +kernel
  exact ⟨hsound, _, htext, rfl, (operandSql?_enclosed hsound).2.1 _ htext⟩

/-! ## Lists around one element -/

/-- The value is read as a tree that is not in parentheses: it is a mapping, such a tree, or a list
that holds only such a value. -/
inductive Passed : Value → Condition → Prop
  | mapping (entries : List (Value × Value)) :
      Passed (.mapping entries) (.matching (.mapping entries))
  | node {c : Condition} : c.isGrouped = false → Passed (.node c) c
  | single {kind : GroupKind} {v : Value} {c : Condition} : IsSequence kind → Passed v c →
      Passed (.group kind [v]) c

theorem Passed.isGrouped {v : Value} {c : Condition} (h : Passed v c) : c.isGrouped = false := by
  induction h with
  | mapping entries => rfl
  | node hc => exact hc
  | single _ _ ih => exact ih

theorem Passed.read {v : Value} {c : Condition} (h : Passed v c) :
    readWith .fragment v = .ok (some c) := by
  induction h with
  | mapping entries => rfl
  | node hc => rfl
  | @single kind v c hkind hv ih =>
    have htag : LogicalTag.ofValue? v = none := by cases hv <;> rfl
    rw [readWith_sequence hkind, readList_single htag, ih]

mutual

/-- An operand is read as a tree in parentheses, or it is passed through. -/
theorem isGrouped_or_passed : ∀ {v : Value} {c : Condition},
    readWith .fragment v = .ok (some c) → c.isGrouped = true ∨ Passed v c
  | .null, _, h => by cases h
  | .node c, _, h => by
    cases h
    cases hc : c.isGrouped with
    | true => exact Or.inl rfl
    | false => exact Or.inr (.node hc)
  | .text s, _, h => by
    cases h
    exact Or.inl rfl
  | .mapping entries, _, h => by
    cases h
    exact Or.inr (.mapping entries)
  | .group kind items, _, h => by
    cases kind with
    | list => exact isGrouped_or_passed_list (Or.inl rfl) h
    | tuple => exact isGrouped_or_passed_list (Or.inr rfl) h
    | _ => cases h
  | .bool _, _, h | .number _ _, _, h | .date _, _, h | .moment _, _, h | .blob _ _, _, h
  | .span _, _, h | .foreign _ _ _, _, h => by cases h
termination_by structural v => v

theorem isGrouped_or_passed_list : ∀ {items : List Value} {kind : GroupKind} {c : Condition},
    IsSequence kind → readList items = .ok (some c) →
      c.isGrouped = true ∨ Passed (.group kind items) c
  | [], _, _, _, h => by cases h
  | head :: rest, kind, c, hkind, h => by
    cases htag : LogicalTag.ofValue? head with
    | some tag =>
      left
      cases tag with
      | all =>
        rw [readList_all htag] at h
        obtain ⟨cs, -, he⟩ := map_eq_ok.mp h
        cases he
        rfl
      | any =>
        rw [readList_any htag] at h
        obtain ⟨cs, -, he⟩ := map_eq_ok.mp h
        cases he
        rfl
      | negation =>
        cases rest with
        | nil =>
          rw [readList_lone_negation htag] at h
          cases h
        | cons v rest =>
          rw [readList_negation htag] at h
          obtain ⟨c?, -, he⟩ := map_eq_ok.mp h
          obtain ⟨d, -, rfl⟩ := Option.map_eq_some_iff.mp he
          rfl
    | none =>
      -- Without a tag the length of the list decides what it is.
      match rest with
      | [] =>
        rw [readList_single htag] at h
        rcases isGrouped_or_passed h with hc | hc
        · exact Or.inl hc
        · exact Or.inr (.single hkind hc)
      | [v] =>
        rw [readList_equality htag] at h
        obtain ⟨field, -, he⟩ := map_eq_ok.mp h
        cases he
        exact Or.inl rfl
      | operator :: v :: _ =>
        rw [readList_comparison htag] at h
        obtain ⟨field, -, h⟩ := bind_eq_ok.mp h
        obtain ⟨d, hd, h⟩ := bind_eq_ok.mp h
        cases h
        rw [compare_eq_ok hd]
        exact Or.inl rfl
termination_by structural items => items

end

section

variable {zone : ZoneChoice} {kind : GroupKind} {items : List Value} {c : Condition} {s : Text}

/-- The expression of a condition list whose trusted texts are closed is closed itself. It is in
parentheses exactly if no mapping is passed through to it, and no trusted text but one that is in
parentheses already. -/
theorem enclosed_iff (hkind : IsSequence kind)
    (hread : Condition.read (.group kind items) = .ok (some c)) (hc : c.Sound)
    (h : ofValueSql? zone (.group kind items) = .ok (some s)) :
    Closed s ∧ (Enclosed s ↔ ∀ d, Passed (.group kind items) d →
      ∃ v t, d = .raw v ∧ trusted v = .ok (some t) ∧ Enclosed t) := by
  have hsql : c.sql? zone = .ok (some s) := by
    rw [ofValueSql?, hread] at h
    exact h
  have hlist : readList items = .ok (some c) := by
    rw [← hread]
    exact (readWith_sequence hkind).symm
  obtain ⟨hclosed, hgrouped⟩ := delimited_sql? hc hsql
  refine ⟨hclosed, ?_, ?_⟩
  · intro henclosed d hd
    have hfragment := hd.read
    rw [readWith_sequence hkind] at hfragment
    obtain rfl : d = c := Option.some.inj (Except.ok.inj (hfragment.symm.trans hlist))
    cases d with
    | raw v => exact ⟨v, s, rfl, hsql, henclosed⟩
    | matching v => exact absurd henclosed (not_enclosed_matching hsql)
    | _ => cases hd.isGrouped
  · intro hpassed
    rcases isGrouped_or_passed_list hkind hlist with hc' | hd
    · exact hgrouped hc'
    · obtain ⟨v, t, rfl, ht, henclosed⟩ := hpassed c hd
      obtain rfl : t = s := Option.some.inj (Except.ok.inj (ht.symm.trans hsql))
      exact henclosed

/-- A mapping of two columns in a list of its own. -/
def loneMapping : Value :=
  .group .list [.mapping [(.text "a".toList, .number (.integer 1) none),
    (.text "b".toList, .number (.integer 2) none)]]

/-- Behind a negation the same list is in the parentheses of its operand. -/
theorem enclosed_negation : Enclosed "(NOT (`a`=1 AND `b`=2))".toList := by
  have h := @enclosed_iff (.ok .utc) .list [.text "$not".toList, loneMapping] _
    "(NOT (`a`=1 AND `b`=2))".toList (Or.inl rfl) rfl ⟨trivial, trivial, trivial⟩
    (by decide +kernel)
  apply h.2.mpr
  intro d hd
  cases hd

/-- There is a condition list without trusted texts whose expression is not in parentheses. -/
theorem exists_not_enclosed :
    ∃ kind items c s, IsSequence kind ∧ Condition.read (.group kind items) = .ok (some c) ∧
      c.Sound ∧ ofValueSql? (.ok .utc) (.group kind items) = .ok (some s) ∧ ¬Enclosed s := by
  refine ⟨.list, _, _, "`a`=1 AND `b`=2".toList, Or.inl rfl,
    (rfl : Condition.read loneMapping = _), ⟨trivial, trivial, trivial⟩, by decide +kernel, ?_⟩
  intro henclosed
  cases henclosed.head

end

end SqlGateway.Condition
