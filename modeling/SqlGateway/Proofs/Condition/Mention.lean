import SqlGateway.Proofs.Condition.Comparison
import SqlGateway.Proofs.Sql.Mention

/-!
# Identifiers of compiled conditions

The expression of a condition without trusted texts mentions the columns of its leaves in order,
and behind each column what the literals compared with it mention (`mentions?_condition`). A literal
mentions something only if it is a mapping that is compared directly, so that is the one way in
which a value becomes part of an expression.

A leaf is a column with the values that it is written beside. A test for being in no list at all is
decided and writes no column; a mapping has one leaf for each entry.
-/

namespace SqlGateway.Condition

open SqlGateway.Sql

/-! ## Leaves -/

/-- A column and the values whose literals stand beside it. -/
structure Leaf where
  column : Text
  values : List Value

/-- The names that the text of a leaf mentions. -/
def Leaf.names (leaf : Leaf) : List Text := leaf.column :: leaf.values.flatMap assigned

/-- The leaf of a comparison. -/
def comparisonLeaves (column : Text) (operator : Operator) (v : Value) : List Leaf :=
  match operator with
  | .member _ =>
    match v.elements? with
    | some [] => []
    | _ => [⟨column, [v]⟩]
  | .between _ => [⟨column, v.elements?.getD []⟩]
  | _ => [⟨column, [v]⟩]

/-- The leaves of the entries of a mapping. -/
def entryLeaves : List (Value × Value) → List Leaf
  | [] => []
  | (.text column, v) :: rest => ⟨column, [v]⟩ :: entryLeaves rest
  | _ :: rest => entryLeaves rest

mutual

/-- The leaves of a condition that are written, in order. -/
def leaves : Condition → List Leaf
  | .all items | .any items => itemLeaves items
  | .negation (.node c) => c.leaves
  | .equality (.text column) v => [⟨column, [v]⟩]
  | .comparison (.text column) spelling v =>
    match Operator.ofValue? spelling with
    | some operator => comparisonLeaves column operator v
    | none => []
  | .matching (.mapping entries) => entryLeaves entries
  | _ => []
termination_by structural c => c

/-- The leaves of operands. -/
def itemLeaves : List Value → List Leaf
  | [] => []
  | .node c :: rest => c.leaves ++ itemLeaves rest
  | _ :: rest => itemLeaves rest
termination_by structural items => items

end

/-- A column and a value that is no condition. -/
def IsTest (field v : Value) : Prop := IsColumn field ∧ ¬IsNode v

mutual

/-- The condition has no trusted text, its fields are names, and it compares with no condition. -/
def Untrusted : Condition → Prop
  | .raw _ | .fragment _ => False
  | .all items | .any items => UntrustedItems items
  | .negation inner => UntrustedItem inner
  | .equality field v => IsTest field v
  | .comparison field spelling v =>
    IsTest field v ∧ ∀ negated, Operator.ofValue? spelling = some (.between negated) →
      ∀ bound ∈ v.elements?.getD [], ¬IsNode bound
  | .matching v => ∀ entries, v = .mapping entries → ∀ entry ∈ entries, IsTest entry.1 entry.2
termination_by structural c => c

/-- The operand, if it is a condition, has no trusted text. -/
def UntrustedItem : Value → Prop
  | .node c => c.Untrusted
  | _ => True
termination_by structural v => v

/-- The operands have no trusted text. -/
def UntrustedItems : List Value → Prop
  | [] => True
  | v :: rest => UntrustedItem v ∧ UntrustedItems rest
termination_by structural vs => vs

end

/-! ## Texts of leaves -/

section

variable {zone : ZoneChoice} {column : Text}

theorem isQuotation_operator (o : Operator) : ∀ c ∈ o.text, isQuotation c = false := by
  cases o with
  | like negated | member negated | identical negated | between negated | matching negated =>
    cases negated <;> decide
  | _ => decide

theorem mentions_testText {s : Text} {names : List Text} (h : Mentions s names) (o : Operator) :
    Mentions (testText (Identifier.quote column) o s) (column :: names) := by
  have hright : Mentions (o.text ++ ' ' :: s) names := by
    have hspaced : Mentions (" ".toList ++ s) names := h.prepend (by decide)
    exact hspaced.prepend (isQuotation_operator o)
  have htest := (hright.named column (c := ' ') (by decide)).paren
  simpa [testText, parenthesize] using htest

theorem mentions_literal {v : Value} {s : Text} (h : Literal.ofValue zone false v = .ok s) :
    Mentions s (assigned v) := mentions_ofValue h

theorem mentions_value {v : Value} {s : Text} (hv : ¬IsNode v) (h : valueSql zone v = .ok s) :
    Mentions s (assigned v) := mentions_literal (valueSql_literal hv ▸ h)

theorem mentions_equality {field v : Value} (hf : IsTest field v) {s : Text}
    (h : valueSql zone v = .ok s) :
    ∃ column, field = .text column ∧
      Mentions (Identifier.ofValue field ++ '=' :: s) (Leaf.names ⟨column, [v]⟩) := by
  obtain ⟨⟨column, rfl, hcolumn⟩, hv⟩ := hf
  refine ⟨column, rfl, ?_⟩
  rw [ofValue_column hcolumn]
  simpa [Leaf.names] using (mentions_value hv h).named column (c := '=') (by decide)

theorem mentions_ands {texts : List Text} {names : List (List Text)}
    (h : List.Forall₂ Mentions texts names) :
    Mentions (" AND ".toList.intercalate texts) names.flatten :=
  mentions_intercalate (by decide) (fun _ => isBoundary_space _) h

theorem comparisonLeaves_plain {o : Operator} (ho : IsPlain o) (v : Value) :
    comparisonLeaves column o v = [⟨column, [v]⟩] := by
  cases o with
  | member negated => exact absurd rfl (ho negated).1
  | between negated => exact absurd rfl (ho negated).2
  | _ => rfl

theorem mentions_membership {negated : Bool} {v : Value} {s : Text}
    (h : membership zone (Identifier.quote column) negated v = .ok s) :
    Mentions s ((comparisonLeaves column (.member negated) v).flatMap Leaf.names) := by
  unfold membership at h
  split at h
  · next hnone =>
    obtain ⟨lit, hlit, h⟩ := bind_eq_ok.mp h
    cases h
    have hparen : Mentions (parenthesize lit) (assigned v) := (mentions_literal hlit).paren
    rw [comparisonLeaves, hnone]
    simpa [Leaf.names] using mentions_testText hparen (.member negated)
  · next hempty =>
    cases h
    rw [comparisonLeaves, hempty]
    cases negated <;> exact mentions_plain (by decide)
  · next items hnonempty hitems =>
    obtain ⟨lit, hlit, h⟩ := bind_eq_ok.mp h
    cases h
    have hleaf : comparisonLeaves column (.member negated) v = [⟨column, [v]⟩] := by
      rw [comparisonLeaves, hitems]
      split
      · next he => exact absurd (Option.some.inj he) hnonempty
      · rfl
    rw [hleaf]
    simpa [Leaf.names] using mentions_testText (mentions_literal hlit) (.member negated)

theorem mentions_bounds {operator : Operator} {v : Value} {texts : List Text}
    (hv : ∀ bound ∈ v.elements?.getD [], ¬IsNode bound) (h : bounds zone operator v = .ok texts) :
    Mentions (" AND ".toList.intercalate texts) ((v.elements?.getD []).flatMap assigned) := by
  rcases bounds_cases h with ⟨kind, a, b, low, high, rfl, rfl, hlow, hhigh⟩ | ⟨m, n, hpair, rfl⟩
  · have ha := mentions_value (hv a (by simp [Value.elements?])) hlow
    have hb := mentions_value (hv b (by simp [Value.elements?])) hhigh
    exact mentions_ands (.cons ha (.cons hb .nil))
  · rw [hpair]
    exact mentions_ands (.cons (mentions_token (isToken_ofInt m))
      (.cons (mentions_token (isToken_ofInt n)) .nil))

/-- A comparison mentions its column and what is compared with it. -/
theorem mentions_comparison {field spelling v : Value}
    (hc : (Condition.comparison field spelling v).Untrusted) {s? : Option Text}
    (h : sql? zone (.comparison field spelling v) = .ok s?) :
    ∃ s, s? = some s ∧
      Mentions s ((Condition.comparison field spelling v).leaves.flatMap Leaf.names) := by
  obtain ⟨⟨⟨column, rfl, hcolumn⟩, hv⟩, hbounds⟩ := hc
  cases hspelling : Operator.ofValue? spelling with
  | none =>
    rw [sql?_unknown hspelling] at h
    cases h
  | some operator =>
    have hleaves : (Condition.comparison (.text column) spelling v).leaves =
        comparisonLeaves column operator v := by
      rw [leaves, hspelling]
    rw [hleaves]
    rcases operator_cases operator with ⟨negated, rfl⟩ | ⟨negated, rfl⟩ | ho
    · rw [sql?_member hspelling hv, ofValue_column hcolumn] at h
      obtain ⟨s, hs, rfl⟩ := map_eq_ok.mp h
      exact ⟨s, rfl, mentions_membership hs⟩
    · rw [sql?_range hspelling, ofValue_column hcolumn] at h
      obtain ⟨texts, htexts, rfl⟩ := map_eq_ok.mp h
      refine ⟨_, rfl, ?_⟩
      simpa [comparisonLeaves, Leaf.names] using
        mentions_testText (mentions_bounds (hbounds negated hspelling) htexts) (.between negated)
    · rw [sql?_plain hspelling ho, ofValue_column hcolumn] at h
      obtain ⟨s, hs, rfl⟩ := map_eq_ok.mp h
      refine ⟨_, rfl, ?_⟩
      rw [comparisonLeaves_plain ho]
      simpa [Leaf.names] using mentions_testText (mentions_value hv hs) operator

theorem mentions_equalities {entries : List (Value × Value)} {parts : List Text}
    (hentries : ∀ entry ∈ entries, IsTest entry.1 entry.2)
    (h : equalities zone entries = .ok parts) :
    List.Forall₂ Mentions parts ((entryLeaves entries).map Leaf.names) := by
  induction entries generalizing parts with
  | nil =>
    cases h
    exact .nil
  | cons entry entries ih =>
    obtain ⟨field, v⟩ := entry
    obtain ⟨s, hs, h⟩ := bind_eq_ok.mp h
    obtain ⟨rest, hrest, h⟩ := bind_eq_ok.mp h
    cases h
    obtain ⟨column, rfl, hmentions⟩ := mentions_equality (hentries _ (List.mem_cons_self ..)) hs
    have hothers := ih (fun entry h => hentries entry (List.mem_cons_of_mem _ h)) hrest
    exact .cons hmentions hothers

end

/-! ## Conditions -/

/-- The leaves of a condition are what its expression mentions; one without an expression has no
leaves. -/
def MentionsLeaves (s? : Option Text) (written : List Leaf) : Prop :=
  match s? with
  | none => written = []
  | some s => Mentions s (written.flatMap Leaf.names)

theorem mentions_matching {zone : ZoneChoice} {v : Value}
    (hc : (Condition.matching v).Untrusted) {s? : Option Text}
    (h : sql? zone (.matching v) = .ok s?) :
    MentionsLeaves s? (Condition.matching v).leaves := by
  cases v with
  | mapping entries =>
    cases entries with
    | nil =>
      cases h
      rfl
    | cons entry entries =>
      obtain ⟨parts, hparts, h⟩ := bind_eq_ok.mp h
      cases h
      have hmentions := mentions_ands (mentions_equalities (hc _ rfl) hparts)
      rwa [← List.flatMap_def] at hmentions
  | node c => cases c <;> cases h
  | _ =>
    change (if Value.isTruthy _ then Except.error Fault.notSupported else .ok none) = .ok s? at h
    split at h
    · cases h
    · cases h
      rfl

theorem MentionsLeaves.operand {c : Condition} {s : Text} {written : List Leaf}
    (h : MentionsLeaves (some s) written) :
    Mentions (c.asOperand s) (written.flatMap Leaf.names) := by
  unfold asOperand
  split
  · exact h
  · exact h.paren

theorem mentions_junction {keyword : String}
    (hkeyword : ∀ c ∈ ' ' :: keyword.toList ++ [' '], isQuotation c = false) {parts : List Text}
    {written : List (List Leaf)}
    (h : List.Forall₂ (fun s leaves => Mentions s (leaves.flatMap Leaf.names)) parts written) :
    MentionsLeaves (junction? keyword parts) written.flatten := by
  have hparts : List.Forall₂ Mentions parts (written.map fun leaves => leaves.flatMap Leaf.names) :=
    List.forall₂_map_right_iff.mpr h
  have hjoined := mentions_intercalate hkeyword (fun _ => isBoundary_space _) hparts
  have hflat : (written.map fun leaves => leaves.flatMap Leaf.names).flatten =
      written.flatten.flatMap Leaf.names := by
    rw [List.flatten_eq_flatMap (L := written), List.flatMap_assoc]
    rfl
  rw [hflat] at hjoined
  cases h with
  | nil => rfl
  | cons => exact hjoined.paren

mutual

/-- The expression of a condition mentions its leaves in order. -/
theorem mentions_sql? {zone : ZoneChoice} : ∀ {c : Condition} {s? : Option Text}, c.Untrusted →
    c.sql? zone = .ok s? → MentionsLeaves s? c.leaves
  | .raw v, _, hc, _ => hc.elim
  | .fragment v, _, hc, _ => hc.elim
  | .all items, _, hc, h => by
    obtain ⟨parts, hparts, h⟩ := bind_eq_ok.mp h
    cases h
    obtain ⟨written, hwritten, hmentions⟩ := mentions_operands hc hparts
    rw [leaves, ← hwritten]
    exact mentions_junction (by decide) hmentions
  | .any items, _, hc, h => by
    obtain ⟨parts, hparts, h⟩ := bind_eq_ok.mp h
    cases h
    obtain ⟨written, hwritten, hmentions⟩ := mentions_operands hc hparts
    rw [leaves, ← hwritten]
    exact mentions_junction (by decide) hmentions
  | .negation (.node c), _, hc, h => by
    obtain ⟨s?, hs, h⟩ := bind_eq_ok.mp h
    cases h
    have hinner := mentions_sql? (c := c) hc hs
    cases s? with
    | none => exact hinner
    | some s => exact (hinner.operand.prepend (w := "NOT ".toList) (by decide)).paren
  | .equality field v, _, hc, h => by
    obtain ⟨s, hs, h⟩ := bind_eq_ok.mp h
    cases h
    obtain ⟨column, rfl, hmentions⟩ := mentions_equality hc hs
    have hparen := hmentions.paren
    rwa [← List.flatMap_singleton Leaf.names ⟨column, [v]⟩] at hparen
  | .comparison field spelling v, _, hc, h => by
    obtain ⟨s, rfl, hmentions⟩ := mentions_comparison hc h
    exact hmentions
  | .matching v, _, hc, h => mentions_matching hc h
termination_by structural c => c

/-- The operands that are written mention their leaves, and the others have none. -/
theorem mentions_operands {zone : ZoneChoice} : ∀ {items : List Value} {parts : List Text},
    UntrustedItems items → operands zone items = .ok parts →
      ∃ written : List (List Leaf), written.flatten = itemLeaves items ∧
        List.Forall₂ (fun s leaves => Mentions s (leaves.flatMap Leaf.names)) parts written
  | [], _, _, h => by
    cases h
    exact ⟨[], rfl, .nil⟩
  | .node c :: rest, _, hitems, h => by
    obtain ⟨s?, hs, h⟩ := bind_eq_ok.mp h
    obtain ⟨parts, hparts, h⟩ := bind_eq_ok.mp h
    cases h
    have hfirst := mentions_sql? (c := c) hitems.1 hs
    obtain ⟨written, hwritten, hmentions⟩ := mentions_operands hitems.2 hparts
    rw [itemLeaves, ← hwritten]
    cases s? with
    | none =>
      have hnone : c.leaves = [] := hfirst
      exact ⟨written, by rw [hnone, List.nil_append], hmentions⟩
    | some s => exact ⟨c.leaves :: written, rfl, .cons hfirst.operand hmentions⟩
termination_by structural items => items

end

end SqlGateway.Condition
