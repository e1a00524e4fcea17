import SqlGateway.Proofs.Condition.Comparison
import SqlGateway.Proofs.Sql.Atom

/-!
# Atoms of conditions

The expression of a condition holds the literals of the values that its comparisons take, and so
their atoms (`Condition.atoms`, `sql?_holds`): through the operands of junctions and negations, the
entries of mappings, the bounds of ranges, and the trees that columns are compared with. If the
dates and moments among the atoms are written alike in two zones, so is the whole expression
(`sql?_alike`).

The two runs have to agree on more than texts: whether a part has an expression at all decides what
becomes of the whole. So the relation is lifted to expressions that may be missing.
-/

namespace SqlGateway.Condition

open SqlGateway.Sql
open SqlGateway.Sql.Literal (DatedAlike Holds HeldBy)

/-! ## Atoms -/

/-- The value is a list of no elements, in which no column is looked up. -/
def listsNothing (v : Value) : Bool := v.elements?.any List.isEmpty

mutual

/-- The values that are written whole in the expression of a condition, from left to right. -/
def atoms : Condition → List Value
  | .all items | .any items => operandAtoms items
  | .negation (.node c) => c.atoms
  | .equality _ v => valueAtoms v
  | .comparison _ spelling v =>
    match Operator.ofValue? spelling with
    | none => []
    | some (.member _) => if listsNothing v then [] else valueAtoms v
    | some (.between _) => boundAtoms v
    | some _ => valueAtoms v
  | .matching (.mapping entries) => equalityAtoms entries
  | _ => []
termination_by structural c => c

/-- The atoms of operands, up to the first that is no condition. -/
def operandAtoms : List Value → List Value
  | .node c :: rest => c.atoms ++ operandAtoms rest
  | _ => []
termination_by structural vs => vs

/-- The atoms of a value that a column is compared with. -/
def valueAtoms : Value → List Value
  | .node c => c.atoms
  | v => Literal.atoms false v
termination_by structural v => v

/-- The atoms of the bounds of a range. Those that a span or a view of bytes lists are numbers and
not counted here. -/
def boundAtoms : Value → List Value
  | .group _ items => if items.length = 2 then valuesAtoms items else []
  | _ => []
termination_by structural v => v

/-- The atoms of several values that columns are compared with. -/
def valuesAtoms : List Value → List Value
  | [] => []
  | v :: rest => valueAtoms v ++ valuesAtoms rest
termination_by structural vs => vs

/-- The atoms of the values of equalities. -/
def equalityAtoms : List (Value × Value) → List Value
  | [] => []
  | (_, v) :: rest => valueAtoms v ++ equalityAtoms rest
termination_by structural es => es

end

theorem valueAtoms_literal {v : Value} (hv : ¬IsNode v) : valueAtoms v = Literal.atoms false v := by
  cases v with
  | node c => exact absurd ⟨c, rfl⟩ hv
  | _ => rfl

theorem atoms_plain {field spelling v : Value} {o : Operator}
    (h : Operator.ofValue? spelling = some o) (ho : IsPlain o) :
    (Condition.comparison field spelling v).atoms = valueAtoms v := by
  rw [atoms, h]
  cases o with
  | member negated => exact absurd rfl (ho negated).1
  | between negated => exact absurd rfl (ho negated).2
  | _ => rfl

theorem atoms_member_node {field spelling v : Value} {negated : Bool}
    (h : Operator.ofValue? spelling = some (.member negated)) (hv : IsNode v) :
    (Condition.comparison field spelling v).atoms = valueAtoms v := by
  obtain ⟨c, rfl⟩ := hv
  rw [atoms, h]
  rfl

theorem atoms_member {field spelling v : Value} {negated : Bool}
    (h : Operator.ofValue? spelling = some (.member negated)) (hv : ¬IsNode v) :
    (Condition.comparison field spelling v).atoms =
      if listsNothing v then [] else Literal.atoms false v := by
  rw [atoms, h, ← valueAtoms_literal hv]

theorem atoms_range {field spelling v : Value} {negated : Bool}
    (h : Operator.ofValue? spelling = some (.between negated)) :
    (Condition.comparison field spelling v).atoms = boundAtoms v := by
  rw [atoms, h]

/-! ## Atoms in the expression -/

section

variable {zone : ZoneChoice} {s : Text} {texts : List Text} {a : Value}

theorem holds_parenthesize (h : Holds zone s a) : Holds zone (parenthesize s) a :=
  h.within (List.infix_append ['('] s [')'])

theorem holds_asOperand (c : Condition) (h : Holds zone s a) : Holds zone (c.asOperand s) a := by
  unfold asOperand
  split
  · exact h
  · exact holds_parenthesize h

theorem holds_testText (column : Text) (o : Operator) (h : Holds zone s a) :
    Holds zone (testText column o s) a :=
  holds_parenthesize
    (h.within ((List.suffix_cons _ _).isInfix.trans (List.suffix_append _ _).isInfix))

theorem holds_junction {keyword : String} (h : HeldBy zone texts a) :
    ∃ s, junction? keyword texts = some s ∧ Holds zone s a := by
  cases texts with
  | nil =>
    obtain ⟨t, ht, -⟩ := h
    cases ht
  | cons first rest => exact ⟨_, rfl, holds_parenthesize (h.intercalate _)⟩

theorem membership_holds {column : Text} {negated : Bool} {v : Value}
    (h : membership zone column negated v = .ok s) :
    ∀ a ∈ if listsNothing v then [] else Literal.atoms false v, Holds zone s a := by
  intro a ha
  unfold membership at h
  unfold listsNothing at ha
  cases helements : v.elements? with
  | none =>
    rw [helements] at h ha
    obtain ⟨t, ht, h⟩ := bind_eq_ok.mp h
    cases h
    exact holds_testText _ _ (holds_parenthesize (Literal.ofValue_holds ht a ha))
  | some items =>
    rw [helements] at h ha
    cases items with
    | nil => cases ha
    | cons first rest =>
      obtain ⟨t, ht, h⟩ := bind_eq_ok.mp h
      cases h
      exact holds_testText _ _ (Literal.ofValue_holds ht a ha)

mutual

/-- The literal of every atom is a part of the expression. -/
theorem sql?_holds : ∀ {c : Condition} {s? : Option Text}, c.sql? zone = .ok s? →
    ∀ a ∈ c.atoms, ∃ s, s? = some s ∧ Holds zone s a
  | .raw _, _, _, _, ha | .fragment _, _, _, _, ha => by cases ha
  | .all items, _, h, a, ha => by
    obtain ⟨parts, hparts, h⟩ := bind_eq_ok.mp h
    cases h
    exact holds_junction (operands_holds hparts a ha)
  | .any items, _, h, a, ha => by
    obtain ⟨parts, hparts, h⟩ := bind_eq_ok.mp h
    cases h
    exact holds_junction (operands_holds hparts a ha)
  | .negation inner, _, h, a, ha => by
    cases inner with
    | node c =>
      obtain ⟨t?, ht, h⟩ := bind_eq_ok.mp h
      obtain ⟨t, rfl, hholds⟩ := sql?_holds (c := c) ht a ha
      cases h
      exact ⟨_, rfl, holds_parenthesize
        ((holds_asOperand c hholds).within (List.suffix_append _ _).isInfix)⟩
    | _ => cases ha
  | .equality field v, _, h, a, ha => by
    obtain ⟨t, ht, h⟩ := bind_eq_ok.mp h
    cases h
    exact ⟨_, rfl, holds_parenthesize ((valueSql_holds ht a ha).assigned _)⟩
  | .comparison field spelling v, _, h, a, ha => by
    cases hspelling : Operator.ofValue? spelling with
    | none =>
      rw [sql?_unknown hspelling] at h
      cases h
    | some o =>
      rcases operator_cases o with ⟨negated, rfl⟩ | ⟨negated, rfl⟩ | ho
      · by_cases hv : IsNode v
        · rw [sql?_member_node hspelling hv] at h
          rw [atoms_member_node hspelling hv] at ha
          obtain ⟨t, ht, rfl⟩ := map_eq_ok.mp h
          exact ⟨_, rfl, holds_testText _ _ (valueSql_holds ht a ha)⟩
        · rw [sql?_member hspelling hv] at h
          rw [atoms_member hspelling hv] at ha
          obtain ⟨t, ht, rfl⟩ := map_eq_ok.mp h
          exact ⟨_, rfl, membership_holds ht a ha⟩
      · rw [atoms_range hspelling] at ha
        rw [sql?_range hspelling] at h
        obtain ⟨texts, htexts, rfl⟩ := map_eq_ok.mp h
        exact ⟨_, rfl, holds_testText _ _ ((bounds_holds htexts a ha).intercalate _)⟩
      · rw [atoms_plain hspelling ho] at ha
        rw [sql?_plain hspelling ho] at h
        obtain ⟨t, ht, rfl⟩ := map_eq_ok.mp h
        exact ⟨_, rfl, holds_testText _ _ (valueSql_holds ht a ha)⟩
  | .matching v, _, h, a, ha => by
    cases v with
    | mapping entries =>
      cases entries with
      | nil => cases ha
      | cons entry entries =>
        obtain ⟨texts, htexts, h⟩ := bind_eq_ok.mp h
        cases h
        exact ⟨_, rfl, (equalities_holds htexts a ha).intercalate _⟩
    | _ => cases ha
termination_by structural c => c

theorem operands_holds : ∀ {items : List Value} {parts : List Text},
    operands zone items = .ok parts → ∀ a ∈ operandAtoms items, HeldBy zone parts a
  | [], _, _, _, ha => by cases ha
  | v :: rest, _, h, a, ha => by
    cases v with
    | node c =>
      obtain ⟨s?, hs, h⟩ := bind_eq_ok.mp h
      obtain ⟨parts, hparts, h⟩ := bind_eq_ok.mp h
      cases h
      rcases List.mem_append.mp ha with hc | hrest
      · obtain ⟨s, rfl, hholds⟩ := sql?_holds (c := c) hs a hc
        exact .first (holds_asOperand c hholds)
      · have hheld := operands_holds hparts a hrest
        cases s? with
        | none => exact hheld
        | some s => exact .later hheld
    | _ => cases h
termination_by structural items => items

theorem valueSql_holds : ∀ {v : Value} {s : Text}, valueSql zone v = .ok s →
    ∀ a ∈ valueAtoms v, Holds zone s a
  | v, _, h, a, ha => by
    cases v with
    | node c =>
      obtain ⟨s?, hs, h⟩ := bind_eq_ok.mp h
      obtain ⟨s, rfl, hholds⟩ := sql?_holds (c := c) hs a ha
      cases h
      exact holds_asOperand c hholds
    | _ => exact Literal.ofValue_holds h a ha
termination_by structural v => v

theorem bounds_holds {operator : Operator} : ∀ {v : Value} {texts : List Text},
    bounds zone operator v = .ok texts → ∀ a ∈ boundAtoms v, HeldBy zone texts a
  | v, _, h, a, ha => by
    cases v with
    | group kind items =>
      simp only [bounds, boundAtoms] at h ha
      split at h
      · next hlength =>
        rw [if_pos hlength] at ha
        exact valuesSql_holds h a ha
      · cases h
    | _ => cases ha
termination_by structural v => v

theorem valuesSql_holds : ∀ {items : List Value} {texts : List Text},
    valuesSql zone items = .ok texts → ∀ a ∈ valuesAtoms items, HeldBy zone texts a
  | [], _, _, _, ha => by cases ha
  | v :: rest, _, h, a, ha => by
    obtain ⟨s, hs, h⟩ := bind_eq_ok.mp h
    obtain ⟨others, hothers, h⟩ := bind_eq_ok.mp h
    cases h
    rcases List.mem_append.mp ha with hv | hrest
    · exact .first (valueSql_holds hs a hv)
    · exact .later (valuesSql_holds hothers a hrest)
termination_by structural items => items

theorem equalities_holds : ∀ {entries : List (Value × Value)} {texts : List Text},
    equalities zone entries = .ok texts → ∀ a ∈ equalityAtoms entries, HeldBy zone texts a
  | [], _, _, _, ha => by cases ha
  | (k, v) :: rest, _, h, a, ha => by
    obtain ⟨s, hs, h⟩ := bind_eq_ok.mp h
    obtain ⟨others, hothers, h⟩ := bind_eq_ok.mp h
    cases h
    rcases List.mem_append.mp ha with hv | hrest
    · exact .first ((valueSql_holds hs a hv).assigned _)
    · exact .later (equalities_holds hothers a hrest)
termination_by structural entries => entries

end

end

/-! ## Expressions in two zones -/

section

variable {excused : Prop} {R : Text → Text → Prop} {zone zone' : ZoneChoice}

theorem parenthesize_alike (hR : Congruence R) {s t : Text} (h : R s t) :
    R (parenthesize s) (parenthesize t) := hR.wrap ['('] [')'] h

theorem asOperand_alike (hR : Congruence R) (c : Condition) {s t : Text} (h : R s t) :
    R (c.asOperand s) (c.asOperand t) := by
  unfold asOperand
  split
  · exact h
  · exact parenthesize_alike hR h

theorem testText_alike (hR : Congruence R) (column : Text) (o : Operator) {s t : Text}
    (h : R s t) : R (testText column o s) (testText column o t) := by
  exact parenthesize_alike hR (hR.append (hR.refl (column ++ ' ' :: o.text)) (hR.cons ' ' h))

theorem junction_alike (hR : Congruence R) (keyword : String) {ss ts : List Text}
    (h : List.Forall₂ R ss ts) : Option.Rel R (junction? keyword ss) (junction? keyword ts) := by
  have hjoined := hR.intercalate (' ' :: keyword.toList ++ [' ']) h
  cases h with
  | nil => exact .none
  | cons => exact .some (parenthesize_alike hR hjoined)

theorem relRefl (hR : Congruence R) : ∀ s? : Option Text, Option.Rel R s? s?
  | none => .none
  | some s => .some (hR.refl s)

theorem membership_alike (hR : Congruence R) {column : Text} {negated : Bool} {v : Value}
    (h : ∀ a ∈ if listsNothing v then [] else Literal.atoms false v,
      DatedAlike excused R zone zone' a) :
    Alike excused R (membership zone column negated v) (membership zone' column negated v) := by
  unfold membership
  unfold listsNothing at h
  cases helements : v.elements? with
  | none =>
    rw [helements] at h
    exact (Literal.ofValue_alike hR h).bind fun s t hst =>
      .result (testText_alike hR column _ (parenthesize_alike hR hst))
  | some items =>
    cases items with
    | nil => exact .result (hR.refl _)
    | cons first rest =>
      rw [helements] at h
      exact (Literal.ofValue_alike hR h).bind fun s t hst =>
        .result (testText_alike hR column _ hst)

mutual

/-- If the dates and moments among the atoms of a condition are written alike in two zones, so is
its expression. -/
theorem sql?_alike (hR : Congruence R) : ∀ {c : Condition},
    (∀ a ∈ c.atoms, DatedAlike excused R zone zone' a) →
      Alike excused (Option.Rel R) (c.sql? zone) (c.sql? zone')
  | .raw _, _ | .fragment _, _ => .refl (relRefl hR) _
  | .all _, h => (operands_alike hR h).bind fun _ _ hst => .result (junction_alike hR "AND" hst)
  | .any _, h => (operands_alike hR h).bind fun _ _ hst => .result (junction_alike hR "OR" hst)
  | .negation inner, h => by
    cases inner with
    | node c =>
      refine (sql?_alike hR (c := c) h).bind fun s? t? hst => .result ?_
      cases hst with
      | none => exact .none
      | some hst =>
        exact .some (parenthesize_alike hR (hR.append (hR.refl _) (asOperand_alike hR c hst)))
    | _ => exact .fault _
  | .equality field v, h => by
    refine (valueSql_alike hR h).bind fun s t hst => .result (.some ?_)
    exact parenthesize_alike hR (hR.append (hR.refl _) (hR.cons '=' hst))
  | .comparison field spelling v, h => by
    cases hspelling : Operator.ofValue? spelling with
    | none =>
      rw [sql?_unknown hspelling, sql?_unknown hspelling]
      exact .fault _
    | some o =>
      rcases operator_cases o with ⟨negated, rfl⟩ | ⟨negated, rfl⟩ | ho
      · by_cases hv : IsNode v
        · rw [sql?_member_node hspelling hv, sql?_member_node hspelling hv]
          rw [atoms_member_node hspelling hv] at h
          exact (valueSql_alike hR h).map fun s t hst => .some (testText_alike hR _ _ hst)
        · rw [sql?_member hspelling hv, sql?_member hspelling hv]
          rw [atoms_member hspelling hv] at h
          exact (membership_alike hR h).map fun s t hst => .some hst
      · rw [atoms_range hspelling] at h
        rw [sql?_range hspelling, sql?_range hspelling]
        refine (bounds_alike hR h).map fun ss ts hst => .some ?_
        exact testText_alike hR _ _ (hR.intercalate _ hst)
      · rw [atoms_plain hspelling ho] at h
        rw [sql?_plain hspelling ho, sql?_plain hspelling ho]
        exact (valueSql_alike hR h).map fun s t hst => .some (testText_alike hR _ _ hst)
  | .matching v, h => by
    cases v with
    | mapping entries =>
      cases entries with
      | nil => exact .result .none
      | cons entry entries =>
        refine (equalities_alike hR h).bind fun ss ts hst => .result (.some ?_)
        exact hR.intercalate _ hst
    | node c => cases c <;> exact .fault _
    | _ => exact .refl (relRefl hR) _
termination_by structural c => c

/-- So are operands. -/
theorem operands_alike (hR : Congruence R) : ∀ {items : List Value},
    (∀ a ∈ operandAtoms items, DatedAlike excused R zone zone' a) →
      Alike excused (List.Forall₂ R) (operands zone items) (operands zone' items)
  | [], _ => .result .nil
  | v :: rest, h => by
    cases v with
    | node c =>
      obtain ⟨hc, hrest⟩ := List.forall_mem_append.mp h
      refine (sql?_alike hR (c := c) hc).bind fun s? t? hst => ?_
      refine (operands_alike hR hrest).bind fun ss ts hss => .result ?_
      cases hst with
      | none => exact hss
      | some hst => exact .cons (asOperand_alike hR c hst) hss
    | _ => exact .fault _
termination_by structural items => items

/-- So is a value that a column is compared with. -/
theorem valueSql_alike (hR : Congruence R) : ∀ {v : Value},
    (∀ a ∈ valueAtoms v, DatedAlike excused R zone zone' a) →
      Alike excused R (valueSql zone v) (valueSql zone' v)
  | v, h => by
    cases v with
    | node c =>
      refine (sql?_alike hR (c := c) h).bind fun s? t? hst => ?_
      cases hst with
      | none => exact .fault _
      | some hst => exact .result (asOperand_alike hR c hst)
    | _ => exact Literal.ofValue_alike hR h
termination_by structural v => v

/-- So are the bounds of a range. -/
theorem bounds_alike (hR : Congruence R) {operator : Operator} : ∀ {v : Value},
    (∀ a ∈ boundAtoms v, DatedAlike excused R zone zone' a) →
      Alike excused (List.Forall₂ R) (bounds zone operator v) (bounds zone' operator v)
  | v, h => by
    cases v with
    | group kind items =>
      simp only [bounds, boundAtoms] at h ⊢
      split
      · next hlength =>
        rw [if_pos hlength] at h
        exact valuesSql_alike hR h
      · exact .fault _
    | _ => exact .refl hR.refl_all _
termination_by structural v => v

/-- So are several values. -/
theorem valuesSql_alike (hR : Congruence R) : ∀ {items : List Value},
    (∀ a ∈ valuesAtoms items, DatedAlike excused R zone zone' a) →
      Alike excused (List.Forall₂ R) (valuesSql zone items) (valuesSql zone' items)
  | [], _ => .result .nil
  | v :: rest, h => by
    obtain ⟨hv, hrest⟩ := List.forall_mem_append.mp h
    refine (valueSql_alike hR hv).bind fun s t hst => ?_
    refine (valuesSql_alike hR hrest).bind fun ss ts hss => ?_
    exact .result (.cons hst hss)
termination_by structural items => items

/-- So are equalities. -/
theorem equalities_alike (hR : Congruence R) : ∀ {entries : List (Value × Value)},
    (∀ a ∈ equalityAtoms entries, DatedAlike excused R zone zone' a) →
      Alike excused (List.Forall₂ R) (equalities zone entries) (equalities zone' entries)
  | [], _ => .result .nil
  | (k, v) :: rest, h => by
    obtain ⟨hv, hrest⟩ := List.forall_mem_append.mp h
    refine (valueSql_alike hR hv).bind fun s t hst => ?_
    refine (equalities_alike hR hrest).bind fun ss ts hss => ?_
    exact .result (.cons (hR.append (hR.refl _) (hR.cons '=' hst)) hss)
termination_by structural entries => entries

end

end

end SqlGateway.Condition
