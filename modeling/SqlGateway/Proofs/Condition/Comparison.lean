import Mathlib.Data.List.Basic
import SqlGateway.Condition.Sql
import SqlGateway.Proofs.Outcome
import SqlGateway.Proofs.Sql.Words

/-!
# Comparisons by their operators

A comparison is written in one of three ways, by what its operator compares with: the members of a
list, the bounds of a range, or one value. Each way has its equation here, so what is proved about
comparisons need not look at the operators one by one.
-/

namespace SqlGateway.Condition

open SqlGateway.Sql

/-- The two expressions that a range test compares with. -/
def bounds (zone : ZoneChoice) (operator : Operator) (v : Value) : Except Fault (List Text) :=
  match v with
  | .group kind items =>
    if items.length = 2 then valuesSql zone items
    else .error (.pairExpected operator.text (Value.group kind items).display)
  | v => plainBounds operator v

/-- The value is the name of a column, and not the star. -/
def IsColumn (v : Value) : Prop := ∃ column, v = .text column ∧ column ≠ ['*']

/-- The value is a condition. -/
def IsNode (v : Value) : Prop := ∃ c, v = .node c

section

variable {zone : ZoneChoice} {field spelling v : Value}

theorem sql?_member {negated : Bool} (h : Operator.ofValue? spelling = some (.member negated))
    (hv : ¬IsNode v) :
    sql? zone (.comparison field spelling v) =
      (membership zone (Identifier.ofValue field) negated v).map some := by
  rw [sql?, h]
  cases v with
  | node c => exact absurd ⟨c, rfl⟩ hv
  | _ => rfl

theorem sql?_member_node {negated : Bool} (h : Operator.ofValue? spelling = some (.member negated))
    (hv : IsNode v) :
    sql? zone (.comparison field spelling v) =
      (valueSql zone v).map fun s =>
        some (testText (Identifier.ofValue field) (.member negated) s) := by
  obtain ⟨c, rfl⟩ := hv
  rw [sql?, h]
  rfl

theorem sql?_range {negated : Bool} (h : Operator.ofValue? spelling = some (.between negated)) :
    sql? zone (.comparison field spelling v) =
      (bounds zone (.between negated) v).map fun texts =>
        some (testText (Identifier.ofValue field) (.between negated)
          (" AND ".toList.intercalate texts)) := by
  rw [sql?, h]
  cases v with
  | group kind items =>
    simp only [bounds]
    split <;> rfl
  | _ => rfl

theorem sql?_plain {o : Operator} (h : Operator.ofValue? spelling = some o) (ho : IsPlain o) :
    sql? zone (.comparison field spelling v) =
      (valueSql zone v).map fun s => some (testText (Identifier.ofValue field) o s) := by
  rw [sql?, h]
  cases o with
  | member negated => exact absurd rfl (ho negated).1
  | between negated => exact absurd rfl (ho negated).2
  | _ => rfl

theorem sql?_unknown (h : Operator.ofValue? spelling = none) :
    sql? zone (.comparison field spelling v) = .error (.badOperator spelling.inSentence) := by
  rw [sql?, h]

theorem valueSql_literal (hv : ¬IsNode v) : valueSql zone v = Literal.ofValue zone false v := by
  cases v with
  | node c => exact absurd ⟨c, rfl⟩ hv
  | _ => rfl

theorem ofValue_column {column : Text} (h : column ≠ ['*']) :
    Identifier.ofValue (.text column) = Identifier.quote column := by
  unfold Identifier.ofValue
  split
  · next he =>
    cases he
    exact absurd rfl h
  · rfl

end

theorem valuesSql_pair {zone : ZoneChoice} {a b : Value} {texts : List Text}
    (h : valuesSql zone [a, b] = .ok texts) :
    ∃ low high, texts = [low, high] ∧ valueSql zone a = .ok low ∧ valueSql zone b = .ok high := by
  obtain ⟨low, hlow, h⟩ := bind_eq_ok.mp h
  obtain ⟨rest, hrest, h⟩ := bind_eq_ok.mp h
  obtain ⟨high, hhigh, hrest⟩ := bind_eq_ok.mp hrest
  cases hrest
  cases h
  exact ⟨low, high, rfl, hlow, hhigh⟩

/-- The bounds come from a collection of two values, a span of two integers or a view of two
bytes. -/
theorem bounds_cases {zone : ZoneChoice} {operator : Operator} {v : Value} {texts : List Text}
    (h : bounds zone operator v = .ok texts) :
    (∃ kind a b low high, v = .group kind [a, b] ∧ texts = [low, high] ∧
      valueSql zone a = .ok low ∧ valueSql zone b = .ok high) ∨
    (∃ m n, v.elements? = some [.number (.integer m) none, .number (.integer n) none] ∧
      texts = [Text.ofInt m, Text.ofInt n]) := by
  cases v with
  | group kind items =>
    simp only [bounds] at h
    split at h
    · next hlength =>
      obtain ⟨a, b, rfl⟩ := List.length_eq_two.mp hlength
      obtain ⟨low, high, rfl, hlow, hhigh⟩ := valuesSql_pair h
      exact Or.inl ⟨kind, a, b, low, high, rfl, rfl, hlow, hhigh⟩
    · cases h
  | span s =>
    simp only [bounds, plainBounds] at h
    split at h
    · cases h
    · split at h
      · next hsize =>
        cases h
        obtain ⟨m, n, hpair⟩ : ∃ m n, s.toList = [m, n] :=
          List.length_eq_two.mp (by simpa [Span.toList] using hsize)
        exact Or.inr ⟨m, n, by rw [Value.elements?, hpair]; rfl, by rw [hpair]; rfl⟩
      · cases h
  | blob kind bytes =>
    simp only [bounds] at h
    unfold plainBounds at h
    split at h
    · next he => cases he
    · next low high he =>
      cases he
      cases h
      exact Or.inr ⟨low.toNat, high.toNat, rfl, rfl⟩
    · cases h
  | _ => cases h

end SqlGateway.Condition
