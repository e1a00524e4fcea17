import SqlGateway.Proofs.Condition.Comparison
import SqlGateway.Proofs.Sql.Expression

/-!
# Trees of conditions

`Condition.tree?` is the boolean tree that a condition means: empty parts are left out, a mapping is
the conjunction of its equalities in order, a trusted text is the tree that it is read as, and a
test for being in no list at all is decided.

`Condition.Regular` says which conditions are meant: those whose fields are names, whose compared
values are written as literals, and whose trusted texts are expressions themselves.
-/

namespace SqlGateway.Condition

open SqlGateway.Sql

/-! ## The tree that a condition means -/

/-- The tree of a column compared with a value. -/
def leafTree? (zone : ZoneChoice) (column : Text) (operator : Operator) (v : Value) :
    Option Tree :=
  match operator with
  | .member negated =>
    match v.elements?.getD [v] with
    | [] => some (.verdict negated)
    | items =>
      (Constant.ofValues zone items).toOption.map fun cs => .predicate (.member column negated cs)
  | .between negated =>
    match (Constant.ofValues zone (v.elements?.getD [])).toOption with
    | some [low, high] => some (.predicate (.range column negated low high))
    | _ => none
  | operator =>
    (Constant.ofValue zone v).toOption.map fun c => .predicate (.test column operator c)

/-- The trees of equalities of columns and values. -/
def equalityTrees? (zone : ZoneChoice) : List (Value × Value) → Option (List Tree)
  | [] => some []
  | (.text column, v) :: rest =>
    (leafTree? zone column .equal v).bind fun e =>
      (equalityTrees? zone rest).map fun es => e :: es
  | _ :: _ => none

/-- A junction of trees, or nothing if there are none. -/
def junctionTree? (make : List Tree → Tree) (es : List Tree) : Option Tree :=
  if es.isEmpty then none else some (make es)

mutual

/-- The boolean tree of a condition; nothing if there is nothing to test. There is no tree if a
trusted text cannot be read or a part is of the wrong kind. -/
def tree? (zone : ZoneChoice) : Condition → Option (Option Tree)
  | .raw (.text s) => if (Text.strip s).isEmpty then some none else (Tree.read? s).map some
  | .fragment (.text s) => if (Text.strip s).isEmpty then some none else (Tree.read? s).map some
  | .all items => (trees? zone items).map (junctionTree? .all)
  | .any items => (trees? zone items).map (junctionTree? .any)
  | .negation (.node c) => (c.tree? zone).map fun e? => e?.map .negation
  | .equality (.text column) v => (leafTree? zone column .equal v).map some
  | .comparison (.text column) spelling v =>
    (Operator.ofValue? spelling).bind fun operator =>
      (leafTree? zone column operator v).map some
  | .matching (.mapping entries) => (equalityTrees? zone entries).map (junctionTree? .all)
  | .matching v => if v.isTruthy then none else some none
  | _ => none
termination_by structural c => c

/-- The trees of the operands that have one. -/
def trees? (zone : ZoneChoice) : List Value → Option (List Tree)
  | [] => some []
  | .node c :: rest =>
    (c.tree? zone).bind fun e? => (trees? zone rest).map fun es => e?.toList ++ es
  | _ :: _ => none
termination_by structural items => items

end

/-! ## Regular conditions -/

/-- The value is compared by its literal: it is no mapping, no view of bytes and no condition. -/
def IsCompared : Value → Prop
  | .mapping _ | .blob .view _ | .node _ => False
  | _ => True

/-- The value is a text that is blank or an expression. -/
def IsTrusted (v : Value) : Prop :=
  ∃ s, v = .text s ∧ ((Text.strip s).isEmpty = true ∨ ∃ e : Tree, e.IsOf s)

/-- The column and the value of an equality. -/
def IsEquality (field v : Value) : Prop := IsColumn field ∧ IsCompared v

mutual

/-- All columns, compared values and trusted texts of the condition are in order. -/
def Regular : Condition → Prop
  | .raw v | .fragment v => IsTrusted v
  | .all items | .any items => RegularItems items
  | .negation inner => RegularItem inner
  | .equality field v => IsEquality field v
  | .comparison field spelling v =>
    IsEquality field v ∧ ∀ negated, Operator.ofValue? spelling = some (.between negated) →
      ∀ bound ∈ v.elements?.getD [], IsCompared bound
  | .matching v =>
    ∀ entries, v = .mapping entries → ∀ entry ∈ entries, IsEquality entry.1 entry.2
termination_by structural c => c

/-- The operand, if it is a condition, is in order. -/
def RegularItem : Value → Prop
  | .node c => c.Regular
  | _ => True
termination_by structural v => v

/-- The operands are in order. -/
def RegularItems : List Value → Prop
  | [] => True
  | v :: rest => RegularItem v ∧ RegularItems rest
termination_by structural vs => vs

end

end SqlGateway.Condition
