import SqlGateway.Condition.Read
import SqlGateway.Sql.Literal
import SqlGateway.Value.Equality

/-!
# Conditions as expressions

`Condition.sql?` writes a tree as a boolean expression, or as nothing if it has nothing to test.
As an operand of a larger expression a tree is always in parentheses; `isGrouped` tells which
trees have them already.
-/

namespace SqlGateway

namespace Condition

/-- The expression of the tree is in parentheses by itself. -/
def isGrouped : Condition → Bool
  | .raw _ | .matching _ => false
  | _ => true

/-- An expression in parentheses. -/
def parenthesize (s : Text) : Text := '(' :: s ++ [')']

/-- The expression of a tree as an operand. -/
def asOperand (c : Condition) (s : Text) : Text := if c.isGrouped then s else parenthesize s

/-- A trusted text, or nothing if it is blank. Bytes can stand for a text, though they are shown
in their display form. -/
def trusted : Value → Except Fault (Option Text)
  | .text s => .ok (if (Text.strip s).isEmpty then none else some s)
  | .blob .view _ => .error .notSupported
  | .blob kind bytes =>
    let isBlank (b : UInt8) : Bool := b = 0x20 || (0x09 ≤ b && b ≤ 0x0D)
    .ok (if bytes.all isBlank then none else some (kind.display bytes))
  | _ => .error .notSupported

/-- A test of a column against an expression. -/
def testText (column : Text) (operator : Operator) (s : Text) : Text :=
  parenthesize (column ++ ' ' :: operator.text ++ ' ' :: s)

/-- Expressions joined by a keyword, in parentheses; nothing if there are none. -/
def junction? (keyword : String) (parts : List Text) : Option Text :=
  if parts.isEmpty then none
  else some (parenthesize ((' ' :: keyword.toList ++ [' ']).intercalate parts))

/-- The greatest number of elements that can be counted. -/
def maxCount : Nat := 2 ^ (63 : Nat) - 1

/-- The bounds of a range test that are listed by a span or a view of bytes. -/
def plainBounds (operator : Operator) (v : Value) : Except Fault (List Text) :=
  let expected := .error (.pairExpected operator.text v.display)
  match v with
  | .span s =>
    if s.size > maxCount then .error .tooLong
    else if s.size = 2 then .ok (s.toList.map Text.ofInt)
    else expected
  | .blob .view [low, high] => .ok [Text.ofNat low.toNat, Text.ofNat high.toNat]
  | _ => expected

/-- The test of a column against a value that lists no trees. A single value is put into
parentheses as a list of one; no value is in an empty list, and every value is outside it. -/
def membership (zone : ZoneChoice) (column : Text) (negated : Bool) (v : Value) :
    Except Fault Text := do
  match v.elements? with
  | none =>
    return testText column (.member negated) (parenthesize (← Sql.Literal.ofValue zone false v))
  | some [] => return (if negated then "(1=1)" else "(1=0)").toList
  | some _ => return testText column (.member negated) (← Sql.Literal.ofValue zone false v)

mutual

/-- The boolean expression of a tree. Where a mapping from columns to values is asked for its items,
a junction in its place has items too, but of the wrong type; any other value that is not empty
has none. -/
def sql? (zone : ZoneChoice) : Condition → Except Fault (Option Text)
  | .raw text => trusted text
  | .fragment text => do
    return (← trusted text).map parenthesize
  | .all items => do
    return junction? "AND" (← operands zone items)
  | .any items => do
    return junction? "OR" (← operands zone items)
  | .negation (.node c) => do
    return (← c.sql? zone).map fun s => parenthesize ("NOT ".toList ++ c.asOperand s)
  | .negation _ => .error .notSupported
  | .equality field value => do
    return some (parenthesize (Sql.Identifier.ofValue field ++ '=' :: (← valueSql zone value)))
  | .comparison field spelling value =>
    let column := Sql.Identifier.ofValue field
    match Operator.ofValue? spelling with
    | none => .error (.badOperator spelling.inSentence)
    | some (.member negated) =>
      match value with
      | .node c => do
        return some (testText column (.member negated) (← valueSql zone (.node c)))
      | v => (membership zone column negated v).map some
    | some (.between negated) => do
      let operator := Operator.between negated
      let bounds ← match value with
        | .group kind items =>
          if items.length = 2 then valuesSql zone items
          else .error (.pairExpected operator.text (Value.group kind items).display)
        | v => plainBounds operator v
      return some (testText column operator (" AND ".toList.intercalate bounds))
    | some operator => do
      return some (testText column operator (← valueSql zone value))
  | .matching (.mapping []) => .ok none
  | .matching (.mapping entries) => do
    return some (" AND ".toList.intercalate (← equalities zone entries))
  | .matching (.node (.all _)) | .matching (.node (.any _)) => .error .wrongType
  | .matching v => if v.isTruthy then .error .notSupported else .ok none
termination_by structural c => c

/-- The expressions of the operands that have one. -/
def operands (zone : ZoneChoice) : List Value → Except Fault (List Text)
  | [] => .ok []
  | .node c :: rest => do
    let s? ← c.sql? zone
    let parts ← operands zone rest
    return (s?.map c.asOperand).toList ++ parts
  | _ :: _ => .error .notSupported
termination_by structural vs => vs

/-- The expression of a value that a column is compared with: that of a tree, which must not be
empty, or a literal. -/
def valueSql (zone : ZoneChoice) : Value → Except Fault Text
  | .node c => do
    match ← c.sql? zone with
    | some s => return c.asOperand s
    | none => .error .emptyOperand
  | v => Sql.Literal.ofValue zone false v
termination_by structural v => v

/-- The expressions of several values. -/
def valuesSql (zone : ZoneChoice) : List Value → Except Fault (List Text)
  | [] => .ok []
  | v :: rest => do
    let s ← valueSql zone v
    return s :: (← valuesSql zone rest)
termination_by structural vs => vs

/-- The equalities of columns and values. -/
def equalities (zone : ZoneChoice) : List (Value × Value) → Except Fault (List Text)
  | [] => .ok []
  | (k, v) :: rest => do
    let s ← valueSql zone v
    return (Sql.Identifier.ofValue k ++ '=' :: s) :: (← equalities zone rest)
termination_by structural es => es

end

/-- The boolean expression of a tree as an operand. -/
def operandSql? (zone : ZoneChoice) (c : Condition) : Except Fault (Option Text) := do
  return (← c.sql? zone).map c.asOperand

/-- The boolean expression of a condition value; nothing if there is nothing to test. -/
def ofValueSql? (zone : ZoneChoice) (v : Value) : Except Fault (Option Text) := do
  match ← Condition.read v with
  | none => return none
  | some c => c.sql? zone

/-- Two condition values are the same condition if both are empty or their trees are equal. A
number that signals keeps the trees from being compared. -/
def sameCondition (v w : Value) : Except Fault Bool := do
  match ← Condition.read v, ← Condition.read w with
  | none, none => return true
  | some c, some d =>
    match c.agreement d with
    | .same => return true
    | .different => return false
    | .signals => .error .signallingNumber
  | _, _ => return false

end Condition

end SqlGateway
