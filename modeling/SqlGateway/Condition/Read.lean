import SqlGateway.Condition.Operator
import SqlGateway.Fault

/-!
# Reading conditions

A condition is given as nothing, a trusted text, a mapping from columns to values, a list that
starts with a tag or a field, or a tree that is already built. `Condition.read` turns each of
these into a tree, or finds that there is nothing to test.
-/

namespace SqlGateway

/-- What a list with a logical tag stands for. -/
inductive LogicalTag where
  | all
  | any
  | negation
  deriving DecidableEq, Repr

/-- The tag that a text is, in letters of any case. -/
def LogicalTag.read? (s : Text) : Option LogicalTag :=
  let t := s.map Char.toLower
  if t = "$and".toList then some .all
  else if t = "$or".toList then some .any
  else if t = "$not".toList then some .negation
  else none

/-- The tag at the head of a list, if its first element is one. -/
def LogicalTag.ofValue? (v : Value) : Option LogicalTag := v.text?.bind read?

namespace Condition

/-- A field is a text that is not empty. -/
def checkField (v : Value) : Except Fault Value :=
  match v with
  | .text (_ :: _) => .ok v
  | _ => .error (.badField v.display)

/-- A comparison, whose operator must be one of those known. -/
def compare (field operator value : Value) : Except Fault Condition :=
  match Operator.ofValue? operator with
  | some _ => .ok (.comparison field operator value)
  | none => .error (.badOperator operator.inSentence)

mutual

/-- The tree of a value, where `bare` says what becomes of a text that stands alone. -/
def readWith (bare : Value → Condition) : Value → Except Fault (Option Condition)
  | .null => .ok none
  | .node c => .ok (some c)
  | .text s => .ok (some (bare (.text s)))
  | .mapping entries => .ok (some (.matching (.mapping entries)))
  | .group .list items => readList items
  | .group .tuple items => readList items
  | v => .error (.notACondition v.typeName)
termination_by structural v => v

/-- The tree of a list: a junction or a negation if a tag comes first, the operand itself if it is
alone, an equality of two elements, and a comparison of three or more. -/
def readList : List Value → Except Fault (Option Condition)
  | [] => .ok none
  | head :: rest =>
    match LogicalTag.ofValue? head, rest with
    | some .all, rest => (readOperands rest).map fun cs => some (.all (cs.map .node))
    | some .any, rest => (readOperands rest).map fun cs => some (.any (cs.map .node))
    | some .negation, [] => .error .operandMissing
    | some .negation, operand :: _ =>
      (readWith .fragment operand).map fun c? => c?.map fun c => .negation (.node c)
    | none, [] => readWith .fragment head
    | none, [value] => (checkField head).map fun field => some (.equality field value)
    | none, operator :: value :: _ => do
      let field ← checkField head
      return some (← compare field operator value)
termination_by structural vs => vs

/-- The trees of operands, without those that are nothing. A text is a fragment. -/
def readOperands : List Value → Except Fault (List Condition)
  | [] => .ok []
  | v :: rest => do
    let c? ← readWith .fragment v
    let cs ← readOperands rest
    return c?.toList ++ cs
termination_by structural vs => vs

end

/-- The tree of a condition value; a text that stands alone is taken as it is. -/
def read (v : Value) : Except Fault (Option Condition) := readWith .raw v

end Condition

end SqlGateway
