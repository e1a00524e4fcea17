import SqlGateway.Calendar.Moment
import SqlGateway.Calendar.Zone
import SqlGateway.Number.Binary64
import SqlGateway.Number.Decimal

/-!
# Values

The values that can be rendered as literals, stand in rows and appear in conditions, and the
condition trees, which are values too. The parts of a condition tree are values of any kind: what
does not fit where it stands is found out when the tree is used.
-/

namespace SqlGateway

/-- A number: an integer, a binary or a decimal one. -/
inductive Number where
  | integer (n : Int)
  | binary (x : Binary64)
  | decimal (d : Decimal)
  deriving DecidableEq, Repr

/-- What is shown of a number whose type has a name and a text of its own. -/
structure Label where
  typeName : Text
  shown : Text
  deriving DecidableEq, Repr

/-- Sequences of bytes: fixed, growable, or a view of other memory. -/
inductive BlobKind where
  | fixed
  | growable
  | view
  deriving DecidableEq, Repr

/-- Collections that list their elements. -/
inductive GroupKind where
  | list
  | tuple
  | set
  | frozenSet
  deriving DecidableEq, Repr

/-- The integers from `start` on in steps of `step`, up to but without `stop`. -/
structure Span where
  start : Int
  stop : Int
  step : Int
  deriving DecidableEq, Repr

/-- The span with the given ends, whose step must not be zero. -/
def Span.make (start stop step : Int) : Except Fault Span :=
  if step = 0 then .error .outOfRange else .ok ⟨start, stop, step⟩

/-- How many integers a span has. -/
def Span.size (s : Span) : Nat :=
  if s.step > 0 then ((s.stop - s.start + s.step - 1).fdiv s.step).toNat
  else if s.step < 0 then ((s.start - s.stop - s.step - 1).fdiv (-s.step)).toNat
  else 0

/-- The integers of a span. -/
def Span.toList (s : Span) : List Int :=
  (List.range s.size).map fun (k : Nat) => s.start + (k : Int) * s.step

mutual

/-- A value. -/
inductive Value where
  | null
  | bool (b : Bool)
  /-- A number, whose type may be one of its own. -/
  | number (n : Number) (label : Option Label)
  | text (s : Text)
  | date (d : Date)
  | moment (m : Moment)
  | blob (kind : BlobKind) (bytes : List UInt8)
  | group (kind : GroupKind) (items : List Value)
  | span (s : Span)
  /-- Keys with their values in the order of insertion; no two keys are equal. -/
  | mapping (entries : List (Value × Value))
  /-- An object known only by the name of its type and the texts that it shows. -/
  | foreign (typeName plain display : Text)
  | node (c : Condition)

/-- A condition: a trusted text, bare or in parentheses, a junction, a negation, an equality, a
comparison, or a mapping from columns to the values they must equal. -/
inductive Condition where
  | raw (sql : Value)
  | fragment (sql : Value)
  | all (items : List Value)
  | any (items : List Value)
  | negation (inner : Value)
  | equality (field value : Value)
  | comparison (field operator value : Value)
  | matching (values : Value)

end

instance : Inhabited Value := ⟨.null⟩

namespace Value

/-- The value counts as true where only that is asked: it is neither null, false, zero nor
empty. -/
def isTruthy : Value → Bool
  | .null => false
  | .bool b => b
  | .number (.integer n) _ => n != 0
  | .number (.binary (.finite _ significand _)) _ => significand != 0
  | .number (.binary _) _ => true
  | .number (.decimal (.finite _ coefficient _)) _ => coefficient != 0
  | .number (.decimal _) _ => true
  | .text s => !s.isEmpty
  | .date _ | .moment _ => true
  | .blob _ bytes => !bytes.isEmpty
  | .group _ items => !items.isEmpty
  | .span s => s.size != 0
  | .mapping entries => !entries.isEmpty
  | .foreign .. | .node _ => true

/-- The text of a text value. -/
def text? : Value → Option Text
  | .text s => some s
  | _ => none

/-- An integer that is no truth value. -/
def integer? : Value → Option Int
  | .number (.integer n) _ => some n
  | _ => none

/-- The elements of a value that lists them: a collection, a span, or the bytes of a view. Text
and bytes proper are single values. -/
def elements? : Value → Option (List Value)
  | .group _ items => some items
  | .span s => some (s.toList.map fun n => .number (.integer n) none)
  | .blob .view bytes => some (bytes.map fun b => .number (.integer b.toNat) none)
  | _ => none

end Value

/-! ## Zones

The zone that moments are rendered in is given as a value. It is looked at only where a date is
rendered, so a choice of zone is carried along as a zone or the fault of naming none.
-/

/-- A zone, or why the value that should name one does not. -/
abbrev ZoneChoice := Except Fault Zone

namespace Zone

/-- The zone that a value names. No value stands for UTC, and only text names another zone. -/
def ofValue : Value → ZoneChoice
  | .null => .ok .utc
  | .text s => Zone.read s
  | _ => .error .wrongType

end Zone

end SqlGateway
