import SqlGateway.Number.Shortest
import SqlGateway.Text.Quoted
import SqlGateway.Value.Basic

/-!
# Texts of values

`Value.display` is the form in which messages show a value: unambiguous, on one line, with text in
quotation marks. `Value.plain` is the text of the value itself, which differs from the display
form for text, dates, labelled numbers and foreign objects.
-/

namespace SqlGateway

/-- The text of a number, whatever it is labelled. -/
def Number.text : Number → Text
  | .integer n => Text.ofInt n
  | .binary x => x.text
  | .decimal d => d.text

/-- The display form of a number. -/
def Number.display : Number → Text
  | .decimal d => "Decimal('".toList ++ d.text ++ "')".toList
  | n => n.text

/-- The display form of a date. -/
def Date.display (d : Date) : Text :=
  "datetime.date(".toList ++
    ", ".toList.intercalate [Text.ofNat d.year, Text.ofNat d.month, Text.ofNat d.day] ++ [')']

/-- The display form of an offset: UTC by name, any other as whole days and seconds. -/
def Moment.displayOffset (offset : Int) : Text :=
  if offset = 0 then "datetime.timezone.utc".toList
  else
    let parts :=
      if offset < 0 then "days=-1, seconds=".toList ++ Text.ofInt (86400 + offset)
      else "seconds=".toList ++ Text.ofInt offset
    "datetime.timezone(datetime.timedelta(".toList ++ parts ++ "))".toList

/-- The display form of a moment: seconds and microseconds only where needed. -/
def Moment.display (m : Moment) : Text :=
  let numbers := [m.date.year, m.date.month, m.date.day, m.hour, m.minute] ++
    (if m.second = 0 ∧ m.microsecond = 0 then [] else [m.second]) ++
    (if m.microsecond = 0 then [] else [m.microsecond])
  let zone := match m.offset with
    | none => []
    | some offset => ["tzinfo=".toList ++ displayOffset offset]
  "datetime.datetime(".toList ++ ", ".toList.intercalate (numbers.map Text.ofNat ++ zone) ++ [')']

/-- The display form of a span; a step of 1 is not shown. -/
def Span.display (s : Span) : Text :=
  let parts := [s.start, s.stop] ++ if s.step = 1 then [] else [s.step]
  "range(".toList ++ ", ".toList.intercalate (parts.map Text.ofInt) ++ [')']

/-- The display form of bytes. -/
def BlobKind.display : BlobKind → List UInt8 → Text
  | .fixed, bytes => Text.displayBytes bytes
  | .growable, bytes => Text.displayGrowableBytes bytes
  | .view, _ => "<memory>".toList

/-- The display form of a collection, given those of its elements. A tuple of one has a comma
after it; an empty set has no braces, so as not to look like a mapping. -/
def GroupKind.display : GroupKind → List Text → Text
  | .list, items => '[' :: ", ".toList.intercalate items ++ [']']
  | .tuple, [item] => '(' :: item ++ ",)".toList
  | .tuple, items => '(' :: ", ".toList.intercalate items ++ [')']
  | .set, [] => "set()".toList
  | .set, items => '\x7b' :: ", ".toList.intercalate items ++ ['\x7d']
  | .frozenSet, [] => "frozenset()".toList
  | .frozenSet, items =>
    "frozenset(".toList ++ '\x7b' :: ", ".toList.intercalate items ++ ['\x7d', ')']

/-- The display form of a named record with named parts. -/
def displayRecord (name : String) (parts : List (String × Text)) : Text :=
  name.toList ++ '(' ::
    ", ".toList.intercalate (parts.map fun (n, t) => n.toList ++ '=' :: t) ++ [')']

mutual

/-- The form in which messages show the value. -/
def Value.display : Value → Text
  | .null => "None".toList
  | .bool b => (if b then "True" else "False").toList
  | .number n _ => n.display
  | .text s => Text.display s
  | .date d => d.display
  | .moment m => m.display
  | .blob kind bytes => kind.display bytes
  | .group kind items => kind.display (displayItems items)
  | .span s => s.display
  | .mapping entries => '\x7b' :: ", ".toList.intercalate (displayEntries entries) ++ ['\x7d']
  | .foreign _ _ shown => shown
  | .node c => c.display
termination_by structural v => v

/-- The form in which messages show the condition. -/
def Condition.display : Condition → Text
  | .raw sql => displayRecord "Raw" [("sql", sql.display)]
  | .fragment sql => displayRecord "Fragment" [("sql", sql.display)]
  | .all items => displayRecord "And" [("items", GroupKind.tuple.display (displayItems items))]
  | .any items => displayRecord "Or" [("items", GroupKind.tuple.display (displayItems items))]
  | .negation inner => displayRecord "Not" [("inner", inner.display)]
  | .equality field value =>
    displayRecord "Equals" [("field", field.display), ("value", value.display)]
  | .comparison field operator value =>
    displayRecord "Compare"
      [("field", field.display), ("op", operator.display), ("value", value.display)]
  | .matching values => displayRecord "Match" [("values", values.display)]
termination_by structural c => c

/-- The display forms of the elements. -/
def displayItems : List Value → List Text
  | [] => []
  | v :: rest => v.display :: displayItems rest
termination_by structural vs => vs

/-- The display forms of the entries: key, colon, value. -/
def displayEntries : List (Value × Value) → List Text
  | [] => []
  | (k, v) :: rest => (k.display ++ ": ".toList ++ v.display) :: displayEntries rest
termination_by structural es => es

end

namespace Value

/-- The text of the value itself. -/
def plain : Value → Text
  | .text s => s
  | .number n label => label.elim n.text Label.shown
  | .date d => d.text
  | .moment m => m.fullText
  | .foreign _ s _ => s
  | v => v.display

/-- The text of the value inside a sentence, which for a decimal number is never its label. -/
def inSentence : Value → Text
  | .number (.decimal d) _ => d.text
  | v => v.plain

/-- The name of the value's type. -/
def typeName : Value → Text
  | .null => "NoneType".toList
  | .bool _ => "bool".toList
  | .number _ (some label) => label.typeName
  | .number (.integer _) none => "int".toList
  | .number (.binary _) none => "float".toList
  | .number (.decimal _) none => "Decimal".toList
  | .text _ => "str".toList
  | .date _ => "date".toList
  | .moment _ => "datetime".toList
  | .blob .fixed _ => "bytes".toList
  | .blob .growable _ => "bytearray".toList
  | .blob .view _ => "memoryview".toList
  | .group .list _ => "list".toList
  | .group .tuple _ => "tuple".toList
  | .group .set _ => "set".toList
  | .group .frozenSet _ => "frozenset".toList
  | .span _ => "range".toList
  | .mapping _ => "dict".toList
  | .foreign typeName _ _ => typeName
  | .node (.raw _) => "Raw".toList
  | .node (.fragment _) => "Fragment".toList
  | .node (.all _) => "And".toList
  | .node (.any _) => "Or".toList
  | .node (.negation _) => "Not".toList
  | .node (.equality ..) => "Equals".toList
  | .node (.comparison ..) => "Compare".toList
  | .node (.matching _) => "Match".toList

end Value

end SqlGateway
