import SqlGateway.Sql.Quotation

/-!
# Literals

`Literal.ofValue` writes a value as one complete expression. Collections become parenthesised
lists. A mapping becomes a list of assignments where it stands by itself; inside another value it
is nested, and then, like an object known only by its texts, it is written as a quoted string.
Only dates and moments look at the zone.
-/

namespace SqlGateway.Sql.Literal

/-- The digits of a number; an infinite or undefined one has none. -/
def ofNumber : Number → Except Fault Text
  | .integer n => .ok (Text.ofInt n)
  | .binary x =>
    if x.isFinite then .ok x.text else .error (.notRepresentable (Number.binary x).display)
  | .decimal d =>
    if d.isFinite then .ok d.text else .error (.notRepresentable (Number.decimal d).display)

/-- The text of a date, in any zone. -/
def dateText (zone : ZoneChoice) (d : Date) : Except Fault Text := do
  let _ ← zone
  return d.text

/-- The text of a moment on the zone's clock. -/
def momentText (zone : ZoneChoice) (m : Moment) : Except Fault Text := do
  let z ← zone
  return (← m.inOffset z.offset).text

/-- The text of a date or a moment; no other value has one. -/
def calendarText (zone : ZoneChoice) : Value → Except Fault Text
  | .date d => dateText zone d
  | .moment m => momentText zone m
  | _ => do
    let _ ← zone
    .error .notSupported

/-- Expressions in parentheses. -/
def listText (items : List Text) : Text := '(' :: ", ".toList.intercalate items ++ [')']

/-- Bytes as hexadecimal digits. -/
def blobText (bytes : List UInt8) : Text := 'X' :: '\'' :: Text.hexBytes bytes ++ ['\'']

mutual

/-- The literal of a value. -/
def ofValue (zone : ZoneChoice) (nested : Bool) : Value → Except Fault Text
  | .null => .ok "NULL".toList
  | .bool b => .ok (if b then "true" else "false").toList
  | .number n _ => ofNumber n
  | .date d => (dateText zone d).map Quoted.quote
  | .moment m => (momentText zone m).map Quoted.quote
  | .blob _ bytes => .ok (blobText bytes)
  | .text s => .ok (Quoted.quote s)
  | .mapping entries =>
    if nested then .ok (Quoted.quote (Value.mapping entries).plain)
    else (ofEntries zone entries).map ", ".toList.intercalate
  | .group _ items => (ofItems zone items).map listText
  | .span s => .ok (listText (s.toList.map Text.ofInt))
  | .foreign _ s _ => .ok (Quoted.quote s)
  | .node c => .ok (Quoted.quote c.display)
termination_by structural v => v

/-- The literals of nested values. -/
def ofItems (zone : ZoneChoice) : List Value → Except Fault (List Text)
  | [] => .ok []
  | v :: rest => do
    let s ← ofValue zone true v
    return s :: (← ofItems zone rest)
termination_by structural vs => vs

/-- Assignments of nested values to columns. -/
def ofEntries (zone : ZoneChoice) : List (Value × Value) → Except Fault (List Text)
  | [] => .ok []
  | (k, v) :: rest => do
    let s ← ofValue zone true v
    return (Identifier.ofValue k ++ '=' :: s) :: (← ofEntries zone rest)
termination_by structural es => es

end

end SqlGateway.Sql.Literal
