import SqlGateway.Condition.Sql
import SqlGateway.Text.Word

/-!
# Statements with a condition

UPDATE, DELETE and SELECT statements are rows of clauses with a space between neighbours; an empty
clause leaves no trace. The condition becomes a WHERE clause if it tests anything, and the tail is
trusted text that ends the statement.
-/

namespace SqlGateway.Statement

/-! ## Clauses -/

/-- The clauses that are not empty, with a space between neighbours. -/
def joinClauses (clauses : List Text) : Text :=
  [' '].intercalate (clauses.filter fun clause => !clause.isEmpty)

/-- The WHERE clause of a condition; empty if the condition tests nothing. -/
def whereClause (zone : ZoneChoice) (condition : Value) : Except Fault Text := do
  match ← Condition.ofValueSql? zone condition with
  | none => return []
  | some s => return "WHERE ".toList ++ s

/-- The tail of a statement without the blanks around it. A value that counts as false is no
tail; bytes are stripped like text, but cannot become part of a statement. -/
def tailClause (tail : Value) : Except Fault Text :=
  if !tail.isTruthy then .ok []
  else
    match tail with
    | .text s => .ok (Text.strip s)
    | .blob .view _ => .error .notSupported
    | .blob _ _ => do
      match ← Condition.trusted tail with
      | none => .ok []
      | some _ => .error .wrongType
    | _ => .error .notSupported

/-! ## UPDATE and DELETE

Both act on the rows that meet a condition, or on all rows if there is no condition to test. An
update needs at least one column to assign to.
-/

/-- Assignments of values to columns. -/
def assignments (zone : ZoneChoice) : List (Value × Value) → Except Fault (List Text)
  | [] => .ok []
  | (k, v) :: rest => do
    let s ← Sql.Literal.ofValue zone false v
    return (Sql.Identifier.ofValue k ++ '=' :: s) :: (← assignments zone rest)

/-- The statement that assigns to columns of the rows of a table that meet a condition. -/
def update (zone : ZoneChoice) (table condition data tail : Value) : Except Fault Text :=
  match data with
  | .mapping (entry :: entries) => do
    let assigned ← assignments zone (entry :: entries)
    let filter ← whereClause zone condition
    let ending ← tailClause tail
    return joinClauses ["UPDATE".toList, Sql.Identifier.ofValue table, "SET".toList,
      [','].intercalate assigned, filter, ending]
  | _ => .error .assignmentsExpected

/-- The statement that deletes the rows of a table that meet a condition. -/
def delete (zone : ZoneChoice) (table condition tail : Value) : Except Fault Text := do
  let filter ← whereClause zone condition
  let ending ← tailClause tail
  return joinClauses ["DELETE FROM".toList, Sql.Identifier.ofValue table, filter, ending]

/-! ## Limits

A query for one row ends in a LIMIT clause. If its tail has one already, recognised by the word
LIMIT with a blank after it, the tail stays as it is; otherwise LIMIT 1 is appended.
-/

/-- The character is the given small letter in either case; a dotted capital I and a dotless
small i count as the letter i. -/
def isLetter (small c : Char) : Bool :=
  c.toLower = small || (small = 'i' && (c = Char.ofNat 0x130 || c = Char.ofNat 0x131))

/-- The text starts with the letters, in either case, and a blank. -/
def startsWithWord : Text → Text → Bool
  | [], c :: _ => Text.isBlank c
  | small :: letters, c :: rest => isLetter small c && startsWithWord letters rest
  | _, [] => false

/-- The rest of a text holds the word LIMIT followed by a blank; `inWord` tells whether the
character before it belongs to a word. -/
def hasLimitFrom (inWord : Bool) : Text → Bool
  | [] => false
  | c :: rest =>
    (!inWord && startsWithWord "limit".toList (c :: rest)) || hasLimitFrom (Text.isWordChar c) rest

/-- The text holds the word LIMIT followed by a blank. -/
def hasLimit (s : Text) : Bool := hasLimitFrom false s

/-- A tail with a limit: the tail itself if it has one, else the tail with a limit of one row. -/
def limitTail (s : Text) : Text :=
  let tail := Text.strip s
  if hasLimit tail then tail else joinClauses [tail, "LIMIT 1".toList]

/-- The tail of a query for one row. A value that counts as false is no tail. -/
def ensureLimit (tail : Value) : Except Fault Text :=
  if !tail.isTruthy then .ok (limitTail [])
  else
    match tail with
    | .text s => .ok (limitTail s)
    | .blob .fixed _ | .blob .growable _ => .error .wrongType
    | _ => .error .notSupported

/-! ## SELECT

What to select is given as trusted text, as names of columns, or not at all for all columns.
-/

/-- The values that a value yields one after the other: the elements of a collection, the keys
of a mapping, the bytes of any sequence of bytes. -/
def names? : Value → Option (List Value)
  | .mapping entries => some (entries.map (·.1))
  | .blob _ bytes => some (bytes.map fun b => .number (.integer b.toNat) none)
  | v => v.elements?

/-- What a query selects: trusted text, quoted names, or the star for all columns. -/
def fieldList : Value → Except Fault Text
  | .null => .ok ['*']
  | .text s => .ok (let t := Text.strip s; if t.isEmpty then ['*'] else t)
  | v =>
    match names? v with
    | none => .error .wrongType
    | some [] => .ok ['*']
    | some names => .ok (", ".toList.intercalate (names.map Sql.Identifier.ofValue))

/-- The statement that selects from the rows of a table that meet a condition. -/
def select (zone : ZoneChoice) (table fields condition tail : Value) : Except Fault Text := do
  let selected ← fieldList fields
  let filter ← whereClause zone condition
  let ending ← tailClause tail
  return joinClauses ["SELECT".toList, selected, "FROM".toList, Sql.Identifier.ofValue table,
    filter, ending]

/-- The statement that selects one row. -/
def selectOne (zone : ZoneChoice) (table fields condition tail : Value) : Except Fault Text := do
  select zone table fields condition (.text (← ensureLimit tail))

end SqlGateway.Statement
