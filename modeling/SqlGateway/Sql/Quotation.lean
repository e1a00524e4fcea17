import SqlGateway.Value.Display

/-!
# Quotation marks

A string literal stands between apostrophes, with a backslash before quotation marks, backslashes
and the letters that stand for control characters. The name of a table or a column stands between
back-quotes, and a back-quote inside it is written twice; the star, which stands for all columns, is
no name and is never quoted.

`quote` writes such a text; `scan?` reads one from the front of a text and stops after its closing
mark.
-/

namespace SqlGateway.Sql

/-! ## Strings -/

namespace Quoted

/-- One character inside a string literal. -/
def escapeChar (c : Char) : Text :=
  if c = '\x00' then ['\\', '0']
  else if c = '\n' then ['\\', 'n']
  else if c = '\r' then ['\\', 'r']
  else if c = '\x08' then ['\\', 'b']
  else if c = '\t' then ['\\', 't']
  else if c = '\x1a' then ['\\', 'Z']
  else if c = '\\' || c = '\'' || c = '"' then ['\\', c]
  else [c]

/-- The string literal of a text. -/
def quote (s : Text) : Text := '\'' :: s.flatMap escapeChar ++ ['\'']

/-- The character that a backslash and the given character stand for. -/
def unescapeChar (c : Char) : Char :=
  if c = '0' then '\x00'
  else if c = 'n' then '\n'
  else if c = 'r' then '\r'
  else if c = 'b' then '\x08'
  else if c = 't' then '\t'
  else if c = 'Z' then '\x1a'
  else c

/-- The text of a string literal after its opening apostrophe, and what follows the literal. Two
apostrophes stand for one. -/
def scanBody? : Text → Option (Text × Text)
  | [] => none
  | '\\' :: c :: rest => (scanBody? rest).map fun (s, after) => (unescapeChar c :: s, after)
  | '\'' :: '\'' :: rest => (scanBody? rest).map fun (s, after) => ('\'' :: s, after)
  | '\'' :: rest => some ([], rest)
  | c :: rest => (scanBody? rest).map fun (s, after) => (c :: s, after)

/-- The text of the string literal at the front of a text, and what follows the literal. -/
def scan? : Text → Option (Text × Text)
  | '\'' :: rest => scanBody? rest
  | _ => none

end Quoted

/-! ## Identifiers -/

namespace Identifier

/-- The quotation mark of identifiers. -/
def backQuote : Char := '\x60'

/-- The quoted form of a name. -/
def quote (name : Text) : Text :=
  backQuote :: name.flatMap (fun c => if c = backQuote then [c, c] else [c]) ++ [backQuote]

/-- The identifier that a value stands for: its text, quoted; the star stays bare. -/
def ofValue : Value → Text
  | .text ['*'] => ['*']
  | v => quote v.plain

/-- The name of an identifier after its opening back-quote, and what follows the identifier. -/
def scanBody? : Text → Option (Text × Text)
  | [] => none
  | '\x60' :: '\x60' :: rest => (scanBody? rest).map fun (s, after) => (backQuote :: s, after)
  | '\x60' :: rest => some ([], rest)
  | c :: rest => (scanBody? rest).map fun (s, after) => (c :: s, after)

/-- The name of the identifier at the front of a text, and what follows the identifier. -/
def scan? : Text → Option (Text × Text)
  | '\x60' :: rest => scanBody? rest
  | _ => none

end Identifier

end SqlGateway.Sql
