import SqlGateway.Number.Binary64
import SqlGateway.Text.Basic
import SqlGateway.Text.Character

/-!
# Reading numerals

How a setting that is given as text is read as a number. Digits of every script count, blanks
around the numeral are ignored, and single underscores may stand between digits.
-/

namespace SqlGateway.Numeral

/-- The most digits that an integer may be written with. -/
def maxDigits : Nat := 4300

/-- The blanks among the first 127 characters that may surround a numeral. -/
def isPlainBlank (c : Char) : Bool :=
  c = ' ' || c = '\t' || c = '\n' || c = '\r' || c = Char.ofNat 0x0B || c = Char.ofNat 0x0C

/-- A character of a numeral in plain form: digits as ASCII digits, blanks as spaces. -/
def plainChar? (c : Char) : Option Char :=
  if c.toNat < 127 then some c
  else if Text.isBlank c then some ' '
  else (Text.digitValue? c).map Nat.digitChar

/-- A numeral in plain form without the blanks around it. -/
def plain? (s : Text) : Option Text :=
  (s.mapM plainChar?).map fun t =>
    ((t.dropWhile isPlainBlank).reverse.dropWhile isPlainBlank).reverse

/-- Removes the underscores; `none` if one does not stand between two digits. `afterDigit` tells
whether a digit stands in front. -/
def dropUnderscores? (afterDigit : Bool) : Text → Option Text
  | [] => some []
  | '_' :: d :: rest =>
    if afterDigit && d.isDigit then (dropUnderscores? true rest).map (d :: ·) else none
  | c :: rest => if c = '_' then none else (dropUnderscores? c.isDigit rest).map (c :: ·)

/-- The natural number of a run of ASCII digits that is not empty. -/
def digits? (s : Text) : Option Nat :=
  if s.isEmpty then none
  else s.foldlM (fun n c => if c.isDigit then some (10 * n + (c.toNat - 48)) else none) 0

/-- The sign in front of a numeral, and the rest. -/
def sign : Text → Bool × Text
  | '-' :: rest => (true, rest)
  | '+' :: rest => (false, rest)
  | rest => (false, rest)

/-- The integer that a text stands for: a sign and at most `maxDigits` digits. -/
def readInt? (s : Text) : Option Int := do
  let (negative, numeral) := sign (← plain? s)
  let run ← dropUnderscores? false numeral
  if run.length > maxDigits then none
  let n ← digits? run
  return if negative then -(n : Int) else n

/-- An exponent: digits with an optional sign in front. -/
def exponent? (s : Text) : Option Int := do
  let (negative, numeral) := sign s
  let n ← digits? numeral
  return if negative then -(n : Int) else n

/-- The binary number nearest to digits with an optional point and an optional exponent. -/
def readFinite? (negative : Bool) (s : Text) : Option Binary64 := do
  let (mantissa, exponent) ← match Text.cutAt? 'e' s with
    | none => pure (s, 0)
    | some (m, e) => (exponent? e).map (m, ·)
  let (whole, places) := (Text.cutAt? '.' mantissa).getD (mantissa, [])
  let n ← digits? (whole ++ places)
  return .ofDecimal negative n (exponent - places.length)

/-- The binary number that a text stands for. -/
def readBinary64? (s : Text) : Option Binary64 := do
  let (negative, numeral) := sign ((← dropUnderscores? false (← plain? s)).map Char.toLower)
  if numeral = "inf".toList || numeral = "infinity".toList then return .infinite negative
  else if numeral = "nan".toList then return .nan
  else readFinite? negative numeral

end SqlGateway.Numeral
