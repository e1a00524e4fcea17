import SqlGateway.Text.Basic
import SqlGateway.Text.Printable

/-!
# Display forms of text and bytes

A display form stands between quotation marks and can be read on one line: whatever is not
printable is written as an escape. Apostrophes are the marks, unless the text holds an apostrophe
and no double quotation mark.
-/

namespace SqlGateway.Text

/-- The quotation mark around the display form of a text. -/
def displayMark (s : Text) : Char :=
  if s.contains '\'' && !s.contains '"' then '"' else '\''

/-- One character inside a display form whose quotation mark is `mark`. -/
def displayChar (mark c : Char) : Text :=
  if c = mark || c = '\\' then ['\\', c]
  else if c = '\n' then ['\\', 'n']
  else if c = '\r' then ['\\', 'r']
  else if c = '\t' then ['\\', 't']
  else if isPrintable c then [c]
  else if c.toNat ≤ 0xFF then '\\' :: 'x' :: hexDigits 2 c.toNat
  else if c.toNat ≤ 0xFFFF then '\\' :: 'u' :: hexDigits 4 c.toNat
  else '\\' :: 'U' :: hexDigits 8 c.toNat

/-- The display form of a text. -/
def display (s : Text) : Text :=
  let mark := displayMark s
  mark :: s.flatMap (displayChar mark) ++ [mark]

/-- One byte inside a display form where `escaped` stands behind a backslash: as a character if
that is printable and below 127. -/
def displayByte (escaped : Char) (b : UInt8) : Text :=
  if b.toNat < 0x7F then displayChar escaped (Char.ofNat b.toNat)
  else '\\' :: 'x' :: hexDigits 2 b.toNat

/-- The quotation mark around the display form of bytes. -/
def displayByteMark (bytes : List UInt8) : Char :=
  displayMark (bytes.map fun b => Char.ofNat b.toNat)

/-- The display form of fixed bytes: a letter b, then the bytes between quotation marks. -/
def displayBytes (bytes : List UInt8) : Text :=
  let mark := displayByteMark bytes
  'b' :: mark :: bytes.flatMap (displayByte mark) ++ [mark]

/-- The display form of growable bytes, in which apostrophes stand behind a backslash even where
they are not the quotation marks. -/
def displayGrowableBytes (bytes : List UInt8) : Text :=
  let mark := displayByteMark bytes
  "bytearray(b".toList ++ mark :: bytes.flatMap (displayByte '\'') ++ [mark, ')']

/-- Two hexadecimal digits for each byte. -/
def hexBytes (bytes : List UInt8) : Text := bytes.flatMap fun b => hexDigits 2 b.toNat

end SqlGateway.Text
