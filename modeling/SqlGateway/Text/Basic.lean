/-!
# Text

Text is a list of characters, so that every rule on it is a recursion on its characters. This
module holds what all other modules need of it beyond lists: cutting at a character, and decimal and
hexadecimal numerals.
-/

namespace SqlGateway

/-- Text, character by character. -/
abbrev Text := List Char

namespace Text

/-- Cuts a text at the first occurrence of a character, which belongs to neither part; `none`
if it does not occur. -/
def cutAt? (c : Char) : Text → Option (Text × Text)
  | [] => none
  | d :: rest =>
    if d = c then some ([], rest) else (cutAt? c rest).map fun (l, r) => (d :: l, r)

/-- Cuts a text at the last occurrence of a character. -/
def cutAtLast? (c : Char) (s : Text) : Option (Text × Text) :=
  (cutAt? c s.reverse).map fun (r, l) => (l.reverse, r.reverse)

/-- The decimal numeral of a natural number. -/
def ofNat (n : Nat) : Text := Nat.toDigits 10 n

/-- The decimal numeral of an integer. -/
def ofInt : Int → Text
  | .ofNat n => ofNat n
  | .negSucc n => '-' :: ofNat (n + 1)

/-- The text with zeros in front up to the given width. -/
def padZeros (width : Nat) (s : Text) : Text := s.leftpad width '0'

/-- The last `width` hexadecimal digits of a number, in small letters. -/
def hexDigits (width n : Nat) : Text :=
  match width with
  | 0 => []
  | w + 1 => hexDigits w (n / 16) ++ [Nat.digitChar (n % 16)]

end Text

end SqlGateway
