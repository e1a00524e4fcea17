import SqlGateway.Text.Utf8

/-!
# Percent encoding

Inside a URL a percent sign and two hexadecimal digits stand for a byte. The bytes between two
characters beyond ASCII are read together as UTF-8; a percent sign without two digits stands for
itself. `decode` reads such a text, `encode` writes one in which only ASCII letters and digits
stand for themselves.
-/

namespace SqlGateway.Url.Percent

/-- The value of a hexadecimal digit in either case. -/
def hexValue? (c : Char) : Option Nat :=
  if c.isDigit then some (c.toNat - 48)
  else if 'a' ≤ c ∧ c ≤ 'f' then some (c.toNat - 87)
  else if 'A' ≤ c ∧ c ≤ 'F' then some (c.toNat - 55)
  else none

/-- The byte that two hexadecimal digits stand for. -/
def byte? (a b : Char) : Option Nat := do
  return 16 * (← hexValue? a) + (← hexValue? b)

/-- What the bytes so far amount to where no further byte follows them. -/
def unfinished : Text.Utf8.State → Text
  | .start => []
  | .inside .. => [Text.Utf8.replacement]

/-- One byte in front of what the rest is read as. -/
def feed (state : Text.Utf8.State) (b : Nat) (rest : Text.Utf8.State → Text) : Text :=
  (Text.Utf8.step state b).1 ++ rest (Text.Utf8.step state b).2

/-- The characters of the rest of a text. -/
def decodeFrom (state : Text.Utf8.State) : Text → Text
  | [] => unfinished state
  | '%' :: a :: b :: rest =>
    match byte? a b with
    | some n => feed state n (decodeFrom · rest)
    | none => feed state '%'.toNat (decodeFrom · (a :: b :: rest))
  | c :: rest =>
    if c.toNat < 128 then feed state c.toNat (decodeFrom · rest)
    else unfinished state ++ c :: decodeFrom .start rest

/-- The text that a part of a URL stands for. -/
def decode (s : Text) : Text := decodeFrom .start s

/-- One byte as a percent sign and two digits. -/
def encodeByte (b : UInt8) : Text := '%' :: Text.hexDigits 2 b.toNat

/-- The text as a part of a URL. -/
def encode (s : Text) : Text :=
  s.flatMap fun c => if c.isAlphanum then [c] else (String.utf8EncodeChar c).flatMap encodeByte

end SqlGateway.Url.Percent
