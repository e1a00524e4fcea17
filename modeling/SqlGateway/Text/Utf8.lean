import SqlGateway.Text.Basic

/-!
# UTF-8 with replacement

Bytes are read as UTF-8. Where they are no UTF-8, the longest part that still could have begun a
character is replaced by one U+FFFD, and reading goes on at the byte that did not fit.
-/

namespace SqlGateway.Text.Utf8

/-- What stands for bytes that are no character. -/
def replacement : Char := Char.ofNat 0xFFFD

/-- Where the reader stands: between characters, or inside one that still needs `tails` further
bytes, of which the next lies between `low` and `high`, with the bits read so far. -/
inductive State where
  | start
  | inside (tails : Nat) (low high : Nat) (bits : Nat)

/-- The characters completed by the first byte of a character, and the state after it. -/
def begin (b : Nat) : Text × State :=
  if b < 0x80 then ([Char.ofNat b], .start)
  else if b < 0xC2 then ([replacement], .start)
  else if b < 0xE0 then ([], .inside 1 0x80 0xBF (b - 0xC0))
  else if b = 0xE0 then ([], .inside 2 0xA0 0xBF 0)
  else if b = 0xED then ([], .inside 2 0x80 0x9F 0xD)
  else if b < 0xF0 then ([], .inside 2 0x80 0xBF (b - 0xE0))
  else if b = 0xF0 then ([], .inside 3 0x90 0xBF 0)
  else if b < 0xF4 then ([], .inside 3 0x80 0xBF (b - 0xF0))
  else if b = 0xF4 then ([], .inside 3 0x80 0x8F 4)
  else ([replacement], .start)

/-- One byte: the characters completed by it and the state after it. -/
def step : State → Nat → Text × State
  | .start, b => begin b
  | .inside tails low high bits, b =>
    if low ≤ b ∧ b ≤ high then
      let bits := bits * 64 + b % 64
      if tails ≤ 1 then ([Char.ofNat bits], .start) else ([], .inside (tails - 1) 0x80 0xBF bits)
    else
      let (text, state) := begin b
      (replacement :: text, state)

end SqlGateway.Text.Utf8
