import SqlGateway.Number.Numeral
import SqlGateway.Value.Basic
import SqlGateway.Fault

/-!
# Whole seconds

The time of the clock is given with a fraction; the timestamp is the whole number of seconds,
toward zero.
-/

namespace SqlGateway.Clock

/-- A quotient without its fraction, with a sign. -/
def signed (negative : Bool) (n : Nat) : Int := if negative then -(n : Int) else n

/-- A binary number without its fraction. -/
def truncateBinary64 : Binary64 → Except Fault Int
  | .finite negative significand (.ofNat k) => .ok (signed negative (significand * 2 ^ k))
  | .finite negative significand (.negSucc k) => .ok (signed negative (significand / 2 ^ (k + 1)))
  | .infinite _ => .error .outsideCalendar
  | .nan => .error .outOfRange

/-- A natural number times a power of ten, without its fraction. Zero stays zero, and a number
with no more digits than places has no whole part, so no power is computed for them. -/
def shift (n : Nat) : Int → Nat
  | .ofNat k => if n = 0 then 0 else n * 10 ^ k
  | .negSucc k => if (Text.ofNat n).length ≤ k + 1 then 0 else n / 10 ^ (k + 1)

theorem shift_ofNat (n k : Nat) : shift n (.ofNat k) = n * 10 ^ k := by
  cases n <;> simp [shift]

theorem shift_negSucc (n k : Nat) : shift n (.negSucc k) = n / 10 ^ (k + 1) := by
  by_cases h : (Text.ofNat n).length ≤ k + 1
  · have hlt : n < 10 ^ (k + 1) := (Nat.length_toDigits_le_iff (by decide) (Nat.succ_pos k)).1 h
    simp [shift, h, Nat.div_eq_of_lt hlt]
  · simp [shift, h]

/-- A decimal number without its fraction. -/
def truncateDecimal : Decimal → Except Fault Int
  | .finite negative coefficient exponent => .ok (signed negative (shift coefficient exponent))
  | .infinite _ => .error .outsideCalendar
  | .nan .. => .error .outOfRange

/-- An integer that is written out. -/
def readSeconds (s : Text) : Except Fault Int :=
  match Numeral.readInt? s with
  | some n => .ok n
  | none => .error .outOfRange

/-- The whole seconds of a time. Text and ASCII bytes may write them out. -/
def seconds : Value → Except Fault Int
  | .bool b => .ok (if b then 1 else 0)
  | .number (.integer n) _ => .ok n
  | .number (.binary x) _ => truncateBinary64 x
  | .number (.decimal d) _ => truncateDecimal d
  | .text s => readSeconds s
  | .blob _ bytes =>
    if bytes.all (· < 128) then readSeconds (bytes.map fun b => Char.ofNat b.toNat)
    else .error .outOfRange
  | _ => .error .wrongType

end SqlGateway.Clock
