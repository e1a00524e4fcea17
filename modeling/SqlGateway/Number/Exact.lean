import SqlGateway.Number.Binary64
import SqlGateway.Number.Decimal

/-!
# Exact magnitudes

Every finite number, integer, binary or decimal, is an integer times a power of ten. `Magnitude`
writes it with the greatest possible power, so two numbers are equal exactly when their
magnitudes are the same, whatever kinds of numbers they are.
-/

namespace SqlGateway

/-- What a number amounts to: an integer times a power of ten, or an infinity. -/
inductive Magnitude where
  | finite (coefficient : Int) (exponent : Int)
  | infinite (negative : Bool)
  deriving DecidableEq, Repr

namespace Magnitude

/-- Takes the factors ten out of a number other than zero. -/
def takeTens (n : Nat) (exponent : Int) : Nat × Int :=
  if h : n ≠ 0 ∧ n % 10 = 0 then takeTens (n / 10) (exponent + 1) else (n, exponent)
termination_by n
decreasing_by omega

/-- The magnitude of ± `n` · 10 ^ `exponent`. -/
def ofScaled (negative : Bool) (n : Nat) (exponent : Int) : Magnitude :=
  if n = 0 then .finite 0 0
  else
    let (c, e) := takeTens n exponent
    .finite (if negative then -(c : Int) else c) e

/-- The magnitude of an integer. -/
def ofInt (n : Int) : Magnitude := ofScaled (n < 0) n.natAbs 0

/-- The magnitude of a binary number; one half is five tenths. -/
def ofBinary64? : Binary64 → Option Magnitude
  | .finite negative significand (.ofNat k) => some (ofScaled negative (significand * 2 ^ k) 0)
  | .finite negative significand (.negSucc k) =>
    some (ofScaled negative (significand * 5 ^ (k + 1)) (.negSucc k))
  | .infinite negative => some (.infinite negative)
  | .nan => none

/-- The magnitude of a decimal number. -/
def ofDecimal? : Decimal → Option Magnitude
  | .finite negative coefficient exponent => some (ofScaled negative coefficient exponent)
  | .infinite negative => some (.infinite negative)
  | .nan .. => none

end Magnitude

end SqlGateway
