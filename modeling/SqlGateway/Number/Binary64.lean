/-!
# Binary floating-point numbers of 64 bits

A finite number is a sign, a significand below 2^53 and a power of two between 2^-1074 and 2^971.
`ofRatio` and `ofDecimal` give the number nearest to an exact quotient or decimal; of two equally
near ones the one with the even significand.
-/

namespace SqlGateway

/-- Powers of natural numbers are the core ones, whatever algebra is imported as well. -/
instance (priority := 1100) natPow : Pow Nat Nat := instPowNat

/-- A binary floating-point number: ± `significand` · 2 ^ `exponent`, an infinity, or no number. -/
inductive Binary64 where
  | finite (negative : Bool) (significand : Nat) (exponent : Int)
  | infinite (negative : Bool)
  | nan
  deriving DecidableEq, Repr

namespace Binary64

/-- Neither infinite nor undefined. -/
def isFinite : Binary64 → Bool
  | .finite .. => true
  | _ => false

/-- The integer nearest to `num / den`, the even one of two equally near. -/
def roundHalfEven (num den : Nat) : Nat :=
  let q := num / den
  let twice := 2 * (num % den)
  if twice < den then q
  else if den < twice then q + 1
  else q + q % 2

/-- The rounded quotient is within half a unit of the exact one. -/
theorem roundHalfEven_near {num den : Nat} (h : 0 < den) :
    2 * num ≤ den * (2 * roundHalfEven num den + 1) ∧
      den * (2 * roundHalfEven num den) ≤ 2 * num + den := by
  have hdiv := Nat.div_add_mod num den
  have hmod := Nat.mod_lt num h
  unfold roundHalfEven
  generalize num / den = q at *
  generalize num % den = r at *
  have e1 : den * (2 * q + 1) = 2 * (den * q) + den := by grind
  have e2 : den * (2 * q) = 2 * (den * q) := by grind
  have e3 : den * (2 * (q + 1) + 1) = 2 * (den * q) + 3 * den := by grind
  have e4 : den * (2 * (q + 1)) = 2 * (den * q) + 2 * den := by grind
  dsimp only
  split
  · omega
  · split
    · omega
    · rcases Nat.mod_two_eq_zero_or_one q with hq | hq
      · simp only [hq, Nat.add_zero]
        omega
      · simp only [hq]
        omega

/-- The number nearest to ± `num / den`, for a positive `den`. -/
def ofRatio (negative : Bool) (num den : Nat) : Binary64 :=
  if num = 0 then .finite negative 0 (-1074)
  else
    let guess : Int := (Nat.log2 num : Int) - Nat.log2 den
    let below : Bool :=
      match guess with
      | .ofNat k => num < den * 2 ^ k
      | .negSucc k => num * 2 ^ (k + 1) < den
    let magnitude := if below then guess - 1 else guess
    let exponent := max (magnitude - 52) (-1074)
    let significand :=
      match exponent with
      | .ofNat k => roundHalfEven num (den * 2 ^ k)
      | .negSucc k => roundHalfEven (num * 2 ^ (k + 1)) den
    if significand = 2 ^ (53 : Nat) then
      if exponent + 1 > 971 then .infinite negative
      else .finite negative (2 ^ (52 : Nat)) (exponent + 1)
    else if exponent > 971 then .infinite negative
    else .finite negative significand exponent

/-- The number nearest to ± `digits` · 10 ^ `exponent`. A decimal beyond 10^400 is infinite and one
below 10^-400 is zero, so no power beyond these is ever computed. -/
def ofDecimal (negative : Bool) (digits : Nat) (exponent : Int) : Binary64 :=
  let size : Int := (Nat.toDigits 10 digits).length + exponent
  if digits = 0 || size < -400 then .finite negative 0 (-1074)
  else if size > 400 then .infinite negative
  else
    match exponent with
    | .ofNat k => ofRatio negative (digits * 10 ^ k) 1
    | .negSucc k => ofRatio negative digits (10 ^ (k + 1))

end Binary64

end SqlGateway
