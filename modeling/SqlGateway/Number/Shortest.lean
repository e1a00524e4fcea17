import SqlGateway.Number.Binary64
import SqlGateway.Text.Basic

/-!
# The shortest decimal of a binary number

A finite binary number stands for all reals that round to it. Among the decimals in that interval
`shortest` gives one with the fewest digits, and of those the nearest. `Binary64.text` lays its
digits out: positional where the first digit is worth between 10^-4 and 10^15, otherwise with an
exponent.
-/

namespace SqlGateway.Binary64

/-- The reals that round to a positive number, over a common denominator: the number itself is
`value / unit`, the ends of the interval are `low / unit` and `high / unit`. -/
structure Interval where
  value : Nat
  low : Nat
  high : Nat
  unit : Nat
  /-- The ends belong to the interval. -/
  closed : Bool

/-- The interval of `significand` · 2 ^ `exponent`. Below a power of two the neighbours are half
as far apart as above it. -/
def interval (significand : Nat) (exponent : Int) : Interval :=
  let below := if significand = 2 ^ (52 : Nat) && exponent > -1074 then 1 else 2
  let scale := match exponent with
    | .ofNat k => 2 ^ k
    | .negSucc _ => 1
  let unit := match exponent with
    | .ofNat _ => 4
    | .negSucc k => 4 * 2 ^ (k + 1)
  { value := 4 * significand * scale
    low := (4 * significand - below) * scale
    high := (4 * significand + 2) * scale
    unit := unit
    closed := significand % 2 = 0 }

/-- The decimal `digits` · 10 ^ `power` lies in the interval. -/
def Interval.contains (i : Interval) (digits : Nat) (power : Int) : Bool :=
  let (num, unit) := match power with
    | .ofNat k => (digits * 10 ^ k * i.unit, 1)
    | .negSucc k => (digits * i.unit, 10 ^ (k + 1))
  if i.closed then i.low * unit ≤ num && num ≤ i.high * unit
  else i.low * unit < num && num < i.high * unit

/-- The value as a quotient in units of 10 ^ `power`. -/
def Interval.scaled (i : Interval) (power : Int) : Nat × Nat :=
  match power with
  | .ofNat k => (i.value, i.unit * 10 ^ k)
  | .negSucc k => (i.value * 10 ^ (k + 1), i.unit)

/-- The decimal of the grid of 10 ^ `power` that lies in the interval, the nearer one if both
neighbours of the value do; zero is never taken. -/
def Interval.onGrid? (i : Interval) (power : Int) : Option Nat :=
  let (num, den) := i.scaled power
  let lower := num / den
  match i.contains lower power && lower != 0, i.contains (lower + 1) power with
  | false, false => none
  | true, false => some lower
  | false, true => some (lower + 1)
  | true, true => some (roundHalfEven num den)

/-- The decimal of the grid of 10 ^ `power` next to the value, and at least one unit of it. -/
def Interval.nearest (i : Interval) (power : Int) : Nat :=
  let (num, den) := i.scaled power
  max 1 (roundHalfEven num den)

/-- The first grid that meets the interval, from 10 ^ `power` on downwards; when the tries are used
up, the decimal next to the value. -/
def Interval.firstGrid (i : Interval) (power : Int) : Nat → Nat × Int
  | 0 => ((i.onGrid? power).getD (i.nearest power), power)
  | tries + 1 =>
    match i.onGrid? power with
    | some digits => (digits, power)
    | none => i.firstGrid (power - 1) tries

/-- The power of ten of the first digit of the value. -/
def Interval.magnitude (i : Interval) : Int :=
  let guess : Int := (Nat.toDigits 10 i.value).length - (Nat.toDigits 10 i.unit).length
  let below : Bool := match guess with
    | .ofNat k => i.value < i.unit * 10 ^ k
    | .negSucc k => i.value * 10 ^ (k + 1) < i.unit
  if below then guess - 1 else guess

/-- The fewest digits that read back as a positive number, and the power of ten of the last one.
Seventeen digits always suffice. -/
def shortest (significand : Nat) (exponent : Int) : Nat × Int :=
  let i := interval significand exponent
  i.firstGrid i.magnitude 17

/-- A text without the zeros at its end. -/
def dropZeros (s : Text) : Text := (s.reverse.dropWhile (· = '0')).reverse

/-- Digits with the point after the first one moved by `power` places, written positionally with
at least one digit on both sides of the point. -/
def positional (digits : Text) (power : Int) : Text :=
  match power with
  | .ofNat k =>
    let whole := digits.take (k + 1)
    let rest := digits.drop (k + 1)
    let places := if rest.isEmpty then ['0'] else rest
    whole ++ List.replicate (k + 1 - digits.length) '0' ++ '.' :: places
  | .negSucc k => '0' :: '.' :: List.replicate k '0' ++ digits

/-- Digits with the point after the first one, and the power of ten that they are multiplied by,
with a sign and at least two digits. -/
def scientific (digits : Text) (power : Int) : Text :=
  let mantissa := match digits with
    | [] => []
    | [d] => [d]
    | d :: rest => d :: '.' :: rest
  mantissa ++ ('e' :: (if power < 0 then '-' else '+') :: Text.padZeros 2 (Text.ofNat power.natAbs))

/-- The text of a finite number: the fewest digits that read back, positional from 10^-4 up to
10^16, always with a point or an exponent. -/
def finiteText (negative : Bool) (significand : Nat) (exponent : Int) : Text :=
  let sign := if negative then ['-'] else []
  if significand = 0 then sign ++ ['0', '.', '0']
  else
    let (number, last) := shortest significand exponent
    let all := Text.ofNat number
    let power : Int := last + all.length - 1
    let digits := dropZeros all
    sign ++ if -4 ≤ power ∧ power < 16 then positional digits power else scientific digits power

/-- The text of a number. -/
def text : Binary64 → Text
  | .finite negative significand exponent => finiteText negative significand exponent
  | .infinite negative => (if negative then "-inf" else "inf").toList
  | .nan => "nan".toList

end SqlGateway.Binary64
