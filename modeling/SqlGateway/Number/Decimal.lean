import SqlGateway.Text.Basic
import SqlGateway.Text.Character

/-!
# Decimal numbers

A decimal number keeps the digits and the exponent that it was written with, so 1.0 and 1.00 are
different values with the same magnitude. `text` writes it positionally when the exponent is not
positive and at most five zeros follow the point, otherwise with an exponent; `read?` reads such
texts back, with digits of every script, blanks around them and underscores anywhere.
-/

namespace SqlGateway

/-- A decimal number: ± `coefficient` · 10 ^ `exponent`, an infinity, or no number, which carries
a payload (zero for none) and may signal. -/
inductive Decimal where
  | finite (negative : Bool) (coefficient : Nat) (exponent : Int)
  | infinite (negative : Bool)
  | nan (negative signalling : Bool) (payload : Nat)
  deriving DecidableEq, Repr

namespace Decimal

/-- Neither infinite nor undefined. -/
def isFinite : Decimal → Bool
  | .finite .. => true
  | _ => false

/-- An exponent with its sign. -/
def signedText (n : Int) : Text :=
  (if n < 0 then '-' else '+') :: Text.ofNat n.natAbs

/-- Digits with `places` of them before the point. -/
def pointed (digits : Text) (places : Int) : Text :=
  match places with
  | .ofNat 0 => '0' :: '.' :: digits
  | .negSucc k => '0' :: '.' :: List.replicate (k + 1) '0' ++ digits
  | .ofNat k =>
    if digits.length ≤ k then digits ++ List.replicate (k - digits.length) '0'
    else digits.take k ++ '.' :: digits.drop k

/-- The text of a finite number without its sign. -/
def magnitudeText (coefficient : Nat) (exponent : Int) : Text :=
  let digits := Text.ofNat coefficient
  let places := exponent + digits.length
  if exponent ≤ 0 ∧ places > -6 then pointed digits places
  else pointed digits 1 ++ if places = 1 then [] else 'E' :: signedText (places - 1)

/-- The text of a number. -/
def text : Decimal → Text
  | .finite negative coefficient exponent =>
    (if negative then ['-'] else []) ++ magnitudeText coefficient exponent
  | .infinite negative => (if negative then "-Infinity" else "Infinity").toList
  | .nan negative signalling payload =>
    (if negative then ['-'] else []) ++ (if signalling then ['s'] else []) ++ "NaN".toList ++
      if payload = 0 then [] else Text.ofNat payload

/-- The natural number written by a run of ASCII digits; nothing else is accepted, the empty run
counts as zero. -/
def digitRun? (s : Text) : Option Nat :=
  s.foldlM (fun n c => if c.isDigit then some (10 * n + (c.toNat - 48)) else none) 0

/-- An exponent: digits with an optional sign in front. -/
def readExponent? : Text → Option Int
  | '-' :: d :: rest => (digitRun? (d :: rest)).map fun n => -(n : Int)
  | '+' :: d :: rest => (digitRun? (d :: rest)).map Int.ofNat
  | d :: rest => (digitRun? (d :: rest)).map Int.ofNat
  | [] => none

/-- Digits with an optional point and an optional exponent. -/
def readFinite? (negative : Bool) (s : Text) : Option Decimal := do
  let (mantissa, exponent) ← match (Text.cutAt? 'e' s) with
    | none => pure (s, 0)
    | some (m, e) => (readExponent? e).map (m, ·)
  let (whole, places) := (Text.cutAt? '.' mantissa).getD (mantissa, [])
  if whole.isEmpty && places.isEmpty then none
  let coefficient ← digitRun? (whole ++ places)
  return .finite negative coefficient (exponent - places.length)

/-- The number that a text without sign, in small letters, stands for. -/
def readMagnitude? (negative : Bool) : Text → Option Decimal
  | ['i', 'n', 'f'] | ['i', 'n', 'f', 'i', 'n', 'i', 't', 'y'] => some (.infinite negative)
  | 'n' :: 'a' :: 'n' :: payload => (digitRun? payload).map (.nan negative false)
  | 's' :: 'n' :: 'a' :: 'n' :: payload => (digitRun? payload).map (.nan negative true)
  | s => readFinite? negative s

/-- The greatest power of ten that a first digit may be worth. -/
def maxMagnitude : Int := 999999999999999999

/-- The least exponent that a number may have. -/
def minExponent : Int := -1999999999999999997

/-- The number lies within the range of decimal numbers. -/
def isInRange : Decimal → Bool
  | .finite _ coefficient exponent =>
    minExponent ≤ exponent && exponent + (Text.ofNat coefficient).length ≤ maxMagnitude + 1
  | _ => true

/-- A character in plain form: digits as ASCII digits; other characters have to be ASCII. -/
def plainChar? (c : Char) : Option Char :=
  if c.toNat < 128 then some c else (Text.digitValue? c).map Nat.digitChar

/-- A text in plain form and small letters, without the blanks around it and without
underscores. -/
def plain? (s : Text) : Option Text :=
  (((Text.strip s).filter (· != '_')).mapM plainChar?).map (·.map Char.toLower)

/-- The number that a text stands for, in letters of any case. -/
def read? (s : Text) : Option Decimal := do
  let d ← match ← plain? s with
    | '-' :: rest => readMagnitude? true rest
    | '+' :: rest => readMagnitude? false rest
    | rest => readMagnitude? false rest
  if d.isInRange then some d else none

end Decimal

end SqlGateway
