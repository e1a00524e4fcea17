import SqlGateway.Fault
import SqlGateway.Value.Display

/-!
# Waiting for a pool to open

A pool may take one second longer to open than the setting for the time to connect. If that leaves
no time at all, the opening is given up before it begins; if the setting is no number of seconds,
it fails.
-/

namespace SqlGateway

/-- What a setting for the time to connect leads to. -/
inductive Patience where
  /-- There is time to wait. -/
  | waits
  /-- There is none. -/
  | expired
  /-- The setting is of no use, for the given reason. -/
  | fails (cause : FaultKind) (detail : Text)
  deriving DecidableEq, Repr

namespace Patience

/-- Two values that cannot be added, by the names of their types. -/
def cannotAdd (left right : String) : Patience :=
  .fails .type
    ("unsupported operand type(s) for +: '".toList ++ left.toList ++ "' and '".toList ++
      right.toList ++ ['\''])

/-- The integer is too large for a number of seconds. -/
def isTooLarge (n : Int) : Bool :=
  !(Binary64.ofDecimal (n < 0) n.natAbs 0).isFinite

/-- What a whole number of seconds, one second included, leads to. -/
def ofTotal (total : Int) : Patience :=
  if total ≤ 0 then .expired
  else if isTooLarge total then .fails .overflow "int too large to convert to float".toList
  else .waits

/-- The binary number is at most minus one. -/
def isAtMostMinusOne : Binary64 → Bool
  | .finite true significand (.ofNat k) => significand * 2 ^ k ≥ 1
  | .finite true significand (.negSucc k) => significand ≥ 2 ^ (k + 1)
  | .infinite true => true
  | _ => false

/-- The decimal number is at most minus one. -/
def isAtMostMinusOneDecimal : Decimal → Bool
  | .finite true coefficient (.ofNat _) => coefficient ≥ 1
  | .finite true coefficient (.negSucc k) =>
    (Text.ofNat coefficient).length > k + 1
  | .infinite true => true
  | _ => false

/-- How many digits a sum of decimal numbers keeps. -/
def precision : Nat := 28

/-- The greatest power of ten that the first digit of such a sum may be worth. -/
def maxMagnitude : Int := 999999

/-- A decimal number is so large that the sum with one second is out of range. A number that has
the greatest magnitude leaves the range if rounding carries it over, as it does from half a unit
on; a negative one has to lie below that, for the second takes it back. -/
def leavesRange : Decimal → Bool
  | .finite negative coefficient exponent =>
    let size := (Text.ofNat coefficient).length
    let magnitude := exponent + size - 1
    let middle := (2 * 10 ^ precision - 1) * 10 ^ (size - precision)
    coefficient != 0 &&
      (magnitude > maxMagnitude ||
        magnitude = maxMagnitude && size > precision &&
          (if negative then middle < 2 * coefficient else middle ≤ 2 * coefficient))
  | _ => false

/-- What a decimal number leads to. It can be given up on, but not waited for. -/
def ofDecimal (d : Decimal) : Patience :=
  match d with
  | .nan .. => .fails .invalidOperation "[<class 'decimal.InvalidOperation'>]".toList
  | d =>
    if leavesRange d then .fails .decimalOverflow "[<class 'decimal.Overflow'>]".toList
    else if isAtMostMinusOneDecimal d then .expired
    else cannotAdd "float" "decimal.Decimal"

/-- What the setting leads to. Only integers, truth values and binary numbers can be waited for. -/
def ofValue : Value → Patience
  | .bool b => ofTotal (if b then 2 else 1)
  | .number (.integer n) _ => ofTotal (n + 1)
  | .number (.binary x) _ => if isAtMostMinusOne x then .expired else .waits
  | .number (.decimal d) _ => ofDecimal d
  | .text _ => .fails .type "can only concatenate str (not \"int\") to str".toList
  | .group .list _ => .fails .type "can only concatenate list (not \"int\") to list".toList
  | .group .tuple _ => .fails .type "can only concatenate tuple (not \"int\") to tuple".toList
  | .blob .fixed _ => .fails .type "can't concat int to bytes".toList
  | .blob .growable _ => .fails .type "can't concat int to bytearray".toList
  | .date _ => cannotAdd "datetime.date" "int"
  | .moment _ => cannotAdd "datetime.datetime" "int"
  | v => cannotAdd (String.ofList v.typeName) "int"

end Patience

end SqlGateway
