import SqlGateway.Text.Basic
import SqlGateway.Url.Percent

/-!
# Addresses in brackets

What may stand between the brackets of a host: an address of version 6, written as groups of four
hexadecimal digits with at most one gap, or an address of a version still to come.
-/

namespace SqlGateway.Url.Address

/-- A digit of base 16 in either case. -/
def isHexDigit (c : Char) : Bool := (Percent.hexValue? c).isSome

/-- A group of an address: one to four hexadecimal digits. -/
def isGroup (s : Text) : Bool := !s.isEmpty && s.length ≤ 4 && s.all isHexDigit

/-- A byte in decimal digits, without zeros in front. -/
def isOctet (s : Text) : Bool :=
  s = ['0'] ||
    (!s.isEmpty && s.all Char.isDigit && s.head? != some '0' && s.length ≤ 3 &&
      s.foldl (fun n c => 10 * n + (c.toNat - 48)) 0 ≤ 255)

/-- Four bytes with dots between them. -/
def isDottedQuad (s : Text) : Bool :=
  let octets := s.splitOn '.'
  octets.length = 4 && octets.all isOctet

/-- For how many groups the parts between colons stand; `none` if one of them is no group. Where
the address ends, four bytes with dots may stand for two groups. -/
def countParts? (atEnd : Bool) : List Text → Option Nat
  | [] => some 0
  | [last] =>
    if isGroup last then some 1
    else if atEnd && isDottedQuad last then some 2
    else none
  | part :: rest => if isGroup part then (countParts? atEnd rest).map (· + 1) else none

/-- How many groups a run of them has, which may be empty. -/
def countGroups? (atEnd : Bool) (s : Text) : Option Nat :=
  if s.isEmpty then some 0 else countParts? atEnd (s.splitOn ':')

/-- What stands before and after the first two colons in a row. -/
def cutAtGap? : Text → Option (Text × Text)
  | [] => none
  | ':' :: ':' :: rest => some ([], rest)
  | c :: rest => (cutAtGap? rest).map fun (before, after) => (c :: before, after)

/-- Eight groups. A gap stands for one group of zeros or more. -/
def isGroups (s : Text) : Bool :=
  match cutAtGap? s with
  | none => countGroups? true s = some 8
  | some (before, after) =>
    match countGroups? false before, countGroups? true after with
    | some m, some n => m + n ≤ 7
    | _, _ => false

/-- An address of version 6. After a percent sign the zone that it belongs to may be named. -/
def isVersion6 (s : Text) : Bool :=
  match Text.cutAt? '%' s with
  | none => isGroups s
  | some (groups, zone) => isGroups groups && !zone.isEmpty && !zone.contains '%'

/-- A version in hexadecimal digits, a point and an address, of which nothing more is known. -/
def isVersioned (s : Text) : Bool :=
  match Text.cutAt? '.' s with
  | none => false
  | some (version, address) => !version.isEmpty && version.all isHexDigit && !address.isEmpty

/-- An address that may stand in brackets. A small `v` announces a version. -/
def isLiteral : Text → Bool
  | 'v' :: rest => isVersioned rest
  | s => isVersion6 s

end SqlGateway.Url.Address
