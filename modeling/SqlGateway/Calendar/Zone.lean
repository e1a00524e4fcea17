import SqlGateway.Fault
import SqlGateway.Text.Character
import SqlGateway.Text.Quoted

/-!
# Time zones

A zone is the host's own or a fixed offset from UTC. `Zone.read` reads one from text: nothing or
`Z` for UTC, `local` for the host's zone, or a sign, two digits for the hours and, if wanted, two
digits for the minutes, with or without a colon.
-/

namespace SqlGateway

/-- The host's zone, or a clock a fixed number of seconds east of UTC. -/
inductive Zone where
  | host
  | fixed (offset : Int)
  deriving DecidableEq, Repr

namespace Zone

/-- UTC itself. -/
def utc : Zone := .fixed 0

/-- The seconds east of UTC. The host's clock shows UTC. -/
def offset : Zone → Int
  | .host => 0
  | .fixed offset => offset

/-- The number of two digits. -/
def twoDigits? (a b : Char) : Option Nat := do
  return 10 * (← Text.digitValue? a) + (← Text.digitValue? b)

/-- The minutes after the hours: none or two digits, and a line break at the end is ignored. -/
def minutes? : Text → Option Nat
  | [] | ['\n'] => some 0
  | [a, b] | [a, b, '\n'] => twoDigits? a b
  | _ => none

/-- The part after the hours, without the colon that may come first. -/
def afterColon : Text → Text
  | ':' :: rest => rest
  | rest => rest

/-- The offset in seconds that a sign, hours and minutes stand for; a space counts as plus. -/
def offset? : Text → Option Int
  | sign :: a :: b :: rest => do
    if sign = '+' || sign = '-' || sign = ' ' then
      let hours ← twoDigits? a b
      let minutes ← minutes? (afterColon rest)
      let seconds : Int := 3600 * hours + 60 * minutes
      return if sign = '-' then -seconds else seconds
    else none
  | _ => none

/-- The zone that a text names. An offset of a day or more is refused by itself. -/
def read (s : Text) : Except Fault Zone :=
  if s = [] || s = ['Z'] then .ok .utc
  else if s = "local".toList then .ok .host
  else
    match offset? s with
    | none => .error (.unknownZone s.display)
    | some seconds =>
      if -86400 < seconds ∧ seconds < 86400 then .ok (.fixed seconds) else .error .offsetTooLarge

end Zone

end SqlGateway
