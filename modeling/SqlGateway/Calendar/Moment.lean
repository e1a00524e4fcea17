import SqlGateway.Calendar.Date
import SqlGateway.Fault

/-!
# Moments

A moment is a reading of calendar and clock to the microsecond. It is aware if it carries the
distance of its clock from UTC, in seconds east; only an aware moment stands for an instant, and
only an aware one is moved into another zone.
-/

namespace SqlGateway

/-- A reading of calendar and clock, with the offset of the clock from UTC if that is known. -/
structure Moment where
  date : Date
  hour : Nat
  minute : Nat
  second : Nat
  microsecond : Nat
  offset : Option Int
  deriving DecidableEq, Repr

namespace Moment

/-- A reading that calendar and clock can show, less than a day from UTC. -/
def Valid (m : Moment) : Prop :=
  m.date.Valid ∧ m.hour < 24 ∧ m.minute < 60 ∧ m.second < 60 ∧ m.microsecond < 1000000 ∧
    ∀ seconds ∈ m.offset, -86400 < seconds ∧ seconds < 86400

instance (m : Moment) : Decidable m.Valid := by
  unfold Valid
  infer_instance

/-- The moment as it is, if calendar and clock can show it. -/
def checked (m : Moment) : Except Fault Moment :=
  if m.Valid then .ok m else .error .outOfRange

/-- The seconds that the reading lies after the start of day 0. -/
def wallSeconds (m : Moment) : Nat :=
  ((m.date.ordinal * 24 + m.hour) * 60 + m.minute) * 60 + m.second

/-- The microseconds from the start of day 0 in UTC to an aware moment. -/
def instant (m : Moment) (offset : Int) : Int :=
  ((m.wallSeconds : Int) - offset) * 1000000 + m.microsecond

/-- The reading that lies `seconds` after the start of day 0; outside the years 1 to 9999 there is
none. -/
def ofSeconds (seconds : Int) (microsecond : Nat) (offset : Option Int) :
    Except Fault Moment :=
  match seconds with
  | .negSucc _ => .error .outsideCalendar
  | .ofNat n =>
    let ordinal := n / 86400
    let rest := n % 86400
    if 1 ≤ ordinal ∧ ordinal ≤ Date.lastOrdinal then
      .ok ⟨Date.ofOrdinal ordinal, rest / 3600, rest / 60 % 60, rest % 60, microsecond, offset⟩
    else .error .outsideCalendar

/-- The same instant on a clock `target` seconds east of UTC; a moment that is not aware stays as
it is. The way leads over UTC, so both clocks have to show a year from 1 to 9999. -/
def inOffset (m : Moment) (target : Int) : Except Fault Moment :=
  match m.offset with
  | none => .ok m
  | some offset => do
    let utc ← ofSeconds (m.wallSeconds - offset) m.microsecond (some 0)
    ofSeconds (utc.wallSeconds + target) m.microsecond (some target)

/-- Two digits. -/
def twoDigits (n : Nat) : Text := Text.padZeros 2 (Text.ofNat n)

/-- Hour, minute and second with colons between them. -/
def clockText (m : Moment) : Text :=
  twoDigits m.hour ++ ':' :: twoDigits m.minute ++ ':' :: twoDigits m.second

/-- Date and clock with milliseconds, the rest of the microseconds cut off. -/
def text (m : Moment) : Text :=
  m.date.text ++ ' ' :: m.clockText ++ '.' :: Text.padZeros 3 (Text.ofNat (m.microsecond / 1000))

/-- An offset as hours and minutes with a sign, and seconds if there are any. -/
def offsetText (offset : Int) : Text :=
  let n := offset.natAbs
  (if offset < 0 then '-' else '+') :: twoDigits (n / 3600) ++ ':' :: twoDigits (n / 60 % 60) ++
    if n % 60 = 0 then [] else ':' :: twoDigits (n % 60)

/-- The full text of a moment: microseconds if there are any, and the offset if it is known. -/
def fullText (m : Moment) : Text :=
  m.date.text ++ ' ' :: m.clockText ++
    (if m.microsecond = 0 then [] else '.' :: Text.padZeros 6 (Text.ofNat m.microsecond)) ++
    match m.offset with
    | none => []
    | some offset => offsetText offset

/-- Two moments are equal if they show the same reading, or if both are aware and stand for the
same instant. -/
def equal (m n : Moment) : Bool :=
  match m.offset, n.offset with
  | none, none => m.wallSeconds = n.wallSeconds && m.microsecond = n.microsecond
  | some a, some b => m.instant a = n.instant b
  | _, _ => false

end Moment

end SqlGateway
