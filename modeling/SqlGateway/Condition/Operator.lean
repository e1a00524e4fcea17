import SqlGateway.Text.Character
import SqlGateway.Value.Display

/-!
# Comparison operators

The operators that a comparison may use. In a condition an operator is spelled in letters of any
case and with any blanks between its words.
-/

namespace SqlGateway

/-- A comparison operator; a flag tells the negated form from the plain one. -/
inductive Operator where
  | equal
  | notEqual
  | unequal
  | less
  | greater
  | atMost
  | atLeast
  | nullSafeEqual
  | like (negated : Bool)
  | member (negated : Bool)
  | identical (negated : Bool)
  | between (negated : Bool)
  | matching (negated : Bool)
  | rlike
  deriving DecidableEq, Repr

namespace Operator

/-- Every operator. -/
def all : List Operator :=
  [equal, notEqual, unequal, less, greater, atMost, atLeast, nullSafeEqual, like false, like true,
    member false, member true, identical false, identical true, between false, between true,
    matching false, matching true, rlike]

theorem mem_all (o : Operator) : o ∈ all := by
  cases o with
  | like n | member n | identical n | between n | matching n => cases n <;> decide
  | _ => decide

/-- How an operator is written. -/
def text : Operator → Text
  | equal => "=".toList
  | notEqual => "!=".toList
  | unequal => "<>".toList
  | less => "<".toList
  | greater => ">".toList
  | atMost => "<=".toList
  | atLeast => ">=".toList
  | nullSafeEqual => "<=>".toList
  | like false => "LIKE".toList
  | like true => "NOT LIKE".toList
  | member false => "IN".toList
  | member true => "NOT IN".toList
  | identical false => "IS".toList
  | identical true => "IS NOT".toList
  | between false => "BETWEEN".toList
  | between true => "NOT BETWEEN".toList
  | matching false => "REGEXP".toList
  | matching true => "NOT REGEXP".toList
  | rlike => "RLIKE".toList

/-- The capital of a letter as far as it is one of A to Z: the small letters, the i without a dot
and the long s. Operators have no other letters, so those may stay as they are. -/
def capital (c : Char) : Char :=
  if c = Char.ofNat 0x131 then 'I' else if c = Char.ofNat 0x17F then 'S' else c.toUpper

/-- A spelling in capitals, with one space between its words and none around them. -/
def normalize (s : Text) : Text := ([' '].intercalate (Text.words s)).map capital

/-- The operator with the given spelling. -/
def read? (s : Text) : Option Operator := all.find? fun o => o.text = normalize s

/-- An operator is read as it is written. -/
theorem read?_text (o : Operator) : read? o.text = some o := by
  have hall : ∀ o ∈ all, read? o.text = some o := by decide +kernel
  exact hall o (mem_all o)

/-- The operator that a value spells. -/
def ofValue? (v : Value) : Option Operator := read? v.plain

end Operator

end SqlGateway
