import SqlGateway.Number.Exact
import SqlGateway.Value.Basic

/-!
# Equality of values

Two values are equal when they stand for the same thing: numbers by magnitude, with false and true
as 0 and 1; sequences of bytes of all kinds by their bytes; sets of both kinds by their elements;
mappings without regard to order; aware moments as instants; condition trees part by part. Lists
and tuples differ, and so do objects known only by their texts.

A decimal number can be one that signals as soon as it is compared with another number. Values are
compared from left to right up to the first difference, so what comes after a difference never
signals. `Value.agreement` tells how a comparison ends; `Value.equal` is equality alone.
-/

namespace SqlGateway

/-- How a comparison ends. -/
inductive Agreement where
  | same
  | different
  /-- A number that signals was compared with a number. -/
  | signals
  deriving DecidableEq, Repr

namespace Agreement

/-- Same or different, by a test. -/
def ofBool (b : Bool) : Agreement := if b then .same else .different

/-- The first comparison, and the second if the first found no difference. -/
def andThen : Agreement → Agreement → Agreement
  | .same, second => second
  | first, _ => first

@[simp] theorem same_andThen (second : Agreement) : same.andThen second = second := rfl

@[simp] theorem different_andThen (second : Agreement) : different.andThen second = different := rfl

@[simp] theorem signals_andThen (second : Agreement) : signals.andThen second = signals := rfl

end Agreement

/-- What a number amounts to; `none` if it is undefined. -/
def Number.magnitude? : Number → Option Magnitude
  | .integer n => some (.ofInt n)
  | .binary x => Magnitude.ofBinary64? x
  | .decimal d => Magnitude.ofDecimal? d

/-- Two spans are equal if they list the same integers. -/
def Span.equal (s t : Span) : Bool :=
  s.size = t.size &&
    (s.size = 0 || s.start = t.start && (s.size = 1 || s.step = t.step))

/-- Lists and tuples are told apart, the two kinds of sets are not. -/
def GroupKind.comparable : GroupKind → GroupKind → Bool
  | .list, .list | .tuple, .tuple => true
  | .set, .set | .set, .frozenSet | .frozenSet, .set | .frozenSet, .frozenSet => true
  | _, _ => false

namespace Value

/-- What a number or a truth value amounts to. -/
def magnitude? : Value → Option Magnitude
  | .bool b => some (.ofInt (if b then 1 else 0))
  | .number n _ => n.magnitude?
  | _ => none

/-- Both amount to the same number. -/
def sameMagnitude (v w : Value) : Bool :=
  match v.magnitude?, w.magnitude? with
  | some m, some n => m = n
  | _, _ => false

/-- A number or a truth value. -/
def isNumeric : Value → Bool
  | .bool _ | .number .. => true
  | _ => false

/-- A number that signals when it is compared with a number. -/
def isSignalling : Value → Bool
  | .number (.decimal (.nan _ signalling _)) _ => signalling
  | _ => false

/-- How a number or a truth value compares with another value. -/
def numericAgreement (v w : Value) : Agreement :=
  if !w.isNumeric then .different
  else if v.isSignalling || w.isSignalling then .signals
  else .ofBool (v.sameMagnitude w)

end Value

mutual

/-- How the comparison of two values ends. Lists of different lengths differ whatever they hold;
tuples are compared as far as both go. -/
def Value.agreement : Value → Value → Agreement
  | .null, w => match w with
    | .null => .same
    | _ => .different
  | .bool b, w => (Value.bool b).numericAgreement w
  | .number n label, w => (Value.number n label).numericAgreement w
  | .text s, w => match w with
    | .text t => .ofBool (s = t)
    | _ => .different
  | .date d, w => match w with
    | .date e => .ofBool (d = e)
    | _ => .different
  | .moment m, w => match w with
    | .moment n => .ofBool (m.equal n)
    | _ => .different
  | .blob _ bytes, w => match w with
    | .blob _ others => .ofBool (bytes = others)
    | _ => .different
  | .group kind items, w => match w with
    | .group other others =>
      if kind.comparable other && (kind = .tuple || items.length = others.length) then
        agreementOfItems items others
      else .different
    | _ => .different
  | .span s, w => match w with
    | .span t => .ofBool (s.equal t)
    | _ => .different
  | .mapping entries, w => match w with
    | .mapping others =>
      if entries.length = others.length then agreementOfEntries entries others else .different
    | _ => .different
  | .foreign .., _ => .different
  | .node c, w => match w with
    | .node d => c.agreement d
    | _ => .different
termination_by structural v => v

/-- How the comparison of two conditions ends. They have to be of the same form; their parts are
compared in the order in which they are written. -/
def Condition.agreement : Condition → Condition → Agreement
  | .raw a, .raw b | .fragment a, .fragment b | .negation a, .negation b
  | .matching a, .matching b => a.agreement b
  | .all items, .all others | .any items, .any others => agreementOfItems items others
  | .equality f v, .equality g w => (f.agreement g).andThen (v.agreement w)
  | .comparison f o v, .comparison g p w =>
    ((f.agreement g).andThen (o.agreement p)).andThen (v.agreement w)
  | _, _ => .different
termination_by structural c => c

/-- How the comparison of elements at equal positions ends. -/
def agreementOfItems : List Value → List Value → Agreement
  | [], [] => .same
  | v :: rest, w :: others => (v.agreement w).andThen (agreementOfItems rest others)
  | _, _ => .different
termination_by structural vs => vs

/-- How the comparison of every entry with the one of the same key ends. -/
def agreementOfEntries : List (Value × Value) → List (Value × Value) → Agreement
  | [], _ => .same
  | (k, v) :: rest, others =>
    match others.find? fun (l, _) => k.agreement l = .same with
    | some (_, w) => (v.agreement w).andThen (agreementOfEntries rest others)
    | none => .different
termination_by structural es => es

end

/-- The two values are equal. -/
def Value.equal (v w : Value) : Bool := v.agreement w = .same

/-- The two conditions are equal. -/
def Condition.equal (c d : Condition) : Bool := c.agreement d = .same

end SqlGateway
