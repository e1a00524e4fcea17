import SqlGateway.Fault
import SqlGateway.Value.Equality

/-!
# Mappings and sets

Keys and elements of sets must be values that cannot change. A key that occurs again keeps its
first place and its first spelling and takes the last value.
-/

namespace SqlGateway

mutual

/-- The value cannot change, so it may be a key. -/
def Value.isFixed : Value → Bool
  | .number (.decimal (.nan _ signalling _)) _ => !signalling
  | .blob .growable _ => false
  | .group .list _ | .group .set _ => false
  | .group .tuple items => allFixed items
  | .mapping _ => false
  | .node c => c.isFixed
  | _ => true
termination_by structural v => v

/-- No part of the condition can change. -/
def Condition.isFixed : Condition → Bool
  | .raw v | .fragment v | .negation v | .matching v => v.isFixed
  | .all items | .any items => allFixed items
  | .equality f v => f.isFixed && v.isFixed
  | .comparison f o v => f.isFixed && o.isFixed && v.isFixed
termination_by structural c => c

/-- No element can change. -/
def allFixed : List Value → Bool
  | [] => true
  | v :: rest => v.isFixed && allFixed rest
termination_by structural vs => vs

end

namespace Value

/-- Entries with the key's value replaced, or with a new entry at the end. -/
def put (key value : Value) : List (Value × Value) → List (Value × Value)
  | [] => [(key, value)]
  | (k, v) :: rest => if k.equal key then (k, value) :: rest else (k, v) :: put key value rest

/-- The value of a key. -/
def find? (key : Value) : List (Value × Value) → Option Value
  | [] => none
  | (k, v) :: rest => if k.equal key then some v else find? key rest

/-- Entries with one more, whose key must be fixed. -/
def insert (entries : List (Value × Value)) (key value : Value) :
    Except Fault (List (Value × Value)) :=
  if key.isFixed then .ok (put key value entries) else .error .wrongType

/-- A set of elements, which must be fixed. Equal elements count once. -/
def insertElement (items : List Value) (item : Value) : Except Fault (List Value) :=
  if item.isFixed then .ok (if items.any (·.equal item) then items else items ++ [item])
  else .error .wrongType

end Value

end SqlGateway
