import SqlGateway.Condition.Operator
import SqlGateway.Fault

/-!
# Scripted servers

What a server answers is laid down by a script: the rows of a query, the figures of a statement
without rows, and the errors that opening a pool, leasing, running, giving back and closing end
in. An error stays in force until the script is changed.
-/

namespace SqlGateway

/-- What the server will answer. -/
structure Script where
  rows : List Value := []
  rowCount : Value := .number (.integer 1) none
  lastRowId : Value := .number (.integer 0) none
  /-- Whether a statement has rows; `none` to tell by its text. -/
  hasRows : Option Bool := none
  createError : Option Signal := none
  acquireError : Option Signal := none
  executeError : Option Signal := none
  releaseError : Option Signal := none
  shutdownError : Option Signal := none

/-- A change of one entry of a script. -/
inductive ScriptChange where
  | rows (rows : List Value)
  | rowCount (v : Value)
  | lastRowId (v : Value)
  | hasRows (b : Option Bool)
  | createError (s : Option Signal)
  | acquireError (s : Option Signal)
  | executeError (s : Option Signal)
  | releaseError (s : Option Signal)
  | shutdownError (s : Option Signal)

namespace Script

/-- The script with one entry changed. -/
def change (script : Script) : ScriptChange → Script
  | .rows rows => { script with rows := rows }
  | .rowCount v => { script with rowCount := v }
  | .lastRowId v => { script with lastRowId := v }
  | .hasRows b => { script with hasRows := b }
  | .createError s => { script with createError := s }
  | .acquireError s => { script with acquireError := s }
  | .executeError s => { script with executeError := s }
  | .releaseError s => { script with releaseError := s }
  | .shutdownError s => { script with shutdownError := s }

/-- The capital that a character begins with when it is capitalised, as far as it is a letter of
SELECT. The t with two dots has no capital of its own and becomes a T with a mark after it. -/
def firstCapital (c : Char) : Char :=
  if c = Char.ofNat 0x1E97 then 'T' else Operator.capital c

/-- The statement has rows: by decree, or because its first letters are those of SELECT in either
case. -/
def givesRows (script : Script) (sql : Text) : Bool :=
  match script.hasRows with
  | some b => b
  | none => ((Text.stripLeft sql).map firstCapital).take 6 = "SELECT".toList

end Script

end SqlGateway
