import SqlGateway.Session.Script
import SqlGateway.Session.Trace

/-!
# Steps of a session

A session is driven by steps. Each has an answer: its reply or its fault, with the trace that was
left while it lasted. Steps can be nested: those inside the lease of a connection are carried out
one after the other while the connection is held, and their faults end in their own answers; those
that are started together take turns.
-/

namespace SqlGateway

/-- A step. -/
inductive Step where
  /-- Changes the script of the server. -/
  | change (changes : List ScriptChange)
  | query (sql : Text) (parameters : Value)
  | insert (table rows missing : Value)
  | update (table condition data tail : Value)
  | delete (table condition tail : Value)
  | select (table fields condition tail : Value)
  | selectOne (table fields condition tail : Value)
  | literal (v : Value)
  | timestamp (now : Value)
  | shutdown
  /-- Leases a connection for some steps, and may end the lease with an error. -/
  | withConnection (steps : List Step) (raised : Option Signal)
  | acquire
  | release (connection : Nat)
  | execute (connection : Nat) (sql : Text) (parameters : Value)
  /-- Starts several steps together. -/
  | together (steps : List Step)
  /-- A step that cannot be begun, because one of its values cannot be built. -/
  | faulty (f : Fault)

/-- A change of the script leaves nothing to be seen. -/
def Step.isSilent : Step → Bool
  | .change _ => true
  | _ => false

/-- What a statement ends with: rows, or the number of rows it touched and the key of the row it
inserted. -/
inductive QueryResult where
  | rows (rows : List Value)
  | summary (affectedRows insertId : Value)

mutual

/-- What a step answers if it has no fault. -/
inductive Reply where
  | nothing
  | result (r : QueryResult)
  | row (v : Value)
  | text (s : Text)
  | number (n : Int)
  | connection (n : Nat)
  | block (connection : Nat) (answers : List Answer)
  /-- The outcomes of steps that were started together. -/
  | gathered (outcomes : List (Except Fault Reply))

/-- The answer of a step: its outcome with its trace, or nothing to be seen. -/
inductive Answer where
  | silent
  | seen (outcome : Except Fault Reply) (trace : Trace)

end

/-- A reply that may be missing. -/
def Reply.ofOption : Option Value → Reply
  | none => .nothing
  | some v => .row v

/-- What a step ends with. -/
abbrev Outcome := Except Fault Reply

/-- A fault as it is collected from a step that was started together with others: a cancellation
has lost its text. -/
def Fault.collected : Fault → Fault
  | .signalled ⟨.cancelled, _⟩ => .signalled ⟨.cancelled, []⟩
  | f => f

/-- The answer of a step that ended with the given outcome and trace. -/
def Step.answer (step : Step) (ended : Outcome × Trace) : Answer :=
  if step.isSilent then .silent else .seen ended.1 ended.2

end SqlGateway
