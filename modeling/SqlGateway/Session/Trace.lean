import SqlGateway.Settings.Basic

/-!
# Traces

A trace is what a run leaves behind: the events that the server saw, in order, and the lines of
the log. The trace of two runs in a row is the one followed by the other, so what a run has added
to a trace is what follows the trace before it.
-/

namespace SqlGateway

/-- What is asked of the server. Connections are numbered in the order of their leases. -/
inductive Event where
  /-- A pool is opened with the given settings. -/
  | createPool (settings : Settings)
  | acquire (connection : Nat)
  | execute (connection : Nat) (sql : Text) (parameters : Value)
  /-- The rows of a statement are fetched. -/
  | fetchAll (connection : Nat)
  | closeCursor (connection : Nat)
  /-- A connection goes back to the pool. -/
  | release (connection : Nat)
  /-- The pool has told those who wait that a connection is free. -/
  | wakeUp
  /-- A connection is closed, because its pool is gone. -/
  | closeConnection (connection : Nat)
  | closePool
  /-- The pool waits until all its connections are closed. -/
  | waitClosed
  /-- A gateway that the caller supplied is told to close. -/
  | shutdown

/-- The events and the lines of the log. -/
structure Trace where
  events : List Event := []
  log : List Text := []

namespace Trace

/-- One trace after the other. -/
def append (t u : Trace) : Trace := ⟨t.events ++ u.events, t.log ++ u.log⟩

instance : Append Trace := ⟨append⟩

@[simp] theorem events_append (t u : Trace) : (t ++ u).events = t.events ++ u.events := rfl

@[simp] theorem log_append (t u : Trace) : (t ++ u).log = t.log ++ u.log := rfl

/-- What a trace has gained since it was the earlier one. -/
def since (t earlier : Trace) : Trace :=
  ⟨t.events.drop earlier.events.length, t.log.drop earlier.log.length⟩

@[simp] theorem append_since (t u : Trace) : (t ++ u).since t = u := by
  simp [since]

end Trace

end SqlGateway
