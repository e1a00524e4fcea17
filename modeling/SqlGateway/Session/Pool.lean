import SqlGateway.Session.Gateway
import SqlGateway.Settings.Basic
import SqlGateway.Statement.Basic
import SqlGateway.Statement.Insert

/-!
# Pools

A pool leases one connection for each statement and gives it back however the statement ends. The
text of a statement is complete before a connection is leased, so a value that cannot be rendered
costs no lease.
-/

namespace SqlGateway

/-- A session that has just begun. -/
def Session.start (settings : Settings) (backend : Backend) : Except Fault Session := do
  let settings ← settings.validate
  match backend with
  | .supplied => pure ()
  | .server => Settings.checkDriver settings.driver
  return { settings, backend }

/-- The first line of the log of a session. -/
def Session.startLine (s : Session) : Text :=
  "Create MySQLPool: pool=".toList ++ ((s.settings.pool.integer?.map Text.ofInt).getD []) ++
    ", host=".toList ++ s.settings.host.plain ++ ':' :: s.settings.port.plain

namespace Pool

/-- A lease that failed. A cancellation is handed on, any other fault becomes the cause. -/
def leaseFault (f : Fault) : Fault :=
  if f.kind = .cancelled then f else .leaseRefused f.kind f.message

/-- Something done with a leased connection, which is given back in any case. -/
def withConnection {α : Type} (body : Nat → Action α) : Action α := do
  let connection ← Gateway.acquire.mapFault leaseFault
  (body connection).ensure (Gateway.release connection)

/-- Runs one statement on a connection of its own. -/
def query (sql : Text) (parameters : Value) : Action QueryResult :=
  withConnection fun connection => do
    Action.log ("Query: ".toList ++ sql)
    Gateway.execute connection sql parameters

/-- Runs a statement that is built for the zone of the session. -/
def queryBuilt (build : ZoneChoice → Except Fault Text) : Action QueryResult := do
  let s ← Action.session
  let sql ← Action.ofExcept (build s.settings.zone)
  query sql .null

/-- Inserts rows. -/
def insert (table rows missing : Value) : Action QueryResult :=
  queryBuilt fun zone => Statement.insert zone table rows missing

/-- Assigns to columns of the rows that meet a condition. -/
def update (table condition data tail : Value) : Action QueryResult :=
  queryBuilt fun zone => Statement.update zone table condition data tail

/-- Deletes the rows that meet a condition. -/
def delete (table condition tail : Value) : Action QueryResult :=
  queryBuilt fun zone => Statement.delete zone table condition tail

/-- Selects from the rows that meet a condition. -/
def select (table fields condition tail : Value) : Action QueryResult :=
  queryBuilt fun zone => Statement.select zone table fields condition tail

/-- The first of the rows, if there are any; a result without rows has no first one. -/
def firstRow : QueryResult → Except Fault (Option Value)
  | .rows rows => .ok rows.head?
  | .summary .. => .error .wrongType

/-- Selects one row. -/
def selectOne (table fields condition tail : Value) : Action (Option Value) := do
  let result ← queryBuilt fun zone => Statement.selectOne zone table fields condition tail
  Action.ofExcept (firstRow result)

/-- The literal of a value in the zone of the session. -/
def literal (v : Value) : Action Text := do
  let s ← Action.session
  Action.ofExcept (Sql.Literal.ofValue s.settings.zone false v)

end Pool

end SqlGateway
