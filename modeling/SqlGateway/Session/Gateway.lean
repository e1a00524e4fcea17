import SqlGateway.Session.Action
import SqlGateway.Session.Patience

/-!
# Gateways to the server

The four things that a gateway does with connections: lease one, give it back, run a statement on
it, and close down. The gateway of the server keeps a pool, which the first lease opens; a
connection that outlives the pool is closed instead of being given back.
-/

namespace SqlGateway

namespace Gateway

/-- The opening of a pool ended in an error. Running out of time has a message of its own, and a
cancellation is handed on. -/
def openFault (settings : Settings) (signal : Signal) : Fault :=
  match signal.kind with
  | .cancelled => .signalled signal
  | .timeout => .openTimedOut settings.connectTimeout.inSentence
  | kind => .openFailed kind signal.message

/-- The line of the log for a pool that has been opened. -/
def openedLine (settings : Settings) : Text :=
  "MySQL pool opened: ".toList ++ settings.host.plain ++ ':' :: settings.port.plain ++
    '/' :: settings.database.plain ++ " (max ".toList ++
    ((settings.pool.integer?.map Text.ofInt).getD []) ++ [')']

/-- Opens a pool of the server. The opening has turns of its own: one to begin with, in which the
server is asked and the script decides, and two to be heard of. No pool is held before the last. -/
def openPool : Action Unit := do
  let s ← Action.session
  match Patience.ofValue s.settings.connectTimeout with
  | .fails cause detail => Action.fail (.openFailed cause detail)
  | .expired =>
    Action.giveWay
    Action.giveWay
    Action.giveWay
    Action.fail (.openTimedOut s.settings.connectTimeout.inSentence)
  | .waits =>
    Action.giveWay
    let asked ← Action.session
    Action.emit (.createPool s.settings)
    Action.giveWay
    Action.giveWay
    match asked.script.createError with
    | some signal => Action.fail (openFault s.settings signal)
    | none =>
      Action.modify fun s => { s with holdsPool := true }
      Action.log (openedLine s.settings)

/-- Opens a pool unless one is held. -/
def openPoolIfNone : Action Unit := do
  let s ← Action.session
  if s.holdsPool then pure () else openPool

/-- Makes sure that a pool of the server is held; a supplied gateway needs none. Of several actions
that find no pool one opens it, while the others wait and then look again. -/
def ensurePool : Action Unit := do
  let s ← Action.session
  match s.backend with
  | .supplied => pure ()
  | .server => if s.holdsPool then pure () else openPoolIfNone.exclusively

/-- Leases a connection and gives its number. -/
def acquire : Action Nat := do
  ensurePool
  let s ← Action.session
  Action.signal s.script.acquireError
  let connection := s.leased + 1
  Action.modify fun s => { s with leased := connection }
  Action.emit (.acquire connection)
  return connection

/-- Gives a connection back. A pool that takes it back tells those who wait for one, in a turn of
its own, and is waited for. -/
def release (connection : Nat) : Action Unit := do
  let s ← Action.session
  match s.backend with
  | .supplied =>
    Action.emit (.release connection)
    Action.signal s.script.releaseError
  | .server =>
    if s.holdsPool then
      Action.emit (.release connection)
      Action.signal s.script.releaseError
      Action.giveWay
      Action.emit .wakeUp
      Action.giveWay
    else Action.emit (.closeConnection connection)

/-- What the script has a statement end with. -/
def answer (script : Script) (sql : Text) : QueryResult :=
  if script.givesRows sql then .rows script.rows else .summary script.rowCount script.lastRowId

/-- Runs a statement through a cursor, which is closed however the statement ends. -/
def executeOnServer (connection : Nat) (sql : Text) (parameters : Value) : Action QueryResult := do
  let s ← Action.session
  let body : Action QueryResult := do
    Action.emit (.execute connection sql parameters)
    Action.signal s.script.executeError
    if s.script.givesRows sql then Action.emit (.fetchAll connection)
    return answer s.script sql
  body.ensure (Action.emit (.closeCursor connection))

/-- Runs a statement on a leased connection. -/
def execute (connection : Nat) (sql : Text) (parameters : Value) : Action QueryResult := do
  let s ← Action.session
  match s.backend with
  | .supplied =>
    Action.emit (.execute connection sql parameters)
    Action.signal s.script.executeError
    return answer s.script sql
  | .server => executeOnServer connection sql parameters

/-- Closes down. A pool is let go only when all its connections have been closed. -/
def shutdown : Action Unit := do
  let s ← Action.session
  match s.backend with
  | .supplied =>
    Action.emit .shutdown
    Action.signal s.script.shutdownError
  | .server =>
    if s.holdsPool then
      Action.emit .closePool
      Action.emit .waitClosed
      Action.signal s.script.shutdownError
      Action.modify fun s => { s with holdsPool := false }
      Action.log "MySQL pool closed".toList

end Gateway

end SqlGateway
