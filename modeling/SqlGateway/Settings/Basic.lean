import SqlGateway.Text.Lower
import SqlGateway.Value.Display

/-!
# Settings

The settings of a pool of connections. A setting can be given any value; `Settings.validate` finds
the first one that will not do.
-/

namespace SqlGateway

/-- The settings of a pool. -/
structure Settings where
  host : Value := .text []
  port : Value := .number (.integer 3306) none
  database : Value := .text []
  user : Value := .text []
  password : Value := .text []
  pool : Value := .number (.integer 10) none
  timezone : Value := .text ['Z']
  connectTimeout : Value := .number (.binary (.ofDecimal false 10 0)) none
  charset : Value := .text "utf8mb4".toList
  driver : Value := .text "mysql".toList

namespace Settings

/-- Settings with one of them changed; a name that belongs to none of them is refused. -/
def put (s : Settings) (name : Text) (v : Value) : Except Fault Settings :=
  match String.ofList name with
  | "host" => .ok { s with host := v }
  | "port" => .ok { s with port := v }
  | "database" => .ok { s with database := v }
  | "user" => .ok { s with user := v }
  | "password" => .ok { s with password := v }
  | "pool" => .ok { s with pool := v }
  | "timezone" => .ok { s with timezone := v }
  | "connect_timeout" => .ok { s with connectTimeout := v }
  | "charset" => .ok { s with charset := v }
  | "driver" => .ok { s with driver := v }
  | _ => .error .wrongType

/-- Settings with several of them changed. -/
def putAll (s : Settings) : List (Text × Value) → Except Fault Settings
  | [] => .ok s
  | (name, v) :: rest => do (← s.put name v).putAll rest

/-- The settings in alphabetical order of their names. -/
def toList (s : Settings) : List (String × Value) :=
  [("charset", s.charset), ("connect_timeout", s.connectTimeout), ("database", s.database),
    ("driver", s.driver), ("host", s.host), ("password", s.password), ("pool", s.pool),
    ("port", s.port), ("timezone", s.timezone), ("user", s.user)]

/-- A number of things there have to be: an integer above zero. -/
def isCount (v : Value) : Bool :=
  match v.integer? with
  | some n => n > 0
  | none => false

/-- The fault of a zone as the fault of the setting. -/
def zoneFault : Fault → Fault
  | .unknownZone shown => .badZoneSetting shown
  | f => f

/-- The settings themselves if they will do: a host, a database and a user are given, port and
pool size are counts, and the zone is one. -/
def validate (s : Settings) : Except Fault Settings :=
  if !s.host.isTruthy then .error (.badSetting .host)
  else if !isCount s.port then .error (.badSetting .port)
  else if !s.database.isTruthy then .error (.badSetting .database)
  else if !s.user.isTruthy then .error (.badSetting .user)
  else if !isCount s.pool then .error (.badSetting .pool)
  else
    match Zone.ofValue s.timezone with
    | .ok _ => .ok s
    | .error f => .error (zoneFault f)

/-- The zone that dates are rendered in. -/
def zone (s : Settings) : ZoneChoice := Zone.ofValue s.timezone

/-! ## The driver

The driver setting chooses how connections are made. Both names that are known, in letters of any
case, stand for the same driver.
-/

/-- The names of the driver. -/
def driverNames : List Text := ["mariadb".toList, "mysql".toList]

/-- The driver setting names the driver. A value that counts as false names none; one that is not
text cannot be looked up, apart from bytes, which no name equals. -/
def checkDriver (v : Value) : Except Fault Unit :=
  let unknown := .error (.unknownDriver v.inSentence)
  if !v.isTruthy then unknown
  else
    match v with
    | .text s => if driverNames.contains (Text.lower s) then .ok () else unknown
    | .blob .fixed _ => unknown
    | .blob .growable _ => .error .wrongType
    | _ => .error .notSupported

end Settings

end SqlGateway
