import SqlGateway.Number.Numeral
import SqlGateway.Settings.Basic
import SqlGateway.Url.Parts

/-!
# Settings from a URL or the environment

Settings can be read from one URL or from the environment. Numbers are given as text
there, and a text that is no number is refused under the name of its setting.
-/

namespace SqlGateway.Settings

/-- An integer setting that is given as text. -/
def readInt (name : SettingName) (s : Text) : Except Fault Value :=
  match Numeral.readInt? s with
  | some n => .ok (.number (.integer n) none)
  | none => .error (.badSetting name)

/-- A number of seconds that is given as text. -/
def readSeconds (s : Text) : Except Fault Value :=
  match Numeral.readBinary64? s with
  | some x => .ok (.number (.binary x) none)
  | none => .error (.badSetting .connectTimeout)

/-- A setting that keeps its default unless a text is given for it. -/
def readOr (default : Value) (read : Text → Except Fault Value) : Option Text → Except Fault Value
  | none => .ok default
  | some s => read s

/-- The settings that a connection URL stands for. Scheme and server have to be there. -/
def ofUrl (url : Text) : Except Fault Settings := do
  let u ← Url.split url
  if u.scheme.isEmpty || u.authority.isEmpty then .error (.badUrl url)
  let port? ← u.port?
  let parameters := u.parameters
  let (user, password) := u.credentials
  let base : Settings := {}
  let pool ← readOr base.pool (readInt .pool) (Url.last? "pool" parameters)
  let timezone ← readOr base.timezone (.ok ∘ .text) (Url.last? "timezone" parameters)
  let charset ← readOr base.charset (.ok ∘ .text) (Url.last? "charset" parameters)
  let connectTimeout ←
    readOr base.connectTimeout readSeconds (Url.last? "connect_timeout" parameters)
  return { base with
    driver := .text u.scheme
    host := .text u.host
    port := match port? with
      | some n => .number (.integer n) none
      | none => base.port
    database := .text (Url.Percent.decode (u.path.dropWhile (· = '/')))
    user := .text (Url.Percent.decode user)
    password := .text (Url.Percent.decode password)
    pool := pool
    timezone := timezone
    charset := charset
    connectTimeout := connectTimeout }

/-- The value of the variable whose name is made of the stem and the given ending. -/
def lookup? (stem : Text) (ending : String) (environment : List (Text × Text)) : Option Text :=
  (environment.find? fun p => p.1 = stem ++ ending.toList).map (·.2)

/-- The settings that the environment holds in variables whose names share a stem. -/
def ofEnvironment (stem : Text) (environment : List (Text × Text)) : Except Fault Settings := do
  let base : Settings := {}
  let textOr (default : Value) (ending : String) : Value :=
    ((lookup? stem ending environment).map Value.text).getD default
  let port ← readOr base.port (readInt .port) (lookup? stem "PORT" environment)
  let pool ← readOr base.pool (readInt .pool) (lookup? stem "POOL" environment)
  return { base with
    host := textOr base.host "HOST"
    port := port
    database := textOr base.database "DATABASE"
    user := textOr base.user "USER"
    password := textOr base.password "PASSWORD"
    pool := pool
    timezone := textOr base.timezone "TIMEZONE" }

end SqlGateway.Settings
