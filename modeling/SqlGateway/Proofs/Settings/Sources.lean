import SqlGateway.Proofs.Settings.Url
import SqlGateway.Proofs.Settings.Validation

/-!
# Settings from different sources

The same settings can be given one by one, in the environment or in a URL. What the environment
holds is what is given one by one (`ofEnvironment_given`), and so is what a URL holds as long as
the port is one that a URL can name (`ofUrl_given`). Ports have no upper limit anywhere else, so
above it the sources part (`sources_agree`).
-/

namespace SqlGateway.Settings

open Url (IsName WritesQuery)
open Url.Percent (Encodes)

/-- Settings that can be given in every way. -/
structure Given where
  host : Text
  port : Nat
  database : Text
  user : Text
  password : Text
  pool : Nat
  timezone : Text
  isName_host : IsName ['-', '.'] host
  port_pos : 0 < port
  pool_pos : 0 < pool
  port_length : (Text.ofNat port).length ≤ 4000
  pool_length : (Text.ofNat pool).length ≤ 4000
  timezone_ne : timezone ≠ []

namespace Given

/-- The settings one by one. -/
def options (g : Given) : List (Text × Value) :=
  [("host".toList, .text g.host), ("port".toList, integer g.port),
    ("database".toList, .text g.database), ("user".toList, .text g.user),
    ("password".toList, .text g.password), ("pool".toList, integer g.pool),
    ("timezone".toList, .text g.timezone)]

/-- The settings as the texts of variables, by the ends of their names. -/
def texts (g : Given) : List (String × Text) :=
  [("HOST", g.host), ("PORT", Text.ofNat g.port), ("DATABASE", g.database), ("USER", g.user),
    ("PASSWORD", g.password), ("POOL", Text.ofNat g.pool), ("TIMEZONE", g.timezone)]

/-- The environment holds the settings in variables whose names share a stem. -/
def InEnvironment (g : Given) (stem : Text) (environment : List (Text × Text)) : Prop :=
  ∀ p ∈ g.texts, lookup? stem p.1 environment = some p.2

/-- The settings that belong into the query of a URL. -/
def parameters (g : Given) : List (Text × Option Text) :=
  [("pool".toList, some (Text.ofNat g.pool)), ("timezone".toList, some g.timezone)]

/-- The text is a URL for the settings. -/
inductive Writes (g : Given) : Text → Prop
  | intro {user password database query : Text} : Encodes g.user user →
      Encodes g.password password → Encodes g.database database →
      WritesQuery g.parameters query →
      g.Writes ("mysql".toList ++ "://".toList ++ user ++ ':' :: password ++ '@' :: g.host ++
        ':' :: Text.ofNat g.port ++ '/' :: database ++ query)

/-- The URL for the settings in which all but letters and digits is encoded. -/
def url (g : Given) : Text :=
  "mysql".toList ++ "://".toList ++ Url.Percent.encode g.user ++
    ':' :: Url.Percent.encode g.password ++ '@' :: g.host ++ ':' :: Text.ofNat g.port ++
    '/' :: Url.Percent.encode g.database ++ Url.writeQuery g.parameters

theorem writes_url (g : Given) : g.Writes g.url :=
  .intro (Url.Percent.encodes_encode g.user) (Url.Percent.encodes_encode g.password)
    (Url.Percent.encodes_encode g.database) (Url.writesQuery_write g.parameters)

/-- The settings. -/
def settings (g : Given) : Settings where
  host := .text g.host
  port := integer g.port
  database := .text g.database
  user := .text g.user
  password := .text g.password
  pool := integer g.pool
  timezone := .text g.timezone

theorem putAll_options (g : Given) : ({} : Settings).putAll g.options = .ok g.settings := rfl

variable {g : Given}

theorem readOr_number {name : SettingName} {default : Value} {n : Nat}
    (h : (Text.ofNat n).length ≤ 4000) :
    readOr default (readInt name) (some (Text.ofNat n)) = .ok (integer n) := by
  have hdigits : ∀ m ∈ some (n : Int), (Text.ofNat m.natAbs).length ≤ Numeral.maxDigits := by
    rintro m ⟨⟩
    exact h.trans (by decide)
  exact readOr_readInt hdigits name default

/-- The environment gives what it holds. -/
theorem ofEnvironment_given {stem : Text} {environment : List (Text × Text)}
    (h : g.InEnvironment stem environment) : ofEnvironment stem environment = .ok g.settings := by
  simp only [InEnvironment, texts, List.forall_mem_cons] at h
  obtain ⟨hhost, hport, hdatabase, huser, hpassword, hpool, htimezone, -⟩ := h
  rw [ofEnvironment]
  simp only [hhost, hport, hdatabase, huser, hpassword, hpool, htimezone,
    readOr_number g.port_length, readOr_number g.pool_length]
  rfl

/-- The target of a URL for the settings, if the port is one that a URL can name. -/
def target (g : Given) (h : g.port ≤ 65535) : Url.Target where
  scheme := "mysql".toList
  user := g.user
  password := g.password
  host := g.host
  port := some g.port
  database := g.database
  isName_scheme := by decide
  isName_host := g.isName_host
  port_le := by
    rintro n ⟨⟩
    exact h

theorem silent_of_ne {name other : Text} (h : other ≠ name) (value : Option Text) :
    Url.IsSilent name (other, value) := fun hname => absurd hname h

/-- A URL gives what it was written for. -/
theorem ofUrl_given {url : Text} (hurl : g.Writes url) (h : g.port ≤ 65535) :
    ofUrl url = .ok g.settings := by
  have hwrites : (g.target h).Writes g.parameters url := by
    obtain ⟨huser, hpassword, hdatabase, hquery⟩ := hurl
    exact .intro huser hpassword hdatabase hquery
  have hother {name : Text} (hpool : "pool".toList ≠ name) (hzone : "timezone".toList ≠ name) :
      Url.Decides name g.parameters none :=
    .absent (List.forall_mem_cons.mpr ⟨silent_of_ne hpool _,
      List.forall_mem_singleton.mpr (silent_of_ne hzone _)⟩)
  have hpool : Url.Decides "pool".toList g.parameters (some (Text.ofNat g.pool)) :=
    .last [] [("timezone".toList, some g.timezone)] (isDigits_ofNat g.pool).1 rfl
      (List.forall_mem_singleton.mpr (silent_of_ne (by decide) _))
  have htimezone : Url.Decides "timezone".toList g.parameters (some g.timezone) :=
    .last [("pool".toList, some (Text.ofNat g.pool))] [] g.timezone_ne rfl nofun
  have hcharset : Url.Decides "charset".toList g.parameters none := hother (by decide) (by decide)
  have hseconds : Url.Decides "connect_timeout".toList g.parameters none :=
    hother (by decide) (by decide)
  rw [ofUrl_eq hwrites hpool htimezone hcharset hseconds, readOr_number g.pool_length]
  rfl

/-- A URL with a port beyond those that it can name is refused. -/
theorem ofUrl_port_beyond {url : Text} (hurl : g.Writes url) (h : 65535 < g.port) :
    ofUrl url = .error (.badSetting .port) := by
  obtain ⟨huser, hpassword, hdatabase, hquery⟩ := hurl
  have hname : IsName ['+', '-', '.'] "mysql".toList := by decide
  obtain ⟨u, hsplit, hscheme, hauthority, -, -⟩ :=
    Url.split_written hname huser hpassword g.isName_host (some g.port) hdatabase hquery
  have hserver := Url.server_append (Url.server_not_mem g.isName_host (some g.port)) hauthority
  have hhost := Url.hostAndPort_append g.isName_host hserver
  have hport : u.port? = .error (.badSetting .port) := by
    have hread := Url.port?_digits (g.port_length.trans (by decide)) (congrArg Prod.snd hhost)
    exact hread.trans (if_neg (by omega))
  have hscheme : u.scheme.isEmpty = false := by rw [hscheme]; rfl
  have hserver : u.authority.isEmpty = false := by simp [hauthority]
  have hsplit' : Url.split ("mysql".toList ++ "://".toList ++ _ ++ ':' :: _ ++ '@' :: g.host ++
    ':' :: Text.ofNat g.port ++ '/' :: _ ++ _) = .ok u := hsplit
  rw [ofUrl, hsplit']
  simp only [bind, Except.bind, hscheme, hserver, hport]
  rfl

/-- The message for another requirement is not that for the port. -/
theorem message_ne_port {s : Settings} {r : Requirement} (h : r ≠ .port) :
    r.message s ≠ (Fault.badSetting .port).message := by
  cases r with
  | host => exact (by decide : "Invalid host.".toList ≠ "Invalid port.".toList)
  | port => exact absurd rfl h
  | database => exact (by decide : "Invalid database.".toList ≠ "Invalid port.".toList)
  | user => exact (by decide : "Invalid user.".toList ≠ "Invalid port.".toList)
  | pool => exact (by decide : "Invalid pool number.".toList ≠ "Invalid port.".toList)
  | timezone =>
    intro heq
    have hfront : "Invalid tim".toList = "Invalid por".toList := congrArg (List.take 11) heq
    exact absurd hfront (by decide)

/-- No settings that can be given are refused for their port. -/
theorem validate_message_ne (g : Given) {f : Fault} (h : g.settings.validate = .error f) :
    f.message ≠ (Fault.badSetting .port).message := by
  obtain ⟨r, hfirst, hr⟩ := validate_eq_error.mp h
  rcases Requirement.check_error (Or.inr ⟨g.timezone, rfl⟩) hr with ⟨-, hmessage, -⟩ | ⟨-, -, rfl⟩
  · have hport : r ≠ .port := by
      rintro rfl
      exact hfirst.not_met ⟨g.port, rfl, Int.natCast_pos.mpr g.port_pos⟩
    rw [hmessage]
    exact message_ne_port hport
  · decide

end Given

/-- The same settings, given one by one, in the environment or in a URL, and checked. What comes of
them in the environment is what comes of them one by one, whether they pass or are refused. So it is
with a URL whose port is at most 65535; with any other port the URL is refused for the port, for
which the settings themselves never are. -/
theorem sources_agree (g : Given) {stem url : Text} {environment : List (Text × Text)}
    (henvironment : g.InEnvironment stem environment) (hurl : g.Writes url) :
    (ofEnvironment stem environment >>= validate) =
        (({} : Settings).putAll g.options >>= validate) ∧
      (g.port ≤ 65535 →
        (ofUrl url >>= validate) = (({} : Settings).putAll g.options >>= validate)) ∧
      (65535 < g.port → (ofUrl url >>= validate) = .error (.badSetting .port) ∧
        ∀ f, (({} : Settings).putAll g.options >>= validate) = .error f →
          f.message ≠ (Fault.badSetting .port).message) := by
  rw [g.ofEnvironment_given henvironment, g.putAll_options]
  refine ⟨rfl, fun h => ?_, fun h => ⟨?_, fun f hf => g.validate_message_ne hf⟩⟩
  · rw [g.ofUrl_given hurl h]
  · rw [g.ofUrl_port_beyond hurl h]
    rfl

/-- Settings with a given port, and texts that have to be encoded in a URL. -/
def sample (port : Nat) (hpos : 0 < port) (hlength : (Text.ofNat port).length ≤ 4000) : Given where
  host := "db".toList
  port := port
  database := "a/b".toList
  user := ['u']
  password := "p@".toList
  pool := 5
  timezone := "+02:00".toList
  isName_host := by decide
  port_pos := hpos
  pool_pos := by decide
  port_length := hlength
  pool_length := by decide
  timezone_ne := by decide

theorem sources_agree_sample :
    let g := sample 3306 (by decide) (by decide)
    (ofUrl "mysql://u:p%40@db:3306/a%2fb?pool=5&timezone=%2b02%3a00".toList >>= validate) =
        .ok g.settings ∧
      (ofEnvironment "GENRO_MYSQL_".toList
          (g.texts.map fun p => ("GENRO_MYSQL_".toList ++ p.1.toList, p.2)) >>= validate) =
        .ok g.settings := by
  intro g
  have henvironment : g.InEnvironment "GENRO_MYSQL_".toList
      (g.texts.map fun p => ("GENRO_MYSQL_".toList ++ p.1.toList, p.2)) := by
    change ∀ p ∈ g.texts, _
    decide
  have hurl : g.url = "mysql://u:p%40@db:3306/a%2fb?pool=5&timezone=%2b02%3a00".toList := by
    decide +kernel
  obtain ⟨hsame, hurl', -⟩ := sources_agree g henvironment (hurl ▸ g.writes_url)
  exact ⟨hurl' (by decide), hsame⟩

/-- One by one the settings pass with a port that is too high for a URL. -/
theorem high_port_refused_in_url :
    let g := sample 65536 (by decide) (by decide)
    (({} : Settings).putAll g.options >>= validate) = .ok g.settings ∧ g.Writes g.url ∧
      (ofUrl g.url >>= validate) = .error (.badSetting .port) := by
  intro g
  refine ⟨rfl, g.writes_url, ?_⟩
  rw [g.ofUrl_port_beyond g.writes_url (by decide)]
  rfl

end SqlGateway.Settings
