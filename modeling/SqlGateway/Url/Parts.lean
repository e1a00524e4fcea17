import SqlGateway.Fault
import SqlGateway.Number.Numeral
import SqlGateway.Text.Lower
import SqlGateway.Url.Address
import SqlGateway.Url.Percent

/-!
# Parts of a URL

`Url.split` cuts a URL into scheme, authority, path and query. Of the authority, the part before
the last at sign names the user, with a password after a colon, and the rest names the host, with
a port after a colon. A host in brackets is an address, which may hold colons.
-/

namespace SqlGateway

/-- A URL in parts; the fragment is of no use and left out. -/
structure Url where
  scheme : Text
  authority : Text
  path : Text
  query : Text

namespace Url

/-- The characters of a scheme. -/
def isSchemeChar (c : Char) : Bool := c.isAlphanum || c = '+' || c = '-' || c = '.'

/-- The scheme in small letters and what follows its colon. A scheme starts with a letter. -/
def takeScheme (s : Text) : Text × Text :=
  match Text.cutAt? ':' s with
  | some (c :: scheme, rest) =>
    if c.isAlpha && (c :: scheme).all isSchemeChar then ((c :: scheme).map Char.toLower, rest)
    else ([], s)
  | _ => ([], s)

/-- A character that ends the authority. -/
def endsAuthority (c : Char) : Bool := c = '/' || c = '?' || c = '#'

/-- The authority after two slashes, and the rest. -/
def takeAuthority : Text → Text × Text
  | '/' :: '/' :: rest => rest.span fun c => !endsAuthority c
  | rest => ([], rest)

/-- Characters beyond ASCII whose compatibility form holds a delimiter of URLs: one of the signs
for slash, question mark, number sign, at sign and colon. -/
def disguisedDelimiters : List Nat := [
    0x2047, 0x2048, 0x2049, 0x2100, 0x2101, 0x2105, 0x2106, 0x2A74, 0xFE13, 0xFE16, 0xFE55,
    0xFE56, 0xFE5F, 0xFE6B, 0xFF03, 0xFF0F, 0xFF1A, 0xFF1F, 0xFF20]

/-- The part of an authority that names host and port. -/
def serverOf (authority : Text) : Text :=
  match Text.cutAtLast? '@' authority with
  | some (_, server) => server
  | none => authority

/-- The host of a server is an address, as it has to be where brackets are used. The brackets open
the server, and nothing but a port follows them. -/
def namesAddress (server : Text) : Bool :=
  match Text.cutAt? '[' server with
  | some (before, bracketed) =>
    let (host, after) := (Text.cutAt? ']' bracketed).getD (bracketed, [])
    before.isEmpty && (after.isEmpty || after.head? = some ':') && Address.isLiteral host
  | none => Address.isLiteral ((Text.cutAt? ':' server).getD (server, [])).1

/-- The authority has brackets of both kinds and an address for a host, or no brackets at all. -/
def hasSoundBrackets (authority : Text) : Bool :=
  match authority.contains '[', authority.contains ']' with
  | true, true => namesAddress (serverOf authority)
  | false, false => true
  | _, _ => false

/-- The authority has sound brackets and no disguised delimiter. -/
def isWellFormed (authority : Text) : Bool :=
  hasSoundBrackets authority && authority.all fun c => !disguisedDelimiters.contains c.toNat

/-- A space or a control character in front of the space. -/
def isLeadIn (c : Char) : Bool := c.toNat ≤ 0x20

/-- The parts of a URL. Spaces and control characters in front of it are ignored, and so are tabs
and line breaks everywhere. -/
def split (s : Text) : Except Fault Url :=
  let s := (s.dropWhile isLeadIn).filter fun c => !(c = '\t' || c = '\r' || c = '\n')
  let (scheme, rest) := takeScheme s
  let (authority, rest) := takeAuthority rest
  if !isWellFormed authority then .error .badAddress
  else
    let (rest, _) := (Text.cutAt? '#' rest).getD (rest, [])
    let (path, query) := (Text.cutAt? '?' rest).getD (rest, [])
    .ok ⟨scheme, authority, path, query⟩

/-- The part of the authority that names host and port. -/
def server (u : Url) : Text := serverOf u.authority

/-- The user and the password, still encoded; empty where they are missing. -/
def credentials (u : Url) : Text × Text :=
  match Text.cutAtLast? '@' u.authority with
  | some (user, _) => (Text.cutAt? ':' user).getD (user, [])
  | none => ([], [])

/-- Host and port as they are written. -/
def hostAndPort (u : Url) : Text × Text :=
  match Text.cutAt? '[' u.server with
  | some (_, bracketed) =>
    let (host, after) := (Text.cutAt? ']' bracketed).getD (bracketed, [])
    (host, ((Text.cutAt? ':' after).getD ([], [])).2)
  | none => (Text.cutAt? ':' u.server).getD (u.server, [])

/-- The host in small letters, apart from a zone that follows a percent sign. -/
def host (u : Url) : Text :=
  let host := u.hostAndPort.1
  match Text.cutAt? '%' host with
  | some (name, zone) => Text.lower name ++ '%' :: zone
  | none => Text.lower host

/-- The port, if one is given. It is written in ASCII digits and less than 65536. -/
def port? (u : Url) : Except Fault (Option Int) :=
  let port := u.hostAndPort.2
  if port.isEmpty then .ok none
  else
    match if port.all Char.isDigit then Numeral.readInt? port else none with
    | some n => if n ≤ 65535 then .ok (some n) else .error (.badSetting .port)
    | none => .error (.badSetting .port)

/-- One parameter of a query: name and value, in which a plus sign stands for a space. A part
without a value is no parameter. -/
def parameter? (s : Text) : Option (Text × Text) :=
  let decode (t : Text) := Percent.decode (t.map fun c => if c = '+' then ' ' else c)
  match Text.cutAt? '=' s with
  | some (name, c :: value) => some (decode name, decode (c :: value))
  | _ => none

/-- The parameters of the query in order. -/
def parameters (u : Url) : List (Text × Text) := (u.query.splitOn '&').filterMap parameter?

/-- The value of the last parameter of a name. -/
def last? (name : String) (parameters : List (Text × Text)) : Option Text :=
  (parameters.reverse.find? fun p => p.1 = name.toList).map (·.2)

end Url

end SqlGateway
