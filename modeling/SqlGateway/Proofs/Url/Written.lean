import SqlGateway.Proofs.Number.Numeral
import SqlGateway.Proofs.Text.Lower
import SqlGateway.Proofs.Url.Authority
import SqlGateway.Proofs.Url.Query

/-!
# Written URLs

A URL is written from the parts of a `Target` and the parameters of a query, every text in percent
encoding (`Target.Writes`). `Url.split` finds the parts again, since none of the characters between
them occurs in an encoded text, and target and parameters are read back from the parts
(`Target.Writes.read`).
-/

namespace SqlGateway.Url

open Percent (Encodes IsEncodedChar)

/-! ## What is written -/

/-- A small letter and any number of small letters, digits and the given marks after it. -/
def IsName (marks : List Char) : Text → Prop
  | [] => False
  | c :: rest =>
    c.isLower = true ∧ ∀ d ∈ rest, d.isLower = true ∨ d.isDigit = true ∨ d ∈ marks

instance (marks : List Char) : DecidablePred (IsName marks)
  | [] => inferInstanceAs (Decidable False)
  | c :: rest => inferInstanceAs (Decidable
      (c.isLower = true ∧ ∀ d ∈ rest, d.isLower = true ∨ d.isDigit = true ∨ d ∈ marks))

/-- The server and the database to connect to, and as whom. -/
structure Target where
  scheme : Text
  user : Text
  password : Text
  host : Text
  port : Option Nat
  database : Text
  isName_scheme : IsName ['+', '-', '.'] scheme
  isName_host : IsName ['-', '.'] host
  port_le : ∀ n ∈ port, n ≤ 65535

/-- The port after its colon, where there is one. -/
def portPart : Option Nat → Text
  | none => []
  | some n => ':' :: Text.ofNat n

/-- The text is a URL for the target with the given parameters. -/
inductive Target.Writes (a : Target) (ps : List (Text × Option Text)) : Text → Prop
  | intro {user password database query : Text} : Encodes a.user user →
      Encodes a.password password → Encodes a.database database → WritesQuery ps query →
      a.Writes ps (a.scheme ++ "://".toList ++ user ++ ':' :: password ++ '@' :: a.host ++
        portPart a.port ++ '/' :: database ++ query)

/-- The URL for the target in which all but letters and digits is encoded. -/
def Target.write (a : Target) (ps : List (Text × Option Text)) : Text :=
  a.scheme ++ "://".toList ++ Percent.encode a.user ++ ':' :: Percent.encode a.password ++
    '@' :: a.host ++ portPart a.port ++ '/' :: Percent.encode a.database ++ writeQuery ps

theorem Target.writes_write (a : Target) (ps : List (Text × Option Text)) :
    a.Writes ps (a.write ps) :=
  .intro (Percent.encodes_encode a.user) (Percent.encodes_encode a.password)
    (Percent.encodes_encode a.database) (writesQuery_write ps)

/-! ## Characters -/

/-- A character inside a part of a URL. -/
def IsInner (c : Char) : Prop := IsEncodedChar c ∨ c = '+'

instance : DecidablePred IsInner := fun c => inferInstanceAs (Decidable (IsEncodedChar c ∨ c = '+'))

/-- A character of an authority: one inside its parts, or one between them. -/
def IsAuthorityChar (c : Char) : Prop := IsInner c ∨ c = ':' ∨ c = '@'

instance : DecidablePred IsAuthorityChar := fun c =>
  inferInstanceAs (Decidable (IsInner c ∨ c = ':' ∨ c = '@'))

variable {c : Char} {s : Text}

theorem IsInner.bounds (hc : IsInner c) : 0x20 < c.toNat ∧ c.toNat < 0x80 := by
  rcases hc with hc | rfl
  · exact hc.bounds
  · decide

theorem IsAuthorityChar.bounds (hc : IsAuthorityChar c) : 0x20 < c.toNat ∧ c.toNat < 0x80 := by
  rcases hc with hc | rfl | rfl
  · exact hc.bounds
  · decide
  · decide

theorem inner_of_isLower (hc : c.isLower = true) : IsInner c :=
  Or.inl (Or.inl (Or.inl (Text.isAlphanum_of_isLower hc)))

theorem inner_of_isDigit (hc : c.isDigit = true) : IsInner c :=
  Or.inl (Or.inl (Or.inl (Text.isAlphanum_of_isDigit hc)))

namespace IsName

variable {marks : List Char}

theorem ne_nil (h : IsName marks s) : s ≠ [] := by
  rintro rfl
  exact h

theorem chars (h : IsName marks s) {P : Char → Prop}
    (hlower : ∀ {c : Char}, c.isLower = true → P c) (hdigit : ∀ {c : Char}, c.isDigit = true → P c)
    (hmarks : ∀ c ∈ marks, P c) : ∀ c ∈ s, P c := by
  cases s with
  | nil => nofun
  | cons c rest =>
    refine List.forall_mem_cons.mpr ⟨hlower h.1, fun d hd => ?_⟩
    rcases h.2 d hd with hd | hd | hd
    · exact hlower hd
    · exact hdigit hd
    · exact hmarks d hd

theorem inner (h : IsName marks s) (hmarks : ∀ c ∈ marks, IsInner c) : ∀ c ∈ s, IsInner c :=
  h.chars inner_of_isLower inner_of_isDigit hmarks

theorem small (h : IsName marks s) (hmarks : ∀ c ∈ marks, Text.IsSmall c) :
    ∀ c ∈ s, Text.IsSmall c :=
  h.chars Text.small_of_isLower Text.small_of_isDigit hmarks

theorem not_mem (h : IsName marks s) (hlower : c.isLower = false) (hdigit : c.isDigit = false)
    (hmarks : c ∉ marks) : c ∉ s := by
  intro hmem
  have hne : c ≠ c := by
    refine h.chars (P := (· ≠ c)) ?_ ?_ ?_ c hmem
    · rintro d hd rfl
      exact absurd hd (Bool.eq_false_iff.mp hlower)
    · rintro d hd rfl
      exact absurd hd (Bool.eq_false_iff.mp hdigit)
    · rintro d hd rfl
      exact hmarks hd
  exact hne rfl

end IsName

theorem portPart_chars (port : Option Nat) : ∀ c ∈ portPart port, IsAuthorityChar c := by
  cases port with
  | none => nofun
  | some n =>
    refine List.forall_mem_cons.mpr ⟨Or.inr (Or.inl rfl), fun c hc => ?_⟩
    exact Or.inl (inner_of_isDigit ((isDigits_ofNat n).2 c hc))

theorem at_not_mem_portPart (port : Option Nat) : '@' ∉ portPart port := by
  cases port with
  | none => nofun
  | some n =>
    rw [portPart, List.mem_cons, not_or]
    exact ⟨by decide, Numeral.not_mem_digits (isDigits_ofNat n) rfl⟩

theorem rest_char (hc : IsEncodedChar c ∨ c ∈ ['?', '&', '=']) : 0x20 < c.toNat ∧ c ≠ '#' := by
  rcases hc with hc | hc
  · refine ⟨hc.bounds.1, ?_⟩
    rintro rfl
    exact absurd hc (by decide)
  · revert c
    decide

/-! ## Cutting -/

/-- Nothing is dropped from a text without spaces and control characters. -/
theorem clean_eq_self (h : ∀ c ∈ s, 0x20 < c.toNat) :
    (s.dropWhile isLeadIn).filter (fun c => !(c = '\t' || c = '\r' || c = '\n')) = s := by
  have hdrop : s.dropWhile isLeadIn = s := by
    cases s with
    | nil => rfl
    | cons c s =>
      have hc := h c (List.mem_cons_self ..)
      rw [List.dropWhile_cons_of_neg]
      simpa [isLeadIn] using hc
  rw [hdrop, List.filter_eq_self]
  intro c hc
  have hspace := h c hc
  have hne {d : Char} (hd : d.toNat ≤ 0x20) : c ≠ d := by
    rintro rfl
    omega
  simp [hne (d := '\t') (by decide), hne (d := '\r') (by decide), hne (d := '\n') (by decide)]

theorem isSchemeChar_of_name (h : IsName ['+', '-', '.'] s) : ∀ c ∈ s, isSchemeChar c = true := by
  refine h.chars (fun hc => ?_) (fun hc => ?_) (by decide)
  · simp [isSchemeChar, Text.isAlphanum_of_isLower hc]
  · simp [isSchemeChar, Text.isAlphanum_of_isDigit hc]

theorem takeScheme_append {scheme : Text} (h : IsName ['+', '-', '.'] scheme) (rest : Text) :
    takeScheme (scheme ++ ':' :: rest) = (scheme, rest) := by
  have hcolon : ':' ∉ scheme := h.not_mem rfl rfl (by decide)
  have hchars := isSchemeChar_of_name h
  have hsmall : scheme.map Char.toLower = scheme := by
    rw [List.map_congr_left fun c hc => (h.small (by decide) c hc).toLower_eq, List.map_id'']
    exact fun _ => rfl
  rw [takeScheme, Text.cutAt?_append hcolon]
  cases scheme with
  | nil => exact h.elim
  | cons c scheme =>
    have halpha : c.isAlpha = true := Text.isAlpha_of_isLower h.1
    change (if c.isAlpha && (c :: scheme).all isSchemeChar then _ else _) = _
    rw [halpha, List.all_eq_true.mpr hchars, hsmall]
    rfl

theorem IsAuthorityChar.not_ends (hc : IsAuthorityChar c) : endsAuthority c = false := by
  have hne {d : Char} (hd : ¬ IsAuthorityChar d) : c ≠ d := by
    rintro rfl
    exact hd hc
  simp [endsAuthority, hne (d := '/') (by decide), hne (d := '?') (by decide),
    hne (d := '#') (by decide)]

/-- An authority ends at the slash that follows it. -/
theorem takeAuthority_append {authority : Text} (h : ∀ c ∈ authority, IsAuthorityChar c)
    (rest : Text) :
    takeAuthority ('/' :: '/' :: (authority ++ '/' :: rest)) = (authority, '/' :: rest) := by
  have hrun : ∀ c ∈ authority, (!endsAuthority c) = true := fun c hc => by
    rw [(h c hc).not_ends]
    rfl
  rw [takeAuthority, List.span_eq_takeWhile_dropWhile, List.takeWhile_append_of_pos hrun,
    List.dropWhile_append_of_pos hrun]
  change (authority ++ [], '/' :: rest) = _
  rw [List.append_nil]

theorem IsAuthorityChar.not_treacherous (hc : IsAuthorityChar c) : ¬ IsTreacherous c := by
  have hbeyond : ∀ n ∈ disguisedDelimiters, 0x80 ≤ n := by decide
  rintro (rfl | rfl | hmem)
  · exact absurd hc (by decide)
  · exact absurd hc (by decide)
  · have := hbeyond _ hmem
    have := hc.bounds.2
    omega

/-- A URL of scheme, authority, path and query is cut into these. -/
theorem split_append {scheme authority path query q : Text}
    (hscheme : IsName ['+', '-', '.'] scheme)
    (hauthority : ∀ c ∈ authority, IsAuthorityChar c)
    (hrest : ∀ c ∈ path ++ query, 0x20 < c.toNat ∧ c ≠ '#')
    (hcut : (Text.cutAt? '?' ('/' :: path ++ query)).getD ('/' :: path ++ query, []) =
      ('/' :: path, q)) :
    Url.split (scheme ++ "://".toList ++ authority ++ '/' :: path ++ query) =
      .ok ⟨scheme, authority, '/' :: path, q⟩ := by
  have htext : scheme ++ "://".toList ++ authority ++ '/' :: path ++ query =
      scheme ++ ':' :: '/' :: '/' :: (authority ++ '/' :: (path ++ query)) := by
    simp [List.append_assoc]
  have hspace : ∀ c ∈ scheme ++ ':' :: '/' :: '/' :: (authority ++ '/' :: (path ++ query)),
      0x20 < c.toNat := by
    simp only [List.forall_mem_append, List.forall_mem_cons]
    exact ⟨fun c hc => (hscheme.inner (by decide) c hc).bounds.1, by decide, by decide, by decide,
      fun c hc => (hauthority c hc).bounds.1, by decide,
      fun c hc => (hrest c (List.mem_append_left _ hc)).1,
      fun c hc => (hrest c (List.mem_append_right _ hc)).1⟩
  have hfragment : '#' ∉ '/' :: (path ++ query) := by
    rw [List.mem_cons, not_or]
    exact ⟨by decide, fun hmem => (hrest _ hmem).2 rfl⟩
  rw [htext, split, clean_eq_self hspace]
  simp only [takeScheme_append hscheme, takeAuthority_append hauthority]
  rw [isWellFormed_of_plain fun c hc => (hauthority c hc).not_treacherous,
    Text.cutAt?_eq_none hfragment, Bool.not_true, if_neg Bool.false_ne_true]
  simp only [Option.getD_none]
  rw [← List.cons_append, hcut]

/-! ## Reading the parts -/

variable {host : Text}

theorem server_not_mem {host : Text} (h : IsName ['-', '.'] host) (port : Option Nat) :
    '@' ∉ host ++ portPart port := by
  rw [List.mem_append, not_or]
  exact ⟨h.not_mem rfl rfl (by decide), at_not_mem_portPart port⟩

theorem credentials_append {u : Url} {user password server : Text} (hserver : '@' ∉ server)
    (huser : ':' ∉ user) (hu : u.authority = (user ++ ':' :: password) ++ '@' :: server) :
    u.credentials = (user, password) := by
  rw [credentials, hu, Text.cutAtLast?_append _ hserver]
  change (Text.cutAt? ':' (user ++ ':' :: password)).getD _ = _
  rw [Text.cutAt?_append huser]
  rfl

theorem server_append {u : Url} {login server : Text} (hserver : '@' ∉ server)
    (hu : u.authority = login ++ '@' :: server) : u.server = server := by
  rw [Url.server, serverOf, hu, Text.cutAtLast?_append _ hserver]

/-- The port as it is written, without the colon. -/
def portText : Option Nat → Text
  | none => []
  | some n => Text.ofNat n

theorem hostAndPort_append {u : Url} {port : Option Nat} (h : IsName ['-', '.'] host)
    (hu : u.server = host ++ portPart port) : u.hostAndPort = (host, portText port) := by
  have hcolon : ':' ∉ host := h.not_mem rfl rfl (by decide)
  have hbracket : '[' ∉ host ++ portPart port := by
    rw [List.mem_append, not_or]
    exact ⟨h.not_mem rfl rfl (by decide), fun hmem =>
      absurd (portPart_chars port _ hmem) (by decide)⟩
  rw [hostAndPort, hu, Text.cutAt?_eq_none hbracket]
  cases port with
  | none =>
    rw [portPart, List.append_nil]
    change (Text.cutAt? ':' host).getD _ = _
    rw [Text.cutAt?_eq_none hcolon]
    rfl
  | some n =>
    change (Text.cutAt? ':' (host ++ ':' :: Text.ofNat n)).getD _ = _
    rw [Text.cutAt?_append hcolon]
    rfl

theorem host_eq {u : Url} {port : Text} (h : IsName ['-', '.'] host)
    (hu : u.hostAndPort = (host, port)) : u.host = host := by
  have hpercent : '%' ∉ host := h.not_mem rfl rfl (by decide)
  rw [Url.host, hu]
  simp only [Text.cutAt?_eq_none hpercent]
  exact Text.lower_eq_self (h.small (by decide))

theorem port?_digits {u : Url} {n : Nat} (h : (Text.ofNat n).length ≤ Numeral.maxDigits)
    (hu : u.hostAndPort.2 = Text.ofNat n) :
    u.port? = if (n : Int) ≤ 65535 then .ok (some n) else .error (.badSetting .port) := by
  have hread : Numeral.readInt? (Text.ofNat n) = some (n : Int) :=
    Numeral.readInt?_ofInt (n := Int.ofNat n) h
  have hne : (Text.ofNat n).isEmpty = false := by simpa using (isDigits_ofNat n).1
  have hall : (Text.ofNat n).all Char.isDigit = true :=
    List.all_eq_true.mpr (isDigits_ofNat n).2
  rw [port?, hu]
  simp only [hne, hall, hread, Bool.false_eq_true, if_true, if_false]

theorem port?_eq {u : Url} {port : Option Nat} (hport : ∀ n ∈ port, n ≤ 65535)
    (hu : u.hostAndPort = (host, portText port)) : u.port? = .ok (port.map Int.ofNat) := by
  cases port with
  | none => rw [port?, hu]; rfl
  | some n =>
    have hle : n ≤ 65535 := hport n rfl
    have hfive : (Text.ofNat n).length ≤ 5 :=
      (Nat.length_toDigits_le_iff (by decide) (by decide)).mpr (by omega)
    have hread := port?_digits (hfive.trans (by decide)) (congrArg Prod.snd hu)
    exact hread.trans (if_pos (Int.ofNat_le.mpr hle))

/-- The parts of the URL stand for the target and for the parameters that have a value. -/
structure Target.Reads (a : Target) (ps : List (Text × Option Text)) (u : Url) : Prop where
  scheme : u.scheme = a.scheme
  host : u.host = a.host
  port : u.port? = .ok (a.port.map Int.ofNat)
  user : Percent.decode u.credentials.1 = a.user
  password : Percent.decode u.credentials.2 = a.password
  database : Percent.decode (u.path.dropWhile (· = '/')) = a.database
  parameters : u.parameters = ps.filterMap given?

theorem dropWhile_slash {s t : Text} (h : Encodes s t) : ('/' :: t).dropWhile (· = '/') = t := by
  cases t with
  | nil => rfl
  | cons c t =>
    have hc : c ≠ '/' := by
      rintro rfl
      exact h.not_mem (by decide) (List.mem_cons_self ..)
    simp [hc]

/-- The authority that names the target, with user and password as they are encoded. -/
def Target.authority (a : Target) (user password : Text) : Text :=
  (user ++ ':' :: password) ++ '@' :: (a.host ++ portPart a.port)

variable {a : Target} {ps : List (Text × Option Text)} {user password database query : Text}

theorem authority_chars {name secret host : Text} (huser : Encodes name user)
    (hpassword : Encodes secret password) (hhost : IsName ['-', '.'] host) (port : Option Nat) :
    ∀ c ∈ (user ++ ':' :: password) ++ '@' :: (host ++ portPart port), IsAuthorityChar c := by
  simp only [List.forall_mem_append, List.forall_mem_cons]
  exact ⟨⟨fun c hc => Or.inl (Or.inl (huser.chars c hc)), by decide,
    fun c hc => Or.inl (Or.inl (hpassword.chars c hc))⟩, by decide,
    fun c hc => Or.inl (hhost.inner (by decide) c hc), portPart_chars port⟩

/-- A URL of encoded parts is cut into these, whatever the port. -/
theorem split_written {scheme name secret host path : Text}
    (hscheme : IsName ['+', '-', '.'] scheme) (huser : Encodes name user)
    (hpassword : Encodes secret password) (hhost : IsName ['-', '.'] host) (port : Option Nat)
    (hdatabase : Encodes path database) (hquery : WritesQuery ps query) :
    ∃ u, Url.split (scheme ++ "://".toList ++ user ++ ':' :: password ++ '@' :: host ++
        portPart port ++ '/' :: database ++ query) = .ok u ∧
      u.scheme = scheme ∧
      u.authority = (user ++ ':' :: password) ++ '@' :: (host ++ portPart port) ∧
      u.path = '/' :: database ∧ u.parameters = ps.filterMap given? := by
  have hpath : '?' ∉ '/' :: database := by
    rw [List.mem_cons, not_or]
    exact ⟨by decide, hdatabase.not_mem (by decide)⟩
  have hrest : ∀ c ∈ database ++ query, 0x20 < c.toNat ∧ c ≠ '#' := by
    rw [List.forall_mem_append]
    exact ⟨fun c hc => rest_char (Or.inl (hdatabase.chars c hc)),
      fun c hc => rest_char (hquery.chars c hc)⟩
  obtain ⟨q, hcut, hparameters⟩ := hquery.cut hpath
  have hsplit := split_append hscheme (authority_chars huser hpassword hhost port) hrest hcut
  have htext : scheme ++ "://".toList ++
        ((user ++ ':' :: password) ++ '@' :: (host ++ portPart port)) ++ '/' :: database ++ query =
      scheme ++ "://".toList ++ user ++ ':' :: password ++ '@' :: host ++ portPart port ++
        '/' :: database ++ query := by
    simp [List.append_assoc]
  exact ⟨⟨_, _, _, q⟩, htext ▸ hsplit, rfl, rfl, rfl, hparameters⟩

theorem Target.reads_of_parts {u : Url} (huser : Encodes a.user user)
    (hpassword : Encodes a.password password) (hdatabase : Encodes a.database database)
    (hscheme : u.scheme = a.scheme) (hauthority : u.authority = a.authority user password)
    (hpath : u.path = '/' :: database) (hparameters : u.parameters = ps.filterMap given?) :
    a.Reads ps u := by
  have hserver := server_not_mem a.isName_host a.port
  have hlogin := credentials_append hserver (huser.not_mem (by decide)) hauthority
  have hhost := hostAndPort_append a.isName_host (server_append hserver hauthority)
  exact {
    scheme := hscheme
    host := host_eq a.isName_host hhost
    port := port?_eq a.port_le hhost
    user := by rw [hlogin, huser.decode]
    password := by rw [hlogin, hpassword.decode]
    database := by rw [hpath, dropWhile_slash hdatabase, hdatabase.decode]
    parameters := hparameters }

/-- What was written is read. -/
theorem Target.Writes.read {url : Text} (h : a.Writes ps url) :
    ∃ u, Url.split url = .ok u ∧ u.authority ≠ [] ∧ a.Reads ps u := by
  obtain ⟨huser, hpassword, hdatabase, hquery⟩ := h
  obtain ⟨u, hsplit, hscheme, hauthority, hpath, hparameters⟩ :=
    split_written a.isName_scheme huser hpassword a.isName_host a.port hdatabase hquery
  refine ⟨u, hsplit, by simp [hauthority], ?_⟩
  exact reads_of_parts huser hpassword hdatabase hscheme hauthority hpath hparameters

end SqlGateway.Url
