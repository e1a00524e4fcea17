import SqlGateway.Proofs.Sql.Mention
import SqlGateway.Proofs.Sql.ReadBack

/-!
# Parentheses and commas outside quotation marks

Which parenthesis closes which, and which commas separate the expressions of a list, is decided by
the parentheses and commas that stand outside quotation marks. `Position` is what a scanner has to
remember for that: whether it is inside quotation marks, and how many parentheses are open.

* `Closed s`: all quotation marks and parentheses of the text are closed, and no parenthesis is
  closed that was not opened in it.
* `scanGroup?` takes the parentheses at the front of a text, `Enclosed s` says that they are all of
  the text.
* `parts?` cuts a closed text at the commas that stand in no parentheses, `IsPart s` says that there
  are none.

The literal of a value is closed, and it is one part unless it is a mapping that is written as
assignments (`isPart_ofValue`, `closed_literal`).
-/

namespace SqlGateway.Sql

/-! ## Positions -/

/-- Where a character stands: outside quotation marks, in an identifier, in a string between the
given marks, or there behind a backslash. -/
inductive Region where
  | plain
  | name
  | string (mark : Char)
  | escaped (mark : Char)
  deriving DecidableEq

/-- The region behind a character. Two marks in a row close a string or an identifier and open it
again, with nothing in between. -/
def Region.next : Region → Char → Region
  | plain, c =>
    if c = Identifier.backQuote then name else if c = '\'' ∨ c = '"' then string c else plain
  | name, c => if c = Identifier.backQuote then plain else name
  | string mark, c => if c = '\\' then escaped mark else if c = mark then plain else string mark
  | escaped mark, _ => string mark

/-- The region of a character and the number of parentheses that are open before it. -/
structure Position where
  region : Region
  depth : Nat
  deriving DecidableEq

namespace Position

/-- Outside quotation marks and parentheses. -/
def start : Position := ⟨.plain, 0⟩

/-- The position behind a character, unless that closes a parenthesis that is not open. -/
def next? (p : Position) (c : Char) : Option Position :=
  if p.region ≠ .plain then some ⟨p.region.next c, p.depth⟩
  else if c = '(' then some ⟨.plain, p.depth + 1⟩
  else if c = ')' then if p.depth = 0 then none else some ⟨.plain, p.depth - 1⟩
  else some ⟨Region.plain.next c, p.depth⟩

/-- The position behind a text. -/
def after? (p : Position) : Text → Option Position
  | [] => some p
  | c :: rest => (p.next? c).bind fun q => q.after? rest

/-- The same position with more parentheses open. -/
def deeper (p : Position) (n : Nat) : Position := ⟨p.region, p.depth + n⟩

theorem after?_append (p : Position) (s t : Text) :
    p.after? (s ++ t) = (p.after? s).bind fun q => q.after? t := by
  induction s generalizing p with
  | nil => rfl
  | cons c s ih =>
    rw [List.cons_append, after?, after?, Option.bind_assoc]
    congr 1
    funext q
    exact ih q

theorem next?_deeper {p q : Position} {c : Char} (h : p.next? c = some q) (n : Nat) :
    (p.deeper n).next? c = some (q.deeper n) := by
  unfold next? at h ⊢
  by_cases hregion : p.region ≠ .plain
  · rw [if_pos hregion] at h
    cases h
    exact if_pos hregion
  · rw [if_neg hregion] at h
    rw [if_neg (show ¬(p.deeper n).region ≠ .plain from hregion)]
    by_cases hopen : c = '('
    · rw [if_pos hopen] at h ⊢
      cases h
      simp only [deeper, Nat.add_right_comm]
    · rw [if_neg hopen] at h ⊢
      by_cases hclose : c = ')'
      · rw [if_pos hclose] at h ⊢
        by_cases hzero : p.depth = 0
        · rw [if_pos hzero] at h
          cases h
        · rw [if_neg hzero] at h
          cases h
          have hdeep : (p.deeper n).depth ≠ 0 := by
            show p.depth + n ≠ 0
            omega
          rw [if_neg hdeep]
          simp only [deeper, Option.some.injEq, Position.mk.injEq, true_and]
          omega
      · rw [if_neg hclose] at h ⊢
        cases h
        rfl

theorem after?_deeper {p q : Position} {s : Text} (h : p.after? s = some q) (n : Nat) :
    (p.deeper n).after? s = some (q.deeper n) := by
  induction s generalizing p with
  | nil =>
    cases h
    rfl
  | cons c s ih =>
    obtain ⟨r, hr, h⟩ := Option.bind_eq_some_iff.mp h
    rw [after?, next?_deeper hr, Option.bind_some, ih h]

/-- Inside quotation marks nothing counts but the marks. -/
theorem next?_quoted {region : Region} (h : region ≠ .plain) (depth : Nat) (c : Char) :
    next? ⟨region, depth⟩ c = some ⟨region.next c, depth⟩ := if_pos h

theorem next?_plain {depth : Nat} {c : Char} (h : c ≠ '(' ∧ c ≠ ')') :
    next? ⟨.plain, depth⟩ c = some ⟨Region.plain.next c, depth⟩ := by
  unfold next?
  rw [if_neg (by simp), if_neg h.1, if_neg h.2]

end Position

/-! ## Closed texts -/

/-- Quotation marks and parentheses are closed, and none is closed that was not opened. -/
def Closed (s : Text) : Prop := Position.start.after? s = some .start

theorem closed_nil : Closed [] := rfl

theorem Closed.append {s t : Text} (hs : Closed s) (ht : Closed t) : Closed (s ++ t) := by
  unfold Closed at *
  rw [Position.after?_append, hs, Option.bind_some, ht]

theorem Closed.paren {s : Text} (h : Closed s) : Closed ('(' :: s ++ [')']) := by
  have hinside : (Position.start.deeper 1).after? s = some (Position.start.deeper 1) :=
    Position.after?_deeper h 1
  show (Position.start.deeper 1).after? (s ++ [')']) = some .start
  rw [Position.after?_append, hinside]
  rfl

theorem closed_intercalate {separator : Text} (hseparator : Closed separator) {texts : List Text}
    (h : ∀ s ∈ texts, Closed s) : Closed (separator.intercalate texts) := by
  induction texts with
  | nil => exact closed_nil
  | cons s texts ih =>
    have hs := h s (List.mem_cons_self ..)
    have hrest := ih fun t ht => h t (List.mem_cons_of_mem _ ht)
    cases texts with
    | nil =>
      rw [List.intercalate_singleton]
      exact hs
    | cons next texts =>
      rw [List.intercalate_cons_cons]
      exact (hs.append hseparator).append hrest

/-! ## Groups -/

/-- What stands before the parenthesis that is closed without being open, and what follows it. -/
def takeGroup? (p : Position) : Text → Option (Text × Text)
  | [] => none
  | c :: rest =>
    match p.next? c with
    | none => some ([], rest)
    | some q => (takeGroup? q rest).map fun (inside, after) => (c :: inside, after)

/-- What the parentheses at the front of a text enclose, and what follows them. -/
def scanGroup? : Text → Option (Text × Text)
  | '(' :: rest => takeGroup? .start rest
  | _ => none

/-- The text begins with a parenthesis, and the one that closes it is the last character. -/
def Enclosed (s : Text) : Prop := ∃ inside, scanGroup? s = some (inside, [])

theorem takeGroup?_append {p q : Position} {s : Text} (h : p.after? s = some q) (t : Text) :
    takeGroup? p (s ++ t) = (takeGroup? q t).map fun (inside, after) => (s ++ inside, after) := by
  induction s generalizing p with
  | nil =>
    cases h
    simp
  | cons c s ih =>
    obtain ⟨r, hr, h⟩ := Option.bind_eq_some_iff.mp h
    rw [List.cons_append, takeGroup?, hr]
    simp only [ih h, Option.map_map]
    rfl

theorem Closed.scanGroup {s : Text} (h : Closed s) (t : Text) :
    scanGroup? ('(' :: s ++ ')' :: t) = some (s, t) := by
  show takeGroup? .start (s ++ ')' :: t) = _
  rw [takeGroup?_append h]
  show some (s ++ [], t) = _
  rw [List.append_nil]

theorem Closed.enclosed {s : Text} (h : Closed s) : Enclosed ('(' :: s ++ [')']) :=
  ⟨s, h.scanGroup []⟩

theorem Enclosed.head {s : Text} (h : Enclosed s) : s.head? = some '(' := by
  obtain ⟨inside, h⟩ := h
  unfold scanGroup? at h
  split at h
  · rfl
  · cases h

/-! ## Parts -/

/-- The first part and the others between the commas of a text that stand outside quotation marks
and parentheses. The text has to be closed. -/
def parts? (p : Position) : Text → Option (Text × List Text)
  | [] => if p = .start then some ([], []) else none
  | c :: rest => do
    let q ← p.next? c
    let (first, others) ← parts? q rest
    if p = .start ∧ c = ',' then some ([], first :: others) else some (c :: first, others)

/-- The text is closed and has no comma that separates parts. -/
def IsPart (s : Text) : Prop := parts? .start s = some (s, [])

/-- The text in front of the first part. -/
def prepend (s : Text) (parts : Text × List Text) : Text × List Text := (s ++ parts.1, parts.2)

theorem map_prepend_nil (x : Option (Text × List Text)) : x.map (prepend []) = x := by
  cases x <;> rfl

theorem map_prepend_append (s t : Text) (x : Option (Text × List Text)) :
    (x.map (prepend t)).map (prepend s) = x.map (prepend (s ++ t)) := by
  rw [Option.map_map]
  congr 1
  funext parts
  simp [prepend]

theorem parts?_cons {p q : Position} {c : Char} (hnext : p.next? c = some q)
    (hcomma : ¬(p = .start ∧ c = ',')) (t : Text) :
    parts? p (c :: t) = (parts? q t).map (prepend [c]) := by
  rw [parts?, hnext]
  cases hparts : parts? q t with
  | none => simp [hparts]
  | some parts => simp [hparts, if_neg hcomma, prepend]

theorem parts?_comma (t : Text) :
    parts? .start (',' :: t) = (parts? .start t).map fun parts => ([], parts.1 :: parts.2) := by
  have hnext : Position.start.next? ',' = some .start := rfl
  rw [parts?, hnext]
  cases hparts : parts? .start t with
  | none => simp [hparts]
  | some parts => simp [hparts]

/-- A text that is cut into nothing but itself is read to its end, whatever stands behind it. -/
theorem parts?_single {p : Position} {s first : Text} (h : parts? p s = some (first, [])) :
    p.after? s = some .start ∧
      ∀ t, parts? p (s ++ t) = (parts? .start t).map (prepend s) := by
  induction s generalizing p first with
  | nil =>
    by_cases hp : p = .start
    · subst hp
      exact ⟨rfl, fun t => (map_prepend_nil _).symm⟩
    · rw [parts?, if_neg hp] at h
      cases h
  | cons c s ih =>
    rw [parts?] at h
    obtain ⟨q, hq, h⟩ := Option.bind_eq_some_iff.mp h
    obtain ⟨⟨first', others⟩, hrest, h⟩ := Option.bind_eq_some_iff.mp h
    dsimp only at h
    by_cases hcomma : p = .start ∧ c = ','
    · -- A comma here would have cut the text in two.
      rw [if_pos hcomma] at h
      cases h
    · rw [if_neg hcomma] at h
      cases h
      obtain ⟨hafter, hparts⟩ := ih hrest
      refine ⟨by rw [Position.after?, hq, Option.bind_some, hafter], fun t => ?_⟩
      rw [List.cons_append, parts?_cons hq hcomma, hparts, map_prepend_append]
      rfl

theorem IsPart.closed {s : Text} (h : IsPart s) : Closed s := (parts?_single h).1

theorem IsPart.parts {s : Text} (h : IsPart s) (t : Text) :
    parts? .start (s ++ t) = (parts? .start t).map (prepend s) := (parts?_single h).2 t

theorem isPart_of_parts {s : Text}
    (h : ∀ t, parts? .start (s ++ t) = (parts? .start t).map (prepend s)) : IsPart s := by
  have hnil := h []
  rw [List.append_nil] at hnil
  rw [IsPart, hnil]
  simp [parts?, prepend]

theorem IsPart.append {s t : Text} (hs : IsPart s) (ht : IsPart t) : IsPart (s ++ t) := by
  apply isPart_of_parts
  intro u
  rw [List.append_assoc, hs.parts, ht.parts, map_prepend_append]

/-- Between parentheses no comma separates parts. -/
theorem parts?_deeper {p q : Position} {s : Text} (h : p.after? s = some q) (t : Text) :
    parts? (p.deeper 1) (s ++ t) = (parts? (q.deeper 1) t).map (prepend s) := by
  induction s generalizing p with
  | nil =>
    cases h
    exact (map_prepend_nil _).symm
  | cons c s ih =>
    obtain ⟨r, hr, h⟩ := Option.bind_eq_some_iff.mp h
    have hinside : ¬(p.deeper 1 = .start ∧ c = ',') := by
      rintro ⟨hstart, -⟩
      have hdepth : p.depth + 1 = 0 := congrArg Position.depth hstart
      omega
    rw [List.cons_append, parts?_cons (Position.next?_deeper hr 1) hinside, ih h,
      map_prepend_append]
    rfl

theorem Closed.isPart_paren {s : Text} (h : Closed s) : IsPart ('(' :: s ++ [')']) := by
  apply isPart_of_parts
  intro t
  have hopen : Position.start.next? '(' = some (Position.start.deeper 1) := rfl
  have hclose : (Position.start.deeper 1).next? ')' = some .start := rfl
  have htext : '(' :: s ++ [')'] ++ t = '(' :: (s ++ ')' :: t) := by simp
  rw [htext, parts?_cons hopen (by simp), parts?_deeper h,
    parts?_cons hclose (by simp [Position.start, Position.deeper]), map_prepend_append,
    map_prepend_append]
  rfl

/-- The parts of a text that is put together from parts. -/
theorem parts?_intercalate {s : Text} {texts : List Text} (h : ∀ part ∈ s :: texts, IsPart part) :
    parts? .start ([','].intercalate (s :: texts)) = some (s, texts) := by
  induction texts generalizing s with
  | nil =>
    rw [List.intercalate_singleton]
    exact h s (List.mem_cons_self ..)
  | cons next texts ih =>
    have hs := h s (List.mem_cons_self ..)
    have hrest := ih fun part hpart => h part (List.mem_cons_of_mem _ hpart)
    rw [List.intercalate_cons_cons, List.append_assoc, hs.parts, List.singleton_append,
      parts?_comma, hrest]
    simp [prepend]

/-! ## Texts without parentheses and commas, and quoted texts -/

/-- A character that opens and closes nothing and separates nothing. -/
def isInert (c : Char) : Bool := !isQuotation c && c ≠ '(' && c ≠ ')' && c ≠ ','

theorem next?_inert {depth : Nat} {c : Char} (h : isInert c = true) :
    Position.next? ⟨.plain, depth⟩ c = some ⟨.plain, depth⟩ := by
  simp only [isInert, isQuotation, Bool.and_eq_true, Bool.not_eq_true', Bool.or_eq_false_iff,
    decide_eq_false_iff_not, decide_eq_true_eq] at h
  obtain ⟨⟨⟨⟨⟨hname, hstring⟩, hdouble⟩, hopen⟩, hclose⟩, -⟩ := h
  rw [Position.next?_plain ⟨hopen, hclose⟩, Region.next, if_neg hname,
    if_neg (not_or.mpr ⟨hstring, hdouble⟩)]

theorem parts?_inert {c : Char} (h : isInert c = true) (t : Text) :
    parts? .start (c :: t) = (parts? .start t).map (prepend [c]) := by
  have hcomma : c ≠ ',' := by
    rintro rfl
    exact absurd h (by decide)
  have hnext : Position.start.next? c = some .start := next?_inert h
  exact parts?_cons hnext (fun h => hcomma h.2) t

theorem isPart_inert {s : Text} (h : ∀ c ∈ s, isInert c = true) : IsPart s := by
  apply isPart_of_parts
  intro t
  induction s with
  | nil => exact (map_prepend_nil _).symm
  | cons c s ih =>
    rw [List.cons_append, parts?_inert (h c (List.mem_cons_self ..)),
      ih fun d hd => h d (List.mem_cons_of_mem _ hd), map_prepend_append]
    rfl

theorem parts?_quoted {region : Region} (h : region ≠ .plain) (depth : Nat) (c : Char) (t : Text) :
    parts? ⟨region, depth⟩ (c :: t) =
      (parts? ⟨region.next c, depth⟩ t).map (prepend [c]) := by
  apply parts?_cons (Position.next?_quoted h depth c)
  rintro ⟨hstart, -⟩
  exact h (congrArg Position.region hstart)

theorem parts?_escapeChar (c : Char) (t : Text) :
    parts? ⟨.string '\'', 0⟩ (Quoted.escapeChar c ++ t) =
      (parts? ⟨.string '\'', 0⟩ t).map (prepend (Quoted.escapeChar c)) := by
  have hstring : Region.string '\'' ≠ .plain := nofun
  rcases Quoted.escapeChar_cases c with ⟨hc, hslash, hmark⟩ | ⟨d, hc, -⟩
  · rw [hc, List.singleton_append, parts?_quoted hstring, Region.next, if_neg hslash, if_neg hmark]
  · have hescaped : Region.escaped '\'' ≠ .plain := nofun
    have htext : ['\\', d] ++ t = '\\' :: d :: t := rfl
    rw [hc, htext, parts?_quoted hstring, Region.next, if_pos rfl, parts?_quoted hescaped,
      map_prepend_append]
    rfl

theorem parts?_flatMap {p : Position} {f : Char → Text}
    (h : ∀ c t, parts? p (f c ++ t) = (parts? p t).map (prepend (f c))) (s t : Text) :
    parts? p (s.flatMap f ++ t) = (parts? p t).map (prepend (s.flatMap f)) := by
  induction s with
  | nil => exact (map_prepend_nil _).symm
  | cons c s ih => rw [List.flatMap_cons, List.append_assoc, h, ih, map_prepend_append]

theorem isPart_quoted (s : Text) : IsPart (Quoted.quote s) := by
  apply isPart_of_parts
  intro t
  have hstring : Region.string '\'' ≠ .plain := nofun
  have hopen : Position.start.next? '\'' = some ⟨.string '\'', 0⟩ := rfl
  have hclose : (Region.string '\'').next '\'' = .plain := rfl
  rw [Quoted.quote_append, parts?_cons hopen (by simp), parts?_flatMap parts?_escapeChar,
    parts?_quoted hstring, hclose, map_prepend_append, map_prepend_append]
  rfl

theorem parts?_mark (c : Char) (t : Text) :
    parts? ⟨.name, 0⟩ ((if c = Identifier.backQuote then [c, c] else [c]) ++ t) =
      (parts? ⟨.name, 0⟩ t).map (prepend (if c = Identifier.backQuote then [c, c] else [c])) := by
  have hname : Region.name ≠ .plain := nofun
  by_cases hc : c = Identifier.backQuote
  · -- The first of two marks closes the name and the second opens it again.
    subst hc
    have hopen : Position.start.next? Identifier.backQuote = some ⟨.name, 0⟩ := rfl
    have hclose : Region.name.next Identifier.backQuote = .plain := rfl
    have htext : [Identifier.backQuote, Identifier.backQuote] ++ t =
        Identifier.backQuote :: Identifier.backQuote :: t := rfl
    have hplain : parts? ⟨.plain, 0⟩ (Identifier.backQuote :: t) =
        (parts? ⟨.name, 0⟩ t).map (prepend [Identifier.backQuote]) :=
      parts?_cons hopen (by decide) t
    rw [if_pos rfl, htext, parts?_quoted hname, hclose, hplain, map_prepend_append]
    rfl
  · rw [if_neg hc, List.singleton_append, parts?_quoted hname, Region.next, if_neg hc]

theorem isPart_name (name : Text) : IsPart (Identifier.quote name) := by
  apply isPart_of_parts
  intro t
  have hname : Region.name ≠ .plain := nofun
  have hopen : Position.start.next? Identifier.backQuote = some ⟨.name, 0⟩ := rfl
  have hclose : Region.name.next Identifier.backQuote = .plain := rfl
  rw [Identifier.quote_append, parts?_cons hopen (by decide), parts?_flatMap parts?_mark,
    parts?_quoted hname, hclose, map_prepend_append, map_prepend_append]
  rfl

theorem isPart_identifier (v : Value) : IsPart (Identifier.ofValue v) := by
  rcases identifier_cases v with ⟨hv, -⟩ | ⟨hv, -⟩
  · rw [hv]
    exact isPart_inert (by decide)
  · rw [hv]
    exact isPart_name v.plain

theorem Closed.assign {s : Text} (h : Closed s) (k : Value) :
    Closed (Identifier.ofValue k ++ '=' :: s) := by
  have hright : Closed ("=".toList ++ s) := Closed.append rfl h
  exact (isPart_identifier k).closed.append hright

theorem IsPart.assign {s : Text} (h : IsPart s) (k : Value) :
    IsPart (Identifier.ofValue k ++ '=' :: s) := by
  have hright : IsPart ("=".toList ++ s) := (isPart_inert (by decide)).append h
  exact (isPart_identifier k).append hright

/-! ## Literals -/

theorem isInert_of_isDigit {c : Char} (h : c.isDigit = true) : isInert c = true := by
  have hne : ∀ d : Char, d.isDigit = false → c ≠ d := by
    rintro d hd rfl
    exact absurd h (by rw [hd]; decide)
  simp [isInert, isQuotation_of_isDigit h, hne '(' rfl, hne ')' rfl, hne ',' rfl]

theorem isPart_token {s : Text} (h : NumberToken.IsToken s) : IsPart s := by
  have hsigns : ∀ c ∈ ['-', '+', '.', 'e', 'E'], isInert c = true := by decide
  apply isPart_inert
  intro c hc
  rcases h.chars c hc with hdigit | hsign
  · exact isInert_of_isDigit hdigit
  · exact hsigns c hsign

theorem isPart_blob (bytes : List UInt8) : IsPart (Literal.blobText bytes) := by
  have hmark : IsPart ['X'] := isPart_inert (by decide)
  rw [blobText_eq]
  exact hmark.append (isPart_quoted _)

theorem closed_commas {texts : List Text} (h : ∀ s ∈ texts, Closed s) :
    Closed (", ".toList.intercalate texts) := by
  have hcomma : Closed ", ".toList := rfl
  exact closed_intercalate hcomma h

theorem isPart_list {texts : List Text} (h : ∀ s ∈ texts, IsPart s) :
    IsPart (Literal.listText texts) :=
  (closed_commas fun s hs => (h s hs).closed).isPart_paren

mutual

/-- The literal of a value is one part, unless it is a mapping that stands by itself. -/
theorem isPart_ofValue {zone : ZoneChoice} : ∀ {v : Value} {nested : Bool} {s : Text},
    Constant.IsExpression nested v → Literal.ofValue zone nested v = .ok s → IsPart s
  | .null, _, _, _, h => by
    cases h
    exact isPart_inert (by decide)
  | .bool b, _, _, _, h => by
    cases h
    cases b <;> exact isPart_inert (by decide)
  | .number n _, _, _, _, h => isPart_token (isToken_ofNumber h).2
  | .text s, _, _, _, h => by
    cases h
    exact isPart_quoted s
  | .date d, _, _, _, h => by
    obtain ⟨shown, -, rfl⟩ := map_eq_ok.mp h
    exact isPart_quoted shown
  | .moment m, _, _, _, h => by
    obtain ⟨shown, -, rfl⟩ := map_eq_ok.mp h
    exact isPart_quoted shown
  | .blob _ bytes, _, _, _, h => by
    cases h
    exact isPart_blob bytes
  | .group _ items, _, _, _, h => by
    obtain ⟨texts, htexts, rfl⟩ := map_eq_ok.mp h
    exact isPart_list (isPart_ofItems htexts)
  | .span s, _, _, _, h => by
    cases h
    apply isPart_list
    intro text htext
    obtain ⟨n, -, rfl⟩ := List.mem_map.mp htext
    exact isPart_token (isToken_ofInt n)
  | .mapping entries, nested, _, hv, h => by
    cases nested with
    | false => exact absurd rfl (hv rfl entries)
    | true =>
      cases h
      exact isPart_quoted _
  | .foreign _ shown _, _, _, _, h => by
    cases h
    exact isPart_quoted shown
  | .node c, _, _, _, h => by
    cases h
    exact isPart_quoted c.display
termination_by structural v => v

/-- The literals of nested values are parts. -/
theorem isPart_ofItems {zone : ZoneChoice} : ∀ {items : List Value} {texts : List Text},
    Literal.ofItems zone items = .ok texts → ∀ s ∈ texts, IsPart s
  | [], _, h => by
    cases h
    intro s hs
    cases hs
  | v :: rest, _, h => by
    obtain ⟨s, hs, h⟩ := bind_eq_ok.mp h
    obtain ⟨texts, htexts, h⟩ := bind_eq_ok.mp h
    cases h
    intro text htext
    rcases List.mem_cons.mp htext with rfl | htext
    · exact isPart_ofValue (Constant.isExpression_nested v) hs
    · exact isPart_ofItems htexts text htext
termination_by structural items => items

end

/-- A mapping that stands by itself is written as one assignment to every key. -/
theorem isPart_ofEntries {zone : ZoneChoice} {entries : List (Value × Value)} {texts : List Text}
    (h : Literal.ofEntries zone entries = .ok texts) :
    texts.length = entries.length ∧ ∀ s ∈ texts, s ≠ [] ∧ IsPart s := by
  induction entries generalizing texts with
  | nil =>
    cases h
    exact ⟨rfl, fun s hs => nomatch hs⟩
  | cons entry entries ih =>
    obtain ⟨k, v⟩ := entry
    obtain ⟨s, hs, h⟩ := bind_eq_ok.mp h
    obtain ⟨rest, hrest, h⟩ := bind_eq_ok.mp h
    cases h
    obtain ⟨hlength, hparts⟩ := ih hrest
    have hvalue : IsPart s := isPart_ofValue (Constant.isExpression_nested v) hs
    refine ⟨congrArg (· + 1) hlength, fun text htext => ?_⟩
    rcases List.mem_cons.mp htext with rfl | htext
    · exact ⟨by simp, hvalue.assign k⟩
    · exact hparts text htext

theorem closed_literal {zone : ZoneChoice} {nested : Bool} {v : Value} {s : Text}
    (h : Literal.ofValue zone nested v = .ok s) : Closed s := by
  by_cases hv : Constant.IsExpression nested v
  · exact (isPart_ofValue hv h).closed
  · simp only [Constant.IsExpression, not_forall, not_not] at hv
    obtain ⟨rfl, entries, rfl⟩ := hv
    obtain ⟨texts, htexts, rfl⟩ := map_eq_ok.mp h
    exact closed_commas fun s hs => ((isPart_ofEntries htexts).2 s hs).2.closed

end SqlGateway.Sql
