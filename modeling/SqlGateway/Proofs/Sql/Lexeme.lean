import SqlGateway.Proofs.Sql.Predicate

/-!
# Lexemes of boolean expressions

A boolean expression is made of parentheses, the words AND, OR and NOT, predicates, and the two
constants `1=0` and `1=1`. `lexemes?` cuts a text into these, with any blanks between them and the
words in letters of any case.

Cutting is compositional: an expression that is cut by itself is cut in the same way in front of a
closing parenthesis (`lexemes?_close`), and every lexeme has its own equation.
-/

namespace SqlGateway.Sql

/-- A part of a boolean expression. -/
inductive Lexeme where
  | open
  | close
  | and
  | or
  | not
  | predicate (p : Predicate)
  | verdict (b : Bool)

namespace Lexeme

/-! ## The scanner -/

/-- The lexeme that a word is. -/
def keyword? (word : Text) : Option Lexeme :=
  if word = "AND".toList then some .and
  else if word = "OR".toList then some .or
  else if word = "NOT".toList then some .not
  else none

/-- The constant that stands behind `1=`. -/
def verdict? (word : Text) : Option Lexeme :=
  if word = "0".toList then some (.verdict false)
  else if word = "1".toList then some (.verdict true)
  else none

/-- The lexeme that begins with a word. -/
def scanKeyword? (s : Text) : Option (Lexeme × Text) :=
  (keyword? (firstWord s)).map fun l => (l, afterWord s)

/-- One of the two constants. -/
def scanVerdict? (s : Text) : Option (Lexeme × Text) :=
  (s.dropPrefix? "1=".toList).bind fun rest =>
    (verdict? (firstWord rest)).map fun l => (l, afterWord rest)

/-- The lexeme at the front of a text, and what follows it. -/
def scan? (s : Text) : Option (Lexeme × Text) :=
  match s with
  | '(' :: rest => some (.open, rest)
  | ')' :: rest => some (.close, rest)
  | '\x60' :: _ => (Predicate.scan? s).map fun (p, rest) => (.predicate p, rest)
  | '1' :: _ => scanVerdict? s
  | s => scanKeyword? s

theorem scanner_keyword : Scanner scanKeyword? := by
  constructor
  · intro s l r h
    obtain ⟨l', hl, he⟩ := Option.map_eq_some_iff.mp h
    cases he
    refine afterWord_length fun hnil => ?_
    rw [hnil] at hl
    cases hl
  · intro s l r h t
    obtain ⟨l', hl, he⟩ := Option.map_eq_some_iff.mp h
    cases he
    rw [scanKeyword?, firstWord_close, afterWord_close, hl, Option.map_some]

theorem scanner_verdict : Scanner scanVerdict? := by
  constructor
  · intro s l r h
    obtain ⟨rest, hrest, h⟩ := Option.bind_eq_some_iff.mp h
    obtain ⟨l', -, he⟩ := Option.map_eq_some_iff.mp h
    cases he
    exact Nat.lt_of_le_of_lt (List.dropWhile_suffix isWordChar).length_le
      (length_dropPrefix?_lt (by decide) hrest)
  · intro s l r h t
    obtain ⟨rest, hrest, h⟩ := Option.bind_eq_some_iff.mp h
    obtain ⟨l', hl, he⟩ := Option.map_eq_some_iff.mp h
    cases he
    rw [scanVerdict?, dropPrefix?_more hrest, Option.bind_some, firstWord_close, afterWord_close,
      hl, Option.map_some]

/-- What begins like no other lexeme can only be a word. -/
theorem scan?_keyword {c : Char} (hc : c ≠ '(' ∧ c ≠ ')' ∧ c ≠ '\x60' ∧ c ≠ '1') (s : Text) :
    scan? (c :: s) = scanKeyword? (c :: s) := by
  obtain ⟨hopen, hclose, hquote, hone⟩ := hc
  unfold scan?
  split
  · next he => exact absurd (List.head_eq_of_cons_eq he) hopen
  · next he => exact absurd (List.head_eq_of_cons_eq he) hclose
  · next he => exact absurd (List.head_eq_of_cons_eq he) hquote
  · next he => exact absurd (List.head_eq_of_cons_eq he) hone
  · rfl

theorem scanner_lexeme : Scanner scan? := by
  have hpredicate := Predicate.scanner_predicate.map Lexeme.predicate
  constructor
  · intro s l r h
    unfold scan? at h
    split at h
    · cases h
      simp
    · cases h
      simp
    · exact hpredicate.shorter h
    · exact scanner_verdict.shorter h
    · exact scanner_keyword.shorter h
  · intro s l r h t
    unfold scan? at h
    split at h
    · cases h
      rfl
    · cases h
      rfl
    · exact hpredicate.more h t
    · exact scanner_verdict.more h t
    · next hopen hclose hquote hone =>
      cases s with
      | nil => cases h
      | cons c s =>
        have hc : c ≠ '(' ∧ c ≠ ')' ∧ c ≠ '\x60' ∧ c ≠ '1' :=
          ⟨fun he => hopen s (he ▸ rfl), fun he => hclose s (he ▸ rfl),
            fun he => hquote s (he ▸ rfl), fun he => hone s (he ▸ rfl)⟩
        rw [List.cons_append, scan?_keyword hc]
        exact scanner_keyword.more h t

end Lexeme

/-! ## All lexemes of a text -/

/-- The lexemes of a text, which must have nothing else but blanks. A lexeme is never empty, so
what follows it is always shorter. -/
def lexemes? (s : Text) : Option (List Lexeme) :=
  if skipBlanks s = [] then some []
  else
    match Lexeme.scan? (skipBlanks s) with
    | some (l, rest) =>
      if rest.length < s.length then (lexemes? rest).map fun ts => l :: ts else none
    | none => none
termination_by s.length

theorem lexemes?_blank {s : Text} (h : skipBlanks s = []) : lexemes? s = some [] := by
  rw [lexemes?, if_pos h]

theorem lexemes?_nil : lexemes? [] = some [] := lexemes?_blank rfl

theorem lexemes?_cons {s rest : Text} {l : Lexeme}
    (h : Lexeme.scan? (skipBlanks s) = some (l, rest)) :
    lexemes? s = (lexemes? rest).map fun ts => l :: ts := by
  have hlt : rest.length < s.length :=
    Nat.lt_of_lt_of_le (Lexeme.scanner_lexeme.shorter h) (skipBlanks_length s)
  have hne : skipBlanks s ≠ [] := by
    intro hnil
    rw [hnil] at h
    cases h
  rw [lexemes?, if_neg hne, h]
  exact if_pos hlt

/-- A text that can be cut is blank, or has a first lexeme and can be cut behind it. -/
theorem lexemes?_cases {s : Text} {ts : List Lexeme} (h : lexemes? s = some ts) :
    (skipBlanks s = [] ∧ ts = []) ∨
      ∃ l rest us, Lexeme.scan? (skipBlanks s) = some (l, rest) ∧ rest.length < s.length ∧
        lexemes? rest = some us ∧ ts = l :: us := by
  rw [lexemes?] at h
  split at h
  · next hblank =>
    cases h
    exact Or.inl ⟨hblank, rfl⟩
  · split at h
    · next l rest hscan =>
      split at h
      · next hlt =>
        obtain ⟨us, hus, rfl⟩ := Option.map_eq_some_iff.mp h
        exact Or.inr ⟨l, rest, us, hscan, hlt, hus, rfl⟩
      · cases h
    · cases h

theorem lexemes?_skip {s s' : Text} (h : skipBlanks s = skipBlanks s') :
    lexemes? s = lexemes? s' := by
  by_cases hblank : skipBlanks s = []
  · rw [lexemes?_blank hblank, lexemes?_blank (h ▸ hblank)]
  · cases hscan : Lexeme.scan? (skipBlanks s) with
    | none =>
      rw [lexemes?, if_neg hblank, hscan, lexemes?, if_neg (h ▸ hblank), ← h, hscan]
    | some x =>
      have hscan' : Lexeme.scan? (skipBlanks s') = some x := h ▸ hscan
      rw [lexemes?_cons hscan, lexemes?_cons hscan']

/-- What can be cut by itself is cut in the same way in front of a closing parenthesis. -/
theorem lexemes?_close {s : Text} {ts : List Lexeme} (h : lexemes? s = some ts) (t : Text) :
    lexemes? (s ++ ')' :: t) = (lexemes? t).map fun us => ts ++ .close :: us := by
  rcases lexemes?_cases h with ⟨hblank, rfl⟩ | ⟨l, rest, us, hscan, hlt, hus, rfl⟩
  · refine lexemes?_cons ?_
    rw [skipBlanks_close, hblank]
    rfl
  · have hmore := Lexeme.scanner_lexeme.spaced.more hscan t
    rw [lexemes?_cons hmore, lexemes?_close hus t, Option.map_map]
    rfl
termination_by s.length

/-! ## Lexemes as they are written -/

theorem lexemes?_open (t : Text) :
    lexemes? ('(' :: t) = (lexemes? t).map fun ts => .open :: ts :=
  lexemes?_cons rfl

theorem lexemes?_space (t : Text) : lexemes? (' ' :: t) = lexemes? t := lexemes?_skip rfl

theorem lexemes?_and (t : Text) :
    lexemes? (" AND ".toList ++ t) = (lexemes? t).map fun ts => .and :: ts := by
  rw [← lexemes?_space t]
  exact lexemes?_cons rfl

theorem lexemes?_or (t : Text) :
    lexemes? (" OR ".toList ++ t) = (lexemes? t).map fun ts => .or :: ts := by
  rw [← lexemes?_space t]
  exact lexemes?_cons rfl

theorem lexemes?_not (t : Text) :
    lexemes? ("NOT ".toList ++ t) = (lexemes? t).map fun ts => .not :: ts := by
  rw [← lexemes?_space t]
  exact lexemes?_cons rfl

theorem lexemes?_predicate {s t : Text} {p : Predicate} (h : Predicate.scan? s = some (p, t)) :
    lexemes? s = (lexemes? t).map fun ts => .predicate p :: ts := by
  obtain ⟨⟨column, rest⟩, hname, -⟩ := Option.bind_eq_some_iff.mp h
  unfold Identifier.scan? at hname
  split at hname
  · refine lexemes?_cons ?_
    exact Option.map_eq_some_iff.mpr ⟨_, h, rfl⟩
  · cases hname

theorem lexemes?_verdict (b : Bool) :
    lexemes? (if b then "1=1" else "1=0").toList = some [.verdict b] := by
  cases b
  · have hscan : Lexeme.scan? (skipBlanks "1=0".toList) = some (.verdict false, []) := rfl
    exact (lexemes?_cons hscan).trans (by rw [lexemes?_nil, Option.map_some])
  · have hscan : Lexeme.scan? (skipBlanks "1=1".toList) = some (.verdict true, []) := rfl
    exact (lexemes?_cons hscan).trans (by rw [lexemes?_nil, Option.map_some])

/-! ## Parts of a text -/

/-- The text is cut into the lexemes, whatever stands behind it. -/
def Cuts (s : Text) (ts : List Lexeme) : Prop :=
  ∀ t, IsBoundary t → lexemes? (s ++ t) = (lexemes? t).map fun us => ts ++ us

theorem Cuts.lexemes_eq {s : Text} {ts : List Lexeme} (h : Cuts s ts) : lexemes? s = some ts := by
  have hall := h [] isBoundary_nil
  rwa [List.append_nil, lexemes?_nil, Option.map_some, List.append_nil] at hall

theorem cuts_predicate {s : Text} {p : Predicate}
    (h : ∀ t, IsBoundary t → Predicate.scan? (s ++ t) = some (p, t)) : Cuts s [.predicate p] :=
  fun t ht => lexemes?_predicate (h t ht)

theorem cuts_paren {s : Text} {ts : List Lexeme} (h : lexemes? s = some ts) :
    Cuts ('(' :: s ++ [')']) (.open :: ts ++ [.close]) := by
  intro t _
  have htext : '(' :: s ++ [')'] ++ t = '(' :: (s ++ ')' :: t) := by simp
  rw [htext, lexemes?_open, lexemes?_close h, Option.map_map]
  refine congrArg (Option.map · (lexemes? t)) (funext fun us => ?_)
  simp

theorem Cuts.not {s : Text} {ts : List Lexeme} (h : Cuts s ts) :
    Cuts ("NOT ".toList ++ s) (.not :: ts) := by
  intro t ht
  rw [List.append_assoc, lexemes?_not, h t ht, Option.map_map]
  rfl

/-- Texts with a separating word between neighbours. -/
theorem cuts_intercalate {separator : Text} {l : Lexeme} (hspace : separator.head? = some ' ')
    (hword : ∀ t, lexemes? (separator ++ t) = (lexemes? t).map fun ts => l :: ts)
    {s : Text} {ts : List Lexeme} (hs : Cuts s ts) {texts : List Text} {cuts : List (List Lexeme)}
    (h : List.Forall₂ Cuts texts cuts) :
    Cuts (separator.intercalate (s :: texts)) (ts ++ cuts.flatMap fun us => l :: us) := by
  induction h generalizing s ts with
  | nil => simpa using hs
  | @cons s' ts' texts cuts hs' _ ih =>
    intro t ht
    have hboundary : IsBoundary (separator ++ (separator.intercalate (s' :: texts) ++ t)) := by
      cases separator with
      | nil => cases hspace
      | cons c separator =>
        cases hspace
        exact isBoundary_space _
    rw [List.intercalate_cons_cons, List.append_assoc, List.append_assoc, hs _ hboundary, hword,
      ih hs' t ht, Option.map_map, Option.map_map]
    refine congrArg (Option.map · (lexemes? t)) (funext fun us => ?_)
    simp

end SqlGateway.Sql
