import SqlGateway.Sql.Quotation

/-!
# Reading back what stands in quotation marks

String literals and quoted identifiers end where they should: the scanner of each, started on a
quoted text and anything after it, gives the text and stops behind the closing mark
(`Quoted.scan?_quote`, `Identifier.scan?_quote`). The only thing that must not follow is another
mark of the same kind, which would count as a doubled one (`Quoted.scan?_quote_iff`). A name has one
quoted form only, so what is read as a name is its quoted form (`Identifier.scan?_parts`).

A scanner never looks beyond the closing mark by more than that one character. So what it reads
from the front of a text it also reads when more text comes after (`Quoted.scanBody?_append`,
`Identifier.scanBody?_append`), and what it leaves is shorter than what it was given.
-/

namespace SqlGateway.Sql

/-! ## String literals -/

namespace Quoted

/-- A character of a string literal stands for itself, or a backslash stands before a character
that stands for it. -/
theorem escapeChar_cases (c : Char) :
    (escapeChar c = [c] ∧ c ≠ '\\' ∧ c ≠ '\'') ∨
      ∃ d, escapeChar c = ['\\', d] ∧ unescapeChar d = c := by
  by_cases special : escapeChar c = [c] ∧ c ≠ '\\' ∧ c ≠ '\''
  · exact Or.inl special
  · right
    unfold escapeChar at special ⊢
    split
    · next h => exact ⟨_, rfl, h ▸ rfl⟩
    split
    · next h => exact ⟨_, rfl, h ▸ rfl⟩
    split
    · next h => exact ⟨_, rfl, h ▸ rfl⟩
    split
    · next h => exact ⟨_, rfl, h ▸ rfl⟩
    split
    · next h => exact ⟨_, rfl, h ▸ rfl⟩
    split
    · next h => exact ⟨_, rfl, h ▸ rfl⟩
    split
    · next h =>
      simp only [Bool.or_eq_true, decide_eq_true_eq] at h
      rcases h with (rfl | rfl) | rfl <;> exact ⟨_, rfl, by decide⟩
    · simp_all

theorem scanBody?_plain {c : Char} (hb : c ≠ '\\') (hq : c ≠ '\'') (t : Text) :
    scanBody? (c :: t) = (scanBody? t).map fun (s, after) => (c :: s, after) := by
  rw [scanBody?] <;> simp_all

/-- The scanner takes one step for every character, however that is written. -/
theorem scanBody?_escapeChar (c : Char) (t : Text) :
    scanBody? (escapeChar c ++ t) = (scanBody? t).map fun (s, after) => (c :: s, after) := by
  rcases escapeChar_cases c with ⟨he, hb, hq⟩ | ⟨d, he, hd⟩
  · rw [he]
    exact scanBody?_plain hb hq t
  · rw [he]
    change (scanBody? t).map (fun (s, after) => (unescapeChar d :: s, after)) = _
    rw [hd]

theorem scanBody?_close {t : Text} (h : t.head? ≠ some '\'') :
    scanBody? ('\'' :: t) = some ([], t) := by
  cases t with
  | nil => rfl
  | cons c t =>
    rw [scanBody?]
    intro rest he
    injection he with hc
    exact h (congrArg some hc)

theorem scanBody?_double (t : Text) :
    scanBody? ('\'' :: '\'' :: t) =
      (scanBody? t).map fun (s, after) => ('\'' :: s, after) := rfl

/-- Whatever follows the characters of a literal, the scanner comes to it in step. -/
theorem scanBody?_flatMap_append (s t : Text) :
    scanBody? (s.flatMap escapeChar ++ t) =
      (scanBody? t).map fun (u, after) => (s ++ u, after) := by
  induction s with
  | nil => simp
  | cons c s ih =>
    rw [List.flatMap_cons, List.append_assoc, scanBody?_escapeChar, ih, Option.map_map]
    rfl

theorem scanBody?_flatMap (s : Text) {t : Text} (h : t.head? ≠ some '\'') :
    scanBody? (s.flatMap escapeChar ++ '\'' :: t) = some (s, t) := by
  rw [scanBody?_flatMap_append, scanBody?_close h]
  simp

theorem quote_append (s t : Text) :
    quote s ++ t = '\'' :: (s.flatMap escapeChar ++ '\'' :: t) := by
  simp [quote]

/-- A string literal is read back, and the reader stops where it ends. -/
theorem scan?_quote (s : Text) {t : Text} (h : t.head? ≠ some '\'') :
    scan? (quote s ++ t) = some (s, t) := by
  rw [quote_append]
  exact scanBody?_flatMap s h

/-- An apostrophe behind a literal makes an apostrophe of its last one, and the literal goes on. -/
theorem scan?_quote_apostrophe (s t : Text) : scan? (quote s ++ '\'' :: t) =
    (scanBody? t).map fun (u, after) => (s ++ '\'' :: u, after) := by
  rw [quote_append]
  show scanBody? _ = _
  rw [scanBody?_flatMap_append, scanBody?_double, Option.map_map]
  rfl

/-- The control characters that are written as a letter behind a backslash. -/
def lettered : List Char := ['\x00', '\n', '\r', '\x08', '\t', '\x1a']

theorem not_mem_escapeChar {d : Char} (hd : d ∈ lettered) (c : Char) : d ∉ escapeChar c := by
  by_cases hc : c ∈ lettered
  · have hall : ∀ c ∈ lettered, ∀ d ∈ lettered, d ∉ escapeChar c := by decide
    exact hall c hc d hd
  · have hplain : d ≠ '\\' ∧ d ≠ c := by
      constructor
      · rintro rfl
        exact absurd hd (by decide)
      · rintro rfl
        exact hc hd
    simp only [lettered, List.mem_cons, List.not_mem_nil, or_false, not_or] at hc
    simp only [escapeChar, hc, if_false]
    split <;> simp [hplain]

theorem not_mem_quote {d : Char} (hd : d ∈ lettered) (s : Text) : d ∉ quote s := by
  intro hquote
  have hmark : d ≠ '\'' := by
    rintro rfl
    exact absurd hd (by decide)
  simp only [quote, List.cons_append, List.mem_cons, List.mem_append, List.mem_flatMap, hmark,
    false_or, List.not_mem_nil, or_false] at hquote
  obtain ⟨c, -, hc⟩ := hquote
  exact not_mem_escapeChar hd c hc

/-- The scanner gives back the text of a literal and what stands behind it, exactly if that does not
begin with an apostrophe. If it does, the scanner takes the closing mark and the apostrophe for one
apostrophe of a longer literal. No literal holds a control character that has a letter. -/
theorem scan?_quote_iff (s t : Text) :
    (scan? (quote s ++ t) = some (s, t) ↔ t.head? ≠ some '\'') ∧
      scan? (quote s ++ '\'' :: t) =
        (scanBody? t).map (fun (u, after) => (s ++ '\'' :: u, after)) ∧
      ∀ c ∈ lettered, c ∉ quote s := by
  refine ⟨⟨?_, scan?_quote s⟩, scan?_quote_apostrophe s t, fun c hc => not_mem_quote hc s⟩
  intro h hhead
  cases t with
  | nil => cases hhead
  | cons c t =>
    obtain rfl : c = '\'' := Option.some.inj hhead
    rw [scan?_quote_apostrophe] at h
    obtain ⟨⟨u, after⟩, -, he⟩ := Option.map_eq_some_iff.mp h
    -- The text read would be longer than itself.
    have hlength := congrArg (fun r => r.1.length) he
    simp at hlength

/-- Runs of backslashes and apostrophes up to the end of the text, with a control character. -/
def marks : Text := "\\\\'\\''\n\\".toList

theorem scan?_quote_iff_marks :
    scan? (quote marks ++ ", 'b'".toList) = some (marks, ", 'b'".toList) ∧
      scan? (quote marks ++ "', 'b'".toList) = some (marks ++ "', ".toList, "b'".toList) ∧
      '\n' ∈ lettered ∧ '\n' ∉ quote marks := by
  obtain ⟨hread, -, hlettered⟩ := scan?_quote_iff marks ", 'b'".toList
  have hnewline : '\n' ∈ lettered := by decide
  refine ⟨hread.mpr (by decide), ?_, hnewline, hlettered _ hnewline⟩
  exact (scan?_quote_iff marks ", 'b'".toList).2.1

theorem scanBody?_length {s u r : Text} (h : scanBody? s = some (u, r)) :
    r.length < s.length := by
  fun_induction scanBody? s generalizing u r with
  | case1 => cases h
  | case2 c rest ih | case3 rest ih | case5 c rest _ _ _ ih =>
    obtain ⟨⟨u', r'⟩, hr, he⟩ := Option.map_eq_some_iff.mp h
    cases he
    have := ih hr
    simp only [List.length_cons]
    omega
  | case4 rest _ =>
    cases h
    simp

/-- More text behind a string literal changes nothing, unless it begins with an apostrophe. -/
theorem scanBody?_append {s u r : Text} (h : scanBody? s = some (u, r)) {t : Text}
    (ht : t.head? ≠ some '\'') : scanBody? (s ++ t) = some (u, r ++ t) := by
  fun_induction scanBody? s generalizing u r with
  | case1 => cases h
  | case2 c rest ih | case3 rest ih =>
    obtain ⟨⟨u', r'⟩, hr, he⟩ := Option.map_eq_some_iff.mp h
    cases he
    simp only [List.cons_append, scanBody?, ih hr, Option.map_some]
  | case4 rest hne =>
    cases h
    refine scanBody?_close ?_
    cases rest with
    | nil => exact ht
    | cons c rest =>
      intro hc
      injection hc with hc
      exact hne rest (hc ▸ rfl)
  | case5 c rest hb hq hq' ih =>
    obtain ⟨⟨u', r'⟩, hr, he⟩ := Option.map_eq_some_iff.mp h
    cases he
    have hmark : c ≠ '\'' := fun hc => hq' hc
    -- a lone backslash at the end is never closed
    have hslash : c ≠ '\\' := by
      intro hc
      cases rest with
      | nil => cases hr
      | cons d rest => exact hb d rest hc rfl
    rw [List.cons_append, scanBody?_plain hslash hmark, ih hr]
    rfl

end Quoted

/-! ## Quoted identifiers -/

namespace Identifier

theorem scanBody?_plain {c : Char} (hc : c ≠ backQuote) (t : Text) :
    scanBody? (c :: t) = (scanBody? t).map fun (s, after) => (c :: s, after) := by
  rw [scanBody?]
  · intro rest he
    exact absurd he hc
  · intro he
    exact absurd he hc

theorem scanBody?_close {t : Text} (h : t.head? ≠ some backQuote) :
    scanBody? (backQuote :: t) = some ([], t) := by
  cases t with
  | nil => rfl
  | cons c t =>
    change scanBody? ('\x60' :: c :: t) = _
    rw [scanBody?]
    intro rest he
    injection he with hc
    exact h (congrArg some hc)

theorem scanBody?_double (t : Text) :
    scanBody? (backQuote :: backQuote :: t) =
      (scanBody? t).map fun (s, after) => (backQuote :: s, after) := rfl

theorem scanBody?_flatMap (s : Text) {t : Text} (h : t.head? ≠ some backQuote) :
    scanBody? (s.flatMap (fun c => if c = backQuote then [c, c] else [c]) ++ backQuote :: t) =
      some (s, t) := by
  induction s with
  | nil => exact scanBody?_close h
  | cons c s ih =>
    rw [List.flatMap_cons, List.append_assoc]
    by_cases hc : c = backQuote
    · subst hc
      rw [if_pos rfl, List.cons_append, List.singleton_append, scanBody?_double, ih]
      rfl
    · rw [if_neg hc, List.singleton_append, scanBody?_plain hc, ih]
      rfl

theorem quote_append (name t : Text) : quote name ++ t = backQuote ::
    (name.flatMap (fun c => if c = backQuote then [c, c] else [c]) ++ backQuote :: t) := by
  simp [quote]

/-- A quoted identifier is read back, and the reader stops where it ends. -/
theorem scan?_quote (name : Text) {t : Text} (h : t.head? ≠ some backQuote) :
    scan? (quote name ++ t) = some (name, t) := by
  rw [quote_append]
  exact scanBody?_flatMap name h

theorem scanBody?_parts {s u r : Text} (h : scanBody? s = some (u, r)) :
    s = u.flatMap (fun c => if c = backQuote then [c, c] else [c]) ++ backQuote :: r ∧
      r.head? ≠ some backQuote := by
  fun_induction scanBody? s generalizing u r with
  | case1 => cases h
  | case2 rest ih =>
    obtain ⟨⟨u', r'⟩, hr, he⟩ := Option.map_eq_some_iff.mp h
    cases he
    obtain ⟨htext, hrest⟩ := ih hr
    refine ⟨?_, hrest⟩
    rw [List.flatMap_cons, if_pos rfl, List.append_assoc, ← htext]
    rfl
  | case3 rest hne =>
    cases h
    refine ⟨rfl, fun hhead => ?_⟩
    obtain ⟨tail, rfl⟩ := List.head?_eq_some_iff.mp hhead
    exact hne tail rfl
  | case4 c rest _ hq ih =>
    obtain ⟨⟨u', r'⟩, hr, he⟩ := Option.map_eq_some_iff.mp h
    cases he
    obtain ⟨htext, hrest⟩ := ih hr
    have hc : c ≠ backQuote := hq
    refine ⟨?_, hrest⟩
    rw [List.flatMap_cons, if_neg hc, List.append_assoc, ← htext]
    rfl

/-- What the scanner takes is the quoted form of the name that it gives, up to a mark that is not
doubled. -/
theorem scan?_parts {s name t : Text} (h : scan? s = some (name, t)) :
    s = quote name ++ t ∧ t.head? ≠ some backQuote := by
  unfold scan? at h
  split at h
  · next rest =>
    obtain ⟨htext, ht⟩ := scanBody?_parts h
    rw [quote_append, ← htext]
    exact ⟨rfl, ht⟩
  · cases h

theorem scanBody?_length {s u r : Text} (h : scanBody? s = some (u, r)) :
    r.length < s.length := by
  rw [(scanBody?_parts h).1, List.length_append, List.length_cons]
  omega

/-- More text behind an identifier changes nothing, unless it begins with a back-quote. -/
theorem scanBody?_append {s u r : Text} (h : scanBody? s = some (u, r)) {t : Text}
    (ht : t.head? ≠ some backQuote) : scanBody? (s ++ t) = some (u, r ++ t) := by
  obtain ⟨htext, hr⟩ := scanBody?_parts h
  have hrest : (r ++ t).head? ≠ some backQuote := by
    cases r with
    | nil => exact ht
    | cons c r => exact hr
  rw [htext, List.append_assoc, List.cons_append]
  exact scanBody?_flatMap u hrest

end Identifier

end SqlGateway.Sql
