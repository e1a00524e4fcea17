import Mathlib.Data.List.Forall2
import SqlGateway.Proofs.Number.Token
import SqlGateway.Proofs.Outcome
import SqlGateway.Proofs.Sql.Scanner
import SqlGateway.Proofs.Sql.Quotation
import SqlGateway.Sql.Literal

/-!
# Identifiers that a text mentions

`mentions?` collects the back-quoted identifiers of a text in order, outside its string literals.
`Mentions s names` says of a part of a text that it adds these names, whatever stands behind it.

The literal of a value mentions no identifier, however deeply the value is nested and whatever
characters it holds, with one exception: a mapping that stands by itself mentions its keys
(`mentions_ofValue`).
-/

namespace SqlGateway.Sql

/-! ## The scanner -/

/-- A character that opens an identifier or a string. -/
def isQuotation (c : Char) : Bool := c = Identifier.backQuote || c = '\'' || c = '"'

/-- The identifiers of a text outside its string literals. There is no answer if one of either is
not closed, or if a string stands between double quotation marks. -/
def mentions? (s : Text) : Option (List Text) :=
  match s with
  | [] => some []
  | c :: rest =>
    if c = Identifier.backQuote then
      match Identifier.scanBody? rest with
      | some (name, after) =>
        if after.length < rest.length then (mentions? after).map fun names => name :: names
        else none
      | none => none
    else if c = '\'' then
      match Quoted.scanBody? rest with
      | some (_, after) => if after.length < rest.length then mentions? after else none
      | none => none
    else if c = '"' then none
    else mentions? rest
termination_by s.length

theorem mentions?_nil : mentions? [] = some [] := by rw [mentions?]

theorem mentions?_plain {c : Char} (hc : isQuotation c = false) (t : Text) :
    mentions? (c :: t) = mentions? t := by
  simp only [isQuotation, Bool.or_eq_false_iff, decide_eq_false_iff_not] at hc
  obtain ⟨⟨hname, hstring⟩, hdouble⟩ := hc
  rw [mentions?, if_neg hname, if_neg hstring, if_neg hdouble]

theorem mentions?_identifier {rest after name : Text}
    (h : Identifier.scanBody? rest = some (name, after)) :
    mentions? (Identifier.backQuote :: rest) =
      (mentions? after).map fun names => name :: names := by
  rw [mentions?, if_pos rfl, h]
  exact if_pos (Identifier.scanBody?_length h)

theorem mentions?_string {rest after s : Text} (h : Quoted.scanBody? rest = some (s, after)) :
    mentions? ('\'' :: rest) = mentions? after := by
  rw [mentions?, if_neg (by decide), if_pos rfl, h]
  exact if_pos (Quoted.scanBody?_length h)

theorem mentions?_plains {w : Text} (hw : ∀ c ∈ w, isQuotation c = false) (t : Text) :
    mentions? (w ++ t) = mentions? t := by
  induction w with
  | nil => rfl
  | cons c w ih =>
    rw [List.cons_append, mentions?_plain (hw c (List.mem_cons_self ..))]
    exact ih fun d hd => hw d (List.mem_cons_of_mem _ hd)

theorem mentions?_quote (name : Text) {t : Text} (ht : t.head? ≠ some Identifier.backQuote) :
    mentions? (Identifier.quote name ++ t) = (mentions? t).map fun names => name :: names :=
  mentions?_identifier (Identifier.scan?_quote name ht)

/-! ## Parts of a text -/

/-- The text adds the names to those mentioned behind it. -/
def Mentions (s : Text) (names : List Text) : Prop :=
  ∀ t, IsBoundary t → mentions? (s ++ t) = (mentions? t).map fun more => names ++ more

theorem Mentions.all {s : Text} {names : List Text} (h : Mentions s names) :
    mentions? s = some names := by
  have hall := h [] isBoundary_nil
  rwa [List.append_nil, mentions?_nil, Option.map_some, List.append_nil] at hall

theorem mentions_plain {s : Text} (hs : ∀ c ∈ s, isQuotation c = false) : Mentions s [] := by
  intro t _
  rw [mentions?_plains hs]
  simp

theorem mentions_quoted (s : Text) : Mentions (Quoted.quote s) [] := by
  intro t ht
  have hscan := Quoted.scan?_quote s (ht.head_ne (by decide))
  have hstring : mentions? (Quoted.quote s ++ t) = mentions? t := mentions?_string hscan
  rw [hstring]
  simp

theorem Mentions.prepend {w s : Text} {names : List Text} (hw : ∀ c ∈ w, isQuotation c = false)
    (h : Mentions s names) : Mentions (w ++ s) names := by
  intro t ht
  rw [List.append_assoc, mentions?_plains hw, h t ht]

theorem Mentions.paren {s : Text} {names : List Text} (h : Mentions s names) :
    Mentions ('(' :: s ++ [')']) names := by
  intro t _
  have htext : '(' :: s ++ [')'] ++ t = '(' :: (s ++ ')' :: t) := by simp
  rw [htext, mentions?_plain (by decide), h _ (isBoundary_close t), mentions?_plain (by decide)]

/-- A name in front of a text that does not begin with a back-quote. -/
theorem Mentions.named {s : Text} {names : List Text} (h : Mentions s names) (name : Text)
    {c : Char} (hc : isQuotation c = false) :
    Mentions (Identifier.quote name ++ c :: s) (name :: names) := by
  intro t ht
  have hne : (c :: (s ++ t)).head? ≠ some Identifier.backQuote := by
    intro he
    cases he
    exact absurd hc (by decide)
  rw [List.append_assoc, List.cons_append, mentions?_quote name hne, mentions?_plain hc, h t ht,
    Option.map_map]
  rfl

theorem mentions_intercalate {separator : Text} (hplain : ∀ c ∈ separator, isQuotation c = false)
    (hboundary : ∀ t, IsBoundary (separator ++ t)) {texts : List Text} {names : List (List Text)}
    (h : List.Forall₂ Mentions texts names) :
    Mentions (separator.intercalate texts) names.flatten := by
  induction h with
  | nil => exact mentions_plain (by simp)
  | @cons s ns texts names hs hrest ih =>
    cases hrest with
    | nil => simpa using hs
    | @cons s' ns' texts names hs' hrest =>
      intro t ht
      rw [List.intercalate_cons_cons, List.append_assoc, List.append_assoc, hs _ (hboundary _),
        mentions?_plains hplain, ih t ht, Option.map_map]
      refine congrArg (Option.map · (mentions? t)) (funext fun more => ?_)
      simp

/-! ## Literals -/

theorem isQuotation_of_isDigit {c : Char} (h : c.isDigit = true) : isQuotation c = false := by
  cases hc : isQuotation c with
  | false => rfl
  | true =>
    simp only [isQuotation, Bool.or_eq_true, decide_eq_true_eq] at hc
    rcases hc with (rfl | rfl) | rfl <;> exact absurd h (by decide)

/-- No character of a number opens an identifier or a string. -/
theorem isQuotation_of_isToken {s : Text} (h : NumberToken.IsToken s) :
    ∀ c ∈ s, isQuotation c = false := by
  have hsigns : ∀ c ∈ ['-', '+', '.', 'e', 'E'], isQuotation c = false := by decide
  intro c hc
  rcases h.chars c hc with hdigit | hsign
  · exact isQuotation_of_isDigit hdigit
  · exact hsigns c hsign

theorem mentions_token {s : Text} (h : NumberToken.IsToken s) : Mentions s [] :=
  mentions_plain (isQuotation_of_isToken h)

theorem escapeChar_hexBytes (bytes : List UInt8) :
    (Text.hexBytes bytes).flatMap Quoted.escapeChar = Text.hexBytes bytes := by
  have hdigit : ∀ n : Fin 16, Quoted.escapeChar (Nat.digitChar n) = [Nat.digitChar n] := by decide
  induction bytes with
  | nil => rfl
  | cons b bytes ih =>
    have hb := b.toNat_lt
    have hbytes : Text.hexBytes (b :: bytes) = Nat.digitChar (b.toNat / 16 % 16) ::
        Nat.digitChar (b.toNat % 16) :: Text.hexBytes bytes := rfl
    rw [hbytes, List.flatMap_cons, List.flatMap_cons, ih,
      hdigit ⟨b.toNat / 16 % 16, Nat.mod_lt _ (by decide)⟩,
      hdigit ⟨b.toNat % 16, Nat.mod_lt _ (by decide)⟩]
    rfl

theorem blobText_eq (bytes : List UInt8) :
    Literal.blobText bytes = ['X'] ++ Quoted.quote (Text.hexBytes bytes) := by
  rw [Quoted.quote, escapeChar_hexBytes]
  rfl

theorem mentions_blob (bytes : List UInt8) : Mentions (Literal.blobText bytes) [] := by
  rw [blobText_eq]
  exact (mentions_quoted _).prepend (by decide)

theorem mentions_commas {texts : List Text} {names : List (List Text)}
    (h : List.Forall₂ Mentions texts names) :
    Mentions (", ".toList.intercalate texts) names.flatten :=
  mentions_intercalate (by decide) (fun _ => isBoundary_comma _) h

theorem mentions_list {texts : List Text} (h : ∀ s ∈ texts, Mentions s []) :
    Mentions (Literal.listText texts) [] := by
  have hnone : List.Forall₂ Mentions texts (texts.map fun _ => []) :=
    List.forall₂_map_right_iff.mpr (List.forall₂_same.mpr h)
  have hflat : (texts.map fun _ => ([] : List Text)).flatten = [] := by simp
  exact hflat ▸ (mentions_commas hnone).paren

/-- The names that the identifier of a value mentions: the star is no name. -/
def nameOf : Value → List Text
  | .text ['*'] => []
  | v => [v.plain]

/-- The names that the literal of a value mentions: the keys of a mapping. -/
def assigned : Value → List Text
  | .mapping entries => entries.flatMap fun entry => nameOf entry.1
  | _ => []

theorem identifier_cases (k : Value) :
    (Identifier.ofValue k = ['*'] ∧ nameOf k = []) ∨
      (Identifier.ofValue k = Identifier.quote k.plain ∧ nameOf k = [k.plain]) := by
  by_cases hstar : k = .text ['*']
  · subst hstar
    exact Or.inl ⟨rfl, rfl⟩
  · exact Or.inr ⟨Identifier.ofValue.eq_2 k hstar, nameOf.eq_2 k hstar⟩

theorem identifier_head (k : Value) :
    ∃ c rest, Identifier.ofValue k = c :: rest ∧ c ≠ '(' := by
  rcases identifier_cases k with ⟨hk, -⟩ | ⟨hk, -⟩
  · exact ⟨'*', [], hk, by decide⟩
  · exact ⟨Identifier.backQuote, _, hk, by decide⟩

theorem Mentions.assign {s : Text} {names : List Text} (h : Mentions s names) (k : Value) :
    Mentions (Identifier.ofValue k ++ '=' :: s) (nameOf k ++ names) := by
  rcases identifier_cases k with ⟨hk, hname⟩ | ⟨hk, hname⟩
  · rw [hk, hname]
    exact h.prepend (w := ['*', '=']) (by decide)
  · rw [hk, hname]
    exact h.named k.plain (by decide)

mutual

/-- The literal of a value mentions no identifier but the keys of a mapping that stands by
itself. -/
theorem mentions_ofValue {zone : ZoneChoice} : ∀ {v : Value} {nested : Bool} {s : Text},
    Literal.ofValue zone nested v = .ok s → Mentions s (if nested then [] else assigned v)
  | .null, nested, _, h => by
    cases h
    cases nested <;> exact mentions_plain (by decide)
  | .bool b, nested, _, h => by
    cases h
    cases nested <;> cases b <;> exact mentions_plain (by decide)
  | .number n _, nested, _, h => by
    have hnumber := mentions_token (isToken_ofNumber h).2
    cases nested <;> exact hnumber
  | .text s, nested, _, h => by
    cases h
    cases nested <;> exact mentions_quoted s
  | .date d, nested, _, h => by
    obtain ⟨shown, -, rfl⟩ := map_eq_ok.mp h
    cases nested <;> exact mentions_quoted shown
  | .moment m, nested, _, h => by
    obtain ⟨shown, -, rfl⟩ := map_eq_ok.mp h
    cases nested <;> exact mentions_quoted shown
  | .blob _ bytes, nested, _, h => by
    cases h
    cases nested <;> exact mentions_blob bytes
  | .group _ items, nested, _, h => by
    obtain ⟨texts, htexts, rfl⟩ := map_eq_ok.mp h
    have hlist := mentions_list (mentions_ofItems htexts)
    cases nested <;> exact hlist
  | .span s, nested, _, h => by
    cases h
    have hlist : Mentions (Literal.listText (s.toList.map Text.ofInt)) [] := by
      refine mentions_list fun text htext => ?_
      obtain ⟨n, -, rfl⟩ := List.mem_map.mp htext
      exact mentions_token (isToken_ofInt n)
    cases nested <;> exact hlist
  | .mapping entries, nested, _, h => by
    cases nested with
    | false =>
      obtain ⟨texts, htexts, rfl⟩ := map_eq_ok.mp h
      exact mentions_commas (mentions_ofEntries htexts)
    | true =>
      cases h
      exact mentions_quoted _
  | .foreign _ shown _, nested, _, h => by
    cases h
    cases nested <;> exact mentions_quoted shown
  | .node c, nested, _, h => by
    cases h
    cases nested <;> exact mentions_quoted c.display
termination_by structural v => v

/-- The literals of nested values mention nothing. -/
theorem mentions_ofItems {zone : ZoneChoice} : ∀ {items : List Value} {texts : List Text},
    Literal.ofItems zone items = .ok texts → ∀ s ∈ texts, Mentions s []
  | [], _, h => by
    cases h
    intro s hs
    cases hs
  | v :: rest, _, h => by
    obtain ⟨s, hs, h⟩ := bind_eq_ok.mp h
    obtain ⟨texts, htexts, h⟩ := bind_eq_ok.mp h
    cases h
    intro text htext
    rcases List.mem_cons.mp htext with rfl | htext
    · exact mentions_ofValue hs
    · exact mentions_ofItems htexts text htext
termination_by structural items => items

/-- Every assignment mentions its key. -/
theorem mentions_ofEntries {zone : ZoneChoice} : ∀ {entries : List (Value × Value)}
    {texts : List Text}, Literal.ofEntries zone entries = .ok texts →
      List.Forall₂ Mentions texts (entries.map fun entry => nameOf entry.1)
  | [], _, h => by
    cases h
    exact .nil
  | (k, v) :: rest, _, h => by
    obtain ⟨s, hs, h⟩ := bind_eq_ok.mp h
    obtain ⟨texts, htexts, h⟩ := bind_eq_ok.mp h
    cases h
    have hassign := (mentions_ofValue hs).assign k
    rw [if_pos rfl, List.append_nil] at hassign
    exact .cons hassign (mentions_ofEntries htexts)
termination_by structural entries => entries

end

end SqlGateway.Sql
