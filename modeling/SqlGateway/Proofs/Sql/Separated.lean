import SqlGateway.Proofs.Sql.ReadBack

/-!
# Lists of items

`separated?` reads items with a comma between neighbours, as many as there are, and `parens?` reads
such a list in parentheses, where it may be empty. Both are given the scanner of one item. What an
item is written as has to be read back before every boundary (`Reads`); then so is a list of them,
and a list in parentheses is an item again (`reads_parens`).
-/

namespace SqlGateway.Sql

section

variable {α : Type} (item : Text → Option (α × Text))

/-- The items at the front of a text, and what follows them. -/
def separated? (s : Text) : Option (List α × Text) :=
  match item s with
  | none => none
  | some (a, ',' :: rest) =>
    if rest.length < s.length then (separated? rest).map fun (more, after) => (a :: more, after)
    else none
  | some (a, rest) => some ([a], rest)
termination_by s.length

/-- The items in the parentheses at the front of a text, and what follows the parentheses. -/
def parens? : Text → Option (List α × Text)
  | '(' :: ')' :: rest => some ([], rest)
  | '(' :: rest =>
    match separated? item rest with
    | some (as, ')' :: after) => some (as, after)
    | _ => none
  | _ => none

/-- The text reads as the item, whatever stands behind it, and does not look like the end of a
list. -/
def Reads (s : Text) (a : α) : Prop :=
  (∃ c rest, s = c :: rest ∧ c ≠ ')') ∧ ∀ t, IsBoundary t → item (s ++ t) = some (a, t)

end

variable {α : Type} {item : Text → Option (α × Text)}

theorem separated?_last {s t : Text} {a : α} (h : item s = some (a, t))
    (ht : t.head? ≠ some ',') : separated? item s = some ([a], t) := by
  rw [separated?, h]
  cases t with
  | nil => rfl
  | cons c t =>
    have hc : c ≠ ',' := fun he => ht (congrArg some he)
    split
    · next heq => cases heq
    · next heq =>
      cases heq
      exact absurd rfl hc
    · next heq =>
      cases heq
      rfl

theorem separated?_next {s t : Text} {a : α} (h : item s = some (a, ',' :: t))
    (hlength : t.length < s.length) :
    separated? item s = (separated? item t).map fun (more, after) => (a :: more, after) := by
  rw [separated?, h]
  exact if_pos hlength

theorem separated?_texts {s : Text} {texts : List Text} {a : α} {as : List α}
    (hs : Reads item s a) (htexts : List.Forall₂ (Reads item) texts as) {t : Text}
    (ht : IsBoundary t) (hcomma : t.head? ≠ some ',') :
    separated? item ([','].intercalate (s :: texts) ++ t) = some (a :: as, t) := by
  induction htexts generalizing s a with
  | nil =>
    rw [List.intercalate_singleton]
    exact separated?_last (hs.2 t ht) hcomma
  | @cons next b texts as hnext _ ih =>
    have htext : [','].intercalate (s :: next :: texts) ++ t =
        s ++ ',' :: ([','].intercalate (next :: texts) ++ t) := by
      simp
    rw [htext, separated?_next (hs.2 _ (isBoundary_comma _)), ih hnext, Option.map_some]
    simp only [List.length_append, List.length_cons]
    omega

/-- Items with nothing behind them are read to the end. -/
theorem separated?_all {texts : List Text} {as : List α} (hne : texts ≠ [])
    (h : List.Forall₂ (Reads item) texts as) :
    separated? item ([','].intercalate texts) = some (as, []) := by
  cases h with
  | nil => exact absurd rfl hne
  | cons hs htexts =>
    have hscan := separated?_texts hs htexts isBoundary_nil nofun
    rwa [List.append_nil] at hscan

theorem parens?_open {c : Char} (hc : c ≠ ')') {rest after : Text} {as : List α}
    (h : separated? item (c :: rest) = some (as, ')' :: after)) :
    parens? item ('(' :: c :: rest) = some (as, after) := by
  unfold parens?
  split
  · next heq =>
    cases heq
    exact absurd rfl hc
  · next heq =>
    cases heq
    rw [h]
    rfl
  · next hopen => exact absurd rfl (hopen (c :: rest))

/-- A list in parentheses is read back, whatever stands behind it. -/
theorem parens?_texts {texts : List Text} {as : List α} (h : List.Forall₂ (Reads item) texts as)
    (t : Text) : parens? item ('(' :: [','].intercalate texts ++ ')' :: t) = some (as, t) := by
  cases h with
  | nil => rfl
  | @cons s a texts as hs htexts =>
    have hlist := separated?_texts hs htexts (isBoundary_close t) (by simp)
    obtain ⟨c, rest, rfl, hc⟩ := hs.1
    rw [List.cons_append]
    rw [List.intercalate_cons_cons_left, List.cons_append] at hlist ⊢
    exact parens?_open hc hlist

/-- A list in parentheses is an item itself. -/
theorem reads_parens {texts : List Text} {as : List α} (h : List.Forall₂ (Reads item) texts as) :
    Reads (parens? item) ('(' :: [','].intercalate texts ++ [')']) as := by
  refine ⟨⟨'(', _, rfl, by decide⟩, fun t _ => ?_⟩
  have htext : '(' :: [','].intercalate texts ++ [')'] ++ t =
      '(' :: [','].intercalate texts ++ ')' :: t := by simp
  rw [htext]
  exact parens?_texts h t

/-! ## Identifiers and literals -/

theorem reads_identifier (name : Text) :
    Reads Identifier.scan? (Identifier.quote name) name := by
  refine ⟨⟨Identifier.backQuote, _, rfl, by decide⟩, fun t ht => ?_⟩
  exact Identifier.scan?_quote name (ht.head_ne (by decide))

/-- The literal at the front of a text as it is written, and what follows it. -/
def literal? (s : Text) : Option (Text × Text) :=
  (Constant.scan? s).map fun (_, rest) => (s.take (s.length - rest.length), rest)

theorem reads_literal {zone : ZoneChoice} {v : Value} {s : Text}
    (hv : Constant.IsExpression false v) (h : Literal.ofValue zone false v = .ok s) :
    Reads literal? s s := by
  obtain ⟨c, -, hread⟩ := Constant.readsAs_ofValue hv h
  constructor
  · obtain ⟨d, rest, rfl, hd⟩ := hread.head
    refine ⟨d, rest, rfl, ?_⟩
    rintro rfl
    exact absurd hd (by decide)
  · intro t ht
    have hlength : (s ++ t).length - t.length = s.length := by
      rw [List.length_append]
      omega
    rw [literal?, hread t ht, Option.map_some]
    simp only [hlength, List.take_left]

end SqlGateway.Sql
