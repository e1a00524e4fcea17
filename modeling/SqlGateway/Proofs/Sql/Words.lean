import SqlGateway.Condition.Operator
import SqlGateway.Proofs.List
import SqlGateway.Proofs.Sql.Scanner

/-!
# Words and operators in expressions

Between the parts of an expression there may be blanks. Words are taken whole and compared in
capitals, symbols are taken as long as they go on, and the operator of a comparison is a run of
symbols, one word, or two words of which the first is NOT or the second is.

None of this looks past a closing parenthesis: whatever is found at the front of a text is also
found when the parenthesis and more text stand behind it.
-/

namespace SqlGateway.Sql

/-- A blank between the parts of an expression. -/
def isBlank (c : Char) : Bool := c = ' ' || ('\t' ≤ c && c ≤ '\r')

/-- The text without the blanks in front. -/
def skipBlanks (s : Text) : Text := s.dropWhile isBlank

/-- A character of a word. -/
def isWordChar (c : Char) : Bool := c.isAlphanum || c = '_'

/-- A character of a symbolic operator. -/
def isSymbol (c : Char) : Bool := c = '=' || c = '!' || c = '<' || c = '>'

/-- The word at the front of a text, in capitals. -/
def firstWord (s : Text) : Text := (s.takeWhile isWordChar).map Char.toUpper

/-- What follows the word at the front of a text. -/
def afterWord (s : Text) : Text := s.dropWhile isWordChar

/-- The given word at the front of a text, behind blanks. -/
def scanWord? (word s : Text) : Option (Unit × Text) :=
  if firstWord (skipBlanks s) = word then some ((), afterWord (skipBlanks s)) else none

/-- The operator at the front of a text. The word NOT always belongs to the next one, and IS takes
a NOT that follows. -/
def scanOperator? (s : Text) : Option (Operator × Text) :=
  if s.takeWhile isSymbol ≠ [] then
    (Operator.read? (s.takeWhile isSymbol)).map fun o => (o, s.dropWhile isSymbol)
  else
    let rest := skipBlanks (afterWord s)
    if firstWord s = "NOT".toList ∨ firstWord s = "IS".toList ∧ firstWord rest = "NOT".toList then
      (Operator.read? (firstWord s ++ ' ' :: firstWord rest)).map fun o => (o, afterWord rest)
    else (Operator.read? (firstWord s)).map fun o => (o, afterWord s)

/-! ## Operators by what they compare with -/

/-- The operator compares with one value: it tests neither for being in a list nor for lying in a
range. -/
def IsPlain (o : Operator) : Prop := ∀ negated, o ≠ .member negated ∧ o ≠ .between negated

theorem isPlain_equal : IsPlain .equal := by
  intro negated
  constructor <;> rintro ⟨⟩

theorem operator_cases (o : Operator) :
    (∃ negated, o = .member negated) ∨ (∃ negated, o = .between negated) ∨ IsPlain o := by
  cases o with
  | member negated => exact Or.inl ⟨negated, rfl⟩
  | between negated => exact Or.inr (Or.inl ⟨negated, rfl⟩)
  | _ => exact Or.inr (Or.inr fun _ => ⟨Operator.noConfusion, Operator.noConfusion⟩)

/-! ## Up to a closing parenthesis -/

@[simp] theorem skipBlanks_close (s t : Text) :
    skipBlanks (s ++ ')' :: t) = skipBlanks s ++ ')' :: t := dropWhile_append_cons (by decide) s t

@[simp] theorem firstWord_close (s t : Text) : firstWord (s ++ ')' :: t) = firstWord s :=
  congrArg (List.map Char.toUpper) (takeWhile_append_cons (by decide) s t)

@[simp] theorem afterWord_close (s t : Text) :
    afterWord (s ++ ')' :: t) = afterWord s ++ ')' :: t := dropWhile_append_cons (by decide) s t

theorem skipBlanks_length (s : Text) : (skipBlanks s).length ≤ s.length :=
  (List.dropWhile_suffix isBlank).length_le

theorem afterWord_length {s : Text} (h : firstWord s ≠ []) : (afterWord s).length < s.length :=
  length_dropWhile_lt fun hnil => h (by rw [firstWord, hnil, List.map_nil])

/-- A scanner may start behind blanks. -/
theorem Scanner.spaced {α : Type} {scan : Text → Option (α × Text)} (h : Scanner scan) :
    Scanner fun s => scan (skipBlanks s) where
  shorter hs := Nat.lt_of_lt_of_le (h.shorter hs) (skipBlanks_length _)
  more hs t := by simpa using h.more hs t

theorem scanner_word {word : Text} (hw : word ≠ []) : Scanner (scanWord? word) := by
  have hscan : Scanner fun s => if firstWord s = word then some ((), afterWord s) else none := by
    constructor
    · intro s a r hs
      split at hs
      · next hword =>
        cases hs
        exact afterWord_length (hword ▸ hw)
      · cases hs
    · intro s a r hs t
      split at hs
      · next hword =>
        cases hs
        simp only [firstWord_close, afterWord_close, if_pos hword]
      · cases hs
  exact hscan.spaced

theorem scanOperator?_close (s t : Text) : scanOperator? (s ++ ')' :: t) =
    (scanOperator? s).map fun (o, r) => (o, r ++ ')' :: t) := by
  have hsymbol : isSymbol ')' = false := by decide
  simp only [scanOperator?, takeWhile_append_cons hsymbol, dropWhile_append_cons hsymbol,
    firstWord_close, afterWord_close, skipBlanks_close]
  split
  · rw [Option.map_map]
    rfl
  · split
    · rw [Option.map_map]
      rfl
    · rw [Option.map_map]
      rfl

theorem scanner_operator : Scanner scanOperator? := by
  constructor
  · intro s o r hs
    unfold scanOperator? at hs
    split at hs
    · next hsymbols =>
      obtain ⟨o', -, he⟩ := Option.map_eq_some_iff.mp hs
      cases he
      exact length_dropWhile_lt hsymbols
    · dsimp only at hs
      have hrest : (afterWord (skipBlanks (afterWord s))).length ≤ (afterWord s).length :=
        Nat.le_trans (List.dropWhile_suffix isWordChar).length_le (skipBlanks_length _)
      split at hs
      · next hpair =>
        obtain ⟨o', -, he⟩ := Option.map_eq_some_iff.mp hs
        cases he
        have hne : firstWord s ≠ [] := by
          rcases hpair with h | ⟨h, -⟩ <;> rw [h] <;> decide
        exact Nat.lt_of_le_of_lt hrest (afterWord_length hne)
      · obtain ⟨o', ho, he⟩ := Option.map_eq_some_iff.mp hs
        cases he
        refine afterWord_length fun hnil => ?_
        have hnone : Operator.read? [] = none := by decide
        rw [hnil, hnone] at ho
        cases ho
  · intro s o r hs t
    rw [scanOperator?_close, hs, Option.map_some]

/-! ## Operators as they are written -/

/-- A run of symbols is an operator if nothing of the kind follows. -/
theorem scanOperator?_symbols {w t : Text} (hne : w ≠ []) (hw : ∀ c ∈ w, isSymbol c = true)
    (ht : ∀ c ∈ t.head?, isSymbol c = false) :
    scanOperator? (w ++ t) = (Operator.read? w).map fun o => (o, t) := by
  rw [scanOperator?, takeWhile_stop hw ht, dropWhile_stop hw ht, if_pos hne]

/-- The text is a word in capitals. -/
def IsCapitals (w : Text) : Prop :=
  ∀ c ∈ w, isWordChar c = true ∧ isSymbol c = false ∧ c.toUpper = c

instance (w : Text) : Decidable (IsCapitals w) := List.decidableBAll _ w

namespace IsCapitals

variable {w : Text} (hw : IsCapitals w) (t : Text)

include hw

theorem takeWhile_isSymbol : (w ++ ' ' :: t).takeWhile isSymbol = [] := by
  cases w with
  | nil => rfl
  | cons c w =>
    have hc := (hw c (List.mem_cons_self ..)).2.1
    exact List.takeWhile_cons_of_neg (ne_true_of_eq_false hc)

theorem firstWord_eq : firstWord (w ++ ' ' :: t) = w := by
  have hspace : ∀ c ∈ (' ' :: t).head?, isWordChar c = false := by simp [isWordChar]
  rw [firstWord, takeWhile_stop (fun c hc => (hw c hc).1) hspace]
  exact (List.map_congr_left fun c hc => (hw c hc).2.2).trans (List.map_id w)

theorem afterWord_eq : afterWord (w ++ ' ' :: t) = ' ' :: t :=
  dropWhile_stop (fun c hc => (hw c hc).1) (by simp [isWordChar])

end IsCapitals

/-- A word is an operator if it does not belong to the next one. -/
theorem scanOperator?_word {w t : Text} (hw : IsCapitals w ∧ w ≠ "NOT".toList)
    (his : w = "IS".toList → firstWord (skipBlanks t) ≠ "NOT".toList) :
    scanOperator? (w ++ ' ' :: t) = (Operator.read? w).map fun o => (o, ' ' :: t) := by
  obtain ⟨hw, hnot⟩ := hw
  have hblank : skipBlanks (' ' :: t) = skipBlanks t := List.dropWhile_cons_of_pos (by decide)
  rw [scanOperator?, hw.takeWhile_isSymbol, if_neg (not_not_intro rfl), hw.firstWord_eq,
    hw.afterWord_eq, hblank]
  exact if_neg fun hpair => hpair.elim hnot fun ⟨hword, hnext⟩ => his hword hnext

/-- The first of two words belongs to the second, and both are written in capitals. -/
def IsPair (v w : Text) : Prop :=
  IsCapitals v ∧ IsCapitals w ∧ (v = "NOT".toList ∨ v = "IS".toList ∧ w = "NOT".toList)

instance (v w : Text) : Decidable (IsPair v w) :=
  inferInstanceAs (Decidable
    (IsCapitals v ∧ IsCapitals w ∧ (v = "NOT".toList ∨ v = "IS".toList ∧ w = "NOT".toList)))

theorem scanOperator?_pair {v w t : Text} (h : IsPair v w)
    (hstart : skipBlanks (w ++ ' ' :: t) = w ++ ' ' :: t) :
    scanOperator? (v ++ ' ' :: (w ++ ' ' :: t)) =
      (Operator.read? (v ++ ' ' :: w)).map fun o => (o, ' ' :: t) := by
  obtain ⟨hv, hw, hpair⟩ := h
  have hblank : skipBlanks (' ' :: (w ++ ' ' :: t)) = w ++ ' ' :: t :=
    (List.dropWhile_cons_of_pos (by decide)).trans hstart
  rw [scanOperator?, hv.takeWhile_isSymbol, if_neg (not_not_intro rfl), hv.firstWord_eq,
    hv.afterWord_eq, hblank]
  simp only [hw.firstWord_eq, hw.afterWord_eq, if_pos hpair]

/-- An operator is read before a space and a text that does not go on with NOT. -/
theorem scanOperator?_text (o : Operator) {t : Text}
    (ht : firstWord (skipBlanks t) ≠ "NOT".toList) :
    scanOperator? (o.text ++ ' ' :: t) = some (o, ' ' :: t) := by
  have hread := congrArg (Option.map fun o => (o, ' ' :: t)) (Operator.read?_text o)
  have hword (h : IsCapitals o.text ∧ o.text ≠ "NOT".toList) :=
    (scanOperator?_word h fun _ => ht).trans hread
  have hpair (v w : Text) (htext : o.text = v ++ ' ' :: w) (h : IsPair v w)
      (hstart : skipBlanks (w ++ ' ' :: t) = w ++ ' ' :: t) :
      scanOperator? (o.text ++ ' ' :: t) = some (o, ' ' :: t) := by
    rw [htext] at hread ⊢
    rw [List.append_assoc]
    exact (scanOperator?_pair h hstart).trans hread
  cases o with
  | like negated =>
    cases negated with
    | false => exact hword (by decide)
    | true => exact hpair "NOT".toList "LIKE".toList rfl (by decide) rfl
  | member negated =>
    cases negated with
    | false => exact hword (by decide)
    | true => exact hpair "NOT".toList "IN".toList rfl (by decide) rfl
  | identical negated =>
    cases negated with
    | false => exact hword (by decide)
    | true => exact hpair "IS".toList "NOT".toList rfl (by decide) rfl
  | between negated =>
    cases negated with
    | false => exact hword (by decide)
    | true => exact hpair "NOT".toList "BETWEEN".toList rfl (by decide) rfl
  | matching negated =>
    cases negated with
    | false => exact hword (by decide)
    | true => exact hpair "NOT".toList "REGEXP".toList rfl (by decide) rfl
  | rlike => exact hword (by decide)
  | _ => exact (scanOperator?_symbols (by decide) (by decide) (by simp [isSymbol])).trans hread

end SqlGateway.Sql
