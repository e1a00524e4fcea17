import SqlGateway.Proofs.Sql.ReadBack
import SqlGateway.Proofs.Sql.Words
import SqlGateway.Proofs.Text.Basic

/-!
# Predicates

A predicate tests a column: against one constant, for being among the members of a list that is
not empty, or for lying in a range. `Predicate.scan?` reads one from the front of a text: a quoted
name, an operator, and the constants that go with the operator. The AND of a range belongs to the
predicate.

The second half has one lemma for each form in which a predicate is written. A predicate is read
whole before every boundary.
-/

namespace SqlGateway.Sql

/-- A test of a column. -/
inductive Predicate where
  | test (column : Text) (operator : Operator) (c : Constant)
  | member (column : Text) (negated : Bool) (items : List Constant)
  | range (column : Text) (negated : Bool) (low high : Constant)

namespace Predicate

/-! ## The scanner -/

/-- A constant, possibly behind blanks, with no word right after it. -/
def scanConstant? (s : Text) : Option (Constant × Text) :=
  (Constant.scan? (skipBlanks s)).filter fun (_, rest) => !rest.head?.any isWordChar

/-- The members of a list that is not empty. -/
def members? : Constant → Option (List Constant)
  | .list (c :: items) => some (c :: items)
  | _ => none

/-- What stands behind the operator of a predicate. -/
def scanRight? (column : Text) : Operator → Text → Option (Predicate × Text)
  | .member negated, s =>
    (scanConstant? s).bind fun (c, rest) =>
      (members? c).map fun items => (.member column negated items, rest)
  | .between negated, s =>
    (scanConstant? s).bind fun (low, rest) =>
      (scanWord? "AND".toList rest).bind fun (_, rest) =>
        (scanConstant? rest).map fun (high, rest) => (.range column negated low high, rest)
  | operator, s => (scanConstant? s).map fun (c, rest) => (.test column operator c, rest)

/-- The predicate at the front of a text, and what follows it. -/
def scan? (s : Text) : Option (Predicate × Text) :=
  (Identifier.scan? s).bind fun (column, rest) =>
    (scanOperator? (skipBlanks rest)).bind fun (operator, rest) => scanRight? column operator rest

theorem scanner_identifier : Scanner Identifier.scan? := by
  constructor
  · intro s a r h
    unfold Identifier.scan? at h
    split at h
    · have := Identifier.scanBody?_length h
      simp only [List.length_cons]
      omega
    · cases h
  · intro s a r h t
    unfold Identifier.scan? at h
    split at h
    · exact Identifier.scanBody?_append h (by simp [Identifier.backQuote])
    · cases h

theorem scanner_constant : Scanner scanConstant? := by
  have hscan := Constant.scanner_scan.spaced
  constructor
  · intro s a r h
    obtain ⟨hc, -⟩ := Option.filter_eq_some_iff.mp h
    exact hscan.shorter hc
  · intro s a r h t
    obtain ⟨hc, hend⟩ := Option.filter_eq_some_iff.mp h
    refine Option.filter_eq_some_iff.mpr ⟨hscan.more hc t, ?_⟩
    cases r with
    | nil => rfl
    | cons d r => exact hend

theorem scanner_right (column : Text) (operator : Operator) :
    Scanner (scanRight? column operator) := by
  cases operator with
  | member negated => exact scanner_constant.filterMap members? _
  | between negated =>
    exact scanner_constant.bind fun low => (scanner_word (by decide)).bind fun _ =>
      scanner_constant.map fun high => Predicate.range column negated low high
  | _ => exact scanner_constant.map fun c => Predicate.test column _ c

theorem scanner_predicate : Scanner scan? :=
  scanner_identifier.bind fun column =>
    scanner_operator.spaced.bind fun operator => scanner_right column operator

/-! ## Predicates as they are written -/

/-- A literal begins neither with a blank nor with a symbol, and with an N only as NULL does. -/
theorem isHead_facts {c : Char} (h : Constant.isHead c = true) :
    isBlank c = false ∧ isSymbol c = false ∧ (c = 'N' ∨ c.toUpper ≠ 'N') := by
  have hall : ∀ c ∈ "NtfX'(-".toList ++ "0123456789".toList,
      isBlank c = false ∧ isSymbol c = false ∧ (c = 'N' ∨ c.toUpper ≠ 'N') := by decide
  refine hall c (List.mem_append.mpr ?_)
  rcases Bool.or_eq_true_iff.mp h with h | h
  · exact Or.inl (List.contains_iff_mem.mp h)
  · exact Or.inr (Text.mem_digits h)

theorem skipBlanks_text {s : Text} {c : Constant} (hs : Constant.ReadsAs s c) (t : Text) :
    skipBlanks (s ++ t) = s ++ t := by
  obtain ⟨d, rest, rfl, hd⟩ := hs.head
  simp [skipBlanks, (isHead_facts hd).1]

/-- No literal begins with the word NOT. -/
theorem firstWord_text {s : Text} {c : Constant} (hs : Constant.ReadsAs s c) (t : Text) :
    firstWord (skipBlanks (s ++ t)) ≠ "NOT".toList := by
  rw [skipBlanks_text hs]
  obtain ⟨d, rest, rfl, hd⟩ := hs.head
  intro hword
  rcases (isHead_facts hd).2.2 with rfl | hupper
  · have hscan := hs [] isBoundary_nil
    rw [List.append_nil] at hscan
    rw [Constant.scan?_null hscan, List.append_nil] at hword
    injection hword with _ hword
    injection hword with hU
    exact absurd hU (by decide)
  · rw [firstWord, List.cons_append, List.takeWhile_cons] at hword
    split at hword
    · injection hword with hN
      exact hupper hN
    · cases hword

/-- A literal is read whole before a boundary. -/
theorem scanConstant?_text {s t : Text} {c : Constant} (hs : Constant.ReadsAs s c)
    (ht : IsBoundary t) : scanConstant? (s ++ t) = some (c, t) := by
  refine Option.filter_eq_some_iff.mpr ⟨?_, ?_⟩
  · rw [skipBlanks_text hs]
    exact hs t ht
  · cases t with
    | nil => rfl
    | cons e t => rcases ht e rfl with rfl | rfl | rfl <;> rfl

theorem scanRight?_space (column : Text) (operator : Operator) (s : Text) :
    scanRight? column operator (' ' :: s) = scanRight? column operator s := by
  cases operator <;> rfl

theorem skipBlanks_operator (o : Operator) (t : Text) :
    skipBlanks (' ' :: (o.text ++ t)) = o.text ++ t := by
  cases o with
  | like negated | member negated | identical negated | between negated | matching negated =>
    cases negated <;> rfl
  | _ => rfl

/-- A name, an operator and a literal between spaces. -/
theorem scan?_operator (column : Text) (o : Operator) {s : Text} {c : Constant}
    (hs : Constant.ReadsAs s c) (t : Text) :
    scan? (Identifier.quote column ++ ' ' :: (o.text ++ ' ' :: (s ++ t))) =
      scanRight? column o (s ++ t) := by
  have hname := Identifier.scan?_quote column (t := ' ' :: (o.text ++ ' ' :: (s ++ t)))
    (by simp [Identifier.backQuote])
  rw [scan?, hname, Option.bind_some]
  dsimp only
  rw [skipBlanks_operator, scanOperator?_text o (firstWord_text hs t), Option.bind_some]
  exact scanRight?_space column o (s ++ t)

theorem scanRight?_plain (column : Text) {o : Operator} (ho : IsPlain o) {s t : Text}
    {c : Constant} (hs : Constant.ReadsAs s c) (ht : IsBoundary t) :
    scanRight? column o (s ++ t) = some (.test column o c, t) := by
  have hscan := scanConstant?_text hs ht
  cases o with
  | member negated => exact absurd rfl (ho negated).1
  | between negated => exact absurd rfl (ho negated).2
  | _ => exact congrArg (Option.map _) hscan

theorem scan?_test (column : Text) {o : Operator} (ho : IsPlain o) {s t : Text} {c : Constant}
    (hs : Constant.ReadsAs s c) (ht : IsBoundary t) :
    scan? (Identifier.quote column ++ ' ' :: (o.text ++ ' ' :: (s ++ t))) =
      some (.test column o c, t) :=
  (scan?_operator column o hs t).trans (scanRight?_plain column ho hs ht)

/-- An equality without spaces. -/
theorem scan?_equality (column : Text) {s t : Text} {c : Constant} (hs : Constant.ReadsAs s c)
    (ht : IsBoundary t) :
    scan? (Identifier.quote column ++ '=' :: (s ++ t)) = some (.test column .equal c, t) := by
  have hname := Identifier.scan?_quote column (t := '=' :: (s ++ t))
    (by simp [Identifier.backQuote])
  have hsymbol : scanOperator? ('=' :: (s ++ t)) = some (.equal, s ++ t) := by
    obtain ⟨d, rest, rfl, hd⟩ := hs.head
    refine (scanOperator?_symbols (w := ['=']) (by simp) (by decide) ?_).trans rfl
    intro e he
    cases he
    exact (isHead_facts hd).2.1
  have hblank : skipBlanks ('=' :: (s ++ t)) = '=' :: (s ++ t) := rfl
  rw [scan?, hname, Option.bind_some]
  dsimp only
  rw [hblank, hsymbol, Option.bind_some]
  exact scanRight?_plain column isPlain_equal hs ht

theorem scan?_member (column : Text) (negated : Bool) {s t : Text} {c : Constant}
    {items : List Constant} (hs : Constant.ReadsAs s (.list (c :: items))) (ht : IsBoundary t) :
    scan? (Identifier.quote column ++ ' ' :: ((Operator.member negated).text ++ ' ' :: (s ++ t))) =
      some (.member column negated (c :: items), t) := by
  rw [scan?_operator column _ hs t, scanRight?, scanConstant?_text hs ht]
  rfl

theorem scan?_range (column : Text) (negated : Bool) {low high t : Text} {c d : Constant}
    (hlow : Constant.ReadsAs low c) (hhigh : Constant.ReadsAs high d) (ht : IsBoundary t) :
    scan? (Identifier.quote column ++ ' ' :: ((Operator.between negated).text ++
      ' ' :: (low ++ (" AND ".toList ++ (high ++ t))))) = some (.range column negated c d, t) := by
  have hand : scanWord? "AND".toList (" AND ".toList ++ (high ++ t)) =
      some ((), ' ' :: (high ++ t)) := rfl
  have hspace : scanConstant? (' ' :: (high ++ t)) = scanConstant? (high ++ t) := rfl
  have hfirst : scanConstant? (low ++ (" AND ".toList ++ (high ++ t))) =
      some (c, " AND ".toList ++ (high ++ t)) := scanConstant?_text hlow (isBoundary_space _)
  rw [scan?_operator column _ hlow, scanRight?, hfirst, Option.bind_some]
  dsimp only
  rw [hand, Option.bind_some, hspace, scanConstant?_text hhigh ht, Option.map_some]

end Predicate

end SqlGateway.Sql
