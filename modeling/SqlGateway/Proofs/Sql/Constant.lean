import Mathlib.Logic.Basic
import SqlGateway.Proofs.Sql.NumberToken
import SqlGateway.Proofs.Sql.Quotation
import SqlGateway.Proofs.Sql.Scanner
import SqlGateway.Sql.Literal

/-!
# Constants

What a literal stands for once it has been read: null, a truth value, a number by its token, a
string by its characters, bytes, or a list. `Constant.scan?` reads the grammar of literals from the
front of a text:

* `NULL`, `true`, `false`;
* a number token;
* a string between apostrophes with backslash escapes;
* `X` and hexadecimal digits between apostrophes;
* literals in parentheses with `, ` between neighbours, possibly none.

`Constant.ofValue` is the normal form of a value, the constant that its literal stands for.
-/

namespace SqlGateway.Sql

/-- What a literal stands for. -/
inductive Constant where
  | null
  | bool (b : Bool)
  | number (token : Text)
  | string (s : Text)
  | blob (bytes : List UInt8)
  | list (items : List Constant)

namespace Constant

/-! ## Numbers as integers -/

/-- The number that digits write out. -/
def natural? (digits : Text) : Option Nat :=
  if digits ≠ [] ∧ ∀ c ∈ digits, c.isDigit then some (Nat.ofDigitChars 10 digits 0) else none

/-- The integer that a number token without point and power of ten stands for. -/
def integer? : Constant → Option Int
  | .number ('-' :: digits) => (natural? digits).map fun n => -Int.ofNat n
  | .number digits => (natural? digits).map Int.ofNat
  | _ => none

/-! ## The scanner -/

/-- The value of a hexadecimal digit in either case. -/
def hexValue? (c : Char) : Option Nat :=
  if c.isDigit then some (c.toNat - 48)
  else if 'a' ≤ c ∧ c ≤ 'f' then some (c.toNat - 87)
  else if 'A' ≤ c ∧ c ≤ 'F' then some (c.toNat - 55)
  else none

/-- The byte of two hexadecimal digits. -/
def byte? (high low : Char) : Option UInt8 := do
  return UInt8.ofNat (16 * (← hexValue? high) + (← hexValue? low))

/-- Bytes as pairs of hexadecimal digits up to the closing apostrophe. -/
def scanHex? : Text → Option (List UInt8 × Text)
  | '\'' :: rest => some ([], rest)
  | high :: low :: rest =>
    match byte? high low with
    | some b => (scanHex? rest).map fun (bytes, after) => (b :: bytes, after)
    | none => none
  | _ => none

/-- Bytes between the apostrophes that stand after an X. -/
def scanBlob? (s : Text) : Option (List UInt8 × Text) := (s.dropPrefix? "X'".toList).bind scanHex?

/-- A literal that is no list, known by its first character. -/
def scanScalar? (s : Text) : Option (Constant × Text) :=
  match s with
  | 'N' :: _ => (s.dropPrefix? "NULL".toList).map fun rest => (.null, rest)
  | 't' :: _ => (s.dropPrefix? "true".toList).map fun rest => (.bool true, rest)
  | 'f' :: _ => (s.dropPrefix? "false".toList).map fun rest => (.bool false, rest)
  | 'X' :: _ => (scanBlob? s).map fun (bytes, rest) => (.blob bytes, rest)
  | '\'' :: _ => (Quoted.scan? s).map fun (s, rest) => (.string s, rest)
  | s => (NumberToken.scan? s).map fun (token, rest) => (.number token, rest)

mutual

/-- The constant of the literal at the front of a text, and what follows the literal. -/
def scan? (s : Text) : Option (Constant × Text) :=
  match s with
  | '(' :: ')' :: rest => some (.list [], rest)
  | '(' :: rest => (scanItems? rest).map fun (items, after) => (.list items, after)
  | s => scanScalar? s
termination_by (s.length, 0)

/-- The constants of the literals of a list up to its closing parenthesis, and what follows that. A
literal is never empty, so the rest of the list is always shorter. -/
def scanItems? (s : Text) : Option (List Constant × Text) :=
  match scan? s with
  | some (c, ')' :: rest) => some ([c], rest)
  | some (c, ',' :: ' ' :: rest) =>
    if rest.length < s.length then
      (scanItems? rest).map fun (items, after) => (c :: items, after)
    else none
  | _ => none
termination_by (s.length, 1)

end

/-! ## The scanner decides by what it has seen -/

theorem endsNumber_of_isBoundary {t : Text} (ht : IsBoundary t) : NumberToken.EndsNumber t := by
  intro c hc
  rcases ht c hc with rfl | rfl | rfl <;> decide

theorem scanner_number : Scanner NumberToken.scan? where
  shorter h := NumberToken.scan?_length h
  more h t := NumberToken.scan?_append h (endsNumber_of_isBoundary (isBoundary_close t))

theorem scanner_quoted : Scanner Quoted.scan? := by
  constructor
  · intro s a r h
    unfold Quoted.scan? at h
    split at h
    · have := Quoted.scanBody?_length h
      simp only [List.length_cons]
      omega
    · cases h
  · intro s a r h t
    unfold Quoted.scan? at h
    split at h
    · exact Quoted.scanBody?_append h ((isBoundary_close t).head_ne (by decide))
    · cases h

/-- An apostrophe is no hexadecimal digit. -/
theorem scanHex?_pair {high low : Char} {b : UInt8} (h : byte? high low = some b) (s : Text) :
    scanHex? (high :: low :: s) =
      (scanHex? s).map fun (bytes, after) => (b :: bytes, after) := by
  rw [scanHex?]
  · rw [h]
  · intro hquote
    rw [hquote] at h
    cases h

theorem scanner_hex : Scanner scanHex? := by
  constructor
  · intro s a r h
    fun_induction scanHex? s generalizing a r with
    | case1 rest =>
      cases h
      simp
    | case2 high low rest _ b hb ih =>
      obtain ⟨⟨bytes, r'⟩, hr, he⟩ := Option.map_eq_some_iff.mp h
      cases he
      have := ih hr
      simp only [List.length_cons]
      omega
    | case3 | case4 => cases h
  · intro s a r h t
    fun_induction scanHex? s generalizing a r with
    | case1 rest =>
      cases h
      rfl
    | case2 high low rest _ b hb ih =>
      obtain ⟨⟨bytes, r'⟩, hr, he⟩ := Option.map_eq_some_iff.mp h
      cases he
      rw [List.cons_append, List.cons_append, scanHex?_pair hb, ih hr]
      rfl
    | case3 | case4 => cases h

theorem scanner_blob : Scanner scanBlob? := by
  constructor
  · intro s a r h
    obtain ⟨rest, hrest, h⟩ := Option.bind_eq_some_iff.mp h
    exact Nat.lt_trans (scanner_hex.shorter h) (length_dropPrefix?_lt (by decide) hrest)
  · intro s a r h t
    obtain ⟨rest, hrest, h⟩ := Option.bind_eq_some_iff.mp h
    unfold scanBlob?
    rw [dropPrefix?_more hrest, Option.bind_some]
    exact scanner_hex.more h t

/-- A text that begins like no other literal can only be a number. -/
theorem scanScalar?_number {c : Char} (hc : c ≠ 'N' ∧ c ≠ 't' ∧ c ≠ 'f' ∧ c ≠ 'X' ∧ c ≠ '\'')
    (s : Text) : scanScalar? (c :: s) =
      (NumberToken.scan? (c :: s)).map fun (token, rest) => (.number token, rest) := by
  obtain ⟨hN, ht, hf, hX, hq⟩ := hc
  unfold scanScalar?
  split
  · next he => exact absurd (List.head_eq_of_cons_eq he) hN
  · next he => exact absurd (List.head_eq_of_cons_eq he) ht
  · next he => exact absurd (List.head_eq_of_cons_eq he) hf
  · next he => exact absurd (List.head_eq_of_cons_eq he) hX
  · next he => exact absurd (List.head_eq_of_cons_eq he) hq
  · rfl

theorem scanner_scalar : Scanner scanScalar? := by
  have hnumber := scanner_number.map Constant.number
  constructor
  · intro s a r h
    unfold scanScalar? at h
    split at h
    · exact (scanner_dropPrefix? 'N' _ Constant.null).shorter h
    · exact (scanner_dropPrefix? 't' _ (Constant.bool true)).shorter h
    · exact (scanner_dropPrefix? 'f' _ (Constant.bool false)).shorter h
    · exact (scanner_blob.map Constant.blob).shorter h
    · exact (scanner_quoted.map Constant.string).shorter h
    · exact hnumber.shorter h
  · intro s a r h t
    unfold scanScalar? at h
    split at h
    · exact (scanner_dropPrefix? 'N' _ Constant.null).more h t
    · exact (scanner_dropPrefix? 't' _ (Constant.bool true)).more h t
    · exact (scanner_dropPrefix? 'f' _ (Constant.bool false)).more h t
    · exact (scanner_blob.map Constant.blob).more h t
    · exact (scanner_quoted.map Constant.string).more h t
    · next hN ht' hf hX hq =>
      cases s with
      | nil => cases h
      | cons c s =>
        have hc : c ≠ 'N' ∧ c ≠ 't' ∧ c ≠ 'f' ∧ c ≠ 'X' ∧ c ≠ '\'' :=
          ⟨fun he => hN s (he ▸ rfl), fun he => ht' s (he ▸ rfl), fun he => hf s (he ▸ rfl),
            fun he => hX s (he ▸ rfl), fun he => hq s (he ▸ rfl)⟩
        rw [List.cons_append, scanScalar?_number hc]
        exact hnumber.more h t

/-! ## The scanner by the first character -/

theorem scan?_empty (t : Text) : scan? ('(' :: ')' :: t) = some (.list [], t) := by
  rw [scan?]

theorem scan?_open {s : Text} (h : s.head? ≠ some ')') :
    scan? ('(' :: s) = (scanItems? s).map fun (items, after) => (.list items, after) := by
  rw [scan?]
  rintro rest rfl
  exact h rfl

theorem scan?_scalar {s : Text} (h : s.head? ≠ some '(') : scan? s = scanScalar? s := by
  rw [scan?]
  · rintro rest rfl
    exact h rfl
  · rintro rest rfl
    exact h rfl

theorem scanItems?_last {s rest : Text} {c : Constant} (h : scan? s = some (c, ')' :: rest)) :
    scanItems? s = some ([c], rest) := by
  rw [scanItems?, h]
  rfl

theorem scanItems?_next {s rest : Text} {c : Constant}
    (h : scan? s = some (c, ',' :: ' ' :: rest)) (hlt : rest.length < s.length) :
    scanItems? s = (scanItems? rest).map fun (items, after) => (c :: items, after) := by
  rw [scanItems?, h]
  exact if_pos hlt

/-- A character that literals begin with. -/
def isHead (c : Char) : Bool := "NtfX'(-".toList.contains c || c.isDigit

theorem scanScalar?_head {c : Char} {s : Text} {x : Constant × Text}
    (h : scanScalar? (c :: s) = some x) : isHead c = true := by
  by_cases hc : c ≠ 'N' ∧ c ≠ 't' ∧ c ≠ 'f' ∧ c ≠ 'X' ∧ c ≠ '\''
  · rw [scanScalar?_number hc] at h
    obtain ⟨⟨token, rest⟩, hscan, -⟩ := Option.map_eq_some_iff.mp h
    rcases NumberToken.scan?_head hscan with rfl | hdigit
    · decide
    · rw [isHead, hdigit, Bool.or_true]
  · simp only [not_and_or, not_not] at hc
    rcases hc with rfl | rfl | rfl | rfl | rfl <;> decide

theorem scan?_head {c : Char} {s : Text} {x : Constant × Text} (h : scan? (c :: s) = some x) :
    isHead c = true := by
  by_cases hopen : c = '('
  · rw [hopen]
    decide
  · rw [scan?_scalar (by simpa using hopen)] at h
    exact scanScalar?_head h

theorem scan?_null {s r : Text} {c : Constant} (h : scan? ('N' :: s) = some (c, r)) :
    'N' :: s = "NULL".toList ++ r := by
  rw [scan?_scalar (by simp)] at h
  obtain ⟨r', hr, he⟩ := Option.map_eq_some_iff.mp h
  cases he
  exact eq_of_dropPrefix? hr

/-- A list is its last literal, or its first literal and the rest of the list. -/
theorem scanItems?_cases {s r : Text} {items : List Constant} (h : scanItems? s = some (items, r)) :
    (∃ c, items = [c] ∧ scan? s = some (c, ')' :: r)) ∨
      ∃ c rest others, items = c :: others ∧ scan? s = some (c, ',' :: ' ' :: rest) ∧
        rest.length < s.length ∧ scanItems? rest = some (others, r) := by
  rw [scanItems?] at h
  split at h
  · next c rest hscan =>
    cases h
    exact Or.inl ⟨c, rfl, hscan⟩
  · next c rest hscan =>
    split at h
    · next hlt =>
      obtain ⟨⟨others, r'⟩, hrest, he⟩ := Option.map_eq_some_iff.mp h
      cases he
      exact Or.inr ⟨c, rest, others, rfl, hscan, hlt, hrest⟩
    · cases h
  · cases h

/-! ## The scanner of literals, nested or not -/

/-- What a scanner does at one text: the two properties of `Scanner` there. -/
def GoodAt {α : Type} (scan : Text → Option (α × Text)) (s : Text) : Prop :=
  ∀ a r, scan s = some (a, r) →
    r.length < s.length ∧ ∀ t, scan (s ++ ')' :: t) = some (a, r ++ ')' :: t)

theorem goodAt_scan {s : Text} (ih : ∀ s', s'.length < s.length → GoodAt scanItems? s') :
    GoodAt scan? s := by
  intro a r h
  by_cases hopen : s.head? = some '('
  · cases s with
    | nil => cases hopen
    | cons c s =>
      obtain rfl : c = '(' := by simpa using hopen
      by_cases hclose : s.head? = some ')'
      · cases s with
        | nil => cases hclose
        | cons c s =>
          obtain rfl : c = ')' := by simpa using hclose
          rw [scan?_empty] at h
          cases h
          refine ⟨by simp only [List.length_cons]; omega, fun t => ?_⟩
          rw [List.cons_append, List.cons_append, scan?_empty]
      · rw [scan?_open hclose] at h
        obtain ⟨⟨items, r'⟩, hitems, he⟩ := Option.map_eq_some_iff.mp h
        cases he
        obtain ⟨hlt, hmore⟩ := ih s (by simp) items r hitems
        refine ⟨by simp only [List.length_cons]; omega, fun t => ?_⟩
        have hclose' : (s ++ ')' :: t).head? ≠ some ')' := by
          cases s with
          | nil => cases hlt
          | cons c s => exact hclose
        rw [List.cons_append, scan?_open hclose', hmore t]
        rfl
  · rw [scan?_scalar hopen] at h
    refine ⟨scanner_scalar.shorter h, fun t => ?_⟩
    have hopen' : (s ++ ')' :: t).head? ≠ some '(' := by
      cases s with
      | nil => cases h
      | cons c s => exact hopen
    rw [scan?_scalar hopen']
    exact scanner_scalar.more h t

theorem goodAt_scanItems {s : Text} (hscan : GoodAt scan? s)
    (ih : ∀ s', s'.length < s.length → GoodAt scanItems? s') : GoodAt scanItems? s := by
  intro items r h
  rcases scanItems?_cases h with ⟨c, rfl, hc⟩ | ⟨c, rest, others, rfl, hc, hlt, hothers⟩
  · obtain ⟨hshort, hmore⟩ := hscan c _ hc
    refine ⟨Nat.lt_of_succ_lt hshort, fun t => ?_⟩
    exact scanItems?_last (hmore t)
  · obtain ⟨hshort, hmore⟩ := hscan c _ hc
    obtain ⟨hshort', hmore'⟩ := ih rest hlt others r hothers
    refine ⟨Nat.lt_trans hshort' hlt, fun t => ?_⟩
    have hnext : scan? (s ++ ')' :: t) = some (c, ',' :: ' ' :: (rest ++ ')' :: t)) := hmore t
    rw [scanItems?_next hnext (by simpa using hlt), hmore' t]
    rfl

theorem goodAt_items (n : Nat) (s : Text) (hn : s.length < n) : GoodAt scanItems? s := by
  -- A list begins with a literal at the same text, and that may be a list of a shorter text.
  induction n generalizing s with
  | zero => cases hn
  | succ n ih =>
    have hrest : ∀ s', s'.length < s.length → GoodAt scanItems? s' := fun s' hs' =>
      ih s' (by omega)
    exact goodAt_scanItems (goodAt_scan hrest) hrest

/-- The scanner of literals makes progress and decides by what it has seen. -/
theorem scanner_scan : Scanner scan? := by
  have hgood : ∀ s, GoodAt scan? s := fun s => goodAt_scan fun s' _ =>
    goodAt_items _ s' (Nat.lt_succ_self _)
  exact ⟨fun h => (hgood _ _ _ h).1, fun h => (hgood _ _ _ h).2⟩

/-! ## Normal forms -/

mutual

/-- The constant that the literal of a value stands for. Numbers are known by the text of their
base type, dates and moments by their text in the zone, and mappings, objects and condition trees
by the text that they show. -/
def ofValue (zone : ZoneChoice) : Value → Except Fault Constant
  | .null => .ok .null
  | .bool b => .ok (.bool b)
  | .number n _ => .ok (.number n.text)
  | .text s => .ok (.string s)
  | .date d => (Literal.calendarText zone (.date d)).map .string
  | .moment m => (Literal.calendarText zone (.moment m)).map .string
  | .blob _ bytes => .ok (.blob bytes)
  | .group _ items => (ofValues zone items).map .list
  | .span s => .ok (.list (s.toList.map fun n => .number (Number.integer n).text))
  | .mapping entries => .ok (.string (Value.mapping entries).plain)
  | .foreign typeName plain display =>
    .ok (.string (Value.foreign typeName plain display).plain)
  | .node c => .ok (.string (Value.node c).plain)
termination_by structural v => v

/-- The constants of several values. -/
def ofValues (zone : ZoneChoice) : List Value → Except Fault (List Constant)
  | [] => .ok []
  | v :: rest => do
    let c ← ofValue zone v
    return c :: (← ofValues zone rest)
termination_by structural vs => vs

end

end Constant

end SqlGateway.Sql
