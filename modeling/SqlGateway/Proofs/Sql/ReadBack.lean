import Mathlib.Data.List.Forall2
import SqlGateway.Proofs.Number.Token
import SqlGateway.Proofs.Outcome
import SqlGateway.Proofs.Sql.Constant

/-!
# Literals are read back without loss

The scanner of literals, started on the literal of a value and any text that may stand behind it,
gives the normal form of the value and leaves that text (`scan?_literal`). So no value, however
deeply nested and whatever characters it holds, ends its literal early or runs on into what
follows.

The proof follows the values. `ReadsAs s c` says of one text that it reads as a constant before
every boundary; every kind of literal has a lemma of that form, and a list reads as the list of
what its elements read as (`readsAs_list`). The one value left out is a mapping that stands by
itself, which is written as assignments.
-/

namespace SqlGateway.Sql.Constant

/-- The text reads as the constant, whatever stands behind it. -/
def ReadsAs (s : Text) (c : Constant) : Prop :=
  ∀ t, IsBoundary t → scan? (s ++ t) = some (c, t)

/-! ## Scalars -/

theorem readsAs_of_scalar {s : Text} {c : Constant} (hopen : s.head? ≠ some '(') (hne : s ≠ [])
    (h : ∀ t, IsBoundary t → scanScalar? (s ++ t) = some (c, t)) : ReadsAs s c := by
  intro t ht
  rw [scan?_scalar, h t ht]
  cases s with
  | nil => exact absurd rfl hne
  | cons d s => exact hopen

theorem readsAs_null : ReadsAs "NULL".toList .null :=
  readsAs_of_scalar (by decide) (by decide) fun t _ => by
    change (("NULL".toList ++ t).dropPrefix? "NULL".toList).map _ = _
    rw [dropPrefix?_append, Option.map_some]

theorem readsAs_bool (b : Bool) : ReadsAs (if b then "true" else "false").toList (.bool b) := by
  cases b
  · refine readsAs_of_scalar (by decide) (by decide) fun t _ => ?_
    change (("false".toList ++ t).dropPrefix? "false".toList).map _ = _
    rw [dropPrefix?_append, Option.map_some]
  · refine readsAs_of_scalar (by decide) (by decide) fun t _ => ?_
    change (("true".toList ++ t).dropPrefix? "true".toList).map _ = _
    rw [dropPrefix?_append, Option.map_some]

theorem readsAs_string (s : Text) : ReadsAs (Quoted.quote s) (.string s) := by
  refine readsAs_of_scalar (by simp [Quoted.quote]) (by simp [Quoted.quote]) fun t ht => ?_
  change (Quoted.scan? (Quoted.quote s ++ t)).map _ = _
  rw [Quoted.scan?_quote s (ht.head_ne (by decide)), Option.map_some]

/-- A token begins with a digit or a minus sign. -/
theorem token_head {s : Text} (h : NumberToken.IsToken s) :
    ∃ c rest, s = c :: rest ∧ (c = '-' ∨ c.isDigit = true) := by
  obtain ⟨minus, whole, fraction, power, rfl, hm, ⟨hne, hdigits⟩, -, -⟩ := h
  rcases hm with rfl | rfl
  · cases whole with
    | nil => exact absurd rfl hne
    | cons c whole =>
      exact ⟨c, _, rfl, Or.inr (hdigits c (List.mem_cons_self ..))⟩
  · exact ⟨'-', _, rfl, Or.inl rfl⟩

theorem readsAs_number {s : Text} (h : NumberToken.IsToken s) : ReadsAs s (.number s) := by
  obtain ⟨c, rest, hs, hc⟩ := token_head h
  have hhead : c ≠ 'N' ∧ c ≠ 't' ∧ c ≠ 'f' ∧ c ≠ 'X' ∧ c ≠ '\'' ∧ c ≠ '(' := by
    refine ⟨?_, ?_, ?_, ?_, ?_, ?_⟩ <;> rintro rfl <;> revert hc <;> decide
  obtain ⟨hN, ht, hf, hX, hq, hopen⟩ := hhead
  refine readsAs_of_scalar (by simp [hs, hopen]) (by simp [hs]) fun t hb => ?_
  have hscan := NumberToken.scan?_token h (endsNumber_of_isBoundary hb)
  rw [hs, List.cons_append] at hscan ⊢
  rw [scanScalar?_number ⟨hN, ht, hf, hX, hq⟩, hscan, Option.map_some]

theorem hexValue?_digitChar {n : Nat} (h : n < 16) : hexValue? (Nat.digitChar n) = some n := by
  have hall : ∀ n : Fin 16, hexValue? (Nat.digitChar n) = some n.val := by decide
  exact hall ⟨n, h⟩

theorem byte?_hexDigits (b : UInt8) :
    byte? (Nat.digitChar (b.toNat / 16 % 16)) (Nat.digitChar (b.toNat % 16)) = some b := by
  have hb := b.toNat_lt
  have hvalue : 16 * (b.toNat / 16 % 16) + b.toNat % 16 = b.toNat := by omega
  rw [byte?, hexValue?_digitChar (by omega), hexValue?_digitChar (by omega)]
  change some (UInt8.ofNat (16 * (b.toNat / 16 % 16) + b.toNat % 16)) = some b
  rw [hvalue, UInt8.ofNat_toNat]

theorem scanHex?_hexBytes (bytes : List UInt8) (t : Text) :
    scanHex? (Text.hexBytes bytes ++ '\'' :: t) = some (bytes, t) := by
  induction bytes with
  | nil => rfl
  | cons b bytes ih =>
    have hb : Text.hexBytes (b :: bytes) = Nat.digitChar (b.toNat / 16 % 16) ::
        Nat.digitChar (b.toNat % 16) :: Text.hexBytes bytes := rfl
    rw [hb, List.cons_append, List.cons_append, scanHex?_pair (byte?_hexDigits b), ih]
    rfl

theorem readsAs_blob (bytes : List UInt8) : ReadsAs (Literal.blobText bytes) (.blob bytes) := by
  refine readsAs_of_scalar (by simp [Literal.blobText]) (by simp [Literal.blobText]) fun t _ => ?_
  have htext : Literal.blobText bytes ++ t =
      "X'".toList ++ (Text.hexBytes bytes ++ '\'' :: t) := by simp [Literal.blobText]
  rw [htext]
  change (scanBlob? _).map _ = _
  rw [scanBlob?, dropPrefix?_append, Option.bind_some, scanHex?_hexBytes, Option.map_some]

/-! ## Lists -/

/-- A literal has a first character, and it is one that literals begin with. -/
theorem ReadsAs.head {s : Text} {c : Constant} (h : ReadsAs s c) :
    ∃ d rest, s = d :: rest ∧ isHead d = true := by
  have hscan := h [] isBoundary_nil
  rw [List.append_nil] at hscan
  cases s with
  | nil =>
    rw [scan?_scalar (by simp)] at hscan
    cases hscan
  | cons d rest => exact ⟨d, rest, rfl, scan?_head hscan⟩

theorem scanItems?_texts {s : Text} {texts : List Text} {c : Constant} {items : List Constant}
    (hs : ReadsAs s c) (htexts : List.Forall₂ ReadsAs texts items) (t : Text) :
    scanItems? (", ".toList.intercalate (s :: texts) ++ ')' :: t) = some (c :: items, t) := by
  induction htexts generalizing s c with
  | nil =>
    rw [List.intercalate_singleton]
    exact scanItems?_last (hs _ (isBoundary_close t))
  | @cons s' c' texts items hs' _ ih =>
    have htext : ", ".toList.intercalate (s :: s' :: texts) ++ ')' :: t =
        s ++ ',' :: ' ' :: (", ".toList.intercalate (s' :: texts) ++ ')' :: t) := by
      simp
    rw [htext, scanItems?_next (hs _ (isBoundary_comma _)), ih hs', Option.map_some]
    simp only [List.length_append, List.length_cons]
    omega

/-- A list reads as the list of what its elements read as. -/
theorem readsAs_list {texts : List Text} {items : List Constant}
    (h : List.Forall₂ ReadsAs texts items) : ReadsAs (Literal.listText texts) (.list items) := by
  intro t ht
  have htext : Literal.listText texts ++ t =
      '(' :: (", ".toList.intercalate texts ++ ')' :: t) := by simp [Literal.listText]
  rw [htext]
  cases h with
  | nil => exact scan?_empty t
  | @cons s c texts items hs hrest =>
    obtain ⟨d, tail, rfl, hd⟩ := hs.head
    have hscan := scanItems?_texts hs hrest t
    have hclose : d ≠ ')' := by
      rintro rfl
      revert hd
      decide
    rw [List.intercalate_cons_cons_left] at hscan ⊢
    rw [scan?_open (by simpa using hclose), hscan, Option.map_some]

/-! ## Values -/

theorem forall₂_integers (ns : List Int) :
    List.Forall₂ ReadsAs (ns.map Text.ofInt) (ns.map fun n => .number (Number.integer n).text) := by
  induction ns with
  | nil => exact .nil
  | cons n ns ih => exact .cons (readsAs_number (isToken_ofInt n)) ih

/-- The value is no mapping that is written as assignments. -/
def IsExpression (nested : Bool) (v : Value) : Prop :=
  nested = false → ∀ entries, v ≠ .mapping entries

theorem isExpression_nested (v : Value) : IsExpression true v := fun h => Bool.noConfusion h

mutual

/-- The literal of a value reads as its normal form. -/
theorem readsAs_ofValue {zone : ZoneChoice} : ∀ {v : Value} {nested : Bool} {s : Text},
    IsExpression nested v → Literal.ofValue zone nested v = .ok s →
      ∃ c, ofValue zone v = .ok c ∧ ReadsAs s c
  | .null, _, _, _, h => by
    cases h
    exact ⟨_, rfl, readsAs_null⟩
  | .bool b, _, _, _, h => by
    cases h
    exact ⟨_, rfl, readsAs_bool b⟩
  | .number n _, _, _, _, h => by
    obtain ⟨rfl, htoken⟩ := isToken_ofNumber h
    exact ⟨_, rfl, readsAs_number htoken⟩
  | .text s, _, _, _, h => by
    cases h
    exact ⟨_, rfl, readsAs_string s⟩
  | .date d, _, _, _, h => by
    obtain ⟨shown, hshown, rfl⟩ := map_eq_ok.mp h
    exact ⟨.string shown, map_eq_ok.mpr ⟨shown, hshown, rfl⟩, readsAs_string shown⟩
  | .moment m, _, _, _, h => by
    obtain ⟨shown, hshown, rfl⟩ := map_eq_ok.mp h
    exact ⟨.string shown, map_eq_ok.mpr ⟨shown, hshown, rfl⟩, readsAs_string shown⟩
  | .blob _ bytes, _, _, _, h => by
    cases h
    exact ⟨_, rfl, readsAs_blob bytes⟩
  | .group _ items, _, _, _, h => by
    obtain ⟨texts, htexts, rfl⟩ := map_eq_ok.mp h
    obtain ⟨cs, hcs, hreads⟩ := readsAs_ofItems htexts
    exact ⟨.list cs, map_eq_ok.mpr ⟨cs, hcs, rfl⟩, readsAs_list hreads⟩
  | .span s, _, _, _, h => by
    cases h
    exact ⟨_, rfl, readsAs_list (forall₂_integers s.toList)⟩
  | .mapping entries, nested, _, hv, h => by
    cases nested with
    | false => exact absurd rfl (hv rfl entries)
    | true =>
      cases h
      exact ⟨_, rfl, readsAs_string _⟩
  | .foreign _ shown _, _, _, _, h => by
    cases h
    exact ⟨_, rfl, readsAs_string shown⟩
  | .node c, _, _, _, h => by
    cases h
    exact ⟨_, rfl, readsAs_string c.display⟩
termination_by structural v => v

/-- The literals of nested values read as their normal forms, one by one. -/
theorem readsAs_ofItems {zone : ZoneChoice} : ∀ {items : List Value} {texts : List Text},
    Literal.ofItems zone items = .ok texts →
      ∃ cs, ofValues zone items = .ok cs ∧ List.Forall₂ ReadsAs texts cs
  | [], _, h => by
    cases h
    exact ⟨[], rfl, .nil⟩
  | v :: rest, _, h => by
    obtain ⟨s, hs, h⟩ := bind_eq_ok.mp h
    obtain ⟨texts, htexts, h⟩ := bind_eq_ok.mp h
    cases h
    obtain ⟨c, hc, hread⟩ := readsAs_ofValue (isExpression_nested v) hs
    obtain ⟨cs, hcs, hreads⟩ := readsAs_ofItems htexts
    refine ⟨c :: cs, bind_eq_ok.mpr ⟨c, hc, bind_eq_ok.mpr ⟨cs, hcs, rfl⟩⟩, .cons hread hreads⟩
termination_by structural items => items

end

/-! ## The round trip -/

theorem natural?_ofNat (n : Nat) : natural? (Text.ofNat n) = some n := by
  rw [natural?, if_pos ⟨(isDigits_ofNat n).1, (isDigits_ofNat n).2⟩]
  exact congrArg some Nat.ofDigitChars_ten_toDigits

/-- The token of an integer stands for that integer. -/
theorem integer?_ofInt (n : Int) : integer? (.number (Text.ofInt n)) = some n := by
  cases n with
  | ofNat n =>
    obtain ⟨hne, hdigits⟩ := isDigits_ofNat n
    have hminus : ∀ digits, Text.ofInt (.ofNat n) ≠ '-' :: digits := by
      intro digits hd
      have hmem : '-' ∈ Text.ofNat n := by
        change Text.ofNat n = '-' :: digits at hd
        rw [hd]
        exact List.mem_cons_self ..
      exact absurd (hdigits '-' hmem) (by decide)
    rw [integer?]
    · change (natural? (Text.ofNat n)).map _ = _
      rw [natural?_ofNat]
      rfl
    · intro digits hd
      exact hminus digits hd
  | negSucc n =>
    change (natural? (Text.ofNat (n + 1))).map _ = _
    rw [natural?_ofNat]
    rfl

/-- A literal is read back without loss: before every boundary the scanner takes exactly the
literal and gives the normal form of the value, where the token of an integer is that integer. -/
theorem scan?_literal {zone : ZoneChoice} {nested : Bool} {v : Value} {s t : Text}
    (hv : IsExpression nested v) (h : Literal.ofValue zone nested v = .ok s) (ht : IsBoundary t) :
    ∃ c, ofValue zone v = .ok c ∧ scan? (s ++ t) = some (c, t) ∧
      ∀ n, (number (Number.integer n).text).integer? = some n := by
  obtain ⟨c, hc, hread⟩ := readsAs_ofValue hv h
  exact ⟨c, hc, hread t ht, integer?_ofInt⟩

/-- A quotation mark inside a list inside a list, a mapping inside a list, and an empty list. -/
theorem scan?_literal_nested :
    ∃ c, ofValue (.ok .utc) (.group .tuple [.text "it's),".toList, .group .list [],
        .group .list [.mapping [(.text "k".toList, .number (.integer (-3)) none)]]]) = .ok c ∧
      scan? ("('it\\'s),', (), ('\x7b\\'k\\': -3\x7d'))".toList ++ ", (1)".toList) =
        some (c, ", (1)".toList) ∧
      ∀ n, (number (Number.integer n).text).integer? = some n :=
  @scan?_literal _ false (.group .tuple [.text "it's),".toList, .group .list [],
      .group .list [.mapping [(.text "k".toList, .number (.integer (-3)) none)]]]) _ _
    (fun _ _ h => nomatch h) (by decide +kernel) (isBoundary_comma _)

end SqlGateway.Sql.Constant
