import SqlGateway.Number.Numeral
import SqlGateway.Proofs.Number.Token

/-!
# Numerals that are read back

The numeral of an integer is read as that integer, as long as it has no more digits than may be read
(`Numeral.readInt?_ofInt`).
-/

namespace SqlGateway.Numeral

open Sql.NumberToken

/-! ## Plain text -/

/-- A character that stands for itself in a numeral and is no blank. -/
def IsPlain (c : Char) : Prop := c.toNat < 127 ∧ isPlainBlank c = false

theorem dropWhile_plain {s : Text} (h : ∀ c ∈ s, IsPlain c) : s.dropWhile isPlainBlank = s := by
  cases s with
  | nil => rfl
  | cons c s =>
    have hc := (h c (List.mem_cons_self ..)).2
    rw [List.dropWhile_cons, hc]
    rfl

theorem mapM_plain {s : Text} (h : ∀ c ∈ s, IsPlain c) : s.mapM plainChar? = some s := by
  induction s with
  | nil => rfl
  | cons c s ih =>
    obtain ⟨hc, hs⟩ := List.forall_mem_cons.mp h
    rw [List.mapM_cons, ih hs, plainChar?, if_pos hc.1]
    rfl

theorem plain?_eq {s : Text} (h : ∀ c ∈ s, IsPlain c) : plain? s = some s := by
  have hreverse : ∀ c ∈ s.reverse, IsPlain c := fun c hc => h c (List.mem_reverse.mp hc)
  rw [plain?, mapM_plain h, Option.map_some, dropWhile_plain h, dropWhile_plain hreverse,
    List.reverse_reverse]

theorem dropUnderscores?_eq {s : Text} (h : '_' ∉ s) (afterDigit : Bool) :
    dropUnderscores? afterDigit s = some s := by
  induction s generalizing afterDigit with
  | nil => rfl
  | cons c s ih =>
    rw [List.mem_cons, not_or] at h
    obtain ⟨hc, hs⟩ := h
    rw [dropUnderscores?]
    · rw [if_neg (Ne.symm hc), ih hs]
      rfl
    · rintro d rest rfl
      exact absurd rfl hc

/-! ## Digits -/

theorem isPlain_of_isDigit {c : Char} (h : c.isDigit = true) : IsPlain c := by
  constructor
  · have hle : c.toNat ≤ 57 := by
      simp only [Char.isDigit, Bool.and_eq_true, decide_eq_true_eq, UInt32.le_iff_toNat_le] at h
      exact h.2
    omega
  · have hne {d : Char} (hd : d.isDigit = false) : c ≠ d := by
      rintro rfl
      exact absurd h (Bool.eq_false_iff.mp hd)
    simp only [isPlainBlank, Bool.or_eq_false_iff, decide_eq_false_iff_not]
    exact ⟨⟨⟨⟨⟨hne rfl, hne rfl⟩, hne rfl⟩, hne rfl⟩, hne rfl⟩, hne rfl⟩

theorem not_mem_digits {s : Text} (h : IsDigits s) {c : Char} (hc : c.isDigit = false) : c ∉ s :=
  fun hmem => Bool.eq_false_iff.mp hc (h.2 c hmem)

theorem digits?_eq {s : Text} (h : IsDigits s) : digits? s = some (Nat.ofDigitChars 10 s 0) := by
  obtain ⟨hne, hdigits⟩ := h
  rw [digits?, if_neg (by simpa using hne)]
  generalize 0 = n
  clear hne
  induction s generalizing n with
  | nil => rfl
  | cons c s ih =>
    obtain ⟨hc, hs⟩ := List.forall_mem_cons.mp hdigits
    rw [List.foldlM_cons, if_pos hc, Nat.ofDigitChars_cons]
    exact ih hs _

/-- A sign and digits that are not too many. -/
theorem readInt?_signed {s digits : Text} {negative : Bool} (hdigits : IsDigits digits)
    (hlength : digits.length ≤ maxDigits) (hplain : ∀ c ∈ s, IsPlain c)
    (hsign : sign s = (negative, digits)) :
    readInt? s = some (if negative then -(Nat.ofDigitChars 10 digits 0 : Int)
      else Nat.ofDigitChars 10 digits 0) := by
  rw [readInt?, plain?_eq hplain]
  change (do
    let run ← dropUnderscores? false (sign s).2
    if run.length > maxDigits then none
    let n ← digits? run
    return if (sign s).1 then -(n : Int) else n : Option Int) = _
  rw [hsign, dropUnderscores?_eq (not_mem_digits hdigits rfl)]
  change (if digits.length > maxDigits then none else _) = _
  rw [if_neg (Nat.not_lt.mpr hlength), digits?_eq hdigits]
  rfl

/-- The numeral of an integer is read as the integer. -/
theorem readInt?_ofInt {n : Int} (h : (Text.ofNat n.natAbs).length ≤ maxDigits) :
    readInt? (Text.ofInt n) = some n := by
  cases n with
  | ofNat n =>
    have hdigits := isDigits_ofNat n
    have hsign : sign (Text.ofNat n) = (false, Text.ofNat n) := by
      unfold sign
      split
      · next heq =>
        exact absurd (heq ▸ List.mem_cons_self ..) (not_mem_digits hdigits (c := '-') rfl)
      · next heq =>
        exact absurd (heq ▸ List.mem_cons_self ..) (not_mem_digits hdigits (c := '+') rfl)
      · rfl
    have hread := readInt?_signed hdigits h (fun c hc => isPlain_of_isDigit (hdigits.2 c hc)) hsign
    rw [Text.ofNat, Nat.ofDigitChars_ten_toDigits] at hread
    exact hread
  | negSucc n =>
    have hdigits := isDigits_ofNat (n + 1)
    have hplain : ∀ c ∈ '-' :: Text.ofNat (n + 1), IsPlain c :=
      List.forall_mem_cons.mpr ⟨⟨by decide, by decide⟩,
        fun c hc => isPlain_of_isDigit (hdigits.2 c hc)⟩
    have hread := readInt?_signed hdigits h hplain rfl
    rw [Text.ofNat, Nat.ofDigitChars_ten_toDigits] at hread
    exact hread

end SqlGateway.Numeral
