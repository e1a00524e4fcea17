import Mathlib.Data.List.TakeWhile
import Mathlib.Tactic.ByContra
import SqlGateway.Proofs.Sql.NumberToken
import SqlGateway.Sql.Literal

/-!
# Numbers are written as number tokens

The text of an integer (`isToken_ofInt`), of a finite binary number (`Binary64.isToken_text`) and
of a finite decimal number (`Decimal.isToken_text`) is one number token, whatever its size. The
layouts differ, so each is taken apart into digits, fraction and power of ten. For binary numbers
this needs that the shortest decimal of a number other than zero is not zero, or no digit would be
left when the zeros at the end are dropped (`dropZeros_ne_nil`).
-/

namespace SqlGateway

open Sql.NumberToken

/-! ## Digits -/

theorem isDigits_ofNat (n : Nat) : IsDigits (Text.ofNat n) :=
  ⟨Nat.toDigits_ne_nil, fun _ hc => Nat.isDigit_of_mem_toDigits (by decide) (by decide) hc⟩

theorem isDigits_append {s t : Text} (hs : IsDigits s) (ht : ∀ c ∈ t, c.isDigit = true) :
    IsDigits (s ++ t) := by
  refine ⟨fun h => hs.1 (List.append_eq_nil_iff.mp h).1, fun c hc => ?_⟩
  rcases List.mem_append.mp hc with hc | hc
  · exact hs.2 c hc
  · exact ht c hc

theorem isDigits_prepend {s t : Text} (hs : ∀ c ∈ s, c.isDigit = true) (ht : IsDigits t) :
    IsDigits (s ++ t) := by
  refine ⟨fun h => ht.1 (List.append_eq_nil_iff.mp h).2, fun c hc => ?_⟩
  rcases List.mem_append.mp hc with hc | hc
  · exact hs c hc
  · exact ht.2 c hc

theorem isDigit_zeros {k : Nat} {c : Char} (hc : c ∈ List.replicate k '0') :
    c.isDigit = true := by
  rw [List.eq_of_mem_replicate hc]
  decide

theorem isDigits_zero : IsDigits ['0'] := ⟨by decide, by simp⟩

theorem isDigits_padZeros (width n : Nat) : IsDigits (Text.padZeros width (Text.ofNat n)) :=
  isDigits_prepend (fun _ => isDigit_zeros) (isDigits_ofNat n)

theorem isDigits_take {s : Text} (hs : IsDigits s) {k : Nat} (hk : k ≠ 0) :
    IsDigits (s.take k) := by
  refine ⟨?_, fun c hc => hs.2 c (List.mem_of_mem_take hc)⟩
  obtain ⟨hne, -⟩ := hs
  cases s with
  | nil => exact absurd rfl hne
  | cons c s =>
    cases k with
    | zero => exact absurd rfl hk
    | succ k => simp

theorem isDigit_drop {s : Text} (hs : IsDigits s) {k : Nat} {c : Char} (hc : c ∈ s.drop k) :
    c.isDigit = true := hs.2 c (List.mem_of_mem_drop hc)

/-- Digits, and a point with digits after it if wanted. -/
def IsMantissa (s : Text) : Prop :=
  ∃ whole fraction, s = whole ++ fraction ∧ IsDigits whole ∧ IsFraction fraction

theorem isMantissa_point {whole digits : Text} (hw : IsDigits whole) (hd : IsDigits digits) :
    IsMantissa (whole ++ '.' :: digits) :=
  ⟨whole, '.' :: digits, rfl, hw, Or.inr ⟨digits, rfl, hd⟩⟩

theorem isMantissa_digits {digits : Text} (hd : IsDigits digits) : IsMantissa digits :=
  ⟨digits, [], by simp, hd, Or.inl rfl⟩

/-- A sign, a mantissa and a power of ten make a token. -/
theorem isToken_parts (negative : Bool) {mantissa power : Text} (hm : IsMantissa mantissa)
    (hp : IsPower power) :
    IsToken ((if negative then ['-'] else []) ++ (mantissa ++ power)) := by
  obtain ⟨whole, fraction, rfl, hw, hf⟩ := hm
  refine ⟨if negative then ['-'] else [], whole, fraction, power, by simp, ?_, hw, hf, hp⟩
  cases negative
  · exact Or.inl rfl
  · exact Or.inr rfl

theorem isToken_mantissa (negative : Bool) {mantissa : Text} (hm : IsMantissa mantissa) :
    IsToken ((if negative then ['-'] else []) ++ mantissa) := by
  simpa using isToken_parts negative hm (Or.inl rfl)

theorem isToken_ofInt (n : Int) : IsToken (Text.ofInt n) := by
  cases n with
  | ofNat n => exact isToken_mantissa false (isMantissa_digits (isDigits_ofNat n))
  | negSucc n => exact isToken_mantissa true (isMantissa_digits (isDigits_ofNat (n + 1)))

/-! ## Decimal numbers -/

namespace Decimal

theorem isMantissa_pointed {digits : Text} (hd : IsDigits digits) (places : Int) :
    IsMantissa (pointed digits places) := by
  unfold pointed
  split
  · exact isMantissa_point isDigits_zero hd
  · next k =>
    have hz : IsDigits (List.replicate (k + 1) '0' ++ digits) :=
      isDigits_prepend (fun _ => isDigit_zeros) hd
    exact isMantissa_point isDigits_zero hz
  · next k hk =>
    split
    · exact isMantissa_digits (isDigits_append hd fun _ => isDigit_zeros)
    · next hlong =>
      refine isMantissa_point (isDigits_take hd fun h => hk (h ▸ rfl))
        ⟨?_, fun c => isDigit_drop hd⟩
      intro hnil
      have := List.drop_eq_nil_iff.mp hnil
      omega

theorem isPower_signedText (n : Int) : IsPower ('E' :: signedText n) := by
  refine Or.inr ⟨'E', [if n < 0 then '-' else '+'], Text.ofNat n.natAbs, rfl, Or.inr rfl, ?_,
    isDigits_ofNat _⟩
  split
  · exact Or.inr (Or.inr rfl)
  · exact Or.inr (Or.inl rfl)

theorem magnitudeText_parts (coefficient : Nat) (exponent : Int) :
    ∃ mantissa power, magnitudeText coefficient exponent = mantissa ++ power ∧
      IsMantissa mantissa ∧ IsPower power := by
  have hd := isDigits_ofNat coefficient
  unfold magnitudeText
  dsimp only
  split
  · exact ⟨_, [], (List.append_nil _).symm, isMantissa_pointed hd _, Or.inl rfl⟩
  · refine ⟨_, _, rfl, isMantissa_pointed hd 1, ?_⟩
    split
    · exact Or.inl rfl
    · exact isPower_signedText _

/-- A finite decimal number is written as a number token. -/
theorem isToken_text {d : Decimal} (h : d.isFinite = true) : IsToken d.text := by
  cases d with
  | finite negative coefficient exponent =>
    obtain ⟨mantissa, power, heq, hm, hp⟩ := magnitudeText_parts coefficient exponent
    simp only [text, heq]
    exact isToken_parts negative hm hp
  | infinite negative => cases h
  | nan negative signalling payload => cases h

end Decimal

/-! ## Binary numbers -/

namespace Binary64

theorem onGrid?_pos {i : Interval} {power : Int} {n : Nat} (h : i.onGrid? power = some n) :
    0 < n := by
  unfold Interval.onGrid? at h
  dsimp only at h
  unfold roundHalfEven at h
  dsimp only at h
  generalize (i.scaled power).1 / (i.scaled power).2 = lower at h
  split at h
  · cases h
  · next hl _ =>
    cases h
    simp only [Bool.and_eq_true, bne_iff_ne, ne_eq] at hl
    omega
  · next hl _ =>
    cases h
    omega
  · next hl _ =>
    cases h
    simp only [Bool.and_eq_true, bne_iff_ne, ne_eq] at hl
    split
    · omega
    · split <;> omega

theorem firstGrid_pos (i : Interval) (power : Int) (tries : Nat) :
    0 < (i.firstGrid power tries).1 := by
  induction tries generalizing power with
  | zero =>
    unfold Interval.firstGrid
    cases h : i.onGrid? power with
    | none => simp only [Option.getD_none, Interval.nearest]; omega
    | some n => exact onGrid?_pos h
  | succ tries ih =>
    unfold Interval.firstGrid
    split
    · next n h => exact onGrid?_pos h
    · exact ih (power - 1)

/-- The digits of a number other than zero are not all zeros. -/
theorem exists_ne_zero_digit {n : Nat} (h : 0 < n) : ∃ c ∈ Text.ofNat n, c ≠ '0' := by
  by_contra! hall
  have hvalue : Nat.ofDigitChars 10 (Text.ofNat n) 0 = n := Nat.ofDigitChars_ten_toDigits
  rw [List.eq_replicate_of_mem hall, Nat.ofDigitChars_replicate_zero] at hvalue
  omega

theorem dropZeros_ne_nil {n : Nat} (h : 0 < n) : dropZeros (Text.ofNat n) ≠ [] := by
  obtain ⟨c, hc, hne⟩ := exists_ne_zero_digit h
  intro hnil
  have hdrop := List.reverse_eq_nil_iff.mp hnil
  rw [List.dropWhile_eq_nil_iff] at hdrop
  exact hne (by simpa using hdrop c (List.mem_reverse.mpr hc))

theorem isDigits_dropZeros {n : Nat} (h : 0 < n) : IsDigits (dropZeros (Text.ofNat n)) := by
  refine ⟨dropZeros_ne_nil h, fun c hc => ?_⟩
  have hmem := List.dropWhile_sublist _ |>.mem (List.mem_reverse.mp hc)
  exact (isDigits_ofNat n).2 c (List.mem_reverse.mp hmem)

theorem isMantissa_positional {digits : Text} (hd : IsDigits digits) (power : Int) :
    IsMantissa (positional digits power) := by
  unfold positional
  split
  · next k =>
    have hwhole : IsDigits (digits.take (k + 1) ++ List.replicate (k + 1 - digits.length) '0') :=
      isDigits_append (isDigits_take hd (Nat.succ_ne_zero k)) fun _ => isDigit_zeros
    refine isMantissa_point hwhole ?_
    split
    · exact isDigits_zero
    · next hrest =>
      refine ⟨fun hnil => hrest ?_, fun c => isDigit_drop hd⟩
      rw [hnil]
      rfl
  · next k =>
    have hz : IsDigits (List.replicate k '0' ++ digits) :=
      isDigits_prepend (fun _ => isDigit_zeros) hd
    exact isMantissa_point isDigits_zero hz

theorem scientific_parts {digits : Text} (hd : IsDigits digits) (power : Int) :
    ∃ mantissa exponent, scientific digits power = mantissa ++ exponent ∧
      IsMantissa mantissa ∧ IsPower exponent := by
  refine ⟨_, _, rfl, ?_, ?_⟩
  · split
    · exact absurd rfl hd.1
    · exact isMantissa_digits hd
    · next d rest hne =>
      have hw : IsDigits [d] := isDigits_take hd Nat.one_ne_zero
      have hrest : IsDigits rest := by
        exact ⟨hne, fun c hc => hd.2 c (List.mem_cons_of_mem d hc)⟩
      exact isMantissa_point hw hrest
  · refine Or.inr ⟨'e', [if power < 0 then '-' else '+'], _, rfl, Or.inl rfl, ?_,
      isDigits_padZeros 2 power.natAbs⟩
    split
    · exact Or.inr (Or.inr rfl)
    · exact Or.inr (Or.inl rfl)

/-- A finite binary number is written as a number token. -/
theorem isToken_text {x : Binary64} (h : x.isFinite = true) : IsToken x.text := by
  cases x with
  | finite negative significand exponent =>
    simp only [text, finiteText]
    by_cases hzero : significand = 0
    · rw [if_pos hzero]
      exact isToken_mantissa negative (isMantissa_point isDigits_zero isDigits_zero)
    · rw [if_neg hzero]
      have hd := isDigits_dropZeros
        (firstGrid_pos (interval significand exponent) (interval significand exponent).magnitude 17)
      by_cases hsmall : -4 ≤ (shortest significand exponent).2 +
            (Text.ofNat (shortest significand exponent).1).length - 1 ∧
          (shortest significand exponent).2 +
            (Text.ofNat (shortest significand exponent).1).length - 1 < 16
      · rw [if_pos hsmall]
        exact isToken_mantissa negative (isMantissa_positional hd _)
      · rw [if_neg hsmall]
        obtain ⟨mantissa, power, heq, hm, hp⟩ := scientific_parts hd
          ((shortest significand exponent).2 +
            (Text.ofNat (shortest significand exponent).1).length - 1)
        have hsplit := isToken_parts negative hm hp
        rw [← heq] at hsplit
        exact hsplit
  | infinite negative => cases h
  | nan => cases h

end Binary64

/-- The literal of a number is the text of the number, and a number token. -/
theorem isToken_ofNumber {n : Number} {s : Text} (h : Sql.Literal.ofNumber n = .ok s) :
    s = n.text ∧ IsToken s := by
  cases n with
  | integer n =>
    cases h
    exact ⟨rfl, isToken_ofInt n⟩
  | binary x =>
    simp only [Sql.Literal.ofNumber] at h
    split at h
    · next hfinite =>
      cases h
      exact ⟨rfl, Binary64.isToken_text hfinite⟩
    · cases h
  | decimal d =>
    simp only [Sql.Literal.ofNumber] at h
    split at h
    · next hfinite =>
      cases h
      exact ⟨rfl, Decimal.isToken_text hfinite⟩
    · cases h

end SqlGateway
