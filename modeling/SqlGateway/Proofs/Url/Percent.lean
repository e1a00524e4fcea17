import Mathlib.Data.List.Forall2
import SqlGateway.Proofs.Text.Basic
import SqlGateway.Proofs.Text.Utf8
import SqlGateway.Url.Percent

/-!
# Encoded texts

`Percent.Encodes s t` says that the text `t` is the text `s` in percent encoding: letters, digits
and the four marks that mean nothing in a URL may stand for themselves, and every character may be
written as its bytes, with hexadecimal digits in either case. Such a text has none of the characters
that separate the parts of a URL (`Encodes.chars`), and it is read as the text that was encoded
(`Encodes.decode`).
-/

namespace SqlGateway.Url.Percent

open String (utf8EncodeChar)
open Text.Utf8 (State)

/-! ## What is an encoding -/

/-- The character is the hexadecimal digit of a number, in either case. -/
def IsHexDigit (n : Nat) (c : Char) : Prop := c = Nat.digitChar n ∨ c = (Nat.digitChar n).toUpper

/-- The text is a percent sign and the two digits of a byte. -/
inductive SpellsByte (b : UInt8) : Text → Prop
  | digits {high low : Char} : IsHexDigit (b.toNat / 16) high → IsHexDigit (b.toNat % 16) low →
      SpellsByte b ['%', high, low]

/-- A character that may stand for itself: a letter, a digit, or a mark without a meaning. -/
def IsUnreserved (c : Char) : Prop := c.isAlphanum = true ∨ c ∈ ['-', '.', '_', '~']

instance : DecidablePred IsUnreserved := fun c =>
  inferInstanceAs (Decidable (c.isAlphanum = true ∨ c ∈ ['-', '.', '_', '~']))

/-- The second text is the first one in percent encoding. -/
inductive Encodes : Text → Text → Prop
  | nil : Encodes [] []
  | plain {c : Char} {s t : Text} : IsUnreserved c → Encodes s t → Encodes (c :: s) (c :: t)
  | bytes {c : Char} {s t : Text} {parts : List Text} :
      List.Forall₂ SpellsByte (utf8EncodeChar c) parts → Encodes s t →
        Encodes (c :: s) (parts.flatten ++ t)

/-- A character of an encoded text. -/
def IsEncodedChar (c : Char) : Prop := IsUnreserved c ∨ c = '%'

instance : DecidablePred IsEncodedChar := fun c =>
  inferInstanceAs (Decidable (IsUnreserved c ∨ c = '%'))

theorem IsUnreserved.bounds {c : Char} (hc : IsUnreserved c) :
    0x20 < c.toNat ∧ c.toNat < 0x80 := by
  rcases hc with hc | hc
  · exact Text.bounds_of_isAlphanum hc
  · revert c
    decide

theorem IsEncodedChar.bounds {c : Char} (hc : IsEncodedChar c) :
    0x20 < c.toNat ∧ c.toNat < 0x80 := by
  rcases hc with hc | rfl
  · exact hc.bounds
  · decide

theorem IsHexDigit.isAlphanum {n : Nat} (hn : n < 16) {c : Char} (hc : IsHexDigit n c) :
    c.isAlphanum = true := by
  have hall : ∀ n : Fin 16, (Nat.digitChar n).isAlphanum = true ∧
      (Nat.digitChar n).toUpper.isAlphanum = true := by decide
  rcases hc with rfl | rfl
  · exact (hall ⟨n, hn⟩).1
  · exact (hall ⟨n, hn⟩).2

theorem IsHexDigit.value {n : Nat} (hn : n < 16) {c : Char} (hc : IsHexDigit n c) :
    hexValue? c = some n := by
  have hall : ∀ n : Fin 16, hexValue? (Nat.digitChar n) = some n.val ∧
      hexValue? (Nat.digitChar n).toUpper = some n.val := by decide
  rcases hc with rfl | rfl
  · exact (hall ⟨n, hn⟩).1
  · exact (hall ⟨n, hn⟩).2

theorem SpellsByte.chars {b : UInt8} {t : Text} (h : SpellsByte b t) :
    ∀ c ∈ t, IsEncodedChar c := by
  have hb := b.toNat_lt
  cases h with
  | digits hhigh hlow =>
    intro c hc
    simp only [List.mem_cons, List.not_mem_nil, or_false] at hc
    rcases hc with rfl | rfl | rfl
    · exact Or.inr rfl
    · exact Or.inl (Or.inl (hhigh.isAlphanum (by omega)))
    · exact Or.inl (Or.inl (hlow.isAlphanum (by omega)))

theorem forall₂_chars {bytes : List UInt8} {parts : List Text}
    (h : List.Forall₂ SpellsByte bytes parts) : ∀ c ∈ parts.flatten, IsEncodedChar c := by
  induction h with
  | nil => nofun
  | cons hpart _ ih =>
    intro c hc
    rw [List.flatten_cons] at hc
    rcases List.mem_append.mp hc with hc | hc
    · exact hpart.chars c hc
    · exact ih c hc

/-- Apart from percent signs an encoded text has only characters that stand for themselves. -/
theorem Encodes.chars {s t : Text} (h : Encodes s t) : ∀ c ∈ t, IsEncodedChar c := by
  induction h with
  | nil => nofun
  | plain hc _ ih => exact List.forall_mem_cons.mpr ⟨Or.inl hc, ih⟩
  | bytes hparts _ ih =>
    intro c hc
    rcases List.mem_append.mp hc with hc | hc
    · exact forall₂_chars hparts c hc
    · exact ih c hc

theorem Encodes.not_mem {s t : Text} (h : Encodes s t) {c : Char} (hc : ¬ IsEncodedChar c) :
    c ∉ t := fun hmem => hc (h.chars c hmem)

/-- Only the empty text has an empty encoding. -/
theorem Encodes.eq_nil_iff {s t : Text} (h : Encodes s t) : t = [] ↔ s = [] := by
  cases h with
  | nil => exact Iff.rfl
  | plain hc _ => exact ⟨nofun, nofun⟩
  | @bytes c s t parts hparts _ =>
    refine ⟨fun hnil => ?_, nofun⟩
    have hflat := (List.append_eq_nil_iff.mp hnil).1
    cases hparts' : utf8EncodeChar c with
    | nil => exact absurd hparts' String.utf8EncodeChar_ne_nil
    | cons b bytes =>
      rw [hparts'] at hparts
      cases hparts with
      | cons hpart _ =>
        cases hpart
        cases hflat

/-! ## Reading -/

theorem decodeFrom_byte {b : UInt8} {part : Text} (h : SpellsByte b part) (state : State)
    (t : Text) : decodeFrom state (part ++ t) = feed state b.toNat (decodeFrom · t) := by
  have hb := b.toNat_lt
  cases h with
  | digits hhigh hlow =>
    have hbyte : 16 * (b.toNat / 16) + b.toNat % 16 = b.toNat := Nat.div_add_mod ..
    rw [List.cons_append, List.cons_append, List.cons_append, List.nil_append, decodeFrom, byte?,
      hhigh.value (by omega), hlow.value (by omega)]
    change feed state (16 * (b.toNat / 16) + b.toNat % 16) _ = _
    rw [hbyte]

theorem decodeFrom_bytes {bytes : List UInt8} {parts : List Text}
    (h : List.Forall₂ SpellsByte bytes parts) (state : State) (t : Text) :
    decodeFrom state (parts.flatten ++ t) =
      (Text.Utf8.run state bytes).1 ++ decodeFrom (Text.Utf8.run state bytes).2 t := by
  induction h generalizing state with
  | nil => rfl
  | @cons b part bytes parts hpart _ ih =>
    rw [List.flatten_cons, List.append_assoc, decodeFrom_byte hpart, feed, ih, ← List.append_assoc]
    rfl

theorem decodeFrom_plain {c : Char} (hc : IsUnreserved c) (t : Text) :
    decodeFrom .start (c :: t) = c :: decodeFrom .start t := by
  have hascii := hc.bounds.2
  have hpercent : c ≠ '%' := by
    rintro rfl
    exact absurd hc (by decide)
  rw [decodeFrom]
  · rw [if_pos hascii, feed, Text.Utf8.step, Text.Utf8.begin, if_pos (by omega), Char.ofNat_toNat]
    rfl
  · rintro a b rest rfl
    exact absurd rfl hpercent

theorem Encodes.decodeFrom_eq {s t : Text} (h : Encodes s t) : decodeFrom .start t = s := by
  induction h with
  | nil => rfl
  | plain hc _ ih => rw [decodeFrom_plain hc, ih]
  | @bytes c s t parts hparts _ ih =>
    rw [decodeFrom_bytes hparts, Text.Utf8.run_utf8EncodeChar, ih]
    rfl

/-- An encoded text is read as the text that was encoded. -/
theorem Encodes.decode {s t : Text} (h : Encodes s t) : Percent.decode t = s := h.decodeFrom_eq

/-! ## Writing -/

theorem spellsByte_encodeByte (b : UInt8) : SpellsByte b (encodeByte b) := by
  have hb := b.toNat_lt
  have htext :
      encodeByte b = ['%', Nat.digitChar (b.toNat / 16), Nat.digitChar (b.toNat % 16)] := by
    have hmod : b.toNat / 16 % 16 = b.toNat / 16 := Nat.mod_eq_of_lt (by omega)
    change ['%', Nat.digitChar (b.toNat / 16 % 16), Nat.digitChar (b.toNat % 16)] = _
    rw [hmod]
  rw [htext]
  exact .digits (Or.inl rfl) (Or.inl rfl)

/-- Every text has an encoding. -/
theorem encodes_encode (s : Text) : Encodes s (encode s) := by
  induction s with
  | nil => exact .nil
  | cons c s ih =>
    rw [encode, List.flatMap_cons]
    cases hc : c.isAlphanum with
    | true => exact .plain (Or.inl hc) ih
    | false =>
      rw [if_neg Bool.false_ne_true, List.flatMap_def]
      refine .bytes ?_ ih
      rw [List.forall₂_map_right_iff]
      exact List.forall₂_same.mpr fun b _ => spellsByte_encodeByte b

end SqlGateway.Url.Percent
