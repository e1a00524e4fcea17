import Mathlib.Data.List.DropRight
import SqlGateway.Text.Basic
import SqlGateway.Text.Character

/-!
# Characters and parts of texts

What is known of a letter or a digit is known from its code point.

A text is cut at the first or at the last occurrence of a character. What was put together with the
character between two parts is cut into these parts again, as long as the character does not occur
in the part that is looked through.

To strip a text takes the blanks from both of its ends. What is left has none there
(`isStripped_strip`), and such a text stays as it is (`strip_eq_self_iff`).
-/

namespace SqlGateway.Text

variable {c : Char} {s t : Text}

/-! ## Letters and digits -/

theorem isAlpha_of_isLower (hc : c.isLower = true) : c.isAlpha = true :=
  Bool.or_eq_true_iff.mpr (Or.inr hc)

theorem isAlphanum_of_isLower (hc : c.isLower = true) : c.isAlphanum = true :=
  Bool.or_eq_true_iff.mpr (Or.inl (isAlpha_of_isLower hc))

theorem isAlphanum_of_isDigit (hc : c.isDigit = true) : c.isAlphanum = true :=
  Bool.or_eq_true_iff.mpr (Or.inr hc)

/-- Letters and digits are ASCII characters after the space. -/
theorem bounds_of_isAlphanum (hc : c.isAlphanum = true) : 0x20 < c.toNat ∧ c.toNat < 0x80 := by
  change (decide (65 ≤ c.toNat ∧ c.toNat ≤ 90) ||
    (decide (97 ≤ c.toNat) && decide (c.toNat ≤ 122)) ||
    (decide (48 ≤ c.toNat) && decide (c.toNat ≤ 57))) = true at hc
  simp only [Bool.or_eq_true, Bool.and_eq_true, decide_eq_true_eq] at hc
  omega

theorem exists_digitChar (hc : c.isDigit = true) : ∃ n, n < 10 ∧ c = Nat.digitChar n := by
  have hcode : 48 ≤ c.toNat ∧ c.toNat ≤ 57 := Char.isDigit_iff_toNat.mp hc
  have hall : ∀ n : Fin 10, Char.ofNat (n + 48) = Nat.digitChar n := by decide
  refine ⟨c.toNat - 48, by omega, ?_⟩
  have hchar := hall ⟨c.toNat - 48, by omega⟩
  rw [← hchar, Nat.sub_add_cancel hcode.1, Char.ofNat_toNat]

theorem mem_digits (hc : c.isDigit = true) : c ∈ "0123456789".toList := by
  have hall : ∀ n : Fin 10, Nat.digitChar n ∈ "0123456789".toList := by decide
  obtain ⟨n, hn, rfl⟩ := exists_digitChar hc
  exact hall ⟨n, hn⟩

/-! ## Cutting at a character -/

theorem cutAt?_eq_none (h : c ∉ s) : cutAt? c s = none := by
  induction s with
  | nil => rfl
  | cons d s ih =>
    rw [List.mem_cons, not_or] at h
    obtain ⟨hd, hs⟩ := h
    rw [cutAt?, if_neg (Ne.symm hd), ih hs]
    rfl

theorem cutAt?_append (h : c ∉ s) (t : Text) : cutAt? c (s ++ c :: t) = some (s, t) := by
  induction s with
  | nil => exact if_pos rfl
  | cons d s ih =>
    rw [List.mem_cons, not_or] at h
    obtain ⟨hd, hs⟩ := h
    rw [List.cons_append, cutAt?, if_neg (Ne.symm hd), ih hs]
    rfl

theorem mem_of_cutAt? {d : Char} {before after : Text}
    (h : cutAt? d s = some (before, after)) (hc : c ∈ after) : c ∈ s := by
  induction s generalizing before with
  | nil => cases h
  | cons e s ih =>
    rw [cutAt?] at h
    split at h
    · cases h
      exact List.mem_cons_of_mem _ hc
    · obtain ⟨⟨before', after'⟩, hcut, hparts⟩ := Option.map_eq_some_iff.mp h
      cases hparts
      exact List.mem_cons_of_mem _ (ih hcut)

theorem cutAtLast?_append (s : Text) (h : c ∉ t) : cutAtLast? c (s ++ c :: t) = some (s, t) := by
  have hreverse : (s ++ c :: t).reverse = t.reverse ++ c :: s.reverse := by simp
  rw [cutAtLast?, hreverse, cutAt?_append (by simpa using h)]
  simp

/-! ## Blanks at the ends -/

/-- The text neither begins nor ends with a blank. -/
def IsStripped (s : Text) : Prop :=
  (∀ c ∈ s.head?, ¬isBlank c = true) ∧ ∀ c ∈ s.getLast?, ¬isBlank c = true

theorem stripLeft_head {c : Char} (h : c ∈ (stripLeft s).head?) : ¬isBlank c = true := by
  have hne : stripLeft s ≠ [] := by
    intro hnil
    rw [hnil] at h
    cases h
  obtain rfl : (stripLeft s).head hne = c :=
    Option.some.inj ((List.head?_eq_some_head hne).symm.trans h)
  exact ne_true_of_eq_false (List.head_dropWhile_not isBlank hne)

theorem isStripped_strip (s : Text) : IsStripped (strip s) := by
  constructor
  · intro c hc
    -- What is left in the end begins like what was left without the blanks in front.
    obtain ⟨t, ht⟩ : strip s <+: stripLeft s := List.rdropWhile_prefix _ _
    apply stripLeft_head (s := s)
    rw [← ht, List.head?_append, Option.mem_def.mp hc]
    rfl
  · intro c hc
    obtain ⟨hne, rfl⟩ := List.mem_getLast?_eq_getLast hc
    exact List.rdropWhile_last_not _ _ hne

theorem strip_eq_self_iff : strip s = s ↔ IsStripped s := by
  constructor
  · intro h
    rw [← h]
    exact isStripped_strip s
  · rintro ⟨hhead, hlast⟩
    have hleft : stripLeft s = s := by
      cases s with
      | nil => rfl
      | cons c s => exact List.dropWhile_cons_of_neg (hhead c rfl)
    have hright : stripRight s = s := by
      apply List.rdropWhile_eq_self_iff.mpr
      intro hne
      exact hlast _ (List.getLast?_eq_some_getLast hne)
    rw [strip, hleft, hright]

end SqlGateway.Text
