import SqlGateway.Text.Basic
import SqlGateway.Text.Lower

/-!
# Texts that are in small letters already

ASCII characters other than the capital letters are their own small letters, so a text of such
characters stays as it is (`lower_eq_self`).
-/

namespace SqlGateway.Text

/-- An ASCII character that is no capital letter. -/
def IsSmall (c : Char) : Prop := c.toNat < 0x80 ∧ (c.toNat < 0x41 ∨ 0x5A < c.toNat)

instance : DecidablePred IsSmall := fun c =>
  inferInstanceAs (Decidable (c.toNat < 0x80 ∧ (c.toNat < 0x41 ∨ 0x5A < c.toNat)))

/-- Only the run of the capital letters has ASCII characters. -/
theorem caseRuns_bounds :
    ∀ r ∈ caseRuns, 0x80 ≤ r.first ∨ (r.first = 0x41 ∧ r.last = 0x5A) := by decide +kernel

variable {c : Char} {s : Text}

theorem small_of_isLower (hc : c.isLower = true) : IsSmall c := by
  change (decide (97 ≤ c.toNat) && decide (c.toNat ≤ 122)) = true at hc
  simp only [Bool.and_eq_true, decide_eq_true_eq] at hc
  constructor <;> omega

theorem small_of_isDigit (hc : c.isDigit = true) : IsSmall c := by
  have hbounds : 48 ≤ c.toNat ∧ c.toNat ≤ 57 := Char.isDigit_iff_toNat.mp hc
  constructor <;> omega

theorem IsSmall.toLower_eq (h : IsSmall c) : c.toLower = c := by
  refine dif_neg fun hcapital => ?_
  simp only [ge_iff_le, UInt32.le_iff_toNat_le] at hcapital
  change 65 ≤ c.toNat ∧ c.toNat ≤ 90 at hcapital
  have := h.2
  omega

theorem IsSmall.not_contains (h : IsSmall c) {r : CaseRun} (hr : r ∈ caseRuns) :
    r.contains c.toNat = false := by
  obtain ⟨hascii, hcapital⟩ := h
  simp only [CaseRun.contains, Bool.and_eq_false_iff, decide_eq_false_iff_not]
  have := caseRuns_bounds r hr
  omega

theorem IsSmall.lowerChar_eq (h : IsSmall c) : lowerChar c = c := by
  have hnone : caseRuns.find? (·.contains c.toNat) = none :=
    List.find?_eq_none.mpr fun r hr => Bool.eq_false_iff.mp (h.not_contains hr)
  rw [lowerChar, hnone]

theorem lowerAfter_eq_self (h : ∀ c ∈ s, IsSmall c) (before : Text) : lowerAfter before s = s := by
  induction s generalizing before with
  | nil => rfl
  | cons c s ih =>
    obtain ⟨hc, hs⟩ := List.forall_mem_cons.mp h
    have hne {d : Char} (hd : ¬ IsSmall d) : c ≠ d := by
      rintro rfl
      exact hd hc
    rw [lowerAfter, if_neg (hne (by decide)), if_neg (hne (by decide)), hc.lowerChar_eq, ih hs]
    rfl

/-- A text without capital letters and without characters beyond ASCII is in small letters. -/
theorem lower_eq_self (h : ∀ c ∈ s, IsSmall c) : lower s = s := lowerAfter_eq_self h []

end SqlGateway.Text
