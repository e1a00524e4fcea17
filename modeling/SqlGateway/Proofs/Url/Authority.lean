import Mathlib.Data.List.TakeDrop
import SqlGateway.Proofs.Text.Basic
import SqlGateway.Url.Parts

/-!
# Authorities

A URL is taken apart unless its authority is unsound (`split_eq_error`). What makes an authority
unsound are brackets and disguised delimiters (`isWellFormed_of_plain`), and these stand in the URL
itself (`mem_of_authorityOf`).
-/

namespace SqlGateway.Url

/-- The authority of a URL, once spaces, tabs and line breaks are dropped. -/
def authorityOf (url : Text) : Text :=
  let cleaned := (url.dropWhile isLeadIn).filter fun c => !(c = '\t' || c = '\r' || c = '\n')
  (takeAuthority (takeScheme cleaned).2).1

variable {url : Text} {f : Fault} {c : Char}

/-- Only for its authority can a URL not be taken apart. -/
theorem split_eq_error : Url.split url = .error f ↔
    f = .badAddress ∧ isWellFormed (authorityOf url) = false := by
  unfold Url.split authorityOf
  constructor
  · intro h
    simp only at h
    split at h
    · next hmalformed =>
      cases h
      exact ⟨rfl, by simpa using hmalformed⟩
    · cases h
  · rintro ⟨rfl, hmalformed⟩
    simp only
    rw [hmalformed]
    rfl

theorem mem_of_takeScheme {s : Text} (hc : c ∈ (takeScheme s).2) : c ∈ s := by
  unfold takeScheme at hc
  split at hc
  · next hcut =>
    split at hc
    · exact Text.mem_of_cutAt? hcut hc
    · exact hc
  · exact hc

theorem mem_of_takeAuthority {s : Text} (hc : c ∈ (takeAuthority s).1) : c ∈ s := by
  unfold takeAuthority at hc
  split at hc
  · next rest =>
    rw [List.span_eq_takeWhile_dropWhile] at hc
    have hrest : c ∈ rest := (List.takeWhile_sublist _).mem hc
    exact List.mem_cons_of_mem _ (List.mem_cons_of_mem _ hrest)
  · cases hc

/-- The characters of the authority are those of the URL. -/
theorem mem_of_authorityOf (hc : c ∈ authorityOf url) : c ∈ url := by
  have hcleaned := mem_of_takeScheme (mem_of_takeAuthority hc)
  exact (List.dropWhile_sublist _).mem (List.mem_filter.mp hcleaned).1

/-- A character that can make an authority unsound. -/
def IsTreacherous (c : Char) : Prop := c = '[' ∨ c = ']' ∨ c.toNat ∈ disguisedDelimiters

theorem isWellFormed_of_plain {authority : Text} (h : ∀ c ∈ authority, ¬ IsTreacherous c) :
    isWellFormed authority = true := by
  have hopen : authority.contains '[' = false := by
    rw [List.contains_eq_mem, decide_eq_false_iff_not]
    exact fun hmem => h _ hmem (Or.inl rfl)
  have hclose : authority.contains ']' = false := by
    rw [List.contains_eq_mem, decide_eq_false_iff_not]
    exact fun hmem => h _ hmem (Or.inr (Or.inl rfl))
  rw [isWellFormed, hasSoundBrackets, hopen, hclose, Bool.true_and, List.all_eq_true]
  intro c hc
  rw [Bool.not_eq_true', List.contains_eq_mem, decide_eq_false_iff_not]
  exact fun hmem => h c hc (Or.inr (Or.inr hmem))

theorem port?_error {u : Url} (h : u.port? = .error f) : f = .badSetting .port := by
  unfold port? at h
  simp only at h
  split at h
  · cases h
  · split at h
    · split at h
      · cases h
      · cases h
        rfl
    · cases h
      rfl

end SqlGateway.Url
