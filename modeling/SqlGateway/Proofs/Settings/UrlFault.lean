import SqlGateway.Proofs.Outcome
import SqlGateway.Proofs.Url.Authority
import SqlGateway.Settings.Source

/-!
# URLs that are refused

A URL is refused with the fault of the setting that cannot be read, or as a URL without a scheme or
a server, and these are errors of the configuration. Before anything else is looked at, though, an
authority with unsound brackets or with a disguised delimiter is refused as an address, and this is
an error of another class (`ofUrl_faults`).
-/

namespace SqlGateway

namespace Settings

variable {url : Text} {f : Fault}

theorem readInt_error {name : SettingName} {s : Text} (h : readInt name s = .error f) :
    f = .badSetting name := by
  unfold readInt at h
  split at h
  · cases h
  · cases h
    rfl

theorem readSeconds_error {s : Text} (h : readSeconds s = .error f) :
    f = .badSetting .connectTimeout := by
  unfold readSeconds at h
  split at h
  · cases h
  · cases h
    rfl

/-- A setting that keeps its default is never refused. -/
theorem readOr_error {default : Value} {read : Text → Except Fault Value} {s? : Option Text}
    (h : readOr default read s? = .error f) : ∃ s, read s = .error f := by
  cases s? with
  | none => cases h
  | some s => exact ⟨s, h⟩

/-- The settings that a URL may be refused for. -/
def urlSettings : List SettingName := [.port, .pool, .connectTimeout]

theorem ofUrl_error (h : ofUrl url = .error f) :
    (f = .badAddress ∧ Url.isWellFormed (Url.authorityOf url) = false) ∨ f = .badUrl url ∨
      ∃ name ∈ urlSettings, f = .badSetting name := by
  unfold ofUrl at h
  rcases bind_eq_error.mp h with hsplit | ⟨u, hsplit, h⟩
  · exact Or.inl (Url.split_eq_error.mp hsplit)
  right
  simp only at h
  split at h
  · cases h
    exact Or.inl rfl
  right
  rcases bind_eq_error.mp h with hport | ⟨port?, -, h⟩
  · exact ⟨.port, by decide, Url.port?_error hport⟩
  rcases bind_eq_error.mp h with hpool | ⟨pool, -, h⟩
  · obtain ⟨s, hread⟩ := readOr_error hpool
    exact ⟨.pool, by decide, readInt_error hread⟩
  rcases bind_eq_error.mp h with htimezone | ⟨timezone, -, h⟩
  · obtain ⟨s, hread⟩ := readOr_error htimezone
    cases hread
  rcases bind_eq_error.mp h with hcharset | ⟨charset, -, h⟩
  · obtain ⟨s, hread⟩ := readOr_error hcharset
    cases hread
  rcases bind_eq_error.mp h with hseconds | ⟨seconds, -, h⟩
  · obtain ⟨s, hread⟩ := readOr_error hseconds
    exact ⟨.connectTimeout, by decide, readSeconds_error hread⟩
  cases h

/-- A URL with an unsound authority is refused as an address before anything else is looked at. -/
theorem ofUrl_malformed (h : Url.isWellFormed (Url.authorityOf url) = false) :
    ofUrl url = .error .badAddress := by
  rw [ofUrl, Url.split_eq_error.mpr ⟨rfl, h⟩]
  rfl

/-- A URL is refused as an address if its authority is unsound, and otherwise with an error of the
configuration only, which names the URL or the setting that cannot be read. -/
theorem ofUrl_faults (url : Text) :
    (ofUrl url = .error .badAddress ↔ Url.isWellFormed (Url.authorityOf url) = false) ∧
    (∀ f, ofUrl url = .error f → f ≠ .badAddress →
      f.kind = .configuration ∧ (f = .badUrl url ∨ ∃ name ∈ urlSettings, f = .badSetting name)) ∧
    ((∀ c ∈ url, ¬ Url.IsTreacherous c) → ∀ f, ofUrl url = .error f → f.kind = .configuration) := by
  have hkind : ∀ f, ofUrl url = .error f → f ≠ .badAddress →
      f.kind = .configuration ∧ (f = .badUrl url ∨ ∃ name ∈ urlSettings, f = .badSetting name) := by
    intro f h hne
    rcases ofUrl_error h with ⟨hf, -⟩ | rfl | ⟨name, hname, rfl⟩
    · exact absurd hf hne
    · exact ⟨rfl, Or.inl rfl⟩
    · exact ⟨rfl, Or.inr ⟨name, hname, rfl⟩⟩
  have haddress : ofUrl url = .error .badAddress ↔
      Url.isWellFormed (Url.authorityOf url) = false := by
    refine ⟨fun h => ?_, ofUrl_malformed⟩
    rcases ofUrl_error h with ⟨-, hmalformed⟩ | hf | ⟨name, -, hf⟩
    · exact hmalformed
    · cases hf
    · cases hf
  refine ⟨haddress, hkind, fun hplain f h => ?_⟩
  have hsound : Url.isWellFormed (Url.authorityOf url) = true :=
    Url.isWellFormed_of_plain fun c hc => hplain c (Url.mem_of_authorityOf hc)
  refine (hkind f h ?_).1
  rintro rfl
  rw [haddress.mp h] at hsound
  cases hsound

/-- A bracket that nothing closes is no error of the configuration. -/
theorem ofUrl_open_bracket :
    ¬ ∀ url f, ofUrl url = .error f → f.kind = .configuration := by
  intro h
  have hbracket : ofUrl "mysql://u@[::1/d".toList = .error .badAddress :=
    ofUrl_malformed (by decide +kernel)
  cases h _ _ hbracket

end Settings

end SqlGateway
