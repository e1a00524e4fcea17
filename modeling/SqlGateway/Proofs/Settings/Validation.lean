import SqlGateway.Proofs.Statement.Rendering
import SqlGateway.Settings.Basic

/-!
# Validated settings

The check of settings is a row of requirements (`Requirement.order`), of which the first that is not
met decides (`validate_eq_forM`). Its fault is an error of the configuration and names the setting,
with one exception: a time zone of a day or more from UTC is refused as a value. Once the check is
passed, the zone is no reason any more for which something cannot be rendered (`validate_outcome`).
-/

namespace SqlGateway

/-! ## Time zones that are refused -/

/-- The value is text that gives an offset of a day or more. -/
def Value.IsDayAway (v : Value) : Prop :=
  ∃ t n, v = .text t ∧ Zone.offset? t = some n ∧ ¬(-86400 < n ∧ n < 86400)

namespace Zone

theorem ofValue_text_cases (s : Text) :
    ((∃ z, ofValue (.text s) = .ok z) ∧ ¬Value.IsDayAway (.text s)) ∨
      (ofValue (.text s) = .error (.unknownZone s.display) ∧ ¬Value.IsDayAway (.text s)) ∨
      (ofValue (.text s) = .error .offsetTooLarge ∧ Value.IsDayAway (.text s)) := by
  have hdayAway : Value.IsDayAway (.text s) ↔
      ∃ n, offset? s = some n ∧ ¬(-86400 < n ∧ n < 86400) := by
    constructor
    · rintro ⟨t, n, ⟨⟩, hn, hfar⟩
      exact ⟨n, hn, hfar⟩
    · rintro ⟨n, hn, hfar⟩
      exact ⟨s, n, rfl, hn, hfar⟩
  rw [hdayAway]
  change (∃ z, read s = .ok z) ∧ _ ∨ read s = _ ∧ _ ∨ read s = _ ∧ _
  unfold read
  split
  · next hs =>
    refine Or.inl ⟨⟨_, rfl⟩, ?_⟩
    rw [Bool.or_eq_true, decide_eq_true_eq, decide_eq_true_eq] at hs
    rcases hs with rfl | rfl <;> exact nofun
  split
  · next hs =>
    refine Or.inl ⟨⟨_, rfl⟩, ?_⟩
    subst hs
    exact nofun
  cases hoffset : offset? s with
  | none => exact Or.inr (Or.inl ⟨rfl, nofun⟩)
  | some n =>
    by_cases hn : -86400 < n ∧ n < 86400
    · refine Or.inl ⟨⟨.fixed n, if_pos hn⟩, ?_⟩
      rintro ⟨m, ⟨⟩, hfar⟩
      exact hfar hn
    · exact Or.inr (Or.inr ⟨if_neg hn, n, rfl, hn⟩)

/-- Nothing or a text names a zone, or is refused as no zone or as a day away. -/
theorem ofValue_cases {v : Value} (hv : v = .null ∨ ∃ t, v = .text t) :
    ((∃ z, ofValue v = .ok z) ∧ ¬v.IsDayAway) ∨
      (ofValue v = .error (.unknownZone v.display) ∧ ¬v.IsDayAway) ∨
      (ofValue v = .error .offsetTooLarge ∧ v.IsDayAway) := by
  rcases hv with rfl | ⟨t, rfl⟩
  · exact Or.inl ⟨⟨_, rfl⟩, nofun⟩
  · exact ofValue_text_cases t

end Zone

/-! ## Requirements -/

namespace Settings

/-- What is asked of settings. -/
inductive Requirement where
  | host
  | port
  | database
  | user
  | pool
  | timezone
  deriving DecidableEq

namespace Requirement

/-- The requirements in the order in which they are checked. -/
def order : List Requirement := [host, port, database, user, pool, timezone]

/-- An integer above zero. -/
def IsPositive (v : Value) : Prop := ∃ n, v.integer? = some n ∧ 0 < n

theorem mem_order (r : Requirement) : r ∈ order := by
  cases r <;> decide

/-- The settings meet the requirement. -/
def Met (s : Settings) : Requirement → Prop
  | host => s.host.isTruthy
  | port => IsPositive s.port
  | database => s.database.isTruthy
  | user => s.user.isTruthy
  | pool => IsPositive s.pool
  | timezone => ∃ z, Zone.ofValue s.timezone = .ok z

/-- The settings meet all requirements that come before this one, but not this one. -/
def IsFirstUnmet (s : Settings) (r : Requirement) : Prop :=
  ∃ before after, order = before ++ r :: after ∧ (∀ q ∈ before, q.Met s) ∧ ¬r.Met s

theorem IsFirstUnmet.not_met {s : Settings} {r : Requirement} (h : IsFirstUnmet s r) :
    ¬r.Met s := by
  obtain ⟨before, after, -, -, hunmet⟩ := h
  exact hunmet

/-- The message for a requirement that is not met. -/
def message (s : Settings) : Requirement → Text
  | host => "Invalid host.".toList
  | port => "Invalid port.".toList
  | database => "Invalid database.".toList
  | user => "Invalid user.".toList
  | pool => "Invalid pool number.".toList
  | timezone => "Invalid timezone: ".toList ++ s.timezone.display

/-- The setting of the given name has passed a test. -/
def passed (name : SettingName) (b : Bool) : Except Fault Unit :=
  if b then .ok () else .error (.badSetting name)

theorem passed_eq_ok {name : SettingName} {b : Bool} : passed name b = .ok () ↔ b = true := by
  cases b
  · exact iff_of_false nofun nofun
  · exact iff_of_true rfl rfl

theorem passed_error {name : SettingName} {b : Bool} {f : Fault} (h : passed name b = .error f) :
    f = .badSetting name := by
  cases b <;> cases h
  rfl

/-- The check of one requirement. -/
def check (s : Settings) : Requirement → Except Fault Unit
  | host => passed .host s.host.isTruthy
  | port => passed .port (isCount s.port)
  | database => passed .database s.database.isTruthy
  | user => passed .user s.user.isTruthy
  | pool => passed .pool (isCount s.pool)
  | timezone =>
    match Zone.ofValue s.timezone with
    | .ok _ => .ok ()
    | .error f => .error (zoneFault f)

theorem isCount_iff {v : Value} : isCount v = true ↔ IsPositive v := by
  unfold isCount IsPositive
  cases v.integer? with
  | none => exact iff_of_false nofun nofun
  | some n =>
    change decide (n > 0) = true ↔ _
    rw [decide_eq_true_eq]
    constructor
    · exact fun hn => ⟨n, rfl, hn⟩
    · rintro ⟨m, ⟨⟩, hm⟩
      exact hm

theorem check_eq_ok {s : Settings} {r : Requirement} : r.check s = .ok () ↔ r.Met s := by
  cases r with
  | host | database | user => exact passed_eq_ok
  | port | pool => exact passed_eq_ok.trans isCount_iff
  | timezone =>
    unfold check Met
    cases Zone.ofValue s.timezone with
    | ok z => exact iff_of_true rfl ⟨z, rfl⟩
    | error f => exact iff_of_false nofun nofun

theorem exists_fault {s : Settings} {r : Requirement} (h : ¬r.Met s) :
    ∃ f, r.check s = .error f := by
  cases hcheck : r.check s with
  | ok u => exact absurd (check_eq_ok.mp hcheck) h
  | error f => exact ⟨f, rfl⟩

/-- A check that fails names its setting, apart from a time zone that is a day away. -/
theorem check_error {s : Settings} {r : Requirement} {f : Fault}
    (hzone : s.timezone = .null ∨ ∃ t, s.timezone = .text t) (h : r.check s = .error f) :
    (f.kind = .configuration ∧ f.message = r.message s ∧ ¬(r = timezone ∧ s.timezone.IsDayAway)) ∨
      (r = timezone ∧ s.timezone.IsDayAway ∧ f = .offsetTooLarge) := by
  cases r with
  | host | port | database | user | pool =>
    obtain rfl := passed_error h
    exact Or.inl ⟨rfl, rfl, nofun⟩
  | timezone =>
    unfold check at h
    rcases Zone.ofValue_cases hzone with ⟨⟨z, hz⟩, -⟩ | ⟨hz, hnear⟩ | ⟨hz, hfar⟩ <;>
      rw [hz] at h <;> cases h
    · exact Or.inl ⟨rfl, rfl, fun h => hnear h.2⟩
    · exact Or.inr ⟨rfl, hfar, rfl⟩

end Requirement

theorem validate_eq_forM (s : Settings) :
    s.validate = (forM Requirement.order (Requirement.check s)).map fun _ => s := by
  have hguard (name : SettingName) (b : Bool) (x : Except Fault Settings)
      (y : Except Fault Unit) (h : x = y.map fun _ => s) :
      (if !b then .error (.badSetting name) else x) =
        (Requirement.passed name b >>= fun _ => y).map fun _ => s := by
    subst h
    cases b <;> rfl
  unfold validate Requirement.order
  simp only [List.forM_cons, Requirement.check]
  apply hguard .host
  apply hguard .port
  apply hguard .database
  apply hguard .user
  apply hguard .pool
  cases Zone.ofValue s.timezone <;> rfl

/-- The settings pass exactly if they meet every requirement, and then they are what they were. -/
theorem validate_eq_ok {s s' : Settings} :
    s.validate = .ok s' ↔ s' = s ∧ ∀ r, Requirement.Met s r := by
  rw [validate_eq_forM, map_eq_ok]
  constructor
  · rintro ⟨u, hpassed, rfl⟩
    refine ⟨rfl, fun r => ?_⟩
    exact Requirement.check_eq_ok.mp (forM_eq_ok.mp hpassed r (Requirement.mem_order r))
  · rintro ⟨rfl, hmet⟩
    exact ⟨(), forM_eq_ok.mpr fun r _ => Requirement.check_eq_ok.mpr (hmet r), rfl⟩

/-- Otherwise the first requirement that they do not meet decides. -/
theorem validate_eq_error {s : Settings} {f : Fault} :
    s.validate = .error f ↔ ∃ r, Requirement.IsFirstUnmet s r ∧ r.check s = .error f := by
  rw [validate_eq_forM, map_eq_error, forM_eq_error]
  constructor
  · rintro ⟨before, r, after, hsplit, hbefore, hr⟩
    refine ⟨r, ⟨before, after, hsplit, fun q hq => ?_, fun hmet => ?_⟩, hr⟩
    · exact Requirement.check_eq_ok.mp (hbefore q hq)
    · rw [Requirement.check_eq_ok.mpr hmet] at hr
      cases hr
  · rintro ⟨r, ⟨before, after, hsplit, hbefore, -⟩, hr⟩
    exact ⟨before, r, after, hsplit, fun q hq => Requirement.check_eq_ok.mpr (hbefore q hq), hr⟩

/-- The check of settings whose time zone is text or left out. They pass exactly if they meet all
requirements, and the first that is not met decides otherwise: the error is one of the
configuration, with the message of that requirement, unless the zone is the first and lies a day
away, which is refused as a value. What can be rendered in UTC can be rendered in the zone of
settings that have passed, as long as its moments lie within the calendar there. -/
theorem validate_outcome (s : Settings)
    (hzone : s.timezone = .null ∨ ∃ t, s.timezone = .text t) :
    (∀ s', s.validate = .ok s' ↔ s' = s ∧ ∀ r, Requirement.Met s r) ∧
    (∀ f, s.validate = .error f → ∃ r, Requirement.IsFirstUnmet s r ∧
      (f.kind = .configuration → f.message = r.message s)) ∧
    ((∃ f, s.validate = .error f ∧ f.kind ≠ .configuration) ↔
      Requirement.IsFirstUnmet s .timezone ∧ s.timezone.IsDayAway) ∧
    (s.validate = .ok s → ∃ z, s.zone = .ok z ∧ ∀ (call : Rendering) (s? : Option Text),
      call.text? (Zone.ofValue (.text ['Z'])) = .ok s? →
      (∀ m, .moment m ∈ call.atoms → ∃ n, m.inOffset z.offset = .ok n) →
      ∃ t?, call.text? s.zone = .ok t?) := by
  refine ⟨fun s' => validate_eq_ok, fun f h => ?_, ?_, fun h => ?_⟩
  · obtain ⟨r, hfirst, hr⟩ := validate_eq_error.mp h
    refine ⟨r, hfirst, fun hkind => ?_⟩
    rcases Requirement.check_error hzone hr with ⟨-, hmessage, -⟩ | ⟨-, -, rfl⟩
    · exact hmessage
    · cases hkind
  · constructor
    · rintro ⟨f, h, hkind⟩
      obtain ⟨r, hfirst, hr⟩ := validate_eq_error.mp h
      rcases Requirement.check_error hzone hr with ⟨hconfiguration, -, -⟩ | ⟨rfl, hfar, -⟩
      · exact absurd hconfiguration hkind
      · exact ⟨hfirst, hfar⟩
    · rintro ⟨hfirst, hfar⟩
      obtain ⟨f, hf⟩ := Requirement.exists_fault hfirst.not_met
      refine ⟨f, validate_eq_error.mpr ⟨_, hfirst, hf⟩, ?_⟩
      rcases Requirement.check_error hzone hf with ⟨-, -, hnear⟩ | ⟨-, -, rfl⟩
      · exact absurd ⟨rfl, hfar⟩ hnear
      · exact nofun
  · obtain ⟨z, hz⟩ := (validate_eq_ok.mp h).2 .timezone
    refine ⟨z, hz, fun call s? htext hfits => ?_⟩
    rw [zone, hz]
    exact Rendering.exists_text?_of_fits htext hfits

/-- Settings that lack nothing, with the given time zone. -/
def ofZone (timezone : Text) : Settings where
  host := .text ['h']
  database := .text ['d']
  user := .text ['u']
  timezone := .text timezone

/-- With a zone two hours east of UTC a moment of another clock can be rendered. -/
theorem validate_outcome_east :
    let s := ofZone "+02:00".toList
    let noon : Value := .moment ⟨⟨2024, 1, 2⟩, 12, 0, 0, 0, some (-18000)⟩
    s.validate = .ok s ∧ ∃ t?, (Rendering.literal false noon).text? s.zone = .ok t? := by
  intro s noon
  have hzone : s.zone = .ok (.fixed 7200) := by decide
  have hpassed : s.validate = .ok s := rfl
  obtain ⟨z, hz, hrendered⟩ := (validate_outcome s (Or.inr ⟨_, rfl⟩)).2.2.2 hpassed
  obtain rfl : z = .fixed 7200 := Except.ok.inj (hz.symm.trans hzone)
  refine ⟨hpassed, hrendered (.literal false noon) _ rfl fun m hm => ?_⟩
  obtain rfl := Value.moment.inj (List.mem_singleton.mp hm)
  exact ⟨⟨⟨2024, 1, 2⟩, 19, 0, 0, 0, some 7200⟩, by decide⟩

/-- A zone of a whole day from UTC is no error of the configuration. -/
theorem validate_day_away :
    ∃ f, (ofZone "+24:00".toList).validate = .error f ∧ f.kind ≠ .configuration :=
  ⟨.offsetTooLarge, rfl, nofun⟩

end Settings

end SqlGateway
