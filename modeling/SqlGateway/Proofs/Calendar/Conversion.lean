import SqlGateway.Proofs.Calendar.Stamp
import SqlGateway.Proofs.Sql.Atom

/-!
# Instants on other clocks

An aware moment is written as the reading of the zone's clock at the same instant. The way leads
over UTC, so it is written exactly if both clocks have a reading for the instant
(`Moment.exists_inOffset_iff`); the text then shows the instant down to the millisecond
(`Sql.Literal.calendarText_shows_instant`), and the texts of any two aware moments come in the order
of their instants (`Sql.Literal.calendarText_order`).
-/

namespace SqlGateway

/-- The clock of a zone is less than a day from UTC. -/
theorem Zone.offset_bounds {v : Value} {z : Zone} (h : Zone.ofValue v = .ok z) :
    -86400 < z.offset ∧ z.offset < 86400 := by
  have hutc : -86400 < Zone.utc.offset ∧ Zone.utc.offset < 86400 := by decide
  cases v with
  | null =>
    obtain rfl := Except.ok.inj h
    exact hutc
  | text s =>
    rw [ofValue, read] at h
    split_ifs at h
    · obtain rfl := Except.ok.inj h
      exact hutc
    · obtain rfl := Except.ok.inj h
      exact hutc
    · split at h
      · cases h
      · split_ifs at h with hbounds
        obtain rfl := Except.ok.inj h
        exact hbounds
  | _ => cases h

namespace Moment

/-- A clock that stands `offset` seconds east of UTC has a reading for the instant. -/
def ShownAt (instant offset : Int) : Prop := ∃ r : Moment, r.Valid ∧ r.instant offset = instant

section

variable {seconds offset target : Int} {us : Nat} {zone : Option Int} {m r : Moment} {e : Fault}

/-! ## Readings of seconds -/

/-- The reading that is found lies so many seconds after the start of day 0. -/
theorem ofSeconds_ok (hus : us < 1000000)
    (hzone : ∀ o ∈ zone, -86400 < o ∧ o < 86400) (h : ofSeconds seconds us zone = .ok r) :
    r.Valid ∧ (r.wallSeconds : Int) = seconds ∧ r.microsecond = us ∧ r.offset = zone := by
  cases seconds with
  | negSucc n => cases h
  | ofNat n =>
    simp only [ofSeconds] at h
    split_ifs at h with hrange
    obtain rfl := Except.ok.inj h
    obtain ⟨hdate, hordinal⟩ := Date.ordinal_ofOrdinal hrange.1 hrange.2
    refine ⟨⟨hdate, ?_, ?_, ?_, hus, hzone⟩, ?_, rfl, rfl⟩
    · show n % 86400 / 3600 < 24
      omega
    · exact Nat.mod_lt _ (by decide)
    · exact Nat.mod_lt _ (by decide)
    · simp only [wallSeconds, hordinal, Int.ofNat_eq_natCast]
      omega

theorem ofSeconds_error (h : ofSeconds seconds us zone = .error e) : e = .outsideCalendar := by
  cases seconds with
  | negSucc n => exact (Except.error.inj h).symm
  | ofNat n =>
    simp only [ofSeconds] at h
    split_ifs at h
    exact (Except.error.inj h).symm

/-- A reading is found wherever there is one. -/
theorem exists_ofSeconds (hr : r.Valid) (h : (r.wallSeconds : Int) = seconds) :
    ∃ found, ofSeconds seconds us zone = .ok found := by
  subst h
  have hordinal : r.wallSeconds / 86400 = r.date.ordinal := by
    obtain ⟨-, hhour, hminute, hsecond, -, -⟩ := hr
    unfold wallSeconds
    omega
  have hrange : 1 ≤ r.wallSeconds / 86400 ∧ r.wallSeconds / 86400 ≤ Date.lastOrdinal :=
    hordinal ▸ ⟨Date.ordinal_pos hr.1, Date.ordinal_le_last hr.1⟩
  exact ⟨_, if_pos hrange⟩

/-! ## Instants -/

/-- Two clocks show the same instant if their seconds, each taken back to UTC, and their
microseconds agree. -/
theorem instant_eq_iff (hm : m.microsecond < 1000000) (hr : r.microsecond < 1000000) :
    r.instant target = m.instant offset ↔
      (r.wallSeconds : Int) = m.wallSeconds - offset + target ∧
        r.microsecond = m.microsecond := by
  unfold instant
  omega

theorem instant_div (m : Moment) (offset : Int) :
    m.instant offset / 1000 = m.millis - offset * 1000 := by
  unfold instant millis
  omega

/-- The microseconds after the last whole millisecond are cut off the instant. -/
theorem instant_cut (m : Moment) (offset : Int) :
    m.cut.instant offset = m.instant offset / 1000 * 1000 := by
  unfold instant cut wallSeconds
  dsimp only
  omega

theorem Valid.microsecond_lt (h : m.Valid) : m.microsecond < 1000000 := h.2.2.2.2.1

/-- A clock has a reading for the instant of a moment exactly if one is found. -/
theorem shownAt_iff (hm : m.Valid) (hzone : ∀ o ∈ zone, -86400 < o ∧ o < 86400) :
    ShownAt (m.instant offset) target ↔
      ∃ r, ofSeconds (m.wallSeconds - offset + target) m.microsecond zone = .ok r := by
  constructor
  · rintro ⟨r, hr, hinstant⟩
    exact exists_ofSeconds hr
      ((instant_eq_iff hm.microsecond_lt hr.microsecond_lt).mp hinstant).1
  · rintro ⟨r, h⟩
    obtain ⟨hr, hseconds, hmicro, -⟩ := ofSeconds_ok hm.microsecond_lt hzone h
    exact ⟨r, hr, (instant_eq_iff hm.microsecond_lt hr.microsecond_lt).mpr ⟨hseconds, hmicro⟩⟩

/-! ## From clock to clock -/

theorem utc_bounds : ∀ o ∈ some (0 : Int), -86400 < o ∧ o < 86400 := by decide

theorem target_bounds (h : -86400 < target ∧ target < 86400) :
    ∀ o ∈ some target, -86400 < o ∧ o < 86400 := by
  rintro o ⟨⟩
  exact h

/-- The reading in UTC gives the seconds from which the other reading is found. -/
theorem inOffset_eq (hm : m.Valid) (hoffset : m.offset = some offset) :
    m.inOffset target = (do
      let _ ← ofSeconds (m.wallSeconds - offset) m.microsecond (some 0)
      ofSeconds (m.wallSeconds - offset + target) m.microsecond (some target)) := by
  simp only [inOffset, hoffset]
  cases hutc : ofSeconds (m.wallSeconds - offset) m.microsecond (some 0) with
  | error e => rfl
  | ok utc =>
    obtain ⟨-, hseconds, -, -⟩ := ofSeconds_ok hm.microsecond_lt utc_bounds hutc
    change ofSeconds (utc.wallSeconds + target) _ _ = ofSeconds _ _ _
    rw [hseconds]

/-- The reading on the other clock shows the same instant. -/
theorem inOffset_ok (hm : m.Valid) (hoffset : m.offset = some offset)
    (htarget : -86400 < target ∧ target < 86400) (h : m.inOffset target = .ok r) :
    r.Valid ∧ r.instant target = m.instant offset := by
  rw [inOffset_eq hm hoffset] at h
  obtain ⟨-, -, hfound⟩ := bind_eq_ok.mp h
  obtain ⟨hr, hseconds, hmicro, -⟩ :=
    ofSeconds_ok hm.microsecond_lt (target_bounds htarget) hfound
  exact ⟨hr, (instant_eq_iff hm.microsecond_lt hr.microsecond_lt).mpr ⟨hseconds, hmicro⟩⟩

theorem inOffset_error (hm : m.Valid) (hoffset : m.offset = some offset)
    (h : m.inOffset target = .error e) : e = .outsideCalendar := by
  rw [inOffset_eq hm hoffset] at h
  rcases bind_eq_error.mp h with h | ⟨utc, -, h⟩
  · exact ofSeconds_error h
  · exact ofSeconds_error h

/-- A moment gets onto another clock exactly if that clock and the one of UTC have readings for its
instant. -/
theorem exists_inOffset_iff (hm : m.Valid) (hoffset : m.offset = some offset)
    (htarget : -86400 < target ∧ target < 86400) :
    (∃ r, m.inOffset target = .ok r) ↔
      ShownAt (m.instant offset) 0 ∧ ShownAt (m.instant offset) target := by
  rw [inOffset_eq hm hoffset, shownAt_iff hm utc_bounds, shownAt_iff hm (target_bounds htarget),
    Int.add_zero]
  simp only [bind_eq_ok]
  constructor
  · rintro ⟨r, utc, hutc, hr⟩
    exact ⟨⟨utc, hutc⟩, ⟨r, hr⟩⟩
  · rintro ⟨⟨utc, hutc⟩, ⟨r, hr⟩⟩
    exact ⟨r, utc, hutc, hr⟩

end

end Moment

/-! ## Texts of moments -/

namespace Sql.Literal

section

variable {tz : Value} {z : Zone} {m : Moment} {offset : Int} {t : Text}

/-- What is written for an aware moment is the text of the reading of the zone's clock at its
instant. -/
theorem calendarText_ok (hzone : Zone.ofValue tz = .ok z) (hm : m.Valid)
    (hoffset : m.offset = some offset)
    (h : calendarText (Zone.ofValue tz) (.moment m) = .ok t) :
    ∃ r : Moment, r.Valid ∧ r.instant z.offset = m.instant offset ∧ r.text = t := by
  rw [hzone, calendarText, momentText_ok] at h
  obtain ⟨r, hr, rfl⟩ := map_eq_ok.mp h
  obtain ⟨hvalid, hinstant⟩ := Moment.inOffset_ok hm hoffset (Zone.offset_bounds hzone) hr
  exact ⟨r, hvalid, hinstant, rfl⟩

theorem calendarText_error (hzone : Zone.ofValue tz = .ok z) (hm : m.Valid)
    (hoffset : m.offset = some offset) {e : Fault}
    (h : calendarText (Zone.ofValue tz) (.moment m) = .error e) : e = .outsideCalendar := by
  rw [hzone, calendarText, momentText_ok] at h
  exact Moment.inOffset_error hm hoffset (map_eq_error.mp h)

/-- An aware moment is refused exactly if the clock of UTC or that of the zone has no reading for
its instant. -/
theorem exists_calendarText_error_iff (hzone : Zone.ofValue tz = .ok z) (hm : m.Valid)
    (hoffset : m.offset = some offset) :
    (∃ e, calendarText (Zone.ofValue tz) (.moment m) = .error e) ↔
      ¬Moment.ShownAt (m.instant offset) 0 ∨ ¬Moment.ShownAt (m.instant offset) z.offset := by
  have hshown := Moment.exists_inOffset_iff hm hoffset (Zone.offset_bounds hzone)
  rw [hzone, calendarText, momentText_ok, ← not_and_or, ← hshown]
  cases m.inOffset z.offset with
  | error e => exact iff_of_true ⟨e, rfl⟩ nofun
  | ok r => exact iff_of_false nofun (not_not.mpr ⟨r, rfl⟩)

/-- The text of an aware moment has the form `YYYY-MM-DD HH:MM:SS.mmm`, and read on the zone's clock
it is the instant, cut to a whole millisecond. The only fault is an overflow: it occurs unless both
clocks are those of UTC or the instant has readings both in UTC and in the zone. A moment that is
not aware keeps its own fields in every zone. -/
theorem calendarText_shows_instant (hzone : Zone.ofValue tz = .ok z) (hm : m.Valid) :
    (∀ offset, m.offset = some offset →
      (∀ t, calendarText (Zone.ofValue tz) (.moment m) = .ok t →
        ∃ r, Moment.read? t = some r ∧ r.Valid ∧
          r.instant z.offset = m.instant offset / 1000 * 1000) ∧
      (∀ e, calendarText (Zone.ofValue tz) (.moment m) = .error e →
        e = .outsideCalendar ∧ e.kind = .overflow) ∧
      ((∃ e, calendarText (Zone.ofValue tz) (.moment m) = .error e) ↔
        ¬(offset = 0 ∧ z.offset = 0) ∧ (¬Moment.ShownAt (m.instant offset) 0 ∨
          ¬Moment.ShownAt (m.instant offset) z.offset))) ∧
    (m.offset = none → ∃ t, calendarText (Zone.ofValue tz) (.moment m) = .ok t ∧
      Moment.read? t = some { m with microsecond := m.microsecond / 1000 * 1000 }) := by
  refine ⟨fun offset hoffset => ⟨fun t ht => ?_, fun e he => ?_, ?_⟩, fun hoffset => ?_⟩
  · obtain ⟨r, hr, hinstant, rfl⟩ := calendarText_ok hzone hm hoffset ht
    refine ⟨r.cut, Moment.read?_text hr, hr.cut, ?_⟩
    rw [Moment.instant_cut, hinstant]
  · obtain rfl := calendarText_error hzone hm hoffset he
    exact ⟨rfl, rfl⟩
  · rw [exists_calendarText_error_iff hzone hm hoffset, iff_and_self]
    -- In UTC the moment itself is the reading.
    rintro hnone ⟨rfl, hutc⟩
    rw [hutc, or_self] at hnone
    exact hnone ⟨m, hm, rfl⟩
  · refine ⟨m.text, ?_, ?_⟩
    · rw [hzone, calendarText, momentText_unaware z hoffset]
    · rw [Moment.read?_text hm, Moment.cut, ← hoffset]

/-- Half past eleven at night on a clock an hour west of UTC; two hours east of UTC it is the next
day, and that is a 29 February. -/
def lateNight : Moment := ⟨⟨2024, 2, 28⟩, 23, 30, 0, 123456, some (-3600)⟩

theorem calendarText_shows_instant_leapDay :
    Zone.ofValue (.text "+02:00".toList) = .ok (.fixed 7200) ∧ lateNight.Valid ∧
      ∃ r, Moment.read? "2024-02-29 02:30:00.123".toList = some r ∧ r.Valid ∧
        r.instant 7200 = lateNight.instant (-3600) / 1000 * 1000 := by
  have hzone : Zone.ofValue (.text "+02:00".toList) = .ok (.fixed 7200) := by rfl
  have hm : lateNight.Valid := by decide
  have htext : calendarText (Zone.ofValue (.text "+02:00".toList)) (.moment lateNight) =
      .ok "2024-02-29 02:30:00.123".toList := by decide +kernel
  obtain ⟨haware, -⟩ := calendarText_shows_instant hzone hm
  exact ⟨hzone, hm, (haware (-3600) rfl).1 _ htext⟩

/-- The texts of two aware moments, compared character by character, come in the order of their
instants, and they are the same exactly if the instants lie in the same millisecond. -/
theorem calendarText_order {a b : Moment} {p q : Int} {s t : Text}
    (hzone : Zone.ofValue tz = .ok z) (ha : a.Valid) (hb : b.Valid) (hp : a.offset = some p)
    (hq : b.offset = some q) (hs : calendarText (Zone.ofValue tz) (.moment a) = .ok s)
    (ht : calendarText (Zone.ofValue tz) (.moment b) = .ok t) :
    (a.instant p ≤ b.instant q → ¬t < s) ∧
      (s < t ↔ a.instant p / 1000 < b.instant q / 1000) ∧
      (s = t ↔ a.instant p / 1000 = b.instant q / 1000) := by
  obtain ⟨r, hr, hinstant, rfl⟩ := calendarText_ok hzone ha hp hs
  obtain ⟨r', hr', hinstant', rfl⟩ := calendarText_ok hzone hb hq ht
  have hmillis := Moment.instant_div r z.offset
  have hmillis' := Moment.instant_div r' z.offset
  rw [← hinstant, ← hinstant', hmillis, hmillis', Moment.text_lt_iff hr hr',
    Moment.text_lt_iff hr' hr, Moment.text_eq_iff hr hr']
  omega

/-- Noon in UTC. -/
def noon : Moment := ⟨⟨2024, 1, 1⟩, 12, 0, 0, 0, some 0⟩

/-- A quarter past one on a clock an hour further east, which is later. -/
def quarterPastOne : Moment := ⟨⟨2024, 1, 1⟩, 13, 15, 0, 0, some 3600⟩

theorem calendarText_order_noon :
    ∃ s t, calendarText (Zone.ofValue .null) (.moment noon) = .ok s ∧
      calendarText (Zone.ofValue .null) (.moment quarterPastOne) = .ok t ∧ s < t := by
  have hs : calendarText (Zone.ofValue .null) (.moment noon) =
      .ok "2024-01-01 12:00:00.000".toList := by decide +kernel
  have ht : calendarText (Zone.ofValue .null) (.moment quarterPastOne) =
      .ok "2024-01-01 12:15:00.000".toList := by decide +kernel
  have horder := calendarText_order (z := .fixed 0) rfl (by decide) (by decide) rfl rfl hs ht
  exact ⟨_, _, hs, ht, horder.2.1.mpr (by decide)⟩

end

end Sql.Literal

end SqlGateway
