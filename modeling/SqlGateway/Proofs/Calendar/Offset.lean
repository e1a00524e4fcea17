import Mathlib.Tactic.ByContra
import SqlGateway.Proofs.Calendar.Stamp
import SqlGateway.Proofs.Text.Basic
import SqlGateway.Value.Basic

/-!
# Texts of time zones

`Names` is the grammar of the texts that name a zone: nothing or `Z`, `local`, and an offset of less
than a day as a sign with `HH`, `HHMM` or `HH:MM` behind it. Every such text is read as the zone
that it names. The reader takes more for an offset than that (`Spelling`): a colon without minutes,
minutes from 60 on, a day and more, a line break at the end, digits of any script. The two differ at
these spellings and nowhere else (`ofValue_text_outcome`).
-/

namespace SqlGateway.Zone

/-! ## The grammar -/

/-- The sign of an offset. A space stands for plus. -/
def IsSign (c : Char) : Prop := c = '+' ∨ c = '-' ∨ c = ' '

/-- The seconds of hours and minutes with a sign. -/
def signedSeconds (sign : Char) (hours minutes : Nat) : Int :=
  if sign = '-' then -(3600 * hours + 60 * minutes) else 3600 * hours + 60 * minutes

/-- The minutes as they stand behind the hours; none may be left out. -/
inductive WritesMinutes : Nat → Text → Prop
  | omitted : WritesMinutes 0 []
  | plain (minutes : Nat) : WritesMinutes minutes (Moment.twoDigits minutes)
  | colon (minutes : Nat) : WritesMinutes minutes (':' :: Moment.twoDigits minutes)

/-- The text names the zone. -/
inductive Names : Text → Zone → Prop
  | empty : Names [] .utc
  | utc : Names ['Z'] .utc
  | host : Names "local".toList .host
  | offset {sign : Char} {hours minutes : Nat} {t : Text} : IsSign sign → hours < 24 →
      minutes < 60 → WritesMinutes minutes t →
      Names (sign :: Moment.twoDigits hours ++ t) (.fixed (signedSeconds sign hours minutes))

/-! ## Pairs of digits -/

theorem digitValue?_digitChar {n : Nat} (h : n < 10) :
    Text.digitValue? (Nat.digitChar n) = some n := by
  have hall : ∀ n : Fin 10, Text.digitValue? (Nat.digitChar n) = some n.val := by decide
  exact hall ⟨n, h⟩

theorem twoDigits_eq {n : Nat} (h : n < 100) :
    Moment.twoDigits n = [Nat.digitChar (n / 10), Nat.digitChar (n % 10)] := by
  have hall : ∀ n : Fin 100,
      Moment.twoDigits n = [Nat.digitChar (n / 10), Nat.digitChar (n % 10)] := by decide
  exact hall ⟨n, h⟩

theorem twoDigits?_eq_some_iff {a b : Char} {n : Nat} :
    twoDigits? a b = some n ↔ ∃ x y, Text.digitValue? a = some x ∧ Text.digitValue? b = some y ∧
      n = 10 * x + y := by
  unfold twoDigits?
  cases Text.digitValue? a <;> cases Text.digitValue? b <;> simp [eq_comm]

/-- No digit of any script is a colon or a line break. -/
theorem digitValue?_ne {c : Char} {n : Nat} (h : Text.digitValue? c = some n) :
    c ≠ ':' ∧ c ≠ '\n' := by
  have hcolon : Text.digitValue? ':' = none := by decide
  have hbreak : Text.digitValue? '\n' = none := by decide
  constructor <;> rintro rfl <;> simp_all

/-! ## Spellings -/

/-- The parts of what is taken for an offset: two digits for the hours, two for the minutes if any,
and the marks that may stand between them and at the end. -/
structure Spelling where
  sign : Char
  hours : Char × Char
  hasColon : Bool
  minutes : Option (Char × Char)
  hasBreak : Bool

/-- Two digits, or nothing. -/
def pairText : Option (Char × Char) → Text
  | none => []
  | some (a, b) => [a, b]

/-- The number of two digits; nothing counts as zero. -/
def pairValue? : Option (Char × Char) → Option Nat
  | none => some 0
  | some (a, b) => twoDigits? a b

namespace Spelling

/-- The minutes and the line break as they stand behind the colon. -/
def ending (p : Spelling) : Text :=
  pairText p.minutes ++ if p.hasBreak then ['\n'] else []

/-- All that stands behind the hours. -/
def rest (p : Spelling) : Text := (if p.hasColon then [':'] else []) ++ p.ending

/-- The spelling as text. -/
def text (p : Spelling) : Text := p.sign :: p.hours.1 :: p.hours.2 :: p.rest

/-- The spelling is one of so many hours and minutes, in digits of any script. -/
structure Gives (p : Spelling) (hours minutes : Nat) : Prop where
  sign : IsSign p.sign
  hours : twoDigits? p.hours.1 p.hours.2 = some hours
  minutes : pairValue? p.minutes = some minutes

/-- The digits of the spelling. -/
def digits (p : Spelling) : Text :=
  p.hours.1 :: p.hours.2 :: pairText p.minutes

/-- What keeps a spelling of so many hours and minutes from naming a zone. -/
inductive Flawed (p : Spelling) (hours minutes : Nat) : Prop
  | danglingColon : p.hasColon = true → p.minutes = none → Flawed p hours minutes
  | longMinutes : 60 ≤ minutes → Flawed p hours minutes
  | dayAway : 86400 ≤ 3600 * hours + 60 * minutes → Flawed p hours minutes
  | lineBreak : p.hasBreak = true → Flawed p hours minutes
  | foreignDigit {c : Char} : c ∈ p.digits → c.isDigit = false → Flawed p hours minutes

end Spelling

/-! ## Reading -/

theorem afterColon_of_head {t : Text} (h : t.head? ≠ some ':') : afterColon t = t := by
  cases t with
  | nil => rfl
  | cons c t =>
    rw [afterColon]
    rintro rest he
    injection he with hc
    exact h (congrArg some hc)

theorem offset?_parts {sign a b : Char} {t : Text} {hours minutes : Nat} (hsign : IsSign sign)
    (hhours : twoDigits? a b = some hours) (hminutes : minutes? (afterColon t) = some minutes) :
    offset? (sign :: a :: b :: t) = some (signedSeconds sign hours minutes) := by
  have htest : (sign = '+' || sign = '-' || sign = ' ') = true := by
    simpa [IsSign, or_assoc] using hsign
  simp only [offset?, htest, hhours, hminutes, if_true]
  rfl

section

variable {p : Spelling} {hours minutes : Nat}

/-- What follows the colon does not begin with another one. -/
theorem Spelling.Gives.ending_head (h : p.Gives hours minutes) : p.ending.head? ≠ some ':' := by
  have hminutes := h.minutes
  unfold ending
  cases hm : p.minutes with
  | none => cases p.hasBreak <;> simp [pairText]
  | some pair =>
    rw [hm] at hminutes
    obtain ⟨x, -, hx, -, -⟩ := twoDigits?_eq_some_iff.mp hminutes
    simpa [pairText] using (digitValue?_ne hx).1

theorem Spelling.Gives.minutes?_ending (h : p.Gives hours minutes) :
    minutes? p.ending = some minutes := by
  rw [← h.minutes, ending]
  rcases p.minutes with - | ⟨a, b⟩ <;> cases p.hasBreak <;> simp [pairText, pairValue?, minutes?]

theorem Spelling.Gives.minutes?_rest (h : p.Gives hours minutes) :
    minutes? (afterColon p.rest) = some minutes := by
  unfold rest
  cases p.hasColon with
  | true => exact h.minutes?_ending
  | false =>
    have hsame : afterColon p.ending = p.ending := afterColon_of_head h.ending_head
    exact (congrArg minutes? hsame).trans h.minutes?_ending

/-- A spelling is read as the offset of its hours and minutes. -/
theorem Spelling.Gives.offset?_text (h : p.Gives hours minutes) :
    offset? p.text = some (signedSeconds p.sign hours minutes) :=
  offset?_parts h.sign h.hours h.minutes?_rest

end

theorem minutes?_cases {t : Text} {m : Nat} (h : minutes? t = some m) :
    ∃ (pair : Option (Char × Char)) (hasBreak : Bool),
      t = pairText pair ++ (if hasBreak then ['\n'] else []) ∧ pairValue? pair = some m := by
  unfold minutes? at h
  split at h
  · exact ⟨none, false, rfl, h⟩
  · exact ⟨none, true, rfl, h⟩
  · next a b => exact ⟨some (a, b), false, rfl, h⟩
  · next a b => exact ⟨some (a, b), true, rfl, h⟩
  · cases h

theorem afterColon_cases (t : Text) :
    ∃ hasColon : Bool, t = (if hasColon then [':'] else []) ++ afterColon t := by
  unfold afterColon
  split
  · exact ⟨true, rfl⟩
  · exact ⟨false, rfl⟩

/-- What is read as an offset is spelled as one. -/
theorem exists_spelling {s : Text} {n : Int} (h : offset? s = some n) :
    ∃ (p : Spelling) (hours minutes : Nat), p.text = s ∧ p.Gives hours minutes := by
  unfold offset? at h
  split at h
  · next sign a b rest =>
    split at h
    · next hsign =>
      obtain ⟨hours, hhours, h⟩ := Option.bind_eq_some_iff.mp h
      obtain ⟨minutes, hminutes, -⟩ := Option.bind_eq_some_iff.mp h
      obtain ⟨hasColon, hrest⟩ := afterColon_cases rest
      obtain ⟨pair, hasBreak, hending, hpair⟩ := minutes?_cases hminutes
      refine ⟨⟨sign, (a, b), hasColon, pair, hasBreak⟩, hours, minutes, ?_, ?_, hhours, hpair⟩
      · rw [hrest, hending]
        rfl
      · simpa [IsSign, or_assoc] using hsign
    · cases h
  · cases h

/-! ## Spellings that name a zone -/

theorem twoDigits?_digitChar {n : Nat} (h : n < 100) :
    twoDigits? (Nat.digitChar (n / 10)) (Nat.digitChar (n % 10)) = some n := by
  have htens : n / 10 < 10 := by omega
  have hones : n % 10 < 10 := by omega
  refine twoDigits?_eq_some_iff.mpr
    ⟨_, _, digitValue?_digitChar htens, digitValue?_digitChar hones, ?_⟩
  omega

/-- Two plain digits are those of the number that they are read as. -/
theorem pair_eq_twoDigits {a b : Char} {n : Nat} (ha : a.isDigit = true) (hb : b.isDigit = true)
    (h : twoDigits? a b = some n) : [a, b] = Moment.twoDigits n := by
  obtain ⟨x, hx, rfl⟩ := Text.exists_digitChar ha
  obtain ⟨y, hy, rfl⟩ := Text.exists_digitChar hb
  obtain ⟨x', y', hx', hy', rfl⟩ := twoDigits?_eq_some_iff.mp h
  rw [digitValue?_digitChar hx] at hx'
  rw [digitValue?_digitChar hy] at hy'
  obtain rfl := Option.some.inj hx'
  obtain rfl := Option.some.inj hy'
  have htens : (10 * x + y) / 10 = x := by omega
  have hones : (10 * x + y) % 10 = y := by omega
  rw [twoDigits_eq (by omega), htens, hones]

section

variable {minutes : Nat} {t : Text}

theorem WritesMinutes.minutes?_afterColon (h : WritesMinutes minutes t) (hm : minutes < 100) :
    minutes? (afterColon t) = some minutes := by
  have hdigits : minutes? (Moment.twoDigits minutes) = some minutes := by
    rw [twoDigits_eq hm, minutes?]
    exact twoDigits?_digitChar hm
  have hcolon : (Moment.twoDigits minutes).head? ≠ some ':' := by
    rw [twoDigits_eq hm]
    have htens : (Nat.digitChar (minutes / 10)).isDigit = true := by
      rw [Nat.isDigit_digitChar]
      exact decide_eq_true (by omega)
    intro hhead
    rw [Option.some.inj hhead] at htens
    cases htens
  cases h with
  | omitted => rfl
  | plain => rwa [afterColon_of_head hcolon]
  | colon => exact hdigits

theorem WritesMinutes.ne_colon (h : WritesMinutes minutes t) (hm : minutes < 100) : t ≠ [':'] := by
  cases h <;> simp [twoDigits_eq hm]

/-- Minutes are written with digits and the colon. -/
theorem WritesMinutes.chars (h : WritesMinutes minutes t) :
    ∀ c ∈ t, c = ':' ∨ c.isDigit = true := by
  have hdigits : ∀ c ∈ Moment.twoDigits minutes, c.isDigit = true :=
    (isDigits_padZeros 2 minutes).2
  cases h with
  | omitted => exact nofun
  | plain => exact fun c hc => .inr (hdigits c hc)
  | colon =>
    intro c hc
    rcases List.mem_cons.mp hc with rfl | hc
    · exact .inl rfl
    · exact .inr (hdigits c hc)

end

section

variable {p : Spelling} {hours minutes : Nat} {s : Text} {z : Zone}

/-- A spelling without a flaw names its offset. -/
theorem Spelling.Gives.names (h : p.Gives hours minutes) (hflaw : ¬p.Flawed hours minutes) :
    Names p.text (.fixed (signedSeconds p.sign hours minutes)) := by
  have hdigits : ∀ c ∈ p.digits, c.isDigit = true := by
    intro c hc
    by_contra hforeign
    exact hflaw (.foreignDigit hc (by simpa using hforeign))
  have hbreak : p.hasBreak = false := by
    by_contra hbreak
    exact hflaw (.lineBreak (by simpa using hbreak))
  have hminutes : minutes < 60 := by
    by_contra hlong
    exact hflaw (.longMinutes (by omega))
  have hhours : hours < 24 := by
    by_contra hfar
    exact hflaw (.dayAway (by omega))
  have hpair : [p.hours.1, p.hours.2] = Moment.twoDigits hours :=
    pair_eq_twoDigits (hdigits _ (by simp [digits])) (hdigits _ (by simp [digits])) h.hours
  have hending : WritesMinutes minutes p.rest := by
    have hvalue := h.minutes
    rw [rest, ending, hbreak]
    cases hm : p.minutes with
    | none =>
      rw [hm] at hvalue
      obtain rfl := Option.some.inj hvalue
      cases hcolon : p.hasColon with
      | true => exact absurd (.danglingColon hcolon hm) hflaw
      | false => exact .omitted
    | some pair =>
      rw [hm] at hvalue
      have htext : pairText (some pair) = Moment.twoDigits minutes :=
        pair_eq_twoDigits (hdigits _ (by simp [digits, hm, pairText]))
          (hdigits _ (by simp [digits, hm, pairText])) hvalue
      rw [htext]
      cases p.hasColon with
      | true => simpa using .colon minutes
      | false => simpa using .plain minutes
  have htext : p.text = p.sign :: Moment.twoDigits hours ++ p.rest := by
    rw [← hpair]
    rfl
  rw [htext]
  exact .offset h.sign hhours hminutes hending

/-- The digits of the minutes are no colons. -/
theorem Spelling.Gives.pair_ne_colon (h : p.Gives hours minutes) :
    ∀ c ∈ pairText p.minutes, c ≠ ':' := by
  have hvalue := h.minutes
  cases hm : p.minutes with
  | none => exact nofun
  | some pair =>
    rw [hm] at hvalue
    obtain ⟨x, y, hx, hy, -⟩ := twoDigits?_eq_some_iff.mp hvalue
    intro c hc
    rcases List.mem_pair.mp hc with rfl | rfl
    · exact (digitValue?_ne hx).1
    · exact (digitValue?_ne hy).1

/-- What names an offset has no flaw, however it is taken apart. -/
theorem Names.not_flawed (hnames : Names s z) (htext : p.text = s) (h : p.Gives hours minutes) :
    ¬p.Flawed hours minutes := by
  have hsign := h.sign
  have hhours := h.hours
  have hrest := h.minutes?_rest
  cases hnames with
  | empty => cases htext
  | utc => exact nomatch (List.cons.inj htext).2
  | host =>
    rw [(List.cons.inj htext).1] at hsign
    exact absurd hsign (by unfold IsSign; decide)
  | @offset sign hours' minutes' t hsign' hhours' hminutes' ht =>
    rw [twoDigits_eq (by omega)] at htext
    obtain ⟨-, htext⟩ := List.cons.inj htext
    obtain ⟨htens, htext⟩ := List.cons.inj htext
    obtain ⟨hones, htext⟩ := List.cons.inj htext
    change p.rest = t at htext
    have hplain : p.hours.1.isDigit = true ∧ p.hours.2.isDigit = true := by
      rw [htens, hones]
      rw [Nat.isDigit_digitChar, Nat.isDigit_digitChar]
      exact ⟨decide_eq_true (by omega), decide_eq_true (by omega)⟩
    rw [htens, hones, twoDigits?_digitChar (by omega)] at hhours
    rw [htext, ht.minutes?_afterColon (by omega)] at hrest
    obtain rfl := Option.some.inj hhours
    obtain rfl := Option.some.inj hrest
    have hchars : ∀ c ∈ p.rest, c = ':' ∨ c.isDigit = true := htext ▸ ht.chars
    have hbreak : p.hasBreak = false := by
      by_contra hbreak
      rw [Bool.not_eq_false] at hbreak
      have hmem : '\n' ∈ p.rest := by simp [Spelling.rest, Spelling.ending, hbreak]
      exact absurd (hchars _ hmem) (by decide)
    intro hflaw
    cases hflaw with
    | danglingColon hcolon hnone =>
      have hlone : [':'] = t := by
        rw [← htext, Spelling.rest, Spelling.ending, hcolon, hnone, hbreak]
        rfl
      exact ht.ne_colon (by omega) hlone.symm
    | longMinutes hlong => omega
    | dayAway hfar => omega
    | lineBreak htrue =>
      rw [hbreak] at htrue
      cases htrue
    | @foreignDigit c hc hforeign =>
      have hdigit : c.isDigit = true := by
        rcases List.mem_cons.mp hc with rfl | hc
        · exact hplain.1
        rcases List.mem_cons.mp hc with rfl | hc
        · exact hplain.2
        have hmem : c ∈ p.rest := by simp [Spelling.rest, Spelling.ending, hc]
        exact (hchars c hmem).resolve_left (h.pair_ne_colon c hc)
      rw [hdigit] at hforeign
      cases hforeign

/-! ## What is read -/

theorem signedSeconds_near {sign : Char} :
    (-86400 < signedSeconds sign hours minutes ∧ signedSeconds sign hours minutes < 86400) ↔
      3600 * hours + 60 * minutes < 86400 := by
  unfold signedSeconds
  split <;> omega

/-- A text that begins with a sign names neither UTC nor the host's zone. -/
theorem read_of_sign {sign : Char} {t : Text} {n : Int} (hsign : IsSign sign)
    (h : offset? (sign :: t) = some n) :
    read (sign :: t) =
      if -86400 < n ∧ n < 86400 then .ok (.fixed n) else .error .offsetTooLarge := by
  have hplain : (sign :: t = [] || sign :: t = ['Z']) = false := by
    rcases hsign with rfl | rfl | rfl <;> simp
  have hhost : sign :: t ≠ "local".toList := by
    rcases hsign with rfl | rfl | rfl <;> simp
  simp only [read, hplain, hhost, h, if_false, Bool.false_eq_true]

theorem Spelling.Gives.read_text (h : p.Gives hours minutes) :
    read p.text = if 3600 * hours + 60 * minutes < 86400 then
      .ok (.fixed (signedSeconds p.sign hours minutes)) else .error .offsetTooLarge := by
  rw [text, read_of_sign h.sign h.offset?_text]
  simp only [signedSeconds_near]

/-- What is spelt in no way at all is refused as no zone. -/
theorem read_unspelt (hnames : ¬∃ z, Names s z) (h : offset? s = none) :
    read s = .error (.unknownZone s.display) := by
  have hempty : s ≠ [] := by
    rintro rfl
    exact hnames ⟨_, .empty⟩
  have hutc : s ≠ ['Z'] := by
    rintro rfl
    exact hnames ⟨_, .utc⟩
  have hhost : s ≠ "local".toList := by
    rintro rfl
    exact hnames ⟨_, .host⟩
  simp only [read, hempty, hutc, hhost, h, decide_false, Bool.or_false, Bool.false_eq_true,
    if_false]

theorem Names.read_eq (h : Names s z) : read s = .ok z := by
  cases h with
  | empty => rfl
  | utc => rfl
  | host => rfl
  | @offset sign hours minutes t hsign hhours hminutes ht =>
    have hseconds : offset? (sign :: Moment.twoDigits hours ++ t) =
        some (signedSeconds sign hours minutes) := by
      rw [twoDigits_eq (by omega)]
      exact offset?_parts hsign (twoDigits?_digitChar (by omega))
        (ht.minutes?_afterColon (by omega))
    have hnear : 3600 * hours + 60 * minutes < 86400 := by omega
    exact (read_of_sign hsign hseconds).trans (if_pos (signedSeconds_near.mpr hnear))

end

/-- A text that names a zone is read as that zone. Of the other texts those are refused with a data
format error that are no spelling of an offset. A spelling names its offset exactly if it has none
of the flaws; with or without one it is read as its offset, or refused as a value if that is a day
or more. -/
theorem ofValue_text_outcome (s : Text) :
    (∀ z, Names s z → ofValue (.text s) = .ok z) ∧
    ((¬∃ z, Names s z) → ((∃ f, ofValue (.text s) = .error f ∧ f.kind = .dataFormat) ↔
      ¬∃ (p : Spelling) (hours minutes : Nat), p.text = s ∧ p.Gives hours minutes)) ∧
    (∀ (p : Spelling) (hours minutes : Nat), p.text = s → p.Gives hours minutes →
      ((∃ z, Names s z) ↔ ¬p.Flawed hours minutes) ∧
      ofValue (.text s) = if 3600 * hours + 60 * minutes < 86400 then
        .ok (.fixed (signedSeconds p.sign hours minutes)) else .error .offsetTooLarge) := by
  refine ⟨fun z hz => hz.read_eq, fun hnames => ⟨?_, fun hunspelt => ?_⟩, ?_⟩
  · rintro ⟨f, hf, hkind⟩ ⟨p, hours, minutes, rfl, hgives⟩
    have hread : read p.text = .error f := hf
    rw [hgives.read_text] at hread
    split at hread
    · cases hread
    · obtain rfl := Except.error.inj hread
      cases hkind
  · have hnone : offset? s = none := by
      cases h : offset? s with
      | none => rfl
      | some n => exact absurd (exists_spelling h) hunspelt
    exact ⟨_, read_unspelt hnames hnone, rfl⟩
  · rintro p hours minutes rfl hgives
    refine ⟨⟨?_, fun hflaw => ⟨_, hgives.names hflaw⟩⟩, hgives.read_text⟩
    rintro ⟨z, hz⟩
    exact hz.not_flawed rfl hgives

/-- Half past five west of UTC, and a whole day to the east of it. -/
theorem ofValue_text_outcome_west :
    ofValue (.text "-0530".toList) = .ok (.fixed (-19800)) ∧
      ofValue (.text "+24:00".toList) = .error .offsetTooLarge ∧
      ¬∃ z, Names "+24:00".toList z := by
  have hnames : Names "-0530".toList (.fixed (-19800)) :=
    @Names.offset '-' 5 30 _ (Or.inr (Or.inl rfl)) (by decide) (by decide) (.plain 30)
  have hday : Spelling.Gives ⟨'+', ('2', '4'), true, some ('0', '0'), false⟩ 24 0 :=
    ⟨Or.inl rfl, by decide, by decide⟩
  obtain ⟨hnamed, hread⟩ := (ofValue_text_outcome "+24:00".toList).2.2 _ 24 0 rfl hday
  refine ⟨(ofValue_text_outcome _).1 _ hnames, hread, fun h => ?_⟩
  exact hnamed.mp h (.dayAway (by decide))

/-- An hour and 99 minutes name no zone, but they are read as one. -/
theorem ofValue_long_minutes : ofValue (.text "+01:99".toList) = .ok (.fixed 9540) ∧
    ¬∃ z, Names "+01:99".toList z := by
  have hlong : Spelling.Gives ⟨'+', ('0', '1'), true, some ('9', '9'), false⟩ 1 99 :=
    ⟨Or.inl rfl, by decide, by decide⟩
  refine ⟨by decide, ?_⟩
  rintro ⟨z, hz⟩
  exact hz.not_flawed rfl hlong (.longMinutes (by decide))

end SqlGateway.Zone
