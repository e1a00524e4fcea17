import Mathlib.Data.Char
import Mathlib.Data.List.Lex
import SqlGateway.Calendar.Moment
import SqlGateway.Proofs.Calendar.Ordinal
import SqlGateway.Proofs.List
import SqlGateway.Proofs.Number.Token

/-!
# The text of a reading

The text of a reading is made of numerals of a fixed width with marks between them. It can be read
back, down to the millisecond (`Moment.read?_text`), and the texts of two readings come in the order
of the readings (`Moment.text_lt_iff`): the characters are compared from left to right, and so are
the fields, from the year down to the millisecond.
-/

namespace SqlGateway

/-! ## Numerals of a fixed width -/

namespace Text

theorem length_padZeros {width n : Nat} (hwidth : 0 < width) (h : n < 10 ^ width) :
    (padZeros width (ofNat n)).length = width := by
  have hle : (ofNat n).length ≤ width := (Nat.length_toDigits_le_iff (by decide) hwidth).mpr h
  rw [padZeros, List.length_leftpad, Nat.max_eq_left hle]

theorem ofDigitChars_padZeros (width n : Nat) :
    Nat.ofDigitChars 10 (padZeros width (ofNat n)) 0 = n := by
  rw [padZeros, List.leftpad, Nat.ofDigitChars_append, Nat.ofDigitChars_replicate_zero,
    Nat.mul_zero]
  exact Nat.ofDigitChars_ten_toDigits

section

variable {s t u v : Text}

theorem ofDigitChars_lt (h : ∀ c ∈ s, c.isDigit = true) :
    Nat.ofDigitChars 10 s 0 < 10 ^ s.length := by
  induction s with
  | nil => exact Nat.one_pos
  | cons c s ih =>
    obtain ⟨hc, hs⟩ := List.forall_mem_cons.mp h
    have hzero : '0'.toNat = 48 := rfl
    have hdigit : c.toNat - '0'.toNat ≤ 9 := by
      have hbounds : 48 ≤ c.toNat ∧ c.toNat ≤ 57 := Char.isDigit_iff_toNat.mp hc
      omega
    rw [Nat.ofDigitChars_cons, Nat.ofDigitChars_eq_ofDigitChars_zero, Nat.mul_zero, Nat.zero_add,
      List.length_cons, Nat.pow_succ]
    calc 10 ^ s.length * (c.toNat - '0'.toNat) + Nat.ofDigitChars 10 s 0
        < 10 ^ s.length * (c.toNat - '0'.toNat) + 10 ^ s.length := Nat.add_lt_add_left (ih hs) _
      _ = 10 ^ s.length * (c.toNat - '0'.toNat + 1) := (Nat.mul_succ _ _).symm
      _ ≤ 10 ^ s.length * 10 := Nat.mul_le_mul_left _ (Nat.succ_le_succ hdigit)

/-- Of two numerals of the same width the one of the smaller number comes first. -/
theorem lt_of_ofDigitChars_lt (hs : ∀ c ∈ s, c.isDigit = true) (ht : ∀ c ∈ t, c.isDigit = true)
    (hlength : s.length = t.length)
    (h : Nat.ofDigitChars 10 s 0 < Nat.ofDigitChars 10 t 0) : s < t := by
  induction s generalizing t with
  | nil =>
    obtain rfl := List.length_eq_zero_iff.mp hlength.symm
    exact absurd h (Nat.lt_irrefl _)
  | cons c s ih =>
    cases t with
    | nil => exact absurd hlength (Nat.succ_ne_zero _)
    | cons d t =>
      obtain ⟨hc, hs⟩ := List.forall_mem_cons.mp hs
      obtain ⟨hd, ht⟩ := List.forall_mem_cons.mp ht
      have hlength' : s.length = t.length := Nat.succ.inj hlength
      rw [List.cons_lt_cons_iff]
      rw [Nat.ofDigitChars_cons, Nat.ofDigitChars_cons, Nat.ofDigitChars_eq_ofDigitChars_zero,
        Nat.ofDigitChars_eq_ofDigitChars_zero (l := t), Nat.mul_zero, Nat.zero_add, Nat.zero_add,
        hlength'] at h
      have hzero : '0'.toNat = 48 := rfl
      have hc : 48 ≤ c.toNat ∧ c.toNat ≤ 57 := Char.isDigit_iff_toNat.mp hc
      have hd : 48 ≤ d.toNat ∧ d.toNat ≤ 57 := Char.isDigit_iff_toNat.mp hd
      rcases Nat.lt_trichotomy c.toNat d.toNat with hlt | heq | hgt
      · exact .inl (UInt32.lt_iff_toNat_lt.mpr hlt)
      · rw [heq] at h
        exact .inr ⟨Char.toNat_inj.mp heq, ih hs ht hlength' (by omega)⟩
      · -- A greater first digit outweighs all the digits after it.
        have hstep : d.toNat - '0'.toNat + 1 ≤ c.toNat - '0'.toNat := by omega
        have hover := Nat.mul_le_mul_left (10 ^ t.length) hstep
        have hrest := ofDigitChars_lt ht
        rw [Nat.mul_succ] at hover
        omega

variable {width m n : Nat}

theorem padZeros_lt_of_lt (hwidth : 0 < width) (hn : n < 10 ^ width) (h : m < n) :
    padZeros width (ofNat m) < padZeros width (ofNat n) := by
  refine lt_of_ofDigitChars_lt (isDigits_padZeros width m).2 (isDigits_padZeros width n).2 ?_ ?_
  · rw [length_padZeros hwidth (h.trans hn), length_padZeros hwidth hn]
  · rwa [ofDigitChars_padZeros, ofDigitChars_padZeros]

/-- Texts that begin with numerals of the same width come in the order of the numbers, and after the
same number in the order of what follows. -/
theorem padZeros_append_lt_iff (hwidth : 0 < width) (hm : m < 10 ^ width) (hn : n < 10 ^ width) :
    padZeros width (ofNat m) ++ u < padZeros width (ofNat n) ++ v ↔ m < n ∨ m = n ∧ u < v := by
  have hlength : (padZeros width (ofNat m)).length = (padZeros width (ofNat n)).length := by
    rw [length_padZeros hwidth hm, length_padZeros hwidth hn]
  rw [append_lt_append_iff hlength]
  constructor
  · rintro (hlt | ⟨heq, hrest⟩)
    · rcases Nat.lt_trichotomy m n with h | rfl | h
      · exact .inl h
      · exact absurd hlt (List.lt_irrefl _)
      · exact absurd hlt (List.lt_asymm (padZeros_lt_of_lt hwidth hm h))
    · have hnumbers := congrArg (Nat.ofDigitChars 10 · 0) heq
      simp only [ofDigitChars_padZeros] at hnumbers
      exact .inr ⟨hnumbers, hrest⟩
  · rintro (h | ⟨rfl, hrest⟩)
    · exact .inl (padZeros_lt_of_lt hwidth hn h)
    · exact .inr ⟨rfl, hrest⟩

end

end Text

namespace Moment

/-! ## Readings are read back -/

/-- The number in the first `width` characters, which have to be digits, and what follows them. -/
def takeNumber? (width : Nat) (s : Text) : Option (Nat × Text) :=
  if (s.take width).length = width ∧ (s.take width).all Char.isDigit = true then
    some (Nat.ofDigitChars 10 (s.take width) 0, s.drop width)
  else none

/-- The number in the first `width` characters, and what follows the mark after it. -/
def takeField? (width : Nat) (mark : Char) (s : Text) : Option (Nat × Text) :=
  match takeNumber? width s with
  | some (n, c :: rest) => if c = mark then some (n, rest) else none
  | _ => none

/-- The reading that a text of the form `YYYY-MM-DD HH:MM:SS.mmm` shows; a text of any other form
shows none. -/
def read? (s : Text) : Option Moment := do
  let (year, s) ← takeField? 4 '-' s
  let (month, s) ← takeField? 2 '-' s
  let (day, s) ← takeField? 2 ' ' s
  let (hour, s) ← takeField? 2 ':' s
  let (minute, s) ← takeField? 2 ':' s
  let (second, s) ← takeField? 2 '.' s
  let (millisecond, s) ← takeNumber? 3 s
  if s = [] then some ⟨⟨year, month, day⟩, hour, minute, second, millisecond * 1000, none⟩
  else none

theorem takeNumber?_padZeros {width n : Nat} (hwidth : 0 < width) (h : n < 10 ^ width) (s : Text) :
    takeNumber? width (Text.padZeros width (Text.ofNat n) ++ s) = some (n, s) := by
  have hlength := Text.length_padZeros hwidth h
  rw [takeNumber?, List.take_left' hlength, List.drop_left' hlength,
    if_pos ⟨hlength, List.all_eq_true.mpr (isDigits_padZeros width n).2⟩,
    Text.ofDigitChars_padZeros]

/-- A field is taken off, and what follows its mark is read on. -/
theorem takeField?_bind {α : Type} {width n : Nat} (hwidth : 0 < width) (h : n < 10 ^ width)
    (mark : Char) (s : Text) (next : Nat × Text → Option α) :
    (takeField? width mark (Text.padZeros width (Text.ofNat n) ++ mark :: s) >>= next) =
      next (n, s) := by
  have hfield : takeField? width mark (Text.padZeros width (Text.ofNat n) ++ mark :: s) =
      some (n, s) := by
    rw [takeField?, takeNumber?_padZeros hwidth h]
    exact if_pos rfl
  rw [hfield]
  rfl

/-- The fields of a text one after the other. -/
theorem text_eq (m : Moment) : m.text =
    Text.padZeros 4 (Text.ofNat m.date.year) ++ '-' ::
    (Text.padZeros 2 (Text.ofNat m.date.month) ++ '-' ::
    (Text.padZeros 2 (Text.ofNat m.date.day) ++ ' ' ::
    (Text.padZeros 2 (Text.ofNat m.hour) ++ ':' ::
    (Text.padZeros 2 (Text.ofNat m.minute) ++ ':' ::
    (Text.padZeros 2 (Text.ofNat m.second) ++ '.' ::
    (Text.padZeros 3 (Text.ofNat (m.microsecond / 1000)) ++ [])))))) := by
  simp only [text, Date.text, clockText, twoDigits, List.append_assoc, List.cons_append,
    List.append_nil]

/-- The fields of a reading have room in their widths. -/
theorem Valid.widths {m : Moment} (h : m.Valid) :
    m.date.year < 10 ^ 4 ∧ m.date.month < 10 ^ 2 ∧ m.date.day < 10 ^ 2 ∧ m.hour < 10 ^ 2 ∧
      m.minute < 10 ^ 2 ∧ m.second < 10 ^ 2 ∧ m.microsecond / 1000 < 10 ^ 3 := by
  obtain ⟨hdate, hhour, hminute, hsecond, hmicro, -⟩ := h
  have hday := Date.day_le hdate
  obtain ⟨-, hyear, -, hmonth, -, -⟩ := hdate
  omega

/-- What the text of a reading shows: its fields, the microseconds cut to whole milliseconds. -/
def cut (m : Moment) : Moment :=
  { m with microsecond := m.microsecond / 1000 * 1000, offset := none }

theorem Valid.cut {m : Moment} (h : m.Valid) : m.cut.Valid := by
  obtain ⟨hdate, hhour, hminute, hsecond, hmicro, -⟩ := h
  refine ⟨hdate, hhour, hminute, hsecond, ?_, nofun⟩
  show m.microsecond / 1000 * 1000 < 1000000
  omega

theorem read?_text {m : Moment} (h : m.Valid) : read? m.text = some m.cut := by
  obtain ⟨hyear, hmonth, hday, hhour, hminute, hsecond, hmilli⟩ := h.widths
  rw [text_eq, read?]
  refine (takeField?_bind (by decide) hyear _ _ _).trans ?_
  refine (takeField?_bind Nat.two_pos hmonth _ _ _).trans ?_
  refine (takeField?_bind Nat.two_pos hday _ _ _).trans ?_
  refine (takeField?_bind Nat.two_pos hhour _ _ _).trans ?_
  refine (takeField?_bind Nat.two_pos hminute _ _ _).trans ?_
  refine (takeField?_bind Nat.two_pos hsecond _ _ _).trans ?_
  dsimp only
  rw [takeNumber?_padZeros (by decide) hmilli]
  rfl

/-! ## Texts come in the order of the readings -/

/-- The whole milliseconds that the reading lies after the start of day 0. -/
def millis (m : Moment) : Nat := m.wallSeconds * 1000 + m.microsecond / 1000

theorem radix_lt_iff {base high low high' low' : Nat} (h : low < base) (h' : low' < base) :
    high * base + low < high' * base + low' ↔ high < high' ∨ high = high' ∧ low < low' := by
  rcases Nat.lt_trichotomy high high' with hlt | rfl | hgt
  · have hover : (high + 1) * base ≤ high' * base := Nat.mul_le_mul_right _ hlt
    rw [Nat.succ_mul] at hover
    omega
  · omega
  · have hover : (high' + 1) * base ≤ high * base := Nat.mul_le_mul_right _ hgt
    rw [Nat.succ_mul] at hover
    omega

section

variable {m n : Moment}

theorem millis_lt_iff (hm : m.Valid) (hn : n.Valid) : m.millis < n.millis ↔
    m.date.ordinal < n.date.ordinal ∨ m.date.ordinal = n.date.ordinal ∧
      (m.hour < n.hour ∨ m.hour = n.hour ∧
        (m.minute < n.minute ∨ m.minute = n.minute ∧
          (m.second < n.second ∨ m.second = n.second ∧
            m.microsecond / 1000 < n.microsecond / 1000))) := by
  obtain ⟨-, hhour, hminute, hsecond, hmicro, -⟩ := hm
  obtain ⟨-, hhour', hminute', hsecond', hmicro', -⟩ := hn
  rw [millis, millis, radix_lt_iff (Nat.div_lt_of_lt_mul hmicro) (Nat.div_lt_of_lt_mul hmicro'),
    wallSeconds, wallSeconds, radix_lt_iff hsecond hsecond', radix_lt_iff hminute hminute',
    radix_lt_iff hhour hhour']
  omega

theorem text_lt_iff (hm : m.Valid) (hn : n.Valid) : m.text < n.text ↔ m.millis < n.millis := by
  obtain ⟨hyear, hmonth, hday, hhour, hminute, hsecond, hmilli⟩ := hm.widths
  obtain ⟨hyear', hmonth', hday', hhour', hminute', hsecond', hmilli'⟩ := hn.widths
  rw [millis_lt_iff hm hn, Date.ordinal_lt_iff hm.1 hn.1, Date.ordinal_eq_iff hm.1 hn.1,
    Date.before_or_eq_and, text_eq, text_eq,
    Text.padZeros_append_lt_iff (by decide) hyear hyear', List.cons_lt_cons_self,
    Text.padZeros_append_lt_iff Nat.two_pos hmonth hmonth', List.cons_lt_cons_self,
    Text.padZeros_append_lt_iff Nat.two_pos hday hday', List.cons_lt_cons_self,
    Text.padZeros_append_lt_iff Nat.two_pos hhour hhour', List.cons_lt_cons_self,
    Text.padZeros_append_lt_iff Nat.two_pos hminute hminute', List.cons_lt_cons_self,
    Text.padZeros_append_lt_iff Nat.two_pos hsecond hsecond', List.cons_lt_cons_self,
    Text.padZeros_append_lt_iff (by decide) hmilli hmilli']
  simp only [List.lt_irrefl, and_false, or_false]

theorem text_eq_iff (hm : m.Valid) (hn : n.Valid) : m.text = n.text ↔ m.millis = n.millis := by
  have hlt := text_lt_iff hm hn
  have hgt := text_lt_iff hn hm
  constructor
  · intro h
    rw [h] at hlt hgt
    exact Nat.le_antisymm (Nat.not_lt.mp fun h => List.lt_irrefl _ (hgt.mpr h))
      (Nat.not_lt.mp fun h => List.lt_irrefl _ (hlt.mpr h))
  · intro h
    rw [h] at hlt hgt
    rcases lt_trichotomy m.text n.text with htext | htext | htext
    · exact absurd (hlt.mp htext) (Nat.lt_irrefl _)
    · exact htext
    · exact absurd (hgt.mp htext) (Nat.lt_irrefl _)

end

end Moment

end SqlGateway
