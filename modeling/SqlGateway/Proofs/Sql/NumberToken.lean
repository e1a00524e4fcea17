import Mathlib.Tactic.ByContra
import SqlGateway.Number.Decimal
import SqlGateway.Number.Shortest

/-!
# Number tokens

A number in an expression is a minus sign if it is negative, digits, and if wanted a point with
digits after it and an `e` or `E` with a signed power of ten. `NumberToken.scan?` takes the longest
such token from the front of a text, and `IsToken` describes the tokens by their parts. A token is
scanned whole before a text that cannot be taken for more of it (`scan?_token`), and what is scanned
with nothing of that kind behind it is scanned again in front of it (`scan?_append`).
-/

namespace SqlGateway.Sql.NumberToken

/-! ## The scanner -/

/-- A minus sign if there is one, and the rest. -/
def takeMinus : Text → Text × Text
  | '-' :: rest => (['-'], rest)
  | s => ([], s)

/-- A sign if there is one, and the rest. -/
def takeSign : Text → Text × Text
  | '+' :: rest => (['+'], rest)
  | '-' :: rest => (['-'], rest)
  | s => ([], s)

/-- The digits at the front of a text, and the rest. -/
def takeDigits (s : Text) : Text × Text := (s.takeWhile Char.isDigit, s.dropWhile Char.isDigit)

/-- A point with the digits after it, and the rest. A point without digits is left. -/
def takeFraction : Text → Text × Text
  | '.' :: rest =>
    match takeDigits rest with
    | ([], _) => ([], '.' :: rest)
    | (digits, rest) => ('.' :: digits, rest)
  | s => ([], s)

/-- A power of ten, and the rest. One without digits is left. -/
def takePower : Text → Text × Text
  | c :: rest =>
    if c = 'e' ∨ c = 'E' then
      match takeDigits (takeSign rest).2 with
      | ([], _) => ([], c :: rest)
      | (digits, after) => (c :: (takeSign rest).1 ++ digits, after)
    else ([], c :: rest)
  | [] => ([], [])

/-- The longest number token at the front of a text, and the rest. -/
def scan? (s : Text) : Option (Text × Text) :=
  let minus := takeMinus s
  let whole := takeDigits minus.2
  let fraction := takeFraction whole.2
  let power := takePower fraction.2
  if whole.1.isEmpty then none
  else some (minus.1 ++ whole.1 ++ fraction.1 ++ power.1, power.2)

/-! ## Tokens by their parts -/

/-- At least one digit and nothing else. -/
def IsDigits (s : Text) : Prop := s ≠ [] ∧ ∀ c ∈ s, c.isDigit = true

/-- Nothing, or a point and digits. -/
def IsFraction (s : Text) : Prop := s = [] ∨ ∃ digits, s = '.' :: digits ∧ IsDigits digits

/-- Nothing, or an `e` in either case, a sign if wanted, and digits. -/
def IsPower (s : Text) : Prop :=
  s = [] ∨ ∃ c sign digits, s = c :: sign ++ digits ∧ (c = 'e' ∨ c = 'E') ∧
    (sign = [] ∨ sign = ['+'] ∨ sign = ['-']) ∧ IsDigits digits

/-- A number token. -/
def IsToken (s : Text) : Prop :=
  ∃ minus whole fraction power, s = minus ++ whole ++ fraction ++ power ∧
    (minus = [] ∨ minus = ['-']) ∧ IsDigits whole ∧ IsFraction fraction ∧ IsPower power

/-- The characters of tokens are digits, signs, the point and the letters of a power. -/
theorem IsToken.chars {s : Text} (h : IsToken s) :
    ∀ c ∈ s, c.isDigit = true ∨ c ∈ ['-', '+', '.', 'e', 'E'] := by
  obtain ⟨minus, whole, fraction, power, rfl, hminus, hwhole, hfraction, hpower⟩ := h
  intro c hc
  simp only [List.mem_append] at hc
  rcases hc with ((hc | hc) | hc) | hc
  · rcases hminus with rfl | rfl
    · cases hc
    · exact Or.inr (List.mem_cons.mpr (Or.inl (List.mem_singleton.mp hc)))
  · exact Or.inl (hwhole.2 c hc)
  · rcases hfraction with rfl | ⟨digits, rfl, hd⟩
    · cases hc
    · rcases List.mem_cons.mp hc with rfl | hc
      · exact Or.inr (by decide)
      · exact Or.inl (hd.2 c hc)
  · rcases hpower with rfl | ⟨e, sign, digits, rfl, he, hsign, hd⟩
    · cases hc
    · rcases List.mem_append.mp hc with hc | hc
      · right
        rcases List.mem_cons.mp hc with rfl | hc
        · rcases he with rfl | rfl <;> decide
        · rcases hsign with rfl | rfl | rfl
          · cases hc
          · obtain rfl := List.mem_singleton.mp hc
            decide
          · obtain rfl := List.mem_singleton.mp hc
            decide
      · exact Or.inl (hd.2 c hc)

/-- Text that cannot be taken for more of a number: it begins neither with a digit nor with a
point, a sign or a power of ten. -/
def EndsNumber (t : Text) : Prop :=
  ∀ c ∈ t.head?, c.isDigit = false ∧ c ≠ '.' ∧ c ≠ 'e' ∧ c ≠ 'E' ∧ c ≠ '+' ∧ c ≠ '-'

/-! ## Scanning a token -/

theorem takeDigits_append {s t : Text} (hs : ∀ c ∈ s, c.isDigit = true)
    (ht : ∀ c ∈ t.head?, c.isDigit = false) : takeDigits (s ++ t) = (s, t) := by
  unfold takeDigits
  rw [List.takeWhile_append_of_pos hs, List.dropWhile_append_of_pos hs]
  cases t with
  | nil => simp
  | cons c t =>
    have hc : c.isDigit = false := ht c rfl
    simp [hc]

theorem takeFraction_append {s t : Text} (hs : IsFraction s)
    (ht : ∀ c ∈ t.head?, c.isDigit = false ∧ c ≠ '.') : takeFraction (s ++ t) = (s, t) := by
  rcases hs with rfl | ⟨digits, rfl, hne, hdigits⟩
  · cases t with
    | nil => rfl
    | cons c t =>
      rw [List.nil_append, takeFraction]
      intro rest he
      injection he with hc
      exact (ht c rfl).2 hc
  · cases digits with
    | nil => exact absurd rfl hne
    | cons d digits =>
      have hrest : takeDigits (d :: digits ++ t) = (d :: digits, t) :=
        takeDigits_append hdigits fun c hc => (ht c hc).1
      rw [List.cons_append, takeFraction, hrest]

theorem takeSign_append {sign digits t : Text} (hs : sign = [] ∨ sign = ['+'] ∨ sign = ['-'])
    (hd : IsDigits digits) : takeSign (sign ++ digits ++ t) = (sign, digits ++ t) := by
  rcases hs with rfl | rfl | rfl
  · obtain ⟨hne, hdigits⟩ := hd
    cases digits with
    | nil => exact absurd rfl hne
    | cons d digits =>
      have hdigit := hdigits d (List.mem_cons_self ..)
      rw [List.nil_append, List.cons_append, takeSign]
      · rintro rest he
        injection he with hc
        rw [hc] at hdigit
        exact absurd hdigit (by decide)
      · rintro rest he
        injection he with hc
        rw [hc] at hdigit
        exact absurd hdigit (by decide)
  · rfl
  · rfl

theorem takePower_append {s t : Text} (hs : IsPower s) (ht : EndsNumber t) :
    takePower (s ++ t) = (s, t) := by
  rcases hs with rfl | ⟨c, sign, digits, rfl, hc, hsign, hd⟩
  · cases t with
    | nil => rfl
    | cons c t =>
      obtain ⟨_, _, he, hE, _, _⟩ := ht c rfl
      rw [List.nil_append, takePower, if_neg (by simp [he, hE])]
  · have hrest : takeDigits (digits ++ t) = (digits, t) :=
      takeDigits_append hd.2 fun c hc => (ht c hc).1
    have htail : c :: sign ++ digits ++ t = c :: (sign ++ digits ++ t) := rfl
    rw [htail, takePower, if_pos hc, takeSign_append hsign hd, hrest]
    cases digits with
    | nil => exact absurd rfl hd.1
    | cons d digits => rfl

/-- What begins after the digits of a token: a point, a power of ten, or the end. -/
theorem head_fraction_power {fraction power t : Text} (hf : IsFraction fraction)
    (hp : IsPower power) (ht : EndsNumber t) :
    ∀ c ∈ (fraction ++ (power ++ t)).head?, c.isDigit = false := by
  intro c hc
  rcases hf with rfl | ⟨digits, rfl, -⟩
  · rcases hp with rfl | ⟨d, sign, digits, rfl, hd, -⟩
    · exact (ht c hc).1
    · obtain rfl : d = c := by simpa using hc
      rcases hd with rfl | rfl <;> decide
  · obtain rfl : '.' = c := by simpa using hc
    decide

theorem head_power {power t : Text} (hp : IsPower power) (ht : EndsNumber t) :
    ∀ c ∈ (power ++ t).head?, c.isDigit = false ∧ c ≠ '.' := by
  intro c hc
  rcases hp with rfl | ⟨d, sign, digits, rfl, hd, -⟩
  · exact ⟨(ht c hc).1, (ht c hc).2.1⟩
  · obtain rfl : d = c := by simpa using hc
    rcases hd with rfl | rfl <;> decide

theorem takeMinus_append {minus whole t : Text} (hm : minus = [] ∨ minus = ['-'])
    (hw : IsDigits whole) : takeMinus (minus ++ (whole ++ t)) = (minus, whole ++ t) := by
  rcases hm with rfl | rfl
  · obtain ⟨hne, hdigits⟩ := hw
    cases whole with
    | nil => exact absurd rfl hne
    | cons d whole =>
      have hdigit := hdigits d (List.mem_cons_self ..)
      rw [List.nil_append, List.cons_append, takeMinus]
      rintro rest he
      injection he with hc
      rw [hc] at hdigit
      exact absurd hdigit (by decide)
  · rfl

/-- A token is taken whole, and nothing of what follows. -/
theorem scan?_token {s t : Text} (hs : IsToken s) (ht : EndsNumber t) :
    scan? (s ++ t) = some (s, t) := by
  obtain ⟨minus, whole, fraction, power, rfl, hm, hw, hf, hp⟩ := hs
  have hassoc : minus ++ whole ++ fraction ++ power ++ t =
      minus ++ (whole ++ (fraction ++ (power ++ t))) := by simp
  have hwhole : takeDigits (whole ++ (fraction ++ (power ++ t))) =
      (whole, fraction ++ (power ++ t)) :=
    takeDigits_append hw.2 (head_fraction_power hf hp ht)
  have hne : whole.isEmpty = false := by
    cases whole with
    | nil => exact absurd rfl hw.1
    | cons d whole => rfl
  simp only [scan?, hassoc, takeMinus_append hm hw, hwhole,
    takeFraction_append hf (head_power hp ht), takePower_append hp ht, hne, Bool.false_eq_true,
    if_false]

/-! ## More text behind a token

What a part of the scanner takes does not change when more text comes behind that cannot belong to
a number: the part leaves as much more. -/

theorem takeMinus_cons {c : Char} (hc : c ≠ '-') (s : Text) :
    takeMinus (c :: s) = ([], c :: s) := by
  rw [takeMinus]
  intro rest he
  injection he with he
  exact hc he

theorem takeMinus_more (s : Text) {t : Text} (ht : EndsNumber t) :
    takeMinus (s ++ t) = ((takeMinus s).1, (takeMinus s).2 ++ t) := by
  cases s with
  | nil =>
    cases t with
    | nil => rfl
    | cons c t => exact takeMinus_cons (ht c rfl).2.2.2.2.2 t
  | cons c s =>
    by_cases hc : c = '-'
    · subst hc
      rfl
    · rw [List.cons_append, takeMinus_cons hc, takeMinus_cons hc]
      rfl

theorem takeSign_cons {c : Char} (hp : c ≠ '+') (hm : c ≠ '-') (s : Text) :
    takeSign (c :: s) = ([], c :: s) := by
  rw [takeSign]
  · intro rest he
    injection he with he
    exact hp he
  · intro rest he
    injection he with he
    exact hm he

theorem takeSign_more (s : Text) {t : Text} (ht : EndsNumber t) :
    takeSign (s ++ t) = ((takeSign s).1, (takeSign s).2 ++ t) := by
  cases s with
  | nil =>
    cases t with
    | nil => rfl
    | cons c t => exact takeSign_cons (ht c rfl).2.2.2.2.1 (ht c rfl).2.2.2.2.2 t
  | cons c s =>
    by_cases hp : c = '+'
    · subst hp
      rfl
    · by_cases hm : c = '-'
      · subst hm
        rfl
      · rw [List.cons_append, takeSign_cons hp hm, takeSign_cons hp hm]
        rfl

theorem takeDigits_more (s : Text) {t : Text} (ht : ∀ c ∈ t.head?, c.isDigit = false) :
    takeDigits (s ++ t) = ((takeDigits s).1, (takeDigits s).2 ++ t) := by
  induction s with
  | nil => exact takeDigits_append (by simp) ht
  | cons c s ih =>
    simp only [takeDigits, Prod.mk.injEq] at ih ⊢
    cases hc : c.isDigit with
    | false => simp [hc]
    | true => simpa [hc] using ih

theorem takeFraction_cons {c : Char} (hc : c ≠ '.') (s : Text) :
    takeFraction (c :: s) = ([], c :: s) := by
  rw [takeFraction]
  intro rest he
  injection he with he
  exact hc he

theorem takeFraction_more (s : Text) {t : Text} (ht : EndsNumber t) :
    takeFraction (s ++ t) = ((takeFraction s).1, (takeFraction s).2 ++ t) := by
  cases s with
  | nil =>
    cases t with
    | nil => rfl
    | cons c t => exact takeFraction_cons (ht c rfl).2.1 t
  | cons c s =>
    by_cases hc : c = '.'
    · subst hc
      have hmore := takeDigits_more s fun c hc => (ht c hc).1
      rw [List.cons_append, takeFraction, takeFraction, hmore]
      cases takeDigits s with
      | mk digits rest => cases digits <;> rfl
    · rw [List.cons_append, takeFraction_cons hc, takeFraction_cons hc]
      rfl

theorem takePower_more (s : Text) {t : Text} (ht : EndsNumber t) :
    takePower (s ++ t) = ((takePower s).1, (takePower s).2 ++ t) := by
  cases s with
  | nil => exact takePower_append (Or.inl rfl) ht
  | cons c s =>
    rw [List.cons_append, takePower, takePower]
    split
    · have hmore := takeDigits_more (takeSign s).2 fun c hc => (ht c hc).1
      rw [takeSign_more s ht, hmore]
      cases takeDigits (takeSign s).2 with
      | mk digits rest => cases digits <;> rfl
    · rfl

/-- More text behind a number token changes nothing, unless it could belong to the number. -/
theorem scan?_append {s token rest : Text} (h : scan? s = some (token, rest)) {t : Text}
    (ht : EndsNumber t) : scan? (s ++ t) = some (token, rest ++ t) := by
  have hdigits := takeDigits_more (takeMinus s).2 fun c hc => (ht c hc).1
  simp only [scan?, takeMinus_more s ht, hdigits, takeFraction_more _ ht, takePower_more _ ht]
  simp only [scan?] at h
  split at h
  · cases h
  · next hne =>
    rw [if_neg hne]
    cases h
    rfl

/-! ## What the scanner leaves -/

theorem takeMinus_parts (s : Text) : (takeMinus s).1 ++ (takeMinus s).2 = s := by
  unfold takeMinus
  split <;> rfl

theorem takeSign_parts (s : Text) : (takeSign s).1 ++ (takeSign s).2 = s := by
  unfold takeSign
  split <;> rfl

theorem takeDigits_parts (s : Text) : (takeDigits s).1 ++ (takeDigits s).2 = s :=
  List.takeWhile_append_dropWhile

theorem takeFraction_parts (s : Text) : (takeFraction s).1 ++ (takeFraction s).2 = s := by
  unfold takeFraction
  split
  · next rest =>
    have hparts := takeDigits_parts rest
    split
    · rfl
    · next digits after _ heq =>
      rw [heq] at hparts
      simpa using hparts
  · rfl

theorem takePower_parts (s : Text) : (takePower s).1 ++ (takePower s).2 = s := by
  unfold takePower
  split
  · next c rest =>
    have hparts := takeDigits_parts (takeSign rest).2
    have hsign := takeSign_parts rest
    split
    · split
      · rfl
      · next digits after _ heq =>
        rw [heq] at hparts
        simp only at hparts
        simp [hparts, hsign]
    · rfl
  · rfl

theorem scan?_parts {s token rest : Text} (h : scan? s = some (token, rest)) :
    s = token ++ rest ∧ token ≠ [] := by
  simp only [scan?] at h
  split at h
  · cases h
  · next hne =>
    cases h
    constructor
    · simp only [List.append_assoc, takePower_parts, takeFraction_parts, takeDigits_parts,
        takeMinus_parts]
    · intro hnil
      simp only [List.append_eq_nil_iff] at hnil
      exact hne (by rw [hnil.1.1.2]; rfl)

theorem scan?_length {s token rest : Text} (h : scan? s = some (token, rest)) :
    rest.length < s.length := by
  obtain ⟨rfl, hne⟩ := scan?_parts h
  have := List.length_pos_iff.mpr hne
  simp only [List.length_append]
  omega

/-- A number begins with a digit or a minus sign. -/
theorem scan?_head {c : Char} {s : Text} {x : Text × Text} (h : scan? (c :: s) = some x) :
    c = '-' ∨ c.isDigit = true := by
  by_cases hminus : c = '-'
  · exact Or.inl hminus
  · refine Or.inr ?_
    by_contra hdigit
    have htake : takeMinus (c :: s) = ([], c :: s) := by
      unfold takeMinus
      split
      · next he => exact absurd (List.head_eq_of_cons_eq he) hminus
      · rfl
    simp [scan?, htake, takeDigits, hdigit] at h

end SqlGateway.Sql.NumberToken
