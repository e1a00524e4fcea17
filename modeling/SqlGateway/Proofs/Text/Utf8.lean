import SqlGateway.Text.Utf8

/-!
# The bytes of a character

The bytes that a character is encoded as are read as that character and nothing else, and the
reader stands between characters again (`Utf8.run_utf8EncodeChar`). It has four lengths to tell
apart, and among the first bytes of three and of four those that narrow the choice of the next byte.
-/

namespace SqlGateway.Text.Utf8

/-- The characters that bytes complete, and the state after them. -/
def run (state : State) : List UInt8 → Text × State
  | [] => ([], state)
  | b :: bytes =>
    let (text, next) := step state b.toNat
    let (more, last) := run next bytes
    (text ++ more, last)

theorem run_nil (state : State) : run state [] = ([], state) := rfl

theorem run_cons {state next : State} {text : Text} {b : Nat} (hb : b < 256)
    (h : step state b = (text, next)) (bytes : List UInt8) :
    run state (UInt8.ofNat b :: bytes) = (text ++ (run next bytes).1, (run next bytes).2) := by
  rw [run, UInt8.toNat_ofNat_of_lt' hb, h]

/-! ## Single bytes -/

/-- A byte that fits, when more are needed. -/
theorem step_more {tails low high bits b : Nat} (hlow : low ≤ b) (hhigh : b ≤ high) :
    step (.inside (tails + 2) low high bits) b =
      ([], .inside (tails + 1) 0x80 0xBF (bits * 64 + b % 64)) := by
  rw [step, if_pos ⟨hlow, hhigh⟩, if_neg (by omega)]
  rfl

/-- A byte that fits and is the last. -/
theorem step_last {low high bits b : Nat} (hlow : low ≤ b) (hhigh : b ≤ high) :
    step (.inside 1 low high bits) b = ([Char.ofNat (bits * 64 + b % 64)], .start) := by
  rw [step, if_pos ⟨hlow, hhigh⟩, if_pos (Nat.le_refl 1)]

/-- The first of two bytes. -/
theorem begin_two {n : Nat} (hlow : 2 ≤ n) (hhigh : n < 32) :
    begin (n + 0xC0) = ([], .inside 1 0x80 0xBF n) := by
  rw [begin, if_neg (by omega), if_neg (by omega), if_pos (by omega), Nat.add_sub_cancel]

/-- The first of three bytes; the next is one of those that lead neither to a shorter character nor
to one of the code points without a character. -/
theorem begin_three {n : Nat} (hn : n < 16) :
    ∃ low high, begin (n + 0xE0) = ([], .inside 2 low high n) ∧
      ∀ m < 64, (n = 0 → 32 ≤ m) → (n = 13 → m < 32) → low ≤ m + 0x80 ∧ m + 0x80 ≤ high := by
  rw [begin, if_neg (by omega), if_neg (by omega), if_neg (by omega)]
  by_cases hzero : n = 0
  · subst hzero
    exact ⟨_, _, rfl, fun m hm hmore _ => ⟨by have := hmore rfl; omega, by omega⟩⟩
  by_cases hlate : n = 13
  · subst hlate
    exact ⟨_, _, rfl, fun m hm _ hless => ⟨by omega, by have := hless rfl; omega⟩⟩
  refine ⟨0x80, 0xBF, ?_, fun m hm _ _ => ⟨by omega, by omega⟩⟩
  rw [if_neg (by omega), if_neg (by omega), if_pos (by omega), Nat.add_sub_cancel]

/-- The first of four bytes; the next is one of those that lead neither to a shorter character nor
beyond the last one. -/
theorem begin_four {n : Nat} (hn : n ≤ 4) :
    ∃ low high, begin (n + 0xF0) = ([], .inside 3 low high n) ∧
      ∀ m < 64, (n = 0 → 16 ≤ m) → (n = 4 → m < 16) → low ≤ m + 0x80 ∧ m + 0x80 ≤ high := by
  rw [begin, if_neg (by omega), if_neg (by omega), if_neg (by omega), if_neg (by omega),
    if_neg (by omega), if_neg (by omega)]
  by_cases hzero : n = 0
  · subst hzero
    exact ⟨_, _, rfl, fun m hm hmore _ => ⟨by have := hmore rfl; omega, by omega⟩⟩
  by_cases hlate : n = 4
  · subst hlate
    exact ⟨_, _, rfl, fun m hm _ hless => ⟨by omega, by have := hless rfl; omega⟩⟩
  refine ⟨0x80, 0xBF, ?_, fun m hm _ _ => ⟨by omega, by omega⟩⟩
  rw [if_neg (by omega), if_pos (by omega), Nat.add_sub_cancel]

/-! ## The bytes after the first -/

theorem run_last {low high : Nat} (n : Nat) (hlow : low ≤ n % 64 + 0x80)
    (hhigh : n % 64 + 0x80 ≤ high) :
    run (.inside 1 low high (n / 64)) [UInt8.ofNat (n % 64 + 0x80)] = ([Char.ofNat n], .start) := by
  have hstep : step (.inside 1 low high (n / 64)) (n % 64 + 0x80) = ([Char.ofNat n], .start) := by
    have hbits : n / 64 * 64 + (n % 64 + 0x80) % 64 = n := by omega
    rw [step_last hlow hhigh, hbits]
  rw [run_cons (by omega) hstep, run_nil]
  rfl

theorem run_lastTwo {low high : Nat} (n : Nat) (hlow : low ≤ n / 64 % 64 + 0x80)
    (hhigh : n / 64 % 64 + 0x80 ≤ high) :
    run (.inside 2 low high (n / 4096))
        [UInt8.ofNat (n / 64 % 64 + 0x80), UInt8.ofNat (n % 64 + 0x80)] =
      ([Char.ofNat n], .start) := by
  have hstep : step (.inside 2 low high (n / 4096)) (n / 64 % 64 + 0x80) =
      ([], .inside 1 0x80 0xBF (n / 64)) := by
    have hbits : n / 4096 * 64 + (n / 64 % 64 + 0x80) % 64 = n / 64 := by omega
    rw [step_more hlow hhigh, hbits]
  rw [run_cons (by omega) hstep, run_last n (by omega) (by omega)]
  rfl

theorem run_lastThree {low high : Nat} (n : Nat) (hlow : low ≤ n / 4096 % 64 + 0x80)
    (hhigh : n / 4096 % 64 + 0x80 ≤ high) :
    run (.inside 3 low high (n / 262144))
        [UInt8.ofNat (n / 4096 % 64 + 0x80), UInt8.ofNat (n / 64 % 64 + 0x80),
          UInt8.ofNat (n % 64 + 0x80)] = ([Char.ofNat n], .start) := by
  have hstep : step (.inside 3 low high (n / 262144)) (n / 4096 % 64 + 0x80) =
      ([], .inside 2 0x80 0xBF (n / 4096)) := by
    have hbits : n / 262144 * 64 + (n / 4096 % 64 + 0x80) % 64 = n / 4096 := by omega
    rw [step_more hlow hhigh, hbits]
  rw [run_cons (by omega) hstep, run_lastTwo n (by omega) (by omega)]
  rfl

/-! ## All bytes -/

/-- The bytes of a character are read as the character. -/
theorem run_utf8EncodeChar (c : Char) : run .start (String.utf8EncodeChar c) = ([c], .start) := by
  -- The code point of a character lies in one of the two ranges that have characters.
  have hvalid : c.toNat < 0xD800 ∨ (0xDFFF < c.toNat ∧ c.toNat < 0x110000) := c.valid
  have hchar : Char.ofNat c.toNat = c := Char.ofNat_toNat c
  rw [String.utf8EncodeChar, Char.toNat_val]
  generalize c.toNat = n at hvalid hchar
  subst hchar
  split
  · next hone =>
    have hfirst : step .start n = ([Char.ofNat n], .start) := by
      rw [step, begin, if_pos (by omega)]
    rw [run_cons (by omega) hfirst, run_nil]
    rfl
  split
  · next htwo =>
    have hbits : n / 64 % 32 = n / 64 := Nat.mod_eq_of_lt (by omega)
    have hfirst : step .start (n / 64 % 32 + 0xC0) = ([], .inside 1 0x80 0xBF (n / 64)) := by
      rw [hbits, step, begin_two (by omega) (by omega)]
    rw [run_cons (by omega) hfirst, run_last n (by omega) (by omega)]
    rfl
  split
  · next hthree =>
    have hbits : n / 4096 % 16 = n / 4096 := Nat.mod_eq_of_lt (by omega)
    obtain ⟨low, high, hbegin, hfits⟩ := begin_three (n := n / 4096) (by omega)
    obtain ⟨hlow, hhigh⟩ := hfits (n / 64 % 64) (by omega) (by omega) (by omega)
    have hfirst : step .start (n / 4096 % 16 + 0xE0) = ([], .inside 2 low high (n / 4096)) := by
      rw [hbits, step, hbegin]
    rw [run_cons (by omega) hfirst, run_lastTwo n hlow hhigh]
    rfl
  · next hfour =>
    have hbits : n / 262144 % 8 = n / 262144 := Nat.mod_eq_of_lt (by omega)
    obtain ⟨low, high, hbegin, hfits⟩ := begin_four (n := n / 262144) (by omega)
    obtain ⟨hlow, hhigh⟩ := hfits (n / 4096 % 64) (by omega) (by omega) (by omega)
    have hfirst : step .start (n / 262144 % 8 + 0xF0) =
        ([], .inside 3 low high (n / 262144)) := by
      rw [hbits, step, hbegin]
    rw [run_cons (by omega) hfirst, run_lastThree n hlow hhigh]
    rfl

end SqlGateway.Text.Utf8
