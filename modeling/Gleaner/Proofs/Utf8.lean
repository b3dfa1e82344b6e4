import Gleaner.Text.Utf8
import Mathlib.Data.List.Basic

set_option autoImplicit false

/-! # Text survives its encoding

The bytes that a text is encoded to are well formed and decode to the text: `Utf8.decode?_encode`. The
scanner takes one character a step, so this comes down to `Utf8.step_encodeChar`, which goes by the number
of bytes that a character takes. -/

namespace Gleaner.Utf8

/-! ## Steps -/

section Step

variable {b b₁ b₂ b₃ low high : UInt8} {rest : Bytes}

theorem step_one (hb : b < 0x80) : step b rest = (some (Char.ofNat b.toNat), 0) := by
  rw [step, if_pos hb]

theorem step_two (hb : ¬ b < 0x80) (hlead : lead? b = some (1, low, high)) (h₁ : ¬ b₁ < low ∧ ¬ high < b₁) :
    step b (b₁ :: rest) = (some (Char.ofNat (extend (leadBits b) b₁)), 1) := by
  simp [step, hb, hlead, h₁]

theorem step_three (hb : ¬ b < 0x80) (hlead : lead? b = some (2, low, high)) (h₁ : ¬ b₁ < low ∧ ¬ high < b₁)
    (h₂ : isContinuation b₂ = true) :
    step b (b₁ :: b₂ :: rest) = (some (Char.ofNat (extend (extend (leadBits b) b₁) b₂)), 2) := by
  simp [step, hb, hlead, h₁, h₂]

theorem step_four (hb : ¬ b < 0x80) (hlead : lead? b = some (3, low, high)) (h₁ : ¬ b₁ < low ∧ ¬ high < b₁)
    (h₂ : isContinuation b₂ = true) (h₃ : isContinuation b₃ = true) :
    step b (b₁ :: b₂ :: b₃ :: rest)
      = (some (Char.ofNat (extend (extend (extend (leadBits b) b₁) b₂) b₃)), 3) := by
  simp [step, hb, hlead, h₁, h₂, h₃]

end Step

/-! ## Bytes by their numbers -/

section Bytes

variable {n : Nat}

theorem toNat_ofNat (h : n < 256) : (UInt8.ofNat n).toNat = n := UInt8.toNat_ofNat_of_lt' h

theorem ofNat_lt_ofNat_iff {m : Nat} (hn : n < 256) (hm : m < 256) :
    UInt8.ofNat n < UInt8.ofNat m ↔ n < m := by
  rw [UInt8.lt_iff_toNat_lt, toNat_ofNat hn, toNat_ofNat hm]

/-- What the lead of two bytes asks for and contributes. -/
theorem lead_two : ∀ n < 256, 0xC2 ≤ n ∧ n ≤ 0xDF →
    lead? (.ofNat n) = some (1, .ofNat 0x80, .ofNat 0xBF) ∧ leadBits (.ofNat n) = n - 0xC0 := by
  decide +kernel

/-- What the lead of three bytes asks for; it shuts out overlong forms and surrogates. -/
theorem lead_three : ∀ n < 256, 0xE0 ≤ n ∧ n ≤ 0xEF →
    lead? (.ofNat n) = some (2, .ofNat (if n = 0xE0 then 0xA0 else 0x80),
        .ofNat (if n = 0xED then 0x9F else 0xBF))
      ∧ leadBits (.ofNat n) = n - 0xE0 := by
  decide +kernel

/-- What the lead of four bytes asks for; it shuts out overlong forms and what is no code point. -/
theorem lead_four : ∀ n < 256, 0xF0 ≤ n ∧ n ≤ 0xF4 →
    lead? (.ofNat n) = some (3, .ofNat (if n = 0xF0 then 0x90 else 0x80),
        .ofNat (if n = 0xF4 then 0x8F else 0xBF))
      ∧ leadBits (.ofNat n) = n - 0xF0 := by
  decide +kernel

theorem between (low high : Nat) (hlow : low ≤ n) (hhigh : n ≤ high) (h : high < 256) :
    ¬ UInt8.ofNat n < .ofNat low ∧ ¬ UInt8.ofNat high < .ofNat n := by
  rw [ofNat_lt_ofNat_iff (by omega) (by omega), ofNat_lt_ofNat_iff (by omega) (by omega)]
  exact ⟨Nat.not_lt.mpr hlow, Nat.not_lt.mpr hhigh⟩

theorem not_ascii (h : 0x80 ≤ n) (hn : n < 256) : ¬ UInt8.ofNat n < 0x80 :=
  (ofNat_lt_ofNat_iff hn (by decide)).not.mpr (Nat.not_lt.mpr h)

theorem extend_ofNat (high : Nat) {six : Nat} (h : six < 64) :
    isContinuation (.ofNat (six + 128)) = true ∧ extend high (.ofNat (six + 128)) = high * 64 + six := by
  have hbyte := toNat_ofNat (n := six + 128) (by omega)
  refine ⟨?_, ?_⟩
  · rw [isContinuation, Bool.and_eq_true, decide_eq_true_iff, decide_eq_true_iff, UInt8.le_iff_toNat_le,
      UInt8.le_iff_toNat_le, hbyte]
    exact ⟨Nat.le_add_left 128 six, Nat.add_le_add_right (Nat.le_of_lt_succ h) 128⟩
  · unfold extend
    rw [hbyte, Nat.add_sub_cancel]

end Bytes

/-! ## Characters -/

theorem encodeChar_ascii {c : Char} (h : c.toNat < 0x80) : encodeChar c = [.ofNat c.toNat] :=
  if_pos (Nat.le_of_lt_succ h)

theorem le_toNat_of_mem_encodeChar {c : Char} (h : ¬ c.toNat < 0x80) {b : UInt8} (hb : b ∈ encodeChar c) :
    0x80 ≤ b.toNat := by
  have hbyte {m : Nat} (hlow : 0x80 ≤ m) (hhigh : m < 256) : 0x80 ≤ (UInt8.ofNat m).toNat :=
    (toNat_ofNat hhigh).symm ▸ hlow
  have hvalid : c.toNat < 0x110000 := by
    have := c.valid
    change c.toNat < 0xD800 ∨ 0xDFFF < c.toNat ∧ c.toNat < 0x110000 at this
    omega
  unfold encodeChar String.utf8EncodeChar at hb
  change b ∈ if c.toNat ≤ 0x7F then _ else if c.toNat ≤ 0x7FF then _
    else if c.toNat ≤ 0xFFFF then _ else _ at hb
  rw [if_neg (by omega)] at hb
  split at hb
  · simp only [List.mem_cons, List.not_mem_nil, or_false] at hb
    rcases hb with rfl | rfl
    · exact hbyte (by omega) (by omega)
    · exact hbyte (by omega) (by omega)
  · split at hb
    · simp only [List.mem_cons, List.not_mem_nil, or_false] at hb
      rcases hb with rfl | rfl | rfl
      · exact hbyte (by omega) (by omega)
      · exact hbyte (by omega) (by omega)
      · exact hbyte (by omega) (by omega)
    · simp only [List.mem_cons, List.not_mem_nil, or_false] at hb
      rcases hb with rfl | rfl | rfl | rfl
      · exact hbyte (by omega) (by omega)
      · exact hbyte (by omega) (by omega)
      · exact hbyte (by omega) (by omega)
      · exact hbyte (by omega) (by omega)

/-- The scanner takes the bytes of a character as this character, whatever follows them. -/
theorem step_encodeChar (c : Char) (rest : Bytes) :
    ∃ b more, encodeChar c = b :: more ∧ step b (more ++ rest) = (some c, more.length) := by
  obtain ⟨v, hv⟩ : ∃ v, c.val.toNat = v := ⟨_, rfl⟩
  have hvalid : v < 0xD800 ∨ 0xDFFF < v ∧ v < 0x110000 := hv ▸ c.valid
  have hchar : Char.ofNat v = c := hv ▸ Char.ofNat_toNat c
  have hsix {m : Nat} : m % 64 < 64 := Nat.mod_lt m (by decide)
  rw [encodeChar, String.utf8EncodeChar]
  simp only [hv]
  -- One case for each number of bytes. In each the bits that the bytes carry put the number together again.
  split
  · next hone =>
    refine ⟨_, _, rfl, ?_⟩
    have hb : UInt8.ofNat v < .ofNat 0x80 := (ofNat_lt_ofNat_iff (by omega) (by decide)).mpr (by omega)
    rw [step_one hb, toNat_ofNat (by omega), hchar]
    rfl
  · split
    · next hone htwo =>
      refine ⟨_, _, rfl, ?_⟩
      obtain ⟨hlead, hbits⟩ := lead_two (v / 64 % 32 + 192) (by omega) (by omega)
      have hsecond := between (n := v % 64 + 128) 0x80 0xBF (by omega) (by omega) (by decide)
      have hvalue : (v / 64 % 32) * 64 + v % 64 = v := by omega
      rw [List.singleton_append, step_two (not_ascii (by omega) (by omega)) hlead hsecond, hbits,
        Nat.add_sub_cancel, (extend_ofNat _ hsix).2, hvalue, hchar]
      rfl
    · split
      · next htwo hthree =>
        refine ⟨_, _, rfl, ?_⟩
        obtain ⟨hlead, hbits⟩ := lead_three (v / 4096 % 16 + 224) (by omega) (by omega)
        have hsecond := between (n := v / 64 % 64 + 128)
          (if v / 4096 % 16 + 224 = 0xE0 then 0xA0 else 0x80)
          (if v / 4096 % 16 + 224 = 0xED then 0x9F else 0xBF)
          (by split <;> omega) (by split <;> omega) (by split <;> decide)
        have hvalue : (v / 4096 % 16 * 64 + v / 64 % 64) * 64 + v % 64 = v := by omega
        rw [List.cons_append, List.singleton_append,
          step_three (not_ascii (by omega) (by omega)) hlead hsecond (extend_ofNat 0 hsix).1, hbits,
          Nat.add_sub_cancel, (extend_ofNat _ hsix).2, (extend_ofNat _ hsix).2, hvalue, hchar]
        rfl
      · next htwo hthree =>
        refine ⟨_, _, rfl, ?_⟩
        obtain ⟨hlead, hbits⟩ := lead_four (v / 262144 % 8 + 240) (by omega) (by omega)
        have hsecond := between (n := v / 4096 % 64 + 128)
          (if v / 262144 % 8 + 240 = 0xF0 then 0x90 else 0x80)
          (if v / 262144 % 8 + 240 = 0xF4 then 0x8F else 0xBF)
          (by split <;> omega) (by split <;> omega) (by split <;> decide)
        have hvalue : ((v / 262144 % 8 * 64 + v / 4096 % 64) * 64 + v / 64 % 64) * 64 + v % 64 = v := by
          omega
        rw [List.cons_append, List.cons_append, List.singleton_append,
          step_four (not_ascii (by omega) (by omega)) hlead hsecond (extend_ofNat 0 hsix).1
            (extend_ofNat 0 hsix).1, hbits, Nat.add_sub_cancel, (extend_ofNat _ hsix).2,
          (extend_ofNat _ hsix).2, (extend_ofNat _ hsix).2, hvalue, hchar]
        rfl

/-! ## Texts -/

theorem scan_encodeChar_append (c : Char) (rest : Bytes) :
    scan (encodeChar c ++ rest) = some c :: scan rest := by
  obtain ⟨b, more, hbytes, hstep⟩ := step_encodeChar c rest
  rw [hbytes, List.cons_append, scan, hstep]
  exact congrArg (some c :: scan ·) List.drop_left

theorem scan_flatMap_encodeChar (cs : List Char) : scan (cs.flatMap encodeChar) = cs.map some := by
  induction cs with
  | nil => rw [List.flatMap_nil, scan, List.map_nil]
  | cons c rest ih => rw [List.flatMap_cons, scan_encodeChar_append, ih, List.map_cons]

/-- Encoded characters decode to the text of them. -/
theorem decode?_flatMap_encodeChar (cs : List Char) :
    decode? (cs.flatMap encodeChar) = some (String.ofList cs) := by
  have hall : (cs.map some).mapM id = some cs := by
    induction cs with
    | nil => rfl
    | cons c rest ih => simp [List.mapM_cons, ih]
  rw [decode?, scan_flatMap_encodeChar, hall, Option.map_some]

/-- A text decodes from its encoding. -/
theorem decode?_encode (s : String) : decode? (encode s) = some s := by
  rw [encode, decode?_flatMap_encodeChar, String.ofList_toList]

end Gleaner.Utf8
