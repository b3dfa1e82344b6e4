import Gleaner.Decimal.Shortest
import Gleaner.Text.Blank
import Mathlib.Data.List.Basic
import Mathlib.Data.List.Induction

set_option autoImplicit false

/-! # Decimals and their characters

Which digits a natural number is written with, and which characters the texts of other numbers are made
of. -/

namespace Gleaner.Decimal

variable {digits : List Char}

/-! ## Digits -/

theorem toNat_of_isAsciiDigit {c : Char} (h : Text.isAsciiDigit c = true) :
    48 ≤ c.toNat ∧ c.toNat ≤ 57 := by
  simpa [Text.isAsciiDigit, Char.le_def, UInt32.le_iff_toNat_le] using h

theorem digitChar_of_isAsciiDigit {c : Char} (h : Text.isAsciiDigit c = true) :
    c.toNat - '0'.toNat < 10 ∧ Nat.digitChar (c.toNat - '0'.toNat) = c := by
  have hrange := toNat_of_isAsciiDigit h
  have hlt : c.toNat - '0'.toNat < 10 := by
    change c.toNat - 48 < 10
    omega
  refine ⟨hlt, Char.toNat_inj.mp ?_⟩
  rw [Nat.toNat_digitChar_of_lt_ten hlt]
  change 48 + (c.toNat - 48) = c.toNat
  omega

/-- Digits that no other digits write the same number as: no zero stands in front of others. -/
structure Canonical (digits : List Char) : Prop where
  nonempty : digits ≠ []
  areDigits : ∀ c ∈ digits, Text.isAsciiDigit c = true
  noLeadingZero : digits.head? = some '0' → digits = ['0']

theorem canonical_toDigits (m : Nat) : Canonical (Nat.toDigits 10 m) where
  nonempty := Nat.toDigits_ne_nil
  areDigits c hc := Nat.isDigit_of_mem_toDigits (by decide) (by decide) hc
  noLeadingZero h := by
    induction m using Nat.strongRecOn with
    | ind m ih =>
      by_cases hlt : m < 10
      · rw [Nat.toDigits_of_lt_base hlt] at h ⊢
        rw [Option.some.inj h]
      · rw [Nat.toDigits_of_base_le (by decide) (Nat.le_of_not_lt hlt),
          List.head?_append_of_ne_nil _ Nat.toDigits_ne_nil] at h
        -- What stands before the last digit would be the digits of zero.
        have hquotient := congrArg (Nat.ofDigitChars 10 · 0) (ih (m / 10) (by omega) h)
        have hzero : m / 10 = 0 := Nat.ofDigitChars_ten_toDigits.symm.trans hquotient
        omega

/-- Canonical digits are the digits of what they write. -/
theorem Canonical.toDigits_ofDigitChars (h : Canonical digits) :
    Nat.toDigits 10 (Nat.ofDigitChars 10 digits 0) = digits := by
  induction digits using List.reverseRecOn with
  | nil => exact absurd rfl h.nonempty
  | append_singleton init c ih =>
    obtain ⟨hlt, hchar⟩ := digitChar_of_isAsciiDigit (h.areDigits c (by simp))
    rw [Nat.ofDigitChars_append, Nat.ofDigitChars_cons, Nat.ofDigitChars_nil]
    by_cases hinit : init = []
    · subst hinit
      rw [Nat.ofDigitChars_nil, Nat.mul_zero, Nat.zero_add, Nat.toDigits_of_lt_base hlt, hchar,
        List.nil_append]
    · have hhead : init.head? ≠ some '0' := by
        intro hzero
        have hsingle := h.noLeadingZero (by rwa [List.head?_append_of_ne_nil _ hinit])
        have hlength := congrArg List.length hsingle
        rw [List.length_append] at hlength
        exact hinit (List.length_eq_zero_iff.mp (Nat.succ.inj hlength))
      have hcanonical : Canonical init :=
        ⟨hinit, fun d hd => h.areDigits d (List.mem_append_left _ hd), fun hzero => absurd hzero hhead⟩
      have hpos : 0 < Nat.ofDigitChars 10 init 0 := by
        rw [Nat.pos_iff_ne_zero]
        intro hzero
        rw [← ih hcanonical, hzero] at hhead
        exact hhead rfl
      rw [← Nat.toDigits_append_toDigits (by decide) hpos hlt, ih hcanonical, Nat.toDigits_of_lt_base hlt,
        hchar]

/-! ## Integers -/

theorem toList_toString_natCast (m : Nat) : (toString (m : Int)).toList = Nat.toDigits 10 m :=
  Nat.toList_repr

theorem toList_toString_negSucc (m : Nat) :
    (toString (Int.negSucc m)).toList = '-' :: Nat.toDigits 10 (m + 1) := by
  change ("-" ++ (m + 1).repr).toList = _
  rw [String.toList_append, Nat.toList_repr]
  rfl

/-! ## Other numbers -/

section Characters

variable {d : Decimal} {c : Char}

theorem isAsciiDigit_of_mem_digitChars (h : c ∈ d.digitChars) : Text.isAsciiDigit c = true :=
  (canonical_toDigits d.digits).areDigits c h

theorem isAsciiDigit_of_mem_zeros {count : Nat} (h : c ∈ List.replicate count '0') :
    Text.isAsciiDigit c = true := by
  rw [List.eq_of_mem_replicate h]
  decide

/-- A positional decimal has digits and a point in it and nothing else. -/
theorem mem_positional (h : c ∈ d.positional) : c = '.' ∨ Text.isAsciiDigit c = true := by
  unfold Decimal.positional at h
  split at h
  · split at h
    · rw [List.mem_singleton.mp h]
      exact .inr (by decide)
    · rcases List.mem_append.mp h with h | h
      · exact .inr (isAsciiDigit_of_mem_digitChars h)
      · exact .inr (isAsciiDigit_of_mem_zeros h)
  · dsimp only at h
    split at h
    · rcases List.mem_append.mp h with h | h
      · exact .inr (isAsciiDigit_of_mem_digitChars (List.mem_of_mem_take h))
      · rcases List.mem_cons.mp h with rfl | h
        · exact .inl rfl
        · exact .inr (isAsciiDigit_of_mem_digitChars (List.mem_of_mem_drop h))
    · simp only [List.mem_cons, List.mem_append] at h
      rcases h with rfl | rfl | h | h
      · exact .inr (by decide)
      · exact .inl rfl
      · exact .inr (isAsciiDigit_of_mem_zeros h)
      · exact .inr (isAsciiDigit_of_mem_digitChars h)

/-- A scientific decimal has digits and a point, the mark of an exponent and its sign in it. -/
theorem mem_scientific (h : c ∈ d.scientific) :
    c = '.' ∨ c = 'e' ∨ c = '-' ∨ c = '+' ∨ Text.isAsciiDigit c = true := by
  have hdigit {ds : List Char} (hds : ds ⊆ d.digitChars) (hc : c ∈ ds) : Text.isAsciiDigit c = true :=
    isAsciiDigit_of_mem_digitChars (hds hc)
  unfold Decimal.scientific at h
  simp only [List.mem_append, List.mem_cons] at h
  rcases h with (h | h) | h | h | h
  · exact .inr (.inr (.inr (.inr (hdigit (List.take_subset 1 _) h))))
  · split at h
    · cases h
    · rcases List.mem_cons.mp h with rfl | h
      · exact .inl rfl
      · exact .inr (.inr (.inr (.inr (hdigit (List.drop_subset 1 _) h))))
  · exact .inr (.inl h)
  · split at h
    · exact .inr (.inr (.inl h))
    · exact .inr (.inr (.inr (.inl h)))
  · exact .inr (.inr (.inr (.inr ((canonical_toDigits _).areDigits c h))))

end Characters

end Gleaner.Decimal
