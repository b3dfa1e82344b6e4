import Gleaner.Json.Printer
import Gleaner.Proofs.Decimal
import Gleaner.Proofs.Json
import Gleaner.Proofs.Json.Cursor

set_option autoImplicit false

/-! # Numbers are read back

The reader of numbers takes as much as it can, so what is read depends on what stands behind. It answers the
same in front of something that ends a value as at the end of the text (`Json.carries_readNumber`), which
leaves the numbers that are read alone, `Json.ReadAlone`. Every integer in the machine range is one of them
(`Json.readAlone_int`), and so is every other number that the reader gives back from its text
(`Json.readAlone_float`). -/

namespace Gleaner.Json

/-! ## Numbers in front of something else -/

/-- With more bytes behind those that it is given, the reader answers the same and leaves them. -/
def Carries (rest : Bytes) (read : Cursor → Except ReadError (Json × Cursor)) : Prop :=
  ∀ c d v c', c.Extends rest d → read c = .ok (v, c') →
    c'.rest <:+ c.rest ∧ ∃ d', read d = .ok (v, d') ∧ c'.Extends rest d'

namespace Carries

variable {rest : Bytes} {read other : Cursor → Except ReadError (Json × Cursor)}

/-- A reader may be called further on. -/
theorem after (h : Carries rest read) {c c' d' e : Cursor} {v : Json} (hsuffix : c'.rest <:+ c.rest)
    (hextends : c'.Extends rest d') (hread : read c' = .ok (v, e)) :
    e.rest <:+ c.rest ∧ ∃ e', read d' = .ok (v, e') ∧ e.Extends rest e' := by
  obtain ⟨hsuffix', hread'⟩ := h c' d' v e hextends hread
  exact ⟨hsuffix'.trans hsuffix, hread'⟩

/-- A reader may be chosen by what comes next, if what may stand behind a value does not matter for that. -/
theorem choose {test : Cursor → Bool} (htest : ∀ c d, c.Extends rest d → test d = test c)
    (h : Carries rest read) (hother : Carries rest other) :
    Carries rest fun c => if test c then read c else other c := by
  intro c d v c' hextends hread
  dsimp only at hread ⊢
  rw [htest c d hextends]
  split at hread
  · next htrue =>
    rw [if_pos htrue]
    exact h c d v c' hextends hread
  · next hfalse =>
    rw [if_neg hfalse]
    exact hother c d v c' hextends hread

end Carries

section Numbers

variable {rest : Bytes} {c d : Cursor} {negative : Bool} {significand : Nat} {exponent : Int}

theorem takeDigits_go_extends (hrest : EndsValue rest) {limit : Nat} {bytes : Bytes}
    {n n' count count' column column' : Nat} {c' : Cursor}
    (h : takeDigits.go limit c bytes n count column = (n', count', c')) :
    c'.rest <:+ bytes ∧ ∃ d', takeDigits.go limit d (bytes ++ rest) n count column' = (n', count', d')
      ∧ c'.Extends rest d' := by
  induction bytes generalizing n count column column' with
  | nil =>
    cases h
    refine ⟨List.suffix_refl _, ⟨rest, d.line, column'⟩, ?_, rfl⟩
    cases rest with
    | nil => rfl
    | cons b rest => rw [List.nil_append, takeDigits.go, Cursor.digit?_of_endsValue hrest rfl]
  | cons b bytes ih =>
    rw [takeDigits.go] at h
    rw [List.cons_append, takeDigits.go]
    cases hdigit : digit? b with
    | none =>
      rw [hdigit] at h
      cases h
      exact ⟨List.suffix_refl _, _, rfl, rfl⟩
    | some m =>
      rw [hdigit] at h
      dsimp only at h ⊢
      split at h
      · next hlimit =>
        cases h
        exact ⟨List.suffix_refl _, _, if_pos hlimit, rfl⟩
      · next hlimit =>
        rw [if_neg hlimit]
        obtain ⟨hsuffix, hread⟩ := ih h
        exact ⟨hsuffix.trans (List.suffix_cons b bytes), hread⟩

theorem takeDigits_extends (hrest : EndsValue rest) (h : c.Extends rest d) {limit n n' count : Nat}
    {c' : Cursor} (htake : takeDigits limit n c = (n', count, c')) :
    c'.rest <:+ c.rest ∧ ∃ d', takeDigits limit n d = (n', count, d') ∧ c'.Extends rest d' := by
  unfold takeDigits at htake ⊢
  rw [h]
  exact takeDigits_go_extends hrest htake

theorem dropDigits_extends (hrest : EndsValue rest) (h : c.Extends rest d) :
    (dropDigits c).2.rest <:+ c.rest
      ∧ ∃ d', dropDigits d = ((dropDigits c).1, d') ∧ (dropDigits c).2.Extends rest d' := by
  have hstop : rest.takeWhile (fun b => (digit? b).isSome) = [] := by
    cases rest with
    | nil => rfl
    | cons b rest =>
      have hb : digit? b = none := Cursor.digit?_of_endsValue hrest rfl
      rw [List.takeWhile_cons_of_neg (by simp [hb])]
  have htake : (c.rest ++ rest).takeWhile (fun b => (digit? b).isSome)
      = c.rest.takeWhile fun b => (digit? b).isSome := by
    rw [List.takeWhile_append]
    split
    · next hall =>
      rw [hstop, List.append_nil, (List.takeWhile_prefix _).eq_of_length hall]
    · rfl
  unfold dropDigits
  rw [h, htake]
  refine ⟨List.drop_suffix _ _, _, rfl, ?_⟩
  exact List.drop_append_of_le_length (List.takeWhile_prefix _).length_le

/-- Making a number of its parts does not look at the text. -/
theorem scaledNumber_cases (negative : Bool) (significand : Nat) (exponent : Int) :
    (∃ x, ∀ c, scaledNumber negative significand exponent c = .ok (num (.float x), c))
      ∨ ∀ c, scaledNumber negative significand exponent c = .error (c.fail .numberTooLarge) := by
  unfold scaledNumber
  dsimp only
  split
  · exact .inl ⟨_, fun c => rfl⟩
  · split
    · split
      · exact .inl ⟨_, fun c => rfl⟩
      · exact .inr fun c => rfl
    · split
      · exact .inl ⟨_, fun c => rfl⟩
      · exact .inr fun c => rfl

theorem carries_scaledNumber : Carries rest (scaledNumber negative significand exponent) := by
  intro c d v c' h hread
  rcases scaledNumber_cases negative significand exponent with ⟨x, hx⟩ | herror
  · rw [hx] at hread
    cases hread
    exact ⟨List.suffix_refl _, d, hx d, h⟩
  · rw [herror] at hread
    cases hread

/-- The sign of an exponent. -/
theorem exponentSign_extends (hrest : EndsValue rest) (h : c.Extends rest d) :
    ∃ below c' d',
      (if c.isAt 43 then (false, c.skip) else if c.isAt 45 then (true, c.skip) else (false, c))
        = (below, c')
      ∧ (if d.isAt 43 then (false, d.skip) else if d.isAt 45 then (true, d.skip) else (false, d))
        = (below, d')
      ∧ c'.rest <:+ c.rest ∧ c'.Extends rest d' := by
  rw [h.isAt hrest (by decide), h.isAt hrest (by decide)]
  split
  · next hplus => exact ⟨_, _, _, rfl, rfl, h.skip (rest_ne_nil_of_isAt hplus)⟩
  · split
    · next hminus => exact ⟨_, _, _, rfl, rfl, h.skip (rest_ne_nil_of_isAt hminus)⟩
    · exact ⟨_, _, _, rfl, rfl, List.suffix_refl _, h⟩

theorem carries_readExponent (hrest : EndsValue rest) :
    Carries rest (readExponent negative significand exponent) := by
  intro c d v c' h hread
  have hc : c.rest ≠ [] := by
    intro hnil
    obtain ⟨bytes, line, column⟩ := c
    obtain rfl : bytes = [] := hnil
    cases hread
  obtain ⟨hsuffix₀, h₀⟩ := h.skip hc
  obtain ⟨below, c₁, d₁, hsign, hsign', hsuffix₁, h₁⟩ := exponentSign_extends hrest h₀
  have hsuffix := hsuffix₁.trans hsuffix₀
  simp only [readExponent, hsign, hsign'] at hread ⊢
  cases hnext : c₁.next? with
  | none => simp [hnext] at hread
  | some taken =>
    obtain ⟨b, c₂⟩ := taken
    obtain ⟨hbytes, d₂, hnext', h₂⟩ := h₁.next? hnext
    replace hsuffix : c₂.rest <:+ c.rest := (List.IsSuffix.trans ⟨[b], hbytes.symm⟩ hsuffix)
    simp only [hnext, hnext'] at hread ⊢
    cases hdigit : digit? b with
    | none => simp [hdigit] at hread
    | some n =>
      simp only [hdigit] at hread ⊢
      obtain ⟨⟨n', count, c₃⟩, htake⟩ : ∃ taken, takeDigits 0x7FFFFFFF n c₂ = taken := ⟨_, rfl⟩
      obtain ⟨hsuffix₃, d₃, htake', h₃⟩ := takeDigits_extends hrest h₂ htake
      simp only [htake, htake', h₃.atDigit hrest] at hread ⊢
      split at hread
      · next hmore =>
        rw [if_pos hmore]
        split at hread
        · cases hread
        · next hsmall =>
          obtain ⟨hsuffix₄, d₄, hdrop, h₄⟩ := dropDigits_extends hrest h₃
          rw [if_neg hsmall, hdrop]
          cases hread
          exact ⟨hsuffix₄.trans (hsuffix₃.trans hsuffix), d₄, rfl, h₄⟩
      · next hmore =>
        rw [if_neg hmore]
        exact carries_scaledNumber.after (hsuffix₃.trans hsuffix) h₃ hread

/-- What stands behind digits: an exponent or nothing more. -/
theorem carries_exponent (hrest : EndsValue rest) : Carries rest fun c =>
    if c.atExponent then readExponent negative significand exponent c
    else scaledNumber negative significand exponent c :=
  .choose (fun _ _ h => h.atExponent hrest) (carries_readExponent hrest) carries_scaledNumber

theorem carries_readFraction (hrest : EndsValue rest) :
    Carries rest (readFraction negative significand exponent) := by
  intro c d v c' h hread
  have hc : c.rest ≠ [] := by
    intro hnil
    obtain ⟨bytes, line, column⟩ := c
    obtain rfl : bytes = [] := hnil
    cases hread
  obtain ⟨hsuffix₀, h₀⟩ := h.skip hc
  obtain ⟨⟨n, count, c₁⟩, htake⟩ : ∃ taken, takeDigits significandLimit significand c.skip = taken := ⟨_, rfl⟩
  obtain ⟨hsuffix₁, d₁, htake', h₁⟩ := takeDigits_extends hrest h₀ htake
  have hsuffix := hsuffix₁.trans hsuffix₀
  simp only [readFraction, htake, htake', h₁.atDigit hrest] at hread ⊢
  split at hread
  · next hmore =>
    rw [if_pos hmore]
    obtain ⟨hsuffix₂, d₂, hdrop, h₂⟩ := dropDigits_extends hrest h₁
    rw [hdrop]
    exact (carries_exponent hrest).after (hsuffix₂.trans hsuffix) h₂ hread
  · next hmore =>
    rw [if_neg hmore]
    split at hread
    · cases hread
    · next hcount =>
      rw [if_neg hcount]
      exact (carries_exponent hrest).after hsuffix h₁ hread

/-- What stands behind the digits before a point: a fraction, an exponent or nothing more. -/
theorem carries_behind (hrest : EndsValue rest) {n dropped : Nat} :
    Carries rest (readNumber.behind negative n dropped) := by
  have hend : Carries rest fun c =>
      if dropped = 0 then .ok (integer negative n, c) else scaledNumber negative n dropped c := by
    intro c d v c' h hread
    dsimp only at hread ⊢
    split at hread
    · next hdropped =>
      rw [if_pos hdropped]
      cases hread
      exact ⟨List.suffix_refl _, d, rfl, h⟩
    · next hdropped =>
      rw [if_neg hdropped]
      exact carries_scaledNumber c d v c' h hread
  have hexponent : Carries rest fun c => if c.atExponent then readExponent negative n dropped c
      else if dropped = 0 then .ok (integer negative n, c) else scaledNumber negative n dropped c :=
    .choose (fun _ _ h => h.atExponent hrest) (carries_readExponent hrest) hend
  exact .choose (fun _ _ h => h.isAt hrest (by decide)) (carries_readFraction hrest) hexponent

/-- A number is read the same in front of something that ends a value. -/
theorem carries_readNumber (hrest : EndsValue rest) : Carries rest (readNumber negative) := by
  intro c d v c' h hread
  unfold readNumber at hread ⊢
  cases hnext : c.next? with
  | none => simp [hnext] at hread
  | some taken =>
    obtain ⟨b, c₁⟩ := taken
    obtain ⟨hbytes, d₁, hnext', h₁⟩ := h.next? hnext
    have hsuffix : c₁.rest <:+ c.rest := ⟨[b], hbytes.symm⟩
    simp only [hnext, hnext'] at hread ⊢
    split at hread
    · cases hread
    · next hzero =>
      rw [h₁.atDigit hrest]
      split at hread
      · cases hread
      · next hmore =>
        rw [if_neg hmore]
        exact (carries_behind hrest).after hsuffix h₁ hread
    · next n hn hne =>
      obtain ⟨⟨n', count, c₂⟩, htake⟩ : ∃ taken, takeDigits significandLimit n c₁ = taken := ⟨_, rfl⟩
      obtain ⟨hsuffix₂, d₂, htake', h₂⟩ := takeDigits_extends hrest h₁ htake
      obtain ⟨hsuffix₃, d₃, hdrop, h₃⟩ := dropDigits_extends hrest h₂
      simp only [htake, htake', hdrop] at hread ⊢
      exact (carries_behind hrest).after (hsuffix₃.trans (hsuffix₂.trans hsuffix)) h₃ hread

end Numbers

/-! ## Integers -/

section Integers

variable {digits : List Char} {n limit : Nat}

theorem digit?_ofNat_toNat {c : Char} (h : Text.isAsciiDigit c = true) :
    digit? (.ofNat c.toNat) = some (c.toNat - '0'.toNat) := by
  obtain ⟨hlow, hhigh⟩ := Decimal.toNat_of_isAsciiDigit h
  have hbyte : (UInt8.ofNat c.toNat).toNat = c.toNat := Utf8.toNat_ofNat (by omega)
  unfold digit?
  rw [if_pos]
  · rw [hbyte]
    rfl
  · rw [Bool.and_eq_true, decide_eq_true_iff, decide_eq_true_iff, UInt8.le_iff_toNat_le,
      UInt8.le_iff_toNat_le, hbyte]
    exact ⟨hlow, hhigh⟩

theorem le_ofDigitChars (digits : List Char) (n : Nat) : n ≤ Nat.ofDigitChars 10 digits n := by
  induction digits generalizing n with
  | nil => exact Nat.le_refl n
  | cons c rest ih =>
    rw [Nat.ofDigitChars_cons]
    exact Nat.le_trans (by omega) (ih _)

/-- Digits are taken up to the end of the text if the number that they write is within the limit. -/
theorem takeDigits_go_spelled {c : Cursor} (hdigits : ∀ d ∈ digits, Text.isAsciiDigit d = true)
    (hlimit : Nat.ofDigitChars 10 digits n ≤ limit) (count column : Nat) :
    ∃ count' column', takeDigits.go limit c (spelled digits) n count column
      = (Nat.ofDigitChars 10 digits n, count', ⟨[], c.line, column'⟩) := by
  induction digits generalizing n count column with
  | nil => exact ⟨count, column, rfl⟩
  | cons d rest ih =>
    obtain ⟨hd, hrest⟩ := List.forall_mem_cons.mp hdigits
    have hrange := Decimal.toNat_of_isAsciiDigit hd
    rw [Nat.ofDigitChars_cons, Nat.mul_comm] at hlimit ⊢
    have hfits : ¬ limit < n * 10 + (d.toNat - '0'.toNat) :=
      Nat.not_lt.mpr (Nat.le_trans (le_ofDigitChars rest _) hlimit)
    rw [spelled_cons_ascii (by omega), takeDigits.go, digit?_ofNat_toNat hd]
    dsimp only
    rw [if_neg hfits]
    exact ih hrest hlimit (count + 1) (column + 1)

/-- The digits of a number that fits are read as this number. -/
theorem readNumber_toDigits (negative : Bool) {m : Nat} (hm : m ≤ significandLimit) (line column : Nat) :
    ∃ line' column', readNumber negative ⟨spelled (Nat.toDigits 10 m), line, column⟩
      = .ok (integer negative m, ⟨[], line', column'⟩) := by
  have hcanonical := Decimal.canonical_toDigits m
  have hvalue : Nat.ofDigitChars 10 (Nat.toDigits 10 m) 0 = m := Nat.ofDigitChars_ten_toDigits
  generalize Nat.toDigits 10 m = digits at hcanonical hvalue ⊢
  cases digits with
  | nil => exact absurd rfl hcanonical.nonempty
  | cons d rest =>
    obtain ⟨hd, hrest⟩ := List.forall_mem_cons.mp hcanonical.areDigits
    have hrange := Decimal.toNat_of_isAsciiDigit hd
    rw [Nat.ofDigitChars_cons, Nat.mul_zero, Nat.zero_add] at hvalue
    obtain ⟨line', column', hnext⟩ := next?_cons (.ofNat d.toNat) (spelled rest) line column
    rw [spelled_cons_ascii (by omega)]
    unfold readNumber
    simp only [hnext, digit?_ofNat_toNat hd]
    split
    · next hdigit => cases hdigit
    · next hdigit =>
      have hzero : d = '0' := by
        have hle := Nat.sub_eq_zero_iff_le.mp (Option.some.inj hdigit)
        exact Char.toNat_inj.mp (Nat.le_antisymm hle hrange.1)
      obtain rfl : rest = [] := List.tail_eq_of_cons_eq (hcanonical.noLeadingZero (hzero ▸ rfl))
      obtain rfl : m = 0 := by rw [← hvalue, hzero]; rfl
      exact ⟨_, _, rfl⟩
    · next k hk hdigit =>
      obtain rfl := Option.some.inj hdigit
      obtain ⟨count, column'', htake⟩ :=
        takeDigits_go_spelled (c := ⟨spelled rest, line', column'⟩) hrest (hvalue ▸ hm) 0 column'
      unfold takeDigits
      rw [htake, hvalue]
      exact ⟨_, _, rfl⟩

theorem integer_natCast {m : Nat} (hn : -0x8000000000000000 ≤ (m : Int) ∧ (m : Int) < 0x10000000000000000) :
    integer false m = num (.int m hn) := by
  have hofInt : ofInt? m = some (num (.int m hn)) := dif_pos hn
  unfold integer
  simp [hofInt]

theorem integer_negSucc {m : Nat}
    (hn : -0x8000000000000000 ≤ Int.negSucc m ∧ Int.negSucc m < 0x10000000000000000) :
    integer true (m + 1) = num (.int (.negSucc m) hn) := by
  have hofInt : ofInt? (Int.negSucc m) = some (num (.int (.negSucc m) hn)) := dif_pos hn
  have hneg : -((m + 1 : Nat) : Int) = Int.negSucc m := rfl
  unfold integer
  simp only [if_true, hneg, hofInt, Option.getD_some]
  rfl

end Integers

/-! ## Numbers read alone -/

section Alone

variable {rest bytes : Bytes} {line column : Nat} {b : UInt8}

theorem digit?_eq_some_iff {n : Nat} :
    digit? b = some n ↔ 48 ≤ b.toNat ∧ b.toNat ≤ 57 ∧ n = b.toNat - 48 := by
  unfold digit?
  rw [Option.ite_none_right_eq_some, Bool.and_eq_true, decide_eq_true_iff, decide_eq_true_iff,
    UInt8.le_iff_toNat_le, UInt8.le_iff_toNat_le, Option.some_inj, and_assoc, eq_comm (a := n)]
  rfl

theorem readValue_of_digit (h : (digit? b).isSome = true) (depth fuel : Nat) :
    readValue depth (fuel + 1) ⟨b :: bytes, line, column⟩ = readNumber false ⟨b :: bytes, line, column⟩ := by
  obtain ⟨n, hn⟩ := Option.isSome_iff_exists.mp h
  obtain ⟨hlow, hhigh, -⟩ := digit?_eq_some_iff.mp hn
  have hblank : ¬ IsBlank b := by
    rintro (rfl | rfl | rfl | rfl) <;> cases hn
  unfold readValue
  rw [skipBlanks_cons hblank]
  dsimp only [List.head?_cons]
  split
  case h_8 => exact if_pos h
  all_goals omega

/-- The bytes are a number, and no more than that, to a reader that comes to their end. -/
inductive ReadAlone : Bytes → Number → Prop where
  | negative (n : Number) (unsigned : Bytes) (line column : Nat) (c : Cursor) (hc : c.rest = [])
    (h : readNumber true ⟨unsigned, line, column⟩ = .ok (num n, c)) : ReadAlone (45 :: unsigned) n
  | unsigned (n : Number) (b : UInt8) (more : Bytes) (hb : (digit? b).isSome = true) (line column : Nat)
    (c : Cursor) (hc : c.rest = []) (h : readNumber false ⟨b :: more, line, column⟩ = .ok (num n, c)) :
    ReadAlone (b :: more) n

/-- A number is read in front of something that ends a value. -/
theorem ReadAlone.readValue_append {n : Number} (h : ReadAlone bytes n) (hrest : EndsValue rest)
    (depth fuel line column : Nat) :
    ∃ line' column', readValue depth (fuel + 1) ⟨bytes ++ rest, line, column⟩
      = .ok (num n, ⟨rest, line', column'⟩) := by
  cases h with
  | negative _ unsigned line₀ column₀ c hc hread =>
    obtain ⟨line₁, column₁, hskip⟩ := skip_cons 45 (unsigned ++ rest) line column
    obtain ⟨-, d, hread', hd⟩ :=
      carries_readNumber hrest ⟨unsigned, line₀, column₀⟩ ⟨unsigned ++ rest, line₁, column₁⟩ _ _ rfl hread
    obtain ⟨bytes', line', column'⟩ := d
    obtain rfl : bytes' = rest := by rw [Cursor.Extends, hc] at hd; exact hd
    refine ⟨line', column', ?_⟩
    rw [← hread', ← hskip]
    rfl
  | unsigned _ b more hb line₀ column₀ c hc hread =>
    obtain ⟨-, d, hread', hd⟩ :=
      carries_readNumber hrest ⟨b :: more, line₀, column₀⟩ ⟨b :: more ++ rest, line, column⟩ _ _ rfl hread
    obtain ⟨bytes', line', column'⟩ := d
    obtain rfl : bytes' = rest := by rw [Cursor.Extends, hc] at hd; exact hd
    refine ⟨line', column', ?_⟩
    rw [← hread', List.cons_append, readValue_of_digit hb]

theorem readAlone_int (n : Int) (hn : -0x8000000000000000 ≤ n ∧ n < 0x10000000000000000) :
    ReadAlone (spelled (Number.int n hn).text) (.int n hn) := by
  cases n with
  | ofNat m =>
    have htext : (Number.int (.ofNat m) hn).text = Nat.toDigits 10 m := Decimal.toList_toString_natCast m
    have hlimit : m ≤ significandLimit := Nat.le_of_lt_succ (Int.ofNat_lt.mp hn.2)
    obtain ⟨line, column, hread⟩ := readNumber_toDigits false hlimit 1 0
    rw [Int.ofNat_eq_natCast] at hn
    rw [integer_natCast hn] at hread
    rw [htext]
    have hcanonical := Decimal.canonical_toDigits m
    generalize Nat.toDigits 10 m = digits at hcanonical hread ⊢
    cases digits with
    | nil => exact absurd rfl hcanonical.nonempty
    | cons d more =>
      have hd : Text.isAsciiDigit d = true := hcanonical.areDigits d List.mem_cons_self
      have hrange := Decimal.toNat_of_isAsciiDigit hd
      rw [spelled_cons_ascii (by omega)] at hread ⊢
      exact .unsigned _ _ _ (by rw [digit?_ofNat_toNat hd]; rfl) 1 0 _ rfl hread
  | negSucc m =>
    have htext : (Number.int (.negSucc m) hn).text = '-' :: Nat.toDigits 10 (m + 1) :=
      Decimal.toList_toString_negSucc m
    have hlimit : m + 1 ≤ significandLimit := by
      have := hn.1
      change m + 1 ≤ 0xFFFFFFFFFFFFFFFF
      omega
    obtain ⟨line, column, hread⟩ := readNumber_toDigits true hlimit 1 0
    rw [integer_negSucc hn] at hread
    rw [htext, spelled_cons_ascii (by decide)]
    exact .negative _ _ 1 0 _ rfl hread

/-- The characters that the texts of numbers are made of. -/
def IsNumeric (c : Char) : Prop := c = '.' ∨ c = 'e' ∨ c = '-' ∨ c = '+' ∨ Text.isAsciiDigit c = true

theorem isNumeric_of_mem_floatText {x : Binary64} {c : Char} (h : c ∈ floatText x) : IsNumeric c := by
  unfold floatText at h
  dsimp only at h
  generalize Decimal.shortest x = d at h
  generalize hmagnitude : (if x.isZero || _ then d.positional ++ _ else d.scientific) = magnitude at h
  have hcases : c = '-' ∨ c ∈ magnitude := by
    split at h
    · exact List.mem_cons.mp h
    · exact .inr h
  rcases hcases with rfl | h
  · exact .inr (.inr (.inl rfl))
  rw [← hmagnitude] at h
  split at h
  · rcases List.mem_append.mp h with h | h
    · exact (Decimal.mem_positional h).imp_right fun hdigit => .inr (.inr (.inr hdigit))
    · split at h
      · rcases List.mem_pair.mp h with rfl | rfl
        · exact .inl rfl
        · exact .inr (.inr (.inr (.inr (by decide))))
      · cases h
  · exact Decimal.mem_scientific h

theorem IsNumeric.toNat_lt {c : Char} (h : IsNumeric c) : c.toNat < 0x80 := by
  rcases h with rfl | rfl | rfl | rfl | hdigit
  · decide
  · decide
  · decide
  · decide
  · exact Nat.lt_of_le_of_lt (Decimal.toNat_of_isAsciiDigit hdigit).2 (by decide)

/-- Bytes of a number: none of them is a blank, and none ends a value. -/
theorem IsNumeric.not_isBlank {c : Char} (h : IsNumeric c) : ¬ IsBlank (.ofNat c.toNat) := by
  rcases h with rfl | rfl | rfl | rfl | hdigit
  · decide
  · decide
  · decide
  · decide
  · have hsome := digit?_ofNat_toNat hdigit
    generalize UInt8.ofNat c.toNat = b at hsome
    rintro (rfl | rfl | rfl | rfl) <;> cases hsome

theorem not_isBlank_of_mem_spelled {cs : List Char} (h : ∀ c ∈ cs, IsNumeric c) (hb : b ∈ spelled cs) :
    ¬ IsBlank b := by
  obtain ⟨c, hc, rfl⟩ := mem_spelled (fun c hc => (h c hc).toNat_lt) hb
  exact (h c hc).not_isBlank

theorem written_eq_num {written : Json} {n : Number} (h : written.arrange = num n) : written = num n := by
  cases written with
  | arr | obj => cases h
  | null | bool | num | str => exact h

/-- Where the text of a number is all that the reader gets to see, it reads the number to the end. -/
theorem rest_eq_nil_of_finish {cs : List Char} {c : Cursor} (hcs : ∀ d ∈ cs, IsNumeric d)
    (hsuffix : c.rest <:+ spelled cs) (hfinish : c.finish = .ok ()) : c.rest = [] := by
  obtain ⟨bytes, line, column⟩ := c
  cases bytes with
  | nil => rfl
  | cons b bytes =>
    have hblank : ¬ IsBlank b := not_isBlank_of_mem_spelled hcs (hsuffix.subset List.mem_cons_self)
    unfold Cursor.finish at hfinish
    rw [skipBlanks_cons hblank] at hfinish
    cases hfinish

/-- A number that the reader gives back from its text is read alone. -/
theorem readAlone_float {x : Binary64} (h : read (String.ofList (floatText x)) = .ok (.num (.float x))) :
    ReadAlone (spelled (floatText x)) (.float x) := by
  obtain ⟨⟨written, c⟩, hwritten, h⟩ := exists_of_bind_eq_ok h
  obtain ⟨⟨⟩, hfinish, h⟩ := exists_of_bind_eq_ok h
  obtain rfl := written_eq_num (Except.ok.inj h)
  have hnumeric (c : Char) (hc : c ∈ floatText x) : IsNumeric c := isNumeric_of_mem_floatText hc
  rw [encode_ofList] at hwritten
  unfold readAsWritten at hwritten
  generalize floatText x = cs at hnumeric hwritten ⊢
  have hself (c : Cursor) : c.Extends [] c := (List.append_nil c.rest).symm
  cases cs with
  | nil => cases hwritten
  | cons d more =>
    have hascii : d.toNat < 0x80 := (hnumeric d List.mem_cons_self).toNat_lt
    have hmore : spelled more <:+ spelled (d :: more) := ⟨Utf8.encodeChar d, List.flatMap_cons.symm⟩
    generalize 2 * (spelled (d :: more)).length + 1 = fuel at hwritten
    rw [spelled_cons_ascii hascii] at hwritten ⊢
    -- Of the characters of a number, only a minus sign and a digit start a value.
    rcases hnumeric d List.mem_cons_self with rfl | rfl | rfl | rfl | hdigit
    · cases hwritten
    · cases hwritten
    · have hread : readNumber true ⟨spelled more, 1, 1⟩ = .ok (num (.float x), c) := hwritten
      obtain ⟨hsuffix, -⟩ := carries_readNumber endsValue_nil _ _ _ _ (hself _) hread
      exact .negative _ _ 1 1 c (rest_eq_nil_of_finish hnumeric (hsuffix.trans hmore) hfinish) hread
    · cases hwritten
    · have hsome : (digit? (.ofNat d.toNat)).isSome = true := by rw [digit?_ofNat_toNat hdigit]; rfl
      unfold Cursor.start at hwritten
      rw [readValue_of_digit hsome] at hwritten
      obtain ⟨hsuffix, -⟩ := carries_readNumber endsValue_nil _ _ _ _ (hself _) hwritten
      rw [← spelled_cons_ascii hascii] at hsuffix
      exact .unsigned _ _ _ hsome 1 0 c (rest_eq_nil_of_finish hnumeric hsuffix hfinish) hwritten

end Alone

end Gleaner.Json
