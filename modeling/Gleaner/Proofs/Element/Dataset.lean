import Gleaner.Element.Dataset
import Gleaner.Proofs.Json.ReadBack
import Gleaner.Proofs.Text

set_option autoImplicit false

/-! # Decoding loses nothing

What the texts of `data-` attributes stand for (`Dataset.decode_lossless`). The texts of each kind are
described without the functions that read them: the decimal of an integer (`Dataset.IsDecimal`), the spelling
of another number with a sign, a point and an exponent (`Dataset.Spells`), and a text in brackets
(`Dataset.InBrackets`). A number is decoded only where writing it gives back the very text, so of the
spellings of a number only one is decoded to it.

The readers are tried one after the other, and no text is taken by two of them, apart from the integers, which
are spelled like other numbers too. So a text stands for one value, `Dataset.decode_eq_iff`, and each part of
the result is read off from `Dataset.Stands`. -/

namespace Gleaner.Dataset

open Decimal

variable {raw digits : List Char} {n : Int} {x : Binary64}

/-! ## Integers -/

/-- The decimal of an integer: canonical digits, with a minus sign before them if it is below zero. -/
def IsDecimal (raw : List Char) (n : Int) : Prop :=
  ∃ digits, Canonical digits
    ∧ (raw = digits ∧ n = natural digits ∨ raw = '-' :: digits ∧ n = -natural digits ∧ n ≠ 0)

theorem natural_eq_ofDigitChars (digits : List Char) : natural digits = Nat.ofDigitChars 10 digits 0 := by
  simp only [natural, Nat.ofDigitChars_eq_foldl, Nat.mul_comm]

theorem natural_toDigits (m : Nat) : natural (Nat.toDigits 10 m) = m := by
  rw [natural_eq_ofDigitChars, Nat.ofDigitChars_ten_toDigits]

/-- The decimal of an integer is what it is written as. -/
theorem isDecimal_iff : IsDecimal raw n ↔ (toString n).toList = raw := by
  constructor
  · rintro ⟨digits, hdigits, ⟨rfl, rfl⟩ | ⟨rfl, rfl, hne⟩⟩
    · rw [toList_toString_natCast, natural_eq_ofDigitChars, hdigits.toDigits_ofDigitChars]
    · obtain ⟨m, hm⟩ : ∃ m, natural digits = m + 1 := ⟨natural digits - 1, by omega⟩
      have hneg : -(natural digits : Int) = Int.negSucc m := by omega
      rw [hneg, toList_toString_negSucc, ← hm, natural_eq_ofDigitChars, hdigits.toDigits_ofDigitChars]
  · rintro rfl
    cases n with
    | ofNat m =>
      refine ⟨_, canonical_toDigits m, .inl ⟨toList_toString_natCast m, ?_⟩⟩
      rw [natural_toDigits]
      rfl
    | negSucc m =>
      refine ⟨_, canonical_toDigits (m + 1), .inr ⟨toList_toString_negSucc m, ?_, Int.negSucc_ne_zero m⟩⟩
      rw [natural_toDigits]
      rfl

theorem signed_eq_self (h : '-' ∉ raw) : signed raw = (false, raw) := by
  unfold signed
  split
  · exact absurd List.mem_cons_self h
  · rfl

theorem dash_not_mem (h : ∀ c ∈ digits, Text.isAsciiDigit c = true) : '-' ∉ digits :=
  fun hmem => absurd (h '-' hmem) (by decide)

/-- The integers of 64 bits with a sign. -/
def InRange (n : Int) : Prop := -0x8000000000000000 ≤ n ∧ n < 0x8000000000000000

/-- An integer is read from its decimal and from nothing else, as long as it is in range. -/
theorem integer?_eq_some_iff : integer? raw = some n ↔ IsDecimal raw n ∧ InRange n := by
  constructor
  · intro h
    unfold integer? at h
    generalize signed raw = parts at h
    obtain ⟨negative, digits⟩ := parts
    dsimp only at h
    generalize (if negative = true then -(natural digits : Int) else natural digits) = m at h
    split at h
    · cases h
    · split at h
      · next hrange =>
        obtain rfl := Option.some.inj h
        exact ⟨isDecimal_iff.mpr hrange.2.2, hrange.1, hrange.2.1⟩
      · cases h
  · rintro ⟨hdecimal, hrange⟩
    have htext := isDecimal_iff.mp hdecimal
    obtain ⟨digits, hdigits, hraw⟩ := hdecimal
    have hall : (digits.isEmpty || !digits.all Text.isAsciiDigit) = false := by
      simpa [hdigits.nonempty] using hdigits.areDigits
    rcases hraw with ⟨rfl, rfl⟩ | ⟨rfl, rfl, -⟩
    · simp only [integer?, signed_eq_self (dash_not_mem hdigits.areDigits), hall, Bool.false_eq_true,
        if_false]
      exact if_pos ⟨hrange.1, hrange.2, htext⟩
    · simp only [integer?, signed, hall, Bool.false_eq_true, if_false]
      exact if_pos ⟨hrange.1, hrange.2, htext⟩

/-! ## Floating-point numbers -/

/-- What may stand in front of a number, and whether it makes the number negative. -/
inductive Sign : List Char → Bool → Prop where
  | absent : Sign [] false
  | plus : Sign ['+'] false
  | minus : Sign ['-'] true

/-- Digits with at most one point before, among or behind them, and how many of them stand behind it. -/
inductive Mantissa : List Char → List Char → Nat → Prop where
  | whole (digits : List Char) (h : digits ≠ []) : Mantissa digits digits 0
  | point (before behind : List Char) (h : before ++ behind ≠ []) :
    Mantissa (before ++ '.' :: behind) (before ++ behind) behind.length

/-- What may stand behind the digits: the power of ten that they count. -/
inductive Power : List Char → Int → Prop where
  | absent : Power [] 0
  | given (e : Char) (he : e = 'e' ∨ e = 'E') (sign : List Char) (negative : Bool)
    (hsign : Sign sign negative) (digits : List Char) (hdigits : digits ≠ [])
    (hall : ∀ c ∈ digits, Text.isAsciiDigit c = true) :
    Power (e :: (sign ++ digits)) (if negative then -natural digits else natural digits)

/-- The text spells a number that is next to this finite one. -/
def Spells (raw : List Char) (x : Binary64) : Prop :=
  ∃ sign mantissa power negative digits places exponent, raw = sign ++ (mantissa ++ power)
    ∧ Sign sign negative ∧ Mantissa mantissa digits places
    ∧ (∀ c ∈ digits, Text.isAsciiDigit c = true) ∧ Power power exponent
    ∧ Binary64.ofDecimal? negative (natural digits) (exponent - (places : Nat)) = some x

theorem mem_floatText {c : Char} (h : c ∈ floatText x) :
    c = '-' ∨ c = '.' ∨ Text.isAsciiDigit c = true := by
  unfold floatText at h
  dsimp only at h
  split at h
  · exact (List.mem_cons.mp h).imp_right mem_positional
  · exact .inr (mem_positional h)

/-- Digits that write a number other than zero are some. -/
theorem ne_nil_of_ofDecimal? {negative : Bool} {exponent : Int}
    (h : Binary64.ofDecimal? negative (natural digits) exponent = some x) (hx : x.isZero = false) :
    digits ≠ [] := by
  rintro rfl
  obtain rfl := Option.some.inj h
  cases negative <;> cases hx

theorem point_not_mem (h : ∀ c ∈ digits, Text.isAsciiDigit c = true) : '.' ∉ digits :=
  fun hmem => absurd (h '.' hmem) (by decide)

/-- What is cut at its first point are the digits of a mantissa. -/
theorem Mantissa.of_cut (cs : List Char) :
    ∃ before behind, (Text.cut? '.' cs).getD (cs, []) = (before, behind)
      ∧ (before ++ behind ≠ [] → Mantissa cs (before ++ behind) behind.length) := by
  cases hcut : Text.cut? '.' cs with
  | none => exact ⟨cs, [], rfl, by simpa using Mantissa.whole cs⟩
  | some parts =>
    obtain ⟨before, behind⟩ := parts
    obtain ⟨rfl, -⟩ := Text.cut?_eq_some_iff.mp hcut
    exact ⟨before, behind, rfl, Mantissa.point before behind⟩

/-- The digits of a mantissa are what it is cut into at its point; there is no minus sign among them. -/
theorem Mantissa.cut {cs : List Char} {places : Nat} (h : Mantissa cs digits places)
    (hall : ∀ c ∈ digits, Text.isAsciiDigit c = true) :
    '-' ∉ cs ∧ ∃ before behind, (Text.cut? '.' cs).getD (cs, []) = (before, behind)
      ∧ digits = before ++ behind ∧ places = behind.length := by
  cases h with
  | whole _ hne =>
    refine ⟨dash_not_mem hall, digits, [], ?_, (List.append_nil digits).symm, rfl⟩
    rw [Text.cut?_eq_none_iff.mpr (point_not_mem hall)]
    rfl
  | point before behind hne =>
    have hdash := dash_not_mem hall
    have hbefore := point_not_mem fun c hc => hall c (List.mem_append_left behind hc)
    refine ⟨by simpa using hdash, before, behind, ?_, rfl, rfl⟩
    rw [Text.cut?_eq_some_iff.mpr ⟨rfl, hbefore⟩]
    rfl

/-- A number that is read is spelled, without a sign that does nothing and without an exponent. -/
theorem spells_of_float? (h : float? raw = some x) :
    Spells raw x ∧ x.isZero = false ∧ floatText x = raw := by
  obtain ⟨sign, unsigned, negative, hsign, hraw, hsigned⟩ : ∃ sign unsigned negative,
      Sign sign negative ∧ raw = sign ++ unsigned ∧ signed raw = (negative, unsigned) := by
    unfold signed
    split
    · exact ⟨['-'], _, true, .minus, rfl, rfl⟩
    · exact ⟨[], raw, false, .absent, rfl, rfl⟩
  obtain ⟨before, behind, hcut, hmantissa⟩ := Mantissa.of_cut unsigned
  simp only [float?, hsigned, hcut] at h
  split at h
  · cases h
  · next hall =>
    have hdigits : ∀ c ∈ before ++ behind, Text.isAsciiDigit c = true := by
      rwa [Bool.not_eq_true, Bool.not_eq_false', List.all_eq_true] at hall
    split at h
    · next y hread =>
      split at h
      · next hy =>
        obtain rfl := Option.some.inj h
        have hzero : y.isZero = false := by simpa using hy.1
        have hne := ne_nil_of_ofDecimal? hread hzero
        refine ⟨⟨sign, unsigned, [], negative, _, _, 0, by simpa using hraw, hsign, hmantissa hne,
          hdigits, .absent, ?_⟩, hzero, hy.2⟩
        rwa [Int.zero_sub]
      · cases h
    · cases h

/-- What a number is written as has no plus sign and no exponent in it. -/
theorem plain_of_mem_floatText {c : Char} (h : c ∈ floatText x) : c ≠ '+' ∧ ¬ (c = 'e' ∨ c = 'E') := by
  rcases mem_floatText h with rfl | rfl | hdigit
  · decide
  · decide
  · refine ⟨?_, ?_⟩
    · rintro rfl
      exact absurd hdigit (by decide)
    · rintro (rfl | rfl) <;> exact absurd hdigit (by decide)

/-- A number is read if it is spelled as it is written. -/
theorem float?_of_spells (h : Spells raw x) (hzero : x.isZero = false) (htext : floatText x = raw) :
    float? raw = some x := by
  obtain ⟨sign, mantissa, power, negative, digits, places, exponent, hraw, hsign, hmantissa, hall, hpower,
    hread⟩ := h
  have hplain (c : Char) (hc : c ∈ raw) : c ≠ '+' ∧ ¬ (c = 'e' ∨ c = 'E') :=
    plain_of_mem_floatText (htext ▸ hc)
  obtain ⟨rfl, rfl⟩ : power = [] ∧ exponent = 0 := by
    cases hpower with
    | absent => exact ⟨rfl, rfl⟩
    | given e he => exact absurd he (hplain e (by simp [hraw])).2
  rw [List.append_nil] at hraw
  rw [Int.zero_sub] at hread
  obtain ⟨hdash, before, behind, hcut, rfl, rfl⟩ := hmantissa.cut hall
  have hsigned : signed raw = (negative, mantissa) := by
    cases hsign with
    | absent =>
      rw [hraw]
      exact signed_eq_self hdash
    | plus => exact absurd rfl (hplain '+' (by simp [hraw])).1
    | minus =>
      rw [hraw]
      rfl
  have hdigits : (!(before ++ behind).all Text.isAsciiDigit) = false := by
    rwa [Bool.not_eq_false', List.all_eq_true]
  simp only [float?, hsigned, hcut, hdigits, hread]
  simp [hzero, htext]

theorem float?_eq_some_iff : float? raw = some x ↔ Spells raw x ∧ x.isZero = false ∧ floatText x = raw :=
  ⟨spells_of_float?, fun ⟨hspells, hzero, htext⟩ => float?_of_spells hspells hzero htext⟩

/-! ## Arrays and objects -/

/-- The text starts and ends with a pair of brackets. -/
def InBrackets (raw : List Char) : Prop :=
  ∃ middle, raw = '[' :: (middle ++ [']']) ∨ raw = '\x7b' :: (middle ++ ['\x7d'])

theorem exists_middle_iff {first last : Char} (h : first ≠ last) :
    raw.head? = some first ∧ raw.getLast? = some last ↔ ∃ middle, raw = first :: (middle ++ [last]) := by
  constructor
  · rintro ⟨hhead, hlast⟩
    cases raw with
    | nil => cases hhead
    | cons c rest =>
      obtain rfl := Option.some.inj hhead
      rcases List.eq_nil_or_concat rest with rfl | ⟨middle, d, rfl⟩
      · exact absurd (Option.some.inj hlast) h
      · rw [List.concat_eq_append, ← List.cons_append, List.getLast?_concat] at hlast
        exact ⟨middle, by rw [List.concat_eq_append, Option.some.inj hlast]⟩
  · rintro ⟨middle, rfl⟩
    exact ⟨rfl, by rw [← List.cons_append, List.getLast?_concat]⟩

theorem isBracketed_iff : isBracketed raw = true ↔ InBrackets raw := by
  simp only [isBracketed, Bool.or_eq_true, Bool.and_eq_true, beq_iff_eq]
  rw [exists_middle_iff (by decide), exists_middle_iff (by decide), or_comm, InBrackets, exists_or]

/-- A number is not in brackets. -/
theorem not_inBrackets_of_numeric (h : ∀ c ∈ raw, c = '-' ∨ c = '.' ∨ Text.isAsciiDigit c = true) :
    ¬ InBrackets raw := by
  rintro ⟨middle, rfl | rfl⟩
  · exact absurd (h '[' List.mem_cons_self) (by decide)
  · exact absurd (h '\x7b' List.mem_cons_self) (by decide)

theorem IsDecimal.numeric (h : IsDecimal raw n) {c : Char} (hc : c ∈ raw) :
    c = '-' ∨ c = '.' ∨ Text.isAsciiDigit c = true := by
  obtain ⟨digits, hdigits, ⟨rfl, -⟩ | ⟨rfl, -⟩⟩ := h
  · exact .inr (.inr (hdigits.areDigits c hc))
  · exact (List.mem_cons.mp hc).imp_right fun hc => .inr (hdigits.areDigits c hc)

theorem container?_eq_some_iff {raw : String} {v : Json} :
    container? raw = some v ↔ InBrackets raw.toList ∧ Json.read raw = .ok v := by
  rw [← isBracketed_iff, container?]
  split
  · next h =>
    cases hread : Json.read raw with
    | error e => simp [h, Except.toOption]
    | ok w => simp [h, Except.toOption]
  · next h => simp [h]


/-- What is read from a text in brackets is an array or an object. -/
theorem InBrackets.isContainer {raw : String} {v : Json} (h : InBrackets raw.toList)
    (hread : Json.read raw = .ok v) : v.IsContainer := by
  obtain ⟨written, c, hwritten, rfl⟩ := Json.exists_of_read hread
  refine Json.IsContainer.arrange ?_
  obtain ⟨middle, hraw | hraw⟩ := h
  all_goals
    rw [Utf8.encode, hraw] at hwritten
  · exact Json.isContainer_of_readValue (.inl rfl) hwritten
  · exact Json.isContainer_of_readValue (.inr rfl) hwritten

/-! ## Values -/

/-- The words that are values of their own. -/
def words : List String := ["true", "false", "null"]

theorem numbers_of_mem_words :
    ∀ word ∈ words, integer? word.toList = none ∧ float? word.toList = none := by
  decide

theorem isBracketed_of_mem_words : ∀ word ∈ words, isBracketed word.toList = false := by
  decide

/-- What a text stands for, by the kind of text that it is. -/
inductive Stands (raw : String) : Json → Prop where
  | yes (h : raw = "true") : Stands raw (.bool true)
  | no (h : raw = "false") : Stands raw (.bool false)
  | nothing (h : raw = "null") : Stands raw .null
  | integer (n : Int) (hn : -0x8000000000000000 ≤ n ∧ n < 0x10000000000000000)
    (hread : integer? raw.toList = some n) : Stands raw (.num (.int n hn))
  | float (x : Binary64) (hinteger : integer? raw.toList = none) (hread : float? raw.toList = some x) :
    Stands raw (.num (.float x))
  | container (v : Json) (hread : container? raw = some v) : Stands raw v
  | text (hword : raw ∉ words) (hinteger : integer? raw.toList = none) (hfloat : float? raw.toList = none)
    (hcontainer : container? raw = none) : Stands raw (.str raw)

theorem bind_ofInt?_of_integer? (h : integer? raw = some n)
    (hn : -0x8000000000000000 ≤ n ∧ n < 0x10000000000000000) :
    (integer? raw).bind Json.ofInt? = some (.num (.int n hn)) := by
  rw [h]
  exact dif_pos hn

theorem stands_decode (raw : String) : Stands raw (decode raw) := by
  unfold decode
  split
  · next h => exact .yes h
  · next hyes =>
    split
    · next h => exact .no h
    · next hno =>
      split
      · next h => exact .nothing h
      · next hnothing =>
        cases hinteger : integer? raw.toList with
        | some n =>
          obtain ⟨-, hlow, hhigh⟩ := integer?_eq_some_iff.mp hinteger
          have hn : -0x8000000000000000 ≤ n ∧ n < 0x10000000000000000 := by omega
          rw [← hinteger, bind_ofInt?_of_integer? hinteger hn]
          exact .integer n hn hinteger
        | none =>
          cases hfloat : float? raw.toList with
          | some x => exact .float x hinteger hfloat
          | none =>
            cases hcontainer : container? raw with
            | some v => exact .container v hcontainer
            | none => exact .text (by simp [words, *]) hinteger hfloat hcontainer

/-- What is no word is decoded as a number, an array, an object or a text. -/
theorem decode_of_not_mem_words {raw : String} (h : raw ∉ words) :
    decode raw = match (integer? raw.toList).bind Json.ofInt? with
      | some n => n
      | none => match float? raw.toList with
        | some x => .num (.float x)
        | none => (container? raw).getD (.str raw) := by
  simp only [words, List.mem_cons, List.not_mem_nil, or_false, not_or] at h
  obtain ⟨hyes, hno, hnothing⟩ := h
  exact (if_neg hyes).trans ((if_neg hno).trans (if_neg hnothing))

/-- A text stands for the value that it is decoded to and for no other. -/
theorem decode_eq_iff {raw : String} {v : Json} : decode raw = v ↔ Stands raw v := by
  refine ⟨fun h => h ▸ stands_decode raw, fun h => ?_⟩
  cases h with
  | yes h => rw [h, decode, if_pos rfl]
  | no h => rw [h]; rfl
  | nothing h => rw [h]; rfl
  | integer n hn hread =>
    have hword : raw ∉ words := fun hmem => by simp [(numbers_of_mem_words raw hmem).1] at hread
    rw [decode_of_not_mem_words hword, bind_ofInt?_of_integer? hread hn]
  | float x hinteger hread =>
    have hword : raw ∉ words := fun hmem => by simp [(numbers_of_mem_words raw hmem).2] at hread
    rw [decode_of_not_mem_words hword, hinteger, hread]
    rfl
  | container v hread =>
    -- A text in brackets is neither a word nor a number, so that the readers before this one refuse it.
    obtain ⟨hbrackets, -⟩ := container?_eq_some_iff.mp hread
    have hword : raw ∉ words := fun hmem => by
      have hfalse := isBracketed_of_mem_words raw hmem
      rw [isBracketed_iff.mpr hbrackets] at hfalse
      cases hfalse
    have hinteger : integer? raw.toList = none := by
      rw [Option.eq_none_iff_forall_ne_some]
      intro n hn
      exact not_inBrackets_of_numeric (fun c hc => (integer?_eq_some_iff.mp hn).1.numeric hc) hbrackets
    have hfloat : float? raw.toList = none := by
      rw [Option.eq_none_iff_forall_ne_some]
      intro x hx
      obtain ⟨-, -, htext⟩ := float?_eq_some_iff.mp hx
      exact not_inBrackets_of_numeric (fun c hc => mem_floatText (htext ▸ hc)) hbrackets
    rw [decode_of_not_mem_words hword, hinteger, hfloat, hread]
    rfl
  | text hword hinteger hfloat hcontainer =>
    rw [decode_of_not_mem_words hword, hinteger, hfloat, hcontainer]
    rfl

/-! ## Encoding -/

/-- The text that a value other than an array or an object is encoded to. -/
def scalarText? : Json → Option String
  | .null => some "null"
  | .bool true => some "true"
  | .bool false => some "false"
  | .num (.int n _) => some (toString n)
  | .num (.float x) => some (String.ofList (floatText x))
  | .str s => some s
  | .arr _ | .obj _ => none

/-- What a text stands for is encoded to that very text, unless it is an array or an object. -/
theorem Stands.scalarText? {raw : String} {v : Json} (h : Stands raw v) (hv : ¬ v.IsContainer) :
    scalarText? v = some raw := by
  cases h with
  | yes h => rw [h]; rfl
  | no h => rw [h]; rfl
  | nothing h => rw [h]; rfl
  | integer n hn hread =>
    have htext := isDecimal_iff.mp (integer?_eq_some_iff.mp hread).1
    exact congrArg some (String.toList_inj.mp htext)
  | float x hinteger hread =>
    obtain ⟨-, -, htext⟩ := float?_eq_some_iff.mp hread
    exact congrArg some (by rw [htext, String.ofList_toList])
  | container v hread =>
    obtain ⟨hbrackets, hread⟩ := container?_eq_some_iff.mp hread
    exact absurd (hbrackets.isContainer hread) hv
  | text => rfl

/-- A value other than an array or an object is decoded from one text. -/
theorem decode_eq_iff_eq {raw text : String} {v : Json} (hv : ¬ v.IsContainer) (h : Stands text v) :
    decode raw = v ↔ raw = text := by
  constructor
  · intro hraw
    have hsame := (decode_eq_iff.mp hraw).scalarText? hv
    rw [h.scalarText? hv] at hsame
    exact (Option.some.inj hsame).symm
  · rintro rfl
    exact decode_eq_iff.mpr h

/-- The text of an array or an object is in brackets. -/
theorem inBrackets_text {v : Json} (h : v.IsContainer) : InBrackets v.text.toList := by
  rw [Json.text, String.toList_ofList]
  obtain ⟨items, rfl⟩ | ⟨members, rfl⟩ := h
  · exact ⟨_, .inl rfl⟩
  · exact ⟨_, .inr rfl⟩

theorem decode_eq_int_iff {raw : String} {n : Int} :
    (∃ hn, decode raw = .num (.int n hn)) ↔ IsDecimal raw.toList n ∧ InRange n := by
  rw [← integer?_eq_some_iff]
  constructor
  · rintro ⟨hn, h⟩
    cases decode_eq_iff.mp h with
    | integer _ _ hread => exact hread
    | container _ hread =>
      obtain ⟨hbrackets, hread⟩ := container?_eq_some_iff.mp hread
      exact absurd (hbrackets.isContainer hread) Json.not_isContainer_num
  · intro hread
    obtain ⟨-, hlow, hhigh⟩ := integer?_eq_some_iff.mp hread
    exact ⟨⟨hlow, by omega⟩, decode_eq_iff.mpr (.integer n _ hread)⟩

theorem decode_eq_float_iff {raw : String} {x : Binary64} :
    decode raw = .num (.float x) ↔ integer? raw.toList = none ∧ float? raw.toList = some x := by
  constructor
  · intro h
    cases decode_eq_iff.mp h with
    | float _ hinteger hread => exact ⟨hinteger, hread⟩
    | container _ hread =>
      obtain ⟨hbrackets, hread⟩ := container?_eq_some_iff.mp hread
      exact absurd (hbrackets.isContainer hread) Json.not_isContainer_num
  · rintro ⟨hinteger, hread⟩
    exact decode_eq_iff.mpr (.float x hinteger hread)

theorem isContainer_decode_iff {raw : String} :
    (decode raw).IsContainer ↔ InBrackets raw.toList ∧ ∃ v, Json.read raw = .ok v := by
  constructor
  · intro h
    generalize hv : decode raw = v at h
    cases decode_eq_iff.mp hv with
    | container v hread => exact (container?_eq_some_iff.mp hread).imp_right fun hread => ⟨v, hread⟩
    | yes | no | nothing | integer | float | text =>
      obtain ⟨items, h⟩ | ⟨members, h⟩ := h <;> cases h
  · rintro ⟨hbrackets, v, hread⟩
    rw [decode_eq_iff.mpr (.container v (container?_eq_some_iff.mpr ⟨hbrackets, hread⟩))]
    exact hbrackets.isContainer hread

/-- No integer in range: the text is none that decodes to an integer. -/
theorem integer?_eq_none_iff : integer? raw = none ↔ ∀ n, ¬ (IsDecimal raw n ∧ InRange n) := by
  rw [Option.eq_none_iff_forall_ne_some]
  exact forall_congr' fun n => not_congr integer?_eq_some_iff

theorem float?_eq_none_iff :
    float? raw = none ↔ ∀ x, ¬ (Spells raw x ∧ x.isZero = false ∧ floatText x = raw) := by
  rw [Option.eq_none_iff_forall_ne_some]
  exact forall_congr' fun x => not_congr float?_eq_some_iff

/-- Decoding loses nothing. A value that is neither an array nor an object is encoded to the text that it
was decoded from, and no other text is decoded to it. A text is an integer if it is the decimal of one that
is in range, any other number if it is spelled as that number is written, and an array or an object if it is
in brackets and can be read; what is not one of these or a word stays as it is. An array or an object within
the nesting limit is decoded from its text, provided that the reader gives back the numbers in it that are no
integers. -/
theorem decode_lossless (raw : String) :
    (¬ (decode raw).IsContainer → scalarText? (decode raw) = some raw)
    ∧ (∀ other, ¬ (decode raw).IsContainer → decode other = decode raw → other = raw)
    ∧ (decode raw = .bool true ↔ raw = "true")
    ∧ (decode raw = .bool false ↔ raw = "false")
    ∧ (decode raw = .null ↔ raw = "null")
    ∧ (∀ n, (∃ hn, decode raw = .num (.int n hn)) ↔ IsDecimal raw.toList n ∧ InRange n)
    ∧ (∀ x, decode raw = .num (.float x) ↔ (∀ n, ¬ (IsDecimal raw.toList n ∧ InRange n))
      ∧ Spells raw.toList x ∧ x.isZero = false ∧ floatText x = raw.toList)
    ∧ ((decode raw).IsContainer ↔ InBrackets raw.toList ∧ ∃ v, Json.read raw = .ok v)
    ∧ (∀ v, (decode raw).IsContainer → Json.read raw = .ok v → decode raw = v)
    ∧ (raw ∉ words → (∀ n, ¬ (IsDecimal raw.toList n ∧ InRange n)) →
      (∀ x, ¬ (Spells raw.toList x ∧ x.isZero = false ∧ floatText x = raw.toList)) →
      ¬ (InBrackets raw.toList ∧ ∃ v, Json.read raw = .ok v) → decode raw = .str raw)
    ∧ ∀ v, v.IsContainer → v.Ordered → v.nesting ≤ Json.nestingLimit → (∀ x ∈ v.floats, Json.GivesBack x) →
      decode v.text = v := by
  have hcontainer {other : String} {v : Json} (hbrackets : InBrackets other.toList)
      (hread : Json.read other = .ok v) : decode other = v :=
    decode_eq_iff.mpr (.container v (container?_eq_some_iff.mpr ⟨hbrackets, hread⟩))
  refine ⟨(stands_decode raw).scalarText?, ?_, ?_, ?_, ?_, fun n => decode_eq_int_iff, ?_,
    isContainer_decode_iff, ?_, ?_, ?_⟩
  · intro other hraw hsame
    exact (decode_eq_iff_eq hraw (stands_decode raw)).mp hsame
  · exact decode_eq_iff_eq (by simp [Json.IsContainer]) (.yes rfl)
  · exact decode_eq_iff_eq (by simp [Json.IsContainer]) (.no rfl)
  · exact decode_eq_iff_eq (by simp [Json.IsContainer]) (.nothing rfl)
  · intro x
    rw [decode_eq_float_iff, integer?_eq_none_iff, float?_eq_some_iff]
  · intro v hdecode hread
    exact hcontainer (isContainer_decode_iff.mp hdecode).1 hread
  · intro hword hinteger hfloat hnone
    have hcontainer : container? raw = none := by
      rw [Option.eq_none_iff_forall_ne_some]
      intro v hv
      obtain ⟨hbrackets, hread⟩ := container?_eq_some_iff.mp hv
      exact hnone ⟨hbrackets, v, hread⟩
    exact decode_eq_iff.mpr (.text hword (integer?_eq_none_iff.mpr hinteger)
      (float?_eq_none_iff.mpr hfloat) hcontainer)
  · intro v hv hordered hnesting hfloats
    exact hcontainer (inBrackets_text hv) (Json.read_text hordered hnesting hfloats)

/-- One half. -/
def half : Binary64 := ⟨0x3FE0000000000000, by decide⟩

/-- An array of an integer, one half, and an object with a text in it. -/
def sample : Json :=
  .arr [.num (.int 1 (by decide)), .num (.float half), .obj [("key", .str "a \x22b\x22")]]

/-- A fraction is encoded as it was written, an array is decoded from its text, and a bracket that is not
closed stays text. -/
theorem decode_lossless_of_fraction :
    scalarText? (decode "0.5") = some "0.5" ∧ decode sample.text = sample ∧ decode "[1" = .str "[1" := by
  refine ⟨(decode_lossless "0.5").1 ?_, ?_, ?_⟩
  · rw [isContainer_decode_iff, ← isBracketed_iff]
    rintro ⟨h, -⟩
    revert h
    decide
  · obtain ⟨-, -, -, -, -, -, -, -, -, -, hread⟩ := decode_lossless ""
    have hhalf : Json.GivesBack half := by
      unfold Json.GivesBack
      decide +kernel
    have hfloats : ∀ x ∈ sample.floats, Json.GivesBack x := fun x hx => (List.mem_singleton.mp hx) ▸ hhalf
    exact hread sample (.inl ⟨_, rfl⟩) (by decide) (by decide) hfloats
  · obtain ⟨-, -, -, -, -, -, -, -, -, htext, -⟩ := decode_lossless "[1"
    refine htext (by decide) (integer?_eq_none_iff.mp (by decide)) (float?_eq_none_iff.mp (by decide)) ?_
    rw [← isBracketed_iff]
    rintro ⟨h, -⟩
    revert h
    decide

end Gleaner.Dataset
