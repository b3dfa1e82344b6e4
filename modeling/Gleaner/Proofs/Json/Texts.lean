import Gleaner.Json.Printer
import Gleaner.Proofs.Json.Cursor

set_option autoImplicit false

/-! # Quoted texts are read back

A character of a quoted text is escaped by a letter, by its number, or not at all (`Json.escapeChar_cases`),
and the reader takes each of these for the character (`Json.readText_escapeChar`). -/

namespace Gleaner.Json

variable {rest : Bytes}

/-! ## Escapes -/

/-- A byte that stands for itself in a quoted text. -/
def IsPlain (b : UInt8) : Prop := b ≠ 34 ∧ b ≠ 92 ∧ ¬ b < 32

theorem readText_plain {bytes : Bytes} (hplain : ∀ b ∈ bytes, IsPlain b) (fuel : Nat) (taken : Bytes)
    (line column : Nat) : ∃ line' column', readText (fuel + bytes.length) taken ⟨bytes ++ rest, line, column⟩
      = readText fuel (bytes.reverse ++ taken) ⟨rest, line', column'⟩ := by
  induction bytes generalizing taken line column with
  | nil => exact ⟨line, column, rfl⟩
  | cons b more ih =>
    obtain ⟨⟨hquote, hescape, hcontrol⟩, hmore⟩ := List.forall_mem_cons.mp hplain
    obtain ⟨line₁, column₁, hnext⟩ := next?_cons b (more ++ rest) line column
    obtain ⟨line', column', hread⟩ := ih hmore (b :: taken) line₁ column₁
    refine ⟨line', column', ?_⟩
    rw [List.length_cons, ← Nat.add_assoc, List.cons_append, readText, hnext]
    simp only [beq_iff_eq, if_neg hquote, if_neg hescape, if_neg hcontrol, hread, List.reverse_cons,
      List.append_assoc, List.singleton_append]

/-- The bytes of the number of a control character in hexadecimal digits. -/
def hexBytes (n : Nat) : Bytes :=
  [48, 48, .ofNat (Nat.digitChar (n / 16)).toNat, .ofNat (Nat.digitChar (n % 16)).toNat]

theorem hexDigits_of_control : ∀ n < 32,
    ((hexBytes n).mapM readHex.hexValue?).map (·.foldl (fun m d => m * 16 + d) 0) = some n := by
  decide

theorem readCodePoint_control {n : Nat} (hn : n < 32) (line column : Nat) :
    readCodePoint ⟨hexBytes n ++ rest, line, column⟩ = .ok (n, ⟨rest, line, column + 4⟩) := by
  obtain ⟨digits, hdigits, hvalue⟩ := Option.map_eq_some_iff.mp (hexDigits_of_control n hn)
  have hhex : readHex ⟨hexBytes n ++ rest, line, column⟩ = .ok (n, ⟨rest, line, column + 4⟩) := by
    unfold hexBytes at hdigits ⊢
    unfold readHex
    simp only [List.cons_append, List.nil_append, hdigits, hvalue]
  unfold readCodePoint
  rw [hhex]
  exact (if_neg (by omega)).trans (if_pos (by omega))

/-- A letter behind a backslash is read as the bytes that it stands for. -/
theorem readText_escape {e : UInt8} {more value : Bytes}
    (hread : ∀ line column, ∃ line' column', readEscape ⟨e :: (more ++ rest), line, column⟩
      = .ok (value, ⟨rest, line', column'⟩)) (fuel : Nat) (taken : Bytes) (line column : Nat) :
    ∃ line' column', readText (fuel + 1) taken ⟨92 :: e :: (more ++ rest), line, column⟩
      = readText fuel (value.reverse ++ taken) ⟨rest, line', column'⟩ := by
  obtain ⟨line₁, column₁, hnext⟩ := next?_cons 92 (e :: (more ++ rest)) line column
  obtain ⟨line', column', hescape⟩ := hread line₁ column₁
  refine ⟨line', column', ?_⟩
  rw [readText, hnext]
  have h34 : ¬ (92 : UInt8) == 34 := by decide
  have h92 : (92 : UInt8) == 92 := by decide
  simp only [if_neg h34, if_pos h92, hescape]
  rfl

/-- The characters that a letter behind a backslash stands for. -/
def escapes : List (Char × Char) :=
  [('\x22', '\x22'), ('\\', '\\'), ('\n', 'n'), ('\r', 'r'), ('\t', 't'), ('\x08', 'b'), ('\x0c', 'f')]

theorem readEscape_letter {c letter : Char} (h : (c, letter) ∈ escapes) (line column : Nat) :
    ∃ line' column', readEscape ⟨.ofNat letter.toNat :: ([] ++ rest), line, column⟩
      = .ok (Utf8.encodeChar c, ⟨rest, line', column'⟩) := by
  simp only [escapes, List.mem_cons, Prod.mk.injEq, List.not_mem_nil, or_false] at h
  rcases h with ⟨rfl, rfl⟩ | ⟨rfl, rfl⟩ | ⟨rfl, rfl⟩ | ⟨rfl, rfl⟩ | ⟨rfl, rfl⟩ | ⟨rfl, rfl⟩ | ⟨rfl, rfl⟩
  all_goals exact ⟨_, _, rfl⟩

theorem readEscape_control {n : Nat} (hn : n < 32) (line column : Nat) :
    ∃ line' column', readEscape ⟨117 :: (hexBytes n ++ rest), line, column⟩
      = .ok (Utf8.encodeChar (Char.ofNat n), ⟨rest, line', column'⟩) := by
  obtain ⟨line₁, column₁, hnext⟩ := next?_cons 117 (hexBytes n ++ rest) line column
  refine ⟨line₁, column₁ + 4, ?_⟩
  unfold readEscape
  rw [hnext]
  change (readCodePoint ⟨hexBytes n ++ rest, line₁, column₁⟩).map _ = _
  rw [readCodePoint_control hn]
  rfl

theorem isPlain_of_mem_encodeChar {c : Char} (hquote : c ≠ '\x22') (hbackslash : c ≠ '\\')
    (hcontrol : ¬ c.toNat < 32) {b : UInt8} (hb : b ∈ Utf8.encodeChar c) : IsPlain b := by
  by_cases hascii : c.toNat < 0x80
  · rw [Utf8.encodeChar_ascii hascii, List.mem_singleton] at hb
    have hbyte : b.toNat = c.toNat := by rw [hb, Utf8.toNat_ofNat (by omega)]
    refine ⟨?_, ?_, ?_⟩
    · rintro rfl
      exact hquote (Char.toNat_inj.mp hbyte.symm)
    · rintro rfl
      exact hbackslash (Char.toNat_inj.mp hbyte.symm)
    · rw [UInt8.lt_iff_toNat_lt, hbyte]
      exact hcontrol
  · have hlow := Utf8.le_toNat_of_mem_encodeChar hascii hb
    refine ⟨?_, ?_, ?_⟩
    · rintro rfl
      exact absurd hlow (by decide)
    · rintro rfl
      exact absurd hlow (by decide)
    · rw [UInt8.lt_iff_toNat_lt]
      exact Nat.not_lt.mpr (Nat.le_trans (by decide) hlow)

/-- A character of a quoted text is escaped by a letter or by its number, or it stands for itself. -/
theorem escapeChar_cases (c : Char) :
    (∃ letter, (c, letter) ∈ escapes ∧ escapeChar c = ['\\', letter])
      ∨ c.toNat < 32
        ∧ escapeChar c = ['\\', 'u', '0', '0', Nat.digitChar (c.toNat / 16), Nat.digitChar (c.toNat % 16)]
      ∨ c ≠ '\x22' ∧ c ≠ '\\' ∧ ¬ c.toNat < 32 ∧ escapeChar c = [c] := by
  by_cases hletter : ∃ letter, (c, letter) ∈ escapes
  · obtain ⟨letter, hmem⟩ := hletter
    refine .inl ⟨letter, hmem, ?_⟩
    have hall : ∀ p ∈ escapes, escapeChar p.1 = ['\\', p.2] := by decide
    exact hall _ hmem
  · have hne {d : Char} (letter : Char) (hd : (d, letter) ∈ escapes) : ¬ (c == d) = true := fun heq =>
      hletter ⟨letter, (beq_iff_eq.mp heq) ▸ hd⟩
    refine .inr ?_
    unfold escapeChar
    rw [if_neg (hne '\x22' (by decide)), if_neg (hne '\\' (by decide)), if_neg (hne 'n' (by decide)),
      if_neg (hne 'r' (by decide)), if_neg (hne 't' (by decide)), if_neg (hne 'b' (by decide)),
      if_neg (hne 'f' (by decide))]
    split
    · next hcontrol => exact .inl ⟨hcontrol, rfl⟩
    · next hcontrol =>
      exact .inr ⟨fun h => hne '\x22' (by decide) (beq_iff_eq.mpr h),
        fun h => hne '\\' (by decide) (beq_iff_eq.mpr h), hcontrol, rfl⟩

theorem spelled_control : ∀ n < 32,
    spelled ['\\', 'u', '0', '0', Nat.digitChar (n / 16), Nat.digitChar (n % 16)]
      = 92 :: 117 :: (hexBytes n ++ []) := by
  decide

theorem spelled_letter : ∀ p ∈ escapes, spelled ['\\', p.2] = [92, .ofNat p.2.toNat] := by
  decide

/-- One character of a quoted text is taken, however it is escaped. -/
theorem readText_escapeChar (c : Char) (rest : Bytes) {fuel : Nat}
    (hfuel : (spelled (escapeChar c)).length ≤ fuel) (taken : Bytes) (line column : Nat) :
    ∃ fuel' line' column', fuel ≤ fuel' + (spelled (escapeChar c)).length
      ∧ readText fuel taken ⟨spelled (escapeChar c) ++ rest, line, column⟩
        = readText fuel' ((Utf8.encodeChar c).reverse ++ taken) ⟨rest, line', column'⟩ := by
  rcases escapeChar_cases c with
    ⟨letter, hmem, hescape⟩ | ⟨hcontrol, hescape⟩ | ⟨hquote, hbackslash, hcontrol, hescape⟩
  · rw [hescape, spelled_letter _ hmem] at hfuel ⊢
    obtain ⟨fuel, rfl⟩ := Nat.exists_eq_add_one.mpr (Nat.lt_of_lt_of_le Nat.zero_lt_two hfuel)
    obtain ⟨line', column', hread⟩ := readText_escape (readEscape_letter hmem) fuel taken line column
    exact ⟨fuel, line', column', Nat.le_succ _, hread⟩
  · rw [hescape, spelled_control _ hcontrol] at hfuel ⊢
    obtain ⟨fuel, rfl⟩ := Nat.exists_eq_add_one.mpr (Nat.lt_of_lt_of_le (Nat.succ_pos _) hfuel)
    obtain ⟨line', column', hread⟩ := readText_escape (readEscape_control hcontrol) fuel taken line column
    rw [Char.ofNat_toNat] at hread
    refine ⟨fuel, line', column', Nat.add_le_add_left (Nat.succ_pos _) fuel, ?_⟩
    rw [List.append_nil]
    exact hread
  · have hspelled : spelled [c] = Utf8.encodeChar c := List.flatMap_singleton ..
    rw [hescape, hspelled] at hfuel ⊢
    obtain ⟨fuel', rfl⟩ := Nat.exists_eq_add_of_le' hfuel
    obtain ⟨line', column', hread⟩ :=
      readText_plain (fun b => isPlain_of_mem_encodeChar hquote hbackslash hcontrol) fuel' taken line column
    exact ⟨fuel', line', column', Nat.le_refl _, hread⟩

/-- A quoted text is read as the text, from behind its opening quote on. -/
theorem readText_escaped {cs : List Char} {fuel : Nat} {taken : Bytes} {s : String}
    (hfuel : (spelled (cs.flatMap escapeChar)).length < fuel)
    (hs : Utf8.decode? (taken.reverse ++ cs.flatMap Utf8.encodeChar) = some s) (line column : Nat) :
    ∃ line' column', readText fuel taken ⟨spelled (cs.flatMap escapeChar) ++ 34 :: rest, line, column⟩
      = .ok (s, ⟨rest, line', column'⟩) := by
  induction cs generalizing fuel taken line column with
  | nil =>
    obtain ⟨fuel, rfl⟩ := Nat.exists_eq_add_one.mpr hfuel
    obtain ⟨line', column', hnext⟩ := next?_cons 34 rest line column
    rw [List.flatMap_nil, List.append_nil] at hs
    refine ⟨line', column', ?_⟩
    change readText (fuel + 1) taken ⟨34 :: rest, line, column⟩ = _
    rw [readText, hnext]
    simp [hs]
  | cons c more ih =>
    rw [List.flatMap_cons, spelled_append, List.length_append] at hfuel
    obtain ⟨fuel', line₁, column₁, hless, hread⟩ :=
      readText_escapeChar c (spelled (more.flatMap escapeChar) ++ 34 :: rest)
        (Nat.le_of_lt (Nat.lt_of_le_of_lt (Nat.le_add_right _ _) hfuel)) taken line column
    have hmore : Utf8.decode? (((Utf8.encodeChar c).reverse ++ taken).reverse ++ more.flatMap Utf8.encodeChar)
        = some s := by
      rw [List.reverse_append, List.reverse_reverse, List.append_assoc, ← List.flatMap_cons]
      exact hs
    have hleft : (spelled (more.flatMap escapeChar)).length < fuel' := by omega
    obtain ⟨line', column', hrest⟩ := ih hleft hmore line₁ column₁
    refine ⟨line', column', ?_⟩
    rw [List.flatMap_cons, spelled_append, List.append_assoc, hread, hrest]

theorem spelled_quote (s : String) :
    spelled (quote s) = 34 :: (spelled (s.toList.flatMap escapeChar) ++ [34]) := by
  rw [quote, spelled_cons_ascii (by decide), spelled_append]
  rfl

/-- A text is read from its quoted form. -/
theorem readQuoted_quote (s : String) (rest : Bytes) (line column : Nat) :
    ∃ line' column', readQuoted ⟨spelled (quote s) ++ rest, line, column⟩
      = .ok (s, ⟨rest, line', column'⟩) := by
  rw [spelled_quote, List.cons_append, List.append_assoc, List.singleton_append]
  obtain ⟨line₁, column₁, hskip⟩ :=
    skip_cons 34 (spelled (s.toList.flatMap escapeChar) ++ 34 :: rest) line column
  unfold readQuoted
  rw [hskip]
  have hdecode : Utf8.decode? (([] : Bytes).reverse ++ s.toList.flatMap Utf8.encodeChar) = some s :=
    Utf8.decode?_encode s
  refine readText_escaped ?_ hdecode line₁ column₁
  simp only [List.length_cons, List.length_append]
  omega

end Gleaner.Json
