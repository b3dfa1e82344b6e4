import Gleaner.Proofs.Utf8
import Gleaner.Json.Reader

set_option autoImplicit false

/-! # Cursors in front of given bytes

What a cursor does whose next bytes are known, and what two cursors have in common of which one has more
to read than the other. Most of the reader does not look beyond the value that it reads; `EndsValue` says
what may stand there so that the value ends. -/

namespace Gleaner.Json

/-! ## The bytes of characters -/

/-- The bytes that characters are encoded to. -/
def spelled (cs : List Char) : Bytes := cs.flatMap Utf8.encodeChar

theorem encode_ofList (cs : List Char) : Utf8.encode (String.ofList cs) = spelled cs := by
  rw [Utf8.encode, String.toList_ofList, spelled]

theorem spelled_append (cs more : List Char) : spelled (cs ++ more) = spelled cs ++ spelled more :=
  List.flatMap_append

theorem spelled_cons_ascii {c : Char} (h : c.toNat < 0x80) (cs : List Char) :
    spelled (c :: cs) = .ofNat c.toNat :: spelled cs := by
  rw [spelled, List.flatMap_cons, Utf8.encodeChar_ascii h]
  rfl

theorem mem_spelled {b : UInt8} {cs : List Char} (h : ∀ c ∈ cs, c.toNat < 0x80) (hb : b ∈ spelled cs) :
    ∃ c ∈ cs, b = .ofNat c.toNat := by
  obtain ⟨c, hc, hb⟩ := List.mem_flatMap.mp hb
  rw [Utf8.encodeChar_ascii (h c hc)] at hb
  exact ⟨c, hc, List.mem_singleton.mp hb⟩

/-! ## The next byte -/

theorem next?_cons (b : UInt8) (rest : Bytes) (line column : Nat) :
    ∃ line' column', Cursor.next? ⟨b :: rest, line, column⟩ = some (b, ⟨rest, line', column'⟩) := by
  unfold Cursor.next?
  dsimp only
  split
  · exact ⟨_, _, rfl⟩
  · exact ⟨_, _, rfl⟩

theorem skip_cons (b : UInt8) (rest : Bytes) (line column : Nat) :
    ∃ line' column', Cursor.skip ⟨b :: rest, line, column⟩ = ⟨rest, line', column'⟩ := by
  obtain ⟨line', column', hnext⟩ := next?_cons b rest line column
  refine ⟨line', column', ?_⟩
  unfold Cursor.skip
  rw [hnext]
  rfl

/-- The blanks that may stand between the parts of a text. -/
def IsBlank (b : UInt8) : Prop := b = 10 ∨ b = 32 ∨ b = 9 ∨ b = 13

instance (b : UInt8) : Decidable (IsBlank b) := inferInstanceAs (Decidable (_ ∨ _ ∨ _ ∨ _))

theorem skipBlanks_cons {b : UInt8} (h : ¬ IsBlank b) (rest : Bytes) (line column : Nat) :
    Cursor.skipBlanks ⟨b :: rest, line, column⟩ = ⟨b :: rest, line, column⟩ := by
  simp only [IsBlank, not_or] at h
  simp [Cursor.skipBlanks, Cursor.skipBlanks.go, h]

/-- Blanks make no difference to what is met behind them. -/
theorem skipBlanks_append {blanks : Bytes} (h : ∀ b ∈ blanks, IsBlank b) (rest : Bytes) (line column : Nat) :
    ∃ line' column', Cursor.skipBlanks ⟨blanks ++ rest, line, column⟩
      = Cursor.skipBlanks ⟨rest, line', column'⟩ := by
  induction blanks generalizing line column with
  | nil => exact ⟨line, column, rfl⟩
  | cons b blanks ih =>
    obtain ⟨hb, hblanks⟩ := List.forall_mem_cons.mp h
    rcases hb with rfl | rfl | rfl | rfl
    · exact ih hblanks (line + 1) 0
    all_goals exact ih hblanks line (column + 1)

theorem skipBlanks_append_cons {blanks : Bytes} (h : ∀ b ∈ blanks, IsBlank b) {b : UInt8} (hb : ¬ IsBlank b)
    (rest : Bytes) (line column : Nat) :
    ∃ line' column', Cursor.skipBlanks ⟨blanks ++ b :: rest, line, column⟩ = ⟨b :: rest, line', column'⟩ := by
  obtain ⟨line', column', hskip⟩ := skipBlanks_append h (b :: rest) line column
  exact ⟨line', column', hskip.trans (skipBlanks_cons hb rest line' column')⟩

/-! ## More behind -/

/-- What may stand behind a value: nothing, a blank, a comma or a closing bracket. -/
def EndsValue (rest : Bytes) : Prop := ∀ b ∈ rest.head?, IsBlank b ∨ b = 44 ∨ b = 93 ∨ b = 125

theorem endsValue_nil : EndsValue [] := fun _ hb => nomatch hb

theorem EndsValue.blanks_append {blanks rest : Bytes} (hblanks : ∀ b ∈ blanks, IsBlank b)
    (hrest : EndsValue rest) : EndsValue (blanks ++ rest) := by
  cases blanks with
  | nil => exact hrest
  | cons b blanks =>
    intro b' hb'
    obtain rfl := Option.some.inj hb'
    exact .inl (hblanks b List.mem_cons_self)

/-- The second cursor has the bytes of the first to read, and then the rest. -/
def Cursor.Extends (rest : Bytes) (c d : Cursor) : Prop := d.rest = c.rest ++ rest

namespace Cursor

variable {rest : Bytes} {c d : Cursor}

theorem digit?_of_endsValue (hrest : EndsValue rest) {b : UInt8} (hb : b ∈ rest.head?) : digit? b = none := by
  rcases hrest b hb with (rfl | rfl | rfl | rfl) | rfl | rfl | rfl <;> rfl

theorem Extends.head? (h : c.Extends rest d) : d.rest.head? = c.rest.head?.or rest.head? := by
  rw [Extends] at h
  rw [h, List.head?_append]

theorem Extends.atDigit (hrest : EndsValue rest) (h : c.Extends rest d) : d.atDigit = c.atDigit := by
  unfold Cursor.atDigit
  rw [h.head?]
  cases hc : c.rest.head? with
  | some b => rfl
  | none =>
    cases hr : rest.head? with
    | none => rfl
    | some b => simp [digit?_of_endsValue hrest hr]

theorem Extends.isAt (hrest : EndsValue rest) (h : c.Extends rest d) {b : UInt8}
    (hb : ¬ (IsBlank b ∨ b = 44 ∨ b = 93 ∨ b = 125)) : d.isAt b = c.isAt b := by
  unfold Cursor.isAt
  rw [h.head?]
  cases hc : c.rest.head? with
  | some b' => rfl
  | none =>
    rw [Option.none_or]
    have hne : rest.head? ≠ some b := fun heq => hb (hrest b heq)
    simpa using hne

theorem Extends.atExponent (hrest : EndsValue rest) (h : c.Extends rest d) : d.atExponent = c.atExponent := by
  rw [Cursor.atExponent, h.isAt hrest (by decide), h.isAt hrest (by decide), Cursor.atExponent]

theorem Extends.next? (h : c.Extends rest d) {b : UInt8} {c' : Cursor} (hc : c.next? = some (b, c')) :
    c.rest = b :: c'.rest ∧ ∃ d', d.next? = some (b, d') ∧ c'.Extends rest d' := by
  obtain ⟨bytes, line, column⟩ := c
  cases bytes with
  | nil => cases hc
  | cons b₀ bytes =>
    obtain ⟨bytes', line', column'⟩ := d
    obtain rfl : bytes' = b₀ :: (bytes ++ rest) := h
    obtain ⟨rfl, rfl⟩ := Prod.mk.inj (Option.some.inj hc)
    refine ⟨?_, _, rfl, ?_⟩
    · split <;> rfl
    · unfold Extends
      split <;> rfl

/-- Where something is left to read, the next byte may be passed over. -/
theorem Extends.skip (h : c.Extends rest d) (hc : c.rest ≠ []) :
    c.skip.rest <:+ c.rest ∧ c.skip.Extends rest d.skip := by
  obtain ⟨bytes, line, column⟩ := c
  cases bytes with
  | nil => exact absurd rfl hc
  | cons b bytes =>
    obtain ⟨hrest, d', hd, hextends⟩ := h.next? rfl
    refine ⟨⟨[b], hrest.symm⟩, ?_⟩
    unfold Cursor.skip
    rw [hd]
    exact hextends

end Cursor

theorem rest_ne_nil_of_isAt {c : Cursor} {b : UInt8} (h : c.isAt b = true) : c.rest ≠ [] := by
  intro hnil
  rw [Cursor.isAt, hnil] at h
  cases h

end Gleaner.Json
