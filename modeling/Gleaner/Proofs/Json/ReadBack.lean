import Gleaner.Proofs.Json.Nesting
import Gleaner.Proofs.Json.Numbers
import Gleaner.Proofs.Json.Texts

set_option autoImplicit false

/-! # What is written is read back

A value is read back from its compact text and from its indented text, if its members are in order, as the
reader puts them in order, if it is nested within the limit, and if the reader gives back the numbers in it
that are no integers: `Json.read_text` and `Json.read_pretty`. The last is a condition because such a number
is read in two roundings.

`Json.ReadsBack` is what is proved of a value by induction. It speaks of bytes in front of anything that may
stand behind a value, and of a fuel that is at least twice their number. The two forms differ in the blanks
between the parts alone, so arrays and objects are read with any blanks there. -/

namespace Gleaner.Json

/-! ## Values -/

/-- The bytes are read as the value, in front of anything that may stand behind a value. -/
structure ReadsBack (bytes : Bytes) (v : Json) : Prop where
  /-- They start with a byte that the reader takes for the start of a value. -/
  opens : ∃ b more, bytes = b :: more ∧ ¬ IsBlank b ∧ b ≠ 93 ∧ b ≠ 125
  reads : ∀ depth fuel rest line column, v.nesting ≤ depth → 2 * bytes.length ≤ fuel → EndsValue rest →
    ∃ line' column', readValue depth fuel ⟨bytes ++ rest, line, column⟩ = .ok (v, ⟨rest, line', column'⟩)

theorem ReadAlone.readsBack {bytes : Bytes} {n : Number} (h : ReadAlone bytes n) :
    ReadsBack bytes (num n) where
  opens := by
    cases h with
    | negative => exact ⟨_, _, rfl, by decide, by decide, by decide⟩
    | unsigned _ b _ hb =>
      refine ⟨_, _, rfl, ?_, ?_, ?_⟩
      · rintro (rfl | rfl | rfl | rfl) <;> cases hb
      · rintro rfl
        cases hb
      · rintro rfl
        cases hb
  reads depth fuel rest line column _ hfuel hrest := by
    have hpos : 0 < bytes.length := by cases h <;> exact Nat.succ_pos _
    obtain ⟨fuel, rfl⟩ := Nat.exists_eq_add_one.mpr (show 0 < fuel by omega)
    exact h.readValue_append hrest depth fuel line column

theorem readsBack_str (s : String) : ReadsBack (spelled (quote s)) (str s) where
  opens := ⟨34, _, spelled_quote s, by decide, by decide, by decide⟩
  reads depth fuel rest line column _ hfuel _ := by
    rw [spelled_quote, List.length_cons] at hfuel
    obtain ⟨fuel, rfl⟩ := Nat.exists_eq_add_one.mpr (show 0 < fuel by omega)
    obtain ⟨line', column', hread⟩ := readQuoted_quote s rest line column
    refine ⟨line', column', ?_⟩
    rw [spelled_quote] at hread ⊢
    unfold readValue
    rw [List.cons_append, skipBlanks_cons (by decide)]
    change (readQuoted _).map _ = _
    rw [← List.cons_append, hread]
    rfl

theorem readsBack_null : ReadsBack (spelled null.chars) null where
  opens := ⟨110, _, rfl, by decide, by decide, by decide⟩
  reads depth fuel rest line column _ hfuel _ := by
    obtain ⟨fuel, rfl⟩ := Nat.exists_eq_add_one.mpr (Nat.lt_of_lt_of_le (by decide) hfuel)
    exact ⟨_, _, rfl⟩

theorem readsBack_bool (b : Bool) : ReadsBack (spelled (bool b).chars) (bool b) where
  opens := by
    cases b with
    | true => exact ⟨116, _, rfl, by decide, by decide, by decide⟩
    | false => exact ⟨102, _, rfl, by decide, by decide, by decide⟩
  reads depth fuel rest line column _ hfuel _ := by
    cases b with
    | true =>
      obtain ⟨fuel, rfl⟩ := Nat.exists_eq_add_one.mpr (Nat.lt_of_lt_of_le (by decide) hfuel)
      exact ⟨_, _, rfl⟩
    | false =>
      obtain ⟨fuel, rfl⟩ := Nat.exists_eq_add_one.mpr (Nat.lt_of_lt_of_le (by decide) hfuel)
      exact ⟨_, _, rfl⟩

/-- Blanks in front of a value make no difference to it. -/
theorem readValue_blanks_append {blanks : Bytes} (h : ∀ b ∈ blanks, IsBlank b)
    (depth fuel : Nat) (rest : Bytes) (line column : Nat) :
    ∃ line' column', readValue depth (fuel + 1) ⟨blanks ++ rest, line, column⟩
      = readValue depth (fuel + 1) ⟨rest, line', column'⟩ := by
  obtain ⟨line', column', hskip⟩ := skipBlanks_append h rest line column
  refine ⟨line', column', ?_⟩
  unfold readValue
  rw [hskip]

/-! ## Arrays and objects -/

section Containers

variable {b close : UInt8} {lead gap trail rest : Bytes} {endFault closeFault : Fault}

theorem readSeparator_close (htrail : ∀ x ∈ trail, IsBlank x) (hclose : ¬ IsBlank close) (isFirst : Bool)
    (line column : Nat) :
    ∃ line' column',
      readSeparator close isFirst endFault closeFault ⟨trail ++ close :: rest, line, column⟩
        = .ok (false, ⟨rest, line', column'⟩) := by
  obtain ⟨line₁, column₁, hblanks⟩ := skipBlanks_append_cons htrail hclose rest line column
  obtain ⟨line', column', hskip⟩ := skip_cons close rest line₁ column₁
  refine ⟨line', column', ?_⟩
  unfold readSeparator
  dsimp only
  rw [hblanks, hskip]
  exact if_pos (beq_self_eq_true close)

theorem readSeparator_first (hlead : ∀ x ∈ lead, IsBlank x) (hblank : ¬ IsBlank b) (hclose : b ≠ close)
    (line column : Nat) :
    ∃ line' column', readSeparator close true endFault closeFault ⟨lead ++ b :: rest, line, column⟩
      = .ok (true, ⟨b :: rest, line', column'⟩) := by
  obtain ⟨line', column', hblanks⟩ := skipBlanks_append_cons hlead hblank rest line column
  refine ⟨line', column', ?_⟩
  unfold readSeparator
  dsimp only
  rw [hblanks]
  exact (if_neg (by simpa using hclose)).trans (if_pos rfl)

theorem readSeparator_comma (hlead : ∀ x ∈ lead, IsBlank x) (hblank : ¬ IsBlank b) (hclose : b ≠ close)
    (hcomma : close ≠ 44) (line column : Nat) :
    ∃ line' column',
      readSeparator close false endFault closeFault ⟨44 :: (lead ++ b :: rest), line, column⟩
        = .ok (true, ⟨b :: rest, line', column'⟩) := by
  obtain ⟨line₁, column₁, hskip⟩ := skip_cons 44 (lead ++ b :: rest) line column
  obtain ⟨line', column', hblanks⟩ := skipBlanks_append_cons hlead hblank rest line₁ column₁
  refine ⟨line', column', ?_⟩
  unfold readSeparator
  dsimp only
  rw [skipBlanks_cons (by decide), hskip, hblanks]
  refine (if_neg (by simpa using hcomma.symm)).trans ((if_neg Bool.false_ne_true).trans ?_)
  exact (if_pos rfl).trans (if_neg (by simpa using hclose))

/-- What stands in front of an item or a member: a comma, unless it is the first. -/
def separator (isFirst : Bool) : Bytes := if isFirst then [] else [44]

theorem readSeparator_more (isFirst : Bool) (hlead : ∀ x ∈ lead, IsBlank x) (hblank : ¬ IsBlank b)
    (hclose : b ≠ close) (hcomma : close ≠ 44) (line column : Nat) :
    ∃ line' column', readSeparator close isFirst endFault closeFault
        ⟨separator isFirst ++ (lead ++ b :: rest), line, column⟩
      = .ok (true, ⟨b :: rest, line', column'⟩) := by
  cases isFirst with
  | true => exact readSeparator_first hlead hblank hclose line column
  | false => exact readSeparator_comma hlead hblank hclose hcomma line column

/-- Items with what separates them, and with blanks in front of each. -/
def itemBytes (lead : Bytes) (write : Json → Bytes) (isFirst : Bool) : List Json → Bytes
  | [] => []
  | item :: rest => separator isFirst ++ (lead ++ write item) ++ itemBytes lead write false rest

theorem endsValue_itemBytes (htrail : ∀ x ∈ trail, IsBlank x) (write : Json → Bytes) (items : List Json) :
    EndsValue (itemBytes lead write false items ++ (trail ++ 93 :: rest)) := by
  cases items with
  | nil =>
    have hbracket : EndsValue (93 :: rest) := fun b hb => .inr (.inr (.inl (Option.some.inj hb).symm))
    change EndsValue (trail ++ 93 :: rest)
    exact hbracket.blanks_append htrail
  | cons => exact fun b hb => .inr (.inl (Option.some.inj hb).symm)

theorem readItems_itemBytes (hlead : ∀ x ∈ lead, IsBlank x) (htrail : ∀ x ∈ trail, IsBlank x)
    {write : Json → Bytes} {items : List Json} (h : ∀ item ∈ items, ReadsBack (write item) item)
    {isFirst : Bool} {depth fuel : Nat} (hdepth : nestingOfItems items ≤ depth)
    (hfuel : 2 * (itemBytes lead write isFirst items).length < fuel) (line column : Nat) :
    ∃ line' column', readItems depth fuel isFirst
        ⟨itemBytes lead write isFirst items ++ (trail ++ 93 :: rest), line, column⟩
      = .ok (items, ⟨rest, line', column'⟩) := by
  induction items generalizing isFirst fuel line column with
  | nil =>
    obtain ⟨fuel, rfl⟩ := Nat.exists_eq_add_one.mpr (Nat.zero_lt_of_lt hfuel)
    obtain ⟨line', column', hmore⟩ : ∃ line' column',
        readSeparator 93 isFirst .endInArray .expectedItemEnd ⟨trail ++ 93 :: rest, line, column⟩
          = .ok (false, ⟨rest, line', column'⟩) := readSeparator_close htrail (by decide) isFirst line column
    refine ⟨line', column', ?_⟩
    change readItems depth (fuel + 1) isFirst ⟨trail ++ 93 :: rest, line, column⟩ = _
    rw [readItems, hmore]
    rfl
  | cons item more ih =>
    obtain ⟨fuel, rfl⟩ := Nat.exists_eq_add_one.mpr (Nat.zero_lt_of_lt hfuel)
    obtain ⟨hitem, hall⟩ := List.forall_mem_cons.mp h
    obtain ⟨b, tail, hopens, hblank, hclose, -⟩ := hitem.opens
    rw [nestingOfItems, Nat.max_le] at hdepth
    have hpos : 0 < (write item).length := by rw [hopens]; exact Nat.succ_pos _
    rw [itemBytes, List.length_append, List.length_append, List.length_append] at hfuel
    obtain ⟨behind, hbehind⟩ : ∃ behind, itemBytes lead write false more ++ (trail ++ 93 :: rest) = behind :=
      ⟨_, rfl⟩
    obtain ⟨line₁, column₁, hmore⟩ : ∃ line' column', readSeparator 93 isFirst .endInArray .expectedItemEnd
        ⟨separator isFirst ++ (lead ++ (write item ++ behind)), line, column⟩
          = .ok (true, ⟨write item ++ behind, line', column'⟩) := by
      rw [hopens]
      exact readSeparator_more isFirst hlead hblank hclose (by decide) line column
    -- What follows the item is a blank, a comma or the bracket, so the item ends where its text does.
    obtain ⟨line₂, column₂, hvalue⟩ := hitem.reads depth fuel behind line₁ column₁ hdepth.1 (by omega)
      (hbehind ▸ endsValue_itemBytes htrail write more)
    have hleft : 2 * (itemBytes lead write false more).length < fuel := by omega
    obtain ⟨line', column', hrest⟩ := ih hall hdepth.2 hleft line₂ column₂
    refine ⟨line', column', ?_⟩
    rw [itemBytes, List.append_assoc, List.append_assoc, List.append_assoc, hbehind, readItems, hmore]
    change (readValue depth fuel _ >>= _) = _
    rw [hvalue]
    change (readItems depth fuel false _ >>= _) = _
    rw [← hbehind, hrest]
    rfl

/-- Members with what separates them, and with blanks in front of each and behind its colon. -/
def memberBytes (lead gap : Bytes) (write : Json → Bytes) (isFirst : Bool) : List (String × Json) → Bytes
  | [] => []
  | (key, value) :: rest =>
    separator isFirst ++ (lead ++ (spelled (quote key) ++ 58 :: (gap ++ write value)))
      ++ memberBytes lead gap write false rest

theorem endsValue_memberBytes (htrail : ∀ x ∈ trail, IsBlank x) (write : Json → Bytes)
    (members : List (String × Json)) :
    EndsValue (memberBytes lead gap write false members ++ (trail ++ 125 :: rest)) := by
  cases members with
  | nil =>
    have hbrace : EndsValue (125 :: rest) := fun b hb => .inr (.inr (.inr (Option.some.inj hb).symm))
    change EndsValue (trail ++ 125 :: rest)
    exact hbrace.blanks_append htrail
  | cons => exact fun b hb => .inr (.inl (Option.some.inj hb).symm)

theorem readKey_quote (key : String) (rest : Bytes) (line column : Nat) :
    ∃ line' column', readKey ⟨spelled (quote key) ++ 58 :: rest, line, column⟩
      = .ok (key, ⟨rest, line', column'⟩) := by
  obtain ⟨line₁, column₁, hread⟩ := readQuoted_quote key (58 :: rest) line column
  obtain ⟨line', column', hskip⟩ := skip_cons 58 rest line₁ column₁
  refine ⟨line', column', ?_⟩
  have hquote : Cursor.isAt ⟨spelled (quote key) ++ 58 :: rest, line, column⟩ 34 = true := by
    rw [spelled_quote]
    rfl
  unfold readKey
  rw [if_pos hquote, hread]
  have hblanks : Cursor.skipBlanks ⟨58 :: rest, line₁, column₁⟩ = ⟨58 :: rest, line₁, column₁⟩ :=
    skipBlanks_cons (by decide) rest line₁ column₁
  dsimp only [bind, Except.bind]
  rw [hblanks, hskip]
  rfl

theorem readMembers_memberBytes (hlead : ∀ x ∈ lead, IsBlank x) (hgap : ∀ x ∈ gap, IsBlank x)
    (htrail : ∀ x ∈ trail, IsBlank x) {write : Json → Bytes} {members : List (String × Json)}
    (h : ∀ m ∈ members, ReadsBack (write m.2) m.2) {isFirst : Bool} {depth fuel : Nat}
    (hdepth : nestingOfMembers members ≤ depth)
    (hfuel : 2 * (memberBytes lead gap write isFirst members).length < fuel) (line column : Nat) :
    ∃ line' column', readMembers depth fuel isFirst
        ⟨memberBytes lead gap write isFirst members ++ (trail ++ 125 :: rest), line, column⟩
      = .ok (members, ⟨rest, line', column'⟩) := by
  induction members generalizing isFirst fuel line column with
  | nil =>
    obtain ⟨fuel, rfl⟩ := Nat.exists_eq_add_one.mpr (Nat.zero_lt_of_lt hfuel)
    obtain ⟨line', column', hmore⟩ : ∃ line' column',
        readSeparator 125 isFirst .endInObject .expectedMemberEnd ⟨trail ++ 125 :: rest, line, column⟩
          = .ok (false, ⟨rest, line', column'⟩) := readSeparator_close htrail (by decide) isFirst line column
    refine ⟨line', column', ?_⟩
    change readMembers depth (fuel + 1) isFirst ⟨trail ++ 125 :: rest, line, column⟩ = _
    rw [readMembers, hmore]
    rfl
  | cons member more ih =>
    obtain ⟨key, value⟩ := member
    obtain ⟨fuel, rfl⟩ := Nat.exists_eq_add_one.mpr (Nat.zero_lt_of_lt hfuel)
    have hvalue : ReadsBack (write value) value := h (key, value) List.mem_cons_self
    have hall (m : String × Json) (hm : m ∈ more) : ReadsBack (write m.2) m.2 :=
      h m (List.mem_cons_of_mem _ hm)
    rw [nestingOfMembers, Nat.max_le] at hdepth
    rw [memberBytes, List.length_append, List.length_append, List.length_append, List.length_append,
      List.length_cons, List.length_append] at hfuel
    obtain ⟨behind, hbehind⟩ :
        ∃ behind, memberBytes lead gap write false more ++ (trail ++ 125 :: rest) = behind := ⟨_, rfl⟩
    obtain ⟨line₁, column₁, hmore⟩ : ∃ line' column',
        readSeparator 125 isFirst .endInObject .expectedMemberEnd
          ⟨separator isFirst ++ (lead ++ (spelled (quote key) ++ 58 :: (gap ++ (write value ++ behind)))),
            line, column⟩
          = .ok (true, ⟨spelled (quote key) ++ 58 :: (gap ++ (write value ++ behind)), line', column'⟩) := by
      rw [spelled_quote]
      exact readSeparator_more isFirst hlead (by decide) (by decide) (by decide) line column
    obtain ⟨line₂, column₂, hkey⟩ := readKey_quote key (gap ++ (write value ++ behind)) line₁ column₁
    obtain ⟨fuel, rfl⟩ := Nat.exists_eq_add_one.mpr (show 0 < fuel by omega)
    obtain ⟨line₃, column₃, hblanks⟩ :=
      readValue_blanks_append hgap depth fuel (write value ++ behind) line₂ column₂
    obtain ⟨line₄, column₄, hread⟩ := hvalue.reads depth (fuel + 1) behind line₃ column₃ hdepth.1 (by omega)
      (hbehind ▸ endsValue_memberBytes htrail write more)
    have hleft : 2 * (memberBytes lead gap write false more).length < fuel + 1 := by omega
    obtain ⟨line', column', hrest⟩ := ih hall hdepth.2 hleft line₄ column₄
    refine ⟨line', column', ?_⟩
    simp only [memberBytes, List.append_assoc, List.cons_append]
    rw [hbehind, readMembers, hmore]
    change (readKey _ >>= _) = _
    rw [hkey]
    change (readValue depth (fuel + 1) _ >>= _) = _
    rw [hblanks, hread]
    change (readMembers depth (fuel + 1) false _ >>= _) = _
    rw [← hbehind, hrest]
    rfl

theorem readsBack_arr (hlead : ∀ x ∈ lead, IsBlank x) (htrail : ∀ x ∈ trail, IsBlank x)
    {write : Json → Bytes} {items : List Json} (h : ∀ item ∈ items, ReadsBack (write item) item) :
    ReadsBack (91 :: (itemBytes lead write true items ++ (trail ++ [93]))) (arr items) where
  opens := ⟨91, _, rfl, by decide, by decide, by decide⟩
  reads depth fuel rest line column hdepth hfuel _ := by
    -- The value takes one unit of fuel and its items the next; the two brackets pay for four.
    rw [List.length_cons, List.length_append, List.length_append, List.length_singleton] at hfuel
    obtain ⟨depth, rfl⟩ := Nat.exists_eq_add_one.mpr (Nat.lt_of_lt_of_le (Nat.succ_pos _) hdepth)
    obtain ⟨fuel, rfl⟩ := Nat.exists_eq_add_one.mpr (show 0 < fuel by omega)
    obtain ⟨line₁, column₁, hskip⟩ :=
      skip_cons 91 (itemBytes lead write true items ++ (trail ++ 93 :: rest)) line column
    have hleft : 2 * (itemBytes lead write true items).length < fuel := by omega
    obtain ⟨line', column', hread⟩ : ∃ line' column',
        readItems depth fuel true ⟨itemBytes lead write true items ++ (trail ++ 93 :: rest), line₁, column₁⟩
          = .ok (items, ⟨rest, line', column'⟩) :=
      readItems_itemBytes hlead htrail h (Nat.le_of_succ_le_succ hdepth) hleft line₁ column₁
    refine ⟨line', column', ?_⟩
    rw [List.cons_append, List.append_assoc, List.append_assoc, List.singleton_append]
    unfold readValue
    rw [skipBlanks_cons (by decide)]
    change (readItems depth fuel true (Cursor.skip _)).map _ = _
    rw [hskip, hread]
    rfl

theorem readsBack_obj (hlead : ∀ x ∈ lead, IsBlank x) (hgap : ∀ x ∈ gap, IsBlank x)
    (htrail : ∀ x ∈ trail, IsBlank x) {write : Json → Bytes} {members : List (String × Json)}
    (h : ∀ m ∈ members, ReadsBack (write m.2) m.2) :
    ReadsBack (123 :: (memberBytes lead gap write true members ++ (trail ++ [125]))) (obj members) where
  opens := ⟨123, _, rfl, by decide, by decide, by decide⟩
  reads depth fuel rest line column hdepth hfuel _ := by
    rw [List.length_cons, List.length_append, List.length_append, List.length_singleton] at hfuel
    obtain ⟨depth, rfl⟩ := Nat.exists_eq_add_one.mpr (Nat.lt_of_lt_of_le (Nat.succ_pos _) hdepth)
    obtain ⟨fuel, rfl⟩ := Nat.exists_eq_add_one.mpr (show 0 < fuel by omega)
    obtain ⟨line₁, column₁, hskip⟩ :=
      skip_cons 123 (memberBytes lead gap write true members ++ (trail ++ 125 :: rest)) line column
    have hleft : 2 * (memberBytes lead gap write true members).length < fuel := by omega
    obtain ⟨line', column', hread⟩ : ∃ line' column', readMembers depth fuel true
        ⟨memberBytes lead gap write true members ++ (trail ++ 125 :: rest), line₁, column₁⟩
          = .ok (members, ⟨rest, line', column'⟩) :=
      readMembers_memberBytes hlead hgap htrail h (Nat.le_of_succ_le_succ hdepth) hleft line₁ column₁
    refine ⟨line', column', ?_⟩
    rw [List.cons_append, List.append_assoc, List.append_assoc, List.singleton_append]
    unfold readValue
    rw [skipBlanks_cons (by decide)]
    change (readMembers depth fuel true (Cursor.skip _)).map _ = _
    rw [hskip, hread]
    rfl

end Containers

/-! ## The compact form -/

/-- The bytes of the compact text of a value. -/
def compactBytes (v : Json) : Bytes := spelled v.chars

theorem spelled_itemChars (items : List Json) :
    spelled (itemChars items) = itemBytes [] compactBytes true items := by
  induction items with
  | nil => rfl
  | cons item rest ih =>
    cases rest with
    | nil => exact (List.append_nil _).symm
    | cons next rest =>
      rw [itemChars, spelled_append, spelled_cons_ascii (by decide), ih]
      rfl

theorem spelled_memberChars (members : List (String × Json)) :
    spelled (memberChars members) = memberBytes [] [] compactBytes true members := by
  induction members with
  | nil => rfl
  | cons member rest ih =>
    obtain ⟨key, value⟩ := member
    cases rest with
    | nil =>
      rw [memberChars, spelled_append, spelled_cons_ascii (by decide)]
      exact (List.append_nil _).symm
    | cons next rest =>
      rw [memberChars, spelled_append, spelled_append, spelled_cons_ascii (by decide),
        spelled_cons_ascii (by decide), ih]
      rfl

theorem compactBytes_arr (items : List Json) :
    compactBytes (arr items) = 91 :: (itemBytes [] compactBytes true items ++ ([] ++ [93])) := by
  rw [compactBytes, chars, List.cons_append, spelled_cons_ascii (by decide), spelled_append,
    spelled_itemChars]
  rfl

theorem compactBytes_obj (members : List (String × Json)) :
    compactBytes (obj members) = 123 :: (memberBytes [] [] compactBytes true members ++ ([] ++ [125])) := by
  rw [compactBytes, chars, List.cons_append, spelled_cons_ascii (by decide), spelled_append,
    spelled_memberChars]
  rfl

/-! ## The indented form -/

/-- The bytes of the indented text of a value that stands at a level. -/
def prettyBytes (level : Nat) (v : Json) : Bytes := spelled (prettyChars level v)

/-- The bytes of a new line at a level. -/
def newLineBytes (level : Nat) : Bytes := spelled (newLine level)

theorem isBlank_of_mem_newLineBytes {level : Nat} {b : UInt8} (h : b ∈ newLineBytes level) : IsBlank b := by
  have hnewLine (c : Char) (hc : c ∈ newLine level) : c = '\n' ∨ c = ' ' :=
    (List.mem_cons.mp hc).imp_right List.eq_of_mem_replicate
  have hascii (c : Char) (hc : c ∈ newLine level) : c.toNat < 0x80 := by
    rcases hnewLine c hc with rfl | rfl <;> decide
  obtain ⟨c, hc, rfl⟩ := mem_spelled hascii h
  rcases hnewLine c hc with rfl | rfl <;> decide

theorem spelled_prettyItems (level : Nat) (items : List Json) :
    spelled (prettyItems level items) = itemBytes (newLineBytes level) (prettyBytes level) true items := by
  induction items with
  | nil => rfl
  | cons item rest ih =>
    cases rest with
    | nil =>
      rw [prettyItems, spelled_append]
      exact (List.append_nil _).symm
    | cons next rest =>
      rw [prettyItems, spelled_append, spelled_append, spelled_cons_ascii (by decide), ih]
      rfl

theorem spelled_prettyMembers (level : Nat) (members : List (String × Json)) :
    spelled (prettyMembers level members)
      = memberBytes (newLineBytes level) [32] (prettyBytes level) true members := by
  induction members with
  | nil => rfl
  | cons member rest ih =>
    obtain ⟨key, value⟩ := member
    cases rest with
    | nil =>
      rw [prettyMembers, spelled_append, spelled_append, spelled_cons_ascii (by decide),
        spelled_cons_ascii (by decide), List.append_assoc]
      exact (List.append_nil _).symm
    | cons next rest =>
      rw [prettyMembers, spelled_append, spelled_append, spelled_append, spelled_cons_ascii (by decide),
        spelled_cons_ascii (by decide), spelled_cons_ascii (by decide), ih,
        List.append_assoc (spelled (newLine level))]
      rfl

/-- What stands in front of the closing bracket: nothing if the brackets are empty, otherwise a new line. -/
def prettyTrail (level : Nat) (isEmpty : Bool) : Bytes := if isEmpty then [] else newLineBytes level

theorem isBlank_of_mem_prettyTrail {level : Nat} {isEmpty : Bool} {b : UInt8}
    (h : b ∈ prettyTrail level isEmpty) : IsBlank b := by
  cases isEmpty with
  | true => cases h
  | false => exact isBlank_of_mem_newLineBytes h

theorem prettyBytes_arr (level : Nat) (items : List Json) :
    prettyBytes level (arr items)
      = 91 :: (itemBytes (newLineBytes (level + 1)) (prettyBytes (level + 1)) true items
        ++ (prettyTrail level items.isEmpty ++ [93])) := by
  cases items with
  | nil => rfl
  | cons item rest =>
    rw [prettyBytes, prettyChars, List.cons_append, List.cons_append, spelled_cons_ascii (by decide),
      spelled_append, spelled_append, spelled_prettyItems, List.append_assoc]
    · rfl
    · exact List.cons_ne_nil item rest

theorem prettyBytes_obj (level : Nat) (members : List (String × Json)) :
    prettyBytes level (obj members)
      = 123 :: (memberBytes (newLineBytes (level + 1)) [32] (prettyBytes (level + 1)) true members
        ++ (prettyTrail level members.isEmpty ++ [125])) := by
  cases members with
  | nil => rfl
  | cons member rest =>
    rw [prettyBytes, prettyChars, List.cons_append, List.cons_append, spelled_cons_ascii (by decide),
      spelled_append, spelled_append, spelled_prettyMembers, List.append_assoc]
    · rfl
    · exact List.cons_ne_nil member rest

/-! ## Main result -/

mutual

/-- The numbers in a value that are no integers. -/
def floats : Json → List Binary64
  | num (.float x) => [x]
  | arr items => floatsOfItems items
  | obj members => floatsOfMembers members
  | null | bool _ | num (.int _ _) | str _ => []

/-- The numbers in some of the items that are no integers. -/
def floatsOfItems : List Json → List Binary64
  | [] => []
  | item :: rest => item.floats ++ floatsOfItems rest

/-- The numbers in the value of some of the members that are no integers. -/
def floatsOfMembers : List (String × Json) → List Binary64
  | [] => []
  | (_, value) :: rest => value.floats ++ floatsOfMembers rest

end

theorem mem_floatsOfItems_iff {items : List Json} {x : Binary64} :
    x ∈ floatsOfItems items ↔ ∃ item ∈ items, x ∈ item.floats := by
  induction items with
  | nil => simp [floatsOfItems]
  | cons item rest ih => simp [floatsOfItems, ih]

theorem mem_floatsOfMembers_iff {members : List (String × Json)} {x : Binary64} :
    x ∈ floatsOfMembers members ↔ ∃ m ∈ members, x ∈ m.2.floats := by
  induction members with
  | nil => simp [floatsOfMembers]
  | cons m rest ih => simp [floatsOfMembers, ih]

/-- The reader gives a number back from its text. -/
def GivesBack (x : Binary64) : Prop := read (String.ofList (floatText x)) = .ok (num (.float x))

theorem readsBack_num {n : Number} (h : ∀ x ∈ (num n).floats, GivesBack x) :
    ReadsBack (spelled n.text) (num n) := by
  cases n with
  | int n hn => exact (readAlone_int n hn).readsBack
  | float x => exact ReadAlone.readsBack (readAlone_float (h x (List.mem_singleton.mpr rfl)))

theorem readsBack_compactBytes {v : Json} (h : ∀ x ∈ v.floats, GivesBack x) :
    ReadsBack (compactBytes v) v := by
  have hblanks (b : UInt8) (hb : b ∈ ([] : Bytes)) : IsBlank b := nomatch hb
  induction v with
  | null => exact readsBack_null
  | bool b => exact readsBack_bool b
  | num n => exact readsBack_num h
  | str s => exact readsBack_str s
  | arr items ih =>
    rw [compactBytes_arr]
    refine readsBack_arr hblanks hblanks fun item hitem => ih item hitem fun x hx => h x ?_
    exact mem_floatsOfItems_iff.mpr ⟨item, hitem, hx⟩
  | obj members ih =>
    rw [compactBytes_obj]
    refine readsBack_obj hblanks hblanks hblanks fun m hm => ih m hm fun x hx => h x ?_
    exact mem_floatsOfMembers_iff.mpr ⟨m, hm, hx⟩

theorem readsBack_prettyBytes {v : Json} (h : ∀ x ∈ v.floats, GivesBack x) (level : Nat) :
    ReadsBack (prettyBytes level v) v := by
  induction v generalizing level with
  | null => exact readsBack_null
  | bool b => exact readsBack_bool b
  | num n => exact readsBack_num h
  | str s => exact readsBack_str s
  | arr items ih =>
    rw [prettyBytes_arr]
    refine readsBack_arr (fun _ => isBlank_of_mem_newLineBytes) (fun _ => isBlank_of_mem_prettyTrail)
      fun item hitem => ih item hitem (fun x hx => h x ?_) (level + 1)
    exact mem_floatsOfItems_iff.mpr ⟨item, hitem, hx⟩
  | obj members ih =>
    have hgap (b : UInt8) (hb : b ∈ ([32] : Bytes)) : IsBlank b := .inr (.inl (List.mem_singleton.mp hb))
    rw [prettyBytes_obj]
    refine readsBack_obj (fun _ => isBlank_of_mem_newLineBytes) hgap (fun _ => isBlank_of_mem_prettyTrail)
      fun m hm => ih m hm (fun x hx => h x ?_) (level + 1)
    exact mem_floatsOfMembers_iff.mpr ⟨m, hm, hx⟩

/-- A text is read as a value in order that its bytes are read back as. -/
theorem ReadsBack.read_ofList {cs : List Char} {v : Json} (h : ReadsBack (spelled cs) v)
    (hordered : v.Ordered) (hnesting : v.nesting ≤ nestingLimit) : read (String.ofList cs) = .ok v := by
  obtain ⟨line, column, hread⟩ := h.reads nestingLimit (2 * (spelled cs).length + 2) [] 1 0 hnesting
    (Nat.le_add_right _ 2) endsValue_nil
  have hwritten : readAsWritten (spelled cs) = .ok (v, ⟨[], line, column⟩) := by
    rw [List.append_nil] at hread
    exact hread
  unfold read readBytes
  rw [encode_ofList, hwritten]
  exact congrArg Except.ok (arrange_eq_self_iff.mpr hordered)

/-- A value is read back from its text if its members are in order, it is nested within the limit, and the
reader gives back the numbers in it that are no integers. -/
theorem read_text {v : Json} (hordered : v.Ordered) (hnesting : v.nesting ≤ nestingLimit)
    (hfloats : ∀ x ∈ v.floats, GivesBack x) : read v.text = .ok v :=
  (readsBack_compactBytes hfloats).read_ofList hordered hnesting

/-- A value is read back from its indented text under the same conditions. -/
theorem read_pretty {v : Json} (hordered : v.Ordered) (hnesting : v.nesting ≤ nestingLimit)
    (hfloats : ∀ x ∈ v.floats, GivesBack x) : read v.pretty = .ok v :=
  (readsBack_prettyBytes hfloats 0).read_ofList hordered hnesting

example : (obj [("a", arr [num (.int 1 (by decide)), obj []]), ("b", str "\n")]).pretty
    = "\x7b\n  \x22a\x22: [\n    1,\n    \x7b\x7d\n  ],\n  \x22b\x22: \x22\\n\x22\n\x7d" := by
  decide +kernel

end Gleaner.Json
