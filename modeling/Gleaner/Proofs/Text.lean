import Gleaner.Text.Blank
import Mathlib.Data.List.DropRight

set_option autoImplicit false

/-! # Cut and trimmed texts

Cutting at a separator loses nothing: a text is what stands before the first separator, the separator, and
what stands after it (`Text.cut?_eq_some_iff`). The pieces of two texts with a separator between them are the
pieces of the one and then those of the other (`Text.pieces_append`).

Trimming leaves exactly the texts as they are that have no blank at either end (`Text.trim_eq_self_iff`). -/

namespace Gleaner.Text

variable {sep : Char} {cs before after : List Char}

/-- A text is cut at the first separator in it. -/
theorem cut?_eq_some_iff :
    cut? sep cs = some (before, after) ↔ cs = before ++ sep :: after ∧ sep ∉ before := by
  induction cs generalizing before with
  | nil => simp [cut?]
  | cons c rest ih =>
    rw [cut?]
    by_cases h : c = sep
    · subst h
      rw [if_pos rfl, Option.some.injEq, Prod.mk.injEq]
      constructor
      · rintro ⟨rfl, rfl⟩
        simp
      · rintro ⟨heq, hnot⟩
        cases before with
        | nil => exact ⟨rfl, (List.cons.inj heq).2⟩
        | cons b more => exact absurd ((List.cons.inj heq).1 ▸ List.mem_cons_self) hnot
    · rw [if_neg h, Option.map_eq_some_iff]
      constructor
      · rintro ⟨⟨before', after'⟩, hcut, heq⟩
        cases heq
        obtain ⟨rfl, hnot⟩ := ih.mp hcut
        simpa [Ne.symm h] using hnot
      · rintro ⟨heq, hnot⟩
        cases before with
        | nil => exact absurd (List.cons.inj heq).1 h
        | cons b more =>
          obtain ⟨rfl, hrest⟩ := List.cons.inj heq
          exact ⟨(more, after), ih.mpr ⟨hrest, fun hmem => hnot (List.mem_cons_of_mem _ hmem)⟩, rfl⟩

/-- A text can be cut where the separator stands. -/
theorem isSome_cut?_iff : (cut? sep cs).isSome = true ↔ sep ∈ cs := by
  induction cs with
  | nil => simp [cut?]
  | cons c rest ih =>
    rw [cut?]
    by_cases h : c = sep
    · simp [h]
    · rw [if_neg h, Option.isSome_map, ih, List.mem_cons]
      simp [Ne.symm h]

theorem cut?_eq_none_iff : cut? sep cs = none ↔ sep ∉ cs := by
  rw [← isSome_cut?_iff, Bool.not_eq_true, Option.isSome_eq_false_iff, Option.isNone_iff_eq_none]

theorem pieces_ne_nil (sep : Char) (cs : List Char) : pieces sep cs ≠ [] := by
  cases cs with
  | nil => simp [pieces]
  | cons c rest =>
    rw [pieces]
    split
    · simp
    · split <;> simp

/-- Texts with a separator between them have the pieces of both. -/
theorem pieces_append (sep : Char) (cs others : List Char) :
    pieces sep (cs ++ sep :: others) = pieces sep cs ++ pieces sep others := by
  induction cs with
  | nil => simp [pieces]
  | cons c rest ih =>
    rw [List.cons_append, pieces, pieces, ih]
    by_cases h : c = sep
    · simp [h]
    · rw [if_neg h, if_neg h]
      cases hpieces : pieces sep rest with
      | nil => exact absurd hpieces (pieces_ne_nil sep rest)
      | cons piece more => rfl

/-- A character that does not separate goes to the first piece. -/
theorem exists_pieces_cons {c : Char} (h : c ≠ sep) (cs : List Char) :
    ∃ piece more, pieces sep cs = piece :: more ∧ pieces sep (c :: cs) = (c :: piece) :: more := by
  cases hpieces : pieces sep cs with
  | nil => exact absurd hpieces (pieces_ne_nil sep cs)
  | cons piece more => exact ⟨piece, more, rfl, by rw [pieces, if_neg h, hpieces]⟩

/-- A text without a separator is one piece. -/
theorem pieces_of_not_mem (h : sep ∉ cs) : pieces sep cs = [cs] := by
  induction cs with
  | nil => rfl
  | cons c rest ih =>
    rw [List.mem_cons, not_or] at h
    obtain ⟨piece, more, hrest, hcons⟩ := exists_pieces_cons (Ne.symm h.1) rest
    rw [ih h.2] at hrest
    cases hrest
    exact hcons

/-- No piece has a separator in it. -/
theorem not_mem_of_mem_pieces {piece : List Char} (h : piece ∈ pieces sep cs) : sep ∉ piece := by
  induction cs generalizing piece with
  | nil => simp_all [pieces]
  | cons c rest ih =>
    by_cases hc : c = sep
    · rw [pieces, if_pos hc, List.mem_cons] at h
      obtain rfl | h := h
      · exact List.not_mem_nil
      · exact ih h
    · obtain ⟨first, more, hrest, hcons⟩ := exists_pieces_cons hc rest
      rw [hcons, List.mem_cons] at h
      obtain rfl | h := h
      · have hfirst : sep ∉ first := ih (hrest ▸ List.mem_cons_self)
        simp [hfirst, Ne.symm hc]
      · exact ih (hrest ▸ List.mem_cons_of_mem first h)

/-! ## Blanks at the ends -/

/-- No blank stands at either end of a text. -/
structure Trimmed (cs : List Char) : Prop where
  head : ∀ c ∈ cs.head?, isBlank c = false
  last : ∀ c ∈ cs.getLast?, isBlank c = false

theorem trimmed_iff {cs : List Char} :
    Trimmed cs ↔ cs.head?.all (!isBlank ·) = true ∧ cs.getLast?.all (!isBlank ·) = true := by
  simp only [Option.all_eq_true, Bool.not_eq_true']
  exact ⟨fun h => ⟨h.head, h.last⟩, fun h => ⟨h.1, h.2⟩⟩

instance (cs : List Char) : Decidable (Trimmed cs) := decidable_of_iff _ trimmed_iff.symm

theorem trim_eq (cs : List Char) : trim cs = (cs.dropWhile isBlank).rdropWhile isBlank := rfl

/-- Trimming drops characters and changes none. -/
theorem mem_of_mem_trim {c : Char} (h : c ∈ trim cs) : c ∈ cs :=
  (List.dropWhile_suffix _).subset ((List.rdropWhile_prefix _ _).subset h)

theorem trimmed_trim (cs : List Char) : Trimmed (trim cs) := by
  have hprefix : trim cs <+: cs.dropWhile isBlank := List.rdropWhile_prefix _ _
  constructor
  · intro c hc
    obtain ⟨more, hmore⟩ := hprefix
    -- What is left starts as the text does when only the blanks in front are gone.
    have hstart : (cs.dropWhile isBlank).head? = some c := by
      rw [← hmore, List.head?_append, Option.mem_def.mp hc, Option.some_or]
    have hnot := List.head?_dropWhile_not isBlank cs
    rwa [hstart] at hnot
  · intro c hc
    obtain ⟨hne, rfl⟩ := List.mem_getLast?_eq_getLast hc
    exact Bool.eq_false_iff.mpr (List.rdropWhile_last_not isBlank _ hne)

/-- A text is left as it is exactly if no blank stands at either end. -/
theorem trim_eq_self_iff : trim cs = cs ↔ Trimmed cs := by
  constructor
  · intro h
    exact h ▸ trimmed_trim cs
  · intro h
    have hstart : cs.dropWhile isBlank = cs := by
      rw [List.dropWhile_eq_self_iff]
      intro hlength
      simp [h.head cs[0] (by simp [List.head?_eq_getElem?])]
    rw [trim_eq, hstart, List.rdropWhile_eq_self_iff]
    intro hne
    simp [h.last _ (List.getLast?_eq_some_getLast hne)]

/-- A blank in front is dropped. -/
theorem trim_cons_of_isBlank {c : Char} (h : isBlank c = true) (cs : List Char) :
    trim (c :: cs) = trim cs := by
  rw [trim_eq, trim_eq, List.dropWhile_cons_of_pos h]

end Gleaner.Text
