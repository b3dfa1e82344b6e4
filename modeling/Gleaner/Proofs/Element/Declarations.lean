import Gleaner.Proofs.Element.Style

set_option autoImplicit false

/-! # The normal form of an inline style

The text of a style can be written in many ways, the list of its declarations in one: each declaration as the
property, a colon, a blank and the value, with a semicolon and a blank between two of them. Reading gives
back a list that is written so exactly if its declarations are normal, and what is read from any text is
normal (`Style.declarations_text_iff`). -/

namespace Gleaner.Style

/-! ## Normal declarations -/

/-- A declaration as it comes out of a text: the property has a name, neither part has the characters in it
that end it, and no blank stands around either of them. A value may have colons in it, and it may be
empty. -/
structure Declaration.IsNormal (d : Declaration) : Prop where
  named : d.property ≠ ""
  property_colon : ':' ∉ d.property.toList
  property_semicolon : ';' ∉ d.property.toList
  value_semicolon : ';' ∉ d.value.toList
  property_trimmed : Text.Trimmed d.property.toList
  value_trimmed : Text.Trimmed d.value.toList

instance (d : Declaration) : Decidable d.IsNormal :=
  decidable_of_iff (_ ∧ _ ∧ _ ∧ _ ∧ _ ∧ _)
    ⟨fun ⟨h₁, h₂, h₃, h₄, h₅, h₆⟩ => ⟨h₁, h₂, h₃, h₄, h₅, h₆⟩,
      fun ⟨h₁, h₂, h₃, h₄, h₅, h₆⟩ => ⟨h₁, h₂, h₃, h₄, h₅, h₆⟩⟩

/-- A declaration as text. -/
def Declaration.text (d : Declaration) : String := d.property ++ ": " ++ d.value

/-- Declarations as the text of a style. -/
def text (ds : List Declaration) : String := "; ".intercalate (ds.map (·.text))

variable {d : Declaration} {ds : List Declaration}

theorem Declaration.isNormal_of_ofPiece? {piece : List Char} (h : ofPiece? piece = some d)
    (hpiece : ';' ∉ piece) : d.IsNormal := by
  unfold ofPiece? at h
  cases hcut : Text.cut? ':' piece with
  | none => simp [hcut] at h
  | some parts =>
    obtain ⟨property, value⟩ := parts
    obtain ⟨rfl, hcolon⟩ := Text.cut?_eq_some_iff.mp hcut
    rw [List.mem_append, List.mem_cons, not_or, not_or] at hpiece
    obtain ⟨hproperty, -, hvalue⟩ := hpiece
    simp only [hcut] at h
    split at h
    · cases h
    · next hnamed =>
      cases h
      constructor
      case named =>
        intro hempty
        exact hnamed (List.isEmpty_iff.mpr (String.ofList_eq_empty_iff.mp hempty))
      case property_colon => simpa using fun hmem => hcolon (Text.mem_of_mem_trim hmem)
      case property_semicolon => simpa using fun hmem => hproperty (Text.mem_of_mem_trim hmem)
      case value_semicolon => simpa using fun hmem => hvalue (Text.mem_of_mem_trim hmem)
      case property_trimmed => simpa using Text.trimmed_trim property
      case value_trimmed => simpa using Text.trimmed_trim value

/-- Every declaration of a style is normal. -/
theorem isNormal_of_mem_declarations {style : String} (h : d ∈ declarations style) : d.IsNormal := by
  obtain ⟨piece, hpiece, hd⟩ := List.mem_filterMap.mp h
  exact Declaration.isNormal_of_ofPiece? hd (Text.not_mem_of_mem_pieces hpiece)

/-! ## Reading what is written -/

theorem Declaration.IsNormal.semicolon_not_mem (h : d.IsNormal) : ';' ∉ d.text.toList := by
  simp [Declaration.text, h.property_semicolon, h.value_semicolon]

/-- The text of a normal declaration is read as the declaration. -/
theorem Declaration.IsNormal.ofPiece?_text (h : d.IsNormal) : ofPiece? d.text.toList = some d := by
  have htext : d.text.toList = d.property.toList ++ ':' :: ' ' :: d.value.toList := by
    simp [Declaration.text]
  have hcut : Text.cut? ':' d.text.toList = some (d.property.toList, ' ' :: d.value.toList) :=
    Text.cut?_eq_some_iff.mpr ⟨htext, h.property_colon⟩
  have hproperty : Text.trim d.property.toList = d.property.toList :=
    Text.trim_eq_self_iff.mpr h.property_trimmed
  have hvalue : Text.trim (' ' :: d.value.toList) = d.value.toList := by
    rw [Text.trim_cons_of_isBlank (by decide), Text.trim_eq_self_iff.mpr h.value_trimmed]
  have hnamed : d.property.toList.isEmpty = false := by
    simpa using h.named
  rw [ofPiece?, hcut]
  simp [hproperty, hvalue, hnamed]

/-- A blank in front of a piece changes nothing: the property is trimmed. -/
theorem Declaration.ofPiece?_cons_blank (piece : List Char) : ofPiece? (' ' :: piece) = ofPiece? piece := by
  unfold ofPiece?
  rw [Text.cut?, if_neg (by decide)]
  cases Text.cut? ':' piece with
  | none => rfl
  | some parts =>
    simp only [Option.map_some, Text.trim_cons_of_isBlank (c := ' ') (by decide)]

theorem declarations_blank_append (style : String) : declarations (" " ++ style) = declarations style := by
  have hblank : ' ' ≠ ';' := by decide
  obtain ⟨first, more, hpieces, hcons⟩ := Text.exists_pieces_cons hblank style.toList
  have hlist : (" " ++ style).toList = ' ' :: style.toList := by simp
  rw [declarations, declarations, hlist, hpieces, hcons, List.filterMap_cons, List.filterMap_cons,
    Declaration.ofPiece?_cons_blank]

theorem Declaration.IsNormal.declarations_text (h : d.IsNormal) : declarations d.text = [d] := by
  rw [declarations, Text.pieces_of_not_mem h.semicolon_not_mem, List.filterMap_cons, h.ofPiece?_text]
  rfl

theorem text_cons_cons (d e : Declaration) (ds : List Declaration) :
    text (d :: e :: ds) = d.text ++ ";" ++ (" " ++ text (e :: ds)) := by
  have hseparator : "; " = ";" ++ " " := rfl
  rw [text, List.map_cons, String.intercalate_cons_of_ne_nil (by simp), ← text, hseparator]
  simp only [String.append_assoc]

/-- Normal declarations are read back as they are written. -/
theorem declarations_text_of_isNormal (h : ∀ d ∈ ds, d.IsNormal) : declarations (text ds) = ds := by
  induction ds with
  | nil => rfl
  | cons d rest ih =>
    obtain ⟨hd, hrest⟩ := List.forall_mem_cons.mp h
    cases rest with
    | nil =>
      have hone : text [d] = d.text := by simp [text]
      rw [hone, hd.declarations_text]
    | cons e rest =>
      -- The semicolon separates; the blank behind it goes with the trimming.
      rw [text_cons_cons, declarations_append, declarations_blank_append, hd.declarations_text, ih hrest]
      rfl

/-! ## Main result -/

/-- A style that is joined from two by a semicolon has the declarations of the first and then those of the
second. What is read from a style is normal, and writing and reading it gives it back; and the lists that
come back like this are those whose declarations are normal. -/
theorem declarations_text_iff :
    (∀ style other, declarations (style ++ ";" ++ other) = declarations style ++ declarations other)
    ∧ (∀ style, (∀ d ∈ declarations style, d.IsNormal)
        ∧ declarations (text (declarations style)) = declarations style)
    ∧ ∀ ds, declarations (text ds) = ds ↔ ∀ d ∈ ds, d.IsNormal := by
  refine ⟨declarations_append, fun style => ⟨fun d => isNormal_of_mem_declarations, ?_⟩, fun ds => ?_⟩
  · exact declarations_text_of_isNormal fun d => isNormal_of_mem_declarations
  · constructor
    · intro hread d hd
      exact isNormal_of_mem_declarations (hread.symm ▸ hd)
    · exact declarations_text_of_isNormal

/-- A value with a colon in it, and one that is empty. -/
theorem declarations_text_of_address :
    let ds : List Declaration := [⟨"background", "url(http://h.test/a b)"⟩, ⟨"color", ""⟩]
    text ds = "background: url(http://h.test/a b); color: " ∧ declarations (text ds) = ds
      ∧ declarations "background:url(http://h.test/a b);;\tcolor :;none" = ds := by
  intro ds
  obtain ⟨-, -, hiff⟩ := declarations_text_iff
  exact ⟨by decide +kernel, (hiff ds).mpr (by decide +kernel), by decide +kernel⟩

end Gleaner.Style
