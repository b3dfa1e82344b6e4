import Gleaner.Element
import Gleaner.Proofs.Dictionary
import Gleaner.Proofs.Text

set_option autoImplicit false

/-! # The two views of an inline style

A property of an inline style is looked up in two ways: by itself, where letter case does not count and the
last declaration stands (`Style.property?`), and in the object of all properties, whose keys are spelled as
in the declarations. The object may have a property under several spellings; the value that is found by
itself is the one under the spelling that was declared last (`Element.css_of_style`).

Styles that are joined by a semicolon have the declarations of both, so that the second style comes first
wherever it declares a property (`Style.declarations_append`). -/

namespace Gleaner

namespace Style

variable {ds es : List Declaration} {name w : String} {d : Declaration}

/-! ## The last declaration -/

/-- The declaration is the last one of the property, in whatever letter case. -/
def IsLast (ds : List Declaration) (name : String) (d : Declaration) : Prop :=
  ∃ before after, ds = before ++ d :: after ∧ Text.sameLetters d.property name = true
    ∧ ∀ e ∈ after, Text.sameLetters e.property name = false

/-- The property is declared, in whatever letter case. -/
def Declares (ds : List Declaration) (name : String) : Prop :=
  ∃ d ∈ ds, Text.sameLetters d.property name = true

theorem property?_eq_some_iff : property? ds name = some w ↔ ∃ d, IsLast ds name d ∧ d.value = w := by
  simp only [property?, Option.map_eq_some_iff, List.find?_eq_some_iff_append, IsLast]
  constructor
  · rintro ⟨d, ⟨hsame, after, before, heq, hnone⟩, rfl⟩
    refine ⟨d, ⟨before.reverse, after.reverse, ?_, hsame, fun e he => ?_⟩, rfl⟩
    · rw [← List.reverse_reverse ds, heq]
      simp
    · simpa using hnone e (List.mem_reverse.mp he)
  · rintro ⟨d, ⟨before, after, rfl, hsame, hnone⟩, rfl⟩
    refine ⟨d, ⟨hsame, after.reverse, before.reverse, by simp, fun e he => ?_⟩, rfl⟩
    simpa using hnone e (List.mem_reverse.mp he)

theorem property?_eq_none_iff : property? ds name = none ↔ ¬ Declares ds name := by
  simp [property?, Declares]

theorem exists_property?_iff : (∃ w, property? ds name = some w) ↔ Declares ds name := by
  rw [← Option.ne_none_iff_exists', ne_eq, property?_eq_none_iff, not_not]

theorem property?_append : property? (ds ++ es) name = (property? es name).or (property? ds name) := by
  rw [property?, List.reverse_append, List.find?_append, Option.map_or]
  rfl

/-- Styles with a semicolon between them have the declarations of both. -/
theorem declarations_append (style other : String) :
    declarations (style ++ ";" ++ other) = declarations style ++ declarations other := by
  have hlist : (style ++ ";" ++ other).toList = style.toList ++ ';' :: other.toList := by simp
  rw [declarations, hlist, Text.pieces_append, List.filterMap_append]
  rfl

/-! ## The object of all properties -/

/-- The properties with their values, in order; of several declarations of one spelling the last one
stays. -/
def members (ds : List Declaration) : List (String × Json) :=
  Entries.ofList (ds.map fun d => (d.property, .str d.value))

theorem mem_keys_members_iff {key : String} :
    key ∈ (members ds).map (·.1) ↔ ∃ d ∈ ds, d.property = key := by
  rw [members, Entries.mem_keys_ofList, List.map_map, List.mem_map]
  rfl

/-- A property is declared exactly if some spelling of it is a key. -/
theorem declares_iff :
    Declares ds name ↔ ∃ key ∈ (members ds).map (·.1), Text.sameLetters key name = true := by
  simp only [Declares, mem_keys_members_iff]
  constructor
  · rintro ⟨d, hd, hsame⟩
    exact ⟨d.property, ⟨d, hd, rfl⟩, hsame⟩
  · rintro ⟨key, ⟨d, hd, rfl⟩, hsame⟩
    exact ⟨d, hd, hsame⟩

theorem IsLast.sameLetters (h : IsLast ds name d) : Text.sameLetters d.property name = true := by
  obtain ⟨-, -, -, hsame, -⟩ := h
  exact hsame

theorem IsLast.mem_keys_members (h : IsLast ds name d) : d.property ∈ (members ds).map (·.1) := by
  obtain ⟨before, after, rfl, -, -⟩ := h
  exact mem_keys_members_iff.mpr ⟨d, by simp, rfl⟩

/-- The value under the last spelling is that of the last declaration: the same spelling does not occur
behind it. -/
theorem IsLast.get?_members (h : IsLast ds name d) :
    Entries.get? d.property (members ds) = some (.str d.value) := by
  obtain ⟨before, after, rfl, hsame, hnone⟩ := h
  have hafter : Entries.get? d.property (after.map fun e => (e.property, Json.str e.value)).reverse
      = none := by
    rw [← Option.not_isSome_iff_eq_none, Entries.isSome_get?_iff]
    intro hmem
    simp only [List.map_reverse, List.map_map, List.mem_reverse, List.mem_map] at hmem
    obtain ⟨e, he, heq⟩ := hmem
    have hother := hnone e he
    rw [show e.property = d.property from heq, hsame] at hother
    cases hother
  rw [members, Entries.ofList, Entries.get?_foldl_insert, List.map_append, List.map_cons,
    List.reverse_append, List.reverse_cons, Entries.get?_append, Entries.get?_append, hafter]
  simp [Entries.get?]

end Style

namespace Element

open Style

variable (resolve : String → String)

theorem prop_style {c : Html.Cursor} (h : c.node.isElement = true) :
    (accessors resolve).prop c "style" = .obj (members (declarations c.node)) := by
  cases hnode : c.node with
  | element name attributes => simp [accessors, prop, hnode, Html.Node.tag?, Html.Node.name?]; rfl
  | _ => simp [hnode, Html.Node.isElement] at h

theorem css_eq (c : Html.Cursor) (name : String) :
    (accessors resolve).css c name = property? (declarations c.node) name := rfl

theorem declarations_of_style {n : Html.Node} {style : String} (h : n.attribute? "style" = some style) :
    declarations n = Style.declarations style := by
  rw [declarations, h]
  rfl

/-! ## Main result -/

/-- A property is found by itself exactly if the style object has it under some spelling. What is found is
the value under the spelling of the last declaration, and so under the only spelling where there is just
one. Of a style that is joined from two the second one tells what a property is if it declares it, and else
the first one. -/
theorem css_of_style (resolve : String → String) (name : String) :
    (∀ c : Html.Cursor, c.node.isElement = true →
      ∃ members, (accessors resolve).prop c "style" = .obj members
        ∧ ((accessors resolve).css c name = none
          ↔ ∀ key ∈ members.map (·.1), Text.sameLetters key name = false)
        ∧ (∀ w, (accessors resolve).css c name = some w →
          ∃ d, IsLast (declarations c.node) name d ∧ d.property ∈ members.map (·.1)
            ∧ Text.sameLetters d.property name = true
            ∧ Entries.get? d.property members = some (.str w))
        ∧ ∀ key ∈ members.map (·.1), Text.sameLetters key name = true →
          (∀ other ∈ members.map (·.1), Text.sameLetters other name = true → other = key) →
          ((accessors resolve).css c name).map .str = Entries.get? key members)
    ∧ ∀ (style other : String) (c cOfStyle cOfOther : Html.Cursor),
      c.node.attribute? "style" = some (style ++ ";" ++ other) →
      cOfStyle.node.attribute? "style" = some style →
      cOfOther.node.attribute? "style" = some other →
      (Declares (Style.declarations other) name →
        (accessors resolve).css c name = (accessors resolve).css cOfOther name)
      ∧ (¬ Declares (Style.declarations other) name →
        (accessors resolve).css c name = (accessors resolve).css cOfStyle name) := by
  constructor
  · intro c hc
    refine ⟨_, prop_style resolve hc, ?_, fun w hw => ?_, fun key hkey hsame honly => ?_⟩
    · rw [css_eq, property?_eq_none_iff, declares_iff]
      simp
    · obtain ⟨d, hlast, rfl⟩ := property?_eq_some_iff.mp hw
      exact ⟨d, hlast, hlast.mem_keys_members, hlast.sameLetters, hlast.get?_members⟩
    · have hdeclares : Declares (declarations c.node) name := declares_iff.mpr ⟨key, hkey, hsame⟩
      obtain ⟨w, hw⟩ := exists_property?_iff.mpr hdeclares
      obtain ⟨d, hlast, rfl⟩ := property?_eq_some_iff.mp hw
      obtain rfl := honly d.property hlast.mem_keys_members hlast.sameLetters
      rw [css_eq, hw, hlast.get?_members, Option.map_some]
  · intro style other c cOfStyle cOfOther hc hstyle hother
    simp only [css_eq, declarations_of_style hc, declarations_of_style hstyle,
      declarations_of_style hother, declarations_append, property?_append]
    constructor
    · intro hdeclares
      obtain ⟨w, hw⟩ := exists_property?_iff.mpr hdeclares
      rw [hw, Option.some_or]
    · intro hnot
      rw [property?_eq_none_iff.mpr hnot, Option.none_or]

/-- Two spellings of one property, from two styles that are joined. -/
theorem css_of_style_two_spellings :
    let styled (style : String) : Html.Cursor :=
      ⟨⟨#[{ node := .element ⟨.html, "a"⟩ [⟨.plain, "style", style⟩] }]⟩, 0⟩
    let c := styled ("color: red" ++ ";" ++ "Color: blue")
    c.node.isElement = true ∧ (accessors id).css c "COLOR" = some "blue"
      ∧ (accessors id).css c "COLOR" = (accessors id).css (styled "Color: blue") "COLOR"
      ∧ ∃ members, (accessors id).prop c "style" = .obj members ∧ members.map (·.1) = ["Color", "color"]
        ∧ ∃ d, IsLast (declarations c.node) "COLOR" d
          ∧ Entries.get? d.property members = some (.str "blue") := by
  intro styled c
  have hblue : (accessors id).css c "COLOR" = some "blue" := by decide +kernel
  obtain ⟨hviews, hjoined⟩ := css_of_style id "COLOR"
  obtain ⟨members, hmembers, -, hlast, -⟩ := hviews c rfl
  obtain ⟨d, hd, -, -, hget⟩ := hlast "blue" hblue
  have hkeys : (accessors id).prop c "style"
      = .obj [("Color", .str "blue"), ("color", .str "red")] := by decide +kernel
  obtain rfl := Json.obj.inj (hkeys.symm.trans hmembers)
  have hdeclares : Declares (Style.declarations "Color: blue") "COLOR" :=
    ⟨⟨"Color", "blue"⟩, by decide +kernel, by decide +kernel⟩
  exact ⟨rfl, hblue, (hjoined _ _ c (styled "color: red") (styled "Color: blue") rfl rfl rfl).1 hdeclares,
    _, hmembers, rfl, d, hd, hget⟩

end Element

end Gleaner
