import Gleaner.Element
import Gleaner.Html.Reader
import Gleaner.Proofs.Html.Forest

set_option autoImplicit false

/-! # The value of a selection

A selection has no value of its own: its value is made of those of the options below it, however deep they
stand. A single choice has the value of the first selected option, or of the first one where none is
selected; a multiple choice has the values of all selected options that have one
(`Element.value_of_select`). Nothing else below the selection matters.

What stands below a selection is found by a walk, so this needs links that agree. A template can hold markup
whose links do not, and then an option may be passed by: `Element.value_of_broken_select`. -/

namespace Gleaner.Element

open Html

/-- An option is selected. -/
def isSelected (o : Cursor) : Bool := has o.node "selected"

/-- The node is an option. -/
def IsOption (c : Cursor) : Prop := c.node.tag? = some "option"

/-- What a selection reads of an option: whether it is selected, and the value it has. -/
def marks (o : Cursor) : Bool × Option String := (isSelected o, o.node.attribute? "value")

/-- The options below a node in their places, as the walk comes upon them. -/
def optionsBelow (c : Cursor) : List Cursor :=
  c.elementsBelow.filter fun o => o.node.tag? == some "option"

/-! ## Options in their places -/

theorem options_eq_map (c : Cursor) : options c = (optionsBelow c).map (·.node) := by
  rw [options, optionsBelow, List.filter_map]
  rfl

theorem isElement_of_isOption {c : Cursor} (h : IsOption c) : c.node.isElement = true := by
  cases hnode : c.node with
  | element => rfl
  | _ => simp [IsOption, hnode, Node.tag?, Node.name?] at h

theorem lt_size_of_isOption {p : Page} {n : Address} (h : IsOption ⟨p, n⟩) : n < p.slots.size := by
  by_contra hsize
  -- Beyond the page there is nothing, which reads as a root.
  have hnone : p.slots[n]? = none := Array.getElem?_eq_none (Nat.le_of_not_lt hsize)
  simp [IsOption, Cursor.node, Page.node?, hnone, Node.tag?, Node.name?, default] at h

theorem lists_optionsBelow {p : Page} {n : Address} (h : p.Agree n) :
    p.Lists n IsOption (optionsBelow ⟨p, n⟩) := by
  obtain ⟨f, hf⟩ := h
  have hlists := hf.lists fun c => c.node.tag? == some "option" && c.node.isElement
  have hkind : (fun c : Cursor => (c.node.tag? == some "option" && c.node.isElement) = true) = IsOption := by
    funext c
    simp only [Bool.and_eq_true, beq_iff_eq, eq_iff_iff]
    exact ⟨fun hc => hc.1, fun hc => ⟨hc, isElement_of_isOption hc⟩⟩
  rwa [hkind, ← List.filter_filter] at hlists

/-- The value of an option is that of its attribute. -/
theorem value_of_isOption {o : Cursor} (h : IsOption o) : value o = .ofText? (o.node.attribute? "value") := by
  rw [IsOption] at h
  simp [value, h]

theorem isOption_of_mem {c o : Cursor} (h : o ∈ optionsBelow c) : IsOption o := by
  simpa [IsOption] using (List.mem_filter.mp h).2

/-! ## Choices -/

section Choices

variable {os : List Cursor}

theorem choice_single (h : ∀ o ∈ os, IsOption o) :
    choice false (os.map (·.node)) = (((os.find? isSelected).or os.head?).map value).getD .null := by
  have hfind : (os.map (·.node)).find? (has · "selected") = (os.find? isSelected).map (·.node) :=
    List.find?_map ..
  simp only [choice, Bool.false_eq_true, if_false, hfind, List.head?_map, ← Option.map_or, Option.bind_map]
  cases hchosen : (os.find? isSelected).or os.head? with
  | none => rfl
  | some o =>
    have hmem : o ∈ os := by
      rcases Option.or_eq_some_iff.mp hchosen with hfound | ⟨-, hhead⟩
      · exact List.mem_of_find?_eq_some hfound
      · exact List.mem_of_head? hhead
    exact (value_of_isOption (h o hmem)).symm

/-- The options without a value drop out when their values are null. -/
theorem filterMap_value (h : ∀ o ∈ os, IsOption o) :
    (os.filterMap (·.node.attribute? "value")).map .str = (os.map value).filter (· ≠ .null) := by
  induction os with
  | nil => rfl
  | cons o rest ih =>
    obtain ⟨ho, hrest⟩ := List.forall_mem_cons.mp h
    rw [List.filterMap_cons, List.map_cons, List.filter_cons, value_of_isOption ho]
    cases o.node.attribute? "value" with
    | none => simpa [Json.ofText?] using ih hrest
    | some w => simpa [Json.ofText?] using ih hrest

theorem choice_multiple (h : ∀ o ∈ os, IsOption o) :
    choice true (os.map (·.node)) = .arr (((os.filter isSelected).map value).filter (· ≠ .null)) := by
  have hselected : ∀ o ∈ os.filter isSelected, IsOption o := fun o ho => h o (List.mem_of_mem_filter ho)
  rw [choice, if_pos rfl, List.filter_map, List.filterMap_map, ← filterMap_value hselected]
  rfl

/-- A choice reads nothing of its options but their marks. -/
theorem choice_eq_of_marks {os' : List Cursor} (many : Bool) (h : os.map marks = os'.map marks) :
    choice many (os.map (·.node)) = choice many (os'.map (·.node)) := by
  have hmarks (os : List Cursor) : choice many (os.map (·.node))
      = if many then .arr ((((os.map marks).filter (·.1)).filterMap (·.2)).map .str)
        else .ofText? ((((os.map marks).find? (·.1)).or (os.map marks).head?).bind (·.2)) := by
    simp only [choice, List.filter_map, List.filterMap_map, List.find?_map, List.head?_map, ← Option.map_or,
      Option.bind_map]
    rfl
  rw [hmarks, hmarks, h]

end Choices

theorem value_of_isSelect {c : Cursor} (h : c.node.tag? = some "select") :
    value c = choice (has c.node "multiple") ((optionsBelow c).map (·.node)) := by
  rw [← options_eq_map]
  simp [value, h]

/-! ## Main result -/

/-- Where the links below a selection agree, its value is made of the values of the options below it, in the
order of the page. A single choice has that of the first selected option, else that of the first option,
else none; a multiple choice has those of the selected options that have one. Two selections have the same
value as soon as their options are selected alike and have the same values, whatever else stands below
them. -/
theorem value_of_select {p : Page} {n : Address} (h : p.Agree n)
    (hselect : (Cursor.mk p n).node.tag? = some "select") :
    let os := optionsBelow ⟨p, n⟩
    p.Lists n IsOption os
    ∧ (has (Cursor.mk p n).node "multiple" = false →
        value ⟨p, n⟩ = (((os.find? isSelected).or os.head?).map value).getD .null)
    ∧ (has (Cursor.mk p n).node "multiple" = true →
        value ⟨p, n⟩ = .arr (((os.filter isSelected).map value).filter (· ≠ .null)))
    ∧ ∀ c : Cursor, c.node.tag? = some "select" →
        has c.node "multiple" = has (Cursor.mk p n).node "multiple" →
        (optionsBelow c).map marks = os.map marks → value c = value ⟨p, n⟩ := by
  intro os
  have hoptions : ∀ o ∈ os, IsOption o := fun o ho => isOption_of_mem ho
  refine ⟨lists_optionsBelow h, fun hsingle => ?_, fun hmany => ?_, fun c hc hmultiple hmarks => ?_⟩
  · rw [value_of_isSelect hselect, hsingle, choice_single hoptions]
  · rw [value_of_isSelect hselect, hmany, choice_multiple hoptions]
  · rw [value_of_isSelect hselect, value_of_isSelect hc, hmultiple]
    exact choice_eq_of_marks _ hmarks

/-- A selected option in a group, and the same options without the group and with other text. -/
theorem value_of_select_in_group :
    let page := Page.read "<select><option value=a>A<optgroup><option value=b selected>B</select>"
    let other := Page.read "<select>text<option value=a><option value=b selected></select>"
    page.Agree 4 ∧ value ⟨page, 4⟩ = .str "b" ∧ value ⟨other, 4⟩ = value ⟨page, 4⟩ := by
  intro page other
  have hpage : page.Agree 4 ∧ (Cursor.mk page 4).node.tag? = some "select"
      ∧ has (Cursor.mk page 4).node "multiple" = false
      ∧ (((optionsBelow ⟨page, 4⟩).find? isSelected).or (optionsBelow ⟨page, 4⟩).head?).map value
        = some (.str "b")
      ∧ (optionsBelow ⟨page, 4⟩).map marks = [(false, some "a"), (true, some "b")] := by
    decide +kernel
  have hother : (Cursor.mk other 4).node.tag? = some "select"
      ∧ has (Cursor.mk other 4).node "multiple" = false
      ∧ (optionsBelow ⟨other, 4⟩).map marks = [(false, some "a"), (true, some "b")] := by
    decide +kernel
  obtain ⟨hagree, hselect, hsingle, hchosen, hmarks⟩ := hpage
  obtain ⟨hselect', hsingle', hmarks'⟩ := hother
  obtain ⟨-, hvalue, -, hsame⟩ := value_of_select hagree hselect
  refine ⟨hagree, ?_, ?_⟩
  · rw [hvalue hsingle, hchosen]
    rfl
  · exact hsame ⟨other, 4⟩ hselect' (hsingle'.trans hsingle.symm) (hmarks'.trans hmarks.symm)

/-- Without the condition this fails: the template in a selection holds its only option, the walk is led past
it, and the selection has no value. -/
theorem value_of_broken_select :
    let page := Page.read
      "<select><template><b><div>1<br><p><option value=x></option></b></template></select>"
    ¬ page.Agree 4 ∧ (Cursor.mk page 4).node.tag? = some "select"
      ∧ has (Cursor.mk page 4).node "multiple" = false
      ∧ page.Lists 4 IsOption [⟨page, 12⟩] ∧ value ⟨page, 12⟩ = .str "x" ∧ value ⟨page, 4⟩ = .null := by
  intro page
  have hpage : (¬ page.Agree 4 ∧ (Cursor.mk page 4).node.tag? = some "select"
      ∧ has (Cursor.mk page 4).node "multiple" = false ∧ value ⟨page, 12⟩ = .str "x"
      ∧ value ⟨page, 4⟩ = .null)
      ∧ ([4, 5, 6, 8, 11, 14, 12].IsChain fun k m => m ∈ page.children k)
      ∧ ((List.range page.slots.size).filter fun m => (Cursor.mk page m).node.tag? == some "option")
        = [12] := by
    decide +kernel
  -- From here on it does not matter how the page has been read.
  clear_value page
  obtain ⟨⟨hagree, hselect, hsingle, hoption, hnull⟩, hway, honly⟩ := hpage
  have hbelow : page.Below 4 12 := Page.below_of_isChain hway 12 (by simp)
  have hkind (m : Address) : IsOption ⟨page, m⟩ ↔ m = 12 := by
    rw [← List.mem_singleton, ← honly, List.mem_filter, List.mem_range, beq_iff_eq]
    exact ⟨fun hm => ⟨lt_size_of_isOption hm, hm⟩, fun hm => hm.2⟩
  refine ⟨hagree, hselect, hsingle, ⟨fun o => ?_, List.pairwise_singleton .., List.nodup_singleton _⟩,
    hoption, hnull⟩
  obtain ⟨page', m⟩ := o
  rw [List.mem_singleton]
  constructor
  · rintro ⟨⟩
    exact ⟨rfl, hbelow, (hkind 12).mpr rfl⟩
  · rintro ⟨rfl, -, hm⟩
    rw [(hkind m).mp hm]

end Gleaner.Element
