import Gleaner.Proofs.Dictionary
import Gleaner.Proofs.Rule.Depth
import Mathlib.Data.List.Forall2

set_option autoImplicit false

/-! # Results mirror rules

The result of a rule has the form of the rule. `Rule.Conforms` says for each kind of function what its
value looks like: an object for fields, with the names of the fields and no others, an array for a search,
with one item for each element that is found, and nothing around the value of a shortcut.

A null in a result stands for something that is not there. `Rule.AllowsNull` follows a place in the result
through the rule and tells what can be missing there; in the result of a rule without faults there are no
other nulls (`Rule.allowsNull_walkFully`). -/

namespace Gleaner

variable {E : Type}

/-! ## What conforms to a rule -/

namespace Json

/-- The value is a text or null. -/
def IsText? (v : Json) : Prop := v = .null ∨ ∃ s, v = .str s

/-- The value is null, a text or an array of texts. -/
def IsFormValue (v : Json) : Prop := v.IsText? ∨ ∃ texts : List String, v = .arr (texts.map .str)

theorem isText?_ofText? (text : Option String) : (ofText? text).IsText? := by
  cases text with
  | none => exact Or.inl rfl
  | some s => exact Or.inr ⟨s, rfl⟩

end Json

mutual

/-- The value has the form that a rule gives to its result for an element. -/
def Rule.Conforms (t : Accessors E) : Rule → E → Json → Prop
  | .mk (some f) _ _, e, v => f.Conforms t e v
  | .mk none fields _, e, v => ∃ members, v = .obj members ∧ Entries.Ordered members
      ∧ (∀ name, name ∈ members.map (·.1) ↔ name ∈ fields.map (·.1))
      ∧ ∀ m ∈ members, Rule.FieldConforms t fields e m.1 m.2

/-- The value has the form that a field of this name gives to it. -/
def Rule.FieldConforms (t : Accessors E) : List (String × RuleFunction) → E → String → Json → Prop
  | [], _, _, _ => False
  | (name, f) :: rest, e, key, v =>
    (key = name ∧ f.Conforms t e v) ∨ Rule.FieldConforms t rest e key v

/-- The value has the form that a function gives to it for an element. -/
def RuleFunction.Conforms (t : Accessors E) : RuleFunction → E → Json → Prop
  | .text, _, v => ∃ s, v = .str s
  | .value, _, v => v.IsFormValue
  | .html, _, v | .css _, _, v | .attr _, _, v => v.IsText?
  | .data _, _, _ | .prop _, _, _ => True
  | .findOne selector rule, e, v =>
    match t.find e selector with
    | some (first :: _) => rule.Conforms t first v
    | some [] | none => v = .null
  | .find selector rule, e, v =>
    match t.find e selector with
    | some found =>
      ∃ items, v = .arr items ∧ List.Forall₂ (fun d item => rule.Conforms t d item) found items
    | none => v = .null
  | .nested rule, e, v => rule.Conforms t e v
  | .invalid _, _, v => v = .null

end

theorem Rule.fieldConforms_iff {t : Accessors E} {fields : List (String × RuleFunction)} {e : E}
    {key : String} {v : Json} :
    FieldConforms t fields e key v ↔ ∃ p ∈ fields, key = p.1 ∧ p.2.Conforms t e v := by
  induction fields with
  | nil => simp [FieldConforms]
  | cons p rest ih => simp [FieldConforms, ih]

/-! ## Results conform -/

/-- A rule without a bound gives what conforms to it if its functions do. -/
theorem Rule.conforms_walkFully_of_functions {t : Accessors E} {r : Rule}
    (h : ∀ f ∈ r.functions, ∀ e, f.Conforms t e (f.evaluateFully t e)) (e : E) :
    r.Conforms t e (r.walkFully t e) := by
  obtain ⟨shortcut, fields, malformed⟩ := r
  obtain ⟨hshortcut, hfields⟩ := forall_functions_iff.mp h
  cases shortcut with
  | some f =>
    rw [Conforms, walkFully]
    exact hshortcut f rfl e
  | none =>
    rw [Conforms, walkFully, walkFieldsFully_eq_map]
    refine ⟨_, rfl, Entries.ordered_ofList _, fun name => ?_, fun m hm => ?_⟩
    · rw [Entries.mem_keys_ofList, List.map_map]
      rfl
    · obtain ⟨p, hp, rfl⟩ := List.mem_map.mp (Entries.mem_of_mem_ofList hm)
      exact fieldConforms_iff.mpr ⟨p, hp, rfl, hfields p hp e⟩

/-- Where the values of form controls are what they should be, every function gives what conforms to
it. -/
theorem RuleFunction.conforms_evaluateFully {t : Accessors E}
    (hvalue : ∀ e, (t.value e).IsFormValue) (f : RuleFunction) (e : E) :
    f.Conforms t e (f.evaluateFully t e) := by
  induction f generalizing e with
  | text => exact ⟨_, rfl⟩
  | value => exact hvalue e
  | html | css | attr => exact Json.isText?_ofText? _
  | data | prop => trivial
  | findOne selector rule ih =>
    rw [Conforms, evaluateFully]
    rcases t.find e selector with _ | _ | ⟨first, rest⟩
    · rfl
    · rfl
    · exact rule.conforms_walkFully_of_functions ih first
  | find selector rule ih =>
    rw [Conforms, evaluateFully]
    cases t.find e selector with
    | none => rfl
    | some found =>
      refine ⟨_, rfl, ?_⟩
      rw [List.forall₂_map_right_iff, List.forall₂_same]
      exact fun d _ => rule.conforms_walkFully_of_functions ih d
  | nested rule ih => exact rule.conforms_walkFully_of_functions ih e
  | invalid raw => rfl

theorem Rule.conforms_walkFully {t : Accessors E} (hvalue : ∀ e, (t.value e).IsFormValue) (r : Rule)
    (e : E) : r.Conforms t e (r.walkFully t e) :=
  conforms_walkFully_of_functions (fun f _ => f.conforms_evaluateFully hvalue) e

/-! ## Places in a value -/

namespace Json

/-- A step from a value to a part of it. -/
inductive Step where
  | member (name : String)
  | item (index : Nat)
  deriving DecidableEq, Repr

/-- What stands at a place in a value. -/
def at? : Json → List Step → Option Json
  | v, [] => some v
  | .obj members, .member name :: rest => (Entries.get? name members).bind (·.at? rest)
  | .arr items, .item index :: rest => items[index]?.bind (·.at? rest)
  | _, _ :: _ => none

theorem at?_str (s : String) (path : List Step) : (str s).at? path ≠ some null := by
  cases path <;> simp [at?]

/-- Null has no parts. -/
theorem eq_nil_of_at?_null {v : Json} {path : List Step} (h : null.at? path = some v) : path = [] := by
  cases path with
  | nil => rfl
  | cons step rest => simp [at?] at h

end Json

/-! ## Where nulls come from -/

mutual

/-- What a rule gives for an element may be null at this place. -/
inductive Rule.AllowsNull (t : Accessors E) : Rule → E → List Json.Step → Prop where
  | shortcut (f : RuleFunction) (fields : List (String × RuleFunction)) (malformed : Option Json) (e : E)
    (path : List Json.Step) (h : RuleFunction.AllowsNull t f e path) :
    Rule.AllowsNull t (.mk (some f) fields malformed) e path
  | field (name : String) (f : RuleFunction) (fields : List (String × RuleFunction))
    (malformed : Option Json) (e : E) (path : List Json.Step) (hf : (name, f) ∈ fields)
    (h : RuleFunction.AllowsNull t f e path) :
    Rule.AllowsNull t (.mk none fields malformed) e (.member name :: path)

/-- What a function gives for an element may be null at this place: it is the value, or lies inside the
value, of a form control, a style, a data set, an attribute or a property, or it stands for an element that
is not there or for a text that is no selector. -/
inductive RuleFunction.AllowsNull (t : Accessors E) : RuleFunction → E → List Json.Step → Prop where
  | value (e : E) (path : List Json.Step) : RuleFunction.AllowsNull t .value e path
  | css (property : String) (e : E) (path : List Json.Step) :
    RuleFunction.AllowsNull t (.css property) e path
  | data (key : String) (e : E) (path : List Json.Step) : RuleFunction.AllowsNull t (.data key) e path
  | attr (name : String) (e : E) (path : List Json.Step) : RuleFunction.AllowsNull t (.attr name) e path
  | prop (name : String) (e : E) (path : List Json.Step) : RuleFunction.AllowsNull t (.prop name) e path
  | noElement (selector : String) (rule : Rule) (e : E) (h : t.find e selector = some []) :
    RuleFunction.AllowsNull t (.findOne selector rule) e []
  | noSelector (selector : String) (rule : Rule) (e : E) (h : t.find e selector = none) :
    RuleFunction.AllowsNull t (.findOne selector rule) e []
  | noSelectorForAll (selector : String) (rule : Rule) (e : E) (h : t.find e selector = none) :
    RuleFunction.AllowsNull t (.find selector rule) e []
  | findOne (selector : String) (rule : Rule) (e first : E) (rest : List E) (path : List Json.Step)
    (hfind : t.find e selector = some (first :: rest)) (h : Rule.AllowsNull t rule first path) :
    RuleFunction.AllowsNull t (.findOne selector rule) e path
  | find (selector : String) (rule : Rule) (e d : E) (found : List E) (index : Nat)
    (path : List Json.Step) (hfind : t.find e selector = some found) (hd : found[index]? = some d)
    (h : Rule.AllowsNull t rule d path) :
    RuleFunction.AllowsNull t (.find selector rule) e (.item index :: path)
  | nested (rule : Rule) (e : E) (path : List Json.Step) (h : Rule.AllowsNull t rule e path) :
    RuleFunction.AllowsNull t (.nested rule) e path

end

/-- The nulls in the result of a rule without faults are allowed if those in the values of its functions
are. -/
theorem Rule.allowsNull_walkFully_of_functions {t : Accessors E} {r : Rule}
    (h : ∀ f ∈ r.functions, f.fault? = none → ∀ e path,
      (f.evaluateFully t e).at? path = some .null → f.AllowsNull t e path)
    (hr : r.fault? = none) {e : E} {path : List Json.Step}
    (hnull : (r.walkFully t e).at? path = some .null) : r.AllowsNull t e path := by
  have hfaults := (fault?_eq_none_iff.mp hr).2
  obtain ⟨shortcut, fields, malformed⟩ := r
  obtain ⟨hshortcut, hfields⟩ := forall_functions_iff.mp h
  obtain ⟨hshortcutFault, hfieldFaults⟩ := forall_functions_iff.mp hfaults
  cases shortcut with
  | some f =>
    rw [walkFully] at hnull
    exact .shortcut _ _ _ _ _ (hshortcut f rfl (hshortcutFault f rfl) e path hnull)
  | none =>
    rw [walkFully, walkFieldsFully_eq_map] at hnull
    cases path with
    | nil => simp [Json.at?] at hnull
    | cons step rest =>
      cases step with
      | item index => simp [Json.at?] at hnull
      | member name =>
        rw [Json.at?, Option.bind_eq_some_iff] at hnull
        obtain ⟨v, hget, hrest⟩ := hnull
        have hmem := (Entries.mem_iff_get?_eq_some (Entries.ordered_ofList _).keys_nodup).mpr hget
        obtain ⟨p, hp, heq⟩ := List.mem_map.mp (Entries.mem_of_mem_ofList hmem)
        obtain ⟨rfl, rfl⟩ := Prod.mk.inj heq
        exact .field _ _ _ _ _ _ hp (hfields p hp (hfieldFaults p hp) e rest hrest)

theorem RuleFunction.allowsNull_evaluateFully {t : Accessors E}
    (hhtml : ∀ e, (t.innerHtml e).isSome = true) {f : RuleFunction} (hf : f.fault? = none) {e : E}
    {path : List Json.Step} (hnull : (f.evaluateFully t e).at? path = some .null) :
    f.AllowsNull t e path := by
  induction f generalizing e path with
  | text => exact absurd hnull (Json.at?_str _ _)
  | html =>
    obtain ⟨s, hs⟩ := Option.isSome_iff_exists.mp (hhtml e)
    rw [evaluateFully, hs] at hnull
    exact absurd hnull (Json.at?_str s path)
  | value => exact .value e path
  | css property => exact .css property e path
  | data key => exact .data key e path
  | attr name => exact .attr name e path
  | prop name => exact .prop name e path
  | findOne selector rule ih =>
    have hrule : rule.fault? = none := by simpa [fault?] using hf
    rw [evaluateFully] at hnull
    rcases hfind : t.find e selector with _ | _ | ⟨first, rest⟩
    · rw [hfind] at hnull
      obtain rfl := Json.eq_nil_of_at?_null hnull
      exact .noSelector _ _ _ hfind
    · rw [hfind] at hnull
      obtain rfl := Json.eq_nil_of_at?_null hnull
      exact .noElement _ _ _ hfind
    · rw [hfind] at hnull
      exact .findOne _ _ _ _ _ _ hfind
        (rule.allowsNull_walkFully_of_functions (fun g hg hfault e path => ih g hg hfault) hrule hnull)
  | find selector rule ih =>
    have hrule : rule.fault? = none := by simpa [fault?] using hf
    rw [evaluateFully] at hnull
    cases hfind : t.find e selector with
    | none =>
      rw [hfind] at hnull
      obtain rfl := Json.eq_nil_of_at?_null hnull
      exact .noSelectorForAll _ _ _ hfind
    | some found =>
      rw [hfind] at hnull
      cases path with
      | nil => simp [Json.at?] at hnull
      | cons step rest =>
        cases step with
        | member name => simp [Json.at?] at hnull
        | item index =>
          rw [Json.at?, List.getElem?_map, Option.bind_map, Option.bind_eq_some_iff] at hnull
          obtain ⟨d, hd, hitem⟩ := hnull
          exact .find _ _ _ _ _ _ _ hfind hd
            (rule.allowsNull_walkFully_of_functions (fun g hg hfault e path => ih g hg hfault) hrule hitem)
  | nested rule ih =>
    have hrule : rule.fault? = none := by simpa [fault?] using hf
    exact .nested _ _ _
      (rule.allowsNull_walkFully_of_functions (fun g hg hfault e path => ih g hg hfault) hrule hnull)
  | invalid raw => simp [fault?] at hf

/-- Where markup is always there, the nulls in the result of a rule without faults are those that it
allows. -/
theorem Rule.allowsNull_walkFully {t : Accessors E} (hhtml : ∀ e, (t.innerHtml e).isSome = true)
    {r : Rule} (hr : r.fault? = none) {e : E} {path : List Json.Step}
    (hnull : (r.walkFully t e).at? path = some .null) : r.AllowsNull t e path :=
  allowsNull_walkFully_of_functions
    (fun _ _ hf _ _ => RuleFunction.allowsNull_evaluateFully hhtml hf) hr hnull

/-! ## Main result -/

/-- The value of a form control is null, a text or an array of texts. -/
theorem Element.isFormValue_value (c : Html.Cursor) : (value c).IsFormValue := by
  unfold value
  split
  · exact Or.inl (Or.inr ⟨_, rfl⟩)
  · unfold choice
    split
    · exact Or.inr ⟨_, rfl⟩
    · exact Or.inl (Json.isText?_ofText? _)
  · exact Or.inl (Json.isText?_ofText? _)
  · exact Or.inl (Json.isText?_ofText? _)
  · exact Or.inl (Or.inl rfl)

/-- On a page, the result of a rule that is not too deep conforms to the rule; and if the rule has no
fault, a null in the result is one that the rule allows at its place. -/
theorem Rule.walk_mirrors (r : Rule) (bound : Nat) (h : r.height ≤ bound) (resolve : String → String)
    (c : Html.Cursor) :
    r.Conforms (Element.accessors resolve) c (r.walk (Element.accessors resolve) bound c)
      ∧ (r.fault? = none → ∀ path,
        (r.walk (Element.accessors resolve) bound c).at? path = some .null →
        r.AllowsNull (Element.accessors resolve) c path) := by
  rw [walk_eq_walkFully_of_height_le _ h]
  exact ⟨r.conforms_walkFully Element.isFormValue_value c,
    fun hr path => allowsNull_walkFully (fun _ => rfl) hr⟩

/-- Nothing in the item is bold, and the null says so. -/
theorem Rule.walk_mirrors_item_without_bold :
    let rule := single (.find "li" (single (.findOne "b" (single .text))))
    let page := (Html.Page.read "<ul><li>a</ul>").top
    rule.height ≤ 6 ∧ rule.fault? = none
      ∧ rule.Conforms (Element.accessors id) page (.arr [.null])
      ∧ rule.AllowsNull (Element.accessors id) page [.item 0] := by
  intro rule page
  have hheight : rule.height ≤ 6 := by decide
  have hfault : rule.fault? = none := by decide
  have hwalk : rule.walk (Element.accessors id) 6 page = .arr [.null] := by decide +kernel
  obtain ⟨hconforms, hnulls⟩ := walk_mirrors rule 6 hheight id page
  rw [hwalk] at hconforms hnulls
  exact ⟨hheight, hfault, hconforms, hnulls hfault [.item 0] rfl⟩

end Gleaner
