import Gleaner.Element
import Gleaner.Html.Reader
import Gleaner.Proofs.Dictionary
import Gleaner.Proofs.Rule.Building
import Gleaner.Url.Reader

set_option autoImplicit false

/-! # What the address of a page decides

The address of a page completes the addresses that stand in it, which a rule reads as the properties
`href` and `src`, and it does nothing else. A rule is walked twice here, over one page with two addresses:
`Rule.Alike` relates what may come of that, `Rule.alike_walkAt` is that nothing else does, and where a walk
asks for none of these properties, alike results are equal (`Rule.eq_of_alike`). -/

namespace Gleaner

/-! ## What a walk asks for -/

namespace RuleFunction

/-- The function reads an address of the page, completed by that of the page. -/
def ReadsAddress (f : RuleFunction) : Prop := f = .prop "href" ∨ f = .prop "src"

/-- Evaluating the first function can come to evaluating the second. -/
inductive Reaches : RuleFunction → RuleFunction → Prop where
  | self (f : RuleFunction) : Reaches f f
  | findOne (selector : String) (rule : Rule) (g f : RuleFunction) (hg : g ∈ rule.asked)
    (h : Reaches g f) : Reaches (.findOne selector rule) f
  | find (selector : String) (rule : Rule) (g f : RuleFunction) (hg : g ∈ rule.asked)
    (h : Reaches g f) : Reaches (.find selector rule) f
  | nested (rule : Rule) (g f : RuleFunction) (hg : g ∈ rule.asked) (h : Reaches g f) :
    Reaches (.nested rule) f

end RuleFunction

/-- Walking the rule can come to evaluating the function. -/
def Rule.Reaches (r : Rule) (f : RuleFunction) : Prop := ∃ g ∈ r.asked, g.Reaches f

/-! ## Alike results -/

mutual

/-- Two results of a rule are equal but for completed addresses: under the same names stand alike values. -/
def Rule.Alike : Rule → Json → Json → Prop
  | .mk (some f) _ _, v, w => f.Alike v w
  | .mk none fields _, v, w => v = w ∨ ∃ members others, v = .obj members ∧ w = .obj others
      ∧ List.Forall₂ (fun m n => m.1 = n.1 ∧ Rule.FieldsAlike fields m.1 m.2 n.2) members others

/-- Two values are alike as those of a field with this name. -/
def Rule.FieldsAlike : List (String × RuleFunction) → String → Json → Json → Prop
  | [], _, _, _ => False
  | (name, f) :: rest, key, v, w => (key = name ∧ f.Alike v w) ∨ Rule.FieldsAlike rest key v w

/-- Two values of a function are equal but for completed addresses; for an address there is a text in both
or in none. -/
def RuleFunction.Alike : RuleFunction → Json → Json → Prop
  | .prop name, v, w =>
    v = w ∨ ((name = "href" ∨ name = "src") ∧ ∃ s s', v = .str s ∧ w = .str s')
  | .findOne _ rule, v, w => v = w ∨ rule.Alike v w
  | .find _ rule, v, w =>
    v = w ∨ ∃ items others, v = .arr items ∧ w = .arr others ∧ List.Forall₂ rule.Alike items others
  | .nested rule, v, w => v = w ∨ rule.Alike v w
  | .text, v, w | .value, v, w | .html, v, w | .css _, v, w | .data _, v, w | .attr _, v, w
  | .invalid _, v, w => v = w

end

theorem Rule.fieldsAlike_iff {fields : List (String × RuleFunction)} {key : String} {v w : Json} :
    FieldsAlike fields key v w ↔ ∃ p ∈ fields, key = p.1 ∧ p.2.Alike v w := by
  induction fields with
  | nil => simp [FieldsAlike]
  | cons p rest ih => simp [FieldsAlike, ih]

@[simp] theorem RuleFunction.alike_refl (f : RuleFunction) (v : Json) : f.Alike v v := by
  cases f <;> simp [Alike]

/-! ## Alike results that are equal -/

/-- Alike results of a rule are equal if that is so for the functions that a walk asks for. -/
theorem Rule.eq_of_alike_of_asked {r : Rule}
    (h : ∀ f ∈ r.asked, ∀ v w, f.Alike v w → v = w) {v w : Json} (hvw : r.Alike v w) : v = w := by
  obtain ⟨_ | s, fields, malformed⟩ := r
  · rw [Alike] at hvw
    rcases hvw with heq | ⟨members, others, rfl, rfl, hmembers⟩
    · exact heq
    · have hsame : List.Forall₂ (· = ·) members others := by
        refine hmembers.imp fun m n ⟨hname, hvalue⟩ => Prod.ext hname ?_
        obtain ⟨p, hp, -, halike⟩ := fieldsAlike_iff.mp hvalue
        exact h p.2 (List.mem_map.mpr ⟨p, hp, rfl⟩) _ _ halike
      rw [List.forall₂_eq_eq_eq] at hsame
      rw [hsame]
  · rw [Alike] at hvw
    exact h s (List.mem_singleton.mpr rfl) v w hvw

theorem RuleFunction.eq_of_alike {f : RuleFunction} (h : ∀ g, f.Reaches g → ¬ g.ReadsAddress)
    {v w : Json} (hvw : f.Alike v w) : v = w := by
  induction f generalizing v w with
  | prop name =>
    rw [Alike] at hvw
    rcases hvw with heq | ⟨hname, -⟩
    · exact heq
    · refine absurd ?_ (h _ (.self _))
      exact hname.imp (congrArg prop) (congrArg prop)
  | findOne selector rule ih =>
    rw [Alike] at hvw
    rcases hvw with heq | hrule
    · exact heq
    · refine rule.eq_of_alike_of_asked (fun g hg v w => ?_) hrule
      exact ih g (Rule.mem_functions_of_mem_asked hg) fun f hf => h f (.findOne _ _ g f hg hf)
  | find selector rule ih =>
    rw [Alike] at hvw
    rcases hvw with heq | ⟨items, others, rfl, rfl, hitems⟩
    · exact heq
    · have hsame : List.Forall₂ (· = ·) items others := by
        refine hitems.imp fun v w => rule.eq_of_alike_of_asked fun g hg v w => ?_
        exact ih g (Rule.mem_functions_of_mem_asked hg) fun f hf => h f (.find _ _ g f hg hf)
      rw [List.forall₂_eq_eq_eq] at hsame
      rw [hsame]
  | nested rule ih =>
    rw [Alike] at hvw
    rcases hvw with heq | hrule
    · exact heq
    · refine rule.eq_of_alike_of_asked (fun g hg v w => ?_) hrule
      exact ih g (Rule.mem_functions_of_mem_asked hg) fun f hf => h f (.nested _ g f hg hf)
  | _ => exact hvw

/-- Where a walk asks for no address, alike results are equal. -/
theorem Rule.eq_of_alike {r : Rule} (h : ∀ f, r.Reaches f → ¬ f.ReadsAddress) {v w : Json}
    (hvw : r.Alike v w) : v = w :=
  eq_of_alike_of_asked
    (fun f hf _ _ => RuleFunction.eq_of_alike fun g hg => h g ⟨f, hf, hg⟩) hvw

/-! ## Two walks -/

namespace Element

/-- Without an attribute there is no address to complete, and nothing but elements has attributes. -/
theorem prop_of_address (resolve : String → String) (c : Html.Cursor) {name : String}
    (h : name = "href" ∨ name = "src") :
    prop resolve c name = .ofText? ((c.node.attribute? name).map resolve) := by
  cases hnode : c.node with
  | element tag attributes =>
    rcases h with rfl | rfl <;> simp [prop, hnode, Html.Node.tag?, Html.Node.name?]
  | _ => rcases h with rfl | rfl <;> simp only [prop, hnode] <;> rfl

/-- The elements below are the same for every address. -/
theorem find_accessors (resolve : String → String) : (accessors resolve).find = find := rfl

/-- No other property is completed. -/
theorem prop_of_not_address (resolve resolve' : String → String) (c : Html.Cursor) {name : String}
    (h : ¬ (name = "href" ∨ name = "src")) : prop resolve c name = prop resolve' c name := by
  simp only [prop, h, if_false]

end Element

section Walks

variable (resolve resolve' : String → String) (bound : Nat)

/-- The two addresses of a property are alike. -/
theorem RuleFunction.alike_prop (c : Html.Cursor) (name : String) :
    (RuleFunction.prop name).Alike (Element.prop resolve c name) (Element.prop resolve' c name) := by
  rw [RuleFunction.Alike]
  by_cases hname : name = "href" ∨ name = "src"
  · rw [Element.prop_of_address resolve c hname, Element.prop_of_address resolve' c hname]
    cases c.node.attribute? name with
    | none => exact Or.inl rfl
    | some raw => exact Or.inr ⟨hname, _, _, rfl, rfl⟩
  · exact Or.inl (Element.prop_of_not_address resolve resolve' c hname)

/-- The two walks of a rule give alike results if its functions do. -/
theorem Rule.alike_walkAt_of_functions {r : Rule}
    (h : ∀ f ∈ r.functions, ∀ c depth,
      f.Alike (f.evaluateAt (Element.accessors resolve) bound c depth)
        (f.evaluateAt (Element.accessors resolve') bound c depth))
    (c : Html.Cursor) (depth : Nat) :
    r.Alike (r.walkAt (Element.accessors resolve) bound c depth)
      (r.walkAt (Element.accessors resolve') bound c depth) := by
  obtain ⟨shortcut, fields, malformed⟩ := r
  obtain ⟨hshortcut, hfields⟩ := forall_functions_iff.mp h
  by_cases hdepth : bound < depth
  · cases shortcut <;> simp only [Alike, walkAt, hdepth, if_true, true_or, RuleFunction.alike_refl]
  · cases shortcut with
    | some f =>
      simp only [Alike, walkAt, hdepth, if_false]
      exact hshortcut f rfl c (depth + 1)
    | none =>
      simp only [Alike, walkAt, hdepth, if_false]
      refine Or.inr ⟨_, _, rfl, rfl, Entries.forall₂_ofList (fun _ _ hab => hab.1) ?_⟩
      rw [walkFields_eq_map, walkFields_eq_map, List.forall₂_map_left_iff,
        List.forall₂_map_right_iff, List.forall₂_same]
      intro p hp
      exact ⟨rfl, fieldsAlike_iff.mpr ⟨p, hp, rfl, hfields p hp c (depth + 1)⟩⟩

theorem RuleFunction.alike_evaluateAt (f : RuleFunction) (c : Html.Cursor) (depth : Nat) :
    f.Alike (f.evaluateAt (Element.accessors resolve) bound c depth)
      (f.evaluateAt (Element.accessors resolve') bound c depth) := by
  induction f generalizing c depth with
  | prop name =>
    simp only [evaluateAt]
    split
    · exact alike_refl _ _
    · exact alike_prop resolve resolve' c name
  | findOne selector rule ih =>
    have hrule := rule.alike_walkAt_of_functions resolve resolve' bound ih
    simp only [evaluateAt, Element.find_accessors]
    split
    · exact alike_refl _ _
    · rcases Element.find c selector with _ | _ | ⟨first, rest⟩
      · exact alike_refl _ _
      · exact alike_refl _ _
      · exact Or.inr (hrule first (depth + 1))
  | find selector rule ih =>
    have hrule := rule.alike_walkAt_of_functions resolve resolve' bound ih
    simp only [evaluateAt, Element.find_accessors]
    split
    · exact alike_refl _ _
    · cases Element.find c selector with
      | none => exact alike_refl _ _
      | some found =>
        refine Or.inr ⟨_, _, rfl, rfl, ?_⟩
        rw [List.forall₂_map_left_iff, List.forall₂_map_right_iff, List.forall₂_same]
        exact fun d _ => hrule d (depth + 1)
  | nested rule ih =>
    have hrule := rule.alike_walkAt_of_functions resolve resolve' bound ih
    simp only [evaluateAt]
    split
    · exact alike_refl _ _
    · exact Or.inr (hrule c (depth + 1))
  | _ => rfl

/-- The two walks of a rule over one page give alike results. -/
theorem Rule.alike_walkAt (r : Rule) (c : Html.Cursor) (depth : Nat) :
    r.Alike (r.walkAt (Element.accessors resolve) bound c depth)
      (r.walkAt (Element.accessors resolve') bound c depth) :=
  r.alike_walkAt_of_functions resolve resolve' bound
    (fun f _ => f.alike_evaluateAt resolve resolve' bound) c depth

end Walks

/-! ## Main result -/

/-- Where the page has no address, an address on it is the attribute as it stands. -/
theorem RuleFunction.evaluate_address (bound : Nat) (c : Html.Cursor) (base : Option Url)
    {name : String} (h : name = "href" ∨ name = "src") :
    (RuleFunction.prop name).evaluate (Element.accessors (Url.resolve none)) bound c
      = (RuleFunction.attr name).evaluate (Element.accessors (Url.resolve base)) bound c := by
  have hnone : Url.resolve none = id := rfl
  simp only [evaluate, evaluateAt, Element.accessors, hnone, Element.prop_of_address id c h,
    Option.map_id, id_eq]

/-- The address of a page decides nothing but the addresses that a rule reads from it. Where a walk asks
for none, it gives the same for any two addresses of the page, or for one and none. In any case the two
results differ only where a property `href` or `src` is read, and there a text stands in both. Without an
address of the page these properties are the attributes. -/
theorem Rule.walk_of_two_bases (r : Rule) (bound : Nat) (c : Html.Cursor) (base other : Option Url) :
    let result := r.walk (Element.accessors (Url.resolve base)) bound c
    let result' := r.walk (Element.accessors (Url.resolve other)) bound c
    ((∀ f, r.Reaches f → ¬ f.ReadsAddress) → result = result')
    ∧ r.Alike result result'
    ∧ ∀ name, name = "href" ∨ name = "src" →
      (RuleFunction.prop name).evaluate (Element.accessors (Url.resolve none)) bound c
        = (RuleFunction.attr name).evaluate (Element.accessors (Url.resolve base)) bound c := by
  have halike := r.alike_walkAt (Url.resolve base) (Url.resolve other) bound c 0
  exact ⟨fun hreaches => eq_of_alike hreaches halike, halike,
    fun name hname => RuleFunction.evaluate_address bound c base hname⟩

/-- The text of a link hides the address behind it, so that of the page does not matter. -/
theorem Rule.walk_texts_of_links :
    let link := Rule.build [("address", .prop "href"), ("_", .text)]
    let base : Url := { scheme := "http", authority := some { host := .ipv4 0 }, path := .segments [""] }
    (∀ f, (single (.find "a" link)).Reaches f → ¬ f.ReadsAddress)
      ∧ (single (.find "a" link)).walk (Element.accessors (Url.resolve (some base))) 3
        (Html.Page.read "<a href=x>y").top = .arr [.str "y"] := by
  intro link base
  have hreaches : ∀ f, (single (.find "a" link)).Reaches f → ¬ f.ReadsAddress := by
    rintro f ⟨g, hg, hreach⟩
    obtain rfl : g = .find "a" link := List.mem_singleton.mp hg
    cases hreach with
    | self => rintro (h | h) <;> cases h
    | find _ _ g _ hg hreach =>
      obtain rfl : g = .text := List.mem_singleton.mp hg
      cases hreach with
      | self => rintro (h | h) <;> cases h
  refine ⟨hreaches, ?_⟩
  rw [(walk_of_two_bases _ 3 _ (some base) none).1 hreaches]
  decide +kernel

end Gleaner
