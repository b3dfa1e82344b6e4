import Gleaner.Element
import Gleaner.Html.Reader
import Gleaner.Proofs.Rule.Depth
import Gleaner.Proofs.Rule.Reading

set_option autoImplicit false

/-! # Written rules, applied as they stand

The meaning of a written rule without rules and functions in between: `Written.walk` takes the JSON
value itself, member by member, and `Written.evaluate` takes what stands in the place of a function.
Reading a rule and walking it gives the same (`Rule.walk_ofJson`), whatever stands in the value
where something else was expected. -/

namespace Gleaner

variable {E : Type}

namespace Written

/-! ## The direct meaning -/

/-- The value that a word gives with the text behind it, for an element. `below` is what happens to
the elements that are found. -/
def apply (t : Accessors E) (word : String) (name : Option String) (below : E → Json) (e : E) :
    Json :=
  match word, name with
  | "text", _ => .str (t.text e)
  | "value", _ => t.value e
  | "html", _ => .ofText? (t.innerHtml e)
  | "css", some property => .ofText? (t.css e property)
  | "data", some key => t.data e key
  | "attr", some name => .ofText? (t.attr e name)
  | "prop", some name => t.prop e name
  | "findOne", some selector =>
    match t.find e selector with
    | some (first :: _) => below first
    | some [] | none => .null
  | "find", some selector =>
    match t.find e selector with
    | some found => .arr (found.map below)
    | none => .null
  | _, _ => .null

mutual

/-- The result of what stands in the place of a rule: nothing but an object has members. -/
def walk (t : Accessors E) : Json → E → Json
  | .obj members, e => (shortcutValue? t members e).getD (.object (values t members e))
  | _, _ => .obj []

/-- The value of the first true member under the name of the shortcut. -/
def shortcutValue? (t : Accessors E) : List (String × Json) → E → Option Json
  | [], _ => none
  | (name, raw) :: rest, e =>
    if name = "_" ∧ raw.isTruthy = true then some (evaluate t raw e) else shortcutValue? t rest e

/-- The value of every member under its name. -/
def values (t : Accessors E) : List (String × Json) → E → List (String × Json)
  | [], _ => []
  | (name, raw) :: rest, e => (name, evaluate t raw e) :: values t rest e

/-- The value of what stands in the place of a function. A word alone is the array of that word, an
object is a rule for the same element, and a rule that is missing has no members. -/
def evaluate (t : Accessors E) : Json → E → Json
  | .str word, e => apply t word none (fun _ => .obj []) e
  | .arr [.str word], e => apply t word none (fun _ => .obj []) e
  | .arr [.str word, name], e => apply t word name.name? (fun _ => .obj []) e
  | .arr (.str word :: name :: rule :: _), e => apply t word name.name? (walk t rule) e
  | .obj members, e => (shortcutValue? t members e).getD (.object (values t members e))
  | _, _ => .null

end

/-! ## Words, objects and arrays -/

theorem apply_of_unknown (t : Accessors E) {word : String} (h : ∀ op : Operator, word ≠ op.tag)
    (name : Option String) (below : E → Json) (e : E) : apply t word name below e = .null := by
  unfold apply
  split
  · exact absurd rfl (h .text)
  · exact absurd rfl (h .value)
  · exact absurd rfl (h .html)
  · exact absurd rfl (h .css)
  · exact absurd rfl (h .data)
  · exact absurd rfl (h .attr)
  · exact absurd rfl (h .prop)
  · exact absurd rfl (h .findOne)
  · exact absurd rfl (h .find)
  · rfl

theorem values_eq_map (t : Accessors E) (members : List (String × Json)) (e : E) :
    values t members e = members.map fun m => (m.1, evaluate t m.2 e) := by
  induction members with
  | nil => rfl
  | cons m rest ih => simp [values, ih]

theorem shortcutValue?_eq (t : Accessors E) (members : List (String × Json)) (e : E) :
    shortcutValue? t members e = (members.find? Rule.isShortcut).map fun m => evaluate t m.2 e := by
  induction members with
  | nil => rfl
  | cons m rest ih =>
    have hm : (m.1 = "_" ∧ m.2.isTruthy = true) ↔ Rule.isShortcut m = true :=
      Rule.isShortcut_iff.symm
    simp only [shortcutValue?, hm, ih]
    by_cases h : Rule.isShortcut m = true <;> simp [h]

theorem evaluate_obj (t : Accessors E) (members : List (String × Json)) (e : E) :
    evaluate t (.obj members) e = walk t (.obj members) e := by
  rw [evaluate, walk]

theorem evaluate_arr (t : Accessors E) (word : String) (args : List Json) (e : E) :
    evaluate t (.arr (.str word :: args)) e
      = apply t word (args.head?.bind Json.name?) (walk t (args[1]?.getD .null)) e := by
  match args with
  | [] => rfl
  | [name] => rfl
  | name :: rule :: rest => rfl

end Written

/-! ## Reading a rule keeps its meaning -/

theorem RuleFunction.evaluateFully_ofWord (t : Accessors E) (raw : Json) (word : String)
    (name : Option String) (rule : Rule) (e : E) :
    (ofWord raw word name rule).evaluateFully t e
      = Written.apply t word name (rule.walkFully t) e := by
  rcases Operator.tag_or_unknown word with ⟨op, rfl⟩ | ⟨hnone, hne⟩
  · rw [ofWord_tag]
    cases op <;> cases name <;> rfl
  · rw [ofWord_of_unknown hnone, Written.apply_of_unknown t hne, evaluateFully]

/-- An object is walked as written if the functions of its members are evaluated as written. -/
theorem Rule.walkFully_ofJson_obj (t : Accessors E) {members : List (String × Json)}
    (h : ∀ m ∈ members, ∀ e, (RuleFunction.ofJson m.2).evaluateFully t e = Written.evaluate t m.2 e)
    (e : E) : (ofJson (.obj members)).walkFully t e = Written.walk t (.obj members) e := by
  rw [ofJson_obj, Written.walk, Written.shortcutValue?_eq, Written.values_eq_map]
  cases hfind : members.find? isShortcut with
  | some m =>
    simp only [Option.map_some, walkFully, Option.getD_some]
    exact h m (List.mem_of_find?_eq_some hfind) e
  | none =>
    simp only [Option.map_none, walkFully, walkFieldsFully_eq_map,
      filter_not_isShortcut_of_none hfind, List.map_map, Option.getD_none, Json.object]
    congr 2
    apply List.map_congr_left
    intro m hm
    simp only [Function.comp_apply, h m hm]

/-- What is read from a value has the meaning of the value, in the place of a rule and in the place
of a function. -/
theorem Rule.walkFully_ofJson_and_evaluateFully_ofJson (t : Accessors E) (v : Json) :
    (∀ e, (Rule.ofJson v).walkFully t e = Written.walk t v e)
      ∧ ∀ e, (RuleFunction.ofJson v).evaluateFully t e = Written.evaluate t v e := by
  induction v using Written.induction with
  | stray v h => cases h <;> exact ⟨fun e => rfl, fun e => rfl⟩
  | str word => exact ⟨fun e => rfl, fun e => RuleFunction.evaluateFully_ofWord t ..⟩
  | arr word args ih =>
    refine ⟨fun e => rfl, fun e => ?_⟩
    rw [RuleFunction.ofJson_arr, RuleFunction.evaluateFully_ofWord, Written.evaluate_arr,
      funext ih.1]
  | obj members ih =>
    have hrule := Rule.walkFully_ofJson_obj t fun m hm => (ih m hm).2
    refine ⟨hrule, fun e => ?_⟩
    rw [RuleFunction.ofJson_obj, RuleFunction.evaluateFully, Written.evaluate_obj, hrule]

/-! ## Main result -/

/-- Reading a rule and walking it gives what the written rule means, within any bound that is not
smaller than the height of the rule. -/
theorem Rule.walk_ofJson (t : Accessors E) (bound : Nat) (v : Json) (e : E)
    (h : (Rule.ofJson v).height ≤ bound) : (Rule.ofJson v).walk t bound e = Written.walk t v e := by
  rw [walk_eq_walkFully_of_height_le t h]
  exact (walkFully_ofJson_and_evaluateFully_ofJson t v).1 e

/-- Items and the title of a page that has none. The member under the name of the shortcut is false,
the item behind the rule is surplus, and the last function lacks its rule. -/
theorem Rule.walk_ofJson_items_and_title :
    (ofJson (.obj [("_", .str ""),
        ("items", .arr [.str "find", .str "li", .obj [("_", .str "text")], .null]),
        ("title", .arr [.str "findOne", .str "h1"])])).walk (Element.accessors id) 4
        (Html.Page.read "<ul><li>a<li>b</ul>").top
      = .obj [("_", .null), ("items", .arr [.str "a", .str "b"]), ("title", .null)] := by
  rw [walk_ofJson (Element.accessors id) 4 _ _ (by decide)]
  decide +kernel

end Gleaner
