import Gleaner.Json.Basic

set_option autoImplicit false

/-! # Extraction rules

A rule says what to take from an element: a function for every field of the result, or one function,
the shortcut, that gives the whole result. A function reads one thing of the element, or finds elements
below it and applies a rule to them, or applies a rule to the element itself.

Rules are read leniently. What stands in the place of a function but is none is kept as it was written,
and so is what stands in the place of a rule, so that a check can report it later; both give nothing
when the rule is applied. -/

namespace Gleaner

/-! ## Operators -/

/-- What a function does with an element. -/
inductive Operator where
  | text | value | html | css | data | attr | prop | findOne | find
  deriving DecidableEq, Repr

namespace Operator

/-- The word that stands for an operator in a written rule. -/
def tag : Operator → String
  | text => "text"
  | value => "value"
  | html => "html"
  | css => "css"
  | data => "data"
  | attr => "attr"
  | prop => "prop"
  | findOne => "findOne"
  | find => "find"

/-- The operator that a word stands for. -/
def ofTag? (word : String) : Option Operator :=
  [text, value, html, css, data, attr, prop, findOne, find].find? fun op => op.tag == word

theorem ofTag?_tag (op : Operator) : ofTag? op.tag = some op := by cases op <;> rfl

end Operator

/-! ## Rules and their functions -/

mutual

/-- What to take from an element. -/
inductive Rule where
  /-- The shortcut and the fields in the order in which they are taken. `malformed` is what was
  written where a rule was expected. -/
  | mk (shortcut : Option RuleFunction) (fields : List (String × RuleFunction))
      (malformed : Option Json)

/-- How one value is taken from an element. -/
inductive RuleFunction where
  | text
  | value
  | html
  | css (property : String)
  | data (key : String)
  | attr (name : String)
  | prop (name : String)
  | findOne (selector : String) (rule : Rule)
  | find (selector : String) (rule : Rule)
  /-- A rule for the same element. -/
  | nested (rule : Rule)
  /-- What was written where a function was expected. -/
  | invalid (raw : Json)

end

/-! ## Equality -/

mutual

/-- Decides equality of rules. -/
def Rule.decEq : (a b : Rule) → Decidable (a = b)
  | .mk none fs m, .mk none gs n =>
    match Rule.decEqFields fs gs with
    | isTrue h => if hm : m = n then isTrue (by rw [h, hm]) else isFalse (by simp [hm])
    | isFalse h => isFalse (by simp [h])
  | .mk (some s) fs m, .mk (some t) gs n =>
    match RuleFunction.decEq s t, Rule.decEqFields fs gs with
    | isTrue hs, isTrue h => if hm : m = n then isTrue (by rw [hs, h, hm]) else isFalse (by simp [hm])
    | isFalse hs, _ => isFalse (by simp [hs])
    | _, isFalse h => isFalse (by simp [h])
  | .mk none _ _, .mk (some _) _ _ | .mk (some _) _ _, .mk none _ _ => isFalse (by simp)

/-- Decides equality of field lists. -/
def Rule.decEqFields : (a b : List (String × RuleFunction)) → Decidable (a = b)
  | [], [] => isTrue rfl
  | [], _ :: _ | _ :: _, [] => isFalse (by simp)
  | (k, f) :: fs, (l, g) :: gs =>
    if hk : k = l then
      match RuleFunction.decEq f g, Rule.decEqFields fs gs with
      | isTrue h, isTrue hs => isTrue (by rw [hk, h, hs])
      | isFalse h, _ => isFalse (by simp [h])
      | _, isFalse hs => isFalse (by simp [hs])
    else isFalse (by simp [hk])

/-- Decides equality of functions. -/
def RuleFunction.decEq (a b : RuleFunction) : Decidable (a = b) :=
  match a, b with
  | .text, .text => isTrue rfl
  | .value, .value => isTrue rfl
  | .html, .html => isTrue rfl
  | .css m, .css n => if h : m = n then isTrue (by rw [h]) else isFalse (by simp [h])
  | .data m, .data n => if h : m = n then isTrue (by rw [h]) else isFalse (by simp [h])
  | .attr m, .attr n => if h : m = n then isTrue (by rw [h]) else isFalse (by simp [h])
  | .prop m, .prop n => if h : m = n then isTrue (by rw [h]) else isFalse (by simp [h])
  | .findOne m q, .findOne n r =>
    if hs : m = n then
      match Rule.decEq q r with
      | isTrue h => isTrue (by rw [hs, h])
      | isFalse h => isFalse (by simp [h])
    else isFalse (by simp [hs])
  | .find m q, .find n r =>
    if hs : m = n then
      match Rule.decEq q r with
      | isTrue h => isTrue (by rw [hs, h])
      | isFalse h => isFalse (by simp [h])
    else isFalse (by simp [hs])
  | .nested q, .nested r => match Rule.decEq q r with
    | isTrue h => isTrue (by rw [h])
    | isFalse h => isFalse (by simp [h])
  | .invalid v, .invalid w => if h : v = w then isTrue (by rw [h]) else isFalse (by simp [h])
  | .text, .value | .text, .html | .text, .css _ | .text, .data _ | .text, .attr _ | .text, .prop _
  | .text, .findOne .. | .text, .find .. | .text, .nested _ | .text, .invalid _
  | .value, .text | .value, .html | .value, .css _ | .value, .data _ | .value, .attr _
  | .value, .prop _ | .value, .findOne .. | .value, .find .. | .value, .nested _ | .value, .invalid _
  | .html, .text | .html, .value | .html, .css _ | .html, .data _ | .html, .attr _ | .html, .prop _
  | .html, .findOne .. | .html, .find .. | .html, .nested _ | .html, .invalid _
  | .css _, .text | .css _, .value | .css _, .html | .css _, .data _ | .css _, .attr _
  | .css _, .prop _ | .css _, .findOne .. | .css _, .find .. | .css _, .nested _ | .css _, .invalid _
  | .data _, .text | .data _, .value | .data _, .html | .data _, .css _ | .data _, .attr _
  | .data _, .prop _ | .data _, .findOne .. | .data _, .find .. | .data _, .nested _
  | .data _, .invalid _
  | .attr _, .text | .attr _, .value | .attr _, .html | .attr _, .css _ | .attr _, .data _
  | .attr _, .prop _ | .attr _, .findOne .. | .attr _, .find .. | .attr _, .nested _
  | .attr _, .invalid _
  | .prop _, .text | .prop _, .value | .prop _, .html | .prop _, .css _ | .prop _, .data _
  | .prop _, .attr _ | .prop _, .findOne .. | .prop _, .find .. | .prop _, .nested _
  | .prop _, .invalid _
  | .findOne .., .text | .findOne .., .value | .findOne .., .html | .findOne .., .css _
  | .findOne .., .data _ | .findOne .., .attr _ | .findOne .., .prop _ | .findOne .., .find ..
  | .findOne .., .nested _ | .findOne .., .invalid _
  | .find .., .text | .find .., .value | .find .., .html | .find .., .css _ | .find .., .data _
  | .find .., .attr _ | .find .., .prop _ | .find .., .findOne .. | .find .., .nested _
  | .find .., .invalid _
  | .nested _, .text | .nested _, .value | .nested _, .html | .nested _, .css _ | .nested _, .data _
  | .nested _, .attr _ | .nested _, .prop _ | .nested _, .findOne .. | .nested _, .find ..
  | .nested _, .invalid _
  | .invalid _, .text | .invalid _, .value | .invalid _, .html | .invalid _, .css _
  | .invalid _, .data _ | .invalid _, .attr _ | .invalid _, .prop _ | .invalid _, .findOne ..
  | .invalid _, .find .. | .invalid _, .nested _ => isFalse (by simp)

end

instance : DecidableEq Rule := Rule.decEq
instance : DecidableEq RuleFunction := RuleFunction.decEq

/-! ## Functions -/

namespace RuleFunction

/-- The operator of a function that has one. -/
def operator? : RuleFunction → Option Operator
  | text => some .text
  | value => some .value
  | html => some .html
  | css _ => some .css
  | data _ => some .data
  | attr _ => some .attr
  | prop _ => some .prop
  | findOne .. => some .findOne
  | find .. => some .find
  | nested _ | invalid _ => none

/-- Every function is true except one that was written as something false. -/
def isTruthy : RuleFunction → Bool
  | invalid raw => raw.isTruthy
  | _ => true

end RuleFunction

/-! ## Building rules -/

namespace Rule

/-- The name under which a true function is the shortcut. -/
def shortcutName : String := "_"

/-- The function that gives the whole result. -/
def shortcut? : Rule → Option RuleFunction
  | mk shortcut _ _ => shortcut

/-- The functions of the fields, in order. -/
def fields : Rule → List (String × RuleFunction)
  | mk _ fields _ => fields

/-- What was written where a rule was expected. -/
def malformed? : Rule → Option Json
  | mk _ _ malformed => malformed

/-- A rule without any function. -/
def empty : Rule := mk none [] none

instance : Inhabited Rule := ⟨empty⟩

/-- The rule has no function. -/
def isEmpty (r : Rule) : Bool := r.shortcut?.isNone && r.fields.isEmpty

/-- Sets the function of a name and puts it behind the other fields. Under the name of the shortcut, a
true function becomes the shortcut and a false one an ordinary field. -/
def field (r : Rule) (name : String) (f : RuleFunction) : Rule :=
  let others := r.fields.filter fun entry => entry.1 != name
  if name = shortcutName then
    if f.isTruthy then mk (some f) others r.malformed?
    else mk none (others ++ [(name, f)]) r.malformed?
  else mk r.shortcut? (others ++ [(name, f)]) r.malformed?

/-- The rule whose result is that of one function. -/
def single (f : RuleFunction) : Rule := empty.field shortcutName f

/-- The rule that gives the markup of the element. -/
def html : Rule := single .html

end Rule

end Gleaner
