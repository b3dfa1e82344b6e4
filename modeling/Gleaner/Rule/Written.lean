import Gleaner.Json.Reader
import Gleaner.Rule.Basic

set_option autoImplicit false

/-! # Written rules

A rule is written as a JSON object of functions by field name. A function is written as the word of its
operator, as an array of that word and its arguments, or as an object, which is a rule for the same
element. Surplus arguments are ignored; an operator that lacks an argument it needs makes the whole
array no function. -/

namespace Gleaner

/-! ## From JSON -/

/-- The function of an operator: its name or selector, if one was given, and its rule. -/
def Operator.function? (op : Operator) (name : Option String) (rule : Rule) : Option RuleFunction :=
  match op, name with
  | .text, _ => some .text
  | .value, _ => some .value
  | .html, _ => some .html
  | .css, some name => some (.css name)
  | .data, some name => some (.data name)
  | .attr, some name => some (.attr name)
  | .prop, some name => some (.prop name)
  | .findOne, some selector => some (.findOne selector rule)
  | .find, some selector => some (.find selector rule)
  | _, none => none

/-- The function that starts with a word; what was written is kept if there is none. -/
def RuleFunction.ofWord (raw : Json) (word : String) (name : Option String) (rule : Rule) :
    RuleFunction :=
  ((Operator.ofTag? word).bind fun op => op.function? name rule).getD (.invalid raw)

/-- What was written stands where a rule was expected. -/
def Rule.notARule (raw : Json) : Rule := .mk none [] (some raw)

/-- A text among the arguments. -/
def Json.name? : Json → Option String
  | .str s => some s
  | _ => none

mutual

/-- The rule that a value is. -/
def Rule.ofJson : Json → Rule
  | .obj members =>
    let (shortcut, fields) := Rule.ofMembers members
    .mk shortcut fields none
  | raw => .notARule raw

/-- The shortcut and the fields among the members of an object. -/
def Rule.ofMembers : List (String × Json) → Option RuleFunction × List (String × RuleFunction)
  | [] => (none, [])
  | (name, raw) :: rest =>
    let (shortcut, fields) := Rule.ofMembers rest
    if name = Rule.shortcutName ∧ raw.isTruthy = true then (some (RuleFunction.ofJson raw), fields)
    else (shortcut, (name, RuleFunction.ofJson raw) :: fields)

/-- The function that a value is. -/
def RuleFunction.ofJson : Json → RuleFunction
  | .str word => .ofWord (.str word) word none (.notARule .null)
  | .arr [.str word] => .ofWord (.arr [.str word]) word none (.notARule .null)
  | .arr [.str word, name] => .ofWord (.arr [.str word, name]) word name.name? (.notARule .null)
  | .arr (.str word :: name :: rule :: rest) =>
    .ofWord (.arr (.str word :: name :: rule :: rest)) word name.name? (Rule.ofJson rule)
  | .obj members =>
    let (shortcut, fields) := Rule.ofMembers members
    .nested (.mk shortcut fields none)
  | raw => .invalid raw

end

/-- The rule that a text spells. -/
def Rule.read (s : String) : Except Json.ReadError Rule := (Json.read s).map Rule.ofJson

/-! ## To JSON -/

mutual

/-- The written form of a rule. -/
def Rule.toJson : Rule → Json
  | .mk _ _ (some raw) => raw
  | .mk none fields none => .obj (Entries.ofList (Rule.fieldsToJson fields))
  | .mk (some f) fields none =>
    .obj (Entries.insert Rule.shortcutName f.toJson (Entries.ofList (Rule.fieldsToJson fields)))

/-- The members that fields are written as, in the order of the fields. -/
def Rule.fieldsToJson : List (String × RuleFunction) → List (String × Json)
  | [] => []
  | (name, f) :: rest => (name, f.toJson) :: Rule.fieldsToJson rest

/-- The written form of a function. -/
def RuleFunction.toJson : RuleFunction → Json
  | .text => .str Operator.text.tag
  | .value => .str Operator.value.tag
  | .html => .str Operator.html.tag
  | .css name => .arr [.str Operator.css.tag, .str name]
  | .data key => .arr [.str Operator.data.tag, .str key]
  | .attr name => .arr [.str Operator.attr.tag, .str name]
  | .prop name => .arr [.str Operator.prop.tag, .str name]
  | .findOne selector rule => .arr [.str Operator.findOne.tag, .str selector, rule.toJson]
  | .find selector rule => .arr [.str Operator.find.tag, .str selector, rule.toJson]
  | .nested rule => rule.toJson
  | .invalid raw => raw

end

end Gleaner
