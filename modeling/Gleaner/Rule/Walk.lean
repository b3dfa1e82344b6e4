import Gleaner.Rule.Basic

set_option autoImplicit false

/-! # Applying rules

A rule is applied to an element through eight accessors and nothing else, so it works on any kind of
tree that has them. Applying never fails: what is no function, a selector that is none and an element
that is not there give null.

Rules and functions are nested in each other, and each step down counts one level; what stands deeper
than the bound gives null. -/

namespace Gleaner

/-- What can be read of the elements of a tree. -/
structure Accessors (E : Type) where
  /-- All text below. -/
  text : E → String
  /-- The value of a form control. -/
  value : E → Json
  /-- The markup of what is below. -/
  innerHtml : E → Option String
  /-- A property of the inline style. -/
  css : E → String → Option String
  /-- An entry of the data set. -/
  data : E → String → Json
  attr : E → String → Option String
  prop : E → String → Json
  /-- The elements below that a selector means, in tree order; none for a text that is no selector. -/
  find : E → String → Option (List E)

variable {E : Type}

mutual

/-- The result of a rule that stands at a depth. -/
def Rule.walkAt (t : Accessors E) (bound : Nat) : Rule → E → Nat → Json
  | .mk none fields _, e, depth =>
    if bound < depth then .null
    else .obj (Entries.ofList (Rule.walkFields t bound fields e (depth + 1)))
  | .mk (some f) _ _, e, depth =>
    if bound < depth then .null else f.evaluateAt t bound e (depth + 1)

/-- The results of fields whose functions stand at a depth. -/
def Rule.walkFields (t : Accessors E) (bound : Nat) :
    List (String × RuleFunction) → E → Nat → List (String × Json)
  | [], _, _ => []
  | (name, f) :: rest, e, depth =>
    (name, f.evaluateAt t bound e depth) :: Rule.walkFields t bound rest e depth

/-- The value of a function that stands at a depth. -/
def RuleFunction.evaluateAt (t : Accessors E) (bound : Nat) : RuleFunction → E → Nat → Json
  | .text, e, depth => if bound < depth then .null else .str (t.text e)
  | .value, e, depth => if bound < depth then .null else t.value e
  | .html, e, depth => if bound < depth then .null else .ofText? (t.innerHtml e)
  | .css property, e, depth => if bound < depth then .null else .ofText? (t.css e property)
  | .data key, e, depth => if bound < depth then .null else t.data e key
  | .attr name, e, depth => if bound < depth then .null else .ofText? (t.attr e name)
  | .prop name, e, depth => if bound < depth then .null else t.prop e name
  | .findOne selector rule, e, depth =>
    if bound < depth then .null
    else match t.find e selector with
      | some (first :: _) => rule.walkAt t bound first (depth + 1)
      | some [] | none => .null
  | .find selector rule, e, depth =>
    if bound < depth then .null
    else match t.find e selector with
      | some found => .arr (found.map fun d => rule.walkAt t bound d (depth + 1))
      | none => .null
  | .nested rule, e, depth =>
    if bound < depth then .null else rule.walkAt t bound e (depth + 1)
  | .invalid _, _, _ => .null

end

/-- The result of a rule for an element, with levels up to a bound. -/
def Rule.walk (t : Accessors E) (bound : Nat) (rule : Rule) (e : E) : Json := rule.walkAt t bound e 0

/-- The value of a function for an element, with levels up to a bound. -/
def RuleFunction.evaluate (t : Accessors E) (bound : Nat) (f : RuleFunction) (e : E) : Json :=
  f.evaluateAt t bound e 0

/-- The bound unless another one is set. -/
def Rule.defaultBound : Nat := 256

end Gleaner
