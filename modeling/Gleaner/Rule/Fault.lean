import Gleaner.Json.Printer
import Gleaner.Rule.Basic

set_option autoImplicit false

/-! # What is wrong with a rule

Applying a rule never fails, so mistakes in it show only as missing values. The check here goes over the
functions that applying the rule could reach, the shortcut first and then the fields in order, and
reports the first thing that is no function or no rule, together with the way to it. Names and
selectors are not looked at: every text is good enough. -/

namespace Gleaner

/-- A step on the way from a written rule to one of its parts. -/
inductive Rule.Step where
  | member (name : String)
  /-- The rule among the arguments of a function. -/
  | argument
  deriving DecidableEq, Repr

/-- A step, as it is written behind the steps before it. -/
def Rule.Step.text : Rule.Step → String
  | member name => "." ++ name
  | argument => "[2]"

/-- What was expected where something else stood. -/
inductive Rule.Expected where
  | function | rule
  deriving DecidableEq, Repr

/-- Something that was written in the wrong place. -/
structure Rule.Fault where
  /-- The way to it. -/
  steps : List Rule.Step
  expected : Rule.Expected
  raw : Json
  deriving DecidableEq

namespace Rule.Fault

/-- The way in writing; a dollar sign stands for the whole rule. -/
def path (f : Fault) : String := "$" ++ String.join (f.steps.map (·.text))

/-- The reason in words. -/
def reason (f : Fault) : String :=
  match f.expected with
  | .function => "unrecognized rule function " ++ f.raw.text
  | .rule => "expected a rule object, found " ++ f.raw.text

/-- The fault, seen from one step further out. -/
def behind (step : Step) (f : Fault) : Fault := { f with steps := step :: f.steps }

end Rule.Fault

mutual

/-- The first fault of a rule. -/
def Rule.fault? : Rule → Option Rule.Fault
  | .mk _ _ (some raw) => some ⟨[], .rule, raw⟩
  | .mk none fields none => Rule.fieldsFault? fields
  | .mk (some f) fields none =>
    (f.fault?.map (.behind (.member Rule.shortcutName))).or (Rule.fieldsFault? fields)

/-- The first fault among fields. -/
def Rule.fieldsFault? : List (String × RuleFunction) → Option Rule.Fault
  | [] => none
  | (name, f) :: rest => (f.fault?.map (.behind (.member name))).or (Rule.fieldsFault? rest)

/-- The first fault of a function. -/
def RuleFunction.fault? : RuleFunction → Option Rule.Fault
  | .invalid raw => some ⟨[], .function, raw⟩
  | .findOne _ rule | .find _ rule => rule.fault?.map (.behind .argument)
  | .nested rule => rule.fault?
  | .text | .value | .html | .css _ | .data _ | .attr _ | .prop _ => none

end

end Gleaner
