import Gleaner.Css.Matching
import Gleaner.Css.SelectorText
import Gleaner.Element.Dataset
import Gleaner.Element.Style
import Gleaner.Html.Serialize
import Gleaner.Rule.Walk

set_option autoImplicit false

/-! # Reading the elements of a page

What a rule can read of a node of a page. The root of a page has text, markup and elements below it,
but no attributes and so no value, style, data or properties. -/

namespace Gleaner.Element

open Html

/-! ## Form controls -/

/-- The element has an attribute. -/
def has (n : Node) (name : String) : Bool := (n.attribute? name).isSome

/-- The options below a node, in tree order. -/
def options (c : Cursor) : List Node :=
  (c.elementsBelow.map (·.node)).filter fun n => n.tag? == some "option"

/-- The value of a choice among options: the values of all that are selected where several may be, and
else the value of the first that is selected or, if none is, of the first. -/
def choice (many : Bool) (options : List Node) : Json :=
  if many then
    .arr (((options.filter (has · "selected")).filterMap (·.attribute? "value")).map .str)
  else
    .ofText? (((options.find? (has · "selected")).or options.head?).bind (·.attribute? "value"))

/-- The value of a form control. -/
def value (c : Cursor) : Json :=
  match c.node.tag? with
  | some "textarea" => .str c.text
  | some "select" => choice (has c.node "multiple") (options c)
  | some "input" | some "option" => .ofText? (c.node.attribute? "value")
  | _ => .null

/-! ## Styles and data -/

/-- The declarations of the inline style. -/
def declarations (n : Node) : List Style.Declaration :=
  ((n.attribute? "style").map Style.declarations).getD []

/-- The inline style as an object; of several declarations of one spelling the last one stays. -/
def styleObject (n : Node) : Json :=
  .object ((declarations n).map fun d => (d.property, .str d.value))

/-- An entry of the data set. -/
def data (n : Node) (key : String) : Json :=
  ((n.attribute? (Dataset.attributeName key)).map Dataset.decode).getD .null

/-! ## Properties -/

/-- The attributes that count as true by being there. -/
def booleanAttributes : List String :=
  ["async", "autofocus", "autoplay", "checked", "controls", "defer", "disabled", "hidden", "loop",
    "multiple", "open", "readonly", "required", "scoped", "selected"]

/-- A property of an element. `resolve` completes an address. -/
def prop (resolve : String → String) (c : Cursor) (name : String) : Json :=
  let n := c.node
  match n.tag? with
  | none => .null
  | some tag =>
    if name = "tagName" ∨ name = "nodeName" then .str (Text.upper tag)
    else if name = "innerHTML" then .str c.innerHtml
    else if name = "outerHTML" then .str c.outerHtml
    else if name = "textContent" ∨ name = "innerText" then .str c.text
    else if name = "style" then styleObject n
    else if name = "href" ∨ name = "src" then .ofText? ((n.attribute? name).map resolve)
    else if booleanAttributes.contains (Text.lower name) then .bool (has n (Text.lower name))
    else .ofText? (n.attribute? name)

/-! ## Elements below -/

/-- The elements below a node that a selector means, in tree order. -/
def find (c : Cursor) (selector : String) : Option (List Cursor) :=
  (Css.Selector.parse? selector).map fun s => c.elementsBelow.filter s.accepts

/-- What can be read of the nodes of a page whose addresses are completed by `resolve`. -/
def accessors (resolve : String → String) : Accessors Cursor where
  text c := c.text
  value := value
  innerHtml c := some (if c.node.isElement then c.innerHtml else c.outerHtml)
  css c property := Style.property? (declarations c.node) property
  data c key := data c.node key
  attr c name := c.node.attribute? name
  prop c name := prop resolve c name
  find := find

end Gleaner.Element
