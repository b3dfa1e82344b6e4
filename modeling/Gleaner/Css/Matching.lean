import Gleaner.Css.Selector
import Gleaner.Html.Cursor

set_option autoImplicit false

/-! # Matching selectors

Whether an element is meant by a selector depends on the element, on what is around it and, for
`:has`, on what is below and behind it. A chain is matched from its last compound outward. The ways up
lead through elements only, so what stands in a template has nothing around it but what stands in
there with it. -/

namespace Gleaner.Css

open Html

/-! ## Attribute values -/

/-- The characters of a text, with ASCII letters in lower case when case does not count. -/
def foldCase (insensitive : Bool) (s : String) : List Char :=
  if insensitive then s.toList.map Char.toLower else s.toList

/-- One text stands somewhere in the other. -/
def occursIn (part : List Char) : List Char → Bool
  | [] => part.isEmpty
  | c :: rest => part.isPrefixOf (c :: rest) || occursIn part rest

/-- The comparison holds between a value and the wanted text. Every value starts with, ends with and
holds the empty text; the empty word is there where two spaces meet or a value starts or ends with
one. -/
def Comparison.holds (comparison : Comparison) (value wanted : List Char) : Bool :=
  match comparison with
  | .equal => value == wanted
  | .word => (Text.piecesAt Text.isMarkupSpace value).contains wanted
  | .dash => value == wanted || (wanted ++ ['-']).isPrefixOf value
  | .start => wanted.isPrefixOf value
  | .finish => wanted.isSuffixOf value
  | .part => occursIn wanted value

/-- The letter case counts, in an element of HTML or another one. -/
def LetterCase.ignored (letterCase : LetterCase) (inHtml : Bool) : Bool :=
  match letterCase with
  | .sensitive => false
  | .insensitive => true
  | .insensitiveInHtml => inHtml

/-- The value of an attribute passes the test. -/
def ValueTest.holds (test : ValueTest) (inHtml : Bool) (value : String) : Bool :=
  let ignored := test.letterCase.ignored inHtml
  test.comparison.holds (foldCase ignored value) (foldCase ignored test.value)

/-! ## Conditions on one element -/

/-- The node is an element of HTML. -/
def isHtml (n : Node) : Bool := (n.name?.map (·.space == .html)).getD false

/-- A name as it counts for a node: in lower case for elements of HTML. -/
def nameFor (n : Node) (name : String) : String := if isHtml n then Text.lower name else name

/-- The element has the name. -/
def hasType (n : Node) (name : String) : Bool :=
  (n.name?.map (·.localName == nameFor n name)).getD false

/-- The first attribute called `id`, in whatever namespace, has the value. -/
def hasId (n : Node) (id : String) : Bool :=
  ((n.attributes.find? (·.localName == "id")).map (·.value == id)).getD false

/-- One of the attributes called `class` has the word. Any blank characters part its words. -/
def hasClass (n : Node) (word : String) : Bool :=
  n.attributes.any fun a =>
    a.localName == "class" && (Text.words Text.isBlank a.value.toList).contains word.toList

/-- Some attribute has the name and passes the test. -/
def hasAttribute (n : Node) (anySpace : Bool) (name : String) (test : Option ValueTest) : Bool :=
  n.attributes.any fun a =>
    (anySpace || a.space == .plain) && a.localName == nameFor n name &&
      ((test.map (·.holds (isHtml n) a.value)).getD true)

/-- Neither element nor text stands directly in the element. -/
def isEmpty (c : Cursor) : Bool :=
  !c.children.any fun child => child.node.isElement || child.node.isText

/-- The element stands directly in the document. -/
def isRoot (c : Cursor) : Bool := (c.parent?.map (·.node == .document)).getD false

/-- The siblings that count for a place. -/
def counted (ofType : Bool) (c : Cursor) (siblings : List Cursor) : List Cursor :=
  if ofType then siblings.filter (·.node.name? == c.node.name?) else siblings

/-- The greatest distance between a place and the offset `b` that is looked at. -/
def distanceLimit : Int := 2147483647

/-- `place` is `a · n + b` for some natural `n`. -/
def isPlace (a b place : Int) : Bool :=
  let distance := place - b
  if distanceLimit < distance then false
  else if a == 0 then distance == 0
  else Int.tmod distance a == 0 && 0 ≤ Int.tdiv distance a

/-- The place of the element, counted from one end, fits. -/
def hasPlace (fromEnd ofType : Bool) (a b : Int) (c : Cursor) : Bool :=
  let before := counted ofType c (if fromEnd then c.siblingsBehind else c.siblingsBefore)
  isPlace a b (before.length + 1)

/-- The element has no siblings that count. -/
def isOnly (ofType : Bool) (c : Cursor) : Bool :=
  (counted ofType c (c.siblingsBefore ++ c.siblingsBehind)).isEmpty

/-- The elements of so many levels below an element. -/
def elementsWithin : Nat → Cursor → List Cursor
  | 0, _ => []
  | levels + 1, c =>
    (c.children.filter (·.node.isElement)).flatMap fun child => child :: elementsWithin levels child

/-- The elements that a relative chain may lead to: those below, those behind and those below them. -/
def reachable (c : Cursor) : List Cursor :=
  let within := elementsWithin c.page.slots.size
  within c ++ c.siblingsBehind.flatMap fun s => s :: within s

/-- The elements that stand to the given one as the combinator says. -/
def Combinator.related (combinator : Combinator) (c : Cursor) : List Cursor :=
  match combinator with
  | .descendant => c.ancestors
  | .child => c.ancestors.take 1
  | .nextSibling => c.siblingsBefore.take 1
  | .laterSibling => c.siblingsBefore

/-! ## Chains -/

mutual

/-- A condition holds for an element; `anchor` is the address of the element that relative chains start
from. -/
def Simple.holds (anchor : Option Address) : Simple → Cursor → Bool
  | .type name, c => hasType c.node name
  | .universal, _ => true
  | .noNamespace, _ => false
  | .id name, c => hasId c.node name
  | .class name, c => hasClass c.node name
  | .attribute anySpace name test, c => hasAttribute c.node anySpace name test
  | .nth fromEnd ofType a b, c => hasPlace fromEnd ofType a b c
  | .only ofType, c => isOnly ofType c
  | .root, c => isRoot c
  | .empty, c => isEmpty c
  | .anyOf alternatives, c => anyHolds anchor alternatives c
  | .noneOf alternatives, c => !anyHolds anchor alternatives c
  | .has alternatives, c => (reachable c).any fun e => anyHolds (some c.address) alternatives e

/-- All conditions of a compound hold for an element. -/
def allHold (anchor : Option Address) : List Simple → Cursor → Bool
  | [], _ => true
  | s :: rest, c => s.holds anchor c && allHold anchor rest c

/-- A chain ends at an element. -/
def Chain.holds (anchor : Option Address) : Chain → Cursor → Bool
  | .one compound, c => allHold anchor compound c
  | .behind before combinator compound, c =>
    allHold anchor compound c && (combinator.related c).any fun e => before.holds anchor e
  | .anchor, c => anchor == some c.address

/-- One of the chains ends at an element. -/
def anyHolds (anchor : Option Address) : List Chain → Cursor → Bool
  | [], _ => false
  | chain :: rest, c => chain.holds anchor c || anyHolds anchor rest c

end

/-- The selector means the element. -/
def Selector.accepts (s : Selector) (c : Cursor) : Bool := anyHolds none s.alternatives c

end Gleaner.Css
