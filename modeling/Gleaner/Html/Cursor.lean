import Gleaner.Html.Page

set_option autoImplicit false

/-! # Places in a page

A cursor is a node in its place. The walk from a cursor enters the node, goes through everything below
it in the order of the page, and leaves the node again: down to the first child, on to the sibling
behind, and from the last sibling up to the parent. It follows the links and keeps no record of the way
it came, so where links disagree it goes where they lead. -/

namespace Gleaner.Html

/-- A node in its place. -/
structure Cursor where
  page : Page
  address : Address

/-- A step of a walk. -/
inductive Step where
  | enter (n : Address)
  | leave (n : Address)
  deriving DecidableEq, Repr

namespace Page

/-- The cursor at the root. -/
def top (p : Page) : Cursor := ⟨p, root⟩

/-! ## Walking -/

/-- The step that follows in the walk from a node; none once the node is left, or the walk has come out
at the root. -/
def next? (p : Page) (start : Address) : Step → Option Step
  | .enter n => some (((p.first? n).map Step.enter).getD (.leave n))
  | .leave n =>
    if n = start then none
    else match p.behind? n with
      | some sibling => some (.enter sibling)
      | none => (p.parent? n).map .leave

/-- So many steps of the walk from a node. -/
def stepsFrom (p : Page) (start : Address) : Nat → Step → List Step
  | 0, _ => []
  | more + 1, step =>
    step :: match p.next? start step with
      | some following => p.stepsFrom start more following
      | none => []

/-- The walk from a node. Each node is entered at most once and left at most once. -/
def walk (p : Page) (n : Address) : List Step := p.stepsFrom n (2 * p.slots.size) (.enter n)

/-- So many siblings in one direction. -/
def siblingsFrom (link : Address → Option Address) : Nat → Option Address → List Address
  | 0, _ | _, none => []
  | more + 1, some n => n :: siblingsFrom link more (link n)

/-- The children of a node, in order. -/
def children (p : Page) (n : Address) : List Address :=
  siblingsFrom p.behind? p.slots.size (p.first? n)

end Page

namespace Cursor

/-- The node. -/
def node (c : Cursor) : Node := (c.page.node? c.address).getD default

/-- Another node of the page. -/
def move (c : Cursor) (n : Address) : Cursor := { c with address := n }

/-! ## Down -/

/-- The nodes that the walk enters, without the one it starts from. -/
def descendants (c : Cursor) : List Cursor :=
  ((c.page.walk c.address).drop 1).filterMap fun
    | .enter n => some (c.move n)
    | .leave _ => none

/-- The elements below, in order. -/
def elementsBelow (c : Cursor) : List Cursor := c.descendants.filter (·.node.isElement)

/-- The contents of the texts at and below the node, in order. -/
def texts (c : Cursor) : List String := (c :: c.descendants).filterMap (·.node.text?)

/-- All text at and below the node, in one piece. -/
def text (c : Cursor) : String := String.join c.texts

/-- The children. -/
def children (c : Cursor) : List Cursor := (c.page.children c.address).map c.move

/-! ## Up and aside -/

/-- The parent. -/
def parent? (c : Cursor) : Option Cursor := (c.page.parent? c.address).map c.move

/-- So many elements up from a node. -/
def elementsUp : Nat → Cursor → List Cursor
  | 0, _ => []
  | more + 1, c =>
    match c.parent? with
    | some above => if above.node.isElement then above :: elementsUp more above else []
    | none => []

/-- The elements around the node, the innermost first, up to the first node that is none. -/
def ancestors (c : Cursor) : List Cursor := elementsUp c.page.slots.size c

/-- The elements before the node, the nearest first. -/
def siblingsBefore (c : Cursor) : List Cursor :=
  ((Page.siblingsFrom c.page.before? c.page.slots.size (c.page.before? c.address)).map c.move).filter
    (·.node.isElement)

/-- The elements behind the node, the nearest first. -/
def siblingsBehind (c : Cursor) : List Cursor :=
  ((Page.siblingsFrom c.page.behind? c.page.slots.size (c.page.behind? c.address)).map c.move).filter
    (·.node.isElement)

end Cursor

end Gleaner.Html
