import Gleaner.Html.Node

set_option autoImplicit false

/-! # Pages

The nodes of a page are linked to their neighbours: to the parent, to the siblings before and behind,
and to the first and the last child. While a page is read its nodes are created, moved and taken out
again, so each has an address that stays the same. Two neighbouring texts never occur, because text is
added to the text it would stand behind.

The links of a page nearly always agree with each other, but not by force. When all children of a node
are handed over to another one, only the first and the last of them are told of their new parent. As
long as they stay the outer ones nothing shows it; if a later move makes one of the inner children the
last one, the way up from it leads to the former parent. -/

namespace Gleaner.Html

/-- The place of a node. -/
abbrev Address := Nat

/-- A node with its links. -/
structure Slot where
  node : Node
  parent : Option Address := none
  before : Option Address := none
  behind : Option Address := none
  /-- The first and the last child. -/
  ends : Option (Address × Address) := none
  deriving Inhabited

/-- The nodes of a page; the root has the first address. -/
structure Page where
  slots : Array Slot

namespace Page

/-- The address of the root. -/
def root : Address := 0

/-- Nothing but the root. -/
def start (node : Node) : Page := ⟨#[{ node }]⟩

/-! ## Looking -/

/-- The node at an address. -/
def node? (p : Page) (n : Address) : Option Node := p.slots[n]?.map (·.node)

/-- The name of the element at an address. -/
def name? (p : Page) (n : Address) : Option ElementName := (p.node? n).bind (·.name?)

/-- The text at an address. -/
def text? (p : Page) (n : Address) : Option String := (p.node? n).bind (·.text?)

/-- The parent of a node. -/
def parent? (p : Page) (n : Address) : Option Address := p.slots[n]?.bind (·.parent)

/-- The sibling right before a node. -/
def before? (p : Page) (n : Address) : Option Address := p.slots[n]?.bind (·.before)

/-- The sibling right behind a node. -/
def behind? (p : Page) (n : Address) : Option Address := p.slots[n]?.bind (·.behind)

/-- The first and the last child of a node. -/
def ends? (p : Page) (n : Address) : Option (Address × Address) := p.slots[n]?.bind (·.ends)

/-- The first child of a node. -/
def first? (p : Page) (n : Address) : Option Address := (p.ends? n).map (·.1)

/-- The last child of a node. -/
def last? (p : Page) (n : Address) : Option Address := (p.ends? n).map (·.2)

/-! ## Changing links -/

/-- Creates a node that stands nowhere yet. -/
def create (p : Page) (node : Node) : Address × Page := (p.slots.size, ⟨p.slots.push { node }⟩)

/-- Changes the node at an address. -/
def update (p : Page) (n : Address) (f : Slot → Slot) : Page := ⟨p.slots.modify n f⟩

/-- Changes the node at an address, if there is one. -/
def update? (p : Page) (n : Option Address) (f : Slot → Slot) : Page :=
  match n with
  | some n => p.update n f
  | none => p

/-- The ends of a list of children without one of them, whose neighbours are given. -/
def endsWithout (n : Address) (before behind : Option Address) (ends : Address × Address) :
    Option (Address × Address) :=
  if ends.1 = ends.2 then none
  else if ends.1 = n then some (behind.getD ends.1, ends.2)
  else if ends.2 = n then some (ends.1, before.getD ends.2)
  else some ends

/-- Takes a node out from among its siblings. -/
def detach (p : Page) (n : Address) : Page :=
  match p.parent? n with
  | none => p
  | some parent =>
    let before := p.before? n
    let behind := p.behind? n
    let p := p.update n fun s => { s with parent := none, before := none, behind := none }
    let p := p.update? before fun s => { s with behind }
    let p := p.update? behind fun s => { s with before }
    p.update parent fun s => { s with ends := s.ends.bind (endsWithout n before behind) }

/-- Makes a node the last child of another. -/
def append (p : Page) (parent n : Address) : Page :=
  let p := p.detach n
  let last := p.last? parent
  let p := p.update n fun s => { s with parent := some parent, before := last, behind := none }
  let p := p.update? last fun s => { s with behind := some n }
  p.update parent fun s => { s with ends := some (((s.ends.map (·.1)).getD n), n) }

/-- Puts a node right before a sibling, if that has a parent. -/
def insertBefore (p : Page) (sibling n : Address) : Page :=
  let p := p.detach n
  match p.parent? sibling with
  | none => p
  | some parent =>
    let before := p.before? sibling
    let p := p.update n fun s => { s with parent := some parent, before, behind := some sibling }
    let p := p.update? before fun s => { s with behind := some n }
    let p := p.update sibling fun s => { s with before := some n }
    p.update parent fun s =>
      { s with ends := s.ends.map fun (first, last) => (if first = sibling then n else first, last) }

/-- Hands all children of a node over to another one, behind the children it has. The first and the
last of them are told of their new parent. -/
def handOver (p : Page) (source target : Address) : Page :=
  match p.ends? source with
  | none => p
  | some (first, last) =>
    let p := p.update source fun s => { s with ends := none }
    let p := p.update first fun s => { s with parent := some target }
    let p := p.update last fun s => { s with parent := some target }
    match p.ends? target with
    | none => p.update target fun s => { s with ends := some (first, last) }
    | some (oldFirst, oldLast) =>
      let p := p.update oldLast fun s => { s with behind := some first }
      let p := p.update first fun s => { s with before := some oldLast }
      p.update target fun s => { s with ends := some (oldFirst, last) }

/-! ## Texts -/

/-- Adds to the text at an address. -/
def extendText (p : Page) (n : Address) (more : String) : Page :=
  p.update n fun s => match s.node with
    | .text content => { s with node := .text (content ++ more) }
    | _ => s

/-- Adds text behind the last child of a node. -/
def appendText (p : Page) (parent : Address) (content : String) : Page :=
  match p.last? parent with
  | some last =>
    if (p.text? last).isSome then p.extendText last content
    else let (n, p) := p.create (.text content); p.append parent n
  | none => let (n, p) := p.create (.text content); p.append parent n

/-- Adds text right before a node, if that has a parent. -/
def insertTextBefore (p : Page) (sibling : Address) (content : String) : Page :=
  match p.parent? sibling, p.before? sibling with
  | none, _ => p
  | some _, some before =>
    if (p.text? before).isSome then p.extendText before content
    else let (n, p) := p.create (.text content); p.insertBefore sibling n
  | some _, none => let (n, p) := p.create (.text content); p.insertBefore sibling n

/-! ## Attributes -/

/-- Gives an element the attributes it does not have yet. -/
def addMissingAttributes (p : Page) (n : Address) (more : List Attribute) : Page :=
  p.update n fun s => match s.node with
    | .element name attributes =>
      let missing := more.filter fun m =>
        !attributes.any fun old => old.space == m.space && old.localName == m.localName
      { s with node := .element name (attributes ++ missing) }
    | _ => s

end Page

end Gleaner.Html
