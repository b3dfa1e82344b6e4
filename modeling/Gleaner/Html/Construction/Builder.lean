import Gleaner.Html.Page
import Gleaner.Html.Construction.TagSets
import Gleaner.Html.Token.Scan

set_option autoImplicit false

/-! # The state of tree construction

Construction keeps the elements that are open, the formatting elements that later markup may have to
repeat, and the mode that says which rules the next token meets. The operations below are the
vocabulary of those rules. -/

namespace Gleaner.Html

/-- Where in a page construction is. -/
inductive Mode where
  | initial | beforeHtml | beforeHead | inHead | afterHead | inBody | text
  | inTable | inTableText | inCaption | inColumnGroup | inTableBody | inRow | inCell
  | inSelect | inSelectInTable | inTemplate | afterBody | inFrameset | afterFrameset
  | afterAfterBody | afterAfterFrameset
  deriving DecidableEq, Repr, Inhabited

/-- An entry in the list of formatting elements. -/
inductive Formatting where
  /-- Formatting before it does not reach beyond it. -/
  | marker
  | element (address : Address) (tag : Tag)

/-- How the page wants to be laid out, as far as construction cares. -/
inductive Layout where
  | standard
  /-- Tables may stand in paragraphs. -/
  | legacy
  deriving DecidableEq, Repr

/-- The state of tree construction. -/
structure Builder where
  page : Page
  mode : Mode := .initial
  /-- The mode to return to behind a text or the text of a table. -/
  returnMode : Mode := .initial
  templateModes : List Mode := []
  /-- The open elements, the innermost first. -/
  openElements : List Address := []
  /-- The formatting elements, the latest first. -/
  formatting : List Formatting := []
  head : Option Address := none
  form : Option Address := none
  framesetAllowed : Bool := true
  /-- The next token, if it is text, loses a line feed at its start. -/
  skipLineFeed : Bool := false
  /-- Content of a table that cannot stand in it goes before the table. -/
  fostering : Bool := false
  layout : Layout := .standard
  /-- Text of a table, with whether it is blank, the latest first. -/
  tableText : List (Bool × String) := []
  /-- The element that a piece of markup is taken to stand in. -/
  context : Option ElementName := none
  content : Content := .markup

/-- A step of construction. -/
abbrev Build := StateM Builder

namespace Build

/-! ## Looking -/

/-- The name of the element at an address. -/
def nameOf (n : Address) : Build (Option ElementName) := return (← get).page.name? n

/-- The element at an address is in a group. -/
def isIn (n : Address) (group : ElementGroup) : Build Bool :=
  return ((← nameOf n).map group).getD false

/-- The innermost open element. -/
def current : Build (Option Address) := return (← get).openElements.head?

/-- The innermost open element is in a group. -/
def currentIsIn (group : ElementGroup) : Build Bool := do
  match ← current with
  | some n => isIn n group
  | none => return false

/-- The innermost open element is the named one of HTML. -/
def currentIs (name : String) : Build Bool := currentIsIn (htmlElement name)

/-- The name of the innermost open element; for the root of a piece of markup, that of the element it
is taken to stand in. -/
def adjustedCurrent : Build (Option ElementName) := do
  let b ← get
  match b.openElements, b.context with
  | [_], some name => return some name
  | n :: _, _ => nameOf n
  | [], _ => return none

/-- The outermost open element. -/
def outermost : Build (Option Address) := return (← get).openElements.getLast?

/-- The second open element, if it is the body. -/
def body : Build (Option Address) := do
  match (← get).openElements.reverse with
  | _ :: n :: _ => return if ← isIn n (htmlElement "body") then some n else none
  | _ => return none

/-- Construction works on a piece of markup. -/
def isPiece : Build Bool := return (← get).context.isSome

/-- An element of HTML with the name is open. -/
def isOpen (name : String) : Build Bool := do
  (← get).openElements.anyM fun n => isIn n (htmlElement name)

/-- The search, from the innermost open element out and up to the end of a scope, finds an element. -/
def findInScope (scope : ElementGroup) (p : Address → Build Bool) : Build Bool := do
  search (← get).openElements
where
  /-- Goes from element to element. -/
  search : List Address → Build Bool
    | [] => return false
    | n :: rest => do
      if ← p n then return true
      else if ← isIn n scope then return false
      else search rest

/-- An element of HTML with the name is open in a scope. -/
def inScope (scope : ElementGroup) (name : String) : Build Bool :=
  findInScope scope fun n => isIn n (htmlElement name)

/-! ## Opening and closing -/

/-- Opens an element that exists. -/
def push (n : Address) : Build Unit :=
  modify fun b => { b with openElements := n :: b.openElements }

/-- Closes the innermost open element. -/
def pop : Build Unit := modify fun b => { b with openElements := b.openElements.drop 1 }

/-- Closes elements until one from a group has been closed. -/
def popThrough (group : ElementGroup) : Build Unit := do
  let b ← get
  let rest := b.openElements.dropWhile fun n => !((b.page.name? n).map group).getD false
  set { b with openElements := rest.drop 1 }

/-- Closes elements until one with the name has been closed. -/
def popThroughNamed (name : String) : Build Unit := popThrough (htmlElement name)

/-- Closes elements until one from a group is the innermost. -/
def popTo (group : ElementGroup) : Build Unit := do
  let b ← get
  let rest := b.openElements.dropWhile fun n => !((b.page.name? n).map group).getD false
  set { b with openElements := rest }

/-- Closes elements as long as they are in a group. -/
def popWhile (group : ElementGroup) : Build Unit := do
  let b ← get
  let rest := b.openElements.dropWhile fun n => ((b.page.name? n).map group).getD false
  set { b with openElements := rest }

/-- Closes the elements whose end tag may be left out. -/
def closeImplied : Build Unit := popWhile ElementGroup.impliedEnd

/-- Closes the elements whose end tag may be left out, but none of the name. -/
def closeImpliedExcept (name : String) : Build Unit := popWhile (ElementGroup.impliedEnd.without name)

/-- Closes the innermost paragraph. -/
def closeParagraph : Build Unit := do
  closeImpliedExcept "p"
  popThroughNamed "p"

/-- Closes the innermost paragraph, if one is open up to a button. -/
def closeParagraphInScope : Build Unit := do
  if ← inScope ElementGroup.buttonScope "p" then closeParagraph

/-- Takes one element out of the open ones. -/
def removeOpen (n : Address) : Build Unit :=
  modify fun b => { b with openElements := b.openElements.erase n }

/-- Sets the mode. -/
def enter (mode : Mode) : Build Unit := modify fun b => { b with mode }

/-- A frameset is no longer allowed. -/
def forbidFrameset : Build Unit := modify fun b => { b with framesetAllowed := false }

/-! ## Inserting -/

/-- A place for a node. -/
inductive Place where
  | lastIn (parent : Address)
  /-- Before a table, or last in the element around it when the table stands nowhere. -/
  | beforeTable (table around : Address)

/-- The contents of a template: the fragment that has been made along with it. -/
def templateContents (n : Address) : Build Address := do
  let page := (← get).page
  return ((page.first? n).filter fun m => page.node? m == some .fragment).getD n

/-- The place in an element where nodes go, with templates taking them into their contents. -/
def placeIn (n : Address) : Build Place := do
  if ← isIn n (htmlElement "template") then return .lastIn (← templateContents n)
  else return .lastIn n

/-- The place before the innermost table, or in the contents of a template inside of it. -/
def fosterPlace : List Address → Build Place
  | [] => return .lastIn Page.root
  | n :: rest => do
    if ← isIn n (htmlElement "template") then return .lastIn (← templateContents n)
    else if ← isIn n (htmlElement "table") then
      match rest with
      | around :: _ => return .beforeTable n around
      | [] => return .lastIn n
    else
      match rest with
      | [] => return .lastIn n
      | _ => fosterPlace rest

/-- The place for a node that belongs into an element. -/
def placeFor (target : Address) : Build Place := do
  let b ← get
  if b.fostering && (← isIn target ElementGroup.tableParts) then fosterPlace b.openElements
  else placeIn target

/-- Puts a node in place. -/
def put (place : Place) (n : Address) : Build Unit :=
  modify fun b => match place with
    | .lastIn parent => { b with page := b.page.append parent n }
    | .beforeTable table around =>
      if (b.page.parent? table).isSome then { b with page := b.page.insertBefore table n }
      else { b with page := b.page.append around n }

/-- Creates a node that stands nowhere yet. -/
def create (label : Node) : Build Address := do
  let b ← get
  let (n, page) := b.page.create label
  set { b with page }
  return n

/-- Creates an element; a template gets a place for its contents. -/
def createElement (name : ElementName) (attributes : List Attribute) : Build Address := do
  let n ← create (.element name attributes)
  if name == ⟨.html, "template"⟩ then
    let contents ← create .fragment
    modify fun b => { b with page := b.page.append n contents }
  return n

/-- Puts a node where the next node belongs. -/
def putHere (n : Address) : Build Unit := do
  match ← current with
  | some target => put (← placeFor target) n
  | none => return ()

/-- The attributes of an element of HTML. -/
def plainAttributes (attributes : List (String × String)) : List Attribute :=
  attributes.map fun (name, value) => ⟨.plain, name, value⟩

/-- Creates an element of HTML for a tag and puts it in place. -/
def insertClosed (t : Tag) : Build Address := do
  let n ← createElement ⟨.html, t.name⟩ (plainAttributes t.attributes)
  putHere n
  return n

/-- Creates an element of HTML for a tag, puts it in place and opens it. -/
def insert (t : Tag) : Build Address := do
  let n ← insertClosed t
  push n
  return n

/-- Opens an element for which there is no tag. -/
def insertNamed (name : String) : Build Address := insert { name }

/-- Adds text where the next node belongs. -/
def insertText (content : String) : Build Unit := do
  match ← current with
  | none => return ()
  | some target =>
    match ← placeFor target with
    | .lastIn parent => modify fun b => { b with page := b.page.appendText parent content }
    | .beforeTable table around =>
      modify fun b =>
        if (b.page.parent? table).isSome then
          { b with page := b.page.insertTextBefore table content }
        else { b with page := b.page.appendText around content }

/-- Adds a comment where the next node belongs. -/
def insertComment (content : String) : Build Unit := do putHere (← create (.comment content))

/-- Adds a comment at the end of the page. -/
def appendCommentToRoot (content : String) : Build Unit := do
  put (.lastIn Page.root) (← create (.comment content))

/-- Adds a comment at the end of the outermost element. -/
def appendCommentToOutermost (content : String) : Build Unit := do
  match ← outermost with
  | some n => put (.lastIn n) (← create (.comment content))
  | none => return ()

/-- Creates the outermost element. -/
def createOutermost (attributes : List (String × String)) : Build Unit := do
  let n ← createElement ⟨.html, "html"⟩ (plainAttributes attributes)
  push n
  put (.lastIn Page.root) n

/-- Opens an element whose content is text up to its end tag. -/
def insertWithText (t : Tag) (content : Content) : Build Unit := do
  let _ ← insert t
  modify fun b => { b with returnMode := b.mode, mode := .text, content }

/-! ## The mode that the open elements ask for -/

/-- The mode for the innermost element that asks for one. -/
def modeFor : List Address → Build Mode
  | [] => return .inBody
  | n :: rest => do
    let b ← get
    let isLast := rest.isEmpty
    let name := match isLast, b.context with
      | true, some name => some name
      | _, _ => b.page.name? n
    match name with
    | some ⟨.html, name⟩ =>
      if name == "select" then selectMode rest
      else if (name == "td" || name == "th") && !isLast then return .inCell
      else if name == "tr" then return .inRow
      else if name == "tbody" || name == "thead" || name == "tfoot" then return .inTableBody
      else if name == "caption" then return .inCaption
      else if name == "colgroup" then return .inColumnGroup
      else if name == "table" then return .inTable
      else if name == "template" then return b.templateModes.head?.getD .inBody
      else if name == "head" && !isLast then return .inHead
      else if name == "body" then return .inBody
      else if name == "frameset" then return .inFrameset
      else if name == "html" then return if b.head.isNone then .beforeHead else .afterHead
      else modeFor rest
    | _ => modeFor rest
where
  /-- A selection in a table has a mode of its own. -/
  selectMode : List Address → Build Mode
    | [] => return .inSelect
    | n :: rest => do
      if ← isIn n (htmlElement "template") then return .inSelect
      else if ← isIn n (htmlElement "table") then return .inSelectInTable
      else selectMode rest

/-- The mode that the open elements ask for. -/
def openMode : Build Mode := do modeFor (← get).openElements

/-- Enters the mode that the open elements ask for. -/
def resetMode : Build Unit := do enter (← openMode)

end Build

end Gleaner.Html
