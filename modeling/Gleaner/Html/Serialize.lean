import Gleaner.Html.Cursor

set_option autoImplicit false

/-! # Writing markup

A tree is written back as markup: attributes in their order and always quoted, void elements without
an end tag, text escaped unless it stands directly in an element whose content is raw. The markup of
what is inside an element is written without knowledge of that element, so raw text is escaped
there. -/

namespace Gleaner.Html

/-- One character of a text or, with `quoted`, of an attribute value. -/
def escapeChar (quoted : Bool) (c : Char) : List Char :=
  if c == '&' then ['&', 'a', 'm', 'p', ';']
  else if c == '\xa0' then ['&', 'n', 'b', 's', 'p', ';']
  else if c == '\x22' then if quoted then ['&', 'q', 'u', 'o', 't', ';'] else [c]
  else if c == '<' then if quoted then [c] else ['&', 'l', 't', ';']
  else if c == '>' then if quoted then [c] else ['&', 'g', 't', ';']
  else [c]

/-- A text with its special characters escaped. -/
def escape (quoted : Bool) (s : String) : List Char := s.toList.flatMap (escapeChar quoted)

/-- Elements whose text is written as it is. -/
def rawTextElements : List String :=
  ["style", "script", "xmp", "iframe", "noembed", "noframes", "plaintext"]

/-- Elements that are written without an end tag. -/
def voidElements : List String :=
  ["area", "base", "basefont", "bgsound", "br", "col", "embed", "frame", "hr", "img", "input",
    "keygen", "link", "meta", "param", "source", "track", "wbr"]

/-- What an attribute's namespace adds in front of its local name. -/
def Attribute.lead (a : Attribute) : String :=
  match a.space with
  | .plain => ""
  | .xml => "xml:"
  | .xlink => "xlink:"
  | .xmlns => if a.localName == "xmlns" then "" else "xmlns:"

/-- An attribute behind a space. -/
def Attribute.chars (a : Attribute) : List Char :=
  ' ' :: (a.lead ++ a.localName).toList ++ '=' :: '\x22' :: escape true a.value ++ ['\x22']

/-- What is kept of an open element. -/
structure Surroundings where
  /-- Text in the element is raw. -/
  raw : Bool
  /-- The element is void, or stands in one; of what is in it only texts and comments are written. -/
  void : Bool

/-- What is kept of an element that is opened in another one. -/
def Surroundings.open (around : Surroundings) (name : ElementName) : Surroundings :=
  { raw := name.space == .html && rawTextElements.contains name.localName,
    void := around.void || (name.space == .html && voidElements.contains name.localName) }

/-- A start tag. -/
def startTag (name : ElementName) (attributes : List Attribute) : List Char :=
  '<' :: name.localName.toList ++ attributes.flatMap Attribute.chars ++ ['>']

/-- An end tag. -/
def endTag (name : ElementName) : List Char := '<' :: '/' :: name.localName.toList ++ ['>']

/-- What is written of a node when it is entered. -/
def Node.opening (around : Surroundings) : Node → List Char
  | .document | .fragment => []
  | .element name attributes => if around.void then [] else startTag name attributes
  | .text content => if around.raw then content.toList else escape false content
  | .comment content => "<!--".toList ++ content.toList ++ "-->".toList
  | .doctype name => "<!DOCTYPE ".toList ++ name.toList ++ ['>']

/-- What is written of a node when it is left; `inner` is what was kept of the element opened last. -/
def Node.closing (inner : Surroundings) : Node → List Char
  | .element name _ => if inner.void then [] else endTag name
  | _ => []

/-- Writes the steps of a walk. `opened` is what is kept of the open elements, the innermost first. -/
def Page.write (p : Page) : List Surroundings → List Step → List Char
  | _, [] => []
  | opened, .enter n :: rest =>
    let node := (p.node? n).getD default
    let around := opened.head?.getD ⟨false, false⟩
    node.opening around ++ p.write ((node.name?.map around.open).toList ++ opened) rest
  | opened, .leave n :: rest =>
    let node := (p.node? n).getD default
    node.closing (opened.head?.getD ⟨false, false⟩) ++
      p.write (if node.isElement then opened.drop 1 else opened) rest

namespace Cursor

/-- The markup of the node. -/
def outerHtml (c : Cursor) : String := String.ofList (c.page.write [] (c.page.walk c.address))

/-- The markup of what is below the node. -/
def innerHtml (c : Cursor) : String :=
  String.ofList (c.page.write []
    ((c.page.walk c.address).filter fun step => step != .enter c.address && step != .leave c.address))

end Cursor

end Gleaner.Html
