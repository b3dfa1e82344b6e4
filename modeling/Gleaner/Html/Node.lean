set_option autoImplicit false

/-! # Nodes

A page consists of elements, texts, comments and doctypes. What a node is does not depend on where it
stands.

Names are split into a namespace and a local name. Elements of HTML, SVG and MathML live side by
side; attributes have a namespace only inside foreign elements. -/

namespace Gleaner.Html

/-- The languages whose elements a page can hold. -/
inductive Namespace where
  | html | svg | mathml
  deriving DecidableEq, Repr

/-- The name of an element. -/
structure ElementName where
  space : Namespace
  localName : String
  deriving DecidableEq, Repr

/-- The namespaces of attributes; all but `plain` occur in foreign elements only. -/
inductive AttributeSpace where
  | plain | xlink | xml | xmlns
  deriving DecidableEq, Repr

/-- An attribute of an element. -/
structure Attribute where
  space : AttributeSpace
  localName : String
  value : String
  deriving DecidableEq, Repr

/-- A node by itself. -/
inductive Node where
  /-- The root of a page. -/
  | document
  /-- The root of a piece of markup, and the contents of a template. -/
  | fragment
  | element (name : ElementName) (attributes : List Attribute)
  | text (content : String)
  | comment (content : String)
  | doctype (name : String)
  deriving DecidableEq, Repr

namespace Node

instance : Inhabited Node := ⟨document⟩

/-- The node is an element. -/
def isElement : Node → Bool
  | element .. => true
  | _ => false

/-- The node is a text. -/
def isText : Node → Bool
  | text _ => true
  | _ => false

/-- The content, of a text. -/
def text? : Node → Option String
  | text content => some content
  | _ => none

/-- The name, of an element. -/
def name? : Node → Option ElementName
  | element name _ => some name
  | _ => none

/-- The local name, of an element. -/
def tag? (n : Node) : Option String := n.name?.map (·.localName)

/-- The attributes, of an element. -/
def attributes : Node → List Attribute
  | element _ attributes => attributes
  | _ => []

/-- The value of an attribute without a namespace. -/
def attribute? (n : Node) (name : String) : Option String :=
  (n.attributes.find? fun a => a.space == .plain && a.localName == name).map (·.value)

end Node

end Gleaner.Html
