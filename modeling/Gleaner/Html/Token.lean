import Gleaner.Html.NamedCharacter

set_option autoImplicit false

/-! # Tokens of markup

A page is a sequence of tags, texts, comments and doctypes before it is a tree. Texts are cut into
runs that are blank throughout or without blanks, because the rules of tree construction treat the
two differently; a NUL is a token of its own. -/

namespace Gleaner.Html

/-- A tag with its attributes in source order, the first of each name. -/
structure Tag where
  name : String
  attributes : List (String × String) := []
  selfClosing : Bool := false
  deriving DecidableEq, Repr, Inhabited

/-- The name is in a list. -/
def Tag.isOneOf (t : Tag) (names : List String) : Bool := names.contains t.name

/-- What a doctype says; missing parts are none. -/
structure Doctype where
  name : Option String := none
  publicId : Option String := none
  systemId : Option String := none
  /-- The doctype is so broken that the page counts as an old one. -/
  broken : Bool := false
  deriving DecidableEq, Repr

/-- A token. -/
inductive Token where
  | doctype (d : Doctype)
  | startTag (t : Tag)
  | endTag (t : Tag)
  | comment (content : String)
  /-- A run of blanks. -/
  | blank (content : String)
  /-- A run without blanks. -/
  | text (content : String)
  | null
  | endOfInput
  deriving DecidableEq, Repr

namespace Token

/-- The character stands for a missing or forbidden one. -/
def replacement : Char := '\ufffd'

/-- NUL replaced. -/
def withoutNull (c : Char) : Char := if c == '\x00' then replacement else c

/-- Two neighbours belong to the same run; a NUL belongs to none but its own. -/
def sameRun (a b : Char) : Bool :=
  a != '\x00' && b != '\x00' && Text.isMarkupSpace a == Text.isMarkupSpace b

/-- The token of a run, which its first character decides. -/
def ofRun : List Char → Token
  | [] => text ""
  | c :: rest =>
    if c == '\x00' then null
    else if Text.isMarkupSpace c then blank (String.ofList (c :: rest))
    else text (String.ofList (c :: rest))

/-- The tokens of a text, one for each run. -/
def ofText (cs : List Char) : List Token := (cs.splitBy sameRun).map ofRun

end Token

end Gleaner.Html
