import Gleaner.Html.Construction.Rules
import Gleaner.Text.Utf8

set_option autoImplicit false

/-! # Reading pages

A page is scanned and constructed token by token, because construction decides what the next
characters mean. Any text is a page: what cannot be understood is repaired. -/

namespace Gleaner.Html

/-- Line ends as line feeds, and no mark of the byte order at the start. -/
def normalize (cs : List Char) : List Char :=
  match cs with
  | '\ufeff' :: rest => lines rest
  | cs => lines cs
where
  /-- Every carriage return, with or without a line feed behind it, becomes a line feed. -/
  lines : List Char → List Char
    | [] => []
    | '\r' :: '\n' :: rest => '\n' :: lines rest
    | '\r' :: rest => '\n' :: lines rest
    | c :: rest => c :: lines rest

namespace Builder

/-- Takes in one token. -/
def take (b : Builder) (token : Token) : Builder := ((Build.process token).run b).2

/-- The next characters stand in a foreign element. -/
def inForeign (b : Builder) : Bool :=
  match (Build.adjustedCurrent.run b).1 with
  | some name => name.space != .html
  | none => false

/-- Takes in the characters of a page. Each scan uses up at least one of them. -/
def feed : Nat → Builder → List Char → Builder
  | 0, b, _ => b
  | _ + 1, b, [] => b
  | fuel + 1, b, cs =>
    let (tokens, rest) := Token.scan b.content b.inForeign cs
    feed fuel (tokens.foldl take b) rest

/-- Takes in a whole page. -/
def takeAll (b : Builder) (cs : List Char) : Builder :=
  take (feed cs.length b cs) .endOfInput

/-- Ready for a page. -/
def forPage : Builder := { page := Page.start .document }

/-- Ready for a piece of markup that stands in a body. -/
def forPiece : Builder :=
  let b : Builder := { page := Page.start .fragment, context := some ⟨.html, "body"⟩ }
  ((do
    Build.createOutermost []
    Build.resetMode : Build Unit).run b).2

end Builder

/-- Reads a page. -/
def Page.read (markup : String) : Page := (Builder.forPage.takeAll (normalize markup.toList)).page

/-- Reads a page in UTF-8; broken sequences read as replacement characters. -/
def Page.readBytes (markup : Bytes) : Page := Page.read (Utf8.decodeLossy markup)

/-- Reads a piece of markup as it would stand in a body. -/
def Page.readPiece (markup : String) : Page :=
  (Builder.forPiece.takeAll (normalize markup.toList)).page

end Gleaner.Html
