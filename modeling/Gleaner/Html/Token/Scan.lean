import Gleaner.Html.Token.Declaration

set_option autoImplicit false

/-! # Cutting a page into tokens

What the next characters mean depends on the element they stand in: in most there is markup, in some
only text up to the end tag of that very element. Tree construction knows the element, so it says
what content comes next, and `Token.scan` answers the next tokens and what is left of the page. -/

namespace Gleaner.Html

/-- What the characters of a page can mean. -/
inductive Content where
  /-- Tags, comments, character references. -/
  | markup
  /-- Text with character references, up to the end tag of the named element. -/
  | escapableText (element : String)
  /-- Text as it stands, up to the end tag of the named element. -/
  | rawText (element : String)
  /-- A script, up to its end tag; an end tag inside a commented-out script does not count. -/
  | script
  /-- Text as it stands, up to the end of the page. -/
  | plainText
  deriving DecidableEq, Repr

namespace Token

/-! ## Text up to an end tag -/

/-- What follows the name of an end tag for the element, where `cs` starts behind `</`. -/
def afterEndName? (element : String) (cs : List Char) : Option (List Char) :=
  match Doctype.afterWord? element cs with
  | some (c :: rest) => if Tag.endsName c then some (c :: rest) else none
  | _ => none

/-- The text up to the end tag of the element, and what follows the name of that tag. -/
def splitAtEnd (element : String) : List Char → List Char × Option (List Char)
  | [] => ([], none)
  | '<' :: '/' :: rest =>
    match afterEndName? element rest with
    | some rest => ([], some rest)
    | none => let (run, found) := splitAtEnd element ('/' :: rest); ('<' :: run, found)
  | c :: rest => let (run, found) := splitAtEnd element rest; (c :: run, found)

/-- How deep a script has been commented out. -/
inductive ScriptState where
  | plain
  /-- Inside a comment, with the number of dashes read last (two are enough). -/
  | escaped (dashes : Nat)
  /-- Inside a script inside a comment. -/
  | nested (dashes : Nat)

/-- The text of a script up to its end tag, and what follows the name of that tag. `skip` characters
have been decided on already. -/
def splitScript : Nat → ScriptState → List Char → List Char × Option (List Char)
  | _, _, [] => ([], none)
  | skip + 1, state, c :: rest =>
    let (run, found) := splitScript skip state rest
    (c :: run, found)
  | 0, state, c :: rest =>
    let goOn (skip : Nat) (state : ScriptState) : List Char × Option (List Char) :=
      let (run, found) := splitScript skip state rest
      (c :: run, found)
    let ending :=
      if c == '<' then match rest with
        | '/' :: more => afterEndName? "script" more
        | _ => none
      else none
    match state with
    | .plain =>
      match ending with
      | some more => ([], some more)
      | none =>
        if c == '<' && rest.take 3 == ['!', '-', '-'] then goOn 3 (.escaped 2) else goOn 0 .plain
    | .escaped dashes =>
      match ending with
      | some more => ([], some more)
      | none =>
        if c == '<' && (afterEndName? "script" rest).isSome then goOn 7 (.nested 0)
        else if c == '-' then goOn 0 (.escaped (min 2 (dashes + 1)))
        else if c == '>' && dashes == 2 then goOn 0 .plain
        else goOn 0 (.escaped 0)
    | .nested dashes =>
      match ending with
      | some _ => goOn 8 (.escaped 0)
      | none =>
        if c == '-' then goOn 0 (.nested (min 2 (dashes + 1)))
        else if c == '>' && dashes == 2 then goOn 0 .plain
        else goOn 0 (.nested 0)

/-- The tokens of a text and of the end tag behind it. -/
def withEndTag (element : String) (content : List Char) (found : Option (List Char)) :
    List Token × List Char :=
  match found with
  | none => (ofText content, [])
  | some rest =>
    match Tag.readAttributes (rest.length + 1) { name := element } rest with
    | some (tag, rest) => (ofText content ++ [endTag tag], rest)
    | none => (ofText content, [])

/-! ## Markup -/

/-- A marked section: text as it stands. -/
def readSection : List Char → List Char × List Char
  | [] => ([], [])
  | ']' :: ']' :: '>' :: rest => ([], rest)
  | c :: rest => let (run, rest) := readSection rest; (c :: run, rest)

/-- What follows an opening angle and an exclamation mark. -/
def readDeclaration (inForeign : Bool) (cs : List Char) : List Token × List Char :=
  match Text.afterLead? ['-', '-'] cs, Doctype.afterWord? "doctype" cs with
  | some rest, _ => Comment.token rest
  | _, some rest => let (d, rest) := Doctype.read rest; ([doctype d], rest)
  | _, _ =>
    match inForeign, Text.afterLead? "[CDATA[".toList cs with
    | true, some rest => let (run, rest) := readSection rest; (ofText run, rest)
    | _, _ => Comment.bogus cs

/-- What follows an opening angle and a slash. -/
def readEndTag (cs : List Char) : List Token × List Char :=
  match cs with
  | [] => (ofText ['<', '/'], [])
  | '>' :: rest => ([], rest)
  | c :: _ =>
    if Text.isAsciiAlpha c then
      match Tag.read cs with
      | some (tag, rest) => ([endTag tag], rest)
      | none => ([], [])
    else Comment.bogus cs

/-- What follows an opening angle. -/
def readMarkup (inForeign : Bool) (cs : List Char) : List Token × List Char :=
  match cs with
  | '!' :: rest => readDeclaration inForeign rest
  | '/' :: rest => readEndTag rest
  | '?' :: _ => Comment.bogus cs
  | c :: _ =>
    if Text.isAsciiAlpha c then
      match Tag.read cs with
      | some (tag, rest) => ([startTag tag], rest)
      | none => ([], [])
    else (ofText ['<'], cs)
  | [] => (ofText ['<'], [])

/-! ## The scanner -/

/-- The next tokens of a page that has not ended, and what is left of it. -/
def scan (content : Content) (inForeign : Bool) (cs : List Char) : List Token × List Char :=
  match content with
  | .markup =>
    match cs with
    | '<' :: rest => readMarkup inForeign rest
    | '&' :: rest =>
      let (run, rest) := CharacterReference.read false rest
      (ofText run, rest)
    | cs =>
      let (run, rest) := Tag.upTo (fun c => c == '<' || c == '&') cs
      (ofText run, rest)
  | .escapableText element =>
    let (run, found) := splitAtEnd element cs
    withEndTag element (CharacterReference.resolve false (run.map withoutNull)) found
  | .rawText element =>
    let (run, found) := splitAtEnd element cs
    withEndTag element (run.map withoutNull) found
  | .script =>
    let (run, found) := splitScript 0 .plain cs
    withEndTag "script" (run.map withoutNull) found
  | .plainText => (ofText (cs.map withoutNull), [])

end Token

end Gleaner.Html
