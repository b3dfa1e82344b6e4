import Gleaner.Html.Token.Tag

set_option autoImplicit false

/-! # Reading comments and doctypes

Both are read to the end of the text if nothing ends them before. -/

namespace Gleaner.Html

/-! ## Comments -/

namespace Comment

/-- How much of a comment's end has been read. -/
inductive State where
  /-- Nothing of the comment yet. -/
  | start
  /-- One dash of the comment. -/
  | startDash
  /-- No part of an end. -/
  | body
  | oneDash
  | twoDashes
  /-- Two dashes and an exclamation mark. -/
  | bang

/-- Reads a comment; `taken` holds what belongs to it, in reverse. -/
def read : State → List Char → List Char → List Char × List Char
  | _, taken, [] => (taken.reverse, [])
  | .start, taken, c :: rest =>
    if c == '-' then read .startDash taken rest
    else if c == '>' then (taken.reverse, rest)
    else read .body (Token.withoutNull c :: taken) rest
  | .startDash, taken, c :: rest =>
    if c == '-' then read .twoDashes taken rest
    else if c == '>' then (taken.reverse, rest)
    else read .body (Token.withoutNull c :: '-' :: taken) rest
  | .body, taken, c :: rest =>
    if c == '-' then read .oneDash taken rest
    else read .body (Token.withoutNull c :: taken) rest
  | .oneDash, taken, c :: rest =>
    if c == '-' then read .twoDashes taken rest
    else read .body (Token.withoutNull c :: '-' :: taken) rest
  | .twoDashes, taken, c :: rest =>
    if c == '>' then (taken.reverse, rest)
    else if c == '!' then read .bang taken rest
    else if c == '-' then read .twoDashes ('-' :: taken) rest
    else read .body (Token.withoutNull c :: '-' :: '-' :: taken) rest
  | .bang, taken, c :: rest =>
    if c == '-' then read .oneDash ('!' :: '-' :: '-' :: taken) rest
    else if c == '>' then (taken.reverse, rest)
    else read .body (Token.withoutNull c :: '!' :: '-' :: '-' :: taken) rest

/-- A comment token from behind its opening on. -/
def token (cs : List Char) : List Token × List Char :=
  let (content, rest) := read .start [] cs
  ([.comment (String.ofList content)], rest)

/-- A comment token out of markup that means nothing: everything up to the next closing angle. -/
def bogus (cs : List Char) : List Token × List Char :=
  let (content, rest) := Tag.upTo (· == '>') cs
  ([.comment (String.ofList (content.map Token.withoutNull))], rest.drop 1)

end Comment

/-! ## Doctypes -/

namespace Doctype

/-- What is left of `cs` when it starts with a word, in any letter case. -/
def afterWord? (word : String) (cs : List Char) : Option (List Char) :=
  let n := word.length
  if String.ofList ((cs.take n).map Char.toLower) == word then some (cs.drop n) else none

/-- The end of a doctype in which nothing more is understood. -/
def bogus (d : Doctype) (cs : List Char) : Doctype × List Char :=
  (d, (Tag.upTo (· == '>') cs).2.drop 1)

/-- A doctype that ends in the wrong place. -/
def broke (d : Doctype) : Doctype := { d with broken := true }

/-- Reads an identifier from behind its opening quote on; `none` behind it when the doctype ended in
it. -/
def readIdentifier (quote : Char) (cs : List Char) : String × Option (List Char) × List Char :=
  let (id, rest) := Tag.upTo (fun c => c == quote || c == '>') cs
  let id := String.ofList (id.map Token.withoutNull)
  match rest with
  | [] => (id, none, [])
  | c :: rest => if c == quote then (id, some rest, rest) else (id, none, rest)

/-- Reads what may stand behind a system identifier. -/
def afterSystem (d : Doctype) (cs : List Char) : Doctype × List Char :=
  match cs.dropWhile Text.isMarkupSpace with
  | [] => (broke d, [])
  | '>' :: rest => (d, rest)
  | cs => bogus d cs

/-- Reads a system identifier, if one follows. -/
def readSystem (required : Bool) (d : Doctype) (cs : List Char) : Doctype × List Char :=
  match cs.dropWhile Text.isMarkupSpace with
  | [] => (broke d, [])
  | '>' :: rest => (if required then broke d else d, rest)
  | c :: rest =>
    if c == '\x22' || c == '\x27' then
      let (id, inside, rest) := readIdentifier c rest
      let d := { d with systemId := some id }
      match inside with
      | some rest => afterSystem d rest
      | none => (broke d, rest)
    else bogus (broke d) (c :: rest)

/-- Reads a public identifier and what follows it. -/
def readPublic (d : Doctype) (cs : List Char) : Doctype × List Char :=
  match cs.dropWhile Text.isMarkupSpace with
  | [] => (broke d, [])
  | '>' :: rest => (broke d, rest)
  | c :: rest =>
    if c == '\x22' || c == '\x27' then
      let (id, inside, rest) := readIdentifier c rest
      let d := { d with publicId := some id }
      match inside with
      | some rest => readSystem false d rest
      | none => (broke d, rest)
    else bogus (broke d) (c :: rest)

/-- Reads a doctype from behind its keyword on. -/
def read (cs : List Char) : Doctype × List Char :=
  match cs.dropWhile Text.isMarkupSpace with
  | [] => ({ broken := true }, [])
  | '>' :: rest => ({ broken := true }, rest)
  | cs =>
    let (name, rest) := Tag.upTo (fun c => Text.isMarkupSpace c || c == '>') cs
    let d : Doctype := { name := some (Tag.nameOf name) }
    match rest.dropWhile Text.isMarkupSpace with
    | [] => (broke d, [])
    | '>' :: rest => (d, rest)
    | rest =>
      match afterWord? "public" rest, afterWord? "system" rest with
      | some rest, _ => readPublic d rest
      | _, some rest => readSystem true d rest
      | _, _ => bogus (broke d) rest

end Doctype

end Gleaner.Html
