import Gleaner.Html.CharacterReference

set_option autoImplicit false

/-! # Reading tags

A tag is read from its name on. Whatever stands between its name and its end is attributes: every
character has a meaning there, so reading fails only where the text ends before the tag does. -/

namespace Gleaner.Html.Tag

/-- The character ends the name of a tag. -/
def endsName (c : Char) : Bool := Text.isMarkupSpace c || c == '/' || c == '>'

/-- A name as it is kept: letters in lower case, NUL replaced. -/
def nameOf (cs : List Char) : String :=
  String.ofList (cs.map fun c => Token.withoutNull c.toLower)

/-- A value as it is kept: references resolved, NUL replaced. -/
def valueOf (cs : List Char) : String :=
  String.ofList (CharacterReference.resolve true (cs.map Token.withoutNull))

/-- What a list of characters starts with, up to the first one that satisfies `p`, and the rest. -/
def upTo (p : Char → Bool) (cs : List Char) : List Char × List Char :=
  let run := cs.takeWhile fun c => !p c
  (run, cs.drop run.length)

/-- Reads a value from behind the equals sign on. A value that is missing altogether is empty. -/
def readValue (cs : List Char) : Option (String × List Char) :=
  match cs.dropWhile Text.isMarkupSpace with
  | [] => none
  | '>' :: rest => some ("", '>' :: rest)
  | '\x22' :: rest => quoted '\x22' rest
  | '\x27' :: rest => quoted '\x27' rest
  | cs =>
    let (value, rest) := upTo (fun c => Text.isMarkupSpace c || c == '>') cs
    if rest.isEmpty then none else some (valueOf value, rest)
where
  /-- Reads up to the closing quote and passes over it. -/
  quoted (quote : Char) (cs : List Char) : Option (String × List Char) :=
    let (value, rest) := upTo (· == quote) cs
    if rest.isEmpty then none else some (valueOf value, rest.drop 1)

/-- Reads one attribute; the first character belongs to the name whatever it is. -/
def readAttribute (first : Char) (cs : List Char) : Option ((String × String) × List Char) :=
  let (name, rest) := upTo (fun c => endsName c || c == '=') cs
  let name := nameOf (first :: name)
  match rest.dropWhile Text.isMarkupSpace with
  | [] => none
  | '=' :: rest => (readValue rest).map fun (value, rest) => ((name, value), rest)
  | rest => some ((name, ""), rest)

/-- Adds an attribute behind the others unless there is one of its name. -/
def addAttribute (attributes : List (String × String)) (a : String × String) :
    List (String × String) :=
  if attributes.any (·.1 == a.1) then attributes else attributes ++ [a]

/-- Reads attributes up to and including the end of the tag. The answer is none where the text
ends. -/
def readAttributes : Nat → Tag → List Char → Option (Tag × List Char)
  | 0, _, _ => none
  | fuel + 1, tag, cs =>
    match cs.dropWhile Text.isMarkupSpace with
    | [] => none
    | '>' :: rest => some (tag, rest)
    | '/' :: '>' :: rest => some ({ tag with selfClosing := true }, rest)
    | '/' :: rest => readAttributes fuel tag rest
    | c :: rest =>
      match readAttribute c rest with
      | none => none
      | some (a, rest) =>
        readAttributes fuel { tag with attributes := addAttribute tag.attributes a } rest

/-- Reads a tag from its name on. -/
def read (cs : List Char) : Option (Tag × List Char) :=
  let (name, rest) := upTo endsName cs
  readAttributes (rest.length + 1) { name := nameOf name } rest

end Gleaner.Html.Tag
