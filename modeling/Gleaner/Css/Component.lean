import Gleaner.Text.Blank

set_option autoImplicit false

/-! # Component values

A selector is written in the tokens of style sheets. Brackets always come in pairs: what stands
between them is one component, and brackets left open at the end of the text are closed there. -/

namespace Gleaner.Css

/-- A token, or a bracket with its contents. -/
inductive Component where
  | ident (name : String)
  /-- A name right before a parenthesis, with what stands in it. -/
  | function (name : String) (contents : List Component)
  /-- A name behind a number sign; `isId` if it could stand alone. -/
  | hash (name : String) (isId : Bool)
  | string (content : String)
  /-- A number, with its value if it is written as an integer. -/
  | number (signed : Bool) (value : Option Int)
  /-- A number with a unit. -/
  | dimension (value : Option Int) (unit : String)
  | blank
  | delim (c : Char)
  /-- An operator of two characters that ends in an equals sign, by its first character. -/
  | matchOperator (c : Char)
  | square (contents : List Component)
  | round (contents : List Component)
  | curly (contents : List Component)
  /-- Anything that no selector can hold. -/
  | other

namespace Component

/-! ## Characters -/

/-- A line break. -/
def isNewline (c : Char) : Bool := c == '\n' || c == '\r' || c == '\x0c'

/-- The character can start a name. -/
def startsName (c : Char) : Bool := Text.isAsciiAlpha c || c == '_' || c == '\x00' || 0x80 ≤ c.toNat

/-- The character can stand in a name. -/
def inName (c : Char) : Bool := startsName c || Text.isAsciiDigit c || c == '-'

/-- A backslash that starts an escape comes next. -/
def atEscape : List Char → Bool
  | '\\' :: c :: _ => !isNewline c
  | ['\\'] => true
  | _ => false

/-- A name comes next. -/
def atName : List Char → Bool
  | '-' :: c :: rest => startsName c || c == '-' || atEscape (c :: rest)
  | c :: rest => startsName c || atEscape (c :: rest)
  | [] => false

/-- A number comes next. -/
def atNumber : List Char → Bool
  | c :: d :: e :: _ =>
    if c == '+' || c == '-' then Text.isAsciiDigit d || (d == '.' && Text.isAsciiDigit e)
    else Text.isAsciiDigit c || (c == '.' && Text.isAsciiDigit d)
  | [c, d] =>
    if c == '+' || c == '-' then Text.isAsciiDigit d
    else Text.isAsciiDigit c || (c == '.' && Text.isAsciiDigit d)
  | [c] => Text.isAsciiDigit c
  | [] => false

/-! ## Names, strings and numbers -/

/-- Reads an escape from behind its backslash on. -/
def readEscape (cs : List Char) : Char × List Char :=
  match cs with
  | [] => ('\ufffd', [])
  | c :: rest =>
    let digits := (cs.takeWhile Text.isHexDigit).take 6
    if digits.isEmpty then (if c == '\x00' then '\ufffd' else c, rest)
    else
      let n := digits.foldl (fun n c => n * 16 + (Text.hexDigit? c).getD 0) 0
      let rest := match cs.drop digits.length with
        | '\r' :: '\n' :: rest => rest
        | c :: rest => if isNewline c || c == ' ' || c == '\t' then rest else c :: rest
        | [] => []
      (if n == 0 || !Text.isScalar n then '\ufffd' else Char.ofNat n, rest)

/-- Reads the characters of a name; the fuel is the length of the text. -/
def readName : Nat → List Char → List Char × List Char
  | 0, cs => ([], cs)
  | fuel + 1, cs =>
    match cs with
    | [] => ([], [])
    | c :: rest =>
      if inName c then
        let (name, rest) := readName fuel rest
        ((if c == '\x00' then '\ufffd' else c) :: name, rest)
      else if atEscape cs then
        let (e, rest) := readEscape rest
        let (name, rest) := readName fuel rest
        (e :: name, rest)
      else ([], cs)

/-- The name that comes next, and what is left. -/
def name (cs : List Char) : String × List Char :=
  let (name, rest) := readName cs.length cs
  (String.ofList name, rest)

/-- Reads a string up to its closing quote or the end of the text. A line break in it spoils it. -/
def readString (quote : Char) : Nat → List Char → Option (List Char) × List Char
  | 0, cs => (some [], cs)
  | fuel + 1, cs =>
    match cs with
    | [] => (some [], [])
    | '\\' :: '\r' :: '\n' :: rest => readString quote fuel rest
    | ['\\'] => (some [], [])
    | '\\' :: c :: rest =>
      if isNewline c then readString quote fuel rest
      else
        let (e, rest) := readEscape (c :: rest)
        let (content, rest) := readString quote fuel rest
        (content.map (e :: ·), rest)
    | c :: rest =>
      if c == quote then (some [], rest)
      else if isNewline c then (none, cs)
      else
        let (content, rest) := readString quote fuel rest
        (content.map ((if c == '\x00' then '\ufffd' else c) :: ·), rest)

/-- The greatest and the least integer that a number can be. -/
def clampInt (n : Int) : Int := max (-2147483648) (min 2147483647 n)

/-- The value of digits. -/
def valueOf (digits : List Char) : Nat :=
  digits.foldl (fun n c => n * 10 + (c.toNat - '0'.toNat)) 0

/-- Reads a number and its unit. -/
def readNumber (cs : List Char) : Component × List Char :=
  let (signed, negative, unsigned) := match cs with
    | '+' :: rest => (true, false, rest)
    | '-' :: rest => (true, true, rest)
    | cs => (false, false, cs)
  let digits := unsigned.takeWhile Text.isAsciiDigit
  let behind := unsigned.drop digits.length
  let (fractional, behind) := match behind with
    | '.' :: d :: rest =>
      if Text.isAsciiDigit d then (true, (d :: rest).dropWhile Text.isAsciiDigit) else (false, behind)
    | _ => (false, behind)
  let (scaled, behind) := match behind with
    | e :: d :: rest =>
      if (e == 'e' || e == 'E') && Text.isAsciiDigit d then
        (true, rest.dropWhile Text.isAsciiDigit)
      else if (e == 'e' || e == 'E') && (d == '+' || d == '-') &&
          ((rest.head?.map Text.isAsciiDigit).getD false) then
        (true, rest.dropWhile Text.isAsciiDigit)
      else (false, behind)
    | _ => (false, behind)
  let n : Int := valueOf digits
  let value := if fractional || scaled then none else some (clampInt (if negative then -n else n))
  match behind with
  | '%' :: rest => (other, rest)
  | _ =>
    if atName behind then
      let (unit, rest) := name behind
      (dimension value unit, rest)
    else (number signed value, behind)

/-! ## Components -/

/-- Drops the rest of a comment. -/
def skipComment : List Char → List Char
  | [] => []
  | '*' :: '/' :: rest => rest
  | _ :: rest => skipComment rest

/-- Drops the rest of a bare address, which ends at the first closing parenthesis that is not
escaped. -/
def skipAddress : List Char → List Char
  | [] => []
  | ['\\'] => []
  | '\\' :: _ :: rest => skipAddress rest
  | c :: rest => if c == ')' then rest else skipAddress rest

/-- What follows `url(` is a bare address and not a string in quotes. -/
def atAddress (cs : List Char) : Bool :=
  match cs.dropWhile Text.isMarkupSpace with
  | c :: _ => !(c == '\x22' || c == '\x27')
  | [] => true

/-- Reads components up to a closing bracket, which is passed over, or to the end of the text. Each
call takes at least one character. -/
def readUntil (close : Option Char) : Nat → List Char → List Component × List Char
  | 0, cs => ([], cs)
  | fuel + 1, cs =>
    let goOn (c : Component) (rest : List Char) : List Component × List Char :=
      let (more, rest) := readUntil close fuel rest
      (c :: more, rest)
    let block (make : List Component → Component) (closing : Char) (rest : List Char) :
        List Component × List Char :=
      let (contents, rest) := readUntil (some closing) fuel rest
      goOn (make contents) rest
    match cs with
    | [] => ([], [])
    | '/' :: '*' :: rest => readUntil close fuel (skipComment rest)
    | '<' :: '!' :: '-' :: '-' :: rest => goOn other rest
    | '-' :: '-' :: '>' :: rest => goOn other rest
    | c :: rest =>
      if some c == close then ([], rest)
      else if Text.isMarkupSpace c then goOn blank (rest.dropWhile Text.isMarkupSpace)
      else if c == '\x22' || c == '\x27' then
        let (content, rest) := readString c rest.length rest
        goOn ((content.map fun s => string (String.ofList s)).getD other) rest
      else if c == '#' then
        if atName rest then let (n, rest) := name rest; goOn (hash n true) rest
        else if (rest.head?.map inName).getD false then
          let (n, rest) := name rest
          goOn (hash n false) rest
        else goOn (delim '#') rest
      else if c == '(' then block round ')' rest
      else if c == '[' then block square ']' rest
      else if c == '\x7b' then block curly '\x7d' rest
      else if c == ')' || c == ']' || c == '\x7d' || c == ';' || c == '@' then goOn other rest
      else if ['$', '*', '^', '|', '~'].contains c && rest.head? == some '=' then
        goOn (matchOperator c) (rest.drop 1)
      else if atNumber cs then let (n, rest) := readNumber cs; goOn n rest
      else if atName cs then
        let (n, rest) := name cs
        match rest with
        | '(' :: rest =>
          if Text.lower n == "url" && atAddress rest then goOn other (skipAddress rest)
          else block (function n) ')' rest
        | rest => goOn (ident n) rest
      else goOn (delim c) rest

/-- The components of a text. -/
def ofText (s : String) : List Component := (readUntil none s.length s.toList).1

/-! ## Lists of components -/

/-- Drops blanks at the start. -/
def skipBlanks : List Component → List Component
  | blank :: rest => skipBlanks rest
  | cs => cs

/-- The pieces between commas; `n` commas give `n + 1` pieces. -/
def pieces : List Component → List (List Component)
  | [] => [[]]
  | delim ',' :: rest => [] :: pieces rest
  | c :: rest =>
    match pieces rest with
    | [] => [[c]]
    | piece :: more => (c :: piece) :: more

end Component

end Gleaner.Css
