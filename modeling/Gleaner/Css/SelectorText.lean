import Gleaner.Css.Selector

set_option autoImplicit false

/-! # Reading selectors

A text that is not wholly understood is no selector. Only the alternatives inside `:is` and `:where`
are read one by one, and those that are not understood are left out. -/

namespace Gleaner.Css

open Component

/-! ## Numbers -/

/-- The number behind `n-` in a name such as `n-3`. -/
def dashDigits? (name : List Char) : Option Int :=
  match name with
  | n :: '-' :: d :: rest =>
    if n.toLower == 'n' && (d :: rest).all Text.isAsciiDigit then
      some (clampInt (-(valueOf (d :: rest) : Int)))
    else none
  | _ => none

/-- Reads a number without a sign. -/
def readUnsigned (a sign : Int) (cs : List Component) : Option ((Int × Int) × List Component) :=
  match skipBlanks cs with
  | number false (some b) :: rest => some ((a, sign * b), rest)
  | _ => none

/-- Reads what may follow the multiple of `n`. -/
def readOffset (a : Int) (cs : List Component) : Option ((Int × Int) × List Component) :=
  match skipBlanks cs with
  | delim '+' :: rest => readUnsigned a 1 rest
  | delim '-' :: rest => readUnsigned a (-1) rest
  | number true (some b) :: rest => some ((a, b), rest)
  | _ => some ((a, 0), cs)

/-- Reads what follows the factor `a`, with `unit` written right behind it. -/
def readUnit (a : Int) (unit : String) (rest : List Component) :
    Option ((Int × Int) × List Component) :=
  let lowered := Text.lower unit
  if lowered == "n" then readOffset a rest
  else if lowered == "n-" then readUnsigned a (-1) rest
  else (dashDigits? unit.toList).map fun b => ((a, b), rest)

/-- Reads the `a` and `b` of a place among siblings. -/
def readPlaces (cs : List Component) : Option (Int × Int) := do
  let (ab, rest) ← match skipBlanks cs with
    | number _ (some b) :: rest => some ((0, b), rest)
    | dimension (some a) unit :: rest => readUnit a unit rest
    | ident name :: rest =>
      let lowered := Text.lower name
      if lowered == "even" then some ((2, 0), rest)
      else if lowered == "odd" then some ((2, 1), rest)
      else match name.toList with
        | '-' :: unit => readUnit (-1) (String.ofList unit) rest
        | unit => readUnit 1 (String.ofList unit) rest
    | delim '+' :: ident name :: rest => readUnit 1 name rest
    | _ => none
  if (skipBlanks rest).isEmpty then some ab else none

/-! ## Attributes -/

/-- Attributes whose values are compared without regard to letter case in elements of HTML. -/
def caselessAttributes : List String :=
  ["accept", "accept-charset", "align", "alink", "axis", "bgcolor", "charset", "checked", "clear",
    "codetype", "color", "compact", "declare", "defer", "dir", "direction", "disabled", "enctype",
    "face", "frame", "hreflang", "http-equiv", "lang", "language", "link", "media", "method",
    "multiple", "nohref", "noresize", "noshade", "nowrap", "readonly", "rel", "rev", "rules", "scope",
    "scrolling", "selected", "shape", "target", "text", "type", "valign", "valuetype", "vlink"]

/-- The comparison that an operator stands for. -/
def comparison? : Component → Option Comparison
  | delim '=' => some .equal
  | matchOperator '~' => some .word
  | matchOperator '|' => some .dash
  | matchOperator '^' => some .start
  | matchOperator '$' => some .finish
  | matchOperator '*' => some .part
  | _ => none

/-- Reads the value behind an operator and the flag behind the value. -/
def readValueTest (anySpace : Bool) (name : String) (comparison : Comparison)
    (cs : List Component) : Option ValueTest := do
  let (value, rest) ← match skipBlanks cs with
    | ident s :: rest | string s :: rest => some (s, rest)
    | _ => none
  let (letterCase, rest) ← match skipBlanks rest with
    | [] =>
      if !anySpace && caselessAttributes.contains (Text.lower name) then
        some (LetterCase.insensitiveInHtml, [])
      else some (.sensitive, [])
    | ident flag :: rest =>
      if Text.lower flag == "i" then some (.insensitive, rest)
      else if Text.lower flag == "s" then some (.sensitive, rest)
      else none
    | _ => none
  if (skipBlanks rest).isEmpty then some ⟨comparison, value, letterCase⟩ else none

/-- Reads what stands in square brackets. -/
def readAttribute (cs : List Component) : Option Simple := do
  let (anySpace, name, rest) ← match skipBlanks cs with
    | delim '*' :: delim '|' :: ident name :: rest => some (true, name, rest)
    | delim '|' :: ident name :: rest => some (false, name, rest)
    | ident _ :: delim '|' :: _ => none
    | ident name :: rest => some (false, name, rest)
    | _ => none
  match skipBlanks rest with
  | [] => some (.attribute anySpace name none)
  | operator :: rest =>
    let comparison ← comparison? operator
    let test ← readValueTest anySpace name comparison rest
    some (.attribute anySpace name (some test))

/-! ## Chains -/

/-- Reads a combinator; the blanks around it do not count, and blanks alone are one. -/
def readCombinator (cs : List Component) : Option (Combinator × List Component) :=
  match skipBlanks cs with
  | delim '>' :: rest => some (.child, rest)
  | delim '+' :: rest => some (.nextSibling, rest)
  | delim '~' :: rest => some (.laterSibling, rest)
  | [] => none
  | rest =>
    match cs with
    | blank :: _ => some (.descendant, rest)
    | _ => none

/-- Reads the type at the start of a compound, if there is one. The answer is none where the text is
no selector. -/
def readType (cs : List Component) : Option (List Simple × List Component) :=
  match cs with
  | ident _ :: delim '|' :: _ => none
  | ident name :: rest => some ([.type name], rest)
  | delim '*' :: delim '|' :: delim '*' :: rest => some ([.universal], rest)
  | delim '*' :: delim '|' :: ident name :: rest => some ([.type name], rest)
  | delim '*' :: delim '|' :: _ => none
  | delim '*' :: rest => some ([.universal], rest)
  | delim '|' :: delim '*' :: rest => some ([.noNamespace, .universal], rest)
  | delim '|' :: ident name :: rest => some ([.noNamespace, .type name], rest)
  | delim '|' :: _ => none
  | _ => some ([], cs)

/-- A condition that is named by one word. -/
def namedCondition? (name : String) : Option Simple :=
  match Text.lower name with
  | "first-child" => some (.nth false false 0 1)
  | "last-child" => some (.nth true false 0 1)
  | "only-child" => some (.only false)
  | "first-of-type" => some (.nth false true 0 1)
  | "last-of-type" => some (.nth true true 0 1)
  | "only-of-type" => some (.only true)
  | "root" | "scope" => some .root
  | "empty" => some .empty
  | _ => none

/-- Which place among siblings a function speaks of: counted from the end, and of one type only. -/
def placeFunction? (name : String) : Option (Bool × Bool) :=
  match name with
  | "nth-child" => some (false, false)
  | "nth-last-child" => some (true, false)
  | "nth-of-type" => some (false, true)
  | "nth-last-of-type" => some (true, true)
  | _ => none

mutual

/-- Reads a condition that is a function. Inside of a `:has` there is no other one. -/
def readFunction (inHas : Bool) : Nat → String → List Component → Option Simple
  | 0, _, _ => none
  | fuel + 1, name, contents =>
    let lowered := Text.lower name
    match placeFunction? lowered with
    | some (fromEnd, ofType) => (readPlaces contents).map fun (a, b) => .nth fromEnd ofType a b
    | none =>
      if lowered == "is" || lowered == "where" then
        some (.anyOf (readForgiving inHas fuel (pieces contents)))
      else if lowered == "not" then (readAll inHas false fuel (pieces contents)).map .noneOf
      else if lowered == "has" && !inHas then (readAll true true fuel (pieces contents)).map .has
      else none

/-- Reads the conditions of a compound behind its type. -/
def readConditions (inHas : Bool) : Nat → List Component → Option (List Simple × List Component)
  | 0, _ => none
  | fuel + 1, cs =>
    let goOn (s : Simple) (rest : List Component) : Option (List Simple × List Component) :=
      (readConditions inHas fuel rest).map fun (more, rest) => (s :: more, rest)
    match cs with
    | .hash name true :: rest => goOn (.id name) rest
    | delim '.' :: ident name :: rest => goOn (.class name) rest
    | delim '.' :: _ => none
    | square contents :: rest => (readAttribute contents).bind (goOn · rest)
    | delim ':' :: ident name :: rest => (namedCondition? name).bind (goOn · rest)
    | delim ':' :: function name contents :: rest =>
      (readFunction inHas fuel name contents).bind (goOn · rest)
    | delim ':' :: _ => none
    | cs => some ([], cs)

/-- Reads a compound, which is not empty. -/
def readCompound (inHas : Bool) : Nat → List Component → Option (List Simple × List Component)
  | 0, _ => none
  | fuel + 1, cs => do
    let (type, rest) ← readType (skipBlanks cs)
    let (conditions, rest) ← readConditions inHas fuel rest
    if type.isEmpty && conditions.isEmpty then none else some (type ++ conditions, rest)

/-- Reads the compounds of a chain behind those read already, to the end of the piece. -/
def readLinks (inHas : Bool) : Nat → Chain → List Component → Option Chain
  | 0, _, _ => none
  | fuel + 1, before, cs =>
    match readCombinator cs with
    | none => if (skipBlanks cs).isEmpty then some before else none
    | some (combinator, rest) => do
      let (compound, rest) ← readCompound inHas fuel rest
      readLinks inHas fuel (.behind before combinator compound) rest

/-- Reads a chain; a relative one starts from an element that is given. -/
def readChain (inHas relative : Bool) : Nat → List Component → Option Chain
  | 0, _ => none
  | fuel + 1, cs => do
    if relative then
      let (combinator, rest) := (readCombinator (skipBlanks cs)).getD (.descendant, cs)
      let (compound, rest) ← readCompound inHas fuel rest
      readLinks inHas fuel (.behind .anchor combinator compound) rest
    else
      let (compound, rest) ← readCompound inHas fuel cs
      readLinks inHas fuel (.one compound) rest

/-- Reads all alternatives. -/
def readAll (inHas relative : Bool) : Nat → List (List Component) → Option (List Chain)
  | 0, _ => none
  | _ + 1, [] => some []
  | fuel + 1, piece :: more => do
    let chain ← readChain inHas relative fuel piece
    let chains ← readAll inHas relative fuel more
    some (chain :: chains)

/-- Reads the alternatives that can be read. -/
def readForgiving (inHas : Bool) : Nat → List (List Component) → List Chain
  | 0, _ => []
  | _ + 1, [] => []
  | fuel + 1, piece :: more =>
    match readChain inHas false fuel piece with
    | some chain => chain :: readForgiving inHas fuel more
    | none => readForgiving inHas fuel more

end

/-- The selector that a text is, if it is one. The fuel bounds the depth of the calls: every second
call leaves a component behind. -/
def Selector.parse? (s : String) : Option Selector :=
  (readAll false false (4 * s.length + 8) (pieces (Component.ofText s))).map Selector.mk

end Gleaner.Css
