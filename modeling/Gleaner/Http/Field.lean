import Gleaner.Text.Blank
import Gleaner.Text.Utf8

set_option autoImplicit false

/-! # Header fields

The header of a message is a list of fields, each a name and a value. Names differ only by more than
letter case and are kept in lower case. Which texts are names and values is the same for the fields of a
configuration and of a request; methods are tokens like names. -/

namespace Gleaner.Http

/-! ## Tokens -/

/-- The characters of names and methods. -/
def isTokenChar (c : Char) : Bool :=
  Text.isAsciiAlpha c || Text.isAsciiDigit c || "!#$%&\x27*+-.^_\x60|~".contains c

/-- At least one character, and only those of tokens. -/
def isToken (s : String) : Bool := !s.isEmpty && s.toList.all isTokenChar

/-! ## Fields -/

/-- The longest name. -/
def nameLimit : Nat := 65535

/-- The text is a name. -/
def isFieldName (s : String) : Bool := isToken s && s.length ≤ nameLimit

/-- The character may stand in a value: a tab, but no other control. -/
def isValueChar (c : Char) : Bool := c == '\t' || (0x20 ≤ c.toNat && c.toNat ≠ 0x7F)

/-- The text is a value. -/
def isFieldValue (s : String) : Bool := s.toList.all isValueChar

/-- What is wrong with a field. -/
inductive FieldFault where
  | name | value
  deriving DecidableEq, Repr

/-- The wording of a fault. -/
def FieldFault.message : FieldFault → String
  | name => "invalid HTTP header name"
  | value => "failed to parse header value"

/-- The first fault of a field. -/
def fieldFault? (name value : String) : Option FieldFault :=
  if !isFieldName name then some .name
  else if !isFieldValue value then some .value
  else none

/-- A field. -/
structure Field where
  /-- In lower case. -/
  name : String
  value : String
  deriving DecidableEq, Repr

/-- A field with its name in lower case. -/
def Field.of (name value : String) : Field := ⟨Text.lower name, value⟩

/-- The fields of a message, in the order in which they were set. -/
abbrev Fields := List Field

namespace Fields

/-- The values of a name. -/
def values (fields : Fields) (name : String) : List String :=
  (fields.filter (·.name == name)).map (·.value)

/-- There is a field of a name. -/
def has (fields : Fields) (name : String) : Bool := fields.any (·.name == name)

/-- Without the fields of a name. -/
def erase (fields : Fields) (name : String) : Fields := fields.filter (·.name != name)

/-- One more field, whatever fields of its name there are. -/
def add (fields : Fields) (field : Field) : Fields := fields ++ [field]

/-- The one field of its name. -/
def set (fields : Fields) (field : Field) : Fields := fields.erase field.name ++ [field]

/-- A field of a name that there was none of. -/
def supply (fields : Fields) (field : Field) : Fields :=
  if fields.has field.name then fields else fields.add field

/-- Adds the fields whose names there were none of. -/
def supplyAll (fields others : Fields) : Fields :=
  fields ++ others.filter fun f => !fields.has f.name

end Fields

end Gleaner.Http
