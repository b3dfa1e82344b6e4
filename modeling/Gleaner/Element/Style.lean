import Gleaner.Text.Blank

set_option autoImplicit false

/-! # Inline styles

The value of a `style` attribute is a list of declarations between semicolons. A declaration is a
property and a value, parted by its first colon; pieces without a colon or without a property are no
declarations. -/

namespace Gleaner.Style

/-- A property and its value. -/
structure Declaration where
  property : String
  value : String
  deriving DecidableEq, Repr

/-- The declaration that a piece between semicolons makes. -/
def Declaration.ofPiece? (piece : List Char) : Option Declaration :=
  match Text.cut? ':' piece with
  | none => none
  | some (property, value) =>
    let property := Text.trim property
    if property.isEmpty then none
    else some ⟨String.ofList property, String.ofList (Text.trim value)⟩

/-- The declarations of a style, in order. -/
def declarations (style : String) : List Declaration :=
  (Text.pieces ';' style.toList).filterMap Declaration.ofPiece?

/-- The value of a property: that of its last declaration, in whatever letter case. -/
def property? (declarations : List Declaration) (name : String) : Option String :=
  (declarations.reverse.find? fun d => Text.sameLetters d.property name).map (·.value)

end Gleaner.Style
