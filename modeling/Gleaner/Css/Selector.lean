import Gleaner.Css.Component

set_option autoImplicit false

/-! # Selectors

A selector says of an element whether it is meant. It is a list of alternatives; each of them is a
chain of compounds, held together by combinators and kept from its last compound outward, as it is
matched. -/

namespace Gleaner.Css

/-- How two compounds of a chain are related. -/
inductive Combinator where
  | descendant | child | nextSibling | laterSibling
  deriving DecidableEq, Repr

/-- How the value of an attribute is compared. -/
inductive Comparison where
  | equal
  /-- One of the words. -/
  | word
  /-- The whole, or everything before a dash. -/
  | dash
  | start | finish | part
  deriving DecidableEq, Repr

/-- Whether letter case counts in the value of an attribute. -/
inductive LetterCase where
  | sensitive
  | insensitive
  /-- Insensitive in elements of HTML. -/
  | insensitiveInHtml
  deriving DecidableEq, Repr

/-- The test of an attribute's value. -/
structure ValueTest where
  comparison : Comparison
  value : String
  letterCase : LetterCase
  deriving DecidableEq, Repr

mutual

/-- A condition on one element. -/
inductive Simple where
  /-- Elements of the name, which counts in lower case for elements of HTML. -/
  | type (name : String)
  | universal
  /-- Elements without a namespace. -/
  | noNamespace
  | id (name : String)
  | class (name : String)
  /-- An attribute, in any namespace or in none, and perhaps a test of its value. -/
  | attribute (anySpace : Bool) (name : String) (test : Option ValueTest)
  /-- The place among the siblings, perhaps only those of the same name, is `a · n + b` for some
  natural `n`, counted from the start or from the end. -/
  | nth (fromEnd ofType : Bool) (a b : Int)
  /-- No siblings, perhaps only of the same name. -/
  | only (ofType : Bool)
  | root
  | empty
  | anyOf (alternatives : List Chain)
  | noneOf (alternatives : List Chain)
  /-- An element related to this one, with the chains starting at this one. -/
  | has (alternatives : List Chain)

/-- A chain of compounds, the last one outermost. -/
inductive Chain where
  | one (compound : List Simple)
  | behind (before : Chain) (combinator : Combinator) (compound : List Simple)
  /-- The element that a relative chain starts from. -/
  | anchor

end

/-- A selector, by its alternatives. -/
structure Selector where
  alternatives : List Chain

end Gleaner.Css
