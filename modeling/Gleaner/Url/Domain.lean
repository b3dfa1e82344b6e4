import Gleaner.Text.Utf8
import Gleaner.Unicode.Direction
import Gleaner.Unicode.DomainMapping
import Gleaner.Unicode.Joining
import Gleaner.Url.Punycode

set_option autoImplicit false

/-! # Domain names

A domain name is brought into one form: its characters mapped and composed, each label that is not ASCII
written in Punycode behind `xn--`. A label that comes in Punycode must stand for one that would be
written that way. -/

namespace Gleaner.Domain

/-- ASCII characters that no name may hold. -/
def isForbidden (c : Char) : Bool :=
  c.toNat ≤ 0x20 || c.toNat == 0x7F || "%#/:<>?@[\\]^|".contains c

/-- All characters are ASCII. -/
def isAscii (cs : List Char) : Bool := cs.all (·.toNat < 0x80)

/-- The characters of a name, mapped and composed. -/
def normalize? (cs : List Char) : Option (List Char) :=
  if isAscii cs then some (cs.map Char.toLower)
  else (cs.mapM Unicode.DomainMapping.map?).map fun mapped => Unicode.compose mapped.flatten

/-- The label may stand in a name as it is. -/
def isValid (label : List Char) : Bool :=
  !label.any isForbidden && !((label.head?.map Unicode.isMark).getD false) &&
    Unicode.Joining.areInPlace [] label

/-- What marks a label in Punycode. -/
def punycodeMark : List Char := ['x', 'n', '-', '-']

/-- A normalized label in characters; none if it cannot stand in a name. -/
def label? (label : List Char) : Option (List Char) :=
  match Text.afterLead? punycodeMark label with
  | none => if isValid label then some label else none
  | some code =>
    if !isAscii code then none
    else match Punycode.decode? code with
      | none => none
      | some decoded =>
        if isAscii decoded || normalize? decoded != some decoded || !isValid decoded then none
        else some decoded

/-- A label in ASCII. -/
def labelText (label : List Char) : List Char :=
  if isAscii label then label else punycodeMark ++ Punycode.encode label

/-- The directions of the characters allow the labels to stand side by side. -/
def haveStableDirections (labels : List (List Char)) : Bool :=
  if labels.all isAscii then true
  else
    let directions := labels.map fun label => label.map Unicode.Direction.ofChar
    !directions.any (·.any Unicode.Direction.isRightward) ||
      directions.all Unicode.Direction.isStable

/-- The name that bytes stand for, in ASCII. -/
def ofBytes? (bytes : Bytes) : Option (List Char) := do
  let text ← Utf8.decode? bytes
  let name ← normalize? text.toList
  let labels ← (Text.pieces '.' name).mapM label?
  if haveStableDirections labels then
    some (((labels.map labelText).intersperse ['.']).flatten)
  else none

end Gleaner.Domain
