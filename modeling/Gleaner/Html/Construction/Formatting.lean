import Gleaner.Html.Construction.Builder

set_option autoImplicit false

/-! # Formatting elements

Formatting may be closed in another order than it was opened, and it may be left open across blocks.
Construction repairs both: it opens formatting again where markup goes on, and it splits a
formatting element that a block has grown out of. -/

namespace Gleaner.Html

namespace Formatting

/-- The entry is for the node. -/
def isFor (n : Address) : Formatting → Bool
  | marker => false
  | element m _ => m == n

/-- The entry is a marker. -/
def isMarker : Formatting → Bool
  | marker => true
  | element .. => false

/-- The entries since the last marker, with their tags. -/
def sinceMarker : List Formatting → List (Address × Tag)
  | [] | marker :: _ => []
  | element n tag :: rest => (n, tag) :: sinceMarker rest

/-- Drops everything up to and including the last marker. -/
def dropToMarker (entries : List Formatting) : List Formatting :=
  (entries.dropWhile fun e => !e.isMarker).drop 1

/-- Two tags that open the same formatting: the order of attributes does not matter. -/
def sameTag (s t : Tag) : Bool :=
  s.name == t.name && s.attributes.length == t.attributes.length &&
    s.attributes.all t.attributes.contains

end Formatting

namespace Build

/-- Changes the list of formatting elements. -/
def withFormatting (f : List Formatting → List Formatting) : Build Unit :=
  modify fun b => { b with formatting := f b.formatting }

/-- Formatting in front of what follows stays out of it. -/
def pushMarker : Build Unit := withFormatting (.marker :: ·)

/-- Forgets the formatting since the last marker. -/
def clearToMarker : Build Unit := withFormatting Formatting.dropToMarker

/-- Forgets the formatting of a node. -/
def forget (n : Address) : Build Unit := withFormatting (·.filter fun e => !e.isFor n)

/-- Opens the formatting elements again that have been closed by something else than their end
tag. -/
def reconstruct : Build Unit := do
  let b ← get
  let closed : Formatting → Bool
    | .marker => false
    | .element n _ => !b.openElements.contains n
  let run := b.formatting.takeWhile closed
  let reopened ← run.reverse.mapM fun e => do
    match e with
    | .marker => return e
    | .element _ tag => return .element (← insert tag) tag
  modify fun b => { b with formatting := reopened.reverse ++ b.formatting.drop run.length }

/-- Opens a formatting element. Of equal ones only the latest three are kept in mind. -/
def insertFormatting (t : Tag) : Build Unit := do
  let same := (Formatting.sinceMarker (← get).formatting).filter fun (_, tag) =>
    Formatting.sameTag t tag
  if 3 ≤ same.length then
    match same.getLast? with
    | some (earliest, _) => forget earliest
    | none => pure ()
  let n ← insert t
  withFormatting (.element n t :: ·)

/-- The end tag of an element that no rule is made for: closes the innermost element of its name
unless a special element is further in. -/
def closeOrdinary (name : String) : Build Unit := do
  search (← get).openElements
where
  /-- Goes from element to element. -/
  search : List Address → Build Unit
    | [] => return ()
    | n :: rest => do
      if ← isIn n (htmlElement name) then
        -- Elements further in go with it, whether or not their end may be implied.
        modify fun b => { b with openElements := rest }
      else if ← isIn n ElementGroup.special then return ()
      else search rest

/-! ## Splitting formatting around a block -/

/-- What is kept while the elements between a block and its formatting are gone through. -/
structure Splitting where
  /-- The node that goes into the next element outward. -/
  last : Address
  /-- The formatting element behind which the new one is listed; none for the place of the old. -/
  after : Option Address := none

/-- Repeats an element with its tag, in the open elements and in the list of formatting elements. -/
def renew (n : Address) (tag : Tag) : Build Address := do
  let m ← createElement ⟨.html, tag.name⟩ (plainAttributes tag.attributes)
  modify fun b =>
    { b with
      openElements := b.openElements.map fun x => if x == n then m else x
      formatting := b.formatting.map fun e => if e.isFor n then .element m tag else e }
  return m

/-- The tag of the formatting element at an address. -/
def formattingTag? (n : Address) : Build (Option Tag) := do
  return (← get).formatting.findSome? fun
    | .marker => none
    | .element m tag => if m == n then some tag else none

/-- Goes through the elements between a block and its formatting, from the inside out. Formatting
among the first three is repeated around what has been collected, everything else is closed. -/
def goThrough (block : Address) : Nat → List Address → Splitting → Build Splitting
  | _, [], s => return s
  | count, n :: rest, s => do
    match ← formattingTag? n, decide (count < 3) with
    | some tag, true =>
      let m ← renew n tag
      modify fun b => { b with page := b.page.append m s.last }
      let after := if s.last == block then some m else s.after
      goThrough block (count + 1) rest { last := m, after }
    | _, _ =>
      forget n
      removeOpen n
      goThrough block (count + 1) rest s

/-- Lists an entry in the place that has been kept for it. -/
def listFormatting (old : Address) (after : Option Address) (entry : Formatting) : Build Unit :=
  match after with
  | none => withFormatting (·.map fun e => if e.isFor old then entry else e)
  | some n => withFormatting fun entries =>
    (entries.flatMap fun e => if e.isFor n then [entry, e] else [e]).filter fun e => !e.isFor old

/-- Splits a formatting element around the outermost block in it. The answer is whether there may be
more to split. -/
def splitAround (old : Address) (tag : Tag) (block : Address) : Build Unit := do
  let o := (← get).openElements
  let outside := (o.dropWhile (· != old)).drop 1
  let between := ((o.takeWhile (· != old)).dropWhile (· != block)).drop 1
  let s ← goThrough block 0 between { last := block }
  modify fun b => { b with page := b.page.detach s.last }
  match outside with
  | ancestor :: _ => put (← placeFor ancestor) s.last
  | [] => pure ()
  let n ← createElement ⟨.html, tag.name⟩ (plainAttributes tag.attributes)
  modify fun b =>
    { b with page := (b.page.handOver block n).append block n }
  listFormatting old s.after (.element n tag)
  removeOpen old
  modify fun b =>
    { b with openElements := b.openElements.flatMap fun x => if x == block then [n, x] else [x] }

/-- One round of closing formatting of a name. The answer is whether another round follows. -/
def closeFormattingOnce (name : String) : Build Bool := do
  let b ← get
  match (Formatting.sinceMarker b.formatting).find? fun (_, tag) => tag.name == name with
  | none =>
    closeOrdinary name
    return false
  | some (n, tag) =>
    if !b.openElements.contains n then
      forget n
      return false
    else if !(← findInScope ElementGroup.scope fun m => return m == n) then return false
    else
      let inside := b.openElements.takeWhile (· != n)
      match ← inside.reverse.filterM fun m => isIn m ElementGroup.special with
      | [] =>
        modify fun b => { b with openElements := (b.openElements.dropWhile (· != n)).drop 1 }
        forget n
        return false
      | block :: _ =>
        splitAround n tag block
        return true

/-- Closes formatting of a name, splitting it around the blocks it is left open in. -/
def closeFormatting (name : String) : Build Unit := do
  let b ← get
  match b.openElements with
  | n :: _ =>
    if (← isIn n (htmlElement name)) && !b.formatting.any (·.isFor n) then pop else rounds 8
  | [] => rounds 8
where
  /-- At most so many rounds. -/
  rounds : Nat → Build Unit
    | 0 => return ()
    | more + 1 => do if ← closeFormattingOnce name then rounds more

end Build

end Gleaner.Html
