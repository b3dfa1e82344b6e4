import Gleaner.Html.Reader
import Gleaner.Proofs.Html.Construction.Rules

set_option autoImplicit false
set_option mvcgen.warning false

/-! # Pages that have been read

Reading starts with a single branch and takes in token after token, each by the rules of construction. So
nothing stands below the leaves of a page that has been read.

Its links are in step as well if formatting is never split around a block on the way. That happens only when
formatting is closed while a special element is open inside of it, as in `<b><p>1</b>`, and
`Builder.readingMaySplit` looks for it in each round in which a token meets the rules. Where it finds nothing,
the links below every node of the page agree (`Page.IsReadTidily.agree`), and all that is proved of searches,
texts and selections under that condition holds throughout the page. -/

namespace Gleaner.Html

namespace Builder

variable {tidy : Prop} {p : Page} {b : Builder}

/-- Formatting may be split when tokens are taken in one after the other. -/
def tokensMaySplit : List Token → Builder → Bool
  | [], _ => false
  | token :: rest, b => b.takingMaySplit token || tokensMaySplit rest (b.take token)

/-- Formatting may be split when characters are taken in. -/
def feedMaySplit : Nat → Builder → List Char → Bool
  | 0, _, _ => false
  | _ + 1, _, [] => false
  | fuel + 1, b, cs =>
    let (tokens, rest) := Token.scan b.content b.inForeign cs
    tokensMaySplit tokens b || feedMaySplit fuel (tokens.foldl take b) rest

/-- Formatting may be split when a whole page is taken in. -/
def readingMaySplit (b : Builder) (cs : List Char) : Bool :=
  feedMaySplit cs.length b cs || (feed cs.length b cs).takingMaySplit .endOfInput

theorem Sound.take (h : b.Sound tidy p) {token : Token} (htidy : tidy → b.takingMaySplit token = false) :
    (b.take token).Sound tidy p :=
  Build.spec_process token b ⟨h, htidy⟩

theorem Sound.foldl_take (h : b.Sound tidy p) {tokens : List Token}
    (htidy : tidy → tokensMaySplit tokens b = false) : (tokens.foldl Builder.take b).Sound tidy p := by
  induction tokens generalizing b with
  | nil => exact h
  | cons token rest ih =>
    have hsplit := fun ht => Bool.or_eq_false_iff.mp (htidy ht)
    exact ih (h.take fun ht => (hsplit ht).1) fun ht => (hsplit ht).2

theorem Sound.feed (h : b.Sound tidy p) {fuel : Nat} {cs : List Char}
    (htidy : tidy → feedMaySplit fuel b cs = false) : (b.feed fuel cs).Sound tidy p := by
  induction fuel generalizing b cs with
  | zero => exact h
  | succ fuel ih =>
    cases cs with
    | nil => exact h
    | cons c cs =>
      have hsplit := fun ht => Bool.or_eq_false_iff.mp (htidy ht)
      exact ih (h.foldl_take fun ht => (hsplit ht).1) fun ht => (hsplit ht).2

/-- Reading is tidy as long as it splits nothing. -/
theorem Sound.takeAll {cs : List Char} (h : b.Sound (b.readingMaySplit cs = false) p) :
    (b.takeAll cs).Sound (b.readingMaySplit cs = false) p :=
  (h.feed fun ht => (Bool.or_eq_false_iff.mp ht).1).take fun ht => (Bool.or_eq_false_iff.mp ht).2

/-- A single branch is sound. -/
theorem sound_start {label : Node} (hlabel : label.isLeaf = false) (context : Option ElementName) :
    Sound tidy (Page.start label) { page := Page.start label, context } where
  leavesBare := Page.leavesBare_start label
  linked _ := Page.Linked.start label
  root := Page.isBranch_start hlabel
  opened _ hn := by cases hn
  head _ hn := by cases hn
  earlier _ := id

theorem sound_forPage : forPage.Sound tidy (Page.start .document) := sound_start rfl none

theorem sound_forPiece : forPiece.Sound tidy (Page.start .fragment) := by
  have hsafe : Build.Safe tidy (Page.start .fragment) (do Build.createOutermost []; Build.resetMode) := by
    mvcgen
  exact hsafe _ (sound_start rfl (some ⟨.html, "body"⟩))

end Builder

namespace Page

/-- The page has been read from a text, as a whole page or as a piece of one. -/
def IsRead (p : Page) : Prop := (∃ markup, p = read markup) ∨ ∃ markup, p = readPiece markup

/-- Nothing stands below the leaves of a page that has been read. -/
theorem IsRead.leavesBare {p : Page} (h : p.IsRead) : p.LeavesBare := by
  rcases h with ⟨markup, rfl⟩ | ⟨markup, rfl⟩
  · exact Builder.sound_forPage.takeAll.leavesBare
  · exact Builder.sound_forPiece.takeAll.leavesBare

/-- The page has been read without formatting being split around a block. -/
def IsReadTidily (p : Page) : Prop :=
  (∃ markup, p = read markup ∧ Builder.forPage.readingMaySplit (normalize markup.toList) = false) ∨
    ∃ markup, p = readPiece markup ∧ Builder.forPiece.readingMaySplit (normalize markup.toList) = false

theorem IsReadTidily.isRead {p : Page} (h : p.IsReadTidily) : p.IsRead :=
  h.imp (fun ⟨markup, hread, _⟩ => ⟨markup, hread⟩) fun ⟨markup, hread, _⟩ => ⟨markup, hread⟩

/-- Without splitting, all nodes that are put anywhere are new, so the links stay in step. -/
theorem IsReadTidily.linked {p : Page} (h : p.IsReadTidily) : p.Linked := by
  rcases h with ⟨markup, rfl, htidy⟩ | ⟨markup, rfl, htidy⟩
  · exact Builder.sound_forPage.takeAll.linked htidy
  · exact Builder.sound_forPiece.takeAll.linked htidy

/-- The links below every node of the page agree. -/
theorem IsReadTidily.agree {p : Page} (h : p.IsReadTidily) {n : Address} (hn : n < p.slots.size) :
    p.Agree n :=
  h.linked.agree hn

-- Bold text that is moved in front of a table, and a paragraph that is left open in bold text.
example :
    Builder.forPage.readingMaySplit "<table><tr><td>cell</td></tr><b>fostered</b></table>".toList = false
      ∧ Builder.forPage.readingMaySplit "<b><p>1</b>2".toList = true := by
  decide +kernel

end Page

end Gleaner.Html
