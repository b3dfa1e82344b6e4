import Mathlib
import Gleaner.Html.Construction.Builder
import Gleaner.Proofs.Html.Leaves
import Gleaner.Proofs.Html.Links

set_option autoImplicit false
set_option mvcgen.warning false

/-! # Sound states of construction

Construction puts nodes into the root, into open elements, into the head and into elements it has just
created. As long as none of these is a leaf, the leaves of the page stay bare. `Builder.Sound` says so of a
state, and `Build.Safe` of a step: it leads from sound states to sound ones.

A step may hold on to a node of an earlier state while others are created or moved. So a state is sound as
seen from an earlier page: the branches of that page are branches still. What is safe for every earlier
page keeps each branch of the present one (`Build.Safe.keeps`).

A construction is tidy if it never splits formatting around a block. Then every node that is put anywhere has
just been created, so it is younger than what it is put into (`Builder.IsNew`), and the links of the page
stay in step. Which constructions are tidy is left open here: `tidy` stands for the condition.

Each operation has its specification, and what is put together of operations is safe because they are. A step
that only looks leaves the state as it is (`Build.Looks`). Only three parts of a state matter, so a change to
the others leaves nothing to show. -/

namespace Gleaner.Html

open Std.Do

/-! ## Sound states -/

/-- What construction keeps true of a page, its open elements and its head, seen from an earlier page. -/
structure Soundness (tidy : Prop) (p q : Page) (opened : List Address) (head : Option Address) : Prop where
  leavesBare : q.LeavesBare
  linked : tidy → q.Linked
  root : q.IsBranch Page.root
  opened : ∀ n ∈ opened, q.IsBranch n
  head : ∀ n ∈ head, q.IsBranch n
  earlier : ∀ n, p.IsBranch n → q.IsBranch n

/-- The state is sound, seen from an earlier page. -/
def Builder.Sound (tidy : Prop) (p : Page) (b : Builder) : Prop :=
  Soundness tidy p b.page b.openElements b.head

namespace Builder.Sound

variable {tidy : Prop} {p : Page} {b b' : Builder}

/-- A state is sound if its page has grown out of that of a sound one, and what is open is either old or a
branch. -/
theorem step (h : b.Sound tidy p) (hpage : b.page.Grows b'.page)
    (hlinked : tidy → b.page.Linked → b'.page.Linked)
    (hopened : ∀ n ∈ b'.openElements, n ∈ b.openElements ∨ b'.page.IsBranch n)
    (hhead : ∀ n ∈ b'.head, n ∈ b.head ∨ b'.page.IsBranch n) : b'.Sound tidy p where
  leavesBare := hpage.leavesBare h.leavesBare
  linked htidy := hlinked htidy (h.linked htidy)
  root := hpage.branch _ h.root
  opened n hn := (hopened n hn).elim (fun hold => hpage.branch n (h.opened n hold)) id
  head n hn := (hhead n hn).elim (fun hold => hpage.branch n (h.head n hold)) id
  earlier n hn := hpage.branch n (h.earlier n hn)

/-- Only the page changes. -/
theorem withPage (h : b.Sound tidy p) {q : Page} (hpage : b.page.Grows q)
    (hlinked : tidy → b.page.Linked → q.Linked) : { b with page := q }.Sound tidy p :=
  h.step hpage hlinked (fun _ => .inl) fun _ => .inl

/-- Only the open elements change. -/
theorem withOpen (h : b.Sound tidy p) {opened : List Address} (hopened : ∀ n ∈ opened, b.page.IsBranch n) :
    { b with openElements := opened }.Sound tidy p :=
  h.step (.refl _) (fun _ => id) (fun n hn => .inr (hopened n hn)) fun _ => .inl

theorem close (h : b.Sound tidy p) {opened : List Address} (hopened : opened ⊆ b.openElements) :
    { b with openElements := opened }.Sound tidy p :=
  h.withOpen fun n hn => h.opened n (hopened hn)

/-- A sound state is sound as seen from its own page. -/
theorem rebase (h : b.Sound tidy p) : b.Sound tidy b.page :=
  { h with earlier := fun _ => id }

theorem seenFrom (h' : b'.Sound tidy b.page) (h : b.Sound tidy p) : b'.Sound tidy p :=
  { h' with earlier := fun n hn => h'.earlier n (h.earlier n hn) }

end Builder.Sound

/-- The node is new: it stands nowhere, and every open element is older. -/
structure Builder.IsNew (b : Builder) (n : Address) : Prop where
  fresh : b.page.Fresh n
  opened : ∀ m ∈ b.openElements, m < n

namespace Build

/-- The step leads from sound states to sound states. -/
abbrev Safe (tidy : Prop) (p : Page) {α : Type} (m : Build α) : Prop :=
  ⦃fun b => ⌜b.Sound tidy p⌝⦄ m ⦃⇓ _ b => ⌜b.Sound tidy p⌝⦄

/-- The step is safe, and the node it answers with is a branch. -/
abbrev GivesBranch (tidy : Prop) (p : Page) (m : Build Address) : Prop :=
  ⦃fun b => ⌜b.Sound tidy p⌝⦄ m ⦃⇓ n b => ⌜b.Sound tidy p ∧ b.page.IsBranch n⌝⦄

/-- The step is safe, and the node it answers with is a new branch. -/
abbrev GivesNew (tidy : Prop) (p : Page) (m : Build Address) : Prop :=
  ⦃fun b => ⌜b.Sound tidy p⌝⦄ m ⦃⇓ n b => ⌜b.Sound tidy p ∧ (tidy → b.IsNew n) ∧ b.page.IsBranch n⌝⦄

/-- The step only looks: it goes on with its answer in the same state. -/
abbrev Looks {α : Type} (m : Build α) (Q : PostCond α (.arg Builder .pure)) : Prop :=
  ⦃fun b => Q.1 (m.run b).1 b⦄ m ⦃Q⦄

variable {tidy : Prop} {p : Page}

/-- What has been a branch before a safe step is one behind it. -/
theorem Safe.keeps {α : Type} {m : Build α} {P : Builder → Prop}
    (h : ∀ q, ⦃fun b => ⌜b.Sound tidy q ∧ P b⌝⦄ m ⦃⇓ _ b => ⌜b.Sound tidy q⌝⦄) (n : Address) :
    ⦃fun b => ⌜b.Sound tidy p ∧ P b ∧ b.page.IsBranch n⌝⦄ m
    ⦃⇓ _ b => ⌜b.Sound tidy p ∧ b.page.IsBranch n⌝⦄ :=
  fun b ⟨hb, hP, hn⟩ => ⟨h p b ⟨hb, hP⟩, (h b.page b ⟨hb.rebase, hP⟩).earlier n hn⟩

/-- To see that a step is safe, the page it begins with can be taken for the earlier one. -/
theorem Safe.of_here {α : Type} {m : Build α} {P : Builder → Prop}
    (h : ∀ q, ⦃fun b => ⌜b.Sound tidy q ∧ b.page = q ∧ P b⌝⦄ m ⦃⇓ _ b => ⌜b.Sound tidy q⌝⦄) :
    ⦃fun b => ⌜b.Sound tidy p ∧ P b⌝⦄ m ⦃⇓ _ b => ⌜b.Sound tidy p⌝⦄ :=
  fun b hb => (h b.page b ⟨hb.1.rebase, rfl, hb.2⟩).seenFrom hb.1

/-! ## Looking -/

theorem Looks.of_state {α : Type} {m : Build α} (h : ∀ b, ⦃fun b' => ⌜b' = b⌝⦄ m ⦃⇓ _ b' => ⌜b' = b⌝⦄)
    (Q : PostCond α (.arg Builder .pure)) : Looks m Q := by
  intro b hQ
  have hstate : (m.run b).2 = b := h b b rfl
  change (Q.1 (m.run b).1 (m.run b).2).down
  rwa [hstate]

theorem Looks.run_eq {α : Type} {m : Build α} (h : ∀ Q, Looks m Q) (b : Builder) :
    m.run b = ((m.run b).1, b) := by
  have hstate : Looks m (⇓ _ b' => ⌜b' = b⌝) := h _
  exact Prod.ext rfl (hstate b rfl)

@[spec]
theorem spec_isIn (n : Address) (group : ElementGroup) {Q : PostCond Bool (.arg Builder .pure)} :
    ⦃fun b => Q.1 (((b.page.name? n).map group).getD false) b⦄ isIn n group ⦃Q⦄ := by
  mvcgen [isIn, nameOf]

@[spec]
theorem spec_current {Q : PostCond (Option Address) (.arg Builder .pure)} :
    ⦃fun b => Q.1 b.openElements.head? b⦄ current ⦃Q⦄ := by
  mvcgen [current]

@[spec] theorem looks_adjustedCurrent : ∀ Q, Looks adjustedCurrent Q :=
  .of_state fun b => by mvcgen [adjustedCurrent, nameOf]

@[spec] theorem looks_currentIsIn (group : ElementGroup) : ∀ Q, Looks (currentIsIn group) Q :=
  .of_state fun b => by mvcgen [currentIsIn]

@[spec] theorem looks_currentIs (name : String) : ∀ Q, Looks (currentIs name) Q := looks_currentIsIn _

@[spec] theorem looks_body : ∀ Q, Looks body Q := .of_state fun b => by mvcgen [body]

@[spec] theorem looks_isPiece : ∀ Q, Looks isPiece Q := .of_state fun b => by mvcgen [isPiece]

theorem looks_anyM {l : List Address} {f : Address → Build Bool} (hf : ∀ n Q, Looks (f n) Q) :
    ∀ Q, Looks (l.anyM f) Q := by
  refine .of_state fun b => ?_
  induction l with
  | nil => mvcgen [List.anyM]
  | cons n rest ih => mvcgen [List.anyM, hf, ih]

@[spec] theorem looks_isOpen (name : String) : ∀ Q, Looks (isOpen name) Q := by
  have hany (l : List Address) := looks_anyM (l := l) fun n _ => spec_isIn n (htmlElement name)
  exact .of_state fun b => by mvcgen [isOpen, hany]

theorem looks_findInScope_search (scope : ElementGroup) {f : Address → Build Bool}
    (hf : ∀ n Q, Looks (f n) Q) (l : List Address) : ∀ Q, Looks (findInScope.search scope f l) Q := by
  refine .of_state fun b => ?_
  induction l with
  | nil => mvcgen [findInScope.search]
  | cons n rest ih => mvcgen [findInScope.search, hf, ih]

@[spec] theorem looks_findInScope (scope : ElementGroup) {f : Address → Build Bool}
    (hf : ∀ n Q, Looks (f n) Q) : ∀ Q, Looks (findInScope scope f) Q := by
  have hsearch := looks_findInScope_search scope hf
  exact .of_state fun b => by mvcgen [findInScope, hsearch]

@[spec] theorem looks_inScope (scope : ElementGroup) (name : String) : ∀ Q, Looks (inScope scope name) Q :=
  looks_findInScope scope fun n _ => spec_isIn n (htmlElement name)

/-! ## Opening and closing -/

/-- Only a branch may be opened. -/
theorem push_branch (n : Address) :
    ⦃fun b => ⌜b.Sound tidy p ∧ b.page.IsBranch n⌝⦄ push n
    ⦃⇓ _ b => ⌜b.Sound tidy p ∧ b.page.IsBranch n⌝⦄ := by
  mvcgen [push]
  rename_i b h _
  exact ⟨h.1.withOpen (List.forall_mem_cons.mpr ⟨h.2, h.1.opened⟩), h.2⟩

@[spec]
theorem spec_push (n : Address) :
    ⦃fun b => ⌜b.Sound tidy p ∧ b.page.IsBranch n⌝⦄ push n ⦃⇓ _ b => ⌜b.Sound tidy p⌝⦄ :=
  fun b h => (push_branch n b h).1

@[spec] theorem safe_pop : Safe tidy p pop := by
  mvcgen [pop]
  rename_i b h _
  exact h.close (List.drop_subset ..)

@[spec] theorem safe_popThrough (group : ElementGroup) : Safe tidy p (popThrough group) := by
  mvcgen [popThrough]
  rename_i b h rest
  exact h.close fun _ hn => (List.dropWhile_suffix _).subset (List.drop_subset _ _ hn)

@[spec] theorem safe_popThroughNamed (name : String) : Safe tidy p (popThroughNamed name) := by
  mvcgen [popThroughNamed]

@[spec] theorem safe_popTo (group : ElementGroup) : Safe tidy p (popTo group) := by
  mvcgen [popTo]
  rename_i b h rest
  exact h.close (List.dropWhile_suffix _).subset

@[spec] theorem safe_popWhile (group : ElementGroup) : Safe tidy p (popWhile group) := by
  mvcgen [popWhile]
  rename_i b h rest
  exact h.close (List.dropWhile_suffix _).subset

@[spec] theorem safe_closeImplied : Safe tidy p closeImplied := by mvcgen [closeImplied]

@[spec] theorem safe_closeImpliedExcept (name : String) : Safe tidy p (closeImpliedExcept name) := by
  mvcgen [closeImpliedExcept]

@[spec] theorem safe_closeParagraph : Safe tidy p closeParagraph := by mvcgen [closeParagraph]

@[spec] theorem safe_closeParagraphInScope : Safe tidy p closeParagraphInScope := by
  mvcgen [closeParagraphInScope]

@[spec] theorem safe_removeOpen (n : Address) : Safe tidy p (removeOpen n) := by
  mvcgen [removeOpen]
  rename_i b h _
  exact h.close List.erase_subset

@[spec] theorem safe_enter (mode : Mode) : Safe tidy p (enter mode) := by mvcgen [enter]

@[spec] theorem safe_forbidFrameset : Safe tidy p forbidFrameset := by mvcgen [forbidFrameset]

/-! ## Inserting -/

/-- What holds of the nodes that a place is given by. -/
def Place.All (P : Address → Prop) : Place → Prop
  | .lastIn parent => P parent
  | .beforeTable table around => P table ∧ P around

/-- What holds of the root and of the open elements, and with an element of the contents of a template. -/
structure Admits (P : Address → Prop) (b : Builder) : Prop where
  root : P Page.root
  opened : ∀ n ∈ b.openElements, P n
  contents : ∀ n m, P n → b.page.first? n = some m → b.page.node? m = some .fragment → P m

variable {P : Address → Prop}

@[spec] theorem looks_templateContents (n : Address) : ∀ Q, Looks (templateContents n) Q :=
  .of_state fun b => by mvcgen [templateContents]

@[spec] theorem looks_placeIn (n : Address) : ∀ Q, Looks (placeIn n) Q :=
  .of_state fun b => by mvcgen [placeIn]

theorem looks_fosterPlace (l : List Address) : ∀ Q, Looks (fosterPlace l) Q := by
  refine .of_state fun b => ?_
  induction l with
  | nil => mvcgen [fosterPlace]
  | cons n rest ih =>
    mvcgen [fosterPlace]
    subst_vars
    exact ih _ rfl

@[spec] theorem looks_placeFor (n : Address) : ∀ Q, Looks (placeFor n) Q :=
  .of_state fun b => by mvcgen [placeFor, looks_fosterPlace]

theorem all_templateContents (n : Address) :
    ⦃fun b => ⌜Admits P b ∧ P n⌝⦄ templateContents n ⦃⇓ m _ => ⌜P m⌝⦄ := by
  mvcgen [templateContents, -looks_templateContents]
  rename_i b h _
  cases hcontents : (b.page.first? n).filter fun m => b.page.node? m == some .fragment with
  | none => exact h.2
  | some m =>
    obtain ⟨hfirst, hm⟩ := Option.filter_eq_some_iff.mp hcontents
    exact h.1.contents n m h.2 hfirst (beq_iff_eq.mp hm)

theorem all_placeIn (n : Address) :
    ⦃fun b => ⌜Admits P b ∧ P n⌝⦄ placeIn n ⦃⇓ place _ => ⌜place.All P⌝⦄ := by
  have hcontents := all_templateContents (P := P)
  mvcgen [placeIn, hcontents, -looks_placeIn, -looks_templateContents]
  rename_i h _
  exact h.2

theorem all_fosterPlace (l : List Address) :
    ⦃fun b => ⌜Admits P b ∧ ∀ n ∈ l, P n⌝⦄ fosterPlace l ⦃⇓ place _ => ⌜place.All P⌝⦄ := by
  have hcontents := all_templateContents (P := P)
  induction l with
  | nil =>
    mvcgen [fosterPlace]
    rename_i h
    exact h.1.root
  | cons n rest ih =>
    mvcgen [fosterPlace, hcontents, -looks_templateContents]
    · -- A template takes nodes into its contents.
      rename_i h _
      exact ⟨h.1, h.2 n List.mem_cons_self⟩
    · -- A table inside of another element: the place is before the table, in that element.
      rename_i h _ _ around _ hrest
      exact ⟨h.2 n List.mem_cons_self, h.2 around (hrest ▸ by simp)⟩
    · rename_i h _ _ _
      exact h.2 n List.mem_cons_self
    · rename_i h _ _ _
      exact h.2 n List.mem_cons_self
    · rename_i b h _ _ l _ hrest
      subst hrest
      exact ih b ⟨h.1, (List.forall_mem_cons.mp h.2).2⟩

/-- Where nodes go that belong into an element. -/
theorem all_placeFor {b : Builder} (h : Admits P b) {target : Address} (htarget : P target) :
    ((placeFor target).run b).1.All P := by
  have hfoster := all_fosterPlace (P := P)
  have hplace := all_placeIn (P := P)
  have hall : ⦃fun b => ⌜Admits P b ∧ P target⌝⦄ placeFor target ⦃⇓ place _ => ⌜place.All P⌝⦄ := by
    mvcgen [placeFor, hfoster, hplace, -looks_placeFor, -looks_placeIn]
    rename_i h _
    exact ⟨h.1, h.1.opened⟩
  exact hall b ⟨h, htarget⟩

theorem admits_isBranch {b : Builder} (h : b.Sound tidy p) : Admits b.page.IsBranch b where
  root := h.root
  opened := h.opened
  contents n m _ _ hm := by
    obtain ⟨s, hs, hnode⟩ := Option.map_eq_some_iff.mp hm
    exact ⟨s, hs, by rw [hnode]; rfl⟩

/-- The place for a node that belongs into the innermost element is among branches. -/
theorem all_isBranch {b : Builder} (h : b.Sound tidy p) {target : Address}
    (htarget : b.openElements.head? = some target) : ((placeFor target).run b).1.All b.page.IsBranch :=
  all_placeFor (admits_isBranch h) (h.opened target (List.mem_of_mem_head? htarget))

/-- All places are among nodes that are older than a new one. -/
theorem admits_older {b : Builder} {n : Address} (h : b.page.Linked) (hn : b.IsNew n) :
    Admits (· < n) b where
  root := hn.fresh.notRoot
  opened := hn.opened
  contents k m hk hfirst _ := hn.fresh.older m k (h.parent?_of_first? hfirst) hk

@[spec]
theorem spec_put (place : Place) (n : Address) :
    ⦃fun b => ⌜b.Sound tidy p ∧ place.All b.page.IsBranch ∧
      (tidy → b.page.Fresh n ∧ place.All (· < n))⌝⦄ put place n ⦃⇓ _ b => ⌜b.Sound tidy p⌝⦄ := by
  mvcgen [put]
  rename_i b h _
  obtain ⟨h, hplace, htidy⟩ := h
  cases place with
  | lastIn parent =>
    exact h.withPage (.append (.refl _) hplace n) fun ht hl => hl.append (htidy ht).1 (htidy ht).2
  | beforeTable table around =>
    change Builder.Sound tidy p (ite ..)
    split
    · exact h.withPage (.insertBefore (.refl _) table n) fun ht hl =>
        hl.insertBefore (htidy ht).1 (htidy ht).2.1
    · exact h.withPage (.append (.refl _) hplace.2 n) fun ht hl => hl.append (htidy ht).1 (htidy ht).2.2

theorem safe_putHere (n : Address) :
    ⦃fun b => ⌜b.Sound tidy p ∧ (tidy → b.IsNew n)⌝⦄ putHere n ⦃⇓ _ b => ⌜b.Sound tidy p⌝⦄ := by
  mvcgen [putHere]
  · rename_i b h target htarget
    refine ⟨h.1, all_isBranch h.1 htarget, fun ht => ⟨(h.2 ht).fresh, ?_⟩⟩
    have htargetOlder := (h.2 ht).opened target (List.mem_of_mem_head? htarget)
    exact all_placeFor (admits_older (h.1.linked ht) (h.2 ht)) htargetOlder
  · rename_i h _
    exact h.1

theorem sound_create {b : Builder} (h : b.Sound tidy p) (label : Node) :
    { b with page := (b.page.create label).2 }.Sound tidy p :=
  h.withPage (.create (.refl _) label) fun _ hl => hl.create label

/-- What has been created is new. -/
@[spec]
theorem spec_create (label : Node) :
    ⦃fun b => ⌜b.Sound tidy p⌝⦄ create label ⦃⇓ n b => ⌜b.Sound tidy p ∧ (tidy → b.IsNew n)⌝⦄ := by
  mvcgen [create]
  rename_i b h
  refine ⟨sound_create h label, fun _ => ⟨Page.fresh_create h.root.lt_size label, fun m hm => ?_⟩⟩
  exact (h.opened m hm).lt_size

theorem create_branch (label : Node) (hlabel : label.isLeaf = false) : GivesNew tidy p (create label) := by
  mvcgen [create, -spec_create]
  rename_i b h
  exact ⟨sound_create h label, (spec_create label b h).2, b.page.isBranch_create hlabel⟩

/-- The contents that are created for a new element are younger than it, and leave it new. -/
theorem create_contents (n : Address) :
    ⦃fun b => ⌜b.Sound tidy p ∧ (tidy → b.IsNew n) ∧ b.page.IsBranch n⌝⦄ create .fragment
    ⦃⇓ m b => ⌜b.Sound tidy p ∧ (tidy → b.IsNew n ∧ b.page.Fresh m ∧ n < m) ∧ b.page.IsBranch n⌝⦄ := by
  mvcgen [create, -spec_create]
  rename_i b h
  obtain ⟨h, hn, hbranch⟩ := h
  have hnew := @spec_create tidy p .fragment b h
  refine ⟨hnew.1, fun ht => ?_, (Page.Grows.create (.refl b.page) _).branch n hbranch⟩
  exact ⟨⟨(hn ht).fresh.create _, (hn ht).opened⟩, (hnew.2 ht).fresh, hbranch.lt_size⟩

/-- An element that has been created is a new branch. A template has its contents below it, and stands nowhere
itself. -/
@[spec]
theorem spec_createElement (name : ElementName) (attributes : List Attribute) :
    GivesNew tidy p (createElement name attributes) := by
  have helement := @create_branch tidy p (.element name attributes) rfl
  have hcontents := @create_contents tidy p
  mvcgen [createElement, helement, hcontents, -spec_create]
  rename_i contents b h _
  obtain ⟨h, hnew, hbranch⟩ := h
  have hgrows := Page.Grows.append (.refl b.page) hbranch contents
  refine ⟨h.withPage hgrows fun ht hl => ?_, fun ht => ⟨?_, (hnew ht).1.opened⟩, hgrows.branch _ hbranch⟩
  · exact hl.append (hnew ht).2.1 (hnew ht).2.2
  · exact (hnew ht).1.fresh.append_below (h.linked ht) (hnew ht).2.1 (hnew ht).2.2

@[spec]
theorem spec_putHere (n : Address) :
    ⦃fun b => ⌜b.Sound tidy p ∧ (tidy → b.IsNew n) ∧ b.page.IsBranch n⌝⦄ putHere n
    ⦃⇓ _ b => ⌜b.Sound tidy p ∧ b.page.IsBranch n⌝⦄ :=
  Safe.keeps (fun _ => safe_putHere n) n

theorem insertClosed_branch (t : Tag) : GivesBranch tidy p (insertClosed t) := by
  mvcgen [insertClosed]

theorem insert_branch (t : Tag) : GivesBranch tidy p (insert t) := by
  mvcgen [insert, insertClosed_branch, push_branch, -spec_push]

@[spec] theorem safe_insertClosed (t : Tag) : Safe tidy p (insertClosed t) :=
  fun b h => (insertClosed_branch t b h).1

@[spec] theorem safe_insert (t : Tag) : Safe tidy p (insert t) := fun b h => (insert_branch t b h).1

@[spec] theorem safe_insertNamed (name : String) : Safe tidy p (insertNamed name) := safe_insert _

@[spec] theorem safe_insertText (content : String) : Safe tidy p (insertText content) := by
  mvcgen [insertText]
  · rename_i b h target htarget parent hplace _
    have hall : Place.All b.page.IsBranch (.lastIn parent) := hplace ▸ all_isBranch h htarget
    exact h.withPage (.appendText (.refl _) hall content) fun _ hl => hl.appendText hall.lt_size content
  · rename_i b h target htarget table around hplace _
    have hall : Place.All b.page.IsBranch (.beforeTable table around) := hplace ▸ all_isBranch h htarget
    change Builder.Sound tidy p (ite ..)
    split
    · exact h.withPage (.insertTextBefore (.refl _) table content) fun _ hl =>
        hl.insertTextBefore table content
    · exact h.withPage (.appendText (.refl _) hall.2 content) fun _ hl =>
        hl.appendText hall.2.lt_size content

@[spec] theorem safe_insertComment (content : String) : Safe tidy p (insertComment content) := by
  -- The comment is no branch, so what keeps branches does not apply to it.
  mvcgen [insertComment, -spec_putHere, safe_putHere]

@[spec] theorem safe_appendCommentToRoot (content : String) : Safe tidy p (appendCommentToRoot content) := by
  mvcgen [appendCommentToRoot]
  rename_i b h
  exact ⟨h.1, h.1.root, fun ht => ⟨(h.2 ht).fresh, (h.2 ht).fresh.notRoot⟩⟩

@[spec] theorem safe_appendCommentToOutermost (content : String) :
    Safe tidy p (appendCommentToOutermost content) := by
  mvcgen [appendCommentToOutermost, outermost, create, -spec_create]
  rename_i b h n hlast
  have hopen := h.opened n (List.mem_of_getLast? hlast)
  exact ⟨sound_create h _, (Page.Grows.create (.refl b.page) _).branch n hopen, fun _ =>
    ⟨Page.fresh_create h.root.lt_size _, hopen.lt_size⟩⟩

@[spec] theorem safe_createOutermost (attributes : List (String × String)) :
    Safe tidy p (createOutermost attributes) := by
  mvcgen [createOutermost, push, -spec_push]
  rename_i b h _
  obtain ⟨h, hnew, hbranch⟩ := h
  exact ⟨h.withOpen (List.forall_mem_cons.mpr ⟨hbranch, h.opened⟩), h.root, fun ht =>
    ⟨(hnew ht).fresh, (hnew ht).fresh.notRoot⟩⟩

@[spec] theorem safe_insertWithText (t : Tag) (content : Content) :
    Safe tidy p (insertWithText t content) := by
  mvcgen [insertWithText]

/-! ## Modes -/

theorem looks_selectMode (l : List Address) : ∀ Q, Looks (modeFor.selectMode l) Q := by
  refine .of_state fun b => ?_
  induction l with
  | nil => mvcgen [modeFor.selectMode]
  | cons n rest ih => mvcgen [modeFor.selectMode, ih]

theorem looks_modeFor (l : List Address) : ∀ Q, Looks (modeFor l) Q := by
  refine .of_state fun b => ?_
  induction l with
  | nil => mvcgen [modeFor]
  | cons n rest ih => mvcgen [modeFor, looks_selectMode, ih]

@[spec] theorem looks_openMode : ∀ Q, Looks openMode Q :=
  .of_state fun b => by mvcgen [openMode, looks_modeFor]

@[spec] theorem safe_resetMode : Safe tidy p resetMode := by mvcgen [resetMode]

end Build

end Gleaner.Html
