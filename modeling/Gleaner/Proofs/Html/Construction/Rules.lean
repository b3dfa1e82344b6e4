import Gleaner.Html.Construction.Rules
import Gleaner.Proofs.Html.Construction.Formatting

set_option autoImplicit false
set_option mvcgen.warning false

/-! # The rules of construction are safe

Rules are put together of safe operations. What they add of their own is the head, which they take from the
element they have just inserted, and the attributes and the place of elements that stand in the page.

A token may split formatting only where it closes some (`Builder.maySplitAt`). Within a round nothing that
matters to this changes before the formatting is closed, so it can be seen when the round begins. -/

namespace Gleaner.Html

open Std.Do

/-- A token that meets the rules may split formatting. Its end tag closes formatting, and so does a link that
starts inside of another one. A start of `nobr` counts in any case, because it opens formatting again before
it closes any. -/
def Builder.maySplitAt (b : Builder) : Token → Bool
  | .endTag t => t.isOneOf ("a" :: "nobr" :: Build.formattingTags) && b.maySplit t.name
  | .startTag t => if t.name == "a" then b.maySplit "a" else t.name == "nobr"
  | _ => false

namespace Build

/-- The step is safe, if in a tidy construction the token splits no formatting. -/
abbrev SafeFor (tidy : Prop) (p : Page) {α : Type} (token : Token) (m : Build α) : Prop :=
  ⦃fun b => ⌜b.Sound tidy p ∧ (tidy → b.maySplitAt token = false)⌝⦄ m ⦃⇓ _ b => ⌜b.Sound tidy p⌝⦄

variable {tidy : Prop} {p : Page}

theorem Safe.safeFor {α : Type} {m : Build α} (h : Safe tidy p m) {token : Token} : SafeFor tidy p token m :=
  fun b hb => h b hb.1

@[spec] theorem safe_done : Safe tidy p done := by mvcgen [done]

@[spec] theorem safe_again (mode : Mode) (t : Token) : Safe tidy p (again mode t) := by mvcgen [again]

/-! ## The head -/

@[spec] theorem safe_mergeOutermost (t : Tag) : Safe tidy p (mergeOutermost t) := by
  mvcgen [mergeOutermost, outermost]
  rename_i b h _ _ n _ _
  exact h.withPage (.addMissingAttributes (.refl _) n _) fun _ hl => hl.addMissingAttributes n _

@[spec] theorem safe_closeTemplate : Safe tidy p closeTemplate := by mvcgen [closeTemplate]

@[spec] theorem safe_inHead (token : Token) : Safe tidy p (inHead token) := by mvcgen [inHead]

/-! ## The body -/

theorem looks_closeItem_search (closes : List String) (l : List Address) :
    ∀ Q, Looks (closeItem.search closes l) Q := by
  refine .of_state fun b => ?_
  induction l with
  | nil => mvcgen [closeItem.search]
  | cons n rest ih => mvcgen [closeItem.search, nameOf, ih]

@[spec] theorem safe_closeItem (t : Tag) : Safe tidy p (closeItem t) := by
  mvcgen [closeItem, looks_closeItem_search]

@[spec] theorem safe_enterForeign (space : Namespace) (t : Tag) : Safe tidy p (enterForeign space t) := by
  mvcgen [enterForeign]
  rename_i h
  exact h.1

@[spec]
theorem spec_closeLink :
    ⦃fun b => ⌜b.Sound tidy p ∧ (tidy → b.maySplit "a" = false)⌝⦄ closeLink ⦃⇓ _ b => ⌜b.Sound tidy p⌝⦄ := by
  mvcgen [closeLink]
  rename_i h _
  exact h.1

@[spec] theorem safe_openForm (t : Tag) : Safe tidy p (openForm t) := by mvcgen [openForm]

@[spec] theorem safe_closeForm : Safe tidy p closeForm := by mvcgen [closeForm]

@[spec] theorem safe_startInBody (t : Tag) : SafeFor tidy p (.startTag t) (startInBody t) := by
  mvcgen [startInBody]
  all_goals try exact And.left ‹Builder.Sound tidy p _ ∧ _›
  · -- A second start of the body adds attributes to the first.
    rename_i n _ _ _ b h _
    exact h.withPage (.addMissingAttributes (.refl _) n _) fun _ hl => hl.addMissingAttributes n _
  · -- A frameset takes the place of the body.
    rename_i b h _ n _ _ _
    exact (h.1.withPage (.detach (.refl _) n) fun _ hl => hl.detach n).close (List.drop_subset ..)
  · -- A link ends the one that it starts in.
    rename_i hname b h
    refine ⟨h.1, fun ht => ?_⟩
    simpa [Builder.maySplitAt, hname] using h.2 ht
  · -- A start of `nobr` is not tidy.
    rename_i hname _ h _ _ h' _ _
    exact ⟨h', fun ht => absurd (h.2 ht) (by simp [Builder.maySplitAt, beq_iff_eq.mp hname])⟩

@[spec] theorem safe_endInBody (t : Tag) : SafeFor tidy p (.endTag t) (endInBody t) := by
  mvcgen [endInBody]
  all_goals try exact And.left ‹Builder.Sound tidy p _ ∧ _›
  · -- The end of formatting.
    rename_i hname b h
    refine ⟨h.1, fun ht => ?_⟩
    simpa [Builder.maySplitAt, hname] using h.2 ht
  · -- A line break ends like it starts.
    rename_i h
    exact ⟨h.1, fun _ => rfl⟩

@[spec] theorem safe_endInTemplate : Safe tidy p endInTemplate := by mvcgen [endInTemplate]

@[spec] theorem safe_inBody (token : Token) : SafeFor tidy p token (inBody token) := by
  cases token <;> mvcgen [inBody]
  all_goals exact And.left ‹Builder.Sound tidy p _ ∧ _›

/-! ## Before the body -/

theorem safe_initial (token : Token) : Safe tidy p (initial token) := by mvcgen [initial]

theorem safe_beforeHtml (token : Token) : Safe tidy p (beforeHtml token) := by mvcgen [beforeHtml]

theorem safe_beforeHead (token : Token) : Safe tidy p (beforeHead token) := by
  have hinsert := @insert_branch tidy p
  mvcgen [beforeHead, insertNamed, hinsert, -safe_insert, -safe_insertNamed]
  all_goals
    rename_i b h _
    exact h.1.step (.refl _) (fun _ => id) (fun _ => .inl) fun _ hn => .inr (Option.mem_some.mp hn ▸ h.2)

theorem safe_afterHead (token : Token) : Safe tidy p (afterHead token) := by
  mvcgen [afterHead]
  rename_i b h head hhead
  exact ⟨h, h.head head hhead⟩

@[spec] theorem safe_inText (token : Token) : Safe tidy p (inText token) := by mvcgen [inText]

/-! ## Tables -/

@[spec] theorem safe_foster (token : Token) : SafeFor tidy p token (foster token) := by
  mvcgen [foster]

@[spec] theorem safe_collectTableText (token : Token) : SafeFor tidy p token (collectTableText token) := by
  mvcgen [collectTableText]
  all_goals exact And.left ‹Builder.Sound tidy p _ ∧ _›

@[spec] theorem safe_inTable (token : Token) : SafeFor tidy p token (inTable token) := by
  mvcgen [inTable]
  all_goals exact And.left ‹Builder.Sound tidy p _ ∧ _›

@[spec] theorem safe_forM {α : Type} {f : α → Build PUnit} (hf : ∀ x, Safe tidy p (f x)) (l : List α) :
    Safe tidy p (l.forM f) := by
  induction l with
  | nil => mvcgen [List.forM]
  | cons x rest ih => mvcgen [List.forM, hf, ih]

theorem safe_inTableText (token : Token) : Safe tidy p (inTableText token) := by
  mvcgen [inTableText]
  rename_i piece b h
  exact ⟨h, fun _ => by cases piece.1 <;> rfl⟩

theorem safe_inCaption (token : Token) : SafeFor tidy p token (inCaption token) := by
  mvcgen [inCaption]
  all_goals exact And.left ‹Builder.Sound tidy p _ ∧ _›

theorem safe_inColumnGroup (token : Token) : Safe tidy p (inColumnGroup token) := by
  mvcgen [inColumnGroup]
  rename_i h
  exact ⟨h, fun _ => rfl⟩

theorem safe_inTableBody (token : Token) : SafeFor tidy p token (inTableBody token) := by
  mvcgen [inTableBody]
  all_goals exact And.left ‹Builder.Sound tidy p _ ∧ _›

theorem safe_inRow (token : Token) : SafeFor tidy p token (inRow token) := by
  mvcgen [inRow]
  all_goals exact And.left ‹Builder.Sound tidy p _ ∧ _›

theorem safe_inCell (token : Token) : SafeFor tidy p token (inCell token) := by
  mvcgen [inCell]
  all_goals exact And.left ‹Builder.Sound tidy p _ ∧ _›

/-! ## Selections and templates -/

@[spec] theorem safe_inSelect (token : Token) : Safe tidy p (inSelect token) := by
  mvcgen [inSelect]
  rename_i h
  exact ⟨h, fun _ => rfl⟩

theorem safe_inSelectInTable (token : Token) : Safe tidy p (inSelectInTable token) := by
  mvcgen [inSelectInTable]

theorem safe_inTemplate (token : Token) : Safe tidy p (inTemplate token) := by
  mvcgen [inTemplate]
  all_goals
    rename_i h
    exact ⟨h, fun _ => rfl⟩

/-! ## Behind the body -/

theorem safe_afterBody (token : Token) : Safe tidy p (afterBody token) := by
  mvcgen [afterBody]
  rename_i h
  exact ⟨h, fun _ => rfl⟩

theorem safe_inFrameset (token : Token) : Safe tidy p (inFrameset token) := by mvcgen [inFrameset]

theorem safe_afterFrameset (token : Token) : Safe tidy p (afterFrameset token) := by mvcgen [afterFrameset]

theorem safe_afterAfterBody (token : Token) : Safe tidy p (afterAfterBody token) := by
  mvcgen [afterAfterBody]
  rename_i h
  exact ⟨h, fun _ => rfl⟩

theorem safe_afterAfterFrameset (token : Token) : Safe tidy p (afterAfterFrameset token) := by
  mvcgen [afterAfterFrameset]
  rename_i h
  exact ⟨h, fun _ => rfl⟩

/-! ## Choosing the rules -/

@[spec] theorem safe_rulesOf (mode : Mode) (token : Token) : SafeFor tidy p token (rulesOf mode token) := by
  cases mode with
  | initial => exact (safe_initial token).safeFor
  | beforeHtml => exact (safe_beforeHtml token).safeFor
  | beforeHead => exact (safe_beforeHead token).safeFor
  | inHead => exact (safe_inHead token).safeFor
  | afterHead => exact (safe_afterHead token).safeFor
  | inBody => exact safe_inBody token
  | text => exact (safe_inText token).safeFor
  | inTable => exact safe_inTable token
  | inTableText => exact (safe_inTableText token).safeFor
  | inCaption => exact safe_inCaption token
  | inColumnGroup => exact (safe_inColumnGroup token).safeFor
  | inTableBody => exact safe_inTableBody token
  | inRow => exact safe_inRow token
  | inCell => exact safe_inCell token
  | inSelect => exact (safe_inSelect token).safeFor
  | inSelectInTable => exact (safe_inSelectInTable token).safeFor
  | inTemplate => exact (safe_inTemplate token).safeFor
  | afterBody => exact (safe_afterBody token).safeFor
  | inFrameset => exact (safe_inFrameset token).safeFor
  | afterFrameset => exact (safe_afterFrameset token).safeFor
  | afterAfterBody => exact (safe_afterAfterBody token).safeFor
  | afterAfterFrameset => exact (safe_afterAfterFrameset token).safeFor

theorem safe_endInForeign_search (t : Tag) (isFirst : Bool) (l : List Address) :
    ⦃fun b => ⌜(b.Sound tidy p ∧ (tidy → b.maySplitAt (.endTag t) = false)) ∧ ∀ n ∈ l, b.page.IsBranch n⌝⦄
    endInForeign.search t isFirst l ⦃⇓ _ b => ⌜b.Sound tidy p⌝⦄ := by
  induction l generalizing isFirst with
  | nil => exact fun b h => h.1.1
  | cons n rest ih =>
    cases rest with
    | nil => exact fun b h => h.1.1
    | cons m rest =>
      mvcgen [endInForeign.search, nameOf, ih]
      · rename_i b h _
        exact h.1.1
      · -- An element of HTML: the token meets the rules of the mode.
        rename_i b h _ _ _
        exact h.1
      · -- The element is closed along with those further in.
        rename_i b h _ _ _ _ _
        exact h.1.1.withOpen (List.forall_mem_cons.mp h.2).2
      · rename_i b h _ _ _ _
        exact ⟨h.1, (List.forall_mem_cons.mp h.2).2⟩

@[spec] theorem safe_endInForeign (t : Tag) : SafeFor tidy p (.endTag t) (endInForeign t) := by
  mvcgen [endInForeign, safe_endInForeign_search]
  rename_i b h
  exact ⟨h, h.1.opened⟩

/-- A start tag that ends foreign elements is no link, so it does not matter which elements are open. -/
theorem maySplitAt_of_breaksOut {t : Tag} (h : Foreign.breaksOut t = true) (b b' : Builder) :
    b'.maySplitAt (.startTag t) = b.maySplitAt (.startTag t) := by
  have hname : t.name ≠ "a" := by
    intro hname
    simp [Foreign.breaksOut, Tag.isOneOf, Foreign.breakingOut, hname] at h
  simp [Builder.maySplitAt, hname]

@[spec] theorem safe_inForeign (token : Token) : SafeFor tidy p token (inForeign token) := by
  cases token <;> mvcgen [inForeign]
  all_goals try exact And.left ‹Builder.Sound tidy p _ ∧ _›
  · rename_i t hbreaks b h _ b' h'
    exact ⟨h', fun ht => (maySplitAt_of_breaksOut hbreaks b b').trans (h.2 ht)⟩
  · rename_i t hname _ _ _ b' h'
    have hname : t.name = "br" ∨ t.name = "p" := by simpa [Tag.isOneOf] using hname
    refine ⟨h', fun _ => ?_⟩
    rcases hname with hname | hname <;> simp [Builder.maySplitAt, Tag.isOneOf, formattingTags, hname]

@[spec] theorem looks_isForeign (token : Token) : ∀ Q, Looks (isForeign token) Q := by
  refine .of_state fun b => ?_
  cases token <;> mvcgen [isForeign]

theorem safe_meetOnce (token : Token) : SafeFor tidy p token (meetOnce token) := by
  mvcgen [meetOnce]

/-! ## Rounds -/

/-- In some round in which a token meets the rules it may split formatting. -/
def meetMaySplit : Nat → Token → Builder → Bool
  | 0, _, _ => false
  | fuel + 1, token, b =>
    b.maySplitAt token || match (meetOnce token).run b with
      | (some token, b) => meetMaySplit fuel token b
      | (none, _) => false

@[spec]
theorem spec_meet (fuel : Nat) (token : Token) :
    ⦃fun b => ⌜b.Sound tidy p ∧ (tidy → meetMaySplit fuel token b = false)⌝⦄ meet fuel token
    ⦃⇓ _ b => ⌜b.Sound tidy p⌝⦄ := by
  induction fuel generalizing token with
  | zero => exact fun b h => h.1
  | succ fuel ih =>
    intro b h
    obtain ⟨h, htidy⟩ := h
    have hround : ((meetOnce token).run b).2.Sound tidy p :=
      safe_meetOnce token b ⟨h, fun ht => (Bool.or_eq_false_iff.mp (htidy ht)).1⟩
    have hfurther := fun ht => (Bool.or_eq_false_iff.mp (htidy ht)).2
    change ((meet (fuel + 1) token).run b).2.Sound tidy p
    rw [meet, StateT.run_bind]
    cases hanswer : (meetOnce token).run b with
    | mk answer b' =>
      rw [hanswer] at hround hfurther
      cases answer with
      | none => exact hround
      | some token => exact ih token b' ⟨hround, hfurther⟩

end Build

/-- Some token may split formatting when it is taken in. -/
def Builder.takingMaySplit (b : Builder) (token : Token) : Bool :=
  match token with
  | .doctype _ => false
  | _ =>
    match if b.skipLineFeed then Build.withoutLineFeed token else some token with
    | some token => Build.meetMaySplit (2 * b.openElements.length + 64) token { b with skipLineFeed := false }
    | none => false

namespace Build

variable {tidy : Prop} {p : Page}

theorem spec_process (token : Token) :
    ⦃fun b => ⌜b.Sound tidy p ∧ (tidy → b.takingMaySplit token = false)⌝⦄ process token
    ⦃⇓ _ b => ⌜b.Sound tidy p⌝⦄ := by
  mvcgen [process]
  all_goals try exact And.left ‹Builder.Sound tidy p _ ∧ _›
  · -- The first doctype is put into the root.
    rename_i b h
    exact ⟨h.1, h.1.root, fun ht => ⟨(h.2 ht).fresh, (h.2 ht).fresh.notRoot⟩⟩
  · rename_i b h token hdoctype htoken token' hmet
    subst htoken
    refine ⟨h.1, fun ht => ?_⟩
    simpa [Builder.takingMaySplit, hmet] using h.2 ht

end Build

end Gleaner.Html
