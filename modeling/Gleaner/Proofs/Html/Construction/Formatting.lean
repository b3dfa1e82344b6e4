import Gleaner.Html.Construction.Formatting
import Gleaner.Proofs.Html.Construction.Builder

set_option autoImplicit false
set_option mvcgen.warning false

/-! # Formatting is safe

Opening formatting again and splitting it around a block move nodes that have been looked up earlier on.
They are open elements, or they have just been created, so they are branches; and so they are when they
take in what is moved, because nothing in between makes a leaf of a branch.

Formatting is split only around a special element that is open inside of it (`Builder.maySplit`). -/

namespace Gleaner.Html

open Std.Do

/-- Closing formatting of a name may split it: a special element is open inside the latest formatting of the
name. -/
def Builder.maySplit (b : Builder) (name : String) : Bool :=
  match (Formatting.sinceMarker b.formatting).find? fun (_, tag) => tag.name == name with
  | none => false
  | some (n, _) =>
    b.openElements.contains n && (b.openElements.takeWhile (· != n)).any fun m =>
      ((b.page.name? m).map ElementGroup.special).getD false

namespace Build

variable {tidy : Prop} {p : Page}

/-! ## Steps for the members of a list -/

@[spec] theorem safe_mapM {α β : Type} {f : α → Build β} (hf : ∀ x, Safe tidy p (f x)) (l : List α) :
    Safe tidy p (l.mapM f) := by
  induction l with
  | nil => mvcgen [List.mapM_nil]
  | cons x rest ih =>
    rw [List.mapM_cons]
    mvcgen [hf, ih]

theorem run_filterAuxM {α : Type} {f : α → Build Bool} (hf : ∀ x Q, Looks (f x) Q) (l kept : List α)
    (b : Builder) :
    (l.filterAuxM f kept).run b = ((l.filter fun x => ((f x).run b).1).reverse ++ kept, b) := by
  induction l generalizing kept with
  | nil => rfl
  | cons x rest ih =>
    rw [List.filterAuxM, StateT.run_bind, Looks.run_eq (hf x)]
    refine (ih _).trans ?_
    cases hx : ((f x).run b).1 <;> simp [hx]

/-- Filtering with a step that only looks. -/
@[spec]
theorem spec_filterM {α : Type} {f : α → Build Bool} (hf : ∀ x Q, Looks (f x) Q) (l : List α)
    {Q : PostCond (List α) (.arg Builder .pure)} :
    ⦃fun b => Q.1 (l.filter fun x => ((f x).run b).1) b⦄ l.filterM f ⦃Q⦄ := by
  intro b hQ
  have hrun : (l.filterM f).run b = (l.filter fun x => ((f x).run b).1, b) := by
    rw [List.filterM, StateT.run_bind, run_filterAuxM hf, List.append_nil]
    exact congrArg (·, b) (List.reverse_reverse _)
  change (Q.1 ((l.filterM f).run b).1 ((l.filterM f).run b).2).down
  rwa [hrun]

/-! ## Formatting elements -/

@[spec] theorem safe_withFormatting (f : List Formatting → List Formatting) :
    Safe tidy p (withFormatting f) := by
  mvcgen [withFormatting]

@[spec] theorem safe_pushMarker : Safe tidy p pushMarker := by mvcgen [pushMarker]

@[spec] theorem safe_clearToMarker : Safe tidy p clearToMarker := by mvcgen [clearToMarker]

@[spec] theorem safe_forget (n : Address) : Safe tidy p (forget n) := by mvcgen [forget]

@[spec] theorem safe_reconstruct : Safe tidy p reconstruct := by mvcgen [reconstruct]

@[spec] theorem safe_insertFormatting (t : Tag) : Safe tidy p (insertFormatting t) := by
  mvcgen [insertFormatting]

theorem safe_closeOrdinary_search (name : String) (l : List Address) :
    ⦃fun b => ⌜b.Sound tidy p ∧ ∀ n ∈ l, b.page.IsBranch n⌝⦄ closeOrdinary.search name l
    ⦃⇓ _ b => ⌜b.Sound tidy p⌝⦄ := by
  induction l with
  | nil =>
    mvcgen [closeOrdinary.search]
    rename_i b h
    exact h.1
  | cons n rest ih =>
    mvcgen [closeOrdinary.search, ih]
    · -- The element is closed along with those further in.
      rename_i b h _ _
      exact h.1.withOpen (List.forall_mem_cons.mp h.2).2
    · -- A special element is in the way.
      rename_i b h _ _
      exact h.1
    · rename_i b h _ _
      exact ⟨h.1, (List.forall_mem_cons.mp h.2).2⟩

@[spec] theorem safe_closeOrdinary (name : String) : Safe tidy p (closeOrdinary name) := by
  mvcgen [closeOrdinary, safe_closeOrdinary_search]
  rename_i b h
  exact ⟨h, h.opened⟩

/-! ## Splitting formatting around a block -/

@[spec]
theorem spec_renew (n : Address) (tag : Tag) : GivesBranch tidy p (renew n tag) := by
  mvcgen [renew]
  rename_i m b h _
  obtain ⟨h, -, hbranch⟩ := h
  refine ⟨h.withOpen (List.forall_mem_map.mpr fun x hx => ?_), hbranch⟩
  split
  · exact hbranch
  · exact h.opened x hx

@[spec] theorem looks_formattingTag? (n : Address) : ∀ Q, Looks (formattingTag? n) Q :=
  .of_state fun b => by mvcgen [formattingTag?]

section

-- Splitting moves nodes that stand somewhere and hands children over, so it is not tidy.
variable (htidy : ¬ tidy)

include htidy

theorem safe_goThrough (block : Address) (l : List Address) (count : Nat) (s : Splitting) :
    Safe tidy p (goThrough block count l s) := by
  induction l generalizing count s with
  | nil => mvcgen [goThrough]
  | cons n rest ih =>
    mvcgen [goThrough, ih]
    rename_i b h _ _
    -- The repeated element takes in what has been collected so far.
    exact h.1.withPage (.append (.refl _) h.2 s.last) fun ht => absurd ht htidy

/-- A new element in a block takes over its content and is opened in it. -/
theorem sound_nested {b b' : Builder} {old block n : Address} (h : b.Sound tidy p) (hn : b.page.IsBranch n)
    (hblock : p.IsBranch block) (hpage : b'.page = (b.page.handOver block n).append block n)
    (hopened : b'.openElements =
      (b.openElements.erase old).flatMap fun m => if m == block then [n, m] else [m])
    (hhead : b'.head = b.head) : b'.Sound tidy p := by
  have hgrows : b.page.Grows b'.page := by
    rw [hpage]
    exact .append (.handOver (.refl _) block hn) (h.earlier block hblock) n
  refine h.step hgrows (fun ht => absurd ht htidy) (fun m hm => ?_) fun m hm => .inl (hhead ▸ hm)
  rw [hopened, List.mem_flatMap] at hm
  obtain ⟨k, hk, hm⟩ := hm
  split at hm
  · rcases List.mem_pair.mp hm with rfl | rfl
    · exact .inr (hgrows.branch m hn)
    · exact .inl (List.mem_of_mem_erase hk)
  · cases List.mem_singleton.mp hm
    exact .inl (List.mem_of_mem_erase hk)

theorem splitAround_here (old : Address) (tag : Tag) (block : Address) :
    ⦃fun b => ⌜b.Sound tidy p ∧ b.page = p ∧ b.page.IsBranch block⌝⦄ splitAround old tag block
    ⦃⇓ _ b => ⌜b.Sound tidy p⌝⦄ := by
  have hgo := safe_goThrough (p := p) htidy
  -- Behind the new element there are changes of state only, which are gathered in one by unfolding them.
  mvcgen [splitAround, hgo, listFormatting, withFormatting, removeOpen, -safe_removeOpen]
  all_goals
    have hblock : p.IsBranch block := by
      obtain ⟨-, hpage, hblock⟩ := ‹Builder.Sound tidy p _ ∧ _ = p ∧ _›
      exact hpage ▸ hblock
  · rename_i b h _ _ _
    exact h.1
  · -- The ancestor was open at the start; by now that list may have changed.
    rename_i b h _ _ _ s b' h' moved _ ancestor _ hout
    have hancestor : ancestor ∈ b.openElements :=
      (List.dropWhile_suffix _).subset (List.mem_of_mem_drop (hout ▸ List.mem_cons_self))
    have hgrows := Page.Grows.detach (.refl b'.page) s.last
    have hmoved : moved.2.Sound tidy p := h'.withPage hgrows fun ht => absurd ht htidy
    have hbranch := hgrows.branch _ (h'.earlier _ (h.2.1 ▸ h.1.opened _ hancestor))
    exact ⟨hmoved, all_placeFor (admits_isBranch hmoved) hbranch, fun ht => absurd ht htidy⟩
  · rename_i n b h _ _ _ _ _
    exact sound_nested htidy h.1 h.2.2 hblock rfl rfl rfl
  · rename_i n b h _ _ _ _ _ _
    exact sound_nested htidy h.1 h.2.2 hblock rfl rfl rfl
  · -- There is no ancestor, so what has been collected stands nowhere.
    rename_i s b h _ _ _
    exact h.withPage (.detach (.refl _) s.last) fun ht => absurd ht htidy
  · rename_i n b h _ _ _ _ _
    exact sound_nested htidy h.1 h.2.2 hblock rfl rfl rfl
  · rename_i n b h _ _ _ _ _ _
    exact sound_nested htidy h.1 h.2.2 hblock rfl rfl rfl

end

@[spec]
theorem spec_splitAround (old : Address) (tag : Tag) (block : Address) :
    ⦃fun b => ⌜b.Sound tidy p ∧ b.page.IsBranch block ∧ ¬ tidy⌝⦄ splitAround old tag block
    ⦃⇓ _ b => ⌜b.Sound tidy p⌝⦄ :=
  fun b h => Safe.of_here (fun _ => splitAround_here h.2.2 old tag block) b ⟨h.1, h.2.1⟩

/-- A block to split around is one of the special elements that are open inside of the formatting. -/
theorem maySplit_of_block {b : Builder} {name : String} {n block : Address} {tag : Tag} {rest : List Address}
    (hfind : (Formatting.sinceMarker b.formatting).find? (fun (_, tag) => tag.name == name) = some (n, tag))
    (hopen : b.openElements.contains n = true)
    (hblocks : (b.openElements.takeWhile (· != n)).reverse.filter
      (fun m => ((isIn m ElementGroup.special).run b).1) = block :: rest) :
    block ∈ b.openElements ∧ b.maySplit name = true := by
  obtain ⟨hinside, hspecial⟩ := List.mem_filter.mp (hblocks ▸ List.mem_cons_self : block ∈ List.filter _ _)
  rw [List.mem_reverse] at hinside
  refine ⟨(List.takeWhile_prefix _).subset hinside, ?_⟩
  rw [Builder.maySplit, hfind]
  exact Bool.and_eq_true_iff.mpr ⟨hopen, List.any_eq_true.mpr ⟨block, hinside, hspecial⟩⟩

/-- In a tidy construction nothing is split, so a single round closes formatting. -/
@[spec]
theorem spec_closeFormattingOnce (name : String) :
    ⦃fun b => ⌜b.Sound tidy p ∧ (tidy → b.maySplit name = false)⌝⦄ closeFormattingOnce name
    ⦃⇓ more b => ⌜b.Sound tidy p ∧ (tidy → more = false)⌝⦄ := by
  mvcgen [closeFormattingOnce]
  all_goals try exact And.left ‹Builder.Sound tidy p _ ∧ _›
  all_goals try exact ⟨‹Builder.Sound tidy p _›, fun _ => trivial⟩
  · -- The formatting is open, but not in scope.
    rename_i h _ _ _ _ _
    exact ⟨h.1, fun _ => trivial⟩
  · -- No block is open inside the formatting, so it is just closed.
    rename_i b h _ _ _ _ _ _ _ _
    exact h.1.close fun _ hn => (List.dropWhile_suffix _).subset (List.mem_of_mem_drop hn)
  · rename_i b h n tag hfind hopen _ inside block rest hblocks
    obtain ⟨hblock, hsplits⟩ := maySplit_of_block hfind (by simpa using hopen) hblocks
    exact ⟨h.1, h.1.opened block hblock, fun ht => Bool.false_ne_true ((h.2 ht).symm.trans hsplits)⟩
  · rename_i b h n tag hfind hopen _ inside block rest hblocks _ _ h'
    obtain ⟨-, hsplits⟩ := maySplit_of_block hfind (by simpa using hopen) hblocks
    exact ⟨h', fun ht => absurd ((h.2 ht).symm.trans hsplits) Bool.false_ne_true⟩

theorem safe_rounds (name : String) (more : Nat) :
    ⦃fun b => ⌜b.Sound tidy p ∧ (tidy → b.maySplit name = false)⌝⦄ closeFormatting.rounds name more
    ⦃⇓ _ b => ⌜b.Sound tidy p⌝⦄ := by
  induction more with
  | zero =>
    mvcgen [closeFormatting.rounds]
    rename_i h
    exact h.1
  | succ more ih =>
    mvcgen [closeFormatting.rounds, ih]
    · rename_i answer hmore b h
      exact ⟨h.1, fun ht => absurd ((h.2 ht).symm.trans hmore) Bool.false_ne_true⟩
    · rename_i h
      exact h.1

@[spec]
theorem spec_closeFormatting (name : String) :
    ⦃fun b => ⌜b.Sound tidy p ∧ (tidy → b.maySplit name = false)⌝⦄ closeFormatting name
    ⦃⇓ _ b => ⌜b.Sound tidy p⌝⦄ := by
  mvcgen [closeFormatting, safe_rounds]
  rename_i h _ _ _ _
  exact h.1

end Build

end Gleaner.Html
