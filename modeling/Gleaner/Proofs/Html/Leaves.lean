import Gleaner.Html.Page

set_option autoImplicit false

/-! # Leaves of a page

Texts, comments and doctypes are leaves: nothing stands below them. No slot of a page rules this out; it is
so because nodes are put only below nodes of other kinds. Every change to a page that keeps to this keeps
its leaves bare, and it makes a leaf of nothing that was none (`Page.Grows`). -/

namespace Gleaner.Html

/-- Nothing stands below nodes of the kind. -/
def Node.isLeaf : Node → Bool
  | .text _ | .comment _ | .doctype _ => true
  | .document | .fragment | .element .. => false

namespace Page

/-- There is a node at the address, and it is no leaf. -/
def IsBranch (p : Page) (n : Address) : Prop := ∃ s, p.slots[n]? = some s ∧ s.node.isLeaf = false

theorem isBranch_iff {p : Page} {n : Address} :
    p.IsBranch n ↔ (p.node? n).map (·.isLeaf) = some false := by
  simp [IsBranch, node?, Option.map_map]

theorem IsBranch.lt_size {p : Page} {n : Address} (h : p.IsBranch n) : n < p.slots.size := by
  obtain ⟨s, hs, -⟩ := h
  exact (Array.getElem?_eq_some_iff.mp hs).1

instance (p : Page) (n : Address) : Decidable (p.IsBranch n) := decidable_of_iff _ isBranch_iff.symm

/-- Nothing stands below the leaves of the page. -/
def LeavesBare (p : Page) : Prop :=
  ∀ (n : Address) (s : Slot), p.slots[n]? = some s → s.ends.isSome = true → s.node.isLeaf = false

/-- What is made of a page has all its branches, and if its leaves were bare, they still are. -/
structure Grows (p q : Page) : Prop where
  branch : ∀ n, p.IsBranch n → q.IsBranch n
  leavesBare : p.LeavesBare → q.LeavesBare

theorem slots_update (p : Page) (n m : Address) (f : Slot → Slot) :
    (p.update n f).slots[m]? = if n = m then p.slots[m]?.map f else p.slots[m]? :=
  Array.getElem?_modify

variable {p q : Page}

theorem leavesBare_start (label : Node) : (start label).LeavesBare := by
  intro n s hs hends
  cases n with
  | zero =>
    cases hs
    cases hends
  | succ n => simp [start] at hs

theorem isBranch_start {label : Node} (h : label.isLeaf = false) : (start label).IsBranch root :=
  ⟨{ node := label }, rfl, h⟩

namespace Grows

theorem refl (p : Page) : p.Grows p := ⟨fun _ h => h, fun h => h⟩

/-! ## One link after the other -/

/-- A change to a slot that gives children to branches only. -/
theorem update (h : p.Grows q) (n : Address) {f : Slot → Slot}
    (hnode : ∀ s, (f s).node.isLeaf = s.node.isLeaf)
    (hends : ∀ s, q.slots[n]? = some s → (f s).ends.isSome = true →
      s.ends.isSome = true ∨ s.node.isLeaf = false) : p.Grows (q.update n f) where
  branch m hm := by
    obtain ⟨s, hs, hleaf⟩ := h.branch m hm
    by_cases hnm : n = m
    · exact ⟨f s, by rw [slots_update, if_pos hnm, hs]; rfl, (hnode s).trans hleaf⟩
    · exact ⟨s, by rw [slots_update, if_neg hnm, hs], hleaf⟩
  leavesBare hp m s hs hsome := by
    have hq := h.leavesBare hp
    rw [slots_update] at hs
    by_cases hnm : n = m
    · subst hnm
      rw [if_pos rfl, Option.map_eq_some_iff] at hs
      obtain ⟨s, hs, rfl⟩ := hs
      rcases hends s hs hsome with hold | hleaf
      · exact (hnode s).trans (hq n s hs hold)
      · exact (hnode s).trans hleaf
    · rw [if_neg hnm] at hs
      exact hq m s hs hsome

/-- A change to a slot that gives it no children. -/
theorem relink (h : p.Grows q) (n : Address) {f : Slot → Slot}
    (hf : ∀ s, (f s).node = s.node ∧ ((f s).ends.isSome = true → s.ends.isSome = true)) :
    p.Grows (q.update n f) :=
  h.update n (fun s => by rw [(hf s).1]) fun s _ hs => .inl ((hf s).2 hs)

theorem relink? (h : p.Grows q) (n : Option Address) {f : Slot → Slot}
    (hf : ∀ s, (f s).node = s.node ∧ ((f s).ends.isSome = true → s.ends.isSome = true)) :
    p.Grows (q.update? n f) := by
  cases n with
  | none => exact h
  | some n => exact h.relink n hf

/-- A change to the links of a branch. -/
theorem relinkBranch (h : p.Grows q) {n : Address} (hn : p.IsBranch n) {f : Slot → Slot}
    (hf : ∀ s, (f s).node = s.node) : p.Grows (q.update n f) := by
  refine h.update n (fun s => by rw [hf]) fun s hs _ => ?_
  obtain ⟨s', hs', hleaf⟩ := h.branch n hn
  cases hs.symm.trans hs'
  exact .inr hleaf

/-! ## Changes to a page -/

theorem create (h : p.Grows q) (label : Node) : p.Grows (q.create label).2 where
  branch n hn := by
    obtain ⟨s, hs, hleaf⟩ := h.branch n hn
    have hlt : n < q.slots.size := (h.branch n hn).lt_size
    exact ⟨s, by rw [Page.create, Array.getElem?_push_lt hlt, ← hs, Array.getElem?_eq_getElem hlt], hleaf⟩
  leavesBare hp n s hs hsome := by
    rw [Page.create, Array.getElem?_push] at hs
    split at hs
    · cases hs
      cases hsome
    · exact h.leavesBare hp n s hs hsome

theorem detach (h : p.Grows q) (n : Address) : p.Grows (q.detach n) := by
  unfold Page.detach
  cases q.parent? n with
  | none => exact h
  | some parent =>
    refine (((h.relink n ?_).relink? _ ?_).relink? _ ?_).relink parent ?_
    case refine_4 =>
      intro s
      exact ⟨rfl, fun hs => by cases hends : s.ends <;> simp_all⟩
    all_goals exact fun s => ⟨rfl, id⟩

theorem append (h : p.Grows q) {parent : Address} (hparent : p.IsBranch parent) (n : Address) :
    p.Grows (q.append parent n) := by
  unfold Page.append
  refine (((h.detach n).relink n ?_).relink? _ ?_).relinkBranch hparent fun s => rfl
  all_goals exact fun s => ⟨rfl, id⟩

theorem insertBefore (h : p.Grows q) (sibling n : Address) : p.Grows (q.insertBefore sibling n) := by
  unfold Page.insertBefore
  dsimp only
  cases (q.detach n).parent? sibling with
  | none => exact h.detach n
  | some parent =>
    refine ((((h.detach n).relink n ?_).relink? _ ?_).relink sibling ?_).relink parent ?_
    case refine_4 =>
      intro s
      exact ⟨rfl, fun hs => by cases hends : s.ends <;> simp_all⟩
    all_goals exact fun s => ⟨rfl, id⟩

theorem handOver (h : p.Grows q) (source : Address) {target : Address} (htarget : p.IsBranch target) :
    p.Grows (q.handOver source target) := by
  unfold Page.handOver
  cases q.ends? source with
  | none => exact h
  | some ends =>
    obtain ⟨first, last⟩ := ends
    dsimp only
    have hout : p.Grows (((q.update source fun s => { s with ends := none }).update first fun s =>
        { s with parent := some target }).update last fun s => { s with parent := some target }) := by
      refine ((h.relink source ?_).relink first ?_).relink last ?_
      case refine_1 => exact fun s => ⟨rfl, fun hs => by cases hs⟩
      all_goals exact fun s => ⟨rfl, id⟩
    split
    · exact hout.relinkBranch htarget fun s => rfl
    · refine ((hout.relink _ ?_).relink _ ?_).relinkBranch htarget fun s => rfl
      all_goals exact fun s => ⟨rfl, id⟩

theorem extendText (h : p.Grows q) (n : Address) (more : String) : p.Grows (q.extendText n more) := by
  refine h.update n (fun s => ?_) fun s _ hs => .inl ?_
  · cases hnode : s.node <;> simp [hnode, Node.isLeaf]
  · cases hnode : s.node <;> simpa [hnode] using hs

theorem appendText (h : p.Grows q) {parent : Address} (hparent : p.IsBranch parent) (content : String) :
    p.Grows (q.appendText parent content) := by
  have hnew : p.Grows ((q.create (.text content)).2.append parent (q.create (.text content)).1) :=
    (h.create _).append hparent _
  unfold Page.appendText
  cases q.last? parent with
  | none => exact hnew
  | some last =>
    dsimp only
    split
    · exact h.extendText last content
    · exact hnew

theorem insertTextBefore (h : p.Grows q) (sibling : Address) (content : String) :
    p.Grows (q.insertTextBefore sibling content) := by
  have hnew : p.Grows ((q.create (.text content)).2.insertBefore sibling (q.create (.text content)).1) :=
    (h.create _).insertBefore sibling _
  unfold Page.insertTextBefore
  split
  · exact h
  · split
    · exact h.extendText _ content
    · exact hnew
  · exact hnew

theorem addMissingAttributes (h : p.Grows q) (n : Address) (more : List Attribute) :
    p.Grows (q.addMissingAttributes n more) := by
  refine h.update n (fun s => ?_) fun s _ hs => .inl ?_
  · cases hnode : s.node <;> simp [hnode, Node.isLeaf]
  · cases hnode : s.node <;> simpa [hnode] using hs

end Grows

/-- A node that has just been created is a branch if it is no leaf. -/
theorem isBranch_create (p : Page) {label : Node} (h : label.isLeaf = false) :
    (p.create label).2.IsBranch (p.create label).1 :=
  ⟨{ node := label }, by simp [create], h⟩

end Page

end Gleaner.Html
