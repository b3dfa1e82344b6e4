import Gleaner.Proofs.Html.Forest
import Gleaner.Proofs.Html.Reader

set_option autoImplicit false

/-! # Text

The text of a node is gathered on a walk. Where the links agree it is made of the text of the children, in
their order, whether a child is a text, an element or the contents of a template: `Cursor.text_of_children`.
Comments and doctypes add nothing, and since no text has anything below it, nothing is counted twice. -/

namespace Gleaner.Html

namespace Cursor

/-- What a child adds to the text of its parent. -/
def share (c : Cursor) : String :=
  match c.node with
  | .text content => content
  | .comment _ | .doctype _ => ""
  | .document | .fragment | .element .. => c.text

end Cursor

namespace Page

variable {p : Page} {n : Address} {f : Forest}

/-- The contents of the texts among some nodes. -/
def textsAt (p : Page) (addresses : List Address) : List String :=
  (addresses.map (Cursor.mk p)).filterMap (·.node.text?)

theorem textsAt_append (ns ms : List Address) : p.textsAt (ns ++ ms) = p.textsAt ns ++ p.textsAt ms := by
  rw [textsAt, List.map_append, List.filterMap_append]
  rfl

theorem Agreement.text_eq (h : p.Agreement n f) :
    (Cursor.mk p n).text = String.join (p.textsAt (n :: f.addresses)) := by
  rw [Cursor.text, Cursor.texts, h.descendants_eq]
  rfl

theorem node_of_slot {s : Slot} (hs : p.slots[n]? = some s) : (Cursor.mk p n).node = s.node := by
  rw [Cursor.node, Page.node?, hs]
  rfl

/-- Below a leaf there is nothing. -/
theorem Agreement.eq_empty_of_isLeaf (h : p.Agreement n f) (hbare : p.LeavesBare)
    (hleaf : (Cursor.mk p n).node.isLeaf = true) : f = .empty := by
  obtain ⟨s, hs⟩ : ∃ s, p.slots[n]? = some s := ⟨_, Array.getElem?_eq_getElem h.inPage⟩
  rw [node_of_slot hs] at hleaf
  have hends : s.ends = none := by
    cases hends : s.ends with
    | none => rfl
    | some ends => exact absurd hleaf (by simp [hbare n s hs (by simp [hends])])
  have hfirst := h.first
  rw [first?, ends?, hs, Option.bind_some, hends] at hfirst
  cases f with
  | empty => rfl
  | node m below behind => cases hfirst

/-- A child adds the texts at and below it. -/
theorem Agreement.share_eq (h : p.Agreement n f) (hbare : p.LeavesBare) :
    (Cursor.mk p n).share = String.join (p.textsAt (n :: f.addresses)) := by
  by_cases hleaf : (Cursor.mk p n).node.isLeaf = true
  · rw [h.eq_empty_of_isLeaf hbare hleaf]
    cases hnode : (Cursor.mk p n).node <;>
      simp_all [Cursor.share, textsAt, Forest.addresses, Node.text?, Node.isLeaf]
  · rw [← h.text_eq]
    cases hnode : (Cursor.mk p n).node <;> simp_all [Cursor.share, Node.isLeaf]

/-- Nodes side by side add the texts in the forest. -/
theorem join_share_tops (hbare : p.LeavesBare) (f : Forest) (h : ∀ m g, f.Has m g → p.Agreement m g) :
    String.join (f.tops.map fun m => (Cursor.mk p m).share) = String.join (p.textsAt f.addresses) := by
  induction f with
  | empty => rfl
  | node m below behind _ ihBehind =>
    have hm : p.Agreement m below := h m below (.inl ⟨rfl, rfl⟩)
    have hbehind := ihBehind fun k g hk => h k g (.inr (.inr hk))
    rw [Forest.tops, List.map_cons, String.join_cons, hbehind, hm.share_eq hbare, ← String.join_append,
      ← textsAt_append]
    rfl

theorem text?_eq_none_of_branch (h : p.IsBranch n) : (Cursor.mk p n).node.text? = none := by
  obtain ⟨s, hs, hleaf⟩ := h
  rw [node_of_slot hs]
  cases hnode : s.node <;> simp_all [Node.text?, Node.isLeaf]

theorem Agreement.text_of_branch (h : p.Agreement n f) (hbranch : p.IsBranch n) :
    (Cursor.mk p n).text = String.join (p.textsAt f.addresses) := by
  rw [h.text_eq, textsAt, List.map_cons, List.filterMap_cons, text?_eq_none_of_branch hbranch]
  rfl

end Page

namespace Cursor

open Page

variable {p : Page} {n : Address}

/-- Texts add their contents. -/
theorem filterMap_text? (cs : List Cursor) :
    cs.filterMap (·.node.text?) = (cs.filter (·.node.isText)).map share := by
  induction cs with
  | nil => rfl
  | cons c cs ih =>
    rw [List.filterMap_cons, ih, List.filter_cons]
    cases hnode : c.node <;> simp [hnode, Node.text?, Node.isText, share]

/-! ## Main result -/

/-- In a page that has been read, the text of the document or an element below which the links agree is made
of what its children add, in their order. So the text of everything below is a part of it, and it has the
content of every text below once, in the order of the page. -/
theorem text_of_children (hread : p.IsRead) (h : p.Agree n) (hbranch : p.IsBranch n) :
    ((∀ m, m ∈ p.children n ↔ p.Child n m) ∧ (p.children n).Pairwise p.Behind
        ∧ (Cursor.mk p n).text = String.join ((Cursor.mk p n).children.map share))
      ∧ (∀ e, p.Below n e →
          ∃ before after, (Cursor.mk p n).text = before ++ (Cursor.mk p e).text ++ after)
      ∧ ∃ ts, p.Lists n (·.node.isText = true) ts ∧ (Cursor.mk p n).text = String.join (ts.map share) := by
  obtain ⟨f, hf⟩ := h
  have htext := hf.text_of_branch hbranch
  refine ⟨⟨fun m => hf.mem_children_iff, ?_, ?_⟩, fun e he => ?_, _, hf.lists (·.node.isText), ?_⟩
  · rw [hf.children_eq]
    exact hf.follows.pairwise_behind
  · rw [htext, ← join_share_tops hread.leavesBare f fun m g hm => hf.of_has hm, Cursor.children,
      hf.children_eq, List.map_map]
    rfl
  · obtain ⟨g, hg⟩ := Forest.mem_addresses_iff.mp (hf.mem_addresses_iff.mpr he)
    obtain ⟨before, after, heq⟩ := hg.infix
    refine ⟨String.join (p.textsAt before), String.join (p.textsAt after), ?_⟩
    rw [htext, (hf.of_has hg).text_eq, ← heq, textsAt_append, textsAt_append, String.join_append,
      String.join_append]
  · rw [htext, textsAt, filterMap_text?, hf.descendants_eq]

/-- Text in a table goes before it, a comment adds nothing, and a template adds what it holds. -/
theorem text_of_fostered :
    let page := Page.read "<table>b<!--no--><td>c</table>a<template>d</template>"
    page.IsRead ∧ page.Agree 3 ∧ page.IsBranch 3 ∧ (Cursor.mk page 3).text = "bcad"
      ∧ ((Cursor.mk page 3).children.map share) = ["b", "c", "a", "d"]
      ∧ (page.children 3).Pairwise page.Behind
      ∧ ∃ ts, page.Lists 3 (·.node.isText = true) ts ∧ String.join (ts.map share) = "bcad" := by
  intro page
  have hread : page.IsRead := .inl ⟨_, rfl⟩
  have hpage : page.Agree 3 ∧ page.IsBranch 3
      ∧ ((Cursor.mk page 3).children.map share) = ["b", "c", "a", "d"] := by
    decide +kernel
  clear_value page
  obtain ⟨hagree, hbranch, hshares⟩ := hpage
  obtain ⟨⟨-, hbehind, htext⟩, -, ts, hlists, hjoin⟩ := text_of_children hread hagree hbranch
  rw [hshares] at htext
  exact ⟨hread, hagree, hbranch, htext, hshares, hbehind, ts, hlists, hjoin.symm.trans htext⟩

/-- Without the condition this fails: of the two children of a block the second one is missing from its
text, and so from that of the document. The walk comes up from the last node in the first child at the
block itself, past the sibling behind. -/
theorem text_of_broken_page :
    let page := Page.read "<b><div>1<br><p>2</b>"
    page.IsRead ∧ ¬ page.Agree Page.root ∧ page.IsBranch 5
      ∧ ((Cursor.mk page 5).children.map share) = ["1", "2"] ∧ (Cursor.mk page 5).text = "1"
      ∧ page.Below Page.root 9 ∧ (Cursor.mk page 9).node = .text "2" ∧ page.top.text = "1" := by
  intro page
  have hread : page.IsRead := .inl ⟨_, rfl⟩
  have hpage : (¬ page.Agree Page.root ∧ page.IsBranch 5
      ∧ ((Cursor.mk page 5).children.map share) = ["1", "2"] ∧ (Cursor.mk page 5).text = "1"
      ∧ (Cursor.mk page 9).node = .text "2" ∧ page.top.text = "1")
      ∧ [Page.root, 1, 3, 5, 8, 11, 9].IsChain fun k m => m ∈ page.children k := by
    decide +kernel
  clear_value page
  obtain ⟨⟨hagree, hbranch, hshares, htext, hnode, hall⟩, hway⟩ := hpage
  have hbelow : page.Below Page.root 9 := Page.below_of_isChain hway 9 (by simp)
  exact ⟨hread, hagree, hbranch, hshares, htext, hbelow, hnode, hall⟩

end Cursor

end Gleaner.Html
