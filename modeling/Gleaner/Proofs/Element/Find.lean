import Gleaner.Element
import Gleaner.Html.Reader
import Gleaner.Proofs.Html.Forest

set_option autoImplicit false

/-! # What is found below a node

A search goes through the nodes that the walk enters, so it is as good as the links of the page. Where the
links below a node agree, it finds what stands below the node and is meant by the selector, each element
once and in the order of the page, and a search from further up finds these side by side among others:
`Element.find_below`.

Pages whose links disagree occur, because an element that hands over its children tells only the first and
the last of them of their new parent. When the last one moves on, the walk is led past what stands behind
the new parent: `Element.find_paragraph_of_broken_page`. -/

namespace Gleaner.Element

open Html

/-- What a selector means below a node: the elements there that it accepts, each once, in the order of the
page. -/
structure MeantBelow (p : Page) (n : Address) (s : Css.Selector) (found : List Cursor) : Prop where
  mem_iff : ∀ e, e ∈ found ↔
    e.page = p ∧ p.Below n e.address ∧ e.node.isElement = true ∧ s.accepts e = true
  inOrder : found.Pairwise fun e e' => p.Precedes e.address e'.address
  once : found.Nodup
  notSelf : ⟨p, n⟩ ∉ found

theorem find_eq_none_iff {c : Cursor} {selector : String} :
    find c selector = none ↔ Css.Selector.parse? selector = none := by
  rw [find, Option.map_eq_none_iff]

/-- The elements at some of the addresses that a selector accepts. -/
def meant (p : Page) (s : Css.Selector) (addresses : List Address) : List Cursor :=
  (addresses.map (Cursor.mk p)).filter fun e => e.node.isElement && s.accepts e

section Meant

variable {p : Page} {s : Css.Selector}

theorem meant_append (addresses others : List Address) :
    meant p s (addresses ++ others) = meant p s addresses ++ meant p s others := by
  rw [meant, List.map_append, List.filter_append]
  rfl

theorem mem_meant_iff {addresses : List Address} {e : Cursor} :
    e ∈ meant p s addresses
      ↔ e.page = p ∧ e.address ∈ addresses ∧ e.node.isElement = true ∧ s.accepts e = true := by
  obtain ⟨page, m⟩ := e
  rw [meant, List.mem_filter, List.mem_map, Bool.and_eq_true]
  constructor
  · rintro ⟨⟨m', hm, heq⟩, haccepts⟩
    cases heq
    exact ⟨rfl, hm, haccepts⟩
  · rintro ⟨rfl, hm, haccepts⟩
    exact ⟨⟨m, hm, rfl⟩, haccepts⟩

variable {n : Address} {f : Forest}

theorem find_of_agreement (h : p.Agreement n f) {selector : String}
    (hparse : Css.Selector.parse? selector = some s) :
    find ⟨p, n⟩ selector = some (meant p s f.addresses) := by
  rw [find, hparse, Option.map_some, Cursor.elementsBelow, h.descendants_eq, List.filter_filter, meant]
  simp only [Bool.and_comm]

theorem meantBelow_of_agreement (h : p.Agreement n f) (s : Css.Selector) :
    MeantBelow p n s (meant p s f.addresses) where
  mem_iff e := by rw [mem_meant_iff, h.mem_addresses_iff]
  inOrder := by
    have hall : (f.addresses.map (Cursor.mk p)).Pairwise fun e e' => p.Precedes e.address e'.address :=
      List.pairwise_map.mpr h.pairwise_precedes
    exact hall.filter _
  once := by
    have hinjective : Function.Injective (Cursor.mk p) := fun m m' heq => (Cursor.mk.inj heq).2
    exact ((List.nodup_cons.mp h.once).2.map hinjective).filter _
  notSelf hmem := (List.nodup_cons.mp h.once).1 (mem_meant_iff.mp hmem).2.1

end Meant

/-! ## Main result -/

/-- A text that is no selector finds nothing anywhere. With any other one a search from a node finds what
the selector means below the node, provided that the links there agree; and what is found from a node above
is that with elements before and behind it, none of which stand below the node. -/
theorem find_below {p : Page} {top : Address} (h : p.Agree top) (selector : String) :
    (∀ c, find c selector = none ↔ Css.Selector.parse? selector = none)
      ∧ ∀ s, Css.Selector.parse? selector = some s → ∀ a n, p.Within top a → p.Within a n →
        ∃ found before after, find ⟨p, n⟩ selector = some found ∧ MeantBelow p n s found
          ∧ find ⟨p, a⟩ selector = some (before ++ found ++ after)
          ∧ ∀ e ∈ before ++ after, ¬ p.Below n e.address := by
  refine ⟨fun c => find_eq_none_iff, fun s hparse a n ha hn => ?_⟩
  obtain ⟨f, hf⟩ := h.of_within ha
  obtain ⟨g, before, after, hg, heq, hnone⟩ := hf.exists_of_within hn
  have hfound : find ⟨p, a⟩ selector
      = some (meant p s before ++ meant p s g.addresses ++ meant p s after) := by
    rw [find_of_agreement hf hparse, heq, meant_append, meant_append]
  refine ⟨_, _, _, find_of_agreement hg hparse, meantBelow_of_agreement hg s, hfound, fun e he => ?_⟩
  rw [← meant_append] at he
  exact hnone _ (mem_meant_iff.mp he).2.1

/-- The links of a page agree though the parser moved a part of it: bold text that stands in a table goes
before it. A search in the body finds it there, and the cell behind it. -/
theorem find_below_of_fostered :
    let page := Page.read "<table><tr><td>cell</td></tr><b>fostered</b></table>"
    page.Agree Page.root ∧ page.Within Page.root 3
      ∧ ∃ s, Css.Selector.parse? "td, b" = some s ∧ MeantBelow page 3 s [⟨page, 9⟩, ⟨page, 7⟩] := by
  intro page
  -- One decision, so that the page is read once.
  have hpage : page.Agree Page.root ∧ 1 ∈ page.children Page.root ∧ 3 ∈ page.children 1
      ∧ find ⟨page, 3⟩ "td, b" = some [⟨page, 9⟩, ⟨page, 7⟩] := by
    decide +kernel
  obtain ⟨hagree, hhtml, hbody, hfind⟩ := hpage
  have hwithin : page.Within Page.root 3 :=
    .tail (.tail .refl (Page.child_of_mem_children hhtml)) (Page.child_of_mem_children hbody)
  obtain ⟨hnone, hsome⟩ := find_below hagree "td, b"
  obtain ⟨s, hs⟩ : ∃ s, Css.Selector.parse? "td, b" = some s := by
    rw [← Option.ne_none_iff_exists', ne_eq, ← hnone ⟨page, 3⟩, hfind]
    exact Option.some_ne_none _
  obtain ⟨found, -, -, hfound, hmeant, -⟩ := hsome s hs Page.root 3 .refl hwithin
  obtain rfl := Option.some.inj (hfind.symm.trans hfound)
  exact ⟨hagree, hwithin, s, hs, hmeant⟩

/-- Without the condition this fails: a paragraph stands below the root, and the search from there does
not find it. It was the last of three children that one element handed over to another. The second of them
leads the walk up to its former parent, past the paragraph behind its present one. -/
theorem find_paragraph_of_broken_page :
    let page := Page.read "<b><div>1<br><p>2</b>"
    ¬ page.Agree Page.root ∧ page.Below Page.root 8 ∧ (page.node? 8).bind (·.tag?) = some "p"
      ∧ (∃ s, Css.Selector.parse? "p" = some s ∧ s.accepts ⟨page, 8⟩ = true)
      ∧ find page.top "p" = some [] := by
  intro page
  have hpage : (¬ page.Agree Page.root ∧ (page.node? 8).bind (·.tag?) = some "p"
      ∧ (Css.Selector.parse? "p").map (·.accepts ⟨page, 8⟩) = some true ∧ find page.top "p" = some [])
      ∧ 1 ∈ page.children Page.root ∧ 3 ∈ page.children 1 ∧ 5 ∈ page.children 3 ∧ 8 ∈ page.children 5 := by
    decide +kernel
  obtain ⟨⟨hagree, htag, haccepts, hfind⟩, hhtml, hbody, hdiv, hp⟩ := hpage
  have hbelow : page.Below Page.root 8 :=
    .tail (.tail (.tail (.single (Page.child_of_mem_children hhtml)) (Page.child_of_mem_children hbody))
      (Page.child_of_mem_children hdiv)) (Page.child_of_mem_children hp)
  exact ⟨hagree, hbelow, htag, Option.map_eq_some_iff.mp haccepts, hfind⟩

end Gleaner.Element
