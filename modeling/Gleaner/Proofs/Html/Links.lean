import Gleaner.Proofs.Html.Forest
import Gleaner.Proofs.Html.Leaves
import Mathlib.Logic.Function.Basic

set_option autoImplicit false

/-! # Links that stay in step

All five links of a page say the same if there are lists of children that they are the links of
(`Page.LinkedBy`). Then the links below every node agree: the lists of children are laid out as a forest, one
below the other, and that comes to an end because children are younger than the node they stand below.

Creating a node keeps links in step, and so does taking one out. A node that stands nowhere may be put below
any older one, at the end or before a sibling. What does not keep them in step is handing children over, which
tells only two of them of their new parent. -/

namespace Gleaner.Html

namespace Page

/-! ## Links after a change -/

@[simp] theorem size_update (p : Page) (n : Address) (f : Slot → Slot) :
    (p.update n f).slots.size = p.slots.size := Array.size_modify

@[simp] theorem size_update? (p : Page) (n : Option Address) (f : Slot → Slot) :
    (p.update? n f).slots.size = p.slots.size := by
  cases n with
  | none => rfl
  | some n => exact p.size_update n f

theorem slots_update? (p : Page) (n : Option Address) (m : Address) (f : Slot → Slot) :
    (p.update? n f).slots[m]? = if n = some m then p.slots[m]?.map f else p.slots[m]? := by
  cases n with
  | none => rfl
  | some n => simp only [update?, slots_update, Option.some_inj]

/-- A link is changed as it is in the slot, if that leaves those alone that are in no slot. -/
theorem link_map {α : Type} {slot : Option Slot} {f : Slot → Slot} {link : Slot → Option α}
    (change : Option α → Option α) (hlink : ∀ s, link (f s) = change (link s))
    (hnone : slot = none → change none = none) : (slot.map f).bind link = change (slot.bind link) := by
  cases slot with
  | none => exact (hnone rfl).symm
  | some s => exact hlink s

theorem slot?_ne_none {p : Page} {n : Address} (h : n < p.slots.size) : p.slots[n]? ≠ none := by
  rw [Array.getElem?_eq_getElem h]
  exact Option.some_ne_none _

/-! ## Neighbours in a list -/

/-- The second node stands right behind the first one in a list. -/
def NextIn : List Address → Address → Address → Prop
  | [], _, _ => False
  | x :: rest, m, n => (x = m ∧ rest.head? = some n) ∨ NextIn rest m n

section NextIn

variable {l : List Address} {m n : Address}

theorem nextIn_append (l l' : List Address) (m n : Address) :
    NextIn (l ++ l') m n ↔ NextIn l m n ∨ (l.getLast? = some m ∧ l'.head? = some n) ∨ NextIn l' m n := by
  induction l with
  | nil => simp [NextIn]
  | cons x rest ih =>
    rw [List.cons_append, NextIn, ih, NextIn]
    cases rest with
    | nil => simp [NextIn]
    | cons y rest => simp [List.getLast?_cons_cons, or_assoc]

theorem NextIn.mem (h : NextIn l m n) : m ∈ l ∧ n ∈ l := by
  induction l with
  | nil => exact h.elim
  | cons x rest ih =>
    rcases h with ⟨rfl, hhead⟩ | h
    · exact ⟨List.mem_cons_self, List.mem_cons_of_mem _ (List.mem_of_mem_head? hhead)⟩
    · exact ⟨List.mem_cons_of_mem _ (ih h).1, List.mem_cons_of_mem _ (ih h).2⟩

/-- Nothing stands behind the last one. -/
theorem not_nextIn_of_getLast? (hl : l.Nodup) (h : l.getLast? = some m) : ¬ NextIn l m n := by
  obtain ⟨front, rfl⟩ := List.getLast?_eq_some_iff.mp h
  have hm : m ∉ front := fun hmem => (List.nodup_append.mp hl).2.2 m hmem m (List.mem_singleton_self m) rfl
  rw [nextIn_append]
  rintro (hnext | ⟨hlast, -⟩ | hnext)
  · exact hm hnext.mem.1
  · exact hm (List.mem_of_mem_getLast? hlast)
  · simp [NextIn] at hnext

/-- Nothing stands in front of the first one. -/
theorem not_nextIn_of_head? (hl : l.Nodup) (h : l.head? = some n) : ¬ NextIn l m n := by
  obtain ⟨back, rfl⟩ := List.head?_eq_some_iff.mp h
  have hn : n ∉ back := (List.nodup_cons.mp hl).1
  rintro (⟨-, hhead⟩ | hnext)
  · exact hn (List.mem_of_mem_head? hhead)
  · exact hn hnext.mem.2

end NextIn

/-! ## Lists of children -/

/-- The links of the page are those of lists of children: for each node those that stand below it, in order.
They are all younger than the node. -/
structure LinkedBy (p : Page) (kids : Address → List Address) : Prop where
  first : ∀ k, p.first? k = (kids k).head?
  last : ∀ k, p.last? k = (kids k).getLast?
  parent : ∀ n k, p.parent? n = some k ↔ n ∈ kids k
  before : ∀ m n, p.before? n = some m ↔ ∃ k, NextIn (kids k) m n
  behind : ∀ m n, p.behind? m = some n ↔ ∃ k, NextIn (kids k) m n
  younger : ∀ k, ∀ n ∈ kids k, k < n
  once : ∀ k, (kids k).Nodup

/-- The links of the page are in step. -/
def Linked (p : Page) : Prop := ∃ kids, p.LinkedBy kids

variable {p q : Page} {kids : Address → List Address} {k n m : Address}

namespace LinkedBy

theorem lt_size (h : p.LinkedBy kids) (hn : n ∈ kids k) : n < p.slots.size :=
  lt_size_of_parent? ((h.parent n k).mpr hn)

theorem not_mem (h : p.LinkedBy kids) (hn : p.parent? n = none) : n ∉ kids k := by
  intro hmem
  cases hn.symm.trans ((h.parent n k).mpr hmem)

/-- A node is the child of one node only. -/
theorem eq_of_mem (h : p.LinkedBy kids) {k' : Address} (hn : n ∈ kids k) (hn' : n ∈ kids k') : k' = k :=
  Option.some.inj (((h.parent n k').mpr hn').symm.trans ((h.parent n k).mpr hn))

/-- In front of a child stands the one before it in the list. -/
theorem before?_eq (h : p.LinkedBy kids) {front back : List Address} (hkids : kids k = front ++ n :: back) :
    p.before? n = front.getLast? := by
  have honce : (front ++ n :: back).Nodup := hkids ▸ h.once k
  have hfront : n ∉ front := fun hn => (List.nodup_append.mp honce).2.2 n hn n List.mem_cons_self rfl
  ext m
  rw [h.before]
  constructor
  · rintro ⟨k', hnext⟩
    obtain rfl := h.eq_of_mem (hkids ▸ List.mem_append_right _ List.mem_cons_self) hnext.mem.2
    rw [hkids, nextIn_append] at hnext
    rcases hnext with hnext | ⟨hlast, -⟩ | hnext
    · exact absurd hnext.mem.2 hfront
    · exact hlast
    · exact absurd hnext (not_nextIn_of_head? (List.nodup_append.mp honce).2.1 rfl)
  · exact fun hlast => ⟨k, hkids ▸ (nextIn_append ..).mpr (.inr (.inl ⟨hlast, rfl⟩))⟩

/-- Behind a child stands the one behind it in the list. -/
theorem behind?_eq (h : p.LinkedBy kids) {front back : List Address} (hkids : kids k = front ++ n :: back) :
    p.behind? n = back.head? := by
  have honce : (front ++ n :: back).Nodup := hkids ▸ h.once k
  have hfront : n ∉ front := fun hn => (List.nodup_append.mp honce).2.2 n hn n List.mem_cons_self rfl
  have hback : n ∉ back := (List.nodup_cons.mp (List.nodup_append.mp honce).2.1).1
  ext m
  rw [h.behind]
  constructor
  · rintro ⟨k', hnext⟩
    obtain rfl := h.eq_of_mem (hkids ▸ List.mem_append_right _ List.mem_cons_self) hnext.mem.1
    rw [hkids, nextIn_append] at hnext
    rcases hnext with hnext | ⟨hlast, -⟩ | ⟨-, hhead⟩ | hnext
    · exact absurd hnext.mem.1 hfront
    · exact absurd (List.mem_of_mem_getLast? hlast) hfront
    · exact hhead
    · exact absurd hnext.mem.1 hback
  · exact fun hhead => ⟨k, hkids ▸ (nextIn_append ..).mpr (.inr (.inr (.inl ⟨rfl, hhead⟩)))⟩

/-- A node with children knows the first and the last of them. -/
theorem exists_ends (h : p.LinkedBy kids) (hn : n ∈ kids k) :
    ∃ ends, p.ends? k = some ends ∧ (kids k).head? = some ends.1 ∧ (kids k).getLast? = some ends.2 := by
  cases hends : p.ends? k with
  | none =>
    have hnone := h.first k
    rw [first?, hends, Option.map_none, eq_comm, List.head?_eq_none_iff] at hnone
    exact absurd (hnone ▸ hn) List.not_mem_nil
  | some ends =>
    refine ⟨ends, rfl, ?_, ?_⟩
    · rw [← h.first, first?, hends, Option.map_some]
    · rw [← h.last, last?, hends, Option.map_some]

/-- A link that is the end of a list of children changes with the list. -/
theorem apply_update (link : List Address → Option Address) (kids : Address → List Address) (k m : Address)
    (l : List Address) : link (Function.update kids k l m) = if k = m then link l else link (kids m) := by
  rw [Function.update_apply]
  simp only [eq_comm]
  split <;> rfl

/-- Two nodes are neighbours in one list, or in another one. -/
theorem exists_nextIn_iff (kids : Address → List Address) (k m n : Address) :
    (∃ k', NextIn (kids k') m n) ↔ NextIn (kids k) m n ∨ ∃ k', k' ≠ k ∧ NextIn (kids k') m n := by
  constructor
  · rintro ⟨k', hk'⟩
    by_cases heq : k' = k
    · exact .inl (heq ▸ hk')
    · exact .inr ⟨k', heq, hk'⟩
  · rintro (hk | ⟨k', -, hk'⟩)
    · exact ⟨k, hk⟩
    · exact ⟨k', hk'⟩

theorem exists_nextIn_update_iff (kids : Address → List Address) (k : Address) (l : List Address)
    (m n : Address) : (∃ k', NextIn (Function.update kids k l k') m n)
      ↔ NextIn l m n ∨ ∃ k', k' ≠ k ∧ NextIn (kids k') m n := by
  rw [exists_nextIn_iff _ k, Function.update_self]
  refine or_congr_right (exists_congr fun k' => and_congr_right fun hne => ?_)
  rw [Function.update_of_ne hne]

/-! ## Putting a node among others -/

/-- A node has been put among the children of another one, and all its neighbours know of it. -/
theorem insert (h : p.LinkedBy kids) {front back : List Address} (hkids : kids k = front ++ back)
    (hkn : k < n) (hn : p.parent? n = none)
    (first : ∀ m, q.first? m = if k = m then (front ++ n :: back).head? else p.first? m)
    (last : ∀ m, q.last? m = if k = m then (front ++ n :: back).getLast? else p.last? m)
    (parent : ∀ m, q.parent? m = if n = m then some k else p.parent? m)
    (before : ∀ m, q.before? m
      = if n = m then front.getLast? else if back.head? = some m then some n else p.before? m)
    (behind : ∀ m, q.behind? m
      = if n = m then back.head? else if front.getLast? = some m then some n else p.behind? m) :
    q.LinkedBy (Function.update kids k (front ++ n :: back)) := by
  have honce : (front ++ back).Nodup := hkids ▸ h.once k
  have hnew : n ∉ front ++ back := hkids ▸ h.not_mem hn
  have hlast (m : Address) : front.getLast? = some m → m ∈ front := List.mem_of_mem_getLast?
  have hhead (m : Address) : back.head? = some m → m ∈ back := List.mem_of_mem_head?
  -- Neighbours in other lists are neither the new node nor any that it is put among.
  have hothers {k' m m' : Address} (hk' : k' ≠ k) (hnext : NextIn (kids k') m m') :
      (m ∉ front ++ back ∧ n ≠ m) ∧ m' ∉ front ++ back ∧ n ≠ m' := by
    obtain ⟨hm, hm'⟩ := hnext.mem
    refine ⟨⟨fun hmem => hk' (h.eq_of_mem (hkids ▸ hmem) hm), ?_⟩,
      fun hmem => hk' (h.eq_of_mem (hkids ▸ hmem) hm'), ?_⟩
    · rintro rfl
      exact h.not_mem hn hm
    · rintro rfl
      exact h.not_mem hn hm'
  constructor
  case first => exact fun m => by rw [first, apply_update List.head?, h.first]
  case last => exact fun m => by rw [last, apply_update List.getLast?, h.last]
  case parent =>
    intro m k'
    have hold := h.parent m k'
    have hnot := h.not_mem hn (k := k')
    rw [parent, Function.update_apply]
    grind
  case before =>
    intro m m'
    have hold := (h.before m m').trans (exists_nextIn_iff kids k m m')
    rw [hkids, nextIn_append] at hold
    rw [exists_nextIn_update_iff, nextIn_append, before]
    simp only [NextIn]
    grind [→ NextIn.mem, not_nextIn_of_head?]
  case behind =>
    intro m m'
    have hold := (h.behind m m').trans (exists_nextIn_iff kids k m m')
    rw [hkids, nextIn_append] at hold
    rw [exists_nextIn_update_iff, nextIn_append, behind]
    simp only [NextIn]
    grind [→ NextIn.mem, not_nextIn_of_getLast?]
  case younger =>
    intro k' m hm
    rw [Function.update_apply] at hm
    have hold := h.younger k' m
    grind
  case once =>
    intro k'
    rw [Function.update_apply]
    split
    · exact List.nodup_middle.mpr (List.nodup_cons.mpr ⟨hnew, honce⟩)
    · exact h.once k'

/-! ## Taking a node out -/

/-- A node has been taken out from among the children of another one, and all its neighbours know of it. -/
theorem remove (h : p.LinkedBy kids) {front back : List Address} (hkids : kids k = front ++ n :: back)
    (first : ∀ m, q.first? m = if k = m then (front ++ back).head? else p.first? m)
    (last : ∀ m, q.last? m = if k = m then (front ++ back).getLast? else p.last? m)
    (parent : ∀ m, q.parent? m = if n = m then none else p.parent? m)
    (before : ∀ m, q.before? m
      = if back.head? = some m then front.getLast? else if n = m then none else p.before? m)
    (behind : ∀ m, q.behind? m
      = if front.getLast? = some m then back.head? else if n = m then none else p.behind? m) :
    q.LinkedBy (Function.update kids k (front ++ back)) := by
  have hwhole : (front ++ n :: back).Nodup := hkids ▸ h.once k
  obtain ⟨hold, honce⟩ : n ∉ front ++ back ∧ (front ++ back).Nodup :=
    List.nodup_cons.mp (List.nodup_middle.mp hwhole)
  have hlast (m : Address) : front.getLast? = some m → m ∈ front := List.mem_of_mem_getLast?
  have hhead (m : Address) : back.head? = some m → m ∈ back := List.mem_of_mem_head?
  have hothers {k' m m' : Address} (hk' : k' ≠ k) (hnext : NextIn (kids k') m m') :
      m ∉ front ++ n :: back ∧ m' ∉ front ++ n :: back :=
    ⟨fun hmem => hk' (h.eq_of_mem (hkids ▸ hmem) hnext.mem.1),
      fun hmem => hk' (h.eq_of_mem (hkids ▸ hmem) hnext.mem.2)⟩
  constructor
  case first => exact fun m => by rw [first, apply_update List.head?, h.first]
  case last => exact fun m => by rw [last, apply_update List.getLast?, h.last]
  case parent =>
    intro m k'
    have hparent := h.parent m k'
    have hn : n ∈ kids k' → k' = k := h.eq_of_mem (hkids ▸ by simp)
    rw [parent, Function.update_apply]
    grind
  case before =>
    intro m m'
    have hbefore := (h.before m m').trans (exists_nextIn_iff kids k m m')
    rw [hkids, nextIn_append] at hbefore
    rw [exists_nextIn_update_iff, nextIn_append, before]
    simp only [NextIn] at hbefore
    grind [→ NextIn.mem, not_nextIn_of_head?]
  case behind =>
    intro m m'
    have hbehind := (h.behind m m').trans (exists_nextIn_iff kids k m m')
    rw [hkids, nextIn_append] at hbehind
    rw [exists_nextIn_update_iff, nextIn_append, behind]
    simp only [NextIn] at hbehind
    grind [→ NextIn.mem, not_nextIn_of_getLast?]
  case younger =>
    intro k' m hm
    rw [Function.update_apply] at hm
    have hyounger := h.younger k' m
    grind
  case once =>
    intro k'
    rw [Function.update_apply]
    split
    · exact honce
    · exact h.once k'

end LinkedBy

/-! ## Changes to a page -/

namespace Linked

theorem start (label : Node) : (Page.start label).Linked := by
  have hnone {α : Type} {g : Slot → Option α} (hg : g { node := label } = none) (n : Address) :
      (Page.start label).slots[n]?.bind g = none := by
    cases n with
    | zero => exact hg
    | succ n => rfl
  refine ⟨fun _ => [], ?_, ?_, ?_, ?_, ?_, ?_, ?_⟩
  case refine_1 => exact fun k => congrArg (Option.map Prod.fst) (hnone rfl k)
  case refine_2 => exact fun k => congrArg (Option.map Prod.snd) (hnone rfl k)
  case refine_3 => exact fun n k => by simp [parent?, hnone]
  case refine_4 => exact fun m n => by simp [before?, hnone, NextIn]
  case refine_5 => exact fun m n => by simp [behind?, hnone, NextIn]
  case refine_6 => exact fun k n hn => by cases hn
  case refine_7 => exact fun k => .nil

/-- Where links are not changed, they stay in step. -/
theorem of_links_eq (h : p.Linked) (hends : ∀ n, q.ends? n = p.ends? n)
    (hparent : ∀ n, q.parent? n = p.parent? n) (hbefore : ∀ n, q.before? n = p.before? n)
    (hbehind : ∀ n, q.behind? n = p.behind? n) : q.Linked := by
  obtain ⟨kids, h⟩ := h
  refine ⟨kids, ?_, ?_, ?_, ?_, ?_, h.younger, h.once⟩
  · exact fun k => by rw [first?, hends, ← first?, h.first]
  · exact fun k => by rw [last?, hends, ← last?, h.last]
  · exact fun n k => by rw [hparent, h.parent]
  · exact fun m n => by rw [hbefore, h.before]
  · exact fun m n => by rw [hbehind, h.behind]

end Linked

/-! ### Creating a node, and changing it by itself -/

theorem bind_slots_create {α : Type} {g : Slot → Option α} (p : Page) {label : Node}
    (hg : g { node := label } = none) (n : Address) :
    (p.create label).2.slots[n]?.bind g = p.slots[n]?.bind g := by
  rw [create, Array.getElem?_push]
  split
  · next hn =>
    subst hn
    rw [Array.getElem?_eq_none (Nat.le_refl _)]
    exact hg
  · rfl

theorem parent?_create (p : Page) (label : Node) (n : Address) :
    (p.create label).2.parent? n = p.parent? n := p.bind_slots_create rfl n

theorem Linked.create (h : p.Linked) (label : Node) : (p.create label).2.Linked :=
  h.of_links_eq (p.bind_slots_create rfl) (p.bind_slots_create rfl) (p.bind_slots_create rfl)
    (p.bind_slots_create rfl)

theorem Linked.relabel (h : p.Linked) {f : Slot → Slot} (hf : ∀ s, ∃ label, f s = { s with node := label })
    (n : Address) : (p.update n f).Linked := by
  have hlinks {α : Type} {link : Slot → Option α} (hlink : ∀ s label, link { s with node := label } = link s)
      (m : Address) : (p.update n f).slots[m]?.bind link = p.slots[m]?.bind link := by
    rw [slots_update]
    split
    · refine link_map id (fun s => ?_) fun _ => rfl
      obtain ⟨label, hs⟩ := hf s
      rw [hs, hlink, id]
    · rfl
  exact h.of_links_eq (hlinks fun _ _ => rfl) (hlinks fun _ _ => rfl) (hlinks fun _ _ => rfl)
    (hlinks fun _ _ => rfl)

theorem Linked.extendText (h : p.Linked) (n : Address) (more : String) : (p.extendText n more).Linked := by
  refine h.relabel (fun s => ?_) n
  split
  · exact ⟨_, rfl⟩
  · exact ⟨s.node, rfl⟩

theorem Linked.addMissingAttributes (h : p.Linked) (n : Address) (more : List Attribute) :
    (p.addMissingAttributes n more).Linked := by
  refine h.relabel (fun s => ?_) n
  split
  · exact ⟨_, rfl⟩
  · exact ⟨s.node, rfl⟩

/-! ### Taking a node out -/

theorem detach_of_loose (h : p.parent? n = none) : p.detach n = p := by
  rw [detach, h]

/-- The ends of a list of children without one of them are those of what is left. -/
theorem endsWithout_eq {front back : List Address} (honce : (front ++ n :: back).Nodup)
    {ends : Address × Address} (hfirst : (front ++ n :: back).head? = some ends.1)
    (hlast : (front ++ n :: back).getLast? = some ends.2) :
    (endsWithout n front.getLast? back.head? ends).map (·.1) = (front ++ back).head?
      ∧ (endsWithout n front.getLast? back.head? ends).map (·.2) = (front ++ back).getLast? := by
  obtain ⟨first, last⟩ := ends
  cases back with
  | nil => cases front <;> grind [endsWithout]
  | cons c back =>
    have hback : (c :: back).getLast? = some last := by
      rwa [List.getLast?_append_of_ne_nil _ (List.cons_ne_nil n _), List.getLast?_cons_cons] at hlast
    have hmem : last ∈ c :: back := List.mem_of_mem_getLast? hback
    rw [List.getLast?_append_of_ne_nil _ (List.cons_ne_nil c back), hback]
    have hne : last ≠ n := by
      rintro rfl
      exact (List.nodup_cons.mp (List.nodup_append.mp honce).2.1).1 hmem
    cases front with
    | nil =>
      obtain rfl : n = first := Option.some.inj hfirst
      simp [endsWithout, hne.symm]
    | cons f front =>
      obtain rfl : f = first := Option.some.inj hfirst
      have hdisjoint := (List.nodup_append.mp honce).2.2 f List.mem_cons_self
      have hfn : f ≠ n := hdisjoint n List.mem_cons_self
      have hflast : f ≠ last := hdisjoint last (List.mem_cons_of_mem n hmem)
      simp [endsWithout, hne, hfn, hflast]

theorem slots_detach (h : p.parent? n = some k) (m : Address) :
    (p.detach n).slots[m]? = p.slots[m]?.map fun s =>
      { s with
        parent := if n = m then none else s.parent
        before := if p.behind? n = some m then p.before? n else if n = m then none else s.before
        behind := if p.before? n = some m then p.behind? n else if n = m then none else s.behind
        ends := if k = m then s.ends.bind (endsWithout n (p.before? n) (p.behind? n)) else s.ends } := by
  rw [detach, h]
  simp only [slots_update, slots_update?]
  cases p.slots[m]? with
  | none => simp
  | some s =>
    simp only [Option.map_some]
    split_ifs <;> simp

theorem Linked.detach (h : p.Linked) (n : Address) : (p.detach n).Linked := by
  cases hparent : p.parent? n with
  | none => rwa [detach_of_loose hparent]
  | some k =>
    obtain ⟨kids, h⟩ := h
    have hn : n ∈ kids k := (h.parent n k).mp hparent
    obtain ⟨front, back, hkids⟩ := List.append_of_mem hn
    obtain ⟨ends, hends, hfirst, hlast⟩ := h.exists_ends hn
    rw [hkids] at hfirst hlast
    have hwithout := endsWithout_eq (hkids ▸ h.once k) hfirst hlast
    have hin (m : Address) (hm : m ∈ front ++ n :: back) : p.slots[m]? ≠ none :=
      slot?_ne_none (h.lt_size (hkids ▸ hm))
    have hslots := slots_detach hparent
    rw [h.before?_eq hkids, h.behind?_eq hkids] at hslots
    have hchange (m : Address) : (p.detach n).ends? m
        = if k = m then (p.ends? m).bind (endsWithout n front.getLast? back.head?) else p.ends? m := by
      rw [ends?, hslots]
      exact link_map (fun ends => if k = m then ends.bind _ else ends) (fun _ => rfl) (by simp)
    refine ⟨_, h.remove hkids (fun m => ?_) (fun m => ?_) (fun m => ?_) (fun m => ?_) fun m => ?_⟩
    · rw [first?, hchange]
      split
      · next hkm => rw [← hkm, hends]; exact hwithout.1
      · rfl
    · rw [last?, hchange]
      split
      · next hkm => rw [← hkm, hends]; exact hwithout.2
      · rfl
    · rw [parent?, hslots]
      exact link_map (fun parent => if n = m then none else parent) (fun _ => rfl) (by simp)
    · rw [before?, hslots]
      refine link_map (fun before => if back.head? = some m then front.getLast? else if n = m then none
        else before) (fun _ => rfl) fun hnone => ?_
      have hhead : back.head? ≠ some m := fun hm =>
        hin m (by simp [List.mem_of_mem_head? hm]) hnone
      simp [hhead]
    · rw [behind?, hslots]
      refine link_map (fun behind => if front.getLast? = some m then back.head? else if n = m then none
        else behind) (fun _ => rfl) fun hnone => ?_
      have hlast : front.getLast? ≠ some m := fun hm =>
        hin m (by simp [List.mem_of_mem_getLast? hm]) hnone
      simp [hlast]

/-! ### Putting a node among others -/

/-- The node may be put below every older one: it stands nowhere, and what stands below an older node is
older. -/
structure Fresh (p : Page) (n : Address) : Prop where
  inPage : n < p.slots.size
  notRoot : root < n
  loose : p.parent? n = none
  older : ∀ m k, p.parent? m = some k → k < n → m < n

theorem slots_append (h : p.parent? n = none) (hlast : p.last? k ≠ some n) (m : Address) :
    (p.append k n).slots[m]? = p.slots[m]?.map fun s =>
      { s with
        parent := if n = m then some k else s.parent
        before := if n = m then p.last? k else s.before
        behind := if n = m then none else if p.last? k = some m then some n else s.behind
        ends := if k = m then some ((s.ends.map (·.1)).getD n, n) else s.ends } := by
  rw [append, detach_of_loose h]
  simp only [slots_update, slots_update?]
  cases p.slots[m]? with
  | none => simp
  | some s =>
    simp only [Option.map_some]
    split_ifs <;> simp_all

theorem slots_insertBefore (h : p.parent? n = none) {sibling : Address}
    (hsibling : p.parent? sibling = some k) (hbefore : p.before? sibling ≠ some n) (m : Address) :
    (p.insertBefore sibling n).slots[m]? = p.slots[m]?.map fun s =>
      { s with
        parent := if n = m then some k else s.parent
        before := if n = m then p.before? sibling else if sibling = m then some n else s.before
        behind := if n = m then some sibling else if p.before? sibling = some m then some n else s.behind
        ends := if k = m then s.ends.map fun ends => (if ends.1 = sibling then n else ends.1, ends.2)
          else s.ends } := by
  rw [insertBefore, detach_of_loose h, hsibling]
  simp only [slots_update, slots_update?]
  cases p.slots[m]? with
  | none => simp
  | some s =>
    simp only [Option.map_some]
    split_ifs <;> simp_all

/-- What is appended to a node is new to its children. -/
theorem Linked.last?_ne (h : p.Linked) (hn : p.parent? n = none) (k : Address) : p.last? k ≠ some n := by
  obtain ⟨kids, h⟩ := h
  rw [h.last]
  exact fun hlast => h.not_mem hn (List.mem_of_mem_getLast? hlast)

theorem Linked.parent?_of_first? (h : p.Linked) (hfirst : p.first? k = some n) : p.parent? n = some k := by
  obtain ⟨kids, h⟩ := h
  exact (h.parent n k).mpr (List.mem_of_mem_head? ((h.first k).symm.trans hfirst))

theorem Linked.parent?_append (h : p.Linked) (hn : p.Fresh n) (k m : Address) :
    (p.append k n).parent? m = if n = m then some k else p.parent? m := by
  unfold parent?
  rw [slots_append hn.loose (h.last?_ne hn.loose k)]
  refine link_map (fun parent => if n = m then some k else parent) (fun _ => rfl) fun hnone => if_neg ?_
  rintro rfl
  exact slot?_ne_none hn.inPage hnone

theorem Linked.append (h : p.Linked) (hn : p.Fresh n) (hk : k < n) : (p.append k n).Linked := by
  have hparent := h.parent?_append hn k
  have hslots := slots_append hn.loose (h.last?_ne hn.loose k)
  obtain ⟨kids, h⟩ := h
  have hends (m : Address) : (p.append k n).ends? m
      = if k = m then some (((p.ends? m).map (·.1)).getD n, n) else p.ends? m := by
    unfold ends?
    rw [hslots]
    refine link_map (fun ends => if k = m then some ((ends.map (·.1)).getD n, n) else ends) ?_ ?_
    · exact fun _ => rfl
    · intro hnone
      refine if_neg ?_
      rintro rfl
      exact slot?_ne_none (Nat.lt_trans hk hn.inPage) hnone
  have hkids : kids k = kids k ++ [] := (List.append_nil _).symm
  refine ⟨_, h.insert hkids hk hn.loose (fun m => ?_) (fun m => ?_) hparent (fun m => ?_) fun m => ?_⟩
  · rw [first?, hends]
    split
    · next hkm =>
      change some ((p.first? m).getD n) = _
      rw [← hkm, h.first]
      cases kids k <;> rfl
    · rfl
  · rw [last?, hends]
    split
    · simp
    · rfl
  · rw [before?, hslots, h.last]
    refine link_map (fun before => if n = m then (kids k).getLast? else before) (fun _ => rfl)
      fun hnone => if_neg ?_
    rintro rfl
    exact slot?_ne_none hn.inPage hnone
  · rw [behind?, hslots, ← h.last]
    refine link_map (fun behind => if n = m then none else if p.last? k = some m then some n else behind)
      (fun _ => rfl) fun hnone => ?_
    have hlast : p.last? k ≠ some m := by
      rw [h.last]
      exact fun hlast => slot?_ne_none (h.lt_size (List.mem_of_mem_getLast? hlast)) hnone
    simp [hlast]

/-- The ends of a list of children once a node has been put before one of them. -/
theorem ends_insertBefore {front back : List Address} {sibling : Address}
    (honce : (front ++ sibling :: back).Nodup) {ends : Address × Address}
    (hfirst : (front ++ sibling :: back).head? = some ends.1)
    (hlast : (front ++ sibling :: back).getLast? = some ends.2) (n : Address) :
    some (if ends.1 = sibling then n else ends.1) = (front ++ n :: sibling :: back).head?
      ∧ some ends.2 = (front ++ n :: sibling :: back).getLast? := by
  obtain ⟨first, last⟩ := ends
  constructor
  · cases front with
    | nil =>
      obtain rfl : sibling = first := Option.some.inj hfirst
      simp
    | cons f front =>
      obtain rfl : f = first := Option.some.inj hfirst
      have hne : f ≠ sibling :=
        (List.nodup_append.mp honce).2.2 f List.mem_cons_self sibling List.mem_cons_self
      simp [hne]
  · rw [List.getLast?_append_of_ne_nil _ (List.cons_ne_nil _ _)] at hlast ⊢
    rw [List.getLast?_cons_cons, hlast]

/-- A node is put before an older one; if that stands nowhere, the node stays out. -/
theorem Linked.insertBefore (h : p.Linked) (hn : p.Fresh n) {sibling : Address} (hsibling : sibling < n) :
    (p.insertBefore sibling n).Linked := by
  cases hparent : p.parent? sibling with
  | none =>
    rw [Page.insertBefore, detach_of_loose hn.loose, hparent]
    exact h
  | some k =>
    obtain ⟨kids, h⟩ := h
    have hmem : sibling ∈ kids k := (h.parent sibling k).mp hparent
    have hk : k < n := Nat.lt_trans (h.younger k sibling hmem) hsibling
    obtain ⟨front, back, hkids⟩ := List.append_of_mem hmem
    obtain ⟨ends, hends, hfirst, hlast⟩ := h.exists_ends hmem
    rw [hkids] at hfirst hlast
    have hinserted := ends_insertBefore (hkids ▸ h.once k) hfirst hlast n
    have hnew : n ∉ kids k := h.not_mem hn.loose
    have hbefore (m : Address) (hm : p.before? sibling = some m) : m ∈ kids k := by
      rw [h.before?_eq hkids] at hm
      exact hkids ▸ List.mem_append_left _ (List.mem_of_mem_getLast? hm)
    have hslots := slots_insertBefore hn.loose hparent fun hm => hnew (hbefore n hm)
    have hinNew (m : Address) (hm : n = m) : p.slots[m]? ≠ none := hm ▸ slot?_ne_none hn.inPage
    have hchange (m : Address) : (p.insertBefore sibling n).ends? m = if k = m then
        (p.ends? m).map fun ends => (if ends.1 = sibling then n else ends.1, ends.2) else p.ends? m := by
      unfold ends?
      rw [hslots]
      refine link_map (fun link : Option (Address × Address) => if k = m then
        link.map fun ends => (if ends.1 = sibling then n else ends.1, ends.2) else link) ?_ ?_
      · exact fun _ => rfl
      · simp
    refine ⟨_, h.insert hkids hk hn.loose (fun m => ?_) (fun m => ?_)
      (fun m => ?_) (fun m => ?_) fun m => ?_⟩
    · rw [first?, hchange]
      split
      · next hkm => rw [← hkm, hends]; exact hinserted.1
      · rfl
    · rw [last?, hchange]
      split
      · next hkm => rw [← hkm, hends]; exact hinserted.2
      · rfl
    · rw [parent?, hslots]
      exact link_map (fun parent => if n = m then some k else parent) (fun _ => rfl)
        fun hnone => if_neg fun hnm => hinNew m hnm hnone
    · rw [before?, hslots, h.before?_eq hkids]
      refine (link_map (fun before => if n = m then front.getLast? else if sibling = m then some n
        else before) (fun _ => rfl) fun hnone => ?_).trans ?_
      · have hne : sibling ≠ m := fun hm => slot?_ne_none (lt_size_of_parent? hparent) (hm ▸ hnone)
        rw [if_neg fun hnm => hinNew m hnm hnone, if_neg hne]
      · simp [before?]
    · rw [behind?, hslots, ← h.before?_eq hkids]
      refine link_map (fun behind => if n = m then some sibling else if p.before? sibling = some m
        then some n else behind) (fun _ => rfl) fun hnone => ?_
      have hbefore : p.before? sibling ≠ some m := fun hm => slot?_ne_none (h.lt_size (hbefore m hm)) hnone
      rw [if_neg fun hnm => hinNew m hnm hnone, if_neg hbefore]

/-! ### Nodes that have just been created -/

theorem Fresh.create (h : p.Fresh n) (label : Node) : (p.create label).2.Fresh n where
  inPage := by
    rw [Page.create, Array.size_push]
    exact Nat.lt_succ_of_lt h.inPage
  notRoot := h.notRoot
  loose := (p.parent?_create label n).trans h.loose
  older m k hparent := h.older m k ((p.parent?_create label m).symm.trans hparent)

theorem fresh_create (hroot : root < p.slots.size) (label : Node) :
    (p.create label).2.Fresh (p.create label).1 where
  inPage := by
    rw [Page.create, Array.size_push]
    exact Nat.lt_succ_self _
  notRoot := hroot
  loose := by
    rw [parent?_create, Page.create, parent?, Array.getElem?_eq_none (Nat.le_refl _)]
    rfl
  older m k hparent _ := by
    rw [parent?_create] at hparent
    exact lt_size_of_parent? hparent

/-- What has been put below a node leaves it as fresh as before. -/
theorem Fresh.append_below (hn : p.Fresh n) (h : p.Linked) (hm : p.Fresh m) (hnm : n < m) :
    (p.append n m).Fresh n where
  inPage := by simp [append, detach_of_loose hm.loose, hn.inPage]
  notRoot := hn.notRoot
  loose := by rw [h.parent?_append hm, if_neg (Nat.ne_of_gt hnm), hn.loose]
  older x k hparent hk := by
    rw [h.parent?_append hm] at hparent
    split at hparent
    · obtain rfl := Option.some.inj hparent
      exact absurd hk (Nat.lt_irrefl _)
    · exact hn.older x k hparent hk

theorem Linked.appendText (h : p.Linked) (hk : k < p.slots.size) (content : String) :
    (p.appendText k content).Linked := by
  have hroot : root < p.slots.size := Nat.lt_of_le_of_lt (Nat.zero_le k) hk
  have hnew := (h.create (.text content)).append (fresh_create hroot _) hk
  unfold Page.appendText
  cases p.last? k with
  | none => exact hnew
  | some last =>
    dsimp only
    split
    · exact h.extendText last content
    · exact hnew

theorem Linked.insertTextBefore (h : p.Linked) (sibling : Address) (content : String) :
    (p.insertTextBefore sibling content).Linked := by
  have hnew (hparent : p.parent? sibling ≠ none) :
      ((p.create (.text content)).2.insertBefore sibling (p.create (.text content)).1).Linked := by
    obtain ⟨k, hparent⟩ := Option.ne_none_iff_exists'.mp hparent
    have hsibling := lt_size_of_parent? hparent
    exact (h.create _).insertBefore
      (fresh_create (Nat.lt_of_le_of_lt (Nat.zero_le sibling) hsibling) _) hsibling
  unfold Page.insertTextBefore
  split
  · exact h
  · next hparent _ =>
    split
    · exact h.extendText _ content
    · exact hnew (by simp [hparent])
  · next hparent _ => exact hnew (by simp [hparent])

/-! ## From lists of children to a forest -/

/-- The second node is the first one, or the way up from the first one leads to it. -/
def Under (p : Page) : Address → Address → Prop := Relation.ReflTransGen fun n k => p.parent? n = some k

namespace LinkedBy

theorem le_of_under (h : p.LinkedBy kids) (hunder : p.Under n k) : k ≤ n := by
  induction hunder with
  | refl => exact Nat.le_refl n
  | tail _ hparent ih => exact Nat.le_trans (Nat.le_of_lt (h.younger _ _ ((h.parent _ _).mp hparent))) ih

/-- Of two children of a node neither stands under the other. -/
theorem eq_of_under (h : p.LinkedBy kids) (hn : n ∈ kids k) (hm : m ∈ kids k) (hunder : p.Under n m) :
    n = m := by
  rcases hunder.cases_head with rfl | ⟨k', hparent, hunder⟩
  · rfl
  · obtain rfl := h.eq_of_mem hn ((h.parent n k').mp hparent)
    exact absurd (h.le_of_under hunder) (Nat.not_le_of_lt (h.younger k' m hm))

/-- No node stands under two children of another one. -/
theorem eq_of_under_of_under (h : p.LinkedBy kids) {x : Address} (hn : n ∈ kids k) (hm : m ∈ kids k)
    (hxn : p.Under x n) (hxm : p.Under x m) : n = m := by
  have hunique : Relator.RightUnique fun n k => p.parent? n = some k :=
    fun _ _ _ hk hk' => Option.some.inj (hk.symm.trans hk')
  rcases hxn.total_of_right_unique hunique hxm with hunder | hunder
  · exact h.eq_of_under hn hm hunder
  · exact (h.eq_of_under hm hn hunder).symm

/-- The forest has some of the children of a node side by side, each with what stands under it. -/
structure LaysOut (p : Page) (k : Address) (l : List Address) (f : Forest) : Prop where
  tops : f.tops = l
  follows : p.Follows k f
  once : f.addresses.Nodup
  under : ∀ x ∈ f.addresses, ∃ n ∈ l, p.Under x n

theorem LaysOut.first?_eq {l : List Address} {f : Forest} (hf : LaysOut p k l f) : f.first? = l.head? := by
  rw [← hf.tops]
  cases f <;> rfl

/-- From the last children of a node to the first: each gets the forest of its own children. -/
theorem exists_laysOut_of_append (h : p.LinkedBy kids)
    (hbelow : ∀ n ∈ kids k, ∃ f, LaysOut p n (kids n) f) {front l : List Address} (hl : kids k = front ++ l) :
    ∃ f, LaysOut p k l f := by
  induction l generalizing front with
  | nil => exact ⟨.empty, rfl, trivial, .nil, by simp [Forest.addresses]⟩
  | cons n rest ih =>
    have hn : n ∈ kids k := hl ▸ List.mem_append_right _ List.mem_cons_self
    have hrest (m : Address) (hm : m ∈ rest) : m ∈ kids k :=
      hl ▸ List.mem_append_right _ (List.mem_cons_of_mem n hm)
    have hnrest : n ∉ rest := (List.nodup_cons.mp (List.nodup_append.mp (hl ▸ h.once k)).2.1).1
    have hparent (m : Address) (hm : m ∈ kids n) : p.Under m n := .single ((h.parent m n).mpr hm)
    obtain ⟨below, hbelow⟩ := hbelow n hn
    have hback : kids k = (front ++ [n]) ++ rest := by rw [hl, List.append_assoc]; rfl
    obtain ⟨behind, hbehind⟩ := ih hback
    have hbelowUnder (x : Address) (hx : x ∈ below.addresses) : p.Under x n ∧ n < x := by
      obtain ⟨m, hm, hunder⟩ := hbelow.under x hx
      exact ⟨hunder.trans (hparent m hm), Nat.lt_of_lt_of_le (h.younger n m hm) (h.le_of_under hunder)⟩
    -- What stands under the first node stands under none of the others.
    have hapart (x : Address) (hx : p.Under x n) : x ∉ behind.addresses := by
      intro hxbehind
      obtain ⟨m, hm, hunder⟩ := hbehind.under x hxbehind
      exact hnrest (h.eq_of_under_of_under hn (hrest m hm) hx hunder ▸ hm)
    refine ⟨.node n below behind, congrArg (n :: ·) hbehind.tops, ?follows, ?once, ?under⟩
    case follows =>
      refine ⟨?_, ?_, fun _ => (h.parent n k).mpr hn, hbelow.follows, hbehind.follows⟩
      · rw [h.first, hbelow.first?_eq]
      · rw [h.behind?_eq hl, hbehind.first?_eq]
    case once =>
      refine List.nodup_cons.mpr ⟨fun hmem => ?_, List.nodup_append.mpr ⟨hbelow.once, hbehind.once, ?_⟩⟩
      · rcases List.mem_append.mp hmem with hmem | hmem
        · exact absurd (hbelowUnder n hmem).2 (Nat.lt_irrefl n)
        · exact hapart n .refl hmem
      · rintro x hx y hy rfl
        exact hapart x (hbelowUnder x hx).1 hy
    case under =>
      intro x hx
      rcases List.mem_cons.mp hx with rfl | hx
      · exact ⟨x, List.mem_cons_self, .refl⟩
      · rcases List.mem_append.mp hx with hx | hx
        · exact ⟨n, List.mem_cons_self, (hbelowUnder x hx).1⟩
        · obtain ⟨m, hm, hunder⟩ := hbehind.under x hx
          exact ⟨m, List.mem_cons_of_mem n hm, hunder⟩

/-- The lists of children, laid out as a forest. Going down the addresses grow, and they are bounded by the
number of nodes. -/
theorem exists_laysOut (h : p.LinkedBy kids) (k : Address) : ∃ f, LaysOut p k (kids k) f := by
  induction hleft : p.slots.size - k using Nat.strongRecOn generalizing k with
  | ind left ih =>
    refine h.exists_laysOut_of_append (fun n hn => ?_) (List.nil_append _).symm
    have hkn := h.younger k n hn
    have hless : p.slots.size - n < left :=
      hleft ▸ Nat.sub_lt_sub_left (Nat.lt_trans hkn (h.lt_size hn)) hkn
    exact ih _ hless n rfl

end LinkedBy

/-- Where links are in step, they agree below every node. -/
theorem Linked.agree (h : p.Linked) (hn : n < p.slots.size) : p.Agree n := by
  obtain ⟨kids, h⟩ := h
  obtain ⟨f, hf⟩ := h.exists_laysOut n
  refine ⟨f, hn, ?_, hf.follows, List.nodup_cons.mpr ⟨fun hmem => ?_, hf.once⟩⟩
  · rw [h.first, hf.first?_eq]
  · obtain ⟨m, hm, hunder⟩ := hf.under n hmem
    exact absurd (h.le_of_under hunder) (Nat.not_le_of_lt (h.younger n m hm))

end Page

end Gleaner.Html
