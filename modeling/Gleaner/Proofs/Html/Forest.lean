import Gleaner.Html.Cursor
import Mathlib.Data.List.Nodup
import Mathlib.Data.List.Perm.Subperm
import Mathlib.Logic.Relation

set_option autoImplicit false

/-! # Pages whose links agree

What stands below a node, and in which order, is a matter of two links: to the first child and to the
sibling behind. `Page.Below` and `Page.Precedes` say it in terms of these two alone. A walk uses a third
link as well, the one to the parent, to come up again from the last of several siblings.

The nodes below a node, laid out by the first two links, are a `Forest`. The links below a node agree if
they form a forest in which no node occurs twice and the last of all siblings knows its parent:
`Page.Agree`. Then the walk is the one around the forest (`Page.Agreement.walk_eq`), so it enters the nodes
below, each once and in the order of the page.

The links agree throughout a page that is read without splitting formatting (`Page.IsReadTidily.agree`). -/

namespace Gleaner.Html

deriving instance DecidableEq for Slot
deriving instance DecidableEq for Page
deriving instance DecidableEq for Cursor

/-! ## Below and before -/

namespace Page

variable (p : Page)

/-- The second node stands behind the first one, among the same siblings. -/
def Behind : Address → Address → Prop := Relation.TransGen fun m n => p.behind? m = some n

/-- The second node is a child of the first one: the first child, or one that stands behind it. -/
def Child (n m : Address) : Prop := ∃ first, p.first? n = some first ∧ (first = m ∨ p.Behind first m)

/-- The second node stands below the first one. -/
def Below : Address → Address → Prop := Relation.TransGen p.Child

/-- The second node is the first one or stands below it. -/
def Within : Address → Address → Prop := Relation.ReflTransGen p.Child

/-- The order of a page: a node comes before everything below it, and it comes, with what is below it,
before the siblings behind it and what is below these. -/
def Precedes (m n : Address) : Prop :=
  p.Below m n ∨ ∃ u v, p.Behind u v ∧ p.Within u m ∧ p.Within v n

variable {p}

theorem within_iff {n m : Address} : p.Within n m ↔ m = n ∨ p.Below n m := by
  rw [Within, Below, Relation.reflTransGen_iff_eq_or_transGen]

/-- What stands behind a node is the next sibling, or stands behind that. -/
theorem behind_iff {m n : Address} :
    p.Behind m n ↔ ∃ next, p.behind? m = some next ∧ (next = n ∨ p.Behind next n) := by
  rw [Behind, Relation.TransGen.head'_iff]
  simp only [Relation.reflTransGen_iff_eq_or_transGen, eq_comm (a := n)]

/-- What stands below a node stands within one of its children. -/
theorem below_iff {n m : Address} : p.Below n m ↔ ∃ c, p.Child n c ∧ p.Within c m :=
  Relation.TransGen.head'_iff

theorem siblingsFrom_none (link : Address → Option Address) (more : Nat) :
    siblingsFrom link more none = [] := by
  cases more <;> rfl

theorem eq_or_behind_of_mem_siblingsFrom {more first m : Nat}
    (h : m ∈ siblingsFrom p.behind? more (some first)) : first = m ∨ p.Behind first m := by
  induction more generalizing first with
  | zero => simp [siblingsFrom] at h
  | succ more ih =>
    rw [siblingsFrom, List.mem_cons] at h
    obtain rfl | h := h
    · exact .inl rfl
    · cases hnext : p.behind? first with
      | none => simp [hnext, siblingsFrom_none] at h
      | some next => exact .inr (behind_iff.mpr ⟨next, hnext, ih (hnext ▸ h)⟩)

/-- What is listed among the children of a node is a child of it. -/
theorem child_of_mem_children {n m : Address} (h : m ∈ p.children n) : p.Child n m := by
  cases hfirst : p.first? n with
  | none => simp [children, hfirst, siblingsFrom_none] at h
  | some first =>
    rw [children, hfirst] at h
    exact ⟨first, hfirst, eq_or_behind_of_mem_siblingsFrom h⟩

/-- What a way down through listed children comes upon stands below the node it starts from. -/
theorem below_of_isChain {n : Address} {way : List Address}
    (h : (n :: way).IsChain fun k m => m ∈ p.children k) : ∀ m ∈ way, p.Below n m := by
  induction way generalizing n with
  | nil => simp
  | cons c rest ih =>
    obtain ⟨hc, hrest⟩ := List.isChain_cons_cons.mp h
    have hchild : p.Child n c := child_of_mem_children hc
    intro m hm
    rcases List.mem_cons.mp hm with rfl | hm
    · exact .single hchild
    · exact .head hchild (ih hrest m hm)

end Page

/-! ## Forests -/

/-- Nodes side by side, each with the nodes below it: the first node with the forest below it and the
forest behind it. -/
inductive Forest where
  | empty
  | node (address : Address) (below behind : Forest)
  deriving DecidableEq, Repr

namespace Forest

/-- The first of the nodes that stand side by side. -/
def first? : Forest → Option Address
  | empty => none
  | node n _ _ => some n

/-- All nodes, in order. -/
def addresses : Forest → List Address
  | empty => []
  | node n below behind => n :: (below.addresses ++ behind.addresses)

/-- The nodes that stand side by side. -/
def tops : Forest → List Address
  | empty => []
  | node n _ behind => n :: behind.tops

/-- The walk around all nodes. -/
def steps : Forest → List Step
  | empty => []
  | node n below behind => .enter n :: (below.steps ++ .leave n :: behind.steps)

/-- The first step of a walk around the nodes below a node: where there are none, the node is left. -/
def entry (above : Address) (f : Forest) : Step := (f.first?.map Step.enter).getD (.leave above)

/-- The node stands in the forest, with the other forest below it. -/
def Has : Forest → Address → Forest → Prop
  | empty, _, _ => False
  | node m below behind, n, f => (m = n ∧ below = f) ∨ below.Has n f ∨ behind.Has n f

theorem length_steps (f : Forest) : f.steps.length = 2 * f.addresses.length := by
  induction f with
  | empty => rfl
  | node n below behind ihBelow ihBehind =>
    simp only [steps, addresses, List.length_cons, List.length_append, ihBelow, ihBehind]
    omega

theorem length_tops_le (f : Forest) : f.tops.length ≤ f.addresses.length := by
  induction f with
  | empty => exact Nat.le_refl 0
  | node n below behind _ ihBehind =>
    rw [tops, addresses, List.length_cons, List.length_cons, List.length_append]
    omega

/-- A walk enters the nodes in their order. -/
theorem filterMap_steps {α : Type} (g : Address → α) (f : Forest) :
    (f.steps.filterMap fun | .enter n => some (g n) | .leave _ => none) = f.addresses.map g := by
  induction f with
  | empty => rfl
  | node n below behind ihBelow ihBehind =>
    simp only [steps, addresses, List.filterMap_cons, List.filterMap_append, List.map_cons,
      List.map_append, ihBelow, ihBehind]

theorem mem_addresses_iff {f : Forest} {n : Address} : n ∈ f.addresses ↔ ∃ g, f.Has n g := by
  induction f with
  | empty => simp [addresses, Has]
  | node m below behind ihBelow ihBehind =>
    simp only [addresses, List.mem_cons, List.mem_append, ihBelow, ihBehind, Has]
    constructor
    · rintro (rfl | ⟨g, hg⟩ | ⟨g, hg⟩)
      · exact ⟨below, .inl ⟨rfl, rfl⟩⟩
      · exact ⟨g, .inr (.inl hg)⟩
      · exact ⟨g, .inr (.inr hg)⟩
    · rintro ⟨g, ⟨rfl, -⟩ | hg | hg⟩
      · exact .inl rfl
      · exact .inr (.inl ⟨g, hg⟩)
      · exact .inr (.inr ⟨g, hg⟩)

/-- A node is followed right away by the nodes below it. -/
theorem Has.infix {f g : Forest} {n : Address} (h : f.Has n g) :
    n :: g.addresses <:+: f.addresses := by
  induction f with
  | empty => exact h.elim
  | node m below behind ihBelow ihBehind =>
    obtain ⟨rfl, rfl⟩ | h | h := h
    · exact ⟨[], behind.addresses, by simp [addresses]⟩
    · obtain ⟨before, after, heq⟩ := ihBelow h
      exact ⟨m :: before, after ++ behind.addresses, by simp [addresses, ← heq]⟩
    · obtain ⟨before, after, heq⟩ := ihBehind h
      exact ⟨m :: (below.addresses ++ before), after, by simp [addresses, ← heq]⟩

end Forest

/-! ## Forests in a page -/

namespace Page

variable (p : Page)

/-- The links of the page are those of a forest that stands below a node. Of the siblings only the last
one has to know the way up. -/
def Follows (above : Address) : Forest → Prop
  | .empty => True
  | .node n below behind =>
    p.first? n = below.first? ∧ p.behind? n = behind.first?
      ∧ (behind = .empty → p.parent? n = some above)
      ∧ Follows n below ∧ Follows above behind

instance decidableFollows (above : Address) : (f : Forest) → Decidable (p.Follows above f)
  | .empty => inferInstanceAs (Decidable True)
  | .node n below behind =>
    have := decidableFollows n below
    have := decidableFollows above behind
    inferInstanceAs (Decidable (_ ∧ _ ∧ _ ∧ _ ∧ _))

/-- The forest is what the page has below a node. -/
structure Agreement (n : Address) (f : Forest) : Prop where
  inPage : n < p.slots.size
  first : p.first? n = f.first?
  follows : p.Follows n f
  once : (n :: f.addresses).Nodup

/-- The links below a node agree. -/
def Agree (n : Address) : Prop := ∃ f, p.Agreement n f

variable {p}

/-! ## What a forest says of the page -/

theorem lt_size_of_behind? {n m : Address} (h : p.behind? n = some m) : n < p.slots.size := by
  obtain ⟨slot, hslot, -⟩ := Option.bind_eq_some_iff.mp h
  exact (Array.getElem?_eq_some_iff.mp hslot).1

theorem lt_size_of_parent? {n m : Address} (h : p.parent? n = some m) : n < p.slots.size := by
  obtain ⟨slot, hslot, -⟩ := Option.bind_eq_some_iff.mp h
  exact (Array.getElem?_eq_some_iff.mp hslot).1

theorem Follows.lt_size {above : Address} {f : Forest} (h : p.Follows above f) :
    ∀ n ∈ f.addresses, n < p.slots.size := by
  induction f generalizing above with
  | empty => simp [Forest.addresses]
  | node m below behind ihBelow ihBehind =>
    obtain ⟨-, hbehind, hlast, hfollows, hfollows'⟩ := h
    intro n hn
    obtain rfl | hn := List.mem_cons.mp hn
    · cases behind with
      | empty => exact lt_size_of_parent? (hlast rfl)
      | node sibling _ _ => exact lt_size_of_behind? hbehind
    · rcases List.mem_append.mp hn with hn | hn
      · exact ihBelow hfollows n hn
      · exact ihBehind hfollows' n hn

/-- The nodes side by side in a forest are its first node and the siblings behind that. -/
theorem Follows.mem_tops_iff {above : Address} {f : Forest} (h : p.Follows above f) {m : Address} :
    m ∈ f.tops ↔ ∃ first, f.first? = some first ∧ (first = m ∨ p.Behind first m) := by
  induction f generalizing above with
  | empty => simp [Forest.tops, Forest.first?]
  | node n below behind _ ihBehind =>
    obtain ⟨-, hbehind, -, -, hfollows'⟩ := h
    rw [Forest.tops, List.mem_cons, ihBehind hfollows', ← hbehind, ← behind_iff]
    simp [Forest.first?, eq_comm]

theorem Follows.pairwise_behind {above : Address} {f : Forest} (h : p.Follows above f) :
    f.tops.Pairwise p.Behind := by
  induction f generalizing above with
  | empty => exact .nil
  | node n below behind _ ihBehind =>
    obtain ⟨-, hbehind, -, -, hfollows'⟩ := h
    refine .cons (fun m hm => behind_iff.mpr ?_) (ihBehind hfollows')
    rw [hbehind]
    exact hfollows'.mem_tops_iff.mp hm

/-- The links from sibling to sibling lead along the nodes side by side. -/
theorem Follows.siblingsFrom_eq {above : Address} {f : Forest} (h : p.Follows above f) {more : Nat}
    (hmore : f.tops.length ≤ more) : siblingsFrom p.behind? more f.first? = f.tops := by
  induction f generalizing above more with
  | empty => exact siblingsFrom_none p.behind? more
  | node n below behind _ ihBehind =>
    obtain ⟨-, hbehind, -, -, hfollows'⟩ := h
    rw [Forest.tops, List.length_cons] at hmore
    obtain ⟨more, rfl⟩ : ∃ k, more = k + 1 := ⟨more - 1, by omega⟩
    rw [Forest.first?, siblingsFrom, hbehind, ihBehind hfollows' (by omega), Forest.tops]

/-- The nodes of a forest are those within its first node and the siblings behind that. -/
theorem Follows.mem_addresses_iff {above : Address} {f : Forest} (h : p.Follows above f) {m : Address} :
    m ∈ f.addresses
      ↔ ∃ first c, f.first? = some first ∧ (first = c ∨ p.Behind first c) ∧ p.Within c m := by
  induction f generalizing above with
  | empty => simp [Forest.addresses, Forest.first?]
  | node n below behind ihBelow ihBehind =>
    obtain ⟨hfirst, hbehind, -, hfollows, hfollows'⟩ := h
    have hwithin : p.Within n m ↔ m = n ∨ m ∈ below.addresses := by
      rw [within_iff, below_iff, ihBelow hfollows, ← hfirst]
      simp only [Child]
      grind
    have hsiblings : (∃ c, p.Behind n c ∧ p.Within c m) ↔ m ∈ behind.addresses := by
      rw [ihBehind hfollows', ← hbehind]
      simp only [behind_iff (m := n)]
      grind
    rw [Forest.addresses, List.mem_cons, List.mem_append, ← or_assoc, ← hwithin, ← hsiblings]
    simp [Forest.first?, or_and_right, exists_or]

/-- The nodes of a forest that starts with the first child of a node are those below that node. -/
theorem Follows.mem_addresses_iff_below {n : Address} {f : Forest} (h : p.Follows n f)
    (hfirst : p.first? n = f.first?) {m : Address} : m ∈ f.addresses ↔ p.Below n m := by
  rw [h.mem_addresses_iff, below_iff, ← hfirst]
  simp only [Child]
  grind

/-- The nodes of a forest are listed in the order of the page. -/
theorem Follows.pairwise_precedes {above : Address} {f : Forest} (h : p.Follows above f) :
    f.addresses.Pairwise p.Precedes := by
  induction f generalizing above with
  | empty => exact .nil
  | node n below behind ihBelow ihBehind =>
    obtain ⟨hfirst, hbehind, -, hfollows, hfollows'⟩ := h
    have hbelow (x : Address) (hx : x ∈ below.addresses) : p.Below n x :=
      (hfollows.mem_addresses_iff_below hfirst).mp hx
    have hsibling (y : Address) (hy : y ∈ behind.addresses) : ∃ v, p.Behind n v ∧ p.Within v y := by
      obtain ⟨next, v, hnext, hv, hwithin⟩ := hfollows'.mem_addresses_iff.mp hy
      exact ⟨v, behind_iff.mpr ⟨next, hbehind.trans hnext, hv⟩, hwithin⟩
    rw [Forest.addresses, List.pairwise_cons, List.pairwise_append]
    refine ⟨fun x hx => ?_, ihBelow hfollows, ihBehind hfollows', fun x hx y hy => ?_⟩
    · rcases List.mem_append.mp hx with hx | hx
      · exact .inl (hbelow x hx)
      · obtain ⟨v, hv, hwithin⟩ := hsibling x hx
        exact .inr ⟨n, v, hv, .refl, hwithin⟩
    · obtain ⟨v, hv, hwithin⟩ := hsibling y hy
      exact .inr ⟨n, v, hv, within_iff.mpr (.inr (hbelow x hx)), hwithin⟩

/-- The links at a node of a forest are those of the forest below it. -/
theorem Follows.of_has {above n : Address} {f g : Forest} (h : p.Follows above f) (hhas : f.Has n g) :
    p.first? n = g.first? ∧ p.Follows n g := by
  induction f generalizing above with
  | empty => exact hhas.elim
  | node m below behind ihBelow ihBehind =>
    obtain ⟨hfirst, -, -, hfollows, hfollows'⟩ := h
    obtain ⟨rfl, rfl⟩ | hhas | hhas := hhas
    · exact ⟨hfirst, hfollows⟩
    · exact ihBelow hfollows hhas
    · exact ihBehind hfollows' hhas

/-! ## Links that agree -/

/-- The forest that the first two links lead to, so many of them far. -/
def forest (p : Page) : Nat → Option Address → Forest
  | 0, _ | _, none => .empty
  | more + 1, some n => .node n (p.forest more (p.first? n)) (p.forest more (p.behind? n))

theorem Follows.forest_eq {above : Address} {f : Forest} (h : p.Follows above f) {more : Nat}
    (hmore : f.addresses.length ≤ more) : p.forest more f.first? = f := by
  induction f generalizing above more with
  | empty => cases more <;> rfl
  | node n below behind ihBelow ihBehind =>
    obtain ⟨hfirst, hbehind, -, hfollows, hfollows'⟩ := h
    rw [Forest.addresses, List.length_cons, List.length_append] at hmore
    obtain ⟨more, rfl⟩ : ∃ k, more = k + 1 := ⟨more - 1, by omega⟩
    rw [Forest.first?, forest, hfirst, hbehind, ihBelow hfollows (by omega),
      ihBehind hfollows' (by omega)]

variable {n : Address} {f : Forest}

/-- The page has room for the nodes of a forest. -/
theorem Agreement.length_addresses_lt (h : p.Agreement n f) : f.addresses.length < p.slots.size := by
  have hsubset : n :: f.addresses ⊆ List.range p.slots.size := by
    intro m hm
    rw [List.mem_range]
    obtain rfl | hm := List.mem_cons.mp hm
    · exact h.inPage
    · exact h.follows.lt_size m hm
  have hlength := (List.subperm_of_subset h.once hsubset).length_le
  rwa [List.length_range] at hlength

/-- Whether links agree shows in the forest that they lead to. -/
theorem agree_iff : p.Agree n ↔ p.Agreement n (p.forest p.slots.size (p.first? n)) := by
  refine ⟨fun ⟨f, hf⟩ => ?_, fun h => ⟨_, h⟩⟩
  rwa [hf.first, hf.follows.forest_eq (Nat.le_of_lt hf.length_addresses_lt)]

instance (p : Page) (n : Address) : Decidable (p.Agree n) :=
  let f := p.forest p.slots.size (p.first? n)
  have hparts : (n < p.slots.size ∧ p.first? n = f.first? ∧ p.Follows n f ∧ (n :: f.addresses).Nodup)
      ↔ p.Agree n :=
    ⟨fun ⟨inPage, first, follows, once⟩ => ⟨f, inPage, first, follows, once⟩,
      fun h => let ⟨inPage, first, follows, once⟩ := agree_iff.mp h; ⟨inPage, first, follows, once⟩⟩
  decidable_of_iff _ hparts

theorem Agreement.mem_addresses_iff (h : p.Agreement n f) {m : Address} :
    m ∈ f.addresses ↔ p.Below n m :=
  h.follows.mem_addresses_iff_below h.first

/-- The children of a node stand side by side. -/
theorem Agreement.children_eq (h : p.Agreement n f) : p.children n = f.tops := by
  have hlength : f.tops.length ≤ p.slots.size :=
    Nat.le_trans f.length_tops_le (Nat.le_of_lt h.length_addresses_lt)
  rw [children, h.first, h.follows.siblingsFrom_eq hlength]

theorem Agreement.mem_children_iff (h : p.Agreement n f) {m : Address} :
    m ∈ p.children n ↔ p.Child n m := by
  rw [h.children_eq, h.follows.mem_tops_iff, ← h.first]
  rfl

theorem Agreement.pairwise_precedes (h : p.Agreement n f) : f.addresses.Pairwise p.Precedes :=
  h.follows.pairwise_precedes

/-- What agrees below a node agrees below all nodes there. -/
theorem Agreement.of_has (h : p.Agreement n f) {m : Address} {g : Forest} (hhas : f.Has m g) :
    p.Agreement m g := by
  obtain ⟨hfirst, hfollows⟩ := h.follows.of_has hhas
  have hmem : m ∈ f.addresses := Forest.mem_addresses_iff.mpr ⟨g, hhas⟩
  have honce : f.addresses.Nodup := (List.nodup_cons.mp h.once).2
  exact ⟨h.follows.lt_size m hmem, hfirst, hfollows, hhas.infix.sublist.nodup honce⟩

/-- The nodes below a node stand in one piece among those below a node above it, and no others there
stand below it. -/
theorem Agreement.exists_of_within (h : p.Agreement n f) {m : Address} (hm : p.Within n m) :
    ∃ g before after, p.Agreement m g ∧ f.addresses = before ++ g.addresses ++ after
      ∧ ∀ x ∈ before ++ after, ¬ p.Below m x := by
  rcases within_iff.mp hm with rfl | hbelow
  · exact ⟨f, [], [], h, by simp, by simp⟩
  · obtain ⟨g, hhas⟩ := Forest.mem_addresses_iff.mp (h.mem_addresses_iff.mpr hbelow)
    have hg := h.of_has hhas
    obtain ⟨before, after, heq⟩ := hhas.infix
    have honce : (before ++ m :: g.addresses ++ after).Nodup := heq ▸ (List.nodup_cons.mp h.once).2
    refine ⟨g, before ++ [m], after, hg, by simp [← heq], fun x hx => ?_⟩
    rw [← hg.mem_addresses_iff]
    grind

theorem Agree.of_within (h : p.Agree n) {m : Address} (hm : p.Within n m) : p.Agree m := by
  obtain ⟨f, hf⟩ := h
  obtain ⟨g, -, -, hg, -⟩ := hf.exists_of_within hm
  exact ⟨g, hg⟩

/-! ## The walk -/

theorem next?_enter {start n : Address} {below : Forest} (h : p.first? n = below.first?) :
    p.next? start (.enter n) = some (below.entry n) := by
  rw [next?, h, Forest.entry]

theorem next?_leave {start n above : Address} {behind : Forest} (hne : n ≠ start)
    (hbehind : p.behind? n = behind.first?) (hlast : behind = .empty → p.parent? n = some above) :
    p.next? start (.leave n) = some (behind.entry above) := by
  rw [next?, if_neg hne, hbehind]
  cases behind with
  | empty =>
    rw [hlast rfl]
    rfl
  | node sibling _ _ => rfl

/-- A walk that comes upon a forest goes around it and comes out at the node above. -/
theorem stepsFrom_entry {start above : Address} {f : Forest} (h : p.Follows above f)
    (hstart : start ∉ f.addresses) (more : Nat) :
    p.stepsFrom start (f.steps.length + more) (f.entry above)
      = f.steps ++ p.stepsFrom start more (.leave above) := by
  induction f generalizing above more with
  | empty =>
    rw [Forest.steps, List.length_nil, Nat.zero_add]
    rfl
  | node n below behind ihBelow ihBehind =>
    obtain ⟨hfirst, hbehind, hlast, hfollows, hfollows'⟩ := h
    simp only [Forest.addresses, List.mem_cons, List.mem_append, not_or] at hstart
    obtain ⟨hne, hstartBelow, hstartBehind⟩ := hstart
    have hlength : (Forest.node n below behind).steps.length + more
        = (below.steps.length + (behind.steps.length + more + 1)) + 1 := by
      simp only [Forest.steps, List.length_cons, List.length_append]
      omega
    have hentry : (Forest.node n below behind).entry above = .enter n := rfl
    rw [hlength, hentry, stepsFrom, next?_enter hfirst]
    dsimp only
    rw [ihBelow hfollows hstartBelow, stepsFrom, next?_leave (Ne.symm hne) hbehind hlast]
    dsimp only
    rw [ihBehind hfollows' hstartBehind, Forest.steps, List.cons_append, List.append_assoc,
      List.cons_append]

/-- The walk from a node goes around the forest below it. -/
theorem Agreement.walk_eq (h : p.Agreement n f) : p.walk n = .enter n :: (f.steps ++ [.leave n]) := by
  have hlt := h.length_addresses_lt
  obtain ⟨more, hmore⟩ : ∃ more, 2 * p.slots.size = f.steps.length + (more + 1) + 1 :=
    ⟨2 * p.slots.size - f.steps.length - 2, by rw [f.length_steps]; omega⟩
  have hleave : p.stepsFrom n (more + 1) (.leave n) = [.leave n] := by
    rw [stepsFrom, next?, if_pos rfl]
  rw [walk, hmore, stepsFrom, next?_enter h.first]
  dsimp only
  rw [stepsFrom_entry h.follows (List.nodup_cons.mp h.once).1, hleave]

/-- The walk from a node enters what stands below it. -/
theorem Agreement.descendants_eq (h : p.Agreement n f) :
    (Cursor.mk p n).descendants = f.addresses.map (Cursor.mk p) := by
  have hsteps := f.filterMap_steps (Cursor.mk p)
  simp only [Cursor.descendants, h.walk_eq, List.drop_one, List.tail_cons, List.filterMap_append]
  exact (congrArg (· ++ []) hsteps).trans (List.append_nil _)

/-! ## Nodes of a kind -/

/-- All nodes of a kind that stand below a node, each once, in the order of the page. -/
structure Lists (p : Page) (n : Address) (kind : Cursor → Prop) (cs : List Cursor) : Prop where
  mem_iff : ∀ c, c ∈ cs ↔ c.page = p ∧ p.Below n c.address ∧ kind c
  inOrder : cs.Pairwise fun c c' => p.Precedes c.address c'.address
  once : cs.Nodup

/-- The walk from a node lists what stands below it. -/
theorem Agreement.lists (h : p.Agreement n f) (kind : Cursor → Bool) :
    p.Lists n (kind · = true) ((Cursor.mk p n).descendants.filter kind) := by
  rw [h.descendants_eq]
  constructor
  · intro c
    obtain ⟨page, m⟩ := c
    rw [List.mem_filter, List.mem_map]
    constructor
    · rintro ⟨⟨m', hm, heq⟩, hkind⟩
      cases heq
      exact ⟨rfl, h.mem_addresses_iff.mp hm, hkind⟩
    · rintro ⟨rfl, hm, hkind⟩
      exact ⟨⟨m, h.mem_addresses_iff.mpr hm, rfl⟩, hkind⟩
  · have hall : (f.addresses.map (Cursor.mk p)).Pairwise fun c c' => p.Precedes c.address c'.address :=
      List.pairwise_map.mpr h.pairwise_precedes
    exact hall.filter _
  · have hinjective : Function.Injective (Cursor.mk p) := fun m m' heq => (Cursor.mk.inj heq).2
    exact ((List.nodup_cons.mp h.once).2.map hinjective).filter _

end Page

end Gleaner.Html
