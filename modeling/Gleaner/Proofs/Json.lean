import Gleaner.Json.Reader
import Gleaner.Proofs.Dictionary

set_option autoImplicit false

/-! # Induction on JSON values, and the order of their members

`Json.induction` packages the recursion through items and members once, so that a proof about a
value sees what it has for each item and for the value of each member. The second part is on
`Json.Ordered`: what it says of items and members, and that every value that is read from a text is
ordered (`Json.ordered_of_read`). -/

namespace Gleaner.Json

/-! ## Induction -/

/-- Induction on a value; what holds of every item and of every member's value is at hand. -/
@[induction_eliminator]
theorem induction {motive : Json → Prop} (null : motive .null) (bool : ∀ b, motive (.bool b))
    (num : ∀ n, motive (.num n)) (str : ∀ s, motive (.str s))
    (arr : ∀ items, (∀ item ∈ items, motive item) → motive (.arr items))
    (obj : ∀ members, (∀ m ∈ members, motive m.2) → motive (.obj members)) : ∀ v, motive v
  | .null => null
  | .bool b => bool b
  | .num n => num n
  | .str s => str s
  | .arr items => arr items fun item _ => induction null bool num str arr obj item
  | .obj members => obj members fun m _ => induction null bool num str arr obj m.2
termination_by v => sizeOf v
decreasing_by
  · have := List.sizeOf_lt_of_mem ‹item ∈ items›
    simp only [Json.arr.sizeOf_spec]
    omega
  · have := List.sizeOf_lt_of_mem ‹m ∈ members›
    obtain ⟨key, value⟩ := m
    simp only [Json.obj.sizeOf_spec, Prod.mk.sizeOf_spec] at this ⊢
    omega

/-! ## Ordered values -/

theorem orderedItems_iff {items : List Json} :
    OrderedItems items ↔ ∀ item ∈ items, item.Ordered := by
  induction items with
  | nil => simp [OrderedItems]
  | cons item rest ih => simp [OrderedItems, ih]

theorem orderedMembers_iff {members : List (String × Json)} :
    OrderedMembers members ↔ ∀ m ∈ members, m.2.Ordered := by
  induction members with
  | nil => simp [OrderedMembers]
  | cons m rest ih => simp [OrderedMembers, ih]

@[simp] theorem ordered_arr {items : List Json} :
    (arr items).Ordered ↔ ∀ item ∈ items, item.Ordered := by
  rw [Ordered, orderedItems_iff]

@[simp] theorem ordered_obj {members : List (String × Json)} :
    (obj members).Ordered ↔ Entries.Ordered members ∧ ∀ m ∈ members, m.2.Ordered := by
  rw [Ordered, orderedMembers_iff]

theorem arrangeItems_eq_map (items : List Json) : arrangeItems items = items.map arrange := by
  induction items with
  | nil => rfl
  | cons item rest ih => simp [arrangeItems, ih]

theorem arrangeMembers_eq_map (members : List (String × Json)) :
    arrangeMembers members = members.map fun m => (m.1, m.2.arrange) := by
  induction members with
  | nil => rfl
  | cons m rest ih => simp [arrangeMembers, ih]

/-- Arranging a value orders it. -/
theorem ordered_arrange (v : Json) : v.arrange.Ordered := by
  induction v with
  | null => trivial
  | bool b => trivial
  | num n => trivial
  | str s => trivial
  | arr items ih =>
    rw [arrange, arrangeItems_eq_map, ordered_arr]
    intro item hitem
    obtain ⟨raw, hraw, rfl⟩ := List.mem_map.mp hitem
    exact ih raw hraw
  | obj members ih =>
    rw [arrange, object, arrangeMembers_eq_map, ordered_obj]
    refine ⟨Entries.ordered_ofList _, fun m hm => ?_⟩
    obtain ⟨raw, hraw, rfl⟩ := List.mem_map.mp (Entries.mem_of_mem_ofList hm)
    exact ih raw hraw

/-- The ordered values are those that arranging leaves as they are. -/
theorem arrange_eq_self_iff {v : Json} : v.arrange = v ↔ v.Ordered := by
  refine ⟨fun h => h ▸ ordered_arrange v, fun h => ?_⟩
  induction v with
  | null => rfl
  | bool b => rfl
  | num n => rfl
  | str s => rfl
  | arr items ih =>
    have hitems := ordered_arr.mp h
    have hmap : items.map arrange = items.map id :=
      List.map_congr_left fun item hitem => ih item hitem (hitems item hitem)
    rw [arrange, arrangeItems_eq_map, hmap, List.map_id]
  | obj members ih =>
    obtain ⟨hkeys, hvalues⟩ := ordered_obj.mp h
    have hmap : (members.map fun m => (m.1, m.2.arrange)) = members :=
      Entries.map_values_eq_self_iff.mpr fun m hm => ih m hm (hvalues m hm)
    rw [arrange, arrangeMembers_eq_map, hmap, object, Entries.ofList_eq_self hkeys]

instance (v : Json) : Decidable v.Ordered := decidable_of_iff _ arrange_eq_self_iff

/-! ## Values that are read -/

theorem exists_of_bind_eq_ok {ε α β : Type} {x : Except ε α} {f : α → Except ε β} {b : β}
    (h : x >>= f = .ok b) : ∃ a, x = .ok a ∧ f a = .ok b := by
  cases x with
  | error e => cases h
  | ok a => exact ⟨a, rfl, h⟩

theorem exists_of_map_eq_ok {ε α β : Type} {x : Except ε α} {f : α → β} {b : β}
    (h : x.map f = .ok b) : ∃ a, x = .ok a ∧ f a = b := by
  cases x with
  | error e => cases h
  | ok a => exact ⟨a, rfl, Except.ok.inj h⟩

/-- What is read from a text is what is written there, with the members of objects in order. -/
theorem exists_of_read {s : String} {v : Json} (h : read s = .ok v) :
    ∃ written c, readAsWritten (Utf8.encode s) = .ok (written, c) ∧ v = written.arrange := by
  obtain ⟨⟨written, c⟩, hwritten, h⟩ := exists_of_bind_eq_ok h
  obtain ⟨_, -, h⟩ := exists_of_bind_eq_ok h
  exact ⟨written, c, hwritten, (Except.ok.inj h).symm⟩

/-- A value that is read from a text is ordered. -/
theorem ordered_of_read {s : String} {v : Json} (h : read s = .ok v) : v.Ordered := by
  obtain ⟨written, -, -, rfl⟩ := exists_of_read h
  exact ordered_arrange written

/-! ## Arrays and objects -/


/-- The value is an array or an object. -/
def IsContainer (v : Json) : Prop := (∃ items, v = .arr items) ∨ ∃ members, v = .obj members

theorem not_isContainer_num {n : Number} : ¬ (num n).IsContainer := by
  rintro (⟨_, h⟩ | ⟨_, h⟩)
  · cases h
  · cases h

theorem IsContainer.arrange {v : Json} (h : v.IsContainer) : v.arrange.IsContainer := by
  obtain ⟨items, rfl⟩ | ⟨members, rfl⟩ := h
  · exact .inl ⟨_, rfl⟩
  · exact .inr ⟨_, rfl⟩

theorem isContainer_of_readValue {depth fuel : Nat} {rest : Bytes} {b : UInt8} {line column : Nat} {v : Json}
    {c : Cursor} (hb : b = 91 ∨ b = 123)
    (h : readValue depth fuel ⟨b :: rest, line, column⟩ = .ok (v, c)) : v.IsContainer := by
  cases fuel with
  | zero => cases h
  | succ fuel =>
    cases depth with
    | zero => rcases hb with rfl | rfl <;> cases h
    | succ depth =>
      rcases hb with rfl | rfl
      · obtain ⟨⟨items, c'⟩, -, hv⟩ := exists_of_map_eq_ok h
        exact .inl ⟨items, (congrArg Prod.fst hv).symm⟩
      · obtain ⟨⟨members, c'⟩, -, hv⟩ := exists_of_map_eq_ok h
        exact .inr ⟨members, (congrArg Prod.fst hv).symm⟩

end Gleaner.Json
