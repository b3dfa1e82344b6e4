import Gleaner.Proofs.Json

set_option autoImplicit false

/-! # How deep values are nested

`Json.nesting` counts the arrays and objects that stand in each other. The reader keeps count of the levels
that it may still open and opens no more (`Json.nesting_readValue`), and putting the members of objects in
order opens none, so every value that is read from a text is nested within the limit
(`Json.nesting_of_read`). -/

namespace Gleaner.Json

/-! ## Nesting -/

mutual

/-- How many arrays and objects stand in each other where the value is deepest. -/
def nesting : Json → Nat
  | arr items => nestingOfItems items + 1
  | obj members => nestingOfMembers members + 1
  | null | bool _ | num _ | str _ => 0

/-- The nesting of the deepest item. -/
def nestingOfItems : List Json → Nat
  | [] => 0
  | item :: rest => max item.nesting (nestingOfItems rest)

/-- The nesting of the deepest member's value. -/
def nestingOfMembers : List (String × Json) → Nat
  | [] => 0
  | (_, value) :: rest => max value.nesting (nestingOfMembers rest)

end

theorem nestingOfItems_le_iff {items : List Json} {n : Nat} :
    nestingOfItems items ≤ n ↔ ∀ item ∈ items, item.nesting ≤ n := by
  induction items with
  | nil => simp [nestingOfItems]
  | cons item rest ih => rw [nestingOfItems, Nat.max_le, ih, List.forall_mem_cons]

theorem nestingOfMembers_le_iff {members : List (String × Json)} {n : Nat} :
    nestingOfMembers members ≤ n ↔ ∀ m ∈ members, m.2.nesting ≤ n := by
  induction members with
  | nil => simp [nestingOfMembers]
  | cons m rest ih => rw [nestingOfMembers, Nat.max_le, ih, List.forall_mem_cons]

/-- An item is nested less deep than its array. -/
theorem nesting_lt_of_mem_items {items : List Json} {item : Json} (h : item ∈ items) :
    item.nesting < (arr items).nesting := by
  rw [nesting, Nat.lt_succ_iff]
  exact nestingOfItems_le_iff.mp (Nat.le_refl _) item h

/-- The value of a member is nested less deep than its object. -/
theorem nesting_lt_of_mem_members {members : List (String × Json)} {m : String × Json}
    (h : m ∈ members) : m.2.nesting < (obj members).nesting := by
  rw [nesting, Nat.lt_succ_iff]
  exact nestingOfMembers_le_iff.mp (Nat.le_refl _) m h

/-- Putting members in order does not nest anything deeper. -/
theorem nesting_arrange_le (v : Json) : v.arrange.nesting ≤ v.nesting := by
  induction v with
  | null | bool | num | str => exact Nat.le_refl _
  | arr items ih =>
    rw [arrange, arrangeItems_eq_map, nesting, nesting, Nat.add_le_add_iff_right, nestingOfItems_le_iff]
    intro item hitem
    obtain ⟨raw, hraw, rfl⟩ := List.mem_map.mp hitem
    exact Nat.le_trans (ih raw hraw) (nestingOfItems_le_iff.mp (Nat.le_refl _) raw hraw)
  | obj members ih =>
    rw [arrange, object, arrangeMembers_eq_map, nesting, nesting, Nat.add_le_add_iff_right,
      nestingOfMembers_le_iff]
    intro m hm
    obtain ⟨raw, hraw, rfl⟩ := List.mem_map.mp (Entries.mem_of_mem_ofList hm)
    exact Nat.le_trans (ih raw hraw) (nestingOfMembers_le_iff.mp (Nat.le_refl _) raw hraw)

/-! ## What the reader opens -/

/-- What is answered behind a check. -/
theorem eq_of_ite_error {α ε : Type} {p : Prop} [Decidable p] {e : ε} {x y : α}
    (h : (if p then Except.error e else Except.ok x) = Except.ok y) : x = y := by
  split at h
  · cases h
  · exact Except.ok.inj h

theorem nesting_readWord {word : Bytes} {value v : Json} {c c' : Cursor} {n : Nat}
    (h : readWord word value c = .ok (v, c')) (hvalue : value.nesting = 0) : v.nesting ≤ n := by
  induction word generalizing c with
  | nil =>
    cases h
    exact hvalue ▸ Nat.zero_le n
  | cons expected more ih =>
    rw [readWord] at h
    split at h
    · cases h
    · split at h
      · exact ih h
      · cases h

section Numbers

variable {negative : Bool} {significand : Nat} {exponent : Int} {v : Json} {c c' : Cursor}

theorem nesting_scaledNumber (h : scaledNumber negative significand exponent c = .ok (v, c')) :
    v.nesting = 0 := by
  simp only [scaledNumber] at h
  split at h
  · cases h
    rfl
  · split at h
    · split at h <;> cases h
      rfl
    · split at h <;> cases h
      rfl

theorem nesting_readExponent (h : readExponent negative significand exponent c = .ok (v, c')) :
    v.nesting = 0 := by
  simp only [readExponent] at h
  split at h
  · cases h
  · split at h
    · cases h
    · split at h
      · cases eq_of_ite_error h
        rfl
      · exact nesting_scaledNumber h

theorem nesting_readFraction (h : readFraction negative significand exponent c = .ok (v, c')) :
    v.nesting = 0 := by
  simp only [readFraction] at h
  split at h
  · split at h
    · exact nesting_readExponent h
    · exact nesting_scaledNumber h
  · split at h
    · cases h
    · split at h
      · exact nesting_readExponent h
      · exact nesting_scaledNumber h

theorem nesting_integer (negative : Bool) (n : Nat) : (integer negative n).nesting = 0 := by
  simp only [integer]
  split
  · rfl
  · cases hrange : ofInt? (if negative then -n else n) with
    | none => rfl
    | some v =>
      obtain ⟨hin, hv⟩ := Option.dite_none_right_eq_some.mp hrange
      cases hv
      rfl

theorem nesting_behind {n dropped : Nat} (h : readNumber.behind negative n dropped c = .ok (v, c')) :
    v.nesting = 0 := by
  unfold readNumber.behind at h
  split at h
  · exact nesting_readFraction h
  · split at h
    · exact nesting_readExponent h
    · split at h
      · cases h
        exact nesting_integer negative n
      · exact nesting_scaledNumber h

theorem nesting_readNumber (h : readNumber negative c = .ok (v, c')) : v.nesting = 0 := by
  unfold readNumber at h
  split at h
  · cases h
  · split at h
    · cases h
    · split at h
      · cases h
      · exact nesting_behind h
    · exact nesting_behind h

end Numbers

/-! ## Values -/

/-- With this much fuel, nothing is read that is nested deeper than the levels that are left. -/
structure ReadsWithin (fuel : Nat) : Prop where
  value : ∀ {depth : Nat} {c c' : Cursor} {v : Json},
    readValue depth fuel c = .ok (v, c') → v.nesting ≤ depth
  items : ∀ {depth : Nat} {isFirst : Bool} {c c' : Cursor} {items : List Json},
    readItems depth fuel isFirst c = .ok (items, c') → nestingOfItems items ≤ depth
  members : ∀ {depth : Nat} {isFirst : Bool} {c c' : Cursor} {members : List (String × Json)},
    readMembers depth fuel isFirst c = .ok (members, c') → nestingOfMembers members ≤ depth

namespace ReadsWithin

variable {fuel depth : Nat} {isFirst : Bool} {c c' : Cursor}

theorem readItems_succ (h : ReadsWithin fuel) {items : List Json}
    (hread : readItems depth (fuel + 1) isFirst c = .ok (items, c')) : nestingOfItems items ≤ depth := by
  rw [readItems] at hread
  obtain ⟨⟨more, c₁⟩, -, hread⟩ := exists_of_bind_eq_ok hread
  cases more with
  | false =>
    cases hread
    exact Nat.zero_le _
  | true =>
    obtain ⟨⟨item, c₂⟩, hitem, hread⟩ := exists_of_bind_eq_ok hread
    obtain ⟨⟨rest, c₃⟩, hrest, hread⟩ := exists_of_bind_eq_ok hread
    cases hread
    rw [nestingOfItems, Nat.max_le]
    exact ⟨h.value hitem, h.items hrest⟩

theorem readMembers_succ (h : ReadsWithin fuel) {members : List (String × Json)}
    (hread : readMembers depth (fuel + 1) isFirst c = .ok (members, c')) :
    nestingOfMembers members ≤ depth := by
  rw [readMembers] at hread
  obtain ⟨⟨more, c₁⟩, -, hread⟩ := exists_of_bind_eq_ok hread
  cases more with
  | false =>
    cases hread
    exact Nat.zero_le _
  | true =>
    obtain ⟨⟨key, c₂⟩, -, hread⟩ := exists_of_bind_eq_ok hread
    obtain ⟨⟨value, c₃⟩, hvalue, hread⟩ := exists_of_bind_eq_ok hread
    obtain ⟨⟨rest, c₄⟩, hrest, hread⟩ := exists_of_bind_eq_ok hread
    cases hread
    rw [nestingOfMembers, Nat.max_le]
    exact ⟨h.value hvalue, h.members hrest⟩

theorem readValue_succ (h : ReadsWithin fuel) {v : Json}
    (hread : readValue depth (fuel + 1) c = .ok (v, c')) : v.nesting ≤ depth := by
  unfold readValue at hread
  simp only at hread
  split at hread
  · cases hread
  · split at hread
    · exact nesting_readWord hread rfl
    · exact nesting_readWord hread rfl
    · exact nesting_readWord hread rfl
    · exact nesting_readNumber hread ▸ Nat.zero_le _
    · obtain ⟨⟨s, c₁⟩, -, hv⟩ := exists_of_map_eq_ok hread
      cases hv
      exact Nat.zero_le _
    -- Only a bracket opens a level, and it fails where no level is left.
    · cases depth with
      | zero => cases hread
      | succ depth =>
        obtain ⟨⟨items, c₁⟩, hitems, hv⟩ := exists_of_map_eq_ok hread
        cases hv
        exact Nat.succ_le_succ (h.items hitems)
    · cases depth with
      | zero => cases hread
      | succ depth =>
        obtain ⟨⟨members, c₁⟩, hmembers, hv⟩ := exists_of_map_eq_ok hread
        cases hv
        exact Nat.succ_le_succ (h.members hmembers)
    · split at hread
      · exact nesting_readNumber hread ▸ Nat.zero_le _
      · cases hread

end ReadsWithin

/-- The reader opens no more levels than it may. -/
theorem nesting_readValue {depth fuel : Nat} {c c' : Cursor} {v : Json}
    (h : readValue depth fuel c = .ok (v, c')) : v.nesting ≤ depth := by
  have hfuel : ReadsWithin fuel := by
    clear h
    induction fuel with
    | zero =>
      refine ⟨fun h => ?_, fun h => ?_, fun h => ?_⟩
      · cases h
      · cases h
      · cases h
    | succ fuel ih => exact ⟨ih.readValue_succ, ih.readItems_succ, ih.readMembers_succ⟩
  exact hfuel.value h

/-- A value that is read from a text is nested within the limit. -/
theorem nesting_of_read {s : String} {v : Json} (h : read s = .ok v) : v.nesting ≤ nestingLimit := by
  obtain ⟨written, c, hwritten, rfl⟩ := exists_of_read h
  exact Nat.le_trans (nesting_arrange_le written) (nesting_readValue hwritten)

end Gleaner.Json
