set_option autoImplicit false

/-! # Dictionaries ordered by key

Objects, headers and query parameters are kept in the order of their keys, each key once; a later
value for a key replaces the earlier one. The order of the keys is that of their code points, which
is also the order of their UTF-8 bytes.

Entry lists come first, because a JSON object nests them inside the JSON type itself; `Dictionary`
adds the proof that the keys ascend, for the places where no nesting stands in the way. -/

namespace Gleaner

/-! ## Entry lists -/

namespace Entries

variable {α : Type _}

/-- Sets the value of a key, in front of the first greater key. -/
def insert (key : String) (value : α) : List (String × α) → List (String × α)
  | [] => [(key, value)]
  | (k, v) :: rest =>
    if key < k then (key, value) :: (k, v) :: rest
    else if key = k then (key, value) :: rest
    else (k, v) :: insert key value rest

/-- Enters pairs one after the other, so that the last value of a key stays. -/
def ofList (pairs : List (String × α)) : List (String × α) :=
  pairs.foldl (fun entries (k, v) => insert k v entries) []

/-- The value of a key. -/
def get? (key : String) : List (String × α) → Option α
  | [] => none
  | (k, v) :: rest => if key = k then some v else get? key rest

/-- The keys ascend, so each occurs once. -/
def Ordered (entries : List (String × α)) : Prop := entries.Pairwise fun a b => a.1 < b.1

theorem mem_insert_key {key : String} {value : α} {entries : List (String × α)} {e : String × α}
    (h : e ∈ insert key value entries) : e.1 = key ∨ e ∈ entries := by
  induction entries with
  | nil => simp_all [insert]
  | cons head rest ih =>
    obtain ⟨k, v⟩ := head
    simp only [insert] at h
    split at h
    · simp only [List.mem_cons] at h ⊢
      rcases h with rfl | h | h <;> simp_all
    · split at h
      · simp only [List.mem_cons] at h ⊢
        rcases h with rfl | h <;> simp_all
      · simp only [List.mem_cons] at h ⊢
        rcases h with rfl | h
        · simp
        · rcases ih h with h | h <;> simp [h]

/-- Insertion keeps the keys ascending. -/
theorem ordered_insert {key : String} {value : α} {entries : List (String × α)}
    (h : Ordered entries) : Ordered (insert key value entries) := by
  induction entries with
  | nil => simp [insert, Ordered]
  | cons head rest ih =>
    obtain ⟨k, v⟩ := head
    simp only [Ordered, List.pairwise_cons] at h
    obtain ⟨first, tail⟩ := h
    simp only [insert]
    split
    · next lt =>
      simp only [Ordered, List.pairwise_cons, List.mem_cons]
      refine ⟨?_, first, tail⟩
      rintro e (rfl | he)
      · exact lt
      · exact String.lt_trans lt (first e he)
    · split
      · next eq =>
        subst eq
        simp only [Ordered, List.pairwise_cons]
        exact ⟨first, tail⟩
      · next notLt notEq =>
        simp only [Ordered, List.pairwise_cons]
        refine ⟨?_, ih tail⟩
        intro e he
        have below : k < key :=
          String.not_le.mp fun le => notEq (String.le_antisymm le (String.not_lt.mp notLt))
        rcases mem_insert_key he with he | he
        · exact he ▸ below
        · exact first e he

theorem ordered_foldl_insert (pairs entries : List (String × α)) (h : Ordered entries) :
    Ordered (pairs.foldl (fun entries (k, v) => insert k v entries) entries) := by
  induction pairs generalizing entries with
  | nil => exact h
  | cons head rest ih => exact ih _ (ordered_insert h)

theorem ordered_ofList (pairs : List (String × α)) : Ordered (ofList pairs) :=
  ordered_foldl_insert pairs [] List.Pairwise.nil

end Entries

/-! ## Dictionaries -/

/-- Entries with ascending keys. -/
structure Dictionary (α : Type) where
  entries : List (String × α)
  ordered : Entries.Ordered entries := by exact List.Pairwise.nil

namespace Dictionary

variable {α : Type}

instance [DecidableEq α] : DecidableEq (Dictionary α) := fun a b =>
  if h : a.entries = b.entries then isTrue (by cases a; cases b; simp_all)
  else isFalse fun e => h (e ▸ rfl)

/-- No entries. -/
def empty : Dictionary α := { entries := [] }

instance : Inhabited (Dictionary α) := ⟨empty⟩

/-- Sets the value of a key. -/
def insert (d : Dictionary α) (key : String) (value : α) : Dictionary α :=
  ⟨Entries.insert key value d.entries, Entries.ordered_insert d.ordered⟩

/-- Enters pairs one after the other, so that the last value of a key stays. -/
def ofList (pairs : List (String × α)) : Dictionary α :=
  ⟨Entries.ofList pairs, Entries.ordered_ofList pairs⟩

/-- The value of a key. -/
def get? (d : Dictionary α) (key : String) : Option α := Entries.get? key d.entries

/-- There are no entries. -/
def isEmpty (d : Dictionary α) : Bool := d.entries.isEmpty

end Dictionary

end Gleaner
