import Gleaner.Proofs.Options.Parts

set_option autoImplicit false

/-! # Which values are options

A value is said to be options if it is the text of an address or an object of a certain form:
`Options.Documented`. It can be read as options in one more case, which the refusal of all other values
does not mention: an array of the parts in a fixed order, `Options.Positional`. The main result is that
these are all the values that can be read (`Options.exists_ofJson_iff`).

Both forms are told by the values that they have for the parts. `Options.Legible` says which values will
do, however they are written. -/

namespace Gleaner.Options

/-! ## Values that can be read -/

/-- Values for the parts that options can be read from: no part has two of them, there is an address, and
what there is besides is of the right shape. A body may be anything. -/
structure Legible (values : Part → List Json) : Prop where
  once : ∀ p, (values p).length ≤ 1
  address : ∃ v ∈ values .url, v.IsText
  method : ∀ v ∈ values .method, v.IsText
  headers : ∀ v ∈ values .headers, v.IsTexts
  query : ∀ v ∈ values .query, v.IsTexts
  form : ∀ v ∈ values .form, v = .null ∨ v.IsTexts
  timeout : ∀ v ∈ values .timeout, v = .null ∨ v.IsCount

/-- The value is the text of an address, or an object whose members are legible. -/
def Documented (v : Json) : Prop :=
  v.IsText ∨ ∃ members, v = .obj members ∧ Legible fun p => p.given members

/-- The value is an array whose items, each in its place, are legible. -/
def Positional (v : Json) : Prop :=
  ∃ items, v = .arr items ∧ items.length ≤ 8 ∧ Legible fun p => items[p.place]?.toList

/-- A draft can be read exactly if its values are legible. -/
theorem exists_options?_iff_legible {d : Draft} :
    (∃ o, d.options? = some o) ↔ Legible fun p => (d.part p).toList := by
  rw [Draft.exists_options?_iff]
  constructor
  · rintro ⟨hmethod, haddress, hheaders, hquery, hform, htimeout⟩
    constructor
    case once => exact fun p => by cases d.part p <;> simp
    all_goals simpa only [Draft.part, Option.mem_toList]
  · intro h
    have hmethod := h.method
    have haddress := h.address
    have hheaders := h.headers
    have hquery := h.query
    have hform := h.form
    have htimeout := h.timeout
    simp only [Draft.part, Option.mem_toList] at *
    exact ⟨hmethod, haddress, hheaders, hquery, hform, htimeout⟩

/-! ## Objects and arrays -/

theorem exists_ofJson?_obj_iff {members : List (String × Json)} :
    (∃ o, ofJson? (.obj members) = some o) ↔ Legible fun p => p.given members := by
  have hvalues {d : Draft} (h : Draft.ofMembers members = some d) :
      (fun p : Part => p.given members) = fun p => (d.part p).toList :=
    funext (Draft.ofMembers_eq_some_iff.mp h)
  rw [ofJson?]
  constructor
  · rintro ⟨o, h⟩
    obtain ⟨d, hd, ho⟩ := Option.bind_eq_some_iff.mp h
    rw [hvalues hd]
    exact exists_options?_iff_legible.mp ⟨o, ho⟩
  · intro h
    obtain ⟨d, hd⟩ := Draft.exists_ofMembers h.once
    rw [hvalues hd] at h
    rw [hd]
    exact exists_options?_iff_legible.mpr h

theorem exists_ofJson?_arr_iff {items : List Json} :
    (∃ o, ofJson? (.arr items) = some o)
      ↔ items.length ≤ 8 ∧ Legible fun p => items[p.place]?.toList := by
  rw [ofJson?]
  by_cases hlength : items.length ≤ 8
  · rw [Draft.ofItems_of_length_le hlength, Option.bind_some, exists_options?_iff_legible,
      Draft.part_ofParts]
    exact (and_iff_right hlength).symm
  · rw [Draft.ofItems_of_lt (Nat.lt_of_not_le hlength)]
    simp [hlength]

theorem exists_ofJson?_iff {v : Json} :
    (∃ o, ofJson? v = some o) ↔ Documented v ∨ Positional v := by
  cases v with
  | obj members => simp [exists_ofJson?_obj_iff, Documented, Positional, Json.IsText]
  | arr items => simp [exists_ofJson?_arr_iff, Documented, Positional, Json.IsText]
  | str url => simp [ofJson?, Documented, Json.IsText]
  | _ => simp [ofJson?, Documented, Positional, Json.IsText]

/-! ## Main result -/

/-- The values that can be read as options are the documented ones and arrays of the parts in their fixed
order. Every other value is refused with a message that quotes it and tells the documented forms. -/
theorem exists_ofJson_iff (v : Json) :
    ((∃ o, ofJson v = .ok o) ↔ Documented v ∨ Positional v)
      ∧ (ofJson v = .error (.notRequestOptions v.arrange) ↔ ¬ (Documented v ∨ Positional v)) := by
  rw [← exists_ofJson?_iff, ofJson]
  cases ofJson? v <;> simp

/-- The method and the address as the items of an array are no documented form of options, and are read. -/
theorem ofJson_method_and_address :
    ofJson (.arr [.str "GET", .str "http://h.test/"]) = .ok (get "http://h.test/")
      ∧ ¬ Documented (.arr [.str "GET", .str "http://h.test/"]) := by
  constructor
  · rfl
  · simp [Documented, Json.IsText]

end Gleaner.Options
