import Gleaner.Http.Field

set_option autoImplicit false

/-! # Fields by their names

Fields are looked at through the values of one name. Each way of setting fields has a lemma here that says
what it does to these values, so that a header that is put together from several sources is computed name
by name, and the list itself is never looked into. -/

namespace Gleaner

namespace Text

/-- Whether letters are the same is a matter of the lower case. -/
theorem sameLetters_iff {s t : String} : sameLetters s t = true ↔ lower s = lower t := beq_iff_eq

theorem sameLetters_iff_of_lower (s : String) {t : String} (h : lower t = t) :
    sameLetters s t = true ↔ t = lower s := by
  rw [sameLetters_iff, h, eq_comm]

end Text

namespace Http

/-- The values under a name, in any letter case. -/
def named (entries : List (String × String)) (name : String) : List String :=
  (entries.filter fun e => Text.sameLetters e.1 name).map (·.2)

theorem named_cons (e : String × String) (rest : List (String × String)) (name : String) :
    named (e :: rest) name
      = (if Text.lower e.1 = Text.lower name then [e.2] else []) ++ named rest name := by
  rw [named, List.filter_cons]
  by_cases h : Text.lower e.1 = Text.lower name
  · rw [if_pos (Text.sameLetters_iff.mpr h), if_pos h]
    rfl
  · rw [if_neg (fun hsame => h (Text.sameLetters_iff.mp hsame)), if_neg h]
    rfl

namespace Fields

variable (fields others : Fields) (f : Field) (name : String)

/-! ## One field -/

theorem values_singleton : values [f] name = if f.name = name then [f.value] else [] := by
  by_cases h : f.name = name <;> simp [values, h]

theorem values_append : values (fields ++ others) name = fields.values name ++ others.values name := by
  simp [values]

theorem has_iff : fields.has name = true ↔ fields.values name ≠ [] := by
  simp [has, values, List.filter_eq_nil_iff]

theorem values_add : (fields.add f).values name
    = fields.values name ++ if f.name = name then [f.value] else [] := by
  rw [add, values_append, values_singleton]

theorem values_erase (other : String) :
    (fields.erase other).values name = if other = name then [] else fields.values name := by
  simp only [erase, values, List.filter_filter]
  by_cases h : other = name
  · simp [h]
  · have hkeep (f : Field) : (f.name == name && f.name != other) = (f.name == name) := by
      by_cases hname : f.name = name <;> simp [hname, Ne.symm h]
    simp [h, hkeep]

/-- A field that is set is the only one of its name. -/
theorem values_set :
    (fields.set f).values name = if f.name = name then [f.value] else fields.values name := by
  rw [set, values_append, values_erase, values_singleton]
  by_cases h : f.name = name <;> simp [h]

/-- A field is supplied where there are no values of its name. -/
theorem values_supply : (fields.supply f).values name
    = if f.name = name ∧ fields.values name = [] then [f.value] else fields.values name := by
  rw [supply]
  simp only [has_iff]
  by_cases h : f.name = name
  · subst h
    by_cases hnil : fields.values f.name = [] <;> simp [hnil, values_add]
  · by_cases hnil : fields.values f.name = [] <;> simp [h, hnil, values_add]

/-! ## Many fields -/

/-- Of fields that are supplied, those come in for whose name there are no values. -/
theorem values_supplyAll : (fields.supplyAll others).values name
    = if fields.values name = [] then others.values name else fields.values name := by
  have hsupplied : values (others.filter fun f => !fields.has f.name) name
      = if fields.has name = true then [] else others.values name := by
    simp only [values, List.filter_filter]
    cases hhas : fields.has name with
    | true =>
      have hdrop (f : Field) : (f.name == name && !fields.has f.name) = false := by
        by_cases hname : f.name = name <;> simp [hname, hhas]
      simp [hdrop]
    | false =>
      have hkeep (f : Field) : (f.name == name && !fields.has f.name) = (f.name == name) := by
        by_cases hname : f.name = name <;> simp [hname, hhas]
      simp [hkeep]
  rw [supplyAll, values_append, hsupplied]
  simp only [has_iff]
  by_cases hnil : fields.values name = [] <;> simp [hnil]

/-- Of names that are erased no values are left. -/
theorem values_foldl_erase (names : List String) :
    values (names.foldl erase fields) name = if name ∈ names then [] else fields.values name := by
  induction names generalizing fields with
  | nil => rfl
  | cons other rest ih =>
    rw [List.foldl_cons, ih, values_erase]
    by_cases hother : other = name
    · simp [hother]
    · simp [hother, Ne.symm hother]

variable (entries : List (String × String))

/-- Entries that are added leave all of their values, in their order. -/
theorem values_foldl_add :
    values (entries.foldl (fun fields e => fields.add (.of e.1 e.2)) fields) (Text.lower name)
      = fields.values (Text.lower name) ++ named entries name := by
  induction entries generalizing fields with
  | nil => simp [named]
  | cons e rest ih => rw [List.foldl_cons, ih, values_add, named_cons, List.append_assoc, Field.of]

/-- Entries that are set leave the last of their values. -/
theorem values_foldl_set :
    values (entries.foldl (fun fields e => fields.set (.of e.1 e.2)) fields) (Text.lower name)
      = ((named entries name).getLast?.map ([·])).getD (fields.values (Text.lower name)) := by
  induction entries generalizing fields with
  | nil => simp [named]
  | cons e rest ih =>
    rw [List.foldl_cons, ih, values_set, named_cons, Field.of]
    -- Only where no later entry has the name does this one count.
    cases hlast : (named rest name).getLast? with
    | some value => simp [List.getLast?_append, hlast]
    | none =>
      have hnil := List.getLast?_eq_none_iff.mp hlast
      by_cases h : Text.lower e.1 = Text.lower name <;> simp [h, hnil]

/-! ## Names in lower case -/

/-- The names of all fields are in lower case. -/
def Lowered (fields : Fields) : Prop := ∀ f ∈ fields, ∃ s, f.name = Text.lower s

variable {fields others f entries}

theorem Lowered.append (h : fields.Lowered) (hothers : others.Lowered) : Lowered (fields ++ others) :=
  List.forall_mem_append.mpr ⟨h, hothers⟩

theorem Lowered.filter (h : fields.Lowered) (keep : Field → Bool) : Lowered (fields.filter keep) :=
  fun f hf => h f (List.mem_filter.mp hf).1

theorem Lowered.add (h : fields.Lowered) (hf : ∃ s, f.name = Text.lower s) : (fields.add f).Lowered :=
  h.append (List.forall_mem_singleton.mpr hf)

theorem Lowered.set (h : fields.Lowered) (hf : ∃ s, f.name = Text.lower s) : (fields.set f).Lowered :=
  (h.filter _).add hf

theorem Lowered.supply (h : fields.Lowered) (hf : ∃ s, f.name = Text.lower s) :
    (fields.supply f).Lowered := by
  unfold Fields.supply
  split
  · exact h
  · exact h.add hf

theorem Lowered.supplyAll (h : fields.Lowered) (hothers : others.Lowered) :
    (fields.supplyAll others).Lowered :=
  h.append (hothers.filter _)

/-- Entries become fields with names in lower case, if this is kept when one of them is set. -/
theorem Lowered.foldl (put : Fields → Field → Fields)
    (hput : ∀ {fields : Fields} {f : Field}, fields.Lowered → (∃ s, f.name = Text.lower s) →
      (put fields f).Lowered) (h : fields.Lowered) :
    Lowered (entries.foldl (fun fields e => put fields (.of e.1 e.2)) fields) := by
  induction entries generalizing fields with
  | nil => exact h
  | cons e rest ih => exact ih (hput h ⟨e.1, rfl⟩)

end Fields

end Http

end Gleaner
