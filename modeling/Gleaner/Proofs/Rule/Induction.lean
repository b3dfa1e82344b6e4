import Gleaner.Rule.Fault
import Gleaner.Rule.Walk
import Gleaner.Rule.Written

set_option autoImplicit false

/-! # Induction on rules

A rule holds functions and a function may hold a rule. `RuleFunction.induction` goes from function
to function: in the cases with a rule it has what is proved of each function of that rule. A
statement about rules is therefore proved in two steps, first for a rule whose functions have the
property and then, with that, for every function.

The recursions over field lists are given as maps and quantifiers over the list, so that the proofs
after this one do not open them. -/

namespace Gleaner

/-! ## The functions of a rule -/

/-- The functions of a rule, the shortcut first. -/
def Rule.functions : Rule → List RuleFunction
  | .mk shortcut fields _ => shortcut.toList ++ fields.map (·.2)

/-- The functions that a walk asks for: a shortcut hides the fields. -/
def Rule.asked : Rule → List RuleFunction
  | .mk (some f) _ _ => [f]
  | .mk none fields _ => fields.map (·.2)

namespace Rule

/-- What holds of all functions holds of the shortcut and of every field. -/
theorem forall_functions_iff {P : RuleFunction → Prop} {shortcut : Option RuleFunction}
    {fields : List (String × RuleFunction)} {malformed : Option Json} :
    (∀ f ∈ (Rule.mk shortcut fields malformed).functions, P f)
      ↔ (∀ f ∈ shortcut, P f) ∧ ∀ p ∈ fields, P p.2 := by
  simp only [functions, List.mem_append, Option.mem_toList, List.mem_map]
  constructor
  · intro h
    exact ⟨fun f hf => h f (Or.inl hf), fun p hp => h p.2 (Or.inr ⟨p, hp, rfl⟩)⟩
  · rintro ⟨hs, hp⟩ f (hf | ⟨p, hmem, rfl⟩)
    · exact hs f hf
    · exact hp p hmem

theorem mem_functions_of_mem_asked {r : Rule} {f : RuleFunction} (h : f ∈ r.asked) :
    f ∈ r.functions := by
  obtain ⟨_ | s, fields, malformed⟩ := r
  · exact List.mem_append_right _ h
  · exact List.mem_append_left _ h

theorem sizeOf_lt_of_mem_functions {r : Rule} {f : RuleFunction} (h : f ∈ r.functions) :
    sizeOf f < sizeOf r := by
  obtain ⟨shortcut, fields, malformed⟩ := r
  simp only [functions, List.mem_append, Option.mem_toList, List.mem_map] at h
  simp only [Rule.mk.sizeOf_spec]
  rcases h with rfl | ⟨⟨name, g⟩, hp, rfl⟩
  · simp only [Option.some.sizeOf_spec]
    omega
  · have := List.sizeOf_lt_of_mem hp
    simp only [Prod.mk.sizeOf_spec] at this ⊢
    omega

end Rule

/-- Induction on a function; what holds of every function of its rule is at hand. -/
@[induction_eliminator]
theorem RuleFunction.induction {motive : RuleFunction → Prop} (text : motive .text)
    (value : motive .value) (html : motive .html) (css : ∀ property, motive (.css property))
    (data : ∀ key, motive (.data key)) (attr : ∀ name, motive (.attr name))
    (prop : ∀ name, motive (.prop name))
    (findOne : ∀ selector rule, (∀ f ∈ rule.functions, motive f) → motive (.findOne selector rule))
    (find : ∀ selector rule, (∀ f ∈ rule.functions, motive f) → motive (.find selector rule))
    (nested : ∀ rule, (∀ f ∈ rule.functions, motive f) → motive (.nested rule))
    (invalid : ∀ raw, motive (.invalid raw)) : ∀ f, motive f
  | .text => text
  | .value => value
  | .html => html
  | .css property => css property
  | .data key => data key
  | .attr name => attr name
  | .prop name => prop name
  | .findOne selector rule => findOne selector rule fun f _ =>
      RuleFunction.induction text value html css data attr prop findOne find nested invalid f
  | .find selector rule => find selector rule fun f _ =>
      RuleFunction.induction text value html css data attr prop findOne find nested invalid f
  | .nested rule => nested rule fun f _ =>
      RuleFunction.induction text value html css data attr prop findOne find nested invalid f
  | .invalid raw => invalid raw
termination_by f => sizeOf f
decreasing_by
  all_goals
    have := Rule.sizeOf_lt_of_mem_functions ‹f ∈ rule.functions›
    simp only [RuleFunction.findOne.sizeOf_spec, RuleFunction.find.sizeOf_spec,
      RuleFunction.nested.sizeOf_spec]
    omega

/-! ## Field lists -/

namespace Rule

variable {E : Type}

theorem walkFields_eq_map (t : Accessors E) (bound : Nat) (fields : List (String × RuleFunction))
    (e : E) (depth : Nat) :
    walkFields t bound fields e depth
      = fields.map fun p => (p.1, p.2.evaluateAt t bound e depth) := by
  induction fields with
  | nil => rfl
  | cons p rest ih => simp [walkFields, ih]

theorem fieldsToJson_eq_map (fields : List (String × RuleFunction)) :
    fieldsToJson fields = fields.map fun p => (p.1, p.2.toJson) := by
  induction fields with
  | nil => rfl
  | cons p rest ih => simp [fieldsToJson, ih]

theorem fieldsFault?_eq_none_iff {fields : List (String × RuleFunction)} :
    fieldsFault? fields = none ↔ ∀ p ∈ fields, p.2.fault? = none := by
  induction fields with
  | nil => simp [fieldsFault?]
  | cons p rest ih => simp [fieldsFault?, ih]

/-- A rule is free of faults when it was written as one and all its functions are free of faults. -/
theorem fault?_eq_none_iff {r : Rule} :
    r.fault? = none ↔ r.malformed? = none ∧ ∀ f ∈ r.functions, f.fault? = none := by
  obtain ⟨shortcut, fields, malformed⟩ := r
  rw [forall_functions_iff]
  cases malformed with
  | some raw => simp [fault?, malformed?]
  | none => cases shortcut <;> simp [fault?, malformed?, fieldsFault?_eq_none_iff]

end Rule

end Gleaner
