import Gleaner.Proofs.Rule.Induction

set_option autoImplicit false

/-! # Rules that are built field by field

`Rule.build` starts with the rule that has no function and sets the function of one name after the
other. A name that was set before is set anew, and the function under the name of the shortcut goes
back and forth between the shortcut and the fields. `Rule.field_cases` says what one step does,
`Rule.Tidy` is what every step keeps, and `Rule.tidy_build` is that every built rule is tidy. -/

namespace Gleaner.Rule

/-- The rule that setting functions one after the other gives. -/
def build (calls : List (String × RuleFunction)) : Rule :=
  calls.foldl (fun r call => r.field call.1 call.2) empty

/-! ## One step -/

/-- Setting a function puts it behind the fields under other names, except that a true function under
the name of the shortcut is the shortcut. -/
theorem field_cases (r : Rule) (name : String) (f : RuleFunction) :
    (name = shortcutName ∧ f.isTruthy = true
        ∧ r.field name f = mk (some f) (r.fields.filter fun p => p.1 != name) r.malformed?)
      ∨ (name = shortcutName ∧ f.isTruthy = false
        ∧ r.field name f
          = mk none ((r.fields.filter fun p => p.1 != name) ++ [(name, f)]) r.malformed?)
      ∨ (name ≠ shortcutName
        ∧ r.field name f
          = mk r.shortcut? ((r.fields.filter fun p => p.1 != name) ++ [(name, f)])
            r.malformed?) := by
  by_cases hname : name = shortcutName
  · cases hf : f.isTruthy with
    | true => exact Or.inl ⟨hname, rfl, by simp [field, hname, hf]⟩
    | false => exact Or.inr (Or.inl ⟨hname, rfl, by simp [field, hname, hf]⟩)
  · exact Or.inr (Or.inr ⟨hname, by simp [field, hname]⟩)

/-- What is behind the fields under other names is new there. -/
theorem nodup_others_append {fields : List (String × RuleFunction)}
    (h : (fields.map (·.1)).Nodup) (name : String) (f : RuleFunction) :
    (((fields.filter fun p => p.1 != name) ++ [(name, f)]).map (·.1)).Nodup := by
  have hothers : ((fields.filter fun p => p.1 != name).map (·.1)).Nodup :=
    h.sublist (List.filter_sublist.map _)
  rw [List.map_append, List.nodup_append]
  refine ⟨hothers, by simp, ?_⟩
  intro a ha b hb
  obtain ⟨p, hp, rfl⟩ := List.mem_map.mp ha
  have hb' : b = name := by simpa using hb
  have hpname : p.1 ≠ name := by simpa using (List.mem_filter.mp hp).2
  exact hb' ▸ hpname

/-- What holds of the functions of a rule and of the one that is set holds of all functions after
that. -/
theorem forall_functions_field {P : RuleFunction → Prop} {r : Rule} (h : ∀ g ∈ r.functions, P g)
    (name : String) {f : RuleFunction} (hf : P f) : ∀ g ∈ (r.field name f).functions, P g := by
  have hcases := r.field_cases name f
  obtain ⟨shortcut, fields, malformed⟩ := r
  obtain ⟨hshortcut, hfields⟩ := forall_functions_iff.mp h
  have hothers : ∀ p ∈ fields.filter fun p => p.1 != name, P p.2 :=
    fun p hp => hfields p (List.mem_filter.mp hp).1
  have hall : ∀ p ∈ (fields.filter fun p => p.1 != name) ++ [(name, f)], P p.2 := by
    intro p hp
    rcases List.mem_append.mp hp with hp | hp
    · exact hothers p hp
    · rw [List.mem_singleton.mp hp]
      exact hf
  obtain ⟨-, -, heq⟩ | ⟨-, -, heq⟩ | ⟨-, heq⟩ := hcases
  · rw [heq, forall_functions_iff]
    exact ⟨fun g hg => Option.mem_some.mp hg ▸ hf, hothers⟩
  · rw [heq, forall_functions_iff]
    exact ⟨fun g hg => by simp at hg, hall⟩
  · rw [heq, forall_functions_iff]
    exact ⟨hshortcut, hall⟩

/-! ## What every step keeps -/

/-- A rule in which every name has one function, and the name of the shortcut has a true one only if it
is the shortcut. -/
structure Tidy (r : Rule) : Prop where
  written : r.malformed? = none
  names_nodup : (r.fields.map (·.1)).Nodup
  shortcut_truthy : ∀ f ∈ r.shortcut?, f.isTruthy = true
  /-- No field has the name of the shortcut beside one. -/
  shortcut_alone : r.shortcut?.isSome = true → ∀ p ∈ r.fields, p.1 ≠ shortcutName
  named_falsy : ∀ p ∈ r.fields, p.1 = shortcutName → p.2.isTruthy = false

theorem tidy_empty : empty.Tidy where
  written := rfl
  names_nodup := List.nodup_nil
  shortcut_truthy := by simp [empty, shortcut?]
  shortcut_alone := by simp [empty, shortcut?]
  named_falsy := by simp [empty, fields]

/-- Setting a function keeps a rule tidy. -/
theorem Tidy.field {r : Rule} (h : r.Tidy) (name : String) (f : RuleFunction) :
    (r.field name f).Tidy := by
  have hothers : ∀ p ∈ r.fields.filter fun p => p.1 != name, p ∈ r.fields ∧ p.1 ≠ name := by
    intro p hp
    exact ⟨(List.mem_filter.mp hp).1, by simpa using (List.mem_filter.mp hp).2⟩
  obtain ⟨hname, hf, heq⟩ | ⟨hname, hf, heq⟩ | ⟨hname, heq⟩ := r.field_cases name f
  · rw [heq]
    constructor
    case written => exact h.written
    case names_nodup => exact h.names_nodup.sublist (List.filter_sublist.map _)
    case shortcut_truthy => exact fun g hg => Option.mem_some.mp hg ▸ hf
    case shortcut_alone => exact fun _ p hp => hname ▸ (hothers p hp).2
    case named_falsy => exact fun p hp hp' => absurd (hp'.trans hname.symm) (hothers p hp).2
  · rw [heq]
    constructor
    case written => exact h.written
    case names_nodup => exact nodup_others_append h.names_nodup name f
    case shortcut_truthy => exact fun g hg => by simp [shortcut?] at hg
    case shortcut_alone => exact fun hsome => by simp [shortcut?] at hsome
    case named_falsy =>
      intro p hp hp'
      rcases List.mem_append.mp hp with hp | hp
      · exact absurd (hp'.trans hname.symm) (hothers p hp).2
      · rw [List.mem_singleton.mp hp]
        exact hf
  · rw [heq]
    constructor
    case written => exact h.written
    case names_nodup => exact nodup_others_append h.names_nodup name f
    case shortcut_truthy => exact h.shortcut_truthy
    case shortcut_alone =>
      intro hsome p hp
      rcases List.mem_append.mp hp with hp | hp
      · exact h.shortcut_alone hsome p (hothers p hp).1
      · rw [List.mem_singleton.mp hp]
        exact hname
    case named_falsy =>
      intro p hp hp'
      rcases List.mem_append.mp hp with hp | hp
      · exact h.named_falsy p (hothers p hp).1 hp'
      · rw [List.mem_singleton.mp hp] at hp'
        exact absurd hp' hname

/-! ## A whole run -/

/-- Every built rule is tidy. -/
theorem tidy_build (calls : List (String × RuleFunction)) : (build calls).Tidy :=
  List.foldlRecOn calls _ tidy_empty fun _ h call _ => h.field call.1 call.2

/-- A built rule has no functions but those that were set. -/
theorem forall_functions_build {P : RuleFunction → Prop} {calls : List (String × RuleFunction)}
    (h : ∀ call ∈ calls, P call.2) : ∀ g ∈ (build calls).functions, P g :=
  List.foldlRecOn (motive := fun r : Rule => ∀ g ∈ r.functions, P g) calls _
    (by simp [empty, functions])
    fun _ ih call hcall => forall_functions_field ih call.1 (h call hcall)

end Gleaner.Rule
