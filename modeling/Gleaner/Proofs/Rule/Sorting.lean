import Gleaner.Proofs.Rule.Canonical

set_option autoImplicit false

/-! # Rules with their fields in order

The order of the fields is the order in which a rule was put together, and nothing that a rule does
depends on it: it is written alike (`Rule.toJson_mk_of_perm`) and walked alike
(`Rule.walkAt_mk_of_perm`) in any order. `Rule.sorted` puts the fields of a rule and of all rules inside
it in the order of their names and changes nothing else. A sorted rule has faults if the rule has them
(`Rule.fault?_sorted_eq_none_iff`) and is walked alike as long as no name is repeated
(`Rule.walkAt_sorted_of_functions`); a rule that was read is sorted already (`Rule.sorted_ofJson`). -/

namespace Gleaner

mutual

/-- The rule with its fields, and those of all rules inside it, in the order of their names. -/
def Rule.sorted : Rule → Rule
  | .mk none fields malformed => .mk none (Entries.sorted (Rule.sortedFields fields)) malformed
  | .mk (some f) fields malformed =>
    .mk (some f.sorted) (Entries.sorted (Rule.sortedFields fields)) malformed

/-- The fields, still in their own order, with every rule inside them sorted. -/
def Rule.sortedFields : List (String × RuleFunction) → List (String × RuleFunction)
  | [] => []
  | (name, f) :: rest => (name, f.sorted) :: Rule.sortedFields rest

/-- The function with every rule inside it sorted. -/
def RuleFunction.sorted : RuleFunction → RuleFunction
  | .findOne selector rule => .findOne selector rule.sorted
  | .find selector rule => .find selector rule.sorted
  | .nested rule => .nested rule.sorted
  | f => f

end

namespace Rule

theorem sortedFields_eq_map (fields : List (String × RuleFunction)) :
    sortedFields fields = fields.map fun p => (p.1, p.2.sorted) := by
  induction fields with
  | nil => rfl
  | cons p rest ih => simp [sortedFields, ih]

theorem sorted_mk (shortcut : Option RuleFunction) (fields : List (String × RuleFunction))
    (malformed : Option Json) :
    (mk shortcut fields malformed).sorted
      = mk (shortcut.map (·.sorted)) (Entries.sorted (fields.map fun p => (p.1, p.2.sorted)))
        malformed := by
  cases shortcut <;> simp only [sorted, sortedFields_eq_map, Option.map_none, Option.map_some]

/-- The functions of a sorted rule are those of the rule, each sorted. -/
theorem forall_functions_sorted {P : RuleFunction → Prop} {r : Rule} :
    (∀ f ∈ r.sorted.functions, P f) ↔ ∀ f ∈ r.functions, P f.sorted := by
  obtain ⟨shortcut, fields, malformed⟩ := r
  rw [sorted_mk, forall_functions_iff, forall_functions_iff]
  refine and_congr (by cases shortcut <;> simp) ?_
  simp only [(Entries.sorted_perm _).mem_iff, List.forall_mem_map]

/-! ## The check -/

theorem fault?_sorted_iff_of_functions {r : Rule}
    (h : ∀ f ∈ r.functions, (f.sorted.fault? = none ↔ f.fault? = none)) :
    r.sorted.fault? = none ↔ r.fault? = none := by
  have hmalformed : r.sorted.malformed? = r.malformed? := by
    obtain ⟨shortcut, fields, malformed⟩ := r
    rw [sorted_mk, malformed?, malformed?]
  rw [fault?_eq_none_iff, fault?_eq_none_iff, hmalformed, forall_functions_sorted]
  exact and_congr_right fun _ => forall₂_congr h

end Rule

theorem RuleFunction.fault?_sorted_eq_none_iff (f : RuleFunction) :
    f.sorted.fault? = none ↔ f.fault? = none := by
  induction f with
  | findOne selector rule ih | find selector rule ih =>
    simp only [sorted, fault?, Option.map_eq_none_iff, Rule.fault?_sorted_iff_of_functions ih]
  | nested rule ih => simp only [sorted, fault?, Rule.fault?_sorted_iff_of_functions ih]
  | _ => exact Iff.rfl

namespace Rule

variable {E : Type}

/-- Sorting a rule neither hides a fault nor adds one. -/
theorem fault?_sorted_eq_none_iff (r : Rule) : r.sorted.fault? = none ↔ r.fault? = none :=
  fault?_sorted_iff_of_functions fun f _ => f.fault?_sorted_eq_none_iff

/-! ## The order of the fields -/

section Order

variable {fields others : List (String × RuleFunction)}

/-- What a rule is written as does not show the order of its fields. -/
theorem toJson_mk_of_perm (hperm : fields.Perm others) (hnames : (fields.map (·.1)).Nodup)
    (shortcut : Option RuleFunction) (malformed : Option Json) :
    (mk shortcut fields malformed).toJson = (mk shortcut others malformed).toJson := by
  have hkeys : ((fieldsToJson fields).map (·.1)).Nodup := by
    rw [fieldsToJson_eq_map, List.map_map]
    exact hnames
  have hmembers : (fieldsToJson fields).Perm (fieldsToJson others) := by
    rw [fieldsToJson_eq_map, fieldsToJson_eq_map]
    exact hperm.map _
  have hlist := Entries.ofList_eq_of_perm hmembers hkeys
  cases malformed with
  | some raw => cases shortcut <;> rfl
  | none => cases shortcut <;> simp only [toJson, hlist]

/-- The result of a rule does not show the order of its fields. -/
theorem walkAt_mk_of_perm (t : Accessors E) (bound : Nat) (hperm : fields.Perm others)
    (hnames : (fields.map (·.1)).Nodup) (shortcut : Option RuleFunction) (malformed : Option Json)
    (e : E) (depth : Nat) :
    (mk shortcut fields malformed).walkAt t bound e depth
      = (mk shortcut others malformed).walkAt t bound e depth := by
  have hkeys : ((walkFields t bound fields e (depth + 1)).map (·.1)).Nodup := by
    rw [walkFields_eq_map, List.map_map]
    exact hnames
  have hresults : (walkFields t bound fields e (depth + 1)).Perm
      (walkFields t bound others e (depth + 1)) := by
    rw [walkFields_eq_map, walkFields_eq_map]
    exact hperm.map _
  cases shortcut with
  | some f => rw [walkAt, walkAt]
  | none => rw [walkAt, walkAt, Entries.ofList_eq_of_perm hresults hkeys]

end Order

/-! ## The walk -/

/-- A rule that repeats no name is walked as its sorted form is, if that is so of its functions. -/
theorem walkAt_sorted_of_functions (t : Accessors E) (bound : Nat) {r : Rule}
    (hnames : (r.fields.map (·.1)).Nodup)
    (h : ∀ f ∈ r.functions, ∀ e depth,
      f.sorted.evaluateAt t bound e depth = f.evaluateAt t bound e depth)
    (e : E) (depth : Nat) : r.sorted.walkAt t bound e depth = r.walkAt t bound e depth := by
  obtain ⟨shortcut, fields, malformed⟩ := r
  obtain ⟨hshortcut, hfields⟩ := forall_functions_iff.mp h
  cases shortcut with
  | some f => simp only [sorted, walkAt, hshortcut f rfl]
  | none =>
    have hkeys : ((fields.map fun p => (p.1, p.2.sorted)).map (·.1)).Nodup := by
      rw [List.map_map]
      exact hnames
    have hresults : walkFields t bound (fields.map fun p => (p.1, p.2.sorted)) e (depth + 1)
        = walkFields t bound fields e (depth + 1) := by
      rw [walkFields_eq_map, walkFields_eq_map, List.map_map]
      apply List.map_congr_left
      intro p hp
      simp only [Function.comp_apply, hfields p hp]
    rw [sorted_mk, Option.map_none, ← walkAt_mk_of_perm t bound (Entries.sorted_perm _).symm hkeys,
      walkAt, walkAt, hresults]

/-! ## Rules that were read -/

theorem sorted_ofJson_obj {members : List (String × Json)} (hkeys : Entries.Ordered members)
    (h : ∀ m ∈ members, (RuleFunction.ofJson m.2).sorted = RuleFunction.ofJson m.2) :
    (ofJson (.obj members)).sorted = ofJson (.obj members) := by
  have hfields : Entries.Ordered ((members.filter fun m => !isShortcut m).map
      fun m => (m.1, RuleFunction.ofJson m.2)) :=
    (Entries.ordered_map_iff _ _).mpr (hkeys.filter _)
  have hsame : ((members.filter fun m => !isShortcut m).map
      (fun m => (m.1, RuleFunction.ofJson m.2))).map (fun p => (p.1, p.2.sorted))
        = (members.filter fun m => !isShortcut m).map fun m => (m.1, RuleFunction.ofJson m.2) := by
    rw [Entries.map_values_eq_self_iff]
    intro p hp
    obtain ⟨m, hm, rfl⟩ := List.mem_map.mp hp
    exact h m (List.mem_filter.mp hm).1
  rw [ofJson_obj, sorted_mk, hsame, Entries.sorted_eq_self hfields]
  congr 1
  cases hfind : members.find? isShortcut with
  | none => rfl
  | some m => simp only [Option.map_some, h m (List.mem_of_find?_eq_some hfind)]

theorem sorted_ofWord (raw : Json) (word : String) (name : Option String) (rule : Rule)
    (h : rule.sorted = rule) :
    (RuleFunction.ofWord raw word name rule).sorted = RuleFunction.ofWord raw word name rule := by
  rcases Operator.tag_or_unknown word with ⟨op, rfl⟩ | ⟨hnone, _⟩
  · rw [RuleFunction.ofWord_tag]
    cases op <;> cases name <;>
      simp only [Operator.function?, Option.getD_some, Option.getD_none, RuleFunction.sorted, h]
  · rw [RuleFunction.ofWord_of_unknown hnone]
    rfl

theorem sorted_notARule (raw : Json) : (notARule raw).sorted = notARule raw := by
  rw [notARule, sorted_mk, List.map_nil, Entries.sorted_eq_self .nil, Option.map_none]

/-- What is read from a value whose members are listed in the order of their keys is sorted, in the
place of a rule and in the place of a function. -/
theorem sorted_ofJson_and_sorted_ofJson (v : Json) (h : v.Ordered) :
    (ofJson v).sorted = ofJson v ∧ (RuleFunction.ofJson v).sorted = RuleFunction.ofJson v := by
  induction v using Written.induction with
  | stray v hstray => cases hstray <;> exact ⟨sorted_notARule _, rfl⟩
  | str word => exact ⟨sorted_notARule _, sorted_ofWord _ _ _ _ (sorted_notARule _)⟩
  | arr word args ih =>
    refine ⟨sorted_notARule _, ?_⟩
    rw [RuleFunction.ofJson_arr]
    exact sorted_ofWord _ _ _ _ (ih h.third).1
  | obj members ih =>
    obtain ⟨hkeys, hvalues⟩ := Json.ordered_obj.mp h
    have hrule := sorted_ofJson_obj hkeys fun m hm => (ih m hm (hvalues m hm)).2
    exact ⟨hrule, by rw [RuleFunction.ofJson_obj, RuleFunction.sorted, hrule]⟩

/-- A rule that was read is sorted. -/
theorem sorted_ofJson {v : Json} (h : v.Ordered) : (ofJson v).sorted = ofJson v :=
  (sorted_ofJson_and_sorted_ofJson v h).1

end Rule

end Gleaner
