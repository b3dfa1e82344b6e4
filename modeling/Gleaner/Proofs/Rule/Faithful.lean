import Gleaner.Element
import Gleaner.Html.Reader
import Gleaner.Proofs.Rule.Building
import Gleaner.Proofs.Rule.Sorting

set_option autoImplicit false

/-! # Rules that survive being written

A rule that is built from functions can hold what no written rule can: a rule that is no object in
the place of a function, or a word that is a function but is kept as if it were none.
`Rule.Faithful` leaves these out and nothing else. A faithful rule that is written and read again is
the rule with its fields in order (`Rule.ofJson_toJson_eq_sorted`), whatever the order in which it
was built, and so it is walked and checked as before. -/

namespace Gleaner

mutual

/-- The rule is built of faithful functions. -/
inductive Rule.Faithful : Rule → Prop where
  | build (calls : List (String × RuleFunction)) (h : ∀ call ∈ calls, RuleFunction.Faithful call.2) :
    Rule.Faithful (Rule.build calls)

/-- The function is one that a written rule can hold. The rule of a search may also be one that was
read, from whatever value; the members of a value are listed in the order of their keys. -/
inductive RuleFunction.Faithful : RuleFunction → Prop where
  | text : RuleFunction.Faithful .text
  | value : RuleFunction.Faithful .value
  | html : RuleFunction.Faithful .html
  | css (property : String) : RuleFunction.Faithful (.css property)
  | data (key : String) : RuleFunction.Faithful (.data key)
  | attr (name : String) : RuleFunction.Faithful (.attr name)
  | prop (name : String) : RuleFunction.Faithful (.prop name)
  | findOne (selector : String) (rule : Rule) (h : Rule.Faithful rule) :
    RuleFunction.Faithful (.findOne selector rule)
  | findOneRead (selector : String) (v : Json) (h : v.Ordered) :
    RuleFunction.Faithful (.findOne selector (Rule.ofJson v))
  | find (selector : String) (rule : Rule) (h : Rule.Faithful rule) :
    RuleFunction.Faithful (.find selector rule)
  | findRead (selector : String) (v : Json) (h : v.Ordered) :
    RuleFunction.Faithful (.find selector (Rule.ofJson v))
  | nested (rule : Rule) (h : Rule.Faithful rule) : RuleFunction.Faithful (.nested rule)
  | invalid (raw : Json) (h : RuleFunction.ofJson raw = .invalid raw) :
    RuleFunction.Faithful (.invalid raw)

end

namespace Rule

theorem Faithful.tidy {r : Rule} (h : r.Faithful) : r.Tidy := by
  obtain ⟨calls, -⟩ := h
  exact tidy_build calls

theorem Faithful.functions {r : Rule} (h : r.Faithful) : ∀ f ∈ r.functions, f.Faithful := by
  obtain ⟨calls, hcalls⟩ := h
  exact forall_functions_build hcalls

/-! ## Writing and reading one rule -/

/-- The members that fields are written as are read as the fields in order. -/
theorem ofJson_sorted_fields {fields : List (String × RuleFunction)}
    (h : ∀ p ∈ fields, RuleFunction.ofJson p.2.toJson = p.2.sorted) :
    ((Entries.sorted fields).map fun p => (p.1, p.2.toJson)).map
        (fun m => (m.1, RuleFunction.ofJson m.2))
      = Entries.sorted (fields.map fun p => (p.1, p.2.sorted)) := by
  rw [List.map_map, Entries.sorted_map]
  apply List.map_congr_left
  intro p hp
  simp only [Function.comp_apply, h p ((Entries.sorted_perm fields).mem_iff.mp hp)]

/-- A tidy rule is read again as its sorted form if its functions are, and if what is true about them
is written as something true. -/
theorem ofJson_toJson_of_functions {r : Rule} (hr : r.Tidy)
    (h : ∀ f ∈ r.functions, RuleFunction.ofJson f.toJson = f.sorted
      ∧ f.toJson.isTruthy = f.isTruthy) : ofJson r.toJson = r.sorted := by
  obtain ⟨shortcut, fields, malformed⟩ := r
  obtain ⟨hshortcut, hfields⟩ := forall_functions_iff.mp h
  have hmalformed : malformed = none := hr.written
  have hnodup : (fields.map (·.1)).Nodup := hr.names_nodup
  have hentries : Entries.ofList (fieldsToJson fields)
      = (Entries.sorted fields).map fun p => (p.1, p.2.toJson) := by
    rw [fieldsToJson_eq_map, ← Entries.sorted_map]
    exact Entries.ofList_eq_sorted (by rw [List.map_map]; exact hnodup)
  have hread := ofJson_sorted_fields fun p hp => (hfields p hp).1
  rw [hmalformed, sorted_mk, ← hread]
  cases shortcut with
  | none =>
    -- A field under the name of the shortcut is false, and so is what it is written as.
    have hnone : ((Entries.sorted fields).map fun p => (p.1, p.2.toJson)).find? isShortcut
        = none := by
      rw [List.find?_eq_none]
      intro m hm
      obtain ⟨p, hp, rfl⟩ := List.mem_map.mp hm
      have hmem := (Entries.sorted_perm fields).mem_iff.mp hp
      rw [isShortcut_iff, not_and, (hfields p hmem).2]
      intro hname
      simp [hr.named_falsy p hmem hname]
    rw [toJson, hentries, ofJson_obj, hnone, filter_not_isShortcut_of_none hnone]
    rfl
  | some f =>
    have hother : ∀ m ∈ (Entries.sorted fields).map fun p => (p.1, p.2.toJson),
        m.1 ≠ shortcutName := by
      intro m hm
      obtain ⟨p, hp, rfl⟩ := List.mem_map.mp hm
      exact hr.shortcut_alone rfl p ((Entries.sorted_perm fields).mem_iff.mp hp)
    have hkeys : Entries.Ordered (Entries.insert shortcutName f.toJson
        ((Entries.sorted fields).map fun p => (p.1, p.2.toJson))) :=
      Entries.ordered_insert ((Entries.ordered_map_iff _ _).mpr (Entries.ordered_sorted hnodup))
    have htrue : isShortcut (shortcutName, f.toJson) = true :=
      isShortcut_iff.mpr ⟨rfl, (hshortcut f rfl).2.trans (hr.shortcut_truthy f rfl)⟩
    have hfind := find?_isShortcut_of_mem hkeys
      (Entries.mem_insert_self shortcutName f.toJson _) htrue
    rw [toJson, hentries, ofJson_obj, hfind, filter_not_isShortcut_of_some hkeys hfind,
      Entries.filter_ne_insert hother, Option.map_some, Option.map_some, (hshortcut f rfl).1]

/-- A tidy rule is written as an object. -/
theorem Tidy.isTruthy_toJson {r : Rule} (h : r.Tidy) : r.toJson.isTruthy = true := by
  obtain ⟨shortcut, fields, malformed⟩ := r
  have hmalformed : malformed = none := h.written
  rw [hmalformed]
  cases shortcut <;> rfl

/-- A rule that was read is written and read as itself. -/
theorem ofJson_toJson_ofJson {v : Json} (h : v.Ordered) :
    ofJson (ofJson v).toJson = (ofJson v).sorted := by
  rw [(toJson_ofJson_and_toJson_ofJson v h).1, (ofJson_canonRule_and_ofJson_canonFunction v).1,
    sorted_ofJson h]

end Rule

namespace RuleFunction

/-! ## Writing and reading a function -/

/-- A faithful function is true exactly if what it is written as is true. -/
theorem Faithful.isTruthy_toJson {f : RuleFunction} (h : f.Faithful) :
    f.toJson.isTruthy = f.isTruthy := by
  cases h with
  | nested rule h => exact h.tidy.isTruthy_toJson
  | _ => rfl

theorem ofJson_findOne (selector : String) (rule : Json) :
    ofJson (.arr [.str Operator.findOne.tag, .str selector, rule])
      = .findOne selector (Rule.ofJson rule) := rfl

theorem ofJson_find (selector : String) (rule : Json) :
    ofJson (.arr [.str Operator.find.tag, .str selector, rule])
      = .find selector (Rule.ofJson rule) := rfl

/-- What a tidy rule is written as is an object, so it is read as a function that nests a rule. -/
theorem ofJson_toJson_of_tidy {r : Rule} (h : r.Tidy) :
    ofJson r.toJson = .nested (Rule.ofJson r.toJson) := by
  obtain ⟨shortcut, fields, malformed⟩ := r
  have hmalformed : malformed = none := h.written
  rw [hmalformed]
  cases shortcut <;> exact ofJson_obj _

/-- A faithful rule is read again as its sorted form if its faithful functions are. -/
theorem ofJson_toJson_of_faithful {r : Rule} (h : r.Faithful)
    (hfunctions : ∀ f ∈ r.functions, f.Faithful → ofJson f.toJson = f.sorted) :
    Rule.ofJson r.toJson = r.sorted :=
  Rule.ofJson_toJson_of_functions h.tidy fun f hf =>
    ⟨hfunctions f hf (h.functions f hf), (h.functions f hf).isTruthy_toJson⟩

/-- A faithful function is read again as its sorted form. -/
theorem Faithful.ofJson_toJson {f : RuleFunction} (h : f.Faithful) : ofJson f.toJson = f.sorted := by
  induction f with
  | findOne selector rule ih =>
    rw [toJson, ofJson_findOne, sorted]
    cases h with
    | findOne _ _ h => rw [ofJson_toJson_of_faithful h ih]
    | findOneRead _ v h => rw [Rule.ofJson_toJson_ofJson h]
  | find selector rule ih =>
    rw [toJson, ofJson_find, sorted]
    cases h with
    | find _ _ h => rw [ofJson_toJson_of_faithful h ih]
    | findRead _ v h => rw [Rule.ofJson_toJson_ofJson h]
  | nested rule ih =>
    cases h with
    | nested _ h =>
      rw [toJson, ofJson_toJson_of_tidy h.tidy, sorted, ofJson_toJson_of_faithful h ih]
  | invalid raw =>
    cases h with
    | invalid _ h => exact h
  | _ => rfl

/-! ## Walking the sorted form -/

variable {E : Type}

/-- A faithful rule walks as its sorted form if its faithful functions do. -/
theorem walkAt_sorted_of_faithful (t : Accessors E) (bound : Nat) {r : Rule} (h : r.Faithful)
    (hfunctions : ∀ f ∈ r.functions, f.Faithful → ∀ e depth,
      f.sorted.evaluateAt t bound e depth = f.evaluateAt t bound e depth) (e : E) (depth : Nat) :
    r.sorted.walkAt t bound e depth = r.walkAt t bound e depth :=
  Rule.walkAt_sorted_of_functions t bound h.tidy.names_nodup
    (fun f hf => hfunctions f hf (h.functions f hf)) e depth

theorem Faithful.evaluateAt_sorted {f : RuleFunction} (h : f.Faithful) (t : Accessors E)
    (bound : Nat) (e : E) (depth : Nat) :
    f.sorted.evaluateAt t bound e depth = f.evaluateAt t bound e depth := by
  induction f generalizing e depth with
  | findOne selector rule ih =>
    cases h with
    | findOne _ _ h => simp only [sorted, evaluateAt, walkAt_sorted_of_faithful t bound h ih]
    | findOneRead _ v h => rw [sorted, Rule.sorted_ofJson h]
  | find selector rule ih =>
    cases h with
    | find _ _ h => simp only [sorted, evaluateAt, walkAt_sorted_of_faithful t bound h ih]
    | findRead _ v h => rw [sorted, Rule.sorted_ofJson h]
  | nested rule ih =>
    cases h with
    | nested _ h => simp only [sorted, evaluateAt, walkAt_sorted_of_faithful t bound h ih]
  | _ => rfl

end RuleFunction

/-! ## Main result -/

/-- A faithful rule that is written and read again is the rule with its fields, and those of all rules
inside it, in the order of their names: the shortcut is the same, the fields are the same functions
under the same names, and no name occurs twice. So the rule that is read gives the same result for
every element and every bound, and has faults exactly if the rule has them. -/
theorem Rule.ofJson_toJson_eq_sorted (r : Rule) (h : r.Faithful) :
    ofJson r.toJson = r.sorted
      ∧ (ofJson r.toJson).shortcut? = r.shortcut?.map (·.sorted)
      ∧ (ofJson r.toJson).fields.Perm (r.fields.map fun p => (p.1, p.2.sorted))
      ∧ Entries.Ordered (ofJson r.toJson).fields
      ∧ (∀ (E : Type) (t : Accessors E) (bound : Nat) (e : E),
        (ofJson r.toJson).walk t bound e = r.walk t bound e)
      ∧ ((ofJson r.toJson).fault? = none ↔ r.fault? = none) := by
  have hread : ofJson r.toJson = r.sorted :=
    RuleFunction.ofJson_toJson_of_faithful h fun _ _ hf => hf.ofJson_toJson
  have hnames : ((r.fields.map fun p => (p.1, p.2.sorted)).map (·.1)).Nodup := by
    rw [List.map_map]
    exact h.tidy.names_nodup
  have hmk : r.sorted = mk (r.shortcut?.map (·.sorted))
      (Entries.sorted (r.fields.map fun p => (p.1, p.2.sorted))) r.malformed? := by
    obtain ⟨shortcut, fields, malformed⟩ := r
    exact sorted_mk shortcut fields malformed
  rw [hread]
  refine ⟨rfl, by rw [hmk, shortcut?], ?_, ?_, ?_, r.fault?_sorted_eq_none_iff⟩
  · rw [hmk, fields]
    exact Entries.sorted_perm _
  · rw [hmk, fields]
    exact Entries.ordered_sorted hnames
  · intro E t bound e
    exact RuleFunction.walkAt_sorted_of_faithful t bound h
      (fun _ _ hf => hf.evaluateAt_sorted t bound) e 0

/-- The items of a page: a name is set twice, the function under the name of the shortcut is false, and
inside a search stands a value that is no rule. -/
theorem Rule.ofJson_toJson_of_items_and_title :
    (build [("title", .text), ("items", .find "li" (build [("_", .text)])),
        ("title", .findOne "ul" (ofJson (.str "text"))), ("_", .invalid .null)]).Faithful
      ∧ (ofJson (build [("title", .text), ("items", .find "li" (build [("_", .text)])),
          ("title", .findOne "ul" (ofJson (.str "text"))), ("_", .invalid .null)]).toJson).walk
          (Element.accessors id) 3 (Html.Page.read "<ul><li>a<li>b</ul>").top
        = .obj [("_", .null), ("items", .arr [.str "a", .str "b"]), ("title", .obj [])] := by
  have hitem : (build [("_", .text)]).Faithful := .build _ (by simpa using RuleFunction.Faithful.text)
  have hlist : (build [("title", .text), ("items", .find "li" (build [("_", .text)])),
      ("title", .findOne "ul" (ofJson (.str "text"))), ("_", .invalid .null)]).Faithful := by
    refine .build _ fun call hcall => ?_
    simp only [List.mem_cons, List.not_mem_nil, or_false] at hcall
    rcases hcall with rfl | rfl | rfl | rfl
    · exact .text
    · exact .find "li" _ hitem
    · exact .findOneRead "ul" (.str "text") (by decide)
    · exact .invalid .null (by decide)
  refine ⟨hlist, ?_⟩
  rw [(ofJson_toJson_eq_sorted _ hlist).2.2.2.2.1]
  decide +kernel

end Gleaner
