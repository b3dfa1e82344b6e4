import Gleaner.Proofs.Rule.Building
import Gleaner.Proofs.Rule.Sorting

set_option autoImplicit false

/-! # What a rule holds under a name

A rule that is built field by field remembers of the calls that built it only the last one for each
name. `Rule.function?` is what it holds under a name, with the shortcut under a name of its own:
`Rule.function?_field` says what one call does to it and `Rule.function?_build` what a whole run of
calls comes to. A tidy rule is told by what it holds, up to the order of its fields, and this order
shows neither when the rule is written nor when it is walked. A rule that is read from an object is
the rule that is built from the members one after the other (`Rule.build_members`), fields in the same
order. -/

namespace Gleaner

namespace Rule

/-- The function that is held under a name; the shortcut is held under its own name. -/
def function? (r : Rule) (name : String) : Option RuleFunction :=
  (if name = shortcutName then r.shortcut? else none).or (Entries.get? name r.fields)

/-- The names under which functions are held, that of the shortcut first. -/
def names (r : Rule) : List String :=
  (r.shortcut?.map fun _ => shortcutName).toList ++ r.fields.map (·.1)

/-- The function of the last call for a name. -/
def lastCall? (calls : List (String × RuleFunction)) (name : String) : Option RuleFunction :=
  Entries.get? name calls.reverse

/-! ## One call and a run of calls -/

/-- A call sets what is held under its name and nothing else. -/
theorem function?_field (r : Rule) (name : String) (f : RuleFunction) (other : String) :
    (r.field name f).function? other = if other = name then some f else r.function? other := by
  have hothers : Entries.get? other (r.fields.filter fun p => p.1 != name)
      = if other = name then none else Entries.get? other r.fields := Entries.get?_filter_ne ..
  obtain ⟨hname, hf, heq⟩ | ⟨hname, hf, heq⟩ | ⟨hname, heq⟩ := r.field_cases name f
  · rw [heq, function?, shortcut?, fields, hothers, function?, ← hname]
    by_cases h : other = name <;> simp [h]
  · rw [heq, function?, shortcut?, fields, Entries.get?_append, hothers, function?, ← hname]
    by_cases h : other = name <;> simp [h, Entries.get?]
  · rw [heq, function?, shortcut?, fields, Entries.get?_append, hothers, function?]
    by_cases h : other = name
    · simp [h, hname, Entries.get?]
    · simp [h, Entries.get?]

theorem function?_foldl_field (calls : List (String × RuleFunction)) (r : Rule) (name : String) :
    (calls.foldl (fun r call => r.field call.1 call.2) r).function? name
      = (lastCall? calls name).or (r.function? name) := by
  induction calls generalizing r with
  | nil => rfl
  | cons call rest ih =>
    rw [List.foldl_cons, ih, function?_field, lastCall?, lastCall?, List.reverse_cons,
      Entries.get?_append, Option.or_assoc]
    congr 1
    by_cases h : name = call.1 <;> simp [h, Entries.get?]

/-- After a run of calls every name holds the function of its last call, and a name without a call
holds none. -/
theorem function?_build (calls : List (String × RuleFunction)) (name : String) :
    (build calls).function? name = lastCall? calls name := by
  have hempty : empty.function? name = none := by
    simp [function?, empty, shortcut?, fields, Entries.get?]
  rw [build, function?_foldl_field, hempty, Option.or_none]

/-! ## Tidy rules -/

/-- In a tidy rule, no name occurs twice. -/
theorem Tidy.nodup_names {r : Rule} (h : r.Tidy) : r.names.Nodup := by
  obtain ⟨shortcut, fields, malformed⟩ := r
  have hnodup : (fields.map (·.1)).Nodup := h.names_nodup
  cases shortcut with
  | none => exact hnodup
  | some f =>
    have hother : ∀ p ∈ fields, p.1 ≠ shortcutName := h.shortcut_alone rfl
    refine List.nodup_cons.mpr ⟨fun hmem => ?_, hnodup⟩
    obtain ⟨p, hp, hname⟩ := List.mem_map.mp hmem
    exact hother p hp hname

/-- Beside a shortcut no field has its name. -/
theorem Tidy.get?_fields_of_shortcut {r : Rule} (h : r.Tidy) {f : RuleFunction}
    (hshortcut : r.shortcut? = some f) : Entries.get? shortcutName r.fields = none := by
  cases hget : Entries.get? shortcutName r.fields with
  | none => rfl
  | some g =>
    have hmem := (Entries.mem_iff_get?_eq_some h.names_nodup).mpr hget
    exact absurd rfl (h.shortcut_alone (by rw [hshortcut]; rfl) _ hmem)

/-- A field with the name of the shortcut is false. -/
theorem Tidy.isTruthy_of_get?_fields {r : Rule} (h : r.Tidy) {g : RuleFunction}
    (hget : Entries.get? shortcutName r.fields = some g) : g.isTruthy = false :=
  h.named_falsy _ ((Entries.mem_iff_get?_eq_some h.names_nodup).mpr hget) rfl

/-- The shortcut of a tidy rule is what is held under its name, if that is true. -/
theorem Tidy.shortcut?_eq {r : Rule} (h : r.Tidy) :
    r.shortcut? = (r.function? shortcutName).filter (·.isTruthy) := by
  rw [function?, if_pos rfl]
  cases hshortcut : r.shortcut? with
  | some f => simp [Option.filter_some, h.shortcut_truthy f hshortcut]
  | none =>
    cases hget : Entries.get? shortcutName r.fields with
    | none => rfl
    | some g => simp [Option.filter_some, h.isTruthy_of_get?_fields hget]

/-- What is held under a name is a field, unless it is the shortcut. -/
theorem Tidy.get?_fields {r : Rule} (h : r.Tidy) (name : String) :
    Entries.get? name r.fields
      = (r.function? name).filter fun f => name != shortcutName || !f.isTruthy := by
  by_cases hname : name = shortcutName
  · subst hname
    rw [function?, if_pos rfl]
    cases hshortcut : r.shortcut? with
    | some f =>
      simp [Option.filter_some, h.get?_fields_of_shortcut hshortcut, h.shortcut_truthy f hshortcut]
    | none =>
      cases hget : Entries.get? shortcutName r.fields with
      | none => rfl
      | some g => simp [Option.filter_some, h.isTruthy_of_get?_fields hget]
  · rw [function?, if_neg hname]
    cases Entries.get? name r.fields <;> simp [Option.filter_some, hname]

/-! ## Rules that hold the same -/

/-- Tidy rules that hold the same functions have the same shortcut, and the same fields up to their
order. -/
theorem Tidy.eq_mk_of_function? {r other : Rule} (h : r.Tidy) (hother : other.Tidy)
    (hsame : ∀ name, r.function? name = other.function? name) :
    ∃ shortcut fields others, r = Rule.mk shortcut fields none ∧ other = Rule.mk shortcut others none
      ∧ fields.Perm others ∧ (fields.map (·.1)).Nodup := by
  have hshortcut : r.shortcut? = other.shortcut? := by rw [h.shortcut?_eq, hother.shortcut?_eq, hsame]
  have hperm : r.fields.Perm other.fields :=
    Entries.perm_of_get?_eq h.names_nodup hother.names_nodup fun name => by
      rw [h.get?_fields, hother.get?_fields, hsame]
  have hnames := h.names_nodup
  have hwritten := h.written
  have hwritten' := hother.written
  obtain ⟨shortcut, fields, malformed⟩ := r
  obtain ⟨shortcut', others, malformed'⟩ := other
  cases hshortcut
  cases hwritten
  cases hwritten'
  exact ⟨shortcut, fields, others, rfl, rfl, hperm, hnames⟩

end Rule

/-! ## Rules that are read from objects -/

/-- What is read from a value is true exactly if the value is. -/
theorem RuleFunction.isTruthy_ofJson (v : Json) : (ofJson v).isTruthy = v.isTruthy := by
  induction v using Written.induction with
  | stray v h => cases h <;> rfl
  | str word =>
    rw [ofJson]
    rcases Operator.tag_or_unknown word with ⟨op, rfl⟩ | ⟨hnone, -⟩
    · cases op <;> rfl
    · rw [ofWord_of_unknown hnone]
      rfl
  | arr word args =>
    rw [ofJson_arr]
    rcases Operator.tag_or_unknown word with ⟨op, rfl⟩ | ⟨hnone, -⟩
    · cases op <;> cases args.head?.bind Json.name? <;> rfl
    · rw [ofWord_of_unknown hnone]
      rfl
  | obj members => rfl

namespace Rule

/-- One more member, under a name that is new, is one more call. -/
theorem field_ofJson_obj {members : List (String × Json)} {m : String × Json}
    (hnew : ∀ other ∈ members, other.1 ≠ m.1) :
    (ofJson (.obj members)).field m.1 (RuleFunction.ofJson m.2)
      = ofJson (.obj (members ++ [m])) := by
  have hothers : (((members.filter fun m => !isShortcut m).map fun m =>
      (m.1, RuleFunction.ofJson m.2)).filter fun p => p.1 != m.1)
        = (members.filter fun m => !isShortcut m).map fun m => (m.1, RuleFunction.ofJson m.2) := by
    rw [List.filter_eq_self]
    intro p hp
    obtain ⟨other, hmem, rfl⟩ := List.mem_map.mp hp
    exact bne_iff_ne.mpr (hnew other (List.mem_filter.mp hmem).1)
  -- Under the name of the shortcut the rule holds nothing yet.
  have hnone (hname : m.1 = shortcutName) : members.find? isShortcut = none := by
    rw [List.find?_eq_none]
    intro other hmem hshortcut
    exact hnew other hmem ((isShortcut_iff.mp hshortcut).1.trans hname.symm)
  have hcases := (ofJson (.obj members)).field_cases m.1 (RuleFunction.ofJson m.2)
  rw [RuleFunction.isTruthy_ofJson] at hcases
  simp only [ofJson_obj, shortcut?, fields, malformed?, hothers] at hcases
  rw [ofJson_obj, ofJson_obj, List.find?_append, List.filter_append]
  obtain ⟨hname, htruthy, heq⟩ | ⟨hname, hfalsy, heq⟩ | ⟨hname, heq⟩ := hcases
  · have hm : isShortcut m = true := isShortcut_iff.mpr ⟨hname, htruthy⟩
    rw [heq, hnone hname]
    simp [hm]
  · have hm : isShortcut m = false := by simp [isShortcut, hfalsy]
    rw [heq, hnone hname]
    simp [hm]
  · have hm : isShortcut m = false := by simp [isShortcut, hname]
    rw [heq]
    cases members.find? isShortcut <;> simp [hm]

/-- Reading the members of an object one after the other. -/
theorem foldl_field_ofJson_obj (members : List (String × Json)) {rest : List (String × Json)}
    (h : Entries.Ordered (members ++ rest)) :
    (rest.map fun m => (m.1, RuleFunction.ofJson m.2)).foldl (fun r call => r.field call.1 call.2)
        (ofJson (.obj members)) = ofJson (.obj (members ++ rest)) := by
  induction rest generalizing members with
  | nil => simp
  | cons m rest ih =>
    have hnew : ∀ other ∈ members, other.1 ≠ m.1 := by
      intro other hother heq
      have hlt := (List.pairwise_append.mp h).2.2 other hother m List.mem_cons_self
      exact String.lt_irrefl m.1 (heq ▸ hlt)
    have hrest : Entries.Ordered ((members ++ [m]) ++ rest) := by simpa using h
    rw [List.map_cons, List.foldl_cons, field_ofJson_obj hnew, ih _ hrest, List.append_assoc,
      List.singleton_append]

/-- The rule that is built from the members of an object is the rule that is read from it. -/
theorem build_members {members : List (String × Json)} (h : Entries.Ordered members) :
    build (members.map fun m => (m.1, RuleFunction.ofJson m.2)) = ofJson (.obj members) :=
  foldl_field_ofJson_obj [] h

/-! ## Main result -/

/-- A run of calls, whatever it sets again, leaves each name at most once, with the function of its last
call; the last function under the name of the shortcut is the shortcut if it is true, and a field like
any other if it is false. So it matters neither in which order names are set nor what is replaced later:
with the same last calls the rule is written and walked alike. The calls for the members of an object, in
the order of their keys, build the rule that is read from it. -/
theorem build_keeps_lastCall (calls : List (String × RuleFunction)) :
    (build calls).names.Nodup
      ∧ (∀ name, (build calls).function? name = lastCall? calls name)
      ∧ (build calls).shortcut? = (lastCall? calls shortcutName).filter (·.isTruthy)
      ∧ (∀ name, Entries.get? name (build calls).fields
        = (lastCall? calls name).filter fun f => name != shortcutName || !f.isTruthy)
      ∧ (∀ others, (∀ name, lastCall? others name = lastCall? calls name) →
        (build others).toJson = (build calls).toJson
          ∧ ∀ (E : Type) (t : Accessors E) (bound : Nat) (e : E),
            (build others).walk t bound e = (build calls).walk t bound e)
      ∧ ∀ members, Entries.Ordered members →
        build (members.map fun m => (m.1, RuleFunction.ofJson m.2)) = ofJson (.obj members) := by
  have htidy := tidy_build calls
  refine ⟨htidy.nodup_names, function?_build calls, ?_, fun name => ?_, fun others hothers => ?_,
    fun members => build_members⟩
  · rw [htidy.shortcut?_eq, function?_build]
  · rw [htidy.get?_fields, function?_build]
  · have hsame (name : String) : (build others).function? name = (build calls).function? name := by
      rw [function?_build, function?_build, hothers]
    obtain ⟨shortcut, fields, fields', hleft, hright, hperm, hnames⟩ :=
      (tidy_build others).eq_mk_of_function? htidy hsame
    rw [hleft, hright]
    exact ⟨toJson_mk_of_perm hperm hnames shortcut none, fun E t bound e =>
      walkAt_mk_of_perm t bound hperm hnames shortcut none e 0⟩

/-- The title is set twice, and what is set for the whole is taken back by something false; a run that is
shorter and in another order builds the same. -/
theorem build_title_again :
    (build [("title", .text), ("_", .html), ("link", .attr "href"), ("_", .invalid .null),
        ("title", .value)]).toJson
      = (build [("_", .invalid .null), ("title", .value), ("link", .attr "href")]).toJson
    ∧ build [("_", RuleFunction.ofJson .null), ("title", RuleFunction.ofJson (.str "value"))]
      = ofJson (.obj [("_", .null), ("title", .str "value")]) := by
  obtain ⟨-, -, -, -, hsame, hread⟩ :=
    build_keeps_lastCall [("_", .invalid .null), ("title", .value), ("link", .attr "href")]
  constructor
  · refine (hsame _ fun name => ?_).1
    by_cases hshortcut : name = "_"
    · subst hshortcut
      rfl
    · by_cases htitle : name = "title"
      · subst htitle
        rfl
      · simp [lastCall?, Entries.get?, hshortcut, htitle]
  · exact hread [("_", .null), ("title", .str "value")] (by unfold Entries.Ordered; decide)

end Rule

end Gleaner
