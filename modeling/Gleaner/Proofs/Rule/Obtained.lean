import Gleaner.Element
import Gleaner.Html.Reader
import Gleaner.Proofs.Rule.Names

set_option autoImplicit false

/-! # Setting a function on any rule

A rule is had by building it, by reading it from a value or a text, and by setting functions on what was
had so. `Rule.Obtained` lists these ways, and `Rule.Keeps` is what should come of setting one more
function: all that the rule holds is written, and looked at by the check.

A rule that was read from an object is as tidy as one that was built, and a tidy rule is written as what
it holds (`Rule.Tidy.get?_toJson`) and is free of faults if all that it holds is
(`Rule.Tidy.fault?_eq_none_iff_function?`). What is no object is read as a rule without functions that
keeps the value, and setting functions on it does not take the value away: the functions are applied,
but they are neither written nor checked (`Rule.keeps_or_stray`). -/

namespace Gleaner.Rule

/-! ## The ways to a rule -/

/-- The rule can be had. The members of a value are listed in the order of their keys. -/
inductive Obtained : Rule → Prop where
  | new : Obtained empty
  | html : Obtained html
  | single (f : RuleFunction) : Obtained (single f)
  | ofJson (v : Json) (h : v.Ordered) : Obtained (ofJson v)
  | read (s : String) (r : Rule) (h : read s = .ok r) : Obtained r
  | field (r : Rule) (h : Obtained r) (name : String) (f : RuleFunction) : Obtained (r.field name f)

/-- Setting a function under a name loses nothing. -/
structure Keeps (r : Rule) (name : String) (f : RuleFunction) : Prop where
  /-- The function is written under its name, and what the rule holds besides under the other names. -/
  written : ∃ members, (r.field name f).toJson = .obj members
    ∧ Entries.get? name members = some f.toJson
    ∧ ∀ other, other ≠ name → Entries.get? other members = (r.function? other).map (·.toJson)
  /-- Nothing but a fault of a function is a fault. -/
  checked : (r.field name f).fault? = none ↔ f.fault? = none
    ∧ ∀ other g, other ≠ name → r.function? other = some g → g.fault? = none

/-! ## Tidy rules -/

/-- The functions of a tidy rule are those that it holds under some name. -/
theorem Tidy.mem_functions_iff {r : Rule} (h : r.Tidy) {g : RuleFunction} :
    g ∈ r.functions ↔ ∃ name, r.function? name = some g := by
  have hfunctions : g ∈ r.functions ↔ r.shortcut? = some g ∨ ∃ p ∈ r.fields, p.2 = g := by
    obtain ⟨shortcut, fields, malformed⟩ := r
    simp [functions, shortcut?, Rule.fields]
  rw [hfunctions]
  constructor
  · rintro (hshortcut | ⟨p, hp, rfl⟩)
    · exact ⟨shortcutName, by simp [function?, hshortcut]⟩
    · have hget := (Entries.mem_iff_get?_eq_some h.names_nodup).mp hp
      rw [h.get?_fields] at hget
      exact ⟨p.1, (Option.filter_eq_some_iff.mp hget).1⟩
  · rintro ⟨name, hname⟩
    rw [function?, Option.or_eq_some_iff] at hname
    rcases hname with hshortcut | ⟨-, hget⟩
    · split at hshortcut
      · exact Or.inl hshortcut
      · cases hshortcut
    · exact Or.inr ⟨_, (Entries.mem_iff_get?_eq_some h.names_nodup).mpr hget, rfl⟩

/-- A tidy rule is free of faults if all that it holds is. -/
theorem Tidy.fault?_eq_none_iff_function? {r : Rule} (h : r.Tidy) :
    r.fault? = none ↔ ∀ name g, r.function? name = some g → g.fault? = none := by
  rw [fault?_eq_none_iff]
  constructor
  · rintro ⟨-, hall⟩ name g hname
    exact hall g (h.mem_functions_iff.mpr ⟨name, hname⟩)
  · intro hall
    refine ⟨h.written, fun g hg => ?_⟩
    obtain ⟨name, hname⟩ := h.mem_functions_iff.mp hg
    exact hall name g hname

/-- A tidy rule is written as an object with all that it holds and nothing else. -/
theorem Tidy.get?_toJson {r : Rule} (h : r.Tidy) : ∃ members, r.toJson = .obj members
    ∧ ∀ name, Entries.get? name members = (r.function? name).map (·.toJson) := by
  obtain ⟨shortcut, fields, malformed⟩ := r
  obtain rfl : malformed = none := h.written
  have hnames : (fields.map (·.1)).Nodup := h.names_nodup
  have hfields (name : String) : Entries.get? name (Entries.ofList (fieldsToJson fields))
      = (Entries.get? name fields).map (·.toJson) := by
    rw [fieldsToJson_eq_map, Entries.get?_ofList (by rw [List.map_map]; exact hnames),
      Entries.get?_map]
  cases shortcut with
  | none =>
    refine ⟨_, rfl, fun name => ?_⟩
    simp [hfields, function?, shortcut?, Rule.fields]
  | some s =>
    refine ⟨_, rfl, fun name => ?_⟩
    rw [Entries.get?_insert, hfields, function?, shortcut?, Rule.fields]
    by_cases hname : name = shortcutName <;> simp [hname]

/-- Setting a function on a tidy rule loses nothing. -/
theorem Tidy.keeps {r : Rule} (h : r.Tidy) (name : String) (f : RuleFunction) : r.Keeps name f where
  written := by
    obtain ⟨members, hwritten, hget⟩ := (h.field name f).get?_toJson
    refine ⟨members, hwritten, ?_, fun other hother => ?_⟩
    · rw [hget, function?_field, if_pos rfl, Option.map_some]
    · rw [hget, function?_field, if_neg hother]
  checked := by
    rw [(h.field name f).fault?_eq_none_iff_function?]
    constructor
    · intro hall
      refine ⟨hall name f (by rw [function?_field, if_pos rfl]), fun other g hother hg => ?_⟩
      exact hall other g (by rw [function?_field, if_neg hother, hg])
    · rintro ⟨hf, hothers⟩ other g hg
      rw [function?_field] at hg
      split at hg
      · exact Option.some.inj hg ▸ hf
      · next hother => exact hothers other g hother hg

/-! ## What is no object -/

theorem malformed?_field (r : Rule) (name : String) (f : RuleFunction) :
    (r.field name f).malformed? = r.malformed? := by
  obtain ⟨-, -, heq⟩ | ⟨-, -, heq⟩ | ⟨-, heq⟩ := r.field_cases name f <;> rw [heq, malformed?]

theorem malformed?_foldl_field (calls : List (String × RuleFunction)) (r : Rule) :
    (calls.foldl (fun r call => r.field call.1 call.2) r).malformed? = r.malformed? := by
  induction calls generalizing r with
  | nil => rfl
  | cons call rest ih => rw [List.foldl_cons, ih, malformed?_field]

theorem toJson_of_malformed {r : Rule} {raw : Json} (h : r.malformed? = some raw) :
    r.toJson = raw := by
  obtain ⟨shortcut, fields, malformed⟩ := r
  obtain rfl : malformed = some raw := h
  cases shortcut <;> rfl

theorem fault?_of_malformed {r : Rule} {raw : Json} (h : r.malformed? = some raw) :
    r.fault? = some ⟨[], .rule, raw⟩ := by
  obtain ⟨shortcut, fields, malformed⟩ := r
  obtain rfl : malformed = some raw := h
  rfl

/-- The rule comes of setting functions on what was read from a value that is no object. -/
def IsStray (r : Rule) (raw : Json) : Prop :=
  (∀ members, raw ≠ .obj members)
    ∧ ∃ calls : List (String × RuleFunction),
      r = calls.foldl (fun r call => r.field call.1 call.2) (ofJson raw)

theorem IsStray.field {r : Rule} {raw : Json} (h : r.IsStray raw) (name : String)
    (f : RuleFunction) : (r.field name f).IsStray raw := by
  obtain ⟨hraw, calls, rfl⟩ := h
  exact ⟨hraw, calls ++ [(name, f)], by rw [List.foldl_append]; rfl⟩

theorem IsStray.malformed?_eq {r : Rule} {raw : Json} (h : r.IsStray raw) :
    r.malformed? = some raw := by
  obtain ⟨hraw, calls, rfl⟩ := h
  rw [malformed?_foldl_field]
  cases raw with
  | obj members => exact absurd rfl (hraw members)
  | null | bool | num | str | arr => rfl

/-! ## Every rule that can be had -/

/-- A rule that is read is tidy, or what it is read from is no object. -/
theorem tidy_or_isStray_ofJson {v : Json} (h : v.Ordered) :
    (ofJson v).Tidy ∨ (ofJson v).IsStray v := by
  cases v with
  | obj members =>
    rw [← build_members (Json.ordered_obj.mp h).1]
    exact Or.inl (tidy_build _)
  | null | bool | num | str | arr => exact Or.inr ⟨fun _ => Json.noConfusion, [], rfl⟩

theorem Obtained.tidy_or_isStray {r : Rule} (h : r.Obtained) : r.Tidy ∨ ∃ raw, r.IsStray raw := by
  induction h with
  | new => exact Or.inl tidy_empty
  | html => exact Or.inl (tidy_empty.field shortcutName .html)
  | single f => exact Or.inl (tidy_empty.field shortcutName f)
  | ofJson v h => exact (tidy_or_isStray_ofJson h).imp_right fun hstray => ⟨v, hstray⟩
  | read s r h =>
    rw [Rule.read] at h
    cases hread : Json.read s with
    | error e => simp [hread, Except.map] at h
    | ok v =>
      simp only [hread, Except.map, Except.ok.injEq] at h
      rw [← h]
      exact (tidy_or_isStray_ofJson (Json.ordered_of_read hread)).imp_right fun hstray => ⟨v, hstray⟩
  | field r _ name f ih =>
    exact ih.imp (·.field name f) fun ⟨raw, hstray⟩ => ⟨raw, hstray.field name f⟩

/-! ## Main result -/

/-- Setting a function on a rule loses nothing, however the rule was had, unless it goes back to a value
that is no object. Then this value is all that is written, and the one fault that is found, whatever is
set. -/
theorem keeps_or_stray (r : Rule) (h : r.Obtained) :
    (∀ name f, r.Keeps name f)
      ∨ ∃ raw, r.IsStray raw ∧ ∀ name f, (r.field name f).toJson = raw
          ∧ (r.field name f).fault? = some ⟨[], .rule, raw⟩ := by
  rcases h.tidy_or_isStray with htidy | ⟨raw, hstray⟩
  · exact Or.inl htidy.keeps
  · refine Or.inr ⟨raw, hstray, fun name f => ?_⟩
    have hmalformed := (hstray.field name f).malformed?_eq
    exact ⟨toJson_of_malformed hmalformed, fault?_of_malformed hmalformed⟩

/-- A rule that was read from an object gets a title, and the shortcut that it had stays. -/
theorem keeps_title_beside_shortcut :
    (ofJson (.obj [("_", .str "text")])).Obtained
      ∧ (ofJson (.obj [("_", .str "text")])).Keeps "title" (.attr "title") := by
  have hobtained : (ofJson (.obj [("_", .str "text")])).Obtained := .ofJson _ (by decide)
  refine ⟨hobtained, ?_⟩
  rcases keeps_or_stray _ hobtained with hkeeps | ⟨raw, hstray, -⟩
  · exact hkeeps "title" (.attr "title")
  · cases hstray.malformed?_eq

/-- A rule that was read from a text that is no object gives a title after it was set, but is neither
written with it nor free of faults. -/
theorem not_keeps_title_of_word :
    (ofJson (.str "text")).Obtained
      ∧ ¬ (ofJson (.str "text")).Keeps "title" .text
      ∧ ((ofJson (.str "text")).field "title" .text).toJson = .str "text"
      ∧ ((ofJson (.str "text")).field "title" .text).fault? ≠ none
      ∧ ((ofJson (.str "text")).field "title" .text).walk (Element.accessors id) 256
        (Html.Page.read "<p>Hi").top = .obj [("title", .str "Hi")] := by
  refine ⟨.ofJson _ (by decide), fun hkeeps => ?_, rfl, by simp [fault?, field, ofJson, notARule,
    malformed?, shortcutName], by decide +kernel⟩
  obtain ⟨members, hwritten, -⟩ := hkeeps.written
  cases hwritten

end Gleaner.Rule
