import Gleaner.Proofs.Rule.Grammar

set_option autoImplicit false

/-! # The canonical form of written rules

A rule can be written in more than one way: a word alone or in an array, with items behind it that
are ignored, with a rule left out. `Written.canonRule` brings a value to the form that writing a
rule gives, and `Written.IsCanonicalRule` says which values have that form. What is not recognized
stays as it is.

Writing what was read from a value gives the canonical form of the value, and reading that again
gives the same rule (`Rule.toJson_ofJson`). -/

namespace Gleaner

namespace Written

/-! ## Bringing values to canonical form -/

/-- What is written for a word with the text and the rule behind it; `raw` if the word lacks what it
needs. -/
def canonWord (raw : Json) (word : String) (name : Option String) (rule : Json) : Json :=
  if word ∈ bareWords then .str word
  else match name with
    | none => raw
    | some name =>
      if word ∈ namedWords then .arr [.str word, .str name]
      else if word ∈ findWords then .arr [.str word, .str name, rule]
      else raw

mutual

/-- The canonical form of what stands in the place of a rule. -/
def canonRule : Json → Json
  | .obj members => .obj (canonMembers members)
  | v => v

/-- The members with the canonical form of every function. -/
def canonMembers : List (String × Json) → List (String × Json)
  | [] => []
  | (name, raw) :: rest => (name, canonFunction raw) :: canonMembers rest

/-- The canonical form of what stands in the place of a function. -/
def canonFunction : Json → Json
  | .arr [.str word] => canonWord (.arr [.str word]) word none .null
  | .arr [.str word, name] => canonWord (.arr [.str word, name]) word name.name? .null
  | .arr (.str word :: name :: rule :: rest) =>
    canonWord (.arr (.str word :: name :: rule :: rest)) word name.name? (canonRule rule)
  | .obj members => .obj (canonMembers members)
  | v => v

end

/-! ## Values in canonical form -/

mutual

/-- The value is canonical in the place of a rule. -/
def IsCanonicalRule : Json → Prop
  | .obj members => AreCanonical members
  | _ => True

/-- The value of every member is canonical. -/
def AreCanonical : List (String × Json) → Prop
  | [] => True
  | (_, raw) :: rest => IsCanonicalFunction raw ∧ AreCanonical rest

/-- The value is canonical in the place of a function: no word that is a function by itself stands
in an array, and an array with a name or a selector has nothing to ignore and lacks no rule. -/
def IsCanonicalFunction : Json → Prop
  | .arr [.str word] => word ∉ bareWords
  | .arr [.str word, name] => word ∉ bareWords ∧ (name.name?.isSome = true → word ∉ findWords)
  | .arr (.str word :: name :: rule :: rest) =>
    word ∉ bareWords ∧ (name.name?.isSome = true →
      word ∉ namedWords ∧ (word ∈ findWords → IsCanonicalRule rule ∧ rest = []))
  | .obj members => AreCanonical members
  | _ => True

end

/-! ## Objects and arrays -/

theorem canonMembers_eq_map (members : List (String × Json)) :
    canonMembers members = members.map fun m => (m.1, canonFunction m.2) := by
  induction members with
  | nil => rfl
  | cons m rest ih => simp [canonMembers, ih]

theorem canonFunction_obj (members : List (String × Json)) :
    canonFunction (.obj members) = canonRule (.obj members) := by
  rw [canonFunction, canonRule]

theorem canonFunction_arr (word : String) (args : List Json) :
    canonFunction (.arr (.str word :: args))
      = canonWord (.arr (.str word :: args)) word (args.head?.bind Json.name?)
        (canonRule (args[1]?.getD .null)) := by
  match args with
  | [] => rfl
  | [name] => rfl
  | name :: rule :: rest => rfl

theorem areCanonical_iff {members : List (String × Json)} :
    AreCanonical members ↔ ∀ m ∈ members, IsCanonicalFunction m.2 := by
  induction members with
  | nil => simp [AreCanonical]
  | cons m rest ih => simp only [AreCanonical, ih, List.forall_mem_cons]

theorem isCanonicalFunction_obj_iff {members : List (String × Json)} :
    IsCanonicalFunction (.obj members) ↔ IsCanonicalRule (.obj members) := by
  rw [IsCanonicalFunction, IsCanonicalRule]

theorem isCanonicalFunction_arr_iff {word : String} {args : List Json} :
    IsCanonicalFunction (.arr (.str word :: args)) ↔ word ∉ bareWords
      ∧ ((args.head?.bind Json.name?).isSome = true →
        (word ∈ namedWords → args.length = 1)
          ∧ (word ∈ findWords → args.length = 2 ∧ IsCanonicalRule (args[1]?.getD .null))) := by
  match args with
  | [] => simp [IsCanonicalFunction]
  | [name] => simp [IsCanonicalFunction]
  | name :: rule :: rest => simp [IsCanonicalFunction, and_comm]

theorem canonWord_of_unknown {word : String} (h : ∀ op : Operator, word ≠ op.tag) (raw : Json)
    (name : Option String) (rule : Json) : canonWord raw word name rule = raw := by
  obtain ⟨hbare, hnamed, hfind⟩ := not_mem_words_of_unknown h
  cases name <;> simp only [canonWord, hbare, hnamed, hfind, if_false]

/-! ## The values that are in canonical form -/

theorem canonRule_obj_eq_self_iff {members : List (String × Json)}
    (h : ∀ m ∈ members, (canonFunction m.2 = m.2 ↔ IsCanonicalFunction m.2)) :
    canonRule (.obj members) = .obj members ↔ IsCanonicalRule (.obj members) := by
  rw [canonRule, canonMembers_eq_map, Json.obj.injEq, Entries.map_values_eq_self_iff,
    IsCanonicalRule, areCanonical_iff]
  exact forall₂_congr h

theorem canonFunction_arr_eq_self_iff {word : String} {args : List Json}
    (h : canonRule (args[1]?.getD .null) = args[1]?.getD .null
      ↔ IsCanonicalRule (args[1]?.getD .null)) :
    canonFunction (.arr (.str word :: args)) = .arr (.str word :: args)
      ↔ IsCanonicalFunction (.arr (.str word :: args)) := by
  rw [canonFunction_arr, isCanonicalFunction_arr_iff, ← h]
  by_cases hbare : word ∈ bareWords
  · simp [canonWord, hbare]
  · cases hname : args.head?.bind Json.name? with
    | none => simp [canonWord, hbare]
    | some name =>
      obtain ⟨rest, rfl⟩ := Json.name?_head?_eq_some_iff.mp hname
      by_cases hnamed : word ∈ namedWords
      · have hfind := not_mem_findWords_of_mem_namedWords hnamed
        simp [canonWord, hbare, hnamed, hfind, eq_comm]
      · by_cases hfind : word ∈ findWords
        · cases rest with
          | nil => simp [canonWord, hbare, hnamed, hfind]
          | cons rule rest => simp [canonWord, hbare, hnamed, hfind, and_comm, eq_comm]
        · simp [canonWord, hbare, hnamed, hfind]

/-- The values that are left as they are, in the place of a rule and in the place of a function. -/
theorem canonRule_eq_self_iff_and_canonFunction_eq_self_iff (v : Json) :
    (canonRule v = v ↔ IsCanonicalRule v) ∧ (canonFunction v = v ↔ IsCanonicalFunction v) := by
  induction v using Written.induction with
  | stray v h =>
    cases h <;> exact ⟨⟨fun _ => trivial, fun _ => rfl⟩, ⟨fun _ => trivial, fun _ => rfl⟩⟩
  | str word => exact ⟨⟨fun _ => trivial, fun _ => rfl⟩, ⟨fun _ => trivial, fun _ => rfl⟩⟩
  | arr word args ih =>
    exact ⟨⟨fun _ => trivial, fun _ => rfl⟩, canonFunction_arr_eq_self_iff ih.1⟩
  | obj members ih =>
    have hrule := canonRule_obj_eq_self_iff fun m hm => (ih m hm).2
    exact ⟨hrule, by rw [canonFunction_obj, hrule, isCanonicalFunction_obj_iff]⟩

/-! ## The canonical form is canonical -/

/-- What is written for a word is canonical if the rule behind it is. -/
theorem isCanonicalFunction_canonWord {word : String} {args : List Json} {rule : Json}
    (h : IsCanonicalRule rule) :
    IsCanonicalFunction
      (canonWord (.arr (.str word :: args)) word (args.head?.bind Json.name?) rule) := by
  by_cases hbare : word ∈ bareWords
  · simp only [canonWord, hbare, if_true, IsCanonicalFunction]
  · cases hname : args.head?.bind Json.name? with
    | none => simp [canonWord, hbare, isCanonicalFunction_arr_iff, hname]
    | some name =>
      by_cases hnamed : word ∈ namedWords
      · have hfind := not_mem_findWords_of_mem_namedWords hnamed
        simp [canonWord, hbare, hnamed, hfind, IsCanonicalFunction]
      · by_cases hfind : word ∈ findWords
        · simp [canonWord, hbare, hnamed, hfind, IsCanonicalFunction, h]
        · simp [canonWord, hbare, hnamed, hfind, isCanonicalFunction_arr_iff]

theorem isCanonicalRule_canonRule_and_isCanonicalFunction_canonFunction (v : Json) :
    IsCanonicalRule (canonRule v) ∧ IsCanonicalFunction (canonFunction v) := by
  induction v using Written.induction with
  | stray v h => cases h <;> exact ⟨trivial, trivial⟩
  | str word => exact ⟨trivial, trivial⟩
  | arr word args ih =>
    refine ⟨trivial, ?_⟩
    rw [canonFunction_arr]
    exact isCanonicalFunction_canonWord ih.1
  | obj members ih =>
    have hrule : IsCanonicalRule (canonRule (.obj members)) := by
      rw [canonRule, canonMembers_eq_map, IsCanonicalRule, areCanonical_iff]
      intro m hm
      obtain ⟨raw, hraw, rfl⟩ := List.mem_map.mp hm
      exact (ih raw hraw).2
    refine ⟨hrule, ?_⟩
    rw [canonRule] at hrule
    rw [canonFunction_obj, canonRule, isCanonicalFunction_obj_iff]
    exact hrule

theorem canonRule_canonRule (v : Json) : canonRule (canonRule v) = canonRule v :=
  (canonRule_eq_self_iff_and_canonFunction_eq_self_iff (canonRule v)).1.mpr
    (isCanonicalRule_canonRule_and_isCanonicalFunction_canonFunction v).1

/-- What is false is no function, and stays as it is. -/
theorem isTruthy_canonFunction (v : Json) : (canonFunction v).isTruthy = v.isTruthy := by
  induction v using Written.induction with
  | stray v h => cases h <;> rfl
  | str word => rfl
  | arr word args =>
    rw [canonFunction_arr]
    rcases Operator.tag_or_unknown word with ⟨op, rfl⟩ | ⟨_, hne⟩
    · cases op <;> cases args.head?.bind Json.name? <;> rfl
    · rw [canonWord_of_unknown hne]
  | obj members => rfl

end Written

open Written

/-! ## Writing what was read -/

theorem RuleFunction.toJson_ofWord (raw : Json) (word : String) (name : Option String)
    (rule : Rule) : (ofWord raw word name rule).toJson = canonWord raw word name rule.toJson := by
  rcases Operator.tag_or_unknown word with ⟨op, rfl⟩ | ⟨hnone, hne⟩
  · rw [ofWord_tag]
    cases op <;> cases name <;> rfl
  · rw [ofWord_of_unknown hnone, canonWord_of_unknown hne, toJson]

theorem Rule.fieldsToJson_ofJson {members : List (String × Json)}
    (h : ∀ m ∈ members, (RuleFunction.ofJson m.2).toJson = canonFunction m.2)
    (kept : String × Json → Bool) :
    fieldsToJson ((members.filter kept).map fun m => (m.1, RuleFunction.ofJson m.2))
      = (members.filter kept).map fun m => (m.1, canonFunction m.2) := by
  rw [fieldsToJson_eq_map, List.map_map]
  apply List.map_congr_left
  intro m hm
  simp only [Function.comp_apply, h m (List.mem_filter.mp hm).1]

/-- A rule read from an object is written in canonical form if the functions of its members are. -/
theorem Rule.toJson_ofJson_obj {members : List (String × Json)} (hkeys : Entries.Ordered members)
    (h : ∀ m ∈ members, (RuleFunction.ofJson m.2).toJson = canonFunction m.2) :
    (Rule.ofJson (.obj members)).toJson = canonRule (.obj members) := by
  have hcanon : Entries.Ordered (members.map fun m => (m.1, canonFunction m.2)) :=
    (Entries.ordered_map_iff _ _).mpr hkeys
  rw [ofJson_obj, canonRule, canonMembers_eq_map]
  cases hfind : members.find? isShortcut with
  | none =>
    rw [Option.map_none, toJson, fieldsToJson_ofJson h, filter_not_isShortcut_of_none hfind,
      Entries.ofList_eq_self hcanon]
  | some m =>
    have hmem := List.mem_of_find?_eq_some hfind
    have hname : m.1 = shortcutName := (isShortcut_iff.mp (List.find?_some hfind)).1
    have hshortcut : (shortcutName, canonFunction m.2)
        ∈ members.map fun m => (m.1, canonFunction m.2) :=
      List.mem_map.mpr ⟨m, hmem, by rw [hname]⟩
    -- The shortcut goes back to the place among the members that it was taken from.
    have hothers : ((members.filter fun other => other.1 != shortcutName).map fun m =>
        (m.1, canonFunction m.2))
          = (members.map fun m => (m.1, canonFunction m.2)).filter
            fun other => other.1 != shortcutName := by
      rw [List.filter_map]
      rfl
    rw [Option.map_some, toJson, fieldsToJson_ofJson h, filter_not_isShortcut_of_some hkeys hfind,
      h m hmem, hothers, Entries.ofList_eq_self (hcanon.filter _),
      Entries.insert_filter_ne hcanon hshortcut]

/-- Writing what was read gives the canonical form, in the place of a rule and in the place of a
function. -/
theorem Rule.toJson_ofJson_and_toJson_ofJson (v : Json) (h : v.Ordered) :
    (Rule.ofJson v).toJson = canonRule v ∧ (RuleFunction.ofJson v).toJson = canonFunction v := by
  induction v using Written.induction with
  | stray v hstray => cases hstray <;> exact ⟨rfl, rfl⟩
  | str word =>
    refine ⟨rfl, ?_⟩
    have hcanon : canonFunction (.str word) = .str word := rfl
    rw [RuleFunction.ofJson, RuleFunction.toJson_ofWord, hcanon]
    simp [canonWord]
  | arr word args ih =>
    refine ⟨rfl, ?_⟩
    rw [RuleFunction.ofJson_arr, RuleFunction.toJson_ofWord, canonFunction_arr, (ih h.third).1]
  | obj members ih =>
    obtain ⟨hkeys, hvalues⟩ := Json.ordered_obj.mp h
    have hrule := Rule.toJson_ofJson_obj hkeys fun m hm => (ih m hm (hvalues m hm)).2
    refine ⟨hrule, ?_⟩
    rw [RuleFunction.ofJson_obj, RuleFunction.toJson, hrule, canonFunction_obj]

/-! ## Reading what was written -/

/-- What is written for a word is read as the function that the word gave. -/
theorem RuleFunction.ofJson_canonWord {raw : Json} {word : String} {name : Option String}
    {rule : Json} (h : ofJson raw = ofWord raw word name (Rule.ofJson rule)) :
    ofJson (canonWord raw word name rule) = ofWord raw word name (Rule.ofJson rule) := by
  rcases Operator.tag_or_unknown word with ⟨op, rfl⟩ | ⟨_, hne⟩
  · rw [ofWord_tag] at h ⊢
    cases op <;> cases name <;> first | rfl | exact h
  · rw [canonWord_of_unknown hne, h]

theorem Rule.ofJson_canonRule_obj {members : List (String × Json)}
    (h : ∀ m ∈ members, RuleFunction.ofJson (canonFunction m.2) = RuleFunction.ofJson m.2) :
    ofJson (canonRule (.obj members)) = ofJson (.obj members) := by
  have hshortcut (m : String × Json) : isShortcut (m.1, canonFunction m.2) = isShortcut m := by
    simp only [isShortcut, isTruthy_canonFunction]
  simp only [canonRule, canonMembers_eq_map, ofJson_obj, List.find?_map, List.filter_map,
    Function.comp_def, hshortcut, Option.map_map, List.map_map]
  congr 1
  · cases hfind : members.find? isShortcut with
    | none => rfl
    | some m => simp only [Option.map_some, h m (List.mem_of_find?_eq_some hfind)]
  · apply List.map_congr_left
    intro m hm
    rw [h m (List.mem_filter.mp hm).1]

/-- The canonical form of a value is read as the value is, in the place of a rule and in the place
of a function. -/
theorem Rule.ofJson_canonRule_and_ofJson_canonFunction (v : Json) :
    Rule.ofJson (canonRule v) = Rule.ofJson v
      ∧ RuleFunction.ofJson (canonFunction v) = RuleFunction.ofJson v := by
  induction v using Written.induction with
  | stray v h => cases h <;> exact ⟨rfl, rfl⟩
  | str word => exact ⟨rfl, rfl⟩
  | arr word args ih =>
    refine ⟨rfl, ?_⟩
    have hread := RuleFunction.ofJson_arr word args
    rw [← ih.1] at hread
    rw [canonFunction_arr, RuleFunction.ofJson_canonWord hread, hread]
  | obj members ih =>
    have hrule := Rule.ofJson_canonRule_obj fun m hm => (ih m hm).2
    refine ⟨hrule, ?_⟩
    rw [canonRule] at hrule
    rw [canonFunction_obj, canonRule, RuleFunction.ofJson_obj, RuleFunction.ofJson_obj, hrule]

/-! ## Main result -/

/-- Writing what was read from a value gives the canonical form of the value, and reading that gives
the same rule again: the same shortcut, the same fields in the same order and what was kept of a
value that is no rule. The value itself is given back exactly if it is canonical, and the canonical
form has no other canonical form. The members are listed in the order of their keys, as they are in
every value that is read (`Json.ordered_of_read`). -/
theorem Rule.toJson_ofJson (v : Json) (h : v.Ordered) :
    ofJson (ofJson v).toJson = ofJson v
      ∧ (ofJson v).toJson = canonRule v
      ∧ ((ofJson v).toJson = v ↔ IsCanonicalRule v)
      ∧ canonRule (canonRule v) = canonRule v := by
  have hwritten := (toJson_ofJson_and_toJson_ofJson v h).1
  refine ⟨?_, hwritten, ?_, canonRule_canonRule v⟩
  · rw [hwritten, (ofJson_canonRule_and_ofJson_canonFunction v).1]
  · rw [hwritten, (canonRule_eq_self_iff_and_canonFunction_eq_self_iff v).1]

/-- Surplus arguments go, a missing rule is written as null, and what is no function stays. -/
theorem Rule.toJson_ofJson_surplus :
    (ofJson (.obj [("_", .arr [.str "text", .bool true]), ("cells", .arr [.str "find", .str "td"]),
        ("link", .arr [.str "attr", .str "href", .null]),
        ("name", .arr [.str "data", .null])])).toJson
      = .obj [("_", .str "text"), ("cells", .arr [.str "find", .str "td", .null]),
        ("link", .arr [.str "attr", .str "href"]), ("name", .arr [.str "data", .null])] := by
  rw [(toJson_ofJson _ (by decide)).2.1]
  decide

end Gleaner
