import Gleaner.Proofs.Json
import Gleaner.Proofs.Rule.Induction

set_option autoImplicit false

/-! # How written rules are read

The reading of rules goes through members and arguments one pattern at a time. Here it is said once
for a whole object and for a whole array: the shortcut is the first member that counts as one and
the fields are the others (`Rule.ofJson_obj`), and the function of an array depends on its word, on
the text behind the word and on what stands third (`RuleFunction.ofJson_arr`). Which function a word
gives is asked per operator (`RuleFunction.ofWord_tag`, `RuleFunction.ofWord_of_unknown`).

`Written.induction` follows the places where rules and functions can stand in a value, so that what
is proved of the reading has one case for each shape that the reading tells apart. -/

namespace Gleaner

/-! ## Words -/

namespace Operator

theorem eq_tag_of_ofTag? {word : String} {op : Operator} (h : ofTag? word = some op) :
    word = op.tag := by
  have := List.find?_some h
  exact (beq_iff_eq.mp this).symm

/-- A word is the tag of an operator, or it stands for none and differs from every tag. -/
theorem tag_or_unknown (word : String) :
    (∃ op : Operator, word = op.tag) ∨ (ofTag? word = none ∧ ∀ op : Operator, word ≠ op.tag) := by
  cases h : ofTag? word with
  | some op => exact Or.inl ⟨op, eq_tag_of_ofTag? h⟩
  | none =>
    refine Or.inr ⟨rfl, fun op hop => ?_⟩
    rw [hop, ofTag?_tag] at h
    exact absurd h (by simp)

end Operator

namespace RuleFunction

theorem ofWord_tag (raw : Json) (op : Operator) (name : Option String) (rule : Rule) :
    ofWord raw op.tag name rule = (op.function? name rule).getD (.invalid raw) := by
  simp only [ofWord, Operator.ofTag?_tag, Option.bind_some]

theorem ofWord_of_unknown {word : String} (h : Operator.ofTag? word = none) (raw : Json)
    (name : Option String) (rule : Rule) : ofWord raw word name rule = .invalid raw := by
  simp only [ofWord, h, Option.bind_none, Option.getD_none]

end RuleFunction

/-! ## Objects -/

namespace Rule

/-- The member is the shortcut of its object, if no member before it is. -/
def isShortcut (m : String × Json) : Bool := m.1 == shortcutName && m.2.isTruthy

theorem isShortcut_iff {m : String × Json} :
    isShortcut m = true ↔ m.1 = shortcutName ∧ m.2.isTruthy = true := by
  simp only [isShortcut, Bool.and_eq_true, beq_iff_eq]

theorem ofMembers_eq (members : List (String × Json)) :
    ofMembers members
      = ((members.find? isShortcut).map fun m => RuleFunction.ofJson m.2,
        (members.filter fun m => !isShortcut m).map fun m => (m.1, RuleFunction.ofJson m.2)) := by
  induction members with
  | nil => rfl
  | cons m rest ih =>
    simp only [ofMembers, ← isShortcut_iff, ih]
    by_cases h : isShortcut m = true <;> simp [h]

theorem ofJson_obj (members : List (String × Json)) :
    ofJson (.obj members)
      = .mk ((members.find? isShortcut).map fun m => RuleFunction.ofJson m.2)
        ((members.filter fun m => !isShortcut m).map fun m => (m.1, RuleFunction.ofJson m.2))
        none := by
  rw [ofJson, ofMembers_eq]

/-- Where keys are not repeated, a member that counts as the shortcut is the shortcut. -/
theorem find?_isShortcut_of_mem {members : List (String × Json)} (h : Entries.Ordered members)
    {m : String × Json} (hmem : m ∈ members) (hm : isShortcut m = true) :
    members.find? isShortcut = some m := by
  cases hfind : members.find? isShortcut with
  | none => exact absurd hm (List.find?_eq_none.mp hfind m hmem)
  | some m' =>
    have hkey : m'.1 = m.1 :=
      (isShortcut_iff.mp (List.find?_some hfind)).1.trans (isShortcut_iff.mp hm).1.symm
    have hvalue : m'.2 = m.2 :=
      h.value_unique (hkey ▸ List.mem_of_find?_eq_some hfind) hmem
    rw [Prod.ext hkey hvalue]

/-- Without a shortcut, every member is a field. -/
theorem filter_not_isShortcut_of_none {members : List (String × Json)}
    (hfind : members.find? isShortcut = none) :
    (members.filter fun m => !isShortcut m) = members := by
  rw [List.filter_eq_self]
  intro m hm
  simpa using List.find?_eq_none.mp hfind m hm

/-- Beside a shortcut, the fields are the members under other names. -/
theorem filter_not_isShortcut_of_some {members : List (String × Json)}
    (hkeys : Entries.Ordered members) {m : String × Json}
    (hfind : members.find? isShortcut = some m) :
    (members.filter fun other => !isShortcut other)
      = members.filter fun other => other.1 != shortcutName := by
  apply List.filter_congr
  intro other hother
  have hm := isShortcut_iff.mp (List.find?_some hfind)
  by_cases hname : other.1 = shortcutName
  · have hvalue : other.2 = m.2 :=
      hkeys.value_unique hother (hname.trans hm.1.symm ▸ List.mem_of_find?_eq_some hfind)
    have : isShortcut other = true := isShortcut_iff.mpr ⟨hname, hvalue ▸ hm.2⟩
    simp [this, hname]
  · have : isShortcut other = false := by
      rw [Bool.eq_false_iff]
      exact fun h => hname (isShortcut_iff.mp h).1
    simp [this, hname]

/-- The functions of a rule that is read from an object are those of its members, also of the
members that the shortcut hides. -/
theorem forall_functions_ofJson_obj {P : RuleFunction → Prop} {members : List (String × Json)}
    (h : Entries.Ordered members) :
    (∀ f ∈ (ofJson (.obj members)).functions, P f)
      ↔ ∀ m ∈ members, P (RuleFunction.ofJson m.2) := by
  rw [ofJson_obj, forall_functions_iff]
  constructor
  · rintro ⟨hshortcut, hfields⟩ m hmem
    by_cases hm : isShortcut m = true
    · exact hshortcut _ (by rw [find?_isShortcut_of_mem h hmem hm]; rfl)
    · exact hfields (m.1, RuleFunction.ofJson m.2)
        (List.mem_map.mpr ⟨m, List.mem_filter.mpr ⟨hmem, by simpa using hm⟩, rfl⟩)
  · intro hall
    constructor
    · intro f hf
      obtain ⟨m, hfind, rfl⟩ := Option.map_eq_some_iff.mp hf
      exact hall m (List.mem_of_find?_eq_some hfind)
    · intro p hp
      obtain ⟨m, hm, rfl⟩ := List.mem_map.mp hp
      exact hall m (List.mem_filter.mp hm).1

end Rule

/-- The text behind the word of an array is the first of what follows, if that is a text. -/
theorem Json.name?_head?_eq_some_iff {args : List Json} {s : String} :
    args.head?.bind name? = some s ↔ ∃ rest, args = .str s :: rest := by
  cases args with
  | nil => simp
  | cons head rest => cases head <;> simp [name?]

theorem Json.isSome_name?_head? {args : List Json} :
    (args.head?.bind name?).isSome = true ↔ ∃ s, args.head? = some (.str s) := by
  cases args with
  | nil => simp
  | cons head rest => cases head <;> simp [name?]

namespace RuleFunction

/-- An object in the place of a function is a rule for the same element. -/
theorem ofJson_obj (members : List (String × Json)) :
    ofJson (.obj members) = .nested (Rule.ofJson (.obj members)) := by
  rw [ofJson, Rule.ofJson]

/-! ## Arrays -/

/-- An array that starts with a word; what stands third counts as null if nothing does. -/
theorem ofJson_arr (word : String) (args : List Json) :
    ofJson (.arr (.str word :: args))
      = .ofWord (.arr (.str word :: args)) word (args.head?.bind Json.name?)
        (Rule.ofJson (args[1]?.getD .null)) := by
  match args with
  | [] => rfl
  | [name] => rfl
  | name :: rule :: rest => rfl

end RuleFunction

/-! ## Induction on written rules -/

namespace Written

/-- The value is no object and starts with no word, so it is no function whatever it holds. -/
inductive Stray : Json → Prop where
  | null : Stray .null
  | bool (b : Bool) : Stray (.bool b)
  | num (n : Json.Number) : Stray (.num n)
  | nil : Stray (.arr [])
  | null_cons (rest : List Json) : Stray (.arr (.null :: rest))
  | bool_cons (b : Bool) (rest : List Json) : Stray (.arr (.bool b :: rest))
  | num_cons (n : Json.Number) (rest : List Json) : Stray (.arr (.num n :: rest))
  | arr_cons (items rest : List Json) : Stray (.arr (.arr items :: rest))
  | obj_cons (members : List (String × Json)) (rest : List Json) :
    Stray (.arr (.obj members :: rest))

/-- What is null or among the items of an array stands third behind its word. -/
theorem third_of_forall {P : Json → Prop} {word : String} {args : List Json} (hnull : P .null)
    (h : ∀ item ∈ Json.str word :: args, P item) : P (args[1]?.getD .null) := by
  cases hget : args[1]? with
  | none => exact hnull
  | some rule => exact h rule (List.mem_cons_of_mem _ (List.mem_of_getElem? hget))

/-- Induction along the places where rules and functions can stand: the members of an object, and
what stands third behind a word. -/
theorem induction {motive : Json → Prop} (stray : ∀ v, Stray v → motive v)
    (str : ∀ word, motive (.str word))
    (arr : ∀ word args, motive (args[1]?.getD .null) → motive (.arr (.str word :: args)))
    (obj : ∀ members, (∀ m ∈ members, motive m.2) → motive (.obj members)) (v : Json) :
    motive v := by
  induction v with
  | null => exact stray _ .null
  | bool b => exact stray _ (.bool b)
  | num n => exact stray _ (.num n)
  | str word => exact str word
  | obj members ih => exact obj members ih
  | arr items ih =>
    cases items with
    | nil => exact stray _ .nil
    | cons head args =>
      cases head with
      | str word => exact arr word args (third_of_forall (stray _ .null) ih)
      | null => exact stray _ (.null_cons args)
      | bool b => exact stray _ (.bool_cons b args)
      | num n => exact stray _ (.num_cons n args)
      | arr items => exact stray _ (.arr_cons items args)
      | obj members => exact stray _ (.obj_cons members args)

end Written

theorem Json.Ordered.third {word : String} {args : List Json}
    (h : (arr (.str word :: args)).Ordered) : (args[1]?.getD null).Ordered :=
  Written.third_of_forall (by trivial) (ordered_arr.mp h)

end Gleaner
