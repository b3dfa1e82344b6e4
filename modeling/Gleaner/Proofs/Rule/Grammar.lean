import Gleaner.Proofs.Rule.Reading

set_option autoImplicit false

/-! # The grammar of written rules

Which JSON values are rules and which are functions, said without reading them: `Written.IsRule` and
`Written.IsFunction`. The reading of a rule takes every value, so the check has to find again what
did not fit; it finds no fault exactly in the rules of the grammar
(`Rule.fault?_ofJson_eq_none_iff`). -/

namespace Gleaner

namespace Written

/-! ## The grammar -/

/-- The words that are functions by themselves. -/
def bareWords : List String := ["text", "value", "html"]

/-- The words that need a name behind them. -/
def namedWords : List String := ["css", "data", "attr", "prop"]

/-- The words that need a selector and a rule behind them. -/
def findWords : List String := ["findOne", "find"]

mutual

/-- The value is a rule: an object whose members are functions. -/
inductive IsRule : Json → Prop where
  | obj (members : List (String × Json)) (h : ∀ m ∈ members, IsFunction m.2) : IsRule (.obj members)

/-- The value is a function. Behind what a word needs, anything may follow. -/
inductive IsFunction : Json → Prop where
  | word (word : String) (h : word ∈ bareWords) : IsFunction (.str word)
  | bare (word : String) (rest : List Json) (h : word ∈ bareWords) :
    IsFunction (.arr (.str word :: rest))
  | named (word name : String) (rest : List Json) (h : word ∈ namedWords) :
    IsFunction (.arr (.str word :: .str name :: rest))
  | find (word selector : String) (rule : Json) (rest : List Json) (h : word ∈ findWords)
    (hrule : IsRule rule) : IsFunction (.arr (.str word :: .str selector :: rule :: rest))
  | rule (v : Json) (h : IsRule v) : IsFunction v

end

/-! ## What the grammar says of each kind of value -/

theorem isRule_obj_iff {members : List (String × Json)} :
    IsRule (.obj members) ↔ ∀ m ∈ members, IsFunction m.2 := by
  constructor
  · intro h
    cases h with
    | obj _ h => exact h
  · exact IsRule.obj members

theorem isFunction_obj_iff {members : List (String × Json)} :
    IsFunction (.obj members) ↔ IsRule (.obj members) := by
  constructor
  · intro h
    cases h with
    | rule _ h => exact h
  · exact IsFunction.rule _

theorem isFunction_str_iff {word : String} : IsFunction (.str word) ↔ word ∈ bareWords := by
  constructor
  · intro h
    cases h with
    | word _ h => exact h
    | rule _ h => cases h
  · exact IsFunction.word word

theorem isFunction_arr_iff {word : String} {args : List Json} :
    IsFunction (.arr (.str word :: args)) ↔ word ∈ bareWords
      ∨ (word ∈ namedWords ∧ ∃ name, args.head? = some (.str name))
      ∨ (word ∈ findWords ∧ (∃ selector, args.head? = some (.str selector))
        ∧ IsRule (args[1]?.getD .null)) := by
  constructor
  · intro h
    cases h with
    | bare _ _ h => exact Or.inl h
    | named _ name _ h => exact Or.inr (Or.inl ⟨h, name, rfl⟩)
    | find _ selector rule _ h hrule => exact Or.inr (Or.inr ⟨h, ⟨selector, rfl⟩, hrule⟩)
    | rule _ h => cases h
  · rintro (h | ⟨h, name, hname⟩ | ⟨h, ⟨selector, hselector⟩, hrule⟩)
    · exact IsFunction.bare word args h
    · obtain ⟨rest, rfl⟩ := List.head?_eq_some_iff.mp hname
      exact IsFunction.named word name rest h
    · obtain ⟨rest, rfl⟩ := List.head?_eq_some_iff.mp hselector
      cases rest with
      | nil => cases hrule
      | cons rule rest => exact IsFunction.find word selector rule rest h hrule

theorem not_isRule_of_stray {v : Json} (h : Stray v) : ¬ IsRule v := by
  intro hrule
  cases hrule with
  | obj => cases h

theorem not_isFunction_of_stray {v : Json} (h : Stray v) : ¬ IsFunction v := by
  intro hfunction
  cases hfunction with
  | rule _ hrule => exact not_isRule_of_stray h hrule
  | word | bare | named | find => cases h

/-- No function is false, so a false member is no function. -/
theorem isTruthy_of_isFunction {v : Json} (h : IsFunction v) : v.isTruthy = true := by
  cases h with
  | word word h =>
    simp only [bareWords, List.mem_cons, List.not_mem_nil, or_false] at h
    rcases h with rfl | rfl | rfl <;> rfl
  | bare => rfl
  | named => rfl
  | find => rfl
  | rule _ h =>
    cases h with
    | obj => rfl

/-! ## Words -/

/-- A word that stands for no operator is none of the words of the grammar. -/
theorem not_mem_words_of_unknown {word : String} (h : ∀ op : Operator, word ≠ op.tag) :
    word ∉ bareWords ∧ word ∉ namedWords ∧ word ∉ findWords := by
  refine ⟨?_, ?_, ?_⟩
  · simpa [bareWords] using ⟨h .text, h .value, h .html⟩
  · simpa [namedWords] using ⟨h .css, h .data, h .attr, h .prop⟩
  · simpa [findWords] using ⟨h .findOne, h .find⟩

/-- A word that is a function by itself takes no rule. -/
theorem not_mem_findWords_of_mem_bareWords {word : String} (h : word ∈ bareWords) : word ∉ findWords := by
  simp only [bareWords, List.mem_cons, List.not_mem_nil, or_false] at h
  rcases h with rfl | rfl | rfl <;> decide

/-- A word that needs a name takes no rule. -/
theorem not_mem_findWords_of_mem_namedWords {word : String} (h : word ∈ namedWords) :
    word ∉ findWords := by
  simp only [namedWords, List.mem_cons, List.not_mem_nil, or_false] at h
  rcases h with rfl | rfl | rfl | rfl <;> decide

end Written

open Written

/-- A word gives a function that is free of faults when all that the word needs is there. -/
theorem RuleFunction.fault?_ofWord_eq_none_iff {raw : Json} {word : String} {name : Option String}
    {rule : Rule} :
    (ofWord raw word name rule).fault? = none ↔ word ∈ bareWords
      ∨ (word ∈ namedWords ∧ name.isSome = true)
      ∨ (word ∈ findWords ∧ name.isSome = true ∧ rule.fault? = none) := by
  rcases Operator.tag_or_unknown word with ⟨op, rfl⟩ | ⟨hnone, hne⟩
  · rw [ofWord_tag]
    cases op <;> cases name <;>
      simp [Operator.function?, Operator.tag, fault?, bareWords, namedWords, findWords]
  · obtain ⟨hbare, hnamed, hfind⟩ := not_mem_words_of_unknown hne
    simp [ofWord_of_unknown hnone, fault?, hbare, hnamed, hfind]

/-! ## The check accepts the grammar -/

theorem Rule.fault?_notARule_ne_none (raw : Json) : (notARule raw).fault? ≠ none := by
  simp [notARule, fault?]

/-- An object is free of faults if the check agrees with the grammar on its members. -/
theorem Rule.fault?_ofJson_obj_eq_none_iff {members : List (String × Json)}
    (hkeys : Entries.Ordered members)
    (h : ∀ m ∈ members, ((RuleFunction.ofJson m.2).fault? = none ↔ IsFunction m.2)) :
    (Rule.ofJson (.obj members)).fault? = none ↔ IsRule (.obj members) := by
  have hmalformed : (Rule.ofJson (.obj members)).malformed? = none := by
    rw [ofJson_obj, malformed?]
  rw [fault?_eq_none_iff, forall_functions_ofJson_obj hkeys, isRule_obj_iff]
  constructor
  · intro hfree m hm
    exact (h m hm).mp (hfree.2 m hm)
  · intro hall
    exact ⟨hmalformed, fun m hm => (h m hm).mpr (hall m hm)⟩

/-- The check and the grammar agree on a value in the place of a rule and in the place of a
function. -/
theorem Rule.fault?_ofJson_and_fault?_ofJson (v : Json) (h : v.Ordered) :
    ((Rule.ofJson v).fault? = none ↔ IsRule v)
      ∧ ((RuleFunction.ofJson v).fault? = none ↔ IsFunction v) := by
  induction v using Written.induction with
  | stray v hstray =>
    have hrule : (Rule.ofJson v).fault? ≠ none := by
      cases hstray <;> exact Rule.fault?_notARule_ne_none _
    have hfunction : (RuleFunction.ofJson v).fault? ≠ none := by
      cases hstray <;> simp [RuleFunction.ofJson, RuleFunction.fault?]
    exact ⟨iff_of_false hrule (not_isRule_of_stray hstray),
      iff_of_false hfunction (not_isFunction_of_stray hstray)⟩
  | str word =>
    refine ⟨iff_of_false (Rule.fault?_notARule_ne_none _) (by rintro ⟨⟩), ?_⟩
    rw [RuleFunction.ofJson, RuleFunction.fault?_ofWord_eq_none_iff, isFunction_str_iff]
    simp
  | arr word args ih =>
    refine ⟨iff_of_false (Rule.fault?_notARule_ne_none _) (by rintro ⟨⟩), ?_⟩
    rw [RuleFunction.ofJson_arr, RuleFunction.fault?_ofWord_eq_none_iff, isFunction_arr_iff,
      Json.isSome_name?_head?, (ih h.third).1]
  | obj members ih =>
    obtain ⟨hkeys, hvalues⟩ := Json.ordered_obj.mp h
    have hrule := Rule.fault?_ofJson_obj_eq_none_iff hkeys
      fun m hm => (ih m hm (hvalues m hm)).2
    refine ⟨hrule, ?_⟩
    rw [RuleFunction.ofJson_obj, RuleFunction.fault?, hrule, isFunction_obj_iff]

/-! ## Main result -/

/-- The check finds no fault in a value exactly if the value is a rule of the grammar. So a member
that is no function is found also where a shortcut hides it, and a false member under the name of
the shortcut is always a fault. The members are listed in the order of their keys, as they are in
every value that is read (`Json.ordered_of_read`). -/
theorem Rule.fault?_ofJson_eq_none_iff (v : Json) (h : v.Ordered) :
    ((Rule.ofJson v).fault? = none ↔ IsRule v)
      ∧ ∀ members, v = .obj members → ∀ m ∈ members,
        (¬ IsFunction m.2 → (Rule.ofJson v).fault? ≠ none)
          ∧ (m.1 = shortcutName → m.2.isTruthy = false → (Rule.ofJson v).fault? ≠ none) := by
  have hiff := (fault?_ofJson_and_fault?_ofJson v h).1
  refine ⟨hiff, ?_⟩
  rintro members rfl m hm
  have hfunction : (Rule.ofJson (.obj members)).fault? = none → IsFunction m.2 := fun hnone =>
    isRule_obj_iff.mp (hiff.mp hnone) m hm
  refine ⟨fun hnot hnone => hnot (hfunction hnone), fun _ hfalse hnone => ?_⟩
  have htrue := isTruthy_of_isFunction (hfunction hnone)
  rw [hfalse] at htrue
  exact absurd htrue (by simp)

/-- The shortcut hides a function that lacks its name, and the check finds it. -/
theorem Rule.fault?_ofJson_behind_shortcut :
    (ofJson (.obj [("_", .str "text"), ("link", .arr [.str "attr", .null])])).fault? ≠ none := by
  have hgrammar := fault?_ofJson_eq_none_iff
    (.obj [("_", .str "text"), ("link", .arr [.str "attr", .null])]) (by decide)
  refine (hgrammar.2 _ rfl ("link", .arr [.str "attr", .null]) (by simp)).1 ?_
  rw [isFunction_arr_iff]
  simp [bareWords, findWords]

end Gleaner
