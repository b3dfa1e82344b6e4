import Gleaner.Proofs.Rule.Grammar
import Mathlib.Data.List.Pairwise

set_option autoImplicit false

/-! # Where the first fault stands

The check of a rule that was read names a place and quotes what stands there. Here that is compared with the
written rule: `Written.part?` follows steps through a value as it stands, `Written.Stands` says at which
places a value has its functions and rules, and `Written.Precedes` in which order they are gone through. The
fault of a value lies at one of these places, quotes what does not fit there, and all functions that precede
it are functions of the grammar (`Written.IsFirstFault`, `Rule.locates_first_fault`). Of two places one
precedes the other unless one is on the way to the other (`Written.Stands.precedes_or_above`).

An object in the place of a function is a rule at the same place, so only members and the rules behind
selectors are steps. -/

namespace Gleaner

namespace Written

/-! ## Places -/

/-- What steps lead to in a value: to the value of a member, and to what stands third in an array, which is
null if nothing does. -/
def part? : Json → List Rule.Step → Option Json
  | v, [] => some v
  | .obj members, .member name :: rest => (Entries.get? name members).bind (part? · rest)
  | .arr items, .argument :: rest => part? (items[2]?.getD .null) rest
  | _, _ :: _ => none

/-- In a value in the place of a function or of a rule, the steps lead to something that stands in the place
of a function or of a rule itself. -/
inductive Stands : Rule.Expected → Json → List Rule.Step → Rule.Expected → Json → Prop where
  | self (kind : Rule.Expected) (v : Json) : Stands kind v [] kind v
  | member (members : List (String × Json)) (name : String) (raw : Json) (place : List Rule.Step)
    (kind : Rule.Expected) (w : Json) (hm : (name, raw) ∈ members)
    (h : Stands .function raw place kind w) : Stands .rule (.obj members) (.member name :: place) kind w
  | nested (members : List (String × Json)) (place : List Rule.Step) (kind : Rule.Expected) (w : Json)
    (h : Stands .rule (.obj members) place kind w) : Stands .function (.obj members) place kind w
  | argument (word selector : String) (rest : List Json) (place : List Rule.Step) (kind : Rule.Expected)
    (w : Json) (hword : word ∈ findWords) (h : Stands .rule (rest[0]?.getD .null) place kind w) :
    Stands .function (.arr (.str word :: .str selector :: rest)) (.argument :: place) kind w

/-- Of two members of an object, the first one is gone through sooner: the shortcut comes before all others,
and these come in the order of their names. -/
def Sooner (m n : String × Json) : Prop :=
  Rule.isShortcut n = false ∧ (Rule.isShortcut m = true ∨ m.1 < n.1)

/-- Going through a value depth first, one leaves the first place before one comes to the second. -/
inductive Precedes : Json → List Rule.Step → List Rule.Step → Prop where
  | sooner (members : List (String × Json)) (name other : String) (raw raw' : Json)
    (place place' : List Rule.Step) (hm : (name, raw) ∈ members) (hn : (other, raw') ∈ members)
    (h : Sooner (name, raw) (other, raw')) :
    Precedes (.obj members) (.member name :: place) (.member other :: place')
  | member (members : List (String × Json)) (name : String) (raw : Json) (place place' : List Rule.Step)
    (hm : (name, raw) ∈ members) (h : Precedes raw place place') :
    Precedes (.obj members) (.member name :: place) (.member name :: place')
  | argument (items : List Json) (place place' : List Rule.Step)
    (h : Precedes (items[2]?.getD .null) place place') :
    Precedes (.arr items) (.argument :: place) (.argument :: place')

/-- The value is taken for a function, whatever stands inside it where a function or a rule belongs. -/
inductive IsRecognized : Json → Prop where
  | word (word : String) (h : word ∈ bareWords) : IsRecognized (.str word)
  | bare (word : String) (rest : List Json) (h : word ∈ bareWords) : IsRecognized (.arr (.str word :: rest))
  | named (word name : String) (rest : List Json) (h : word ∈ namedWords ∨ word ∈ findWords) :
    IsRecognized (.arr (.str word :: .str name :: rest))
  | rule (members : List (String × Json)) : IsRecognized (.obj members)

/-- The value is what is expected where it stands. -/
def Fits : Rule.Expected → Json → Prop
  | .rule, v => ∃ members, v = .obj members
  | .function, v => IsRecognized v

/-- The fault quotes what stands at its place in the value and does not fit there, and the functions that
precede it are free of faults. -/
structure IsFirstFault (kind : Rule.Expected) (v : Json) (fault : Rule.Fault) : Prop where
  stands : Stands kind v fault.steps fault.expected fault.raw
  unfit : ¬ Fits fault.expected fault.raw
  first : ∀ place f, Stands kind v place .function f → Precedes v place fault.steps → IsFunction f

/-! ## Following the steps to a place -/

/-- The steps to a place lead to what stands there. -/
theorem Stands.part?_eq {kind kind' : Rule.Expected} {v w : Json} {place : List Rule.Step}
    (h : Stands kind v place kind' w) (hv : v.Ordered) : part? v place = some w := by
  induction h with
  | self => rw [part?]
  | member members name raw place kind w hm h ih =>
    obtain ⟨hkeys, hvalues⟩ := Json.ordered_obj.mp hv
    have hget := (Entries.mem_iff_get?_eq_some hkeys.keys_nodup).mp hm
    rw [part?, hget, Option.bind_some]
    exact ih (hvalues _ hm)
  | nested members place kind w h ih => exact ih hv
  | argument word selector rest place kind w hword h ih => exact ih hv.third

/-- What stands in a value is ordered like the value. -/
theorem Stands.ordered {kind kind' : Rule.Expected} {v w : Json} {place : List Rule.Step}
    (h : Stands kind v place kind' w) (hv : v.Ordered) : w.Ordered := by
  induction h with
  | self => exact hv
  | member members name raw place kind w hm h ih => exact ih ((Json.ordered_obj.mp hv).2 _ hm)
  | nested members place kind w h ih => exact ih hv
  | argument word selector rest place kind w hword h ih => exact ih hv.third

/-- Something else than an object in the place of a rule is the whole value or stands third behind a word and
a selector. -/
theorem Stands.eq_or_third {kind kind' : Rule.Expected} {v w : Json} {place : List Rule.Step}
    (h : Stands kind v place kind' w) (hkind : kind' = .rule) (hw : ∀ members, w ≠ .obj members) :
    (kind = .rule ∧ place = [] ∧ w = v)
      ∨ ∃ outer word selector rest, place = outer ++ [.argument] ∧ word ∈ findWords
        ∧ Stands kind v outer .function (.arr (.str word :: .str selector :: rest))
        ∧ w = rest[0]?.getD .null := by
  induction h with
  | self kind v => exact Or.inl ⟨hkind, rfl, rfl⟩
  | member members name raw place kind w hm h ih =>
    rcases ih hkind hw with ⟨hrule, -, -⟩ | ⟨outer, word, selector, rest, rfl, hword, hstands, hthird⟩
    · cases hrule
    · exact Or.inr ⟨.member name :: outer, word, selector, rest, rfl, hword,
        .member _ _ _ _ _ _ hm hstands, hthird⟩
  | nested members place kind w h ih =>
    rcases ih hkind hw with ⟨-, -, rfl⟩ | ⟨outer, word, selector, rest, rfl, hword, hstands, hthird⟩
    · exact absurd rfl (hw members)
    · exact Or.inr ⟨outer, word, selector, rest, rfl, hword, .nested _ _ _ _ hstands, hthird⟩
  | argument word selector rest place kind w hword h ih =>
    rcases ih hkind hw with ⟨-, rfl, rfl⟩ | ⟨outer, word', selector', rest', rfl, hword', hstands, hthird⟩
    · exact Or.inr ⟨[], word, selector, rest, rfl, hword, .self _ _, rfl⟩
    · exact Or.inr ⟨.argument :: outer, word', selector', rest', rfl, hword',
        .argument _ _ _ _ _ _ hword hstands, hthird⟩

/-! ## What is taken for a function -/

theorem not_isRecognized_of_stray {v : Json} (h : Stray v) : ¬ IsRecognized v := by
  intro hrecognized
  cases hrecognized <;> cases h

theorem isRecognized_str_iff {word : String} : IsRecognized (.str word) ↔ word ∈ bareWords := by
  constructor
  · rintro ⟨⟩
    assumption
  · exact IsRecognized.word word

theorem isRecognized_arr_iff {word : String} {args : List Json} :
    IsRecognized (.arr (.str word :: args)) ↔ word ∈ bareWords
      ∨ ((word ∈ namedWords ∨ word ∈ findWords) ∧ (args.head?.bind Json.name?).isSome = true) := by
  constructor
  · intro h
    cases h with
    | bare _ _ h => exact Or.inl h
    | named _ name rest h => exact Or.inr ⟨h, rfl⟩
  · rintro (h | ⟨h, hsome⟩)
    · exact IsRecognized.bare word args h
    · obtain ⟨name, hname⟩ := Option.isSome_iff_exists.mp hsome
      obtain ⟨rest, rfl⟩ := Json.name?_head?_eq_some_iff.mp hname
      exact IsRecognized.named word name rest h

/-- A function on the way to what stands in a value is taken for one. -/
theorem Stands.isRecognized_of_above {kind kind' : Rule.Expected} {v w f : Json}
    {place steps : List Rule.Step} (h : Stands kind v steps kind' w) (hv : v.Ordered)
    (hf : Stands kind v place .function f) (habove : place <+: steps) (hne : place ≠ steps) :
    IsRecognized f := by
  induction h generalizing place with
  | self => exact absurd (List.prefix_nil.mp habove) hne
  | member members name raw steps kind w hm h ih =>
    obtain ⟨hkeys, hvalues⟩ := Json.ordered_obj.mp hv
    cases hf with
    | member _ name' raw' place _ _ hm' hf =>
      obtain ⟨hname, hrest⟩ := List.cons_prefix_cons.mp habove
      cases hname
      obtain rfl := hkeys.value_unique hm' hm
      exact ih (hvalues _ hm) hf hrest fun heq => hne (heq ▸ rfl)
  | nested members steps kind w h ih =>
    cases hf with
    | self => exact IsRecognized.rule members
    | nested _ _ _ _ hf => exact ih hv hf habove hne
  | argument word selector rest steps kind w hword h ih =>
    cases hf with
    | self => exact IsRecognized.named word selector rest (Or.inr hword)
    | argument _ _ _ place _ _ _ hf =>
      exact ih hv.third hf (List.cons_prefix_cons.mp habove).2 fun heq => hne (heq ▸ rfl)

/-! ## What stands in the grammar -/

/-- The value is of the grammar in its place. -/
def IsSound : Rule.Expected → Json → Prop
  | .rule, v => IsRule v
  | .function, v => IsFunction v

/-- What stands in a value of the grammar is of the grammar. -/
theorem Stands.isSound {kind kind' : Rule.Expected} {v w : Json} {place : List Rule.Step}
    (h : Stands kind v place kind' w) (hv : IsSound kind v) : IsSound kind' w := by
  induction h with
  | self => exact hv
  | member members name raw place kind w hm h ih => exact ih (isRule_obj_iff.mp hv _ hm)
  | nested members place kind w h ih => exact ih (isFunction_obj_iff.mp hv)
  | argument word selector rest place kind w hword h ih =>
    rcases isFunction_arr_iff.mp hv with hbare | ⟨hnamed, -⟩ | ⟨-, -, hrule⟩
    · exact absurd hword (not_mem_findWords_of_mem_bareWords hbare)
    · exact absurd hword (not_mem_findWords_of_mem_namedWords hnamed)
    · exact ih hrule

/-! ## The order of members -/

/-- The members in the order in which they are gone through. -/
def inOrder (members : List (String × Json)) : List (String × Json) :=
  (members.find? Rule.isShortcut).toList ++ members.filter fun m => !Rule.isShortcut m

theorem Sooner.asymm {m n : String × Json} (h : Sooner m n) : ¬ Sooner n m := by
  rintro ⟨hm, hn⟩
  have hlt : m.1 < n.1 := h.2.resolve_left (by simp [hm])
  have hgt : n.1 < m.1 := hn.resolve_left (by simp [h.1])
  exact String.lt_asymm hlt hgt

theorem mem_inOrder {members : List (String × Json)} (hkeys : Entries.Ordered members) {m : String × Json} :
    m ∈ inOrder members ↔ m ∈ members := by
  rw [inOrder, List.mem_append, Option.mem_toList, List.mem_filter]
  constructor
  · rintro (hfind | ⟨hm, -⟩)
    · exact List.mem_of_find?_eq_some hfind
    · exact hm
  · intro hm
    by_cases hshortcut : Rule.isShortcut m = true
    · exact Or.inl (Rule.find?_isShortcut_of_mem hkeys hm hshortcut)
    · exact Or.inr ⟨hm, by simpa using hshortcut⟩

theorem pairwise_inOrder {members : List (String × Json)} (hkeys : Entries.Ordered members) :
    (inOrder members).Pairwise Sooner := by
  have hfields : (members.filter fun m => !Rule.isShortcut m).Pairwise Sooner := by
    refine (hkeys.filter _).imp_of_mem fun {m n} _ hn hlt => ⟨?_, Or.inr hlt⟩
    simpa using (List.mem_filter.mp hn).2
  refine List.pairwise_append.mpr ⟨?_, hfields, fun m hm n hn => ⟨?_, Or.inl ?_⟩⟩
  · cases members.find? Rule.isShortcut <;> simp
  · simpa using (List.mem_filter.mp hn).2
  · exact List.find?_some (Option.mem_toList.mp hm)

/-- Of two members, one comes sooner. -/
theorem sooner_or_sooner {members : List (String × Json)} (hkeys : Entries.Ordered members)
    {m n : String × Json} (hm : m ∈ members) (hn : n ∈ members) (hne : m ≠ n) : Sooner m n ∨ Sooner n m := by
  have : Std.Symm fun m n => Sooner m n ∨ Sooner n m := ⟨fun _ _ h => h.symm⟩
  have hpairwise : (inOrder members).Pairwise fun m n => Sooner m n ∨ Sooner n m :=
    (pairwise_inOrder hkeys).imp Or.inl
  exact hpairwise.forall ((mem_inOrder hkeys).mpr hm) ((mem_inOrder hkeys).mpr hn) hne

/-- What comes sooner than a member stands in front of it. -/
theorem mem_before_of_sooner {members before after : List (String × Json)} {m n : String × Json}
    (hkeys : Entries.Ordered members) (hsplit : inOrder members = before ++ m :: after) (hn : n ∈ members)
    (h : Sooner n m) : n ∈ before := by
  have hpairwise := pairwise_inOrder hkeys
  rw [hsplit, List.pairwise_append, List.pairwise_cons] at hpairwise
  have hmem : n ∈ before ++ m :: after := hsplit ▸ (mem_inOrder hkeys).mpr hn
  rcases List.mem_append.mp hmem with hbefore | hrest
  · exact hbefore
  · rcases List.mem_cons.mp hrest with rfl | hafter
    · exact absurd h h.asymm
    · exact absurd h (hpairwise.2.1.1 n hafter).asymm

/-! ## One step further out -/

theorem not_precedes_nil_left {v : Json} {place : List Rule.Step} : ¬ Precedes v [] place := by
  rintro ⟨⟩

theorem not_precedes_nil_right {v : Json} {place : List Rule.Step} : ¬ Precedes v place [] := by
  rintro ⟨⟩

/-- What does not fit where it stands is the first fault of itself. -/
theorem isFirstFault_self {kind : Rule.Expected} {v : Json} (h : ¬ Fits kind v) :
    IsFirstFault kind v ⟨[], kind, v⟩ where
  stands := .self kind v
  unfit := h
  first := fun _ _ _ hprecedes => absurd hprecedes not_precedes_nil_right

/-- The first fault of a rule for the same element is that of the function. -/
theorem IsFirstFault.nested {members : List (String × Json)} {fault : Rule.Fault}
    (h : IsFirstFault .rule (.obj members) fault) : IsFirstFault .function (.obj members) fault where
  stands := .nested _ _ _ _ h.stands
  unfit := h.unfit
  first := by
    intro place f hstands hprecedes
    cases hstands with
    | self => exact absurd hprecedes not_precedes_nil_left
    | nested _ _ _ _ hstands => exact h.first place f hstands hprecedes

/-- The first fault behind a word and a selector is that of the rule behind them. -/
theorem IsFirstFault.argument {word selector : String} {rest : List Json} {fault : Rule.Fault}
    (hword : word ∈ findWords) (h : IsFirstFault .rule (rest[0]?.getD .null) fault) :
    IsFirstFault .function (.arr (.str word :: .str selector :: rest)) (fault.behind .argument) where
  stands := .argument _ _ _ _ _ _ hword h.stands
  unfit := h.unfit
  first := by
    intro place f hstands hprecedes
    cases hprecedes with
    | argument _ place _ hprecedes =>
      cases hstands with
      | argument _ _ _ _ _ _ _ hstands => exact h.first place f hstands hprecedes

/-- The first fault of an object is that of a member, if the members that come sooner are functions. -/
theorem IsFirstFault.member {members : List (String × Json)} (hkeys : Entries.Ordered members)
    {m : String × Json} (hm : m ∈ members) (hsooner : ∀ n ∈ members, Sooner n m → IsFunction n.2)
    {fault : Rule.Fault} (h : IsFirstFault .function m.2 fault) :
    IsFirstFault .rule (.obj members) (fault.behind (.member m.1)) where
  stands := .member _ _ _ _ _ _ hm h.stands
  unfit := h.unfit
  first := by
    intro place f hstands hprecedes
    cases hstands with
    | member _ name raw place _ _ hn hstands =>
      cases hprecedes with
      | sooner _ _ _ raw' raw'' _ _ hn' hm' hlt =>
        -- Keys are not repeated, so the members that the order speaks of are the ones at hand.
        obtain rfl := hkeys.value_unique hn hn'
        obtain rfl := hkeys.value_unique hm hm'
        exact hstands.isSound (hsooner (name, raw) hn hlt)
      | member _ _ raw' _ _ hn' hprecedes =>
        obtain rfl := hkeys.value_unique hn hm
        obtain rfl := hkeys.value_unique hn' hm
        exact h.first place f hstands hprecedes

/-- The order is one of all places: of two functions, one stands on the way to the other or precedes it. -/
theorem Stands.precedes_or_above {kind kind₁ kind₂ : Rule.Expected} {v w₁ w₂ : Json}
    {place₁ place₂ : List Rule.Step} (h₁ : Stands kind v place₁ kind₁ w₁) (h₂ : Stands kind v place₂ kind₂ w₂)
    (hv : v.Ordered) :
    Precedes v place₁ place₂ ∨ Precedes v place₂ place₁ ∨ place₁ <+: place₂ ∨ place₂ <+: place₁ := by
  induction h₁ generalizing place₂ with
  | self => exact Or.inr (Or.inr (Or.inl List.nil_prefix))
  | member members name₁ raw₁ place₁ kind w hm₁ h₁ ih =>
    obtain ⟨hkeys, hvalues⟩ := Json.ordered_obj.mp hv
    cases h₂ with
    | self => exact Or.inr (Or.inr (Or.inr List.nil_prefix))
    | member _ name₂ raw₂ place₂ _ _ hm₂ h₂ =>
      by_cases heq : (name₁, raw₁) = (name₂, raw₂)
      · cases heq
        rcases ih h₂ (hvalues _ hm₁) with h | h | h | h
        · exact Or.inl (.member _ _ _ _ _ hm₁ h)
        · exact Or.inr (Or.inl (.member _ _ _ _ _ hm₁ h))
        · exact Or.inr (Or.inr (Or.inl (List.cons_prefix_cons.mpr ⟨rfl, h⟩)))
        · exact Or.inr (Or.inr (Or.inr (List.cons_prefix_cons.mpr ⟨rfl, h⟩)))
      · rcases sooner_or_sooner hkeys hm₁ hm₂ heq with h | h
        · exact Or.inl (.sooner _ _ _ _ _ _ _ hm₁ hm₂ h)
        · exact Or.inr (Or.inl (.sooner _ _ _ _ _ _ _ hm₂ hm₁ h))
  | nested members place₁ kind w h₁ ih =>
    cases h₂ with
    | self => exact Or.inr (Or.inr (Or.inr List.nil_prefix))
    | nested _ _ _ _ h₂ => exact ih h₂ hv
  | argument word selector rest place₁ kind w hword h₁ ih =>
    cases h₂ with
    | self => exact Or.inr (Or.inr (Or.inr List.nil_prefix))
    | argument _ _ _ place₂ _ _ _ h₂ =>
      rcases ih h₂ hv.third with h | h | h | h
      · exact Or.inl (.argument _ _ _ h)
      · exact Or.inr (Or.inl (.argument _ _ _ h))
      · exact Or.inr (Or.inr (Or.inl (List.cons_prefix_cons.mpr ⟨rfl, h⟩)))
      · exact Or.inr (Or.inr (Or.inr (List.cons_prefix_cons.mpr ⟨rfl, h⟩)))

end Written

open Written

/-! ## The first fault of a rule -/

/-- The fault of a field, seen from its rule. -/
def Rule.fieldFault? (p : String × RuleFunction) : Option Fault := p.2.fault?.map (.behind (.member p.1))

theorem Rule.fieldsFault?_eq_findSome? (fields : List (String × RuleFunction)) :
    fieldsFault? fields = fields.findSome? fieldFault? := by
  induction fields with
  | nil => rfl
  | cons p rest ih =>
    rw [fieldsFault?, ih, List.findSome?_cons, fieldFault?]
    cases p.2.fault? <;> rfl

/-- The fault of an object is that of the first member, in the order in which they are gone through, that has
one. -/
theorem Rule.fault?_ofJson_obj (members : List (String × Json)) :
    (ofJson (.obj members)).fault? = (Written.inOrder members).findSome? fun m =>
      fieldFault? (m.1, RuleFunction.ofJson m.2) := by
  rw [ofJson_obj, Written.inOrder, List.findSome?_append]
  cases hfind : members.find? isShortcut with
  | none =>
    simp only [Option.map_none, fault?, fieldsFault?_eq_findSome?, List.findSome?_map, Option.toList_none,
      List.findSome?_nil, Option.none_or]
    rfl
  | some m =>
    have hname : m.1 = shortcutName := (isShortcut_iff.mp (List.find?_some hfind)).1
    simp only [Option.map_some, fault?, fieldsFault?_eq_findSome?, List.findSome?_map, Option.toList_some,
      List.findSome?_singleton, fieldFault?, hname]
    rfl

/-- The member behind a fault of an object: the functions of those that come sooner are free of faults. -/
theorem Rule.exists_of_fault?_ofJson_obj {members : List (String × Json)} (hkeys : Entries.Ordered members)
    {fault : Fault} (h : (ofJson (.obj members)).fault? = some fault) :
    ∃ m ∈ members, ∃ inner, (RuleFunction.ofJson m.2).fault? = some inner
      ∧ fault = inner.behind (.member m.1)
      ∧ ∀ n ∈ members, Sooner n m → (RuleFunction.ofJson n.2).fault? = none := by
  rw [fault?_ofJson_obj, List.findSome?_eq_some_iff] at h
  obtain ⟨before, m, after, hsplit, hm, hbefore⟩ := h
  obtain ⟨inner, hinner, rfl⟩ := Option.map_eq_some_iff.mp hm
  have hmem : m ∈ members := (mem_inOrder hkeys).mp (hsplit ▸ List.mem_append_cons_self)
  refine ⟨m, hmem, inner, hinner, rfl, fun n hn hsooner => ?_⟩
  exact Option.map_eq_none_iff.mp (hbefore n (mem_before_of_sooner hkeys hsplit hn hsooner))

/-- The fault of a word is that of the rule behind the selector, or the whole value lacks what it needs to be
taken for a function. -/
theorem RuleFunction.fault?_ofWord_cases {raw : Json} {word : String} {name : Option String} {rule : Rule}
    {fault : Rule.Fault} (h : (ofWord raw word name rule).fault? = some fault) :
    (word ∈ findWords ∧ name.isSome = true
        ∧ ∃ inner, rule.fault? = some inner ∧ inner.behind .argument = fault)
      ∨ (⟨[], .function, raw⟩ = fault ∧ word ∉ bareWords
        ∧ (name.isSome = true → word ∉ namedWords ∧ word ∉ findWords)) := by
  rcases Operator.tag_or_unknown word with ⟨op, rfl⟩ | ⟨hnone, hne⟩
  · rw [ofWord_tag] at h
    cases op <;> cases name <;>
      simp_all [Operator.function?, Operator.tag, fault?, bareWords, namedWords, findWords]
  · obtain ⟨hbare, hnamed, hfind⟩ := not_mem_words_of_unknown hne
    rw [ofWord_of_unknown hnone, fault?, Option.some_inj] at h
    exact Or.inr ⟨h, hbare, fun _ => ⟨hnamed, hfind⟩⟩

/-- The fault of a value in the place of a rule, and in that of a function, is its first one. -/
theorem Rule.isFirstFault_ofJson (v : Json) (h : v.Ordered) :
    (∀ fault, (Rule.ofJson v).fault? = some fault → IsFirstFault .rule v fault)
      ∧ ∀ fault, (RuleFunction.ofJson v).fault? = some fault → IsFirstFault .function v fault := by
  -- In the place of a rule, everything but an object is its own fault.
  have hstray : ∀ v, Rule.ofJson v = notARule v → (∀ members, v ≠ .obj members) →
      ∀ fault, (Rule.ofJson v).fault? = some fault → IsFirstFault .rule v fault := by
    intro v hv hobj fault hfault
    rw [hv, notARule, fault?, Option.some_inj] at hfault
    refine hfault ▸ isFirstFault_self ?_
    rintro ⟨members, hmembers⟩
    exact hobj members hmembers
  induction v using Written.induction with
  | stray v hv =>
    refine ⟨hstray v (by cases hv <;> rfl) (by rintro members rfl; cases hv), fun fault hfault => ?_⟩
    have hinvalid : RuleFunction.ofJson v = .invalid v := by cases hv <;> rfl
    rw [hinvalid, RuleFunction.fault?, Option.some_inj] at hfault
    exact hfault ▸ isFirstFault_self (not_isRecognized_of_stray hv)
  | str word =>
    refine ⟨hstray _ rfl (by simp), fun fault hfault => ?_⟩
    rw [RuleFunction.ofJson] at hfault
    rcases RuleFunction.fault?_ofWord_cases hfault with ⟨-, hname, -⟩ | ⟨rfl, hbare, -⟩
    · cases hname
    · exact isFirstFault_self fun hrecognized => hbare (isRecognized_str_iff.mp hrecognized)
  | arr word args ih =>
    refine ⟨hstray _ rfl (by simp), fun fault hfault => ?_⟩
    rw [RuleFunction.ofJson_arr] at hfault
    rcases RuleFunction.fault?_ofWord_cases hfault with
      ⟨hfind, hname, inner, hinner, rfl⟩ | ⟨rfl, hbare, hwords⟩
    · obtain ⟨selector, hselector⟩ := Option.isSome_iff_exists.mp hname
      obtain ⟨rest, rfl⟩ := Json.name?_head?_eq_some_iff.mp hselector
      exact IsFirstFault.argument hfind ((ih h.third).1 inner hinner)
    · refine isFirstFault_self fun hrecognized => ?_
      rcases isRecognized_arr_iff.mp hrecognized with hmem | ⟨hmem, hname⟩
      · exact hbare hmem
      · obtain ⟨hnamed, hfind⟩ := hwords hname
        exact hmem.elim hnamed hfind
  | obj members ih =>
    obtain ⟨hkeys, hvalues⟩ := Json.ordered_obj.mp h
    have hrule : ∀ fault, (Rule.ofJson (.obj members)).fault? = some fault →
        IsFirstFault .rule (.obj members) fault := by
      intro fault hfault
      obtain ⟨m, hm, inner, hinner, rfl, hsooner⟩ := exists_of_fault?_ofJson_obj hkeys hfault
      refine IsFirstFault.member hkeys hm (fun n hn hlt => ?_) ((ih m hm (hvalues m hm)).2 inner hinner)
      exact (fault?_ofJson_and_fault?_ofJson n.2 (hvalues n hn)).2.mp (hsooner n hn hlt)
    refine ⟨hrule, fun fault hfault => ?_⟩
    rw [RuleFunction.ofJson_obj, RuleFunction.fault?] at hfault
    exact (hrule fault hfault).nested

/-! ## Main result -/

/-- A fault that the check finds is located: its path spells steps to the value that its reason quotes, and
that value is not what the reason expects in its place, which for a rule is the whole value or the third item
behind a word and a selector. All functions that precede it are free of faults, and those on the way to it are
taken for functions. The members of objects are listed in the order of their keys, as they are in every value
that is read (`Json.ordered_of_read`). -/
theorem Rule.locates_first_fault (v : Json) (h : v.Ordered) (fault : Fault)
    (hfault : (ofJson v).fault? = some fault) :
    ∃ steps raw, fault.path = "$" ++ String.join (steps.map Step.text)
      ∧ part? v steps = some raw
      ∧ ((fault.reason = "expected a rule object, found " ++ raw.text
          ∧ (∀ members, raw ≠ .obj members)
          ∧ (steps = [] ∨ ∃ outer word selector rest, steps = outer ++ [.argument] ∧ word ∈ findWords
            ∧ Stands .rule v outer .function (.arr (.str word :: .str selector :: rest))
            ∧ raw = rest[0]?.getD .null))
        ∨ (fault.reason = "unrecognized rule function " ++ raw.text
          ∧ Stands .rule v steps .function raw
          ∧ ¬ IsRecognized raw))
      ∧ ∀ place f, Stands .rule v place .function f →
        (Precedes v place steps → IsFunction f ∧ (RuleFunction.ofJson f).fault? = none)
          ∧ (place <+: steps → place ≠ steps → IsRecognized f) := by
  obtain ⟨hstands, hunfit, hfirst⟩ := (isFirstFault_ofJson v h).1 fault hfault
  obtain ⟨steps, expected, raw⟩ := fault
  have hpart := hstands.part?_eq h
  refine ⟨steps, raw, rfl, hpart, ?_, fun place f hf => ⟨fun hprecedes => ?_, ?_⟩⟩
  · cases expected with
    | rule =>
      have hraw : ∀ members, raw ≠ .obj members := fun members hmembers => hunfit ⟨members, hmembers⟩
      refine Or.inl ⟨rfl, hraw, ?_⟩
      rcases hstands.eq_or_third rfl hraw with ⟨-, hsteps, -⟩ | hthird
      · exact Or.inl hsteps
      · exact Or.inr hthird
    | function => exact Or.inr ⟨rfl, hstands, hunfit⟩
  · have hfunction := hfirst place f hf hprecedes
    exact ⟨hfunction, (fault?_ofJson_and_fault?_ofJson f (hf.ordered h)).2.mpr hfunction⟩
  · exact hstands.isRecognized_of_above h hf

/-- The attribute of the list items has no name; the text in front of them is a function. -/
theorem Rule.locates_first_fault_below_items :
    let v := Json.obj [("_", .str "text"),
      ("items", .arr [.str "find", .str "li", .obj [("href", .arr [.str "attr"])]])]
    let fault : Fault := ⟨[.member "items", .argument, .member "href"], .function, .arr [.str "attr"]⟩
    v.Ordered ∧ (ofJson v).fault? = some fault ∧ fault.path = "$.items[2].href"
      ∧ ∃ steps raw, fault.path = "$" ++ String.join (steps.map Step.text) ∧ part? v steps = some raw
        ∧ ∀ place f, Stands .rule v place .function f → Precedes v place steps → IsFunction f := by
  intro v fault
  have hordered : v.Ordered := by decide
  have hfault : (ofJson v).fault? = some fault := by decide
  obtain ⟨steps, raw, hpath, hpart, -, hfirst⟩ := locates_first_fault v hordered fault hfault
  exact ⟨hordered, hfault, by decide, steps, raw, hpath, hpart,
    fun place f hf hprecedes => ((hfirst place f hf).1 hprecedes).1⟩

end Gleaner
