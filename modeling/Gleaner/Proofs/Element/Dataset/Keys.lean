import Gleaner.Element
import Mathlib

set_option autoImplicit false

/-! # Keys and the names of attributes

A value of a data set has a key in camel case, and it stands in an attribute whose name has dashes.
`Dataset.dashed` goes from the key to the name character by character. `Dataset.camel` goes back and has to
look one character ahead, because a dash counts only together with a lower-case letter behind it.

A text that has such a dash of its own is no key: its name is also that of the text with the upper-case letter
in the place of the dash. Keys and the names without upper-case letters belong to each other one to one
(`Dataset.camel_dashed_iff`, `Dataset.dashed_camel_iff`), so values under different keys stand in different
attributes (`Dataset.keys_one_to_one`). -/

namespace Gleaner

/-! ## Letters -/

namespace Text

variable {c : Char}

theorem isAsciiUpper_eq (c : Char) : isAsciiUpper c = c.isUpper := by
  simp [isAsciiUpper, Char.isUpper, Char.le_def]

theorem isLower_toLower (h : c.isUpper = true) : c.toLower.isLower = true := by
  rw [Char.isLower_toLower_eq_isAlpha, Char.isAlpha, h, Bool.true_or]

theorem isUpper_toUpper (h : c.isLower = true) : c.toUpper.isUpper = true := by
  rw [Char.isUpper_toUpper_eq_isAlpha, Char.isAlpha, h, Bool.or_true]

theorem toUpper_toLower (h : c.isUpper = true) : c.toLower.toUpper = c := by
  rw [Char.toUpper_toLower_eq_toUpper, Char.toUpper_eq_of_not_isLower (Char.not_isLower_of_isUpper h)]

theorem toLower_toUpper (h : c.isLower = true) : c.toUpper.toLower = c := by
  rw [Char.toLower_toUpper_eq_toLower, Char.toLower_eq_of_not_isUpper (Char.not_isUpper_of_isLower h)]

end Text

namespace Dataset

variable {c d : Char} {cs : List Char}

/-! ## Keys and names -/

/-- A name with dashes, in camel case: a dash and a lower-case letter behind it become the letter in upper
case, and all else stays. -/
def camel : List Char → List Char
  | [] => []
  | [c] => [c]
  | c :: d :: rest =>
    if c = '-' ∧ d.isLower then d.toUpper :: camel rest else c :: camel (d :: rest)

/-- A key has no dash with a lower-case letter behind it. -/
def IsKey (key : List Char) : Prop := key.IsChain fun c d => ¬ (c = '-' ∧ d.isLower)

/-- What is written with dashes has no upper-case letters. -/
def IsDashed (name : List Char) : Prop := ∀ c ∈ name, c.isUpper = false

instance : DecidablePred IsKey := fun key => inferInstanceAs (Decidable (key.IsChain _))

instance : DecidablePred IsDashed := fun name => inferInstanceAs (Decidable (∀ c ∈ name, _))

theorem isKey_cons_iff :
    IsKey (c :: cs) ↔ (∀ d ∈ cs.head?, ¬ (c = '-' ∧ d.isLower)) ∧ IsKey cs := List.isChain_cons

theorem isDashed_cons_iff : IsDashed (c :: cs) ↔ c.isUpper = false ∧ IsDashed cs := List.forall_mem_cons

/-! ## From a key to a name -/

theorem dashed_cons_of_isUpper (h : c.isUpper = true) : dashed (c :: cs) = '-' :: c.toLower :: dashed cs := by
  simp [dashed, dashedChar, Text.isAsciiUpper_eq, h]

theorem dashed_cons_of_not_isUpper (h : c.isUpper = false) : dashed (c :: cs) = c :: dashed cs := by
  simp [dashed, dashedChar, Text.isAsciiUpper_eq, h]

theorem isDashed_dashed (key : List Char) : IsDashed (dashed key) := by
  induction key with
  | nil => exact List.forall_mem_nil _
  | cons c rest ih =>
    cases h : c.isUpper with
    | true =>
      rw [dashed_cons_of_isUpper h, isDashed_cons_iff, isDashed_cons_iff]
      exact ⟨by decide, Char.isUpper_toLower_eq_false c, ih⟩
    | false =>
      rw [dashed_cons_of_not_isUpper h, isDashed_cons_iff]
      exact ⟨h, ih⟩

theorem dashed_eq_self (h : IsDashed cs) : dashed cs = cs := by
  induction cs with
  | nil => rfl
  | cons c rest ih =>
    obtain ⟨hc, hrest⟩ := isDashed_cons_iff.mp h
    rw [dashed_cons_of_not_isUpper hc, ih hrest]

/-- Only a dash can be new in front, so a lower-case letter in front was there before. -/
theorem mem_head?_of_dashed (hd : d.isLower = true) (h : d ∈ (dashed cs).head?) : d ∈ cs.head? := by
  cases cs with
  | nil => exact h
  | cons c rest =>
    cases hc : c.isUpper with
    | true =>
      rw [dashed_cons_of_isUpper hc] at h
      obtain rfl : '-' = d := Option.some.inj h
      exact absurd hd (by decide)
    | false => rwa [dashed_cons_of_not_isUpper hc] at h

/-! ## From a name to a key -/

theorem camel_dash_cons (h : d.isLower = true) : camel ('-' :: d :: cs) = d.toUpper :: camel cs :=
  if_pos ⟨rfl, h⟩

theorem camel_cons_cons (h : ¬ (c = '-' ∧ d.isLower)) : camel (c :: d :: cs) = c :: camel (d :: cs) :=
  if_neg h

/-- A character stays, unless it is a dash with a lower-case letter behind it. -/
theorem camel_cons (h : ∀ d ∈ cs.head?, ¬ (c = '-' ∧ d.isLower)) : camel (c :: cs) = c :: camel cs := by
  cases cs with
  | nil => rfl
  | cons d rest => exact camel_cons_cons (h d rfl)

/-- Only an upper-case letter can be new in front, so a lower-case one in front was there before. -/
theorem mem_head?_of_camel (hd : d.isLower = true) (h : d ∈ (camel cs).head?) : d ∈ cs.head? := by
  unfold camel at h
  split at h
  · exact h
  · exact h
  · next c e rest =>
    split at h
    · obtain rfl : e.toUpper = d := Option.some.inj h
      rw [Char.isLower_toUpper_eq_false] at hd
      cases hd
    · exact h

theorem isKey_camel (name : List Char) : IsKey (camel name) := by
  induction name using camel.induct with
  | case1 => exact List.isChain_nil
  | case2 c => exact List.isChain_singleton c
  | case3 c d rest hpair ih =>
    obtain ⟨rfl, hd⟩ := hpair
    rw [camel_dash_cons hd, isKey_cons_iff]
    refine ⟨fun e _ hdash => ?_, ih⟩
    have hupper := Text.isUpper_toUpper hd
    rw [hdash.1] at hupper
    exact absurd hupper (by decide)
  | case4 c d rest hpair ih =>
    rw [camel_cons_cons hpair, isKey_cons_iff]
    refine ⟨fun e he hdash => ?_, ih⟩
    obtain rfl : d = e := Option.some.inj (mem_head?_of_camel hdash.2 he)
    exact hpair hdash

/-! ## There and back -/

theorem camel_dashed {key : List Char} (h : IsKey key) : camel (dashed key) = key := by
  induction key with
  | nil => rfl
  | cons c rest ih =>
    obtain ⟨hhead, hrest⟩ := isKey_cons_iff.mp h
    cases hc : c.isUpper with
    | true =>
      rw [dashed_cons_of_isUpper hc, camel_dash_cons (Text.isLower_toLower hc), Text.toUpper_toLower hc,
        ih hrest]
    | false =>
      -- A letter that would go with a dash here has stood behind it in the key, too.
      have hkept : ∀ d ∈ (dashed rest).head?, ¬ (c = '-' ∧ d.isLower) := fun d hd hdash =>
        hhead d (mem_head?_of_dashed hdash.2 hd) hdash
      rw [dashed_cons_of_not_isUpper hc, camel_cons hkept, ih hrest]

theorem dashed_camel {name : List Char} (h : IsDashed name) : dashed (camel name) = name := by
  induction name using camel.induct with
  | case1 => rfl
  | case2 c => exact dashed_eq_self h
  | case3 c d rest hpair ih =>
    obtain ⟨rfl, hd⟩ := hpair
    have hrest : IsDashed rest := (isDashed_cons_iff.mp (isDashed_cons_iff.mp h).2).2
    rw [camel_dash_cons hd, dashed_cons_of_isUpper (Text.isUpper_toUpper hd), Text.toLower_toUpper hd,
      ih hrest]
  | case4 c d rest hpair ih =>
    obtain ⟨hc, hrest⟩ := isDashed_cons_iff.mp h
    rw [camel_cons_cons hpair, dashed_cons_of_not_isUpper hc, ih hrest]

/-- Exactly the keys come back from their names. -/
theorem camel_dashed_iff {key : List Char} : camel (dashed key) = key ↔ IsKey key :=
  ⟨fun h => h ▸ isKey_camel _, camel_dashed⟩

/-- Exactly the names without upper-case letters come back from their keys. -/
theorem dashed_camel_iff {name : List Char} : dashed (camel name) = name ↔ IsDashed name :=
  ⟨fun h => h ▸ isDashed_dashed _, dashed_camel⟩

/-! ## The attributes of different keys -/

/-- Keys with one attribute are the same. -/
theorem eq_of_attributeName_eq {key other : String} (h : IsKey key.toList) (hother : IsKey other.toList)
    (hname : attributeName key = attributeName other) : key = other := by
  have hdashed : dashed key.toList = dashed other.toList :=
    String.ofList_injective ((String.append_right_inj _).mp hname)
  apply String.toList_inj.mp
  rw [← camel_dashed h, hdashed, camel_dashed hother]

/-- One more attribute is read under its own key, and under no other. -/
theorem data_cons {key other : String} (h : IsKey key.toList) (hother : IsKey other.toList) (text : String)
    (name : Html.ElementName) (attributes : List Html.Attribute) :
    Element.data (.element name (⟨.plain, attributeName other, text⟩ :: attributes)) key
      = if key = other then decode text else Element.data (.element name attributes) key := by
  by_cases hkey : key = other
  · subst hkey
    simp [Element.data, Html.Node.attribute?, Html.Node.attributes]
  · have hname : attributeName other ≠ attributeName key := fun hsame =>
      hkey (eq_of_attributeName_eq h hother hsame.symm)
    simp [Element.data, Html.Node.attribute?, Html.Node.attributes, hkey, hname]

/-- Keys and names belong to each other one to one. Exactly the keys come back from their names, and exactly
the names without upper-case letters come back from their keys. Every text is written without upper-case
letters, and writing it once more changes nothing. Different keys have different attributes, so that the value
under a key does not depend on the attribute of another one. -/
theorem keys_one_to_one :
    (∀ key, camel (dashed key) = key ↔ IsKey key)
    ∧ (∀ name, dashed (camel name) = name ↔ IsDashed name)
    ∧ (∀ key, IsDashed (dashed key) ∧ dashed (dashed key) = dashed key)
    ∧ ∀ key other : String, IsKey key.toList → IsKey other.toList →
      (attributeName key = attributeName other → key = other)
      ∧ ∀ text name attributes,
        Element.data (.element name (⟨.plain, attributeName other, text⟩ :: attributes)) key
          = if key = other then decode text else Element.data (.element name attributes) key := by
  refine ⟨fun key => camel_dashed_iff, fun name => dashed_camel_iff, fun key => ?_,
    fun key other h hother => ⟨eq_of_attributeName_eq h hother, data_cons h hother⟩⟩
  have hdashed := isDashed_dashed key
  exact ⟨hdashed, dashed_eq_self hdashed⟩

/-- Dashes in front, in a row and at the end, and two keys that differ by a dash. -/
theorem keys_one_to_one_of_dashes :
    dashed "-9--FooÄB-".toList = "-9---fooÄ-b-".toList
    ∧ camel "-9---fooÄ-b-".toList = "-9--FooÄB-".toList
    ∧ attributeName "fooBar" = "data-foo-bar" ∧ attributeName "foo-Bar" = "data-foo--bar"
    ∧ Element.data (.element ⟨.html, "p"⟩ [⟨.plain, "data-foo-bar", "1"⟩, ⟨.plain, "data-foo--bar", "true"⟩])
        "foo-Bar" = .bool true := by
  obtain ⟨hback, -, -, hkeys⟩ := keys_one_to_one
  have hname : dashed "-9--FooÄB-".toList = "-9---fooÄ-b-".toList := by decide
  have hfoo : attributeName "fooBar" = "data-foo-bar" := by decide +kernel
  have hdash : attributeName "foo-Bar" = "data-foo--bar" := by decide +kernel
  obtain ⟨-, hfirst⟩ := hkeys "foo-Bar" "fooBar" (by decide) (by decide)
  obtain ⟨-, hsecond⟩ := hkeys "foo-Bar" "foo-Bar" (by decide) (by decide)
  have hkey : camel (dashed "-9--FooÄB-".toList) = "-9--FooÄB-".toList := (hback _).mpr (by decide)
  rw [hname] at hkey
  refine ⟨hname, hkey, hfoo, hdash, ?_⟩
  rw [← hfoo, ← hdash, hfirst, if_neg (by decide), hsecond, if_pos rfl]
  exact if_pos rfl

end Dataset

end Gleaner
