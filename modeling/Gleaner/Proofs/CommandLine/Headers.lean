import Gleaner.CommandLine.Run
import Gleaner.Proofs.Dictionary
import Gleaner.Proofs.Text
import Mathlib.Data.List.Induction

set_option autoImplicit false

/-! # Header arguments

A header field stands on the command line as a name and a value with a colon between them. The arguments are
taken one after the other until one has no colon. If all of them have one, the header fields are told from the
list alone: under each name that is given, the value that is given last (`get?_headers_iff`).

Both are proved from the end of the list: the argument that stands last is taken last, and it replaces what
those before it have given for its name. -/

namespace Gleaner.CommandLine

variable {url argument name value : String} {arguments : List String} {o : Options} {failure : Failure}

/-! ## The last value -/

section Last

variable {α β : Type} {gives : α → String → String → Prop} {items : List α} {item : α}

/-- Of the items that give a value for the name the last one gives this value. -/
def LastGives (gives : α → String → String → Prop) (items : List α) (name value : String) : Prop :=
  ∃ before item after, items = before ++ item :: after ∧ gives item name value
    ∧ ∀ later ∈ after, ∀ w, ¬ gives later name w

theorem not_lastGives_nil : ¬ LastGives gives [] name value := by
  rintro ⟨before, item, after, heq, -⟩
  exact absurd heq.symm (by simp)

/-- An item at the end counts if it gives a value for the name, and else those before it. -/
theorem lastGives_concat_iff : LastGives gives (items ++ [item]) name value
    ↔ gives item name value ∨ (∀ w, ¬ gives item name w) ∧ LastGives gives items name value := by
  constructor
  · rintro ⟨before, found, after, heq, hfound, hnone⟩
    rcases List.eq_nil_or_concat after with rfl | ⟨more, last, rfl⟩
    · obtain ⟨-, hlast⟩ := List.append_inj' heq rfl
      obtain rfl := (List.cons.inj hlast).1
      exact .inl hfound
    · rw [List.concat_eq_append] at heq hnone
      have hsplit : items ++ [item] = (before ++ found :: more) ++ [last] := by simpa using heq
      obtain ⟨hitems, hlast⟩ := List.append_inj' hsplit rfl
      obtain rfl := (List.cons.inj hlast).1
      exact .inr ⟨hnone item (by simp),
        before, found, more, hitems, hfound, fun later hlater => hnone later (by simp [hlater])⟩
  · rintro (hitem | ⟨hnone, before, found, after, rfl, hfound, hafter⟩)
    · exact ⟨items, item, [], rfl, hitem, List.forall_mem_nil _⟩
    · refine ⟨before, found, after ++ [item], by simp, hfound, fun later hlater => ?_⟩
      rcases List.mem_append.mp hlater with hlater | hlater
      · exact hafter later hlater
      · exact List.mem_singleton.mp hlater ▸ hnone

/-- There is a last value for a name exactly if some item gives one. -/
theorem exists_lastGives_iff :
    (∃ value, LastGives gives items name value) ↔ ∃ item ∈ items, ∃ value, gives item name value := by
  induction items using List.reverseRecOn with
  | nil => simp [not_lastGives_nil]
  | append_singleton items item ih =>
    simp only [lastGives_concat_iff, List.mem_append, List.mem_singleton, or_and_right, exists_or, ← ih,
      exists_eq_left]
    by_cases h : ∃ value, gives item name value
    · simp [h]
    · simp [not_exists.mp h]

/-- Items that are put in other words give the same. -/
theorem lastGives_map_iff {others : List β} {gives' : β → String → String → Prop} {f : β → α}
    (h : ∀ b ∈ others, ∀ n v, gives (f b) n v ↔ gives' b n v) :
    LastGives gives (others.map f) name value ↔ LastGives gives' others name value := by
  induction others using List.reverseRecOn with
  | nil => simp [not_lastGives_nil]
  | append_singleton others b ih =>
    obtain ⟨hothers, hb⟩ := List.forall_mem_append.mp h
    rw [List.map_append, List.map_singleton, lastGives_concat_iff, lastGives_concat_iff, ih hothers]
    simp only [hb b List.mem_cons_self]

end Last

/-! ## One argument -/

/-- The argument gives a field: what stands before its first colon and what stands behind it, each without
the blanks around it. -/
def Gives (argument name value : String) : Prop :=
  ∃ before after, argument.toList = before ++ ':' :: after ∧ ':' ∉ before
    ∧ name = String.ofList (Text.trim before) ∧ value = String.ofList (Text.trim after)

theorem gives_iff : Gives argument name value ↔ ∃ before after,
    Text.cut? ':' argument.toList = some (before, after)
      ∧ name = String.ofList (Text.trim before) ∧ value = String.ofList (Text.trim after) := by
  simp only [Gives, Text.cut?_eq_some_iff, and_assoc]

theorem exists_gives_iff : (∃ name value, Gives argument name value) ↔ ':' ∈ argument.toList := by
  rw [← Text.isSome_cut?_iff, Option.isSome_iff_exists]
  constructor
  · rintro ⟨name, value, h⟩
    obtain ⟨before, after, hcut, -⟩ := gives_iff.mp h
    exact ⟨_, hcut⟩
  · rintro ⟨⟨before, after⟩, hcut⟩
    exact ⟨_, _, gives_iff.mpr ⟨before, after, hcut, rfl, rfl⟩⟩

/-- An argument gives one field. -/
theorem Gives.eq_iff {n v : String} (h : Gives argument name value) :
    Gives argument n v ↔ n = name ∧ v = value := by
  obtain ⟨before, after, hcut, rfl, rfl⟩ := gives_iff.mp h
  rw [gives_iff]
  constructor
  · rintro ⟨before', after', hcut', rfl, rfl⟩
    cases hcut.symm.trans hcut'
    exact ⟨rfl, rfl⟩
  · rintro ⟨rfl, rfl⟩
    exact ⟨before, after, hcut, rfl, rfl⟩

/-- A name and a value as an argument. -/
def headerArgument (field : String × String) : String := field.1 ++ ": " ++ field.2

theorem colon_mem_headerArgument (field : String × String) : ':' ∈ (headerArgument field).toList := by
  simp [headerArgument]

/-- A name without a colon and a value, both without blanks around them, are given as they are. -/
theorem gives_headerArgument_iff {n v : String} (hcolon : ':' ∉ name.toList)
    (hname : Text.Trimmed name.toList) (hvalue : Text.Trimmed value.toList) :
    Gives (headerArgument (name, value)) n v ↔ (name, value) = (n, v) := by
  have hgives : Gives (headerArgument (name, value)) name value := by
    refine ⟨name.toList, ' ' :: value.toList, by simp [headerArgument], hcolon, ?_, ?_⟩
    · rw [Text.trim_eq_self_iff.mpr hname, String.ofList_toList]
    · rw [Text.trim_cons_of_isBlank (by decide), Text.trim_eq_self_iff.mpr hvalue, String.ofList_toList]
  rw [hgives.eq_iff, Prod.mk.injEq, eq_comm, @eq_comm _ v]

/-! ## One argument after the other -/

/-- The options with the field of one more argument. -/
def enter (o : Options) (argument : String) : Except Failure Options :=
  match Text.cut? ':' argument.toList with
  | some (name, value) =>
    .ok (o.withHeader (String.ofList (Text.trim name)) (String.ofList (Text.trim value)))
  | none => .error (.header argument)

theorem enter_eq_ok_iff {p : Options} :
    enter o argument = .ok p ↔ ∃ name value, Gives argument name value ∧ p = o.withHeader name value := by
  unfold enter
  constructor
  · intro h
    split at h
    · next before after hcut =>
      exact ⟨_, _, gives_iff.mpr ⟨before, after, hcut, rfl, rfl⟩, (Except.ok.inj h).symm⟩
    · cases h
  · rintro ⟨name, value, hgives, rfl⟩
    obtain ⟨before, after, hcut, rfl, rfl⟩ := gives_iff.mp hgives
    rw [hcut]

theorem enter_eq_error_iff :
    enter o argument = .error failure ↔ ':' ∉ argument.toList ∧ failure = .header argument := by
  unfold enter
  rw [← Text.cut?_eq_none_iff]
  cases Text.cut? ':' argument.toList with
  | none => simp [eq_comm]
  | some parts => simp

theorem requestOptions_eq (url : String) (arguments : List String) :
    requestOptions url arguments = arguments.foldlM enter (Options.get url) := rfl

/-- An argument at the end is entered last. -/
theorem requestOptions_concat (url : String) (arguments : List String) (argument : String) :
    requestOptions url (arguments ++ [argument])
      = (requestOptions url arguments).bind fun o => enter o argument := by
  rw [requestOptions_eq, requestOptions_eq, List.foldlM_append]
  simp only [List.foldlM_cons, List.foldlM_nil, bind_pure]
  rfl

theorem requestOptions_concat_eq_ok_iff : requestOptions url (arguments ++ [argument]) = .ok o ↔
    ∃ p name value, requestOptions url arguments = .ok p ∧ Gives argument name value
      ∧ o = p.withHeader name value := by
  rw [requestOptions_concat]
  cases requestOptions url arguments with
  | error failure => simp [Except.bind]
  | ok p => simp [Except.bind, enter_eq_ok_iff]

theorem requestOptions_concat_eq_error_iff : requestOptions url (arguments ++ [argument]) = .error failure ↔
    requestOptions url arguments = .error failure
      ∨ (∃ p, requestOptions url arguments = .ok p) ∧ ':' ∉ argument.toList ∧ failure = .header argument := by
  rw [requestOptions_concat]
  cases requestOptions url arguments with
  | error failure => simp [Except.bind]
  | ok p => simp [Except.bind, enter_eq_error_iff]

/-- There are options exactly if every argument has a colon. -/
theorem exists_requestOptions_iff :
    (∃ o, requestOptions url arguments = .ok o) ↔ ∀ argument ∈ arguments, ':' ∈ argument.toList := by
  induction arguments using List.reverseRecOn with
  | nil => exact iff_of_true ⟨_, rfl⟩ (List.forall_mem_nil _)
  | append_singleton arguments argument ih =>
    rw [List.forall_mem_append, List.forall_mem_singleton, ← ih, ← exists_gives_iff]
    constructor
    · rintro ⟨o, h⟩
      obtain ⟨p, name, value, hp, hgives, -⟩ := requestOptions_concat_eq_ok_iff.mp h
      exact ⟨⟨p, hp⟩, name, value, hgives⟩
    · rintro ⟨⟨p, hp⟩, name, value, hgives⟩
      exact ⟨_, requestOptions_concat_eq_ok_iff.mpr ⟨p, name, value, hp, hgives, rfl⟩⟩

/-- Without options, the first argument that has no colon is reported. -/
theorem requestOptions_eq_error_iff : requestOptions url arguments = .error failure ↔
    ∃ argument, arguments.find? (fun a => ':' ∉ a.toList) = some argument ∧ failure = .header argument := by
  induction arguments using List.reverseRecOn with
  | nil => exact iff_of_false (fun h => nomatch h) (by simp)
  | append_singleton arguments argument ih =>
    rw [requestOptions_concat_eq_error_iff, ih, exists_requestOptions_iff, List.find?_append]
    cases hfind : arguments.find? (fun a => ':' ∉ a.toList) with
    | some first =>
      have hcolon : ':' ∉ first.toList := by simpa using List.find?_some hfind
      have hnot : ¬ ∀ a ∈ arguments, ':' ∈ a.toList := fun hall =>
        hcolon (hall first (List.mem_of_find?_eq_some hfind))
      simp [hnot]
    | none =>
      have hall : ∀ a ∈ arguments, ':' ∈ a.toList := by simpa using List.find?_eq_none.mp hfind
      by_cases hcolon : ':' ∈ argument.toList
      · simp [hcolon]
      · simpa [hcolon] using fun _ => hall

/-- Each argument changes the header fields alone. -/
theorem eq_of_requestOptions (h : requestOptions url arguments = .ok o) :
    o = { Options.get url with headers := o.headers } := by
  induction arguments using List.reverseRecOn generalizing o with
  | nil => cases h; rfl
  | append_singleton arguments argument ih =>
    obtain ⟨p, name, value, hp, -, rfl⟩ := requestOptions_concat_eq_ok_iff.mp h
    rw [ih hp]
    rfl

/-- The value of a header field is the one that is given last for its name. -/
theorem get?_headers_iff (h : requestOptions url arguments = .ok o) :
    o.headers.get? name = some value ↔ LastGives Gives arguments name value := by
  induction arguments using List.reverseRecOn generalizing o with
  | nil =>
    cases h
    simp [Options.get, Dictionary.get?, Dictionary.empty, Entries.get?, not_lastGives_nil]
  | append_singleton arguments argument ih =>
    obtain ⟨p, n, v, hp, hgives, rfl⟩ := requestOptions_concat_eq_ok_iff.mp h
    have hget : (p.withHeader n v).headers.get? name = if name = n then some v else p.headers.get? name :=
      Entries.get?_insert ..
    rw [hget, lastGives_concat_iff, ← ih hp]
    by_cases hname : name = n
    · simp [hgives.eq_iff, hname, eq_comm]
    · simp [hgives.eq_iff, hname]

theorem mem_headers_iff (h : requestOptions url arguments = .ok o) :
    (name, value) ∈ o.headers.entries ↔ LastGives Gives arguments name value := by
  rw [← get?_headers_iff h]
  exact Entries.mem_iff_get?_eq_some o.headers.ordered.keys_nodup

theorem mem_names_iff (h : requestOptions url arguments = .ok o) :
    name ∈ o.headers.entries.map (·.1) ↔ ∃ argument ∈ arguments, ∃ value, Gives argument name value := by
  rw [← exists_lastGives_iff]
  simp [← mem_headers_iff h]

/-! ## Main result -/

/-- There are options exactly if every argument has a colon, and otherwise the first argument that has none is
reported. The options are those of a plain request but for the header fields: exactly one field for each name
that is given, with the value that is given for it last. So names and values without blanks around them and
without a colon in a name are taken as they are, and of the values of one name the last one stays. -/
theorem requestOptions_keeps_last (url : String) (arguments : List String) :
    ((∃ o, requestOptions url arguments = .ok o) ↔ ∀ argument ∈ arguments, ':' ∈ argument.toList)
    ∧ (∀ failure, requestOptions url arguments = .error failure ↔
        ∃ argument, arguments.find? (fun a => ':' ∉ a.toList) = some argument
          ∧ failure = .header argument)
    ∧ (∀ o, requestOptions url arguments = .ok o →
        o = { Options.get url with headers := o.headers }
        ∧ (o.headers.entries.map (·.1)).Nodup
        ∧ (∀ name, name ∈ o.headers.entries.map (·.1)
          ↔ ∃ argument ∈ arguments, ∃ value, Gives argument name value)
        ∧ ∀ name value, (name, value) ∈ o.headers.entries ↔ LastGives Gives arguments name value)
    ∧ ∀ fields : List (String × String),
        (∀ f ∈ fields, ':' ∉ f.1.toList ∧ Text.Trimmed f.1.toList ∧ Text.Trimmed f.2.toList) →
        ∃ o, requestOptions url (fields.map headerArgument) = .ok o
          ∧ ∀ name value, (name, value) ∈ o.headers.entries
            ↔ LastGives (fun f name value => f = (name, value)) fields name value := by
  refine ⟨exists_requestOptions_iff, fun failure => requestOptions_eq_error_iff, fun o h => ?_,
    fun fields hfields => ?_⟩
  · exact ⟨eq_of_requestOptions h, o.headers.ordered.keys_nodup, fun name => mem_names_iff h,
      fun name value => mem_headers_iff h⟩
  · obtain ⟨o, ho⟩ := exists_requestOptions_iff.mpr
      (List.forall_mem_map.mpr fun f (_ : f ∈ fields) => colon_mem_headerArgument f)
    have hgives : ∀ f ∈ fields, ∀ n v, Gives (headerArgument f) n v ↔ f = (n, v) := fun f hf n v =>
      have ⟨hcolon, hname, hvalue⟩ := hfields f hf
      gives_headerArgument_iff hcolon hname hvalue
    exact ⟨o, ho, fun name value => (mem_headers_iff ho).trans (lastGives_map_iff hgives)⟩

/-- Two names that differ in letter case, the one with two values, of which the last one has a colon in it. -/
theorem requestOptions_keeps_last_of_two_cases :
    (∃ o, requestOptions "u" ["Accept: a", "accept:\tb ", " Accept :http://h.test/"] = .ok o
      ∧ ("Accept", "http://h.test/") ∈ o.headers.entries ∧ ("accept", "b") ∈ o.headers.entries
      ∧ ("Accept", "a") ∉ o.headers.entries)
    ∧ (∃ o, requestOptions "u" [headerArgument ("a", ":"), headerArgument ("a", "")] = .ok o
      ∧ ("a", "") ∈ o.headers.entries)
    ∧ requestOptions "u" ["a: b", "c", "d"] = .error (.header "c") := by
  obtain ⟨hok, -, hfields, -⟩ :=
    requestOptions_keeps_last "u" ["Accept: a", "accept:\tb ", " Accept :http://h.test/"]
  obtain ⟨-, hfailed, -, hwritten⟩ := requestOptions_keeps_last "u" ["a: b", "c", "d"]
  refine ⟨?_, ?_, (hfailed _).mpr ⟨"c", by decide, rfl⟩⟩
  · obtain ⟨o, ho⟩ := hok.mpr (by decide)
    obtain ⟨-, -, -, hvalues⟩ := hfields o ho
    have hgiven : Gives " Accept :http://h.test/" "Accept" "http://h.test/" :=
      ⟨" Accept ".toList, "http://h.test/".toList, by decide, by decide, by decide, by decide⟩
    have hlower : Gives "accept:\tb " "accept" "b" :=
      ⟨"accept".toList, "\tb ".toList, by decide, by decide, by decide, by decide⟩
    have hlast : ("Accept", "http://h.test/") ∈ o.headers.entries :=
      (hvalues _ _).mpr ⟨["Accept: a", "accept:\tb "], _, [], rfl, hgiven, List.forall_mem_nil _⟩
    refine ⟨o, ho, hlast, (hvalues _ _).mpr ⟨["Accept: a"], _, _, rfl, hlower, ?_⟩, fun hmem => ?_⟩
    · rw [List.forall_mem_singleton]
      exact fun w hother => absurd (hgiven.eq_iff.mp hother).1 (by decide)
    · exact absurd (o.headers.ordered.value_unique hmem hlast) (by decide)
  · obtain ⟨o, ho, hvalues⟩ := hwritten [("a", ":"), ("a", "")] (by decide)
    exact ⟨o, ho, (hvalues _ _).mpr ⟨[("a", ":")], _, [], rfl, rfl, List.forall_mem_nil _⟩⟩

end Gleaner.CommandLine
