import Gleaner.Options.Written
import Gleaner.Proofs.Json

set_option autoImplicit false

/-! # The parts of written options

An object is read as options in two steps. First its members are sorted into parts, where a part may go by
several names: `Draft.ofMembers_eq_some_iff` says that this works exactly if no part is given twice, and
that nothing is lost or mixed up on the way. Then the parts are read, each on its own:
`Draft.options?_eq_some_iff` lists what is read from what.

The values that can be read are those of `Json.IsText`, `Json.IsTexts` and `Json.IsCount`. -/

namespace Gleaner

/-! ## Simple shapes -/

namespace Json

/-- The value is a text. -/
def IsText (v : Json) : Prop := ∃ s, v = .str s

/-- The value is an object of texts. -/
def IsTexts (v : Json) : Prop := ∃ members, v = .obj members ∧ ∀ m ∈ members, m.2.IsText

/-- The value is a natural number of 64 bits. -/
def IsCount (v : Json) : Prop := ∃ n, v = .ofUInt64 n

theorem exists_asText_iff {v : Json} : (∃ s, v.asText = .ok s) ↔ v.IsText := by
  cases v <;> simp [asText, IsText]

/-- Members are texts exactly if all of them can be read as such. -/
theorem exists_mapM_asText_iff {members : List (String × Json)} :
    (∃ pairs, members.mapM (fun (key, v) => do Except.ok (key, ← v.asText)) = .ok pairs)
      ↔ ∀ m ∈ members, m.2.IsText := by
  induction members with
  | nil => simp [pure, Except.pure]
  | cons m rest ih =>
    obtain ⟨key, v⟩ := m
    rw [List.forall_mem_cons, ← ih, ← exists_asText_iff, List.mapM_cons]
    cases htext : v.asText with
    | error e => simp [bind, Except.bind, htext]
    | ok s =>
      cases rest.mapM fun (key, v) => do Except.ok (key, ← v.asText) <;>
        simp [bind, Except.bind, pure, Except.pure, htext]

theorem exists_asTexts_iff {v : Json} : (∃ d, v.asTexts = .ok d) ↔ v.IsTexts := by
  cases v with
  | obj members =>
    have hmembers : (obj members).IsTexts ↔ ∀ m ∈ members, m.2.IsText := by simp [IsTexts]
    rw [hmembers, ← exists_mapM_asText_iff, asTexts]
    cases members.mapM fun (key, v) => do Except.ok (key, ← v.asText) <;>
      simp [bind, Except.bind]
  | _ => simp [asTexts, IsTexts]

/-- A dictionary is read from what it is written as. -/
theorem asTexts_ofDictionary (d : Dictionary String) : (ofDictionary d).asTexts = .ok d := by
  have hpairs (pairs : List (String × String)) :
      (pairs.map fun p => (p.1, str p.2)).mapM (fun (key, v) => do Except.ok (key, ← v.asText))
        = .ok pairs := by
    induction pairs with
    | nil => rfl
    | cons p rest ih =>
      rw [List.map_cons, List.mapM_cons, ih]
      rfl
  have hentries : Entries.ofList d.entries = d.entries := Entries.ofList_eq_self d.ordered
  change (obj (d.entries.map fun p => (p.1, str p.2))).asTexts = .ok d
  rw [asTexts, hpairs]
  simp only [bind, Except.bind, Dictionary.ofList, hentries]

theorem asUInt64_ofUInt64 (expected : String) (n : UInt64) :
    (ofUInt64 n).asUInt64 expected = .ok n := by
  have hrange : 0 ≤ (n.toNat : Int) ∧ (n.toNat : Int) < (UInt64.size : Nat) :=
    ⟨Int.natCast_nonneg _, Int.ofNat_lt.mpr n.toNat_lt_size⟩
  rw [ofUInt64, asUInt64, asBelow, if_pos hrange, Int.toNat_natCast, Except.map, UInt64.ofNat_toNat]

theorem exists_asUInt64_iff (expected : String) {v : Json} :
    (∃ n, v.asUInt64 expected = .ok n) ↔ v.IsCount := by
  constructor
  · rintro ⟨n, h⟩
    cases v with
    | num number =>
      cases number with
      | int value inRange =>
        rw [asUInt64, asBelow] at h
        split at h
        · next hrange =>
          refine ⟨UInt64.ofNat value.toNat, ?_⟩
          have hlt : value.toNat < UInt64.size := by omega
          have hvalue : ((UInt64.ofNat value.toNat).toNat : Int) = value := by
            rw [UInt64.toNat_ofNat_of_lt' hlt]
            omega
          simp only [ofUInt64, hvalue]
        · cases h
      | float x => cases h
    | _ => cases h
  · rintro ⟨n, rfl⟩
    exact ⟨n, asUInt64_ofUInt64 expected n⟩

end Json

/-! ## Parts -/

namespace Options

/-- The parts that the options of a request are made of. -/
inductive Part where
  | method | url | headers | query | body | json | form | timeout
  deriving DecidableEq

namespace Part

/-- The names that a part goes by. -/
def names : Part → List String
  | method => ["method"]
  | url => ["url", "uri"]
  | headers => ["headers"]
  | query => ["query", "qs"]
  | body => ["body"]
  | json => ["json"]
  | form => ["form"]
  | timeout => ["timeout_ms", "timeout"]

/-- The place of a part in an array. -/
def place : Part → Nat
  | method => 0
  | url => 1
  | headers => 2
  | query => 3
  | body => 4
  | json => 5
  | form => 6
  | timeout => 7

/-- The values that members give for a part, under any of its names. -/
def given (p : Part) (members : List (String × Json)) : List Json :=
  (members.filter fun m => decide (m.1 ∈ p.names)).map (·.2)

theorem given_cons (p : Part) (m : String × Json) (rest : List (String × Json)) :
    p.given (m :: rest) = if m.1 ∈ p.names then m.2 :: p.given rest else p.given rest := by
  by_cases h : m.1 ∈ p.names <;> simp [given, h]

/-- No name belongs to two parts. -/
theorem eq_of_mem_names {p q : Part} {name : String} (hp : name ∈ p.names) (hq : name ∈ q.names) :
    p = q := by
  cases p <;> cases q <;> simp [names] at hp hq ⊢ <;> grind

end Part

namespace Draft

/-- The value that has been entered for a part. -/
def part (d : Draft) : Part → Option Json
  | .method => d.method
  | .url => d.url
  | .headers => d.headers
  | .query => d.query
  | .body => d.body
  | .json => d.json
  | .form => d.form
  | .timeout => d.timeout

/-- The draft with these values for the parts. -/
def ofParts (value : Part → Option Json) : Draft where
  method := value .method
  url := value .url
  headers := value .headers
  query := value .query
  body := value .body
  json := value .json
  form := value .form
  timeout := value .timeout

@[simp] theorem part_ofParts (value : Part → Option Json) : (ofParts value).part = value := by
  funext p
  cases p <;> rfl

theorem ext_part {d d' : Draft} (h : ∀ p, d.part p = d'.part p) : d = d' := by
  have hfields : ∀ d : Draft, d = ofParts d.part := fun _ => rfl
  rw [hfields d, hfields d', funext h]

/-- A member is entered for the part that its name belongs to, unless there is a value for it. -/
theorem enter_of_mem {p : Part} {name : String} (h : name ∈ p.names) (d : Draft) (v : Json) :
    d.enter name v = if (d.part p).isNone
      then some (ofParts fun q => if q = p then some v else d.part q) else none := by
  cases p <;> simp only [Part.names, List.mem_cons, List.not_mem_nil, or_false] at h
  case url | query | timeout => rcases h with rfl | rfl <;> rfl
  all_goals
    subst h
    rfl

/-- A member whose name belongs to no part is passed over. -/
theorem enter_of_not_mem {name : String} (h : ∀ p : Part, name ∉ p.names) (d : Draft) (v : Json) :
    d.enter name v = some d := by
  unfold enter
  split
  case h_1 => exact absurd (by decide) (h .method)
  case h_2 | h_3 => exact absurd (by decide) (h .url)
  case h_4 => exact absurd (by decide) (h .headers)
  case h_5 | h_6 => exact absurd (by decide) (h .query)
  case h_7 => exact absurd (by decide) (h .body)
  case h_8 => exact absurd (by decide) (h .json)
  case h_9 => exact absurd (by decide) (h .form)
  case h_10 | h_11 => exact absurd (by decide) (h .timeout)
  case h_12 => rfl

/-- Entering members behind others: every part gets what it has and what is given for it, which must be one
value at most. -/
theorem foldlM_enter_eq_some_iff (members : List (String × Json)) (d d' : Draft) :
    members.foldlM (fun d (name, v) => d.enter name v) d = some d'
      ↔ ∀ p : Part, (d.part p).toList ++ p.given members = (d'.part p).toList := by
  induction members generalizing d with
  | nil =>
    rw [List.foldlM_nil]
    constructor
    · intro h p
      cases h
      exact List.append_nil _
    · intro h
      refine congrArg some (ext_part fun p => ?_)
      have hp := (List.append_nil _).symm.trans (h p)
      cases hd : d.part p <;> cases hd' : d'.part p <;> simp_all
  | cons m rest ih =>
    obtain ⟨name, v⟩ := m
    rw [List.foldlM_cons]
    by_cases hname : ∃ p : Part, name ∈ p.names
    · obtain ⟨p, hp⟩ := hname
      have hother (q : Part) : name ∈ q.names ↔ q = p :=
        ⟨fun hq => Part.eq_of_mem_names hq hp, fun hq => hq ▸ hp⟩
      simp only [enter_of_mem hp, Part.given_cons, hother]
      cases hvalue : d.part p with
      | none =>
        simp only [Option.isNone_none, if_true, Option.bind_eq_bind, Option.bind_some, ih, part_ofParts]
        refine forall_congr' fun q => ?_
        by_cases hq : q = p
        · subst hq
          simp [hvalue]
        · simp [hq]
      | some w =>
        -- A second value for a part is refused, and two values are no option.
        simp only [Option.isNone_some, Bool.false_eq_true, if_false, Option.bind_eq_bind,
          Option.bind_none, reduceCtorEq, false_iff]
        intro h
        have hlength := congrArg List.length (h p)
        have hle : (d'.part p).toList.length ≤ 1 := by cases d'.part p <;> simp
        simp [hvalue] at hlength
        omega
    · have hnone : ∀ p : Part, name ∉ p.names := fun p hp => hname ⟨p, hp⟩
      simp only [enter_of_not_mem hnone, Option.bind_eq_bind, Option.bind_some, ih, Part.given_cons, hnone,
        if_false]

/-- The members of an object make a draft exactly if no part is given twice, and the draft has for every
part what is given for it. -/
theorem ofMembers_eq_some_iff {members : List (String × Json)} {d : Draft} :
    ofMembers members = some d ↔ ∀ p : Part, p.given members = (d.part p).toList := by
  have hempty (p : Part) : ((({} : Draft).part p).toList : List Json) = [] := by cases p <;> rfl
  simp only [ofMembers, foldlM_enter_eq_some_iff, hempty, List.nil_append]

/-- Members that make no draft give some part twice. -/
theorem exists_ofMembers {members : List (String × Json)}
    (h : ∀ p : Part, (p.given members).length ≤ 1) : ∃ d, ofMembers members = some d := by
  refine ⟨ofParts fun p => (p.given members).head?, ofMembers_eq_some_iff.mpr fun p => ?_⟩
  rw [part_ofParts]
  have hp := h p
  match hgiven : p.given members with
  | [] => rfl
  | [v] => rfl
  | v :: w :: rest => simp [hgiven] at hp

/-- The parts in an array are its items in order. -/
theorem ofItems_of_length_le {items : List Json} (h : items.length ≤ 8) :
    ofItems items = some (ofParts fun p => items[p.place]?) := by
  match items with
  | [] | [_] | [_, _] | [_, _, _] | [_, _, _, _] | [_, _, _, _, _] | [_, _, _, _, _, _]
  | [_, _, _, _, _, _, _] | [_, _, _, _, _, _, _, _] => rfl
  | _ :: _ :: _ :: _ :: _ :: _ :: _ :: _ :: _ :: rest =>
    simp only [List.length_cons] at h
    omega

theorem ofItems_of_lt {items : List Json} (h : 8 < items.length) : ofItems items = none := if_pos h

/-! ## Reading the parts -/

section Reading

variable {α : Type} {read : Json → Except Json.Mismatch α} {part : Option Json}

theorem exists_optional_iff (default : α) :
    (∃ x, optional default read part = some x) ↔ ∀ v ∈ part, ∃ x, read v = .ok x := by
  cases part with
  | none => simp [optional]
  | some v => cases h : read v <;> simp [optional, h, Except.toOption]

/-- A part that is there and not null is read. -/
theorem nullable_some {v : Json} (h : v ≠ .null) :
    nullable read (some v) = (read v).toOption.map some := by
  cases v with
  | null => exact absurd rfl h
  | _ => rfl

theorem exists_nullable_iff :
    (∃ x, nullable read part = some x) ↔ ∀ v ∈ part, v = .null ∨ ∃ x, read v = .ok x := by
  cases part with
  | none => simp [nullable]
  | some v =>
    by_cases hnull : v = .null
    · simp [hnull, nullable]
    · rw [nullable_some hnull]
      cases h : read v <;> simp [hnull, h, Except.toOption]

end Reading

/-- Options are read part by part. -/
theorem options?_eq_some_iff {d : Draft} {o : Options} :
    d.options? = some o ↔
      optional defaultMethod Json.asText d.method = some o.method
      ∧ (∃ v, d.url = some v ∧ v.asText = .ok o.url)
      ∧ (∃ headers, optional .empty Json.asTexts d.headers = some headers
        ∧ o.headers = if d.json = some (.bool true) then askForJson headers else headers)
      ∧ optional .empty Json.asTexts d.query = some o.query
      ∧ (∃ form, nullable Json.asTexts d.form = some form ∧ o.body = chooseBody d.body d.json form)
      ∧ nullable (Json.asUInt64 "u64") d.timeout = some o.timeoutMs := by
  have hread {α : Type} {x : Except Json.Mismatch α} {a : α} : x.toOption = some a ↔ x = .ok a := by
    cases x <;> simp [Except.toOption]
  simp only [options?, Option.bind_eq_bind, Option.bind_eq_some_iff, hread, Option.some.injEq]
  constructor
  · rintro ⟨method, hmethod, v, hv, url, hurl, headers, hheaders, query, hquery, form, hform, timeout,
      htimeout, rfl⟩
    exact ⟨hmethod, ⟨v, hv, hurl⟩, ⟨headers, hheaders, rfl⟩, hquery, ⟨form, hform, rfl⟩, htimeout⟩
  · rintro ⟨hmethod, ⟨v, hv, hurl⟩, ⟨headers, hheaders, heq⟩, hquery, ⟨form, hform, hbody⟩, htimeout⟩
    refine ⟨_, hmethod, v, hv, _, hurl, headers, hheaders, _, hquery, form, hform, _, htimeout, ?_⟩
    rw [← heq, ← hbody]

/-- Options can be read exactly if every part can be read. -/
theorem exists_options?_iff {d : Draft} :
    (∃ o, d.options? = some o) ↔
      (∀ v ∈ d.method, v.IsText) ∧ (∃ v ∈ d.url, v.IsText)
      ∧ (∀ v ∈ d.headers, v.IsTexts) ∧ (∀ v ∈ d.query, v.IsTexts)
      ∧ (∀ v ∈ d.form, v = .null ∨ v.IsTexts) ∧ ∀ v ∈ d.timeout, v = .null ∨ v.IsCount := by
  simp only [← Json.exists_asText_iff, ← Json.exists_asTexts_iff,
    ← Json.exists_asUInt64_iff "u64", ← exists_nullable_iff, ← exists_optional_iff defaultMethod,
    ← exists_optional_iff Dictionary.empty, options?_eq_some_iff]
  constructor
  · rintro ⟨o, hmethod, ⟨v, hv, hurl⟩, ⟨headers, hheaders, -⟩, hquery, ⟨form, hform, -⟩, htimeout⟩
    exact ⟨⟨_, hmethod⟩, ⟨v, hv, _, hurl⟩, ⟨headers, hheaders⟩, ⟨_, hquery⟩, ⟨form, hform⟩, _, htimeout⟩
  · rintro ⟨⟨method, hmethod⟩, ⟨v, hv, url, hurl⟩, ⟨headers, hheaders⟩, ⟨query, hquery⟩, ⟨form, hform⟩,
      timeoutMs, htimeout⟩
    exact ⟨⟨method, url, _, query, _, timeoutMs⟩, hmethod, ⟨v, hv, hurl⟩, ⟨headers, hheaders, rfl⟩, hquery,
      ⟨form, hform, rfl⟩, htimeout⟩

end Draft

end Options

end Gleaner
