import Gleaner.Proofs.Options.Parts

set_option autoImplicit false

/-! # What an object says as options

The options that are read from an object, told part by part: `Options.Meant`. Most parts are simply what is
given for them or a default. Two are put together from several: the body, which `form`, `json` and `body`
decide in this order (`Options.Chosen`), and the header fields, to which `json` may add one. What is taken as
JSON has its members put in order, which leaves a value that is in order as it is
(`Json.arrange_eq_self_iff`).

Only the values that are given for the parts matter (`Options.meant_of_ofJson`): not which of the names of a
part is used, nor the order of the members, nor members that are no parts. -/

namespace Gleaner

/-! ## Objects of texts -/

namespace Json

/-- The value is an object of texts, and these are what the dictionary holds; of several texts under one key
it holds the last one. -/
def HoldsTexts (v : Json) (d : Dictionary String) : Prop :=
  ∃ pairs : List (String × String), v = .obj (pairs.map fun p => (p.1, .str p.2)) ∧ d = .ofList pairs

theorem asText_eq_ok_iff {v : Json} {s : String} : v.asText = .ok s ↔ v = .str s := by
  cases v <;> simp [asText]

theorem mapM_asText_eq_ok_iff {members : List (String × Json)} {pairs : List (String × String)} :
    members.mapM (fun (key, v) => do Except.ok (key, ← v.asText)) = .ok pairs
      ↔ members = pairs.map fun p => (p.1, .str p.2) := by
  induction members generalizing pairs with
  | nil =>
    cases pairs <;> simp [pure, Except.pure]
  | cons m rest ih =>
    obtain ⟨key, v⟩ := m
    rw [List.mapM_cons]
    constructor
    · intro h
      obtain ⟨pair, hpair, h⟩ := exists_of_bind_eq_ok h
      obtain ⟨more, hmore, h⟩ := exists_of_bind_eq_ok h
      obtain ⟨s, hs, hpair⟩ := exists_of_bind_eq_ok hpair
      obtain rfl := asText_eq_ok_iff.mp hs
      cases hpair
      cases h
      rw [List.map_cons, ← ih.mp hmore]
    · intro h
      cases pairs with
      | nil => cases h
      | cons p more =>
        obtain ⟨hhead, htail⟩ := List.cons.inj h
        cases hhead
        rw [ih.mpr htail]
        rfl

theorem asTexts_eq_ok_iff {v : Json} {d : Dictionary String} : v.asTexts = .ok d ↔ v.HoldsTexts d := by
  cases v with
  | obj members =>
    simp only [asTexts, HoldsTexts, Json.obj.injEq, ← mapM_asText_eq_ok_iff]
    cases members.mapM fun (key, v) => do Except.ok (key, ← v.asText) <;>
      simp [bind, Except.bind, eq_comm]
  | _ => simp [asTexts, HoldsTexts]

theorem asUInt64_eq_ok_iff (expected : String) {v : Json} {n : UInt64} :
    v.asUInt64 expected = .ok n ↔ v = .ofUInt64 n := by
  constructor
  · intro h
    obtain ⟨m, rfl⟩ := (exists_asUInt64_iff expected).mp ⟨n, h⟩
    rw [asUInt64_ofUInt64] at h
    rw [Except.ok.inj h]
  · rintro rfl
    exact asUInt64_ofUInt64 expected n

end Json

namespace Options

/-! ## The meaning of the parts -/

/-- No value is given, or null. -/
def Absent (v : Option Json) : Prop := v = none ∨ v = some .null

/-- An object that tells by its only key which body it is. -/
inductive Tagged : Json → Body → Prop where
  | text (content : String) : Tagged (.obj [("text", .str content)]) (.text content)
  | json (v : Json) : Tagged (.obj [("json", v)]) (.json v.arrange)
  | form (v : Json) (fields : Dictionary String) (h : v.HoldsTexts fields) :
    Tagged (.obj [("form", v)]) (.form fields)

/-- The body that is given as such: a text, what an object says it is, or else any value as JSON. -/
inductive Plain : Option Json → Option Body → Prop where
  | absent (v : Option Json) (h : Absent v) : Plain v none
  | text (content : String) : Plain (some (.str content)) (some (.text content))
  | tagged (v : Json) (body : Body) (h : Tagged v body) : Plain (some v) (some body)
  | other (v : Json) (hnull : v ≠ .null) (htext : ¬ v.IsText) (htagged : ∀ body, ¬ Tagged v body) :
    Plain (some v) (some (.json v.arrange))

/-- The body that is chosen: a form if there is one, else JSON that is not just true or false, else what is
given as the body. -/
inductive Chosen (form json body : Option Json) : Option Body → Prop where
  | form (v : Json) (fields : Dictionary String) (hform : form = some v) (h : v.HoldsTexts fields) :
    Chosen form json body (some (.form fields))
  | json (v : Json) (hform : Absent form) (hjson : json = some v) (hnull : v ≠ .null)
    (hbool : ∀ b, v ≠ .bool b) : Chosen form json body (some (.json v.arrange))
  | plain (chosen : Option Body) (hform : Absent form) (hjson : Absent json ∨ ∃ b, json = some (.bool b))
    (h : Plain body chosen) : Chosen form json body chosen

/-- The dictionary that is given, or none at all. -/
def Given (v : Option Json) (d : Dictionary String) : Prop :=
  (∃ object, v = some object ∧ object.HoldsTexts d) ∨ v = none ∧ d = .empty

/-- JSON is asked for, and no field says already what is accepted. -/
def AsksForJson (json : Option Json) (given : Dictionary String) : Prop :=
  json = some (.bool true) ∧ ∀ key ∈ given.entries.map (·.1), Text.sameLetters key "accept" = false

/-- The options are those that the values for the parts mean. -/
structure Meant (value : Part → Option Json) (o : Options) : Prop where
  url : value .url = some (.str o.url)
  method : value .method = some (.str o.method) ∨ value .method = none ∧ o.method = "GET"
  query : Given (value .query) o.query
  timeout : (∃ n, value .timeout = some (.ofUInt64 n) ∧ o.timeoutMs = some n)
    ∨ Absent (value .timeout) ∧ o.timeoutMs = none
  body : Chosen (value .form) (value .json) (value .body) o.body
  headers : ∃ given, Given (value .headers) given
    ∧ (AsksForJson (value .json) given ∧ o.headers = given.insert "Accept" "application/json"
      ∨ ¬ AsksForJson (value .json) given ∧ o.headers = given)

/-! ## Reading the parts -/

theorem tagged_iff {v : Json} {body : Body} : Body.ofJson v = .ok body ↔ Tagged v body := by
  constructor
  · intro h
    unfold Body.ofJson at h
    split at h
    · next variant v =>
      split at h
      case h_1 =>
        cases htext : v.asText <;> rw [htext] at h <;> cases h
        obtain rfl := Json.asText_eq_ok_iff.mp htext
        exact .text _
      case h_2 =>
        cases h
        exact .json v
      case h_3 =>
        cases hfields : v.asTexts <;> rw [hfields] at h <;> cases h
        exact .form v _ (Json.asTexts_eq_ok_iff.mp hfields)
      case h_4 => cases h
    · cases h
    · split at h <;> cases h
    · cases h
  · rintro (⟨content⟩ | ⟨v⟩ | ⟨v, fields, hfields⟩)
    · rfl
    · rfl
    · change v.asTexts.map Body.form = _
      rw [Json.asTexts_eq_ok_iff.mpr hfields]
      rfl

/-- What is given as the body and is not null. -/
theorem plain_ofAny {v : Json} (h : v ≠ .null) : Plain (some v) (some (Body.ofAny v)) := by
  unfold Body.ofAny
  split
  · exact .text _
  · next hstr =>
    have htext : ¬ v.IsText := fun ⟨s, hs⟩ => hstr s hs
    cases hbody : Body.ofJson v with
    | ok body => exact .tagged v body (tagged_iff.mp hbody)
    | error e =>
      refine .other v h htext fun body htagged => ?_
      rw [tagged_iff.mpr htagged] at hbody
      cases hbody

namespace Draft

theorem optional_eq_some_iff {α : Type} {default x : α} {read : Json → Except Json.Mismatch α}
    {v : Option Json} :
    optional default read v = some x ↔ (∃ w, v = some w ∧ read w = .ok x) ∨ v = none ∧ x = default := by
  cases v with
  | none => simp [optional, eq_comm]
  | some w => cases h : read w <;> simp [optional, h, Except.toOption]

theorem nullable_eq_some_iff {α : Type} {x : Option α} {read : Json → Except Json.Mismatch α}
    {v : Option Json} :
    nullable read v = some x
      ↔ (∃ w y, v = some w ∧ w ≠ .null ∧ read w = .ok y ∧ x = some y) ∨ Absent v ∧ x = none := by
  cases v with
  | none => simp [nullable, Absent, eq_comm]
  | some w =>
    by_cases hnull : w = .null
    · subst hnull
      simp [nullable, Absent, eq_comm]
    · rw [nullable_some hnull]
      cases h : read w <;> simp [hnull, h, Except.toOption, Absent, eq_comm]

theorem plain_chooseBody (body : Option Json) : Plain body (chooseBody body none none) := by
  cases body with
  | none => exact .absent none (.inl rfl)
  | some v =>
    by_cases hnull : v = .null
    · subst hnull
      exact .absent _ (.inr rfl)
    · have hbody : chooseBody (some v) none none = some (Body.ofAny v) := by
        simp [chooseBody]
      rw [hbody]
      exact plain_ofAny hnull

theorem chosen_chooseBody {body json form : Option Json} {fields : Option (Dictionary String)}
    (h : nullable Json.asTexts form = some fields) :
    Chosen form json body (chooseBody body json fields) := by
  rcases nullable_eq_some_iff.mp h with ⟨v, d, hform, -, hread, rfl⟩ | ⟨hform, rfl⟩
  · exact .form v d hform (Json.asTexts_eq_ok_iff.mp hread)
  have hplain (hjson : Absent json ∨ ∃ b, json = some (.bool b)) :
      Chosen form json body (chooseBody body none none) :=
    .plain _ hform hjson (plain_chooseBody body)
  unfold chooseBody
  split
  · next heq => cases heq
  case h_2 => exact hplain (.inl (.inl rfl))
  case h_3 => exact hplain (.inl (.inr rfl))
  case h_4 => exact hplain (.inr ⟨_, rfl⟩)
  case h_5 v hnull hbool _ =>
    exact .json v hform rfl (fun hv => hnull (hv ▸ rfl)) fun b hv => hbool b (hv ▸ rfl)

theorem given_of_optional {v : Option Json} {d : Dictionary String}
    (h : optional .empty Json.asTexts v = some d) : Given v d := by
  simpa only [Given, optional_eq_some_iff, Json.asTexts_eq_ok_iff] using h

theorem askForJson_cases (given : Dictionary String) :
    (AsksForJson (some (.bool true)) given
        ∧ askForJson given = given.insert "Accept" "application/json")
      ∨ ¬ AsksForJson (some (.bool true)) given ∧ askForJson given = given := by
  have hany : (given.entries.any fun e => Text.sameLetters e.1 "accept") = true
      ↔ ¬ AsksForJson (some (.bool true)) given := by
    simp [AsksForJson]
  by_cases h : (given.entries.any fun e => Text.sameLetters e.1 "accept") = true
  · exact .inr ⟨hany.mp h, if_pos h⟩
  · exact .inl ⟨not_not.mp (mt hany.mpr h), if_neg h⟩

/-- Options that are read from a draft are those that its values mean. -/
theorem meant_of_options? {d : Draft} {o : Options} (h : d.options? = some o) : Meant d.part o := by
  obtain ⟨hmethod, ⟨v, hv, hurl⟩, ⟨given, hgiven, hheaders⟩, hquery, ⟨fields, hform, hbody⟩, htimeout⟩ :=
    options?_eq_some_iff.mp h
  constructor
  case url => exact hv.trans (congrArg some (Json.asText_eq_ok_iff.mp hurl))
  case method =>
    rcases optional_eq_some_iff.mp hmethod with ⟨w, hw, hread⟩ | hnone
    · exact .inl (hw.trans (congrArg some (Json.asText_eq_ok_iff.mp hread)))
    · exact .inr hnone
  case query => exact given_of_optional hquery
  case timeout =>
    rcases nullable_eq_some_iff.mp htimeout with ⟨w, n, hw, -, hread, hn⟩ | hnone
    · exact .inl ⟨n, hw.trans (congrArg some ((Json.asUInt64_eq_ok_iff "u64").mp hread)), hn⟩
    · exact .inr hnone
  case body =>
    rw [hbody]
    exact chosen_chooseBody hform
  case headers =>
    refine ⟨given, given_of_optional hgiven, ?_⟩
    change AsksForJson d.json given ∧ _ ∨ ¬ AsksForJson d.json given ∧ _
    by_cases hjson : d.json = some (.bool true)
    · rw [hheaders, if_pos hjson, hjson]
      exact askForJson_cases given
    · exact .inr ⟨fun hasks => hjson hasks.1, hheaders.trans (if_neg hjson)⟩

end Draft

/-! ## Names and order -/

namespace Part

variable {p : Part} {key : String} {v : Json} {entries : List (String × Json)}

theorem given_eq_nil_iff : p.given entries = [] ↔ ∀ e ∈ entries, e.1 ∉ p.names := by
  simp [given]

theorem given_insert_of_not_mem (h : key ∉ p.names) :
    p.given (Entries.insert key v entries) = p.given entries := by
  induction entries with
  | nil => simp [Entries.insert, given, h]
  | cons e rest ih =>
    obtain ⟨k, w⟩ := e
    simp only [Entries.insert]
    split
    · rw [given_cons, if_neg h]
    · split
      · next heq => rw [given_cons, given_cons, if_neg h, if_neg (heq ▸ h)]
      · rw [given_cons, given_cons, ih]

theorem given_insert_of_nil (h : key ∈ p.names) (hnil : p.given entries = []) :
    p.given (Entries.insert key v entries) = [v] := by
  induction entries with
  | nil => simp [Entries.insert, given, h]
  | cons e rest ih =>
    obtain ⟨k, w⟩ := e
    have hk : k ∉ p.names := given_eq_nil_iff.mp hnil (k, w) List.mem_cons_self
    have hrest : p.given rest = [] := by rwa [given_cons, if_neg hk] at hnil
    have hne : key ≠ k := fun heq => hk (heq ▸ h)
    simp only [Entries.insert, hne, if_false]
    split
    · rw [given_cons, if_pos h, given_cons, if_neg hk, hrest]
    · rw [given_cons, if_neg hk, ih hrest]

theorem given_foldl_insert (entries : List (String × Json)) {pairs : List (String × Json)}
    (h : (p.given entries ++ p.given pairs).length ≤ 1) :
    p.given (pairs.foldl (fun entries (k, v) => Entries.insert k v entries) entries)
      = p.given entries ++ p.given pairs := by
  induction pairs generalizing entries with
  | nil => simp [given]
  | cons e rest ih =>
    obtain ⟨k, w⟩ := e
    rw [List.foldl_cons]
    by_cases hk : k ∈ p.names
    · rw [given_cons, if_pos hk, List.length_append, List.length_cons] at h
      have hnil : p.given entries = [] := List.length_eq_zero_iff.mp (by omega)
      have hinsert : p.given (Entries.insert k w entries) = [w] := given_insert_of_nil hk hnil
      rw [ih _ (by rw [hinsert, List.length_append, List.length_singleton]; omega), hinsert, given_cons,
        if_pos hk, hnil]
      rfl
    · rw [given_cons, if_neg hk] at h ⊢
      have hinsert : p.given (Entries.insert k w entries) = p.given entries := given_insert_of_not_mem hk
      rw [ih _ (by rwa [hinsert]), hinsert]

/-- Putting members in order keeps what they give for a part that has one value at most. -/
theorem given_ofList {pairs : List (String × Json)} (h : (p.given pairs).length ≤ 1) :
    p.given (Entries.ofList pairs) = p.given pairs :=
  given_foldl_insert [] h

/-- Other names for the same parts give the same values. -/
theorem given_map_rename {rename : String → String}
    (h : ∀ name, rename name ∈ p.names ↔ name ∈ p.names) (members : List (String × Json)) :
    p.given (members.map fun m => (rename m.1, m.2)) = p.given members := by
  induction members with
  | nil => rfl
  | cons m rest ih => rw [List.map_cons, given_cons, given_cons, ih]; simp only [h]

end Part

theorem ofJson_obj_eq_ok_iff {members : List (String × Json)} {o : Options} :
    ofJson (.obj members) = .ok o
      ↔ ∃ d : Draft, (∀ p : Part, p.given members = (d.part p).toList) ∧ d.options? = some o := by
  have hread : ofJson (.obj members) = .ok o ↔ ofJson? (.obj members) = some o := by
    rw [ofJson]
    cases ofJson? (.obj members) <;> simp
  simp only [hread, ofJson?, Option.bind_eq_some_iff, Draft.ofMembers_eq_some_iff]

/-! ## Main result -/

/-- Options that are read from an object are what the values for their parts mean, whichever of its names
each part goes by. Any other object that gives the same values for the parts is read as the same options, in
particular one that uses other names for them; its members are in order again. -/
theorem meant_of_ofJson {members : List (String × Json)} {o : Options}
    (h : ofJson (.obj members) = .ok o) :
    Meant (fun p => (p.given members).head?) o
      ∧ (∀ others, (∀ p : Part, p.given others = p.given members) → ofJson (.obj others) = .ok o)
      ∧ ∀ rename : String → String, (∀ (p : Part) name, rename name ∈ p.names ↔ name ∈ p.names) →
        ofJson (.object (members.map fun m => (rename m.1, m.2))) = .ok o := by
  obtain ⟨d, hgiven, hd⟩ := ofJson_obj_eq_ok_iff.mp h
  have hothers (others : List (String × Json)) (heq : ∀ p : Part, p.given others = p.given members) :
      ofJson (.obj others) = .ok o :=
    ofJson_obj_eq_ok_iff.mpr ⟨d, fun p => (heq p).trans (hgiven p), hd⟩
  refine ⟨?_, hothers, fun rename hrename => hothers _ fun p => ?_⟩
  · have hvalues : (fun p : Part => (p.given members).head?) = d.part := by
      funext p
      rw [hgiven p]
      cases d.part p <;> rfl
    rw [hvalues]
    exact Draft.meant_of_options? hd
  · have hmap := Part.given_map_rename (hrename p) members
    have hlength : (p.given members).length ≤ 1 := by
      rw [hgiven p]
      cases d.part p <;> simp
    rw [Part.given_ofList (by rwa [hmap]), hmap]

/-- An address under its second name, a body that tells what it is, and a wish for JSON. The member that is
no part does not matter, nor does the name of the address. -/
theorem meant_of_ofJson_uri :
    let members : List (String × Json) := [("body", .obj [("text", .str "hi")]), ("href", .null),
      ("json", .bool true), ("qs", .obj [("page", .str "2")]), ("uri", .str "http://h.test/")]
    let o : Options := (((get "http://h.test/").withHeader "Accept" "application/json").withQuery
      "page" "2").withBody (.text "hi")
    ofJson (.obj members) = .ok o ∧ Meant (fun p => (p.given members).head?) o
      ∧ ofJson (.object (members.map fun m => (if m.1 = "uri" then "url" else m.1, m.2))) = .ok o := by
  intro members o
  have hread : ofJson (.obj members) = .ok o := rfl
  have hrename (p : Part) (name : String) :
      (if name = "uri" then "url" else name) ∈ p.names ↔ name ∈ p.names := by
    by_cases hname : name = "uri"
    · subst hname
      cases p <;> decide
    · rw [if_neg hname]
  obtain ⟨hmeant, -, hrenamed⟩ := meant_of_ofJson hread
  exact ⟨hread, hmeant, hrenamed _ hrename⟩

end Options

end Gleaner
