import Gleaner.Proofs.Options.Parts

set_option autoImplicit false

/-! # Options that are written and read again

The written form of options names every part once, and the body with the kind that it has. So it is read
as what it was written from, whatever a JSON body looks like (`Options.ofJson_toJson_eq_ok`). Only the
members of a JSON body have to be in the order of their keys, as they are in all options that have been
read: `Options.Ordered`. -/

namespace Gleaner.Options

/-! ## Bodies -/

namespace Body

/-- The keys of every object in a JSON body ascend. -/
def Ordered : Body → Prop
  | json value => value.Ordered
  | text _ | form _ => True

instance : (body : Body) → Decidable body.Ordered
  | json value => inferInstanceAs (Decidable value.Ordered)
  | text _ | form _ => inferInstanceAs (Decidable True)

/-- A body is read from its written form, in which its kind shows. -/
theorem ofAny_toJson {body : Body} (h : body.Ordered) : ofAny body.toJson = body := by
  cases body with
  | text content => rfl
  | json value => exact congrArg json (Json.arrange_eq_self_iff.mpr h)
  | form fields =>
    change ((Json.ofDictionary fields).asTexts.map form).toOption.getD _ = form fields
    rw [Json.asTexts_ofDictionary]
    rfl

theorem ordered_of_ofJson {v : Json} {body : Body} (h : ofJson v = .ok body) : body.Ordered := by
  unfold ofJson at h
  split at h
  · next variant v =>
    split at h
    case h_1 =>
      cases htext : v.asText <;> rw [htext] at h <;> cases h
      trivial
    case h_2 =>
      cases h
      exact Json.ordered_arrange v
    case h_3 =>
      cases hfields : v.asTexts <;> rw [hfields] at h <;> cases h
      trivial
    case h_4 => cases h
  · cases h
  · split at h <;> cases h
  · cases h

theorem ordered_ofAny (v : Json) : (ofAny v).Ordered := by
  unfold ofAny
  split
  · trivial
  · cases hbody : Body.ofJson v with
    | error e => exact Json.ordered_arrange v
    | ok body => exact ordered_of_ofJson hbody

end Body

/-- The body, if there is one, is ordered. -/
def Ordered (o : Options) : Prop := ∀ body ∈ o.body, body.Ordered

instance (o : Options) : Decidable o.Ordered :=
  inferInstanceAs (Decidable (∀ body ∈ o.body, body.Ordered))

namespace Draft

theorem ordered_chooseBody (body json : Option Json) (form : Option (Dictionary String)) :
    ∀ chosen ∈ chooseBody body json form, chosen.Ordered := by
  intro chosen h
  unfold chooseBody at h
  split at h
  · cases h
    trivial
  case h_2 | h_3 | h_4 =>
    split at h
    · cases h
    · cases h
    · cases h
      exact Body.ordered_ofAny _
  · cases h
    exact Json.ordered_arrange _

theorem ordered_of_options? {d : Draft} {o : Options} (h : d.options? = some o) : o.Ordered := by
  obtain ⟨-, -, -, -, ⟨form, -, hbody⟩, -⟩ := options?_eq_some_iff.mp h
  intro body hmem
  exact ordered_chooseBody d.body d.json form body (hbody ▸ hmem)

end Draft

/-- Options that have been read are ordered. -/
theorem ordered_of_ofJson {v : Json} {o : Options} (h : ofJson v = .ok o) : o.Ordered := by
  unfold ofJson at h
  split at h
  · next o' hread =>
    cases h
    cases v with
    | str url =>
      cases hread
      simp [Ordered, get]
    | obj members =>
      obtain ⟨d, -, hd⟩ := Option.bind_eq_some_iff.mp hread
      exact Draft.ordered_of_options? hd
    | arr items =>
      obtain ⟨d, -, hd⟩ := Option.bind_eq_some_iff.mp hread
      exact Draft.ordered_of_options? hd
    | _ => cases hread
  · cases h

/-! ## Written options -/

/-- The draft of the written form. The body stands in its own place, not in those for its kinds. -/
def written (o : Options) : Draft where
  method := some (.str o.method)
  url := some (.str o.url)
  headers := some (.ofDictionary o.headers)
  query := some (.ofDictionary o.query)
  body := some ((o.body.map Body.toJson).getD .null)
  timeout := some ((o.timeoutMs.map Json.ofUInt64).getD .null)

theorem ofJson?_toJson (o : Options) : ofJson? o.toJson = o.written.options? := rfl

/-- What may be null is read from what it is written as. -/
theorem nullable_map_getD {α : Type} {read : Json → Except Json.Mismatch α} {write : α → Json}
    (hread : ∀ x, read (write x) = .ok x) (hwrite : ∀ x, write x ≠ .null) (x : Option α) :
    Draft.nullable read (some ((x.map write).getD .null)) = some x := by
  cases x with
  | none => rfl
  | some x =>
    rw [Option.map_some, Option.getD_some, Draft.nullable_some (hwrite x), hread]
    rfl

theorem chooseBody_written {o : Options} (h : o.Ordered) :
    Draft.chooseBody o.written.body none none = o.body := by
  cases hbody : o.body with
  | none => simp [written, hbody, Draft.chooseBody]
  | some body =>
    have hsome : o.written.body = some body.toJson := by simp [written, hbody]
    have hread := Body.ofAny_toJson (h body hbody)
    cases body <;> exact hsome ▸ congrArg some hread

/-- Ordered options are read from their draft. -/
theorem options?_written {o : Options} (h : o.Ordered) : o.written.options? = some o := by
  have htexts (d : Dictionary String) :
      Draft.optional .empty Json.asTexts (some (.ofDictionary d)) = some d := by
    rw [Draft.optional, Json.asTexts_ofDictionary]
    rfl
  have htimeout : Draft.nullable (Json.asUInt64 "u64") o.written.timeout = some o.timeoutMs :=
    nullable_map_getD (Json.asUInt64_ofUInt64 "u64") (by simp [Json.ofUInt64]) o.timeoutMs
  exact Draft.options?_eq_some_iff.mpr
    ⟨rfl, ⟨_, rfl, rfl⟩, ⟨_, htexts o.headers, rfl⟩, htexts o.query,
      ⟨none, rfl, (chooseBody_written h).symm⟩, htimeout⟩

/-! ## Main result -/

/-- Ordered options are read from their written form; options that have been read are, too. -/
theorem ofJson_toJson_eq_ok :
    (∀ o : Options, o.Ordered → ofJson o.toJson = .ok o)
      ∧ ∀ (v : Json) (o : Options), ofJson v = .ok o → ofJson o.toJson = .ok o := by
  have hread (o : Options) (h : o.Ordered) : ofJson o.toJson = .ok o := by
    rw [ofJson, ofJson?_toJson, options?_written h]
  exact ⟨hread, fun v o h => hread o (ordered_of_ofJson h)⟩

/-- A JSON body that looks like a text stays JSON, and one that comes without its kind gets it. -/
theorem ofJson_toJson_eq_ok_of_lookalikes :
    ofJson (toJson ((get "http://h.test/").withBody (.json (.obj [("text", .str "hi")]))))
        = .ok ((get "http://h.test/").withBody (.json (.obj [("text", .str "hi")])))
      ∧ ∃ o, ofJson (.obj [("uri", .str "http://h.test/"), ("body", .obj [("form", .null)])]) = .ok o
        ∧ ofJson o.toJson = .ok o := by
  refine ⟨ofJson_toJson_eq_ok.1 _ (by decide), ?_⟩
  have hread : ofJson (.obj [("uri", .str "http://h.test/"), ("body", .obj [("form", .null)])])
      = .ok ((get "http://h.test/").withBody (.json (.obj [("form", .null)]))) := rfl
  exact ⟨_, hread, ofJson_toJson_eq_ok.2 _ _ hread⟩

end Gleaner.Options
