import Gleaner.Proofs.Crawler.Checks
import Gleaner.Proofs.Http.Exchange
import Gleaner.Proofs.Http.Field

set_option autoImplicit false

/-! # The header of a request

Three sources give fields to a request: its own options, in which a name may stand in several letter
cases; the body, which may have a type; and the configuration, with what every request has. They are put
together one after the other, so that it depends on their order what is set, added or left out. The
outcome is simple: for each name, the first source that has values for it gives all of them
(`Crawler.carried`). Every operation begins with such a request (`Crawler.operations_carry`).

The name and the password in an address make a field, too. It is named `authorization`, the one name that
is left out here. -/

namespace Gleaner

namespace Crawler

/-! ## Where values come from -/

/-- The value that a body brings along for a name: the type of bodies that have one. -/
def bodyValue? (o : Options) (name : String) : Option String :=
  if Text.sameLetters name "content-type" then o.body.bind bodyType? else none

/-- The value that there is for a name if nothing else gives one. -/
def standingValue? (c : Config) (name : String) : Option String :=
  if Text.sameLetters name "user-agent" then some c.userAgent
  else if Text.sameLetters name "accept" then some "*/*"
  else none

/-- The values for a name in any letter case: all that the options have, in the order of their keys, or else
the one of the body, or else the last one of the configuration, or else the standing one. -/
def carried (c : Config) (o : Options) (name : String) : List String :=
  let own := Http.named o.headers.entries name
  if own ≠ [] then own
  else ((bodyValue? o name).or
    ((Http.named c.headers name).getLast?.or (standingValue? c name))).toList

/-! ## What the fields of a request come to -/

theorem values_standing (c : Config) (name : String) :
    Http.Fields.values [⟨"accept", "*/*"⟩, ⟨"user-agent", c.userAgent⟩] (Text.lower name)
      = (standingValue? c name).toList := by
  have haccept := Text.sameLetters_iff_of_lower name (t := "accept") (by decide)
  have hagent := Text.sameLetters_iff_of_lower name (t := "user-agent") (by decide)
  rw [standingValue?]
  simp only [haccept, hagent]
  by_cases h : "user-agent" = Text.lower name
  · simp [Http.Fields.values, ← h]
  · by_cases h' : "accept" = Text.lower name
    · simp [Http.Fields.values, ← h']
    · simp [Http.Fields.values, h, h']

theorem values_defaultFields (c : Config) (name : String) :
    (defaultFields c).values (Text.lower name)
      = ((Http.named c.headers name).getLast?.or (standingValue? c name)).toList := by
  refine (Http.Fields.values_foldl_set _ name c.headers).trans ?_
  cases (Http.named c.headers name).getLast? with
  | some value => rfl
  | none => exact values_standing c name

/-- Without the configuration, a request has fields for the name and the password in its address, those of
its options behind them, and the type of its body unless it is there already. -/
theorem exists_ownFields_eq (url : Url) (o : Options) :
    ∃ start : Http.Fields, (∀ f ∈ start, f.name = "authorization") ∧
      let given := o.headers.entries.foldl (fun fields e => fields.add (.of e.1 e.2)) start
      ownFields url o
        = ((o.body.bind bodyType?).map fun type => given.supply ⟨"content-type", type⟩).getD given := by
  unfold ownFields
  cases credentials? url with
  | none =>
    refine ⟨[], by simp, ?_⟩
    cases o.body.bind bodyType? <;> rfl
  | some pair =>
    obtain ⟨username, password⟩ := pair
    refine ⟨[authorization username password], by simp [authorization], ?_⟩
    cases o.body.bind bodyType? <;> rfl

theorem values_ownFields (url : Url) (o : Options) {name : String}
    (h : Text.sameLetters name "authorization" = false) :
    (ownFields url o).values (Text.lower name)
      = if Http.named o.headers.entries name ≠ [] then Http.named o.headers.entries name
        else (bodyValue? o name).toList := by
  obtain ⟨start, hstart, heq⟩ := exists_ownFields_eq url o
  -- The credentials stand in front of the options' fields, but under another name.
  have hnone : start.values (Text.lower name) = [] := by
    simp only [Http.Fields.values, List.map_eq_nil_iff, List.filter_eq_nil_iff, beq_iff_eq]
    intro f hf hname
    have hsame := (Text.sameLetters_iff_of_lower name (t := "authorization") (by decide)).mpr
      ((hstart f hf).symm.trans hname)
    simp [h] at hsame
  have hgiven := Http.Fields.values_foldl_add start name o.headers.entries
  rw [hnone, List.nil_append] at hgiven
  have hcontent := Text.sameLetters_iff_of_lower name (t := "content-type") (by decide)
  rw [heq, bodyValue?]
  cases o.body.bind bodyType? with
  | none => simp [hgiven]
  | some type =>
    rw [Option.map_some, Option.getD_some, Http.Fields.values_supply, hgiven]
    simp only [hcontent]
    by_cases hname : "content-type" = Text.lower name
    · by_cases hown : Http.named o.headers.entries name = [] <;> simp [hname, hown]
    · simp [hname]

/-- A request carries for each name what its options, its body and its configuration say. -/
theorem values_request (c : Crawler) (method : String) (url : Url) (o : Options) {name : String}
    (h : Text.sameLetters name "authorization" = false) :
    (c.request method url o).fields.values (Text.lower name) = carried c.config o name := by
  rw [request, Http.Fields.values_supplyAll, values_ownFields url o h, values_defaultFields, carried]
  by_cases hown : Http.named o.headers.entries name = []
  · cases bodyValue? o name <;> simp [hown]
  · simp [hown]

theorem lowered_request (c : Crawler) (method : String) (url : Url) (o : Options) :
    (c.request method url o).fields.Lowered := by
  have hnames : ∀ s ∈ ["accept", "user-agent", "authorization", "content-type"], ∃ t, s = Text.lower t :=
    fun s hs => ⟨s, by revert s; decide⟩
  have hdefault : (defaultFields c.config).Lowered := by
    refine Http.Fields.Lowered.foldl .set .set ?_
    simp only [Http.Fields.Lowered, List.forall_mem_cons]
    exact ⟨hnames _ (by simp), hnames _ (by simp), by simp⟩
  have hown : (ownFields url o).Lowered := by
    obtain ⟨start, hstart, heq⟩ := exists_ownFields_eq url o
    have hgiven : Http.Fields.Lowered
        (o.headers.entries.foldl (fun fields e => fields.add (.of e.1 e.2)) start) :=
      .foldl .add .add fun f hf => hnames f.name (by simp [hstart f hf])
    rw [heq]
    cases o.body.bind bodyType? with
    | none => exact hgiven
    | some type => exact hgiven.supply (hnames _ (by simp))
  exact hown.supplyAll hdefault

end Crawler

/-! ## What is sent first -/

/-- Whatever the session is, the action sends this request before any other, and if it does not reach the
server, it sends none. -/
structure Action.SendsFirst {α : Type} (action : Action α) (r : Http.Request) : Prop where
  reached : ∀ s, s.server.Reached s.sent r → s.sent ++ [r] <+: (action.perform s).2.sent
  not_reached : ∀ s, ¬ s.server.Reached s.sent r → (action.perform s).2.sent = s.sent

namespace Crawler

/-- An action that sends what the exchange sends begins with the request of the options. -/
theorem sendsFirst_of_exchange {α : Type} {action : Action α} {c : Crawler} {o : Options}
    {r : Http.Request} (hprepare : c.prepare o = .ok r)
    (hsent : ∀ s, (action.perform s).2.sent = (c.exchange o s).1) : action.SendsFirst r := by
  have hexchange (s : Session) : (action.perform s).2.sent
      = (s.server.exchange c.config.maxRedirects.toNat r s.sent).1 := by
    rw [hsent, exchange, hprepare]
  constructor
  case reached => exact fun s h => hexchange s ▸ Http.Server.prefix_exchange_of_reached _ h
  case not_reached => exact fun s h => (hexchange s).trans (Http.Server.exchange_of_not_reached _ h)

/-! ## Main result -/

/-- If nothing is wrong with the options, every operation sends a request to their address first, and it
carries for each name, in any letter case, the values of the first source that has some. -/
theorem operations_carry (c : Crawler) {o : Options} (h : ¬ o.Faulty) :
    ∃ url, o.address = .ok url ∧
      let r := c.request (Text.upper o.method) url o
      r.fields.Lowered
      ∧ (∀ name, Text.sameLetters name "authorization" = false →
          r.fields.values (Text.lower name) = carried c.config o name)
      ∧ (∀ strict, (c.fetchResponse o strict).SendsFirst r)
      ∧ (∀ rule, (c.fetchAndExtract o rule).SendsFirst r)
      ∧ ∀ path, path ≠ "" → (c.fetchToFile o path).SendsFirst r := by
  rcases c.prepare_cases o with ⟨hfaulty, -⟩ | ⟨-, url, haddress, hprepare⟩
  · exact absurd hfaulty h
  · refine ⟨url, haddress, c.lowered_request _ url o, fun name => c.values_request _ url o,
      fun strict => ?_, fun rule => ?_, fun path hpath => ?_⟩
    · exact sendsFirst_of_exchange hprepare fun s => (c.gives_fetchResponse o s strict).sent_eq
    · exact sendsFirst_of_exchange hprepare fun s => (c.gives_fetchAndExtract o s rule).sent_eq
    · refine sendsFirst_of_exchange hprepare fun s => ?_
      rcases destination_cases s.directory path with ⟨hempty, -⟩ | ⟨-, whole, hwhole⟩
      · exact absurd hempty hpath
      · obtain ⟨result, files, -, hgives⟩ := c.fetchToFile_ends o path s hwhole
        exact hgives.sent_eq

/-- Two values under one name in different letter case are both sent, and of two in the configuration the
second; the type of the body comes along. -/
theorem operations_carry_to_loopback :
    let c : Crawler := ⟨{ headers := [("Accept", "a"), ("ACCEPT", "b"), ("Via", "c")] }, by decide⟩
    let o := ((Loopback.options.withHeader "via" "2").withHeader "VIA" "1").withBody (.json .null)
    let s : Session := { server := fun _ => .silence, files := ⟨[], []⟩, directory := "/" }
    ∃ r rest, ((c.fetchResponse o true).perform s).2.sent = r :: rest
      ∧ r.fields.values "via" = ["1", "2"] ∧ r.fields.values "accept" = ["b"]
      ∧ r.fields.values "content-type" = ["application/json"] := by
  intro c o s
  have haddress : o.address = .ok Loopback.url := Loopback.address_of_url_eq rfl
  have hsound : ¬ o.Faulty := by
    rintro (⟨e, he⟩ | hmethod | hfield)
    · cases haddress.symm.trans he
    · exact absurd hmethod (by decide)
    · revert hfield
      decide
  obtain ⟨url, hurl, -, hvalues, hfetch, -, -⟩ := operations_carry c hsound
  cases haddress.symm.trans hurl
  have hreached : s.server.Reached s.sent (c.request (Text.upper o.method) Loopback.url o) := by
    refine ⟨?_, by simp [s]⟩
    rw [Loopback.url_request c _ rfl, Loopback.isSendable_url]
  obtain ⟨rest, hrest⟩ := (hfetch true).reached s hreached
  refine ⟨_, rest, hrest.symm, ?_, ?_, ?_⟩
  · exact (hvalues "via" (by decide)).trans (by decide)
  · exact (hvalues "accept" (by decide)).trans (by decide)
  · exact (hvalues "content-type" (by decide)).trans (by decide)

end Crawler

end Gleaner
