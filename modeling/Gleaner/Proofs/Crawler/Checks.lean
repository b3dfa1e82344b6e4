import Gleaner.Proofs.Crawler.Download

set_option autoImplicit false

/-! # Everything is checked first

An error of the kind `config` says that something given is wrong. It is found before anything is done: by
then no request has been sent and no file has been touched, and whatever is wrong is found, whether one
thing is wrong or many. No error that comes later, from the server or from the file system, is of this
kind. -/

namespace Gleaner

/-! ## What can be wrong -/

namespace Http

theorem isSome_fieldFault?_iff {name value : String} :
    (fieldFault? name value).isSome = true ↔ isFieldName name = false ∨ isFieldValue value = false := by
  unfold fieldFault?
  cases isFieldName name <;> cases isFieldValue value <;> simp

end Http

/-- A fault is found among fields exactly if some name is no name or some value no value. -/
theorem isSome_headersFault?_iff {headers : List (String × String)} :
    (headersFault? headers).isSome = true ↔
      ∃ field ∈ headers, Http.isFieldName field.1 = false ∨ Http.isFieldValue field.2 = false := by
  simp only [headersFault?, List.findSome?_isSome_iff, Option.isSome_map,
    Http.isSome_fieldFault?_iff]

theorem kind_of_headersFault? {headers : List (String × String)} {e : Error}
    (h : headersFault? headers = some e) : e.kind = .config := by
  obtain ⟨field, -, hfield⟩ := List.exists_of_findSome?_eq_some h
  obtain ⟨fault, -, rfl⟩ := Option.map_eq_some_iff.mp hfield
  rfl

/-- The settings that are made without being asked for are sound. -/
theorem Config.fault?_default : ({} : Config).fault? = none := by
  have hcharacters : Http.isTokenChar = fun c => Text.isAsciiAlpha c || Text.isAsciiDigit c
      || "!#$%&\x27*+-.^_\x60|~".toList.contains c := by
    funext c
    rw [Http.isTokenChar, String.contains_char_eq]
    simp
  simp only [Config.fault?, headersFault?, Http.fieldFault?, Http.isFieldName, Http.isToken, hcharacters]
  decide +kernel

/-- Sound settings make a crawler. -/
theorem Crawler.ofConfig_of_sound {config : Config} (h : config.fault? = none) :
    ofConfig config = .ok ⟨config, h⟩ := by
  rw [ofConfig]
  split
  · rfl
  · next e he => cases h.symm.trans he

namespace Options

/-- Something is wrong with the options: the address, the method, or the name or the value of a header
field. -/
def Faulty (o : Options) : Prop :=
  (∃ e, o.address = .error e) ∨ Http.isToken (Text.upper o.method) = false
    ∨ ∃ field ∈ o.headers.entries,
      Http.isFieldName field.1 = false ∨ Http.isFieldValue field.2 = false

theorem kind_of_address {o : Options} {e : Error} (h : o.address = .error e) : e.kind = .config := by
  unfold address at h
  split at h
  · cases h
    rfl
  · split at h
    · cases h
      rfl
    · split at h
      · cases h
      · cases h
        rfl

theorem token_of_isToken {o : Options} (h : Http.isToken (Text.upper o.method) = true) :
    o.token = .ok (Text.upper o.method) := by
  rw [token, if_pos h]

theorem token_of_not_isToken {o : Options} (h : Http.isToken (Text.upper o.method) = false) :
    ∃ e, o.token = .error e ∧ e.kind = .config := by
  rw [token, h]
  exact ⟨_, rfl, rfl⟩

end Options

namespace Crawler

variable (c : Crawler) (o : Options) (s : Session)

/-- Either something is wrong with the options and this is what is answered, or there is a request to their
address. -/
theorem prepare_cases :
    (o.Faulty ∧ ∃ e, c.prepare o = .error e ∧ e.kind = .config)
      ∨ (¬ o.Faulty ∧ ∃ url, o.address = .ok url
          ∧ c.prepare o = .ok (c.request (Text.upper o.method) url o)) := by
  cases haddress : o.address with
  | error e =>
    exact Or.inl ⟨Or.inl ⟨e, haddress⟩, e, c.prepare_of_address_error haddress,
      Options.kind_of_address haddress⟩
  | ok url =>
    cases hmethod : Http.isToken (Text.upper o.method) with
    | false =>
      obtain ⟨e, htoken, hkind⟩ := Options.token_of_not_isToken hmethod
      exact Or.inl ⟨Or.inr (Or.inl hmethod), e, c.prepare_of_token_error haddress htoken, hkind⟩
    | true =>
      have htoken := Options.token_of_isToken hmethod
      cases hheaders : headersFault? o.headers.entries with
      | some e =>
        have hfield := isSome_headersFault?_iff.mp (Option.isSome_of_mem hheaders)
        exact Or.inl ⟨Or.inr (Or.inr hfield), e,
          c.prepare_of_header_fault haddress htoken hheaders, kind_of_headersFault? hheaders⟩
      | none =>
        refine Or.inr ⟨?_, url, rfl, c.prepare_of_sound haddress htoken hheaders⟩
        rintro (⟨e, he⟩ | hno | hfield)
        · cases haddress.symm.trans he
        · cases hmethod.symm.trans hno
        · have hsome := isSome_headersFault?_iff.mpr hfield
          simp [hheaders] at hsome

/-- Either something is wrong with the options, and nothing is sent; or something is sent, and whatever
comes of it, it is no error of the kind `config`. -/
theorem exchange_cases :
    (o.Faulty ∧ ∃ e, c.exchange o s = (s.sent, .error e) ∧ e.kind = .config)
      ∨ (¬ o.Faulty ∧ ∀ e, (c.exchange o s).2 = .error e → e.kind = .transport) := by
  rcases c.prepare_cases o with ⟨hfaulty, e, hprepare, hkind⟩ | ⟨hsound, url, -, hprepare⟩
  · exact Or.inl ⟨hfaulty, e, c.exchange_of_error o s hprepare, hkind⟩
  · refine Or.inr ⟨hsound, fun e he => ?_⟩
    simp only [exchange, hprepare] at he
    cases houtcome : (s.server.exchange c.config.maxRedirects.toNat
        (c.request (Text.upper o.method) url o) s.sent).2 with
    | ok received =>
      rw [houtcome] at he
      cases he
    | error fault =>
      rw [houtcome] at he
      cases he
      rfl

/-! ## Destinations -/

/-- The only wrong destination is none. -/
theorem destination_cases (directory path : String) :
    (path = "" ∧ ∃ e, destination directory path = .error e ∧ e.kind = .config)
      ∨ (path ≠ "" ∧ ∃ whole, destination directory path = .ok whole) := by
  by_cases hpath : path = ""
  · subst hpath
    exact Or.inl ⟨rfl, _, rfl, rfl⟩
  · refine Or.inr ⟨hpath, FileTree.absolute directory path, ?_⟩
    rw [destination, if_neg (by simpa using hpath)]

end Crawler

/-! ## Operations that check first -/

/-- Whatever the session is, an error of the kind `config` comes before anything has been done, and it comes
exactly if something is wrong. -/
structure Action.ChecksFirst {α : Type} (action : Action α) (wrong : Prop) : Prop where
  untouched : ∀ s e, (action.perform s).1 = .error e → e.kind = .config →
    (action.perform s).2.sent = s.sent ∧ (action.perform s).2.files = s.files
  config_iff : ∀ s, (∃ e, (action.perform s).1 = .error e ∧ e.kind = .config) ↔ wrong

/-- It is enough that something wrong ends an action at once, and that otherwise no error is of the kind
`config`. -/
theorem Action.ChecksFirst.of_cases {α : Type} {action : Action α} {wrong : Prop}
    (h : ∀ s, (wrong ∧ ∃ e, action.Gives s (.error e) s.sent s.files ∧ e.kind = .config)
      ∨ (¬ wrong ∧ ∃ result sent files, action.Gives s result sent files
          ∧ ∀ e, result = .error e → e.kind ≠ .config)) :
    action.ChecksFirst wrong where
  untouched s e he hkind := by
    rcases h s with ⟨-, _, hgives, -⟩ | ⟨-, result, sent, files, hgives, hlater⟩
    · exact ⟨hgives.sent_eq, hgives.files_eq⟩
    · exact absurd hkind (hlater e (hgives.result_eq.symm.trans he))
  config_iff s := by
    rcases h s with ⟨hwrong, e, hgives, hkind⟩ | ⟨hsound, result, sent, files, hgives, hlater⟩
    · exact ⟨fun _ => hwrong, fun _ => ⟨e, hgives.result_eq, hkind⟩⟩
    · refine ⟨fun ⟨e, he, hkind⟩ => ?_, fun hwrong => absurd hwrong hsound⟩
      exact absurd hkind (hlater e (hgives.result_eq.symm.trans he))

namespace Crawler

variable (c : Crawler) (o : Options)

/-- A response is settled: an operation that answers with what is made of it checks the options first. -/
theorem checksFirst_of_settle {α : Type} {action : Action α} (strict : Bool)
    (make : Http.Response → α)
    (hgives : ∀ s, action.Gives s ((settle strict (c.exchange o s).2).map make) (c.exchange o s).1
      s.files) : action.ChecksFirst o.Faulty := by
  refine .of_cases fun s => ?_
  have hs := hgives s
  rcases c.exchange_cases o s with ⟨hfaulty, e, hexchange, hkind⟩ | ⟨hsound, hlater⟩
  · rw [hexchange] at hs
    exact Or.inl ⟨hfaulty, e, hs, hkind⟩
  · refine Or.inr ⟨hsound, _, _, _, hs, fun e he => ?_⟩
    cases hsettle : settle strict (c.exchange o s).2 with
    | ok response =>
      rw [hsettle] at he
      cases he
    | error e' =>
      rw [hsettle] at he
      cases he
      rcases settle_cases strict hsettle with hanswer | hkind
      · simp [hlater e hanswer]
      · simp [hkind]

/-- Every operation checks what it is given before it does anything: a response, strict or not, and what a
rule finds in it need options that nothing is wrong with, and a download needs a path, too. -/
theorem operations_checkFirst (c : Crawler) (o : Options) :
    (∀ strict, (c.fetchResponse o strict).ChecksFirst o.Faulty)
    ∧ (∀ rule, (c.fetchAndExtract o rule).ChecksFirst o.Faulty)
    ∧ (∀ path, (c.fetchToFile o path).ChecksFirst (o.Faulty ∨ path = "")) := by
  refine ⟨fun strict => ?_, fun rule => ?_, fun path => .of_cases fun s => ?_⟩
  · refine c.checksFirst_of_settle o strict id fun s => ?_
    rw [Except.map_id]
    exact c.gives_fetchResponse o s strict
  · exact c.checksFirst_of_settle o true _ fun s => c.gives_fetchAndExtract o s rule
  · rcases destination_cases s.directory path with ⟨hpath, e, he, hkind⟩ | ⟨hpath, whole, hwhole⟩
    · exact Or.inl ⟨Or.inr hpath, e, c.gives_fetchToFile_of_error o path s he, hkind⟩
    · obtain ⟨result, files, hends, hgives⟩ := c.fetchToFile_ends o path s hwhole
      rcases c.exchange_cases o s with ⟨hfaulty, e, hexchange, hkind⟩ | ⟨hsound, hlater⟩
      · have hanswer : (c.exchange o s).2 = .error e := by rw [hexchange]
        obtain ⟨rfl, rfl⟩ := hends.of_unanswered hanswer
        rw [hexchange] at hgives
        exact Or.inl ⟨Or.inl hfaulty, e, hgives, hkind⟩
      · refine Or.inr ⟨not_or.mpr ⟨hsound, hpath⟩, _, _, _, hgives, ?_⟩
        rintro e rfl hkind
        cases hkind.symm.trans (hlater e (hends.unanswered_of_config hkind))

/-- A blank address and a method that is none are found while a server would answer and a file could be
written. -/
theorem checks_of_blank_address :
    let o : Options := (Options.get " ").withMethod "a b"
    let s : Session :=
      { server := fun _ => .response 200 [] ⟨[[104]], none⟩
        files := ⟨[(["page"], [0, 0])], []⟩
        directory := "/" }
    let saved := (Loopback.crawler.fetchToFile o "/page").perform s
    (∃ e, saved.1 = .error e ∧ e.kind = .config) ∧ saved.2.sent = [] ∧ saved.2.files = s.files := by
  intro o s saved
  obtain ⟨-, -, hfile⟩ := operations_checkFirst Loopback.crawler o
  have hblank : Text.trim o.url.toList = [] := by decide
  have hfaulty : o.Faulty := Or.inl ⟨_, by rw [Options.address, hblank]⟩
  obtain ⟨e, he, hkind⟩ := ((hfile "/page").config_iff s).mpr (Or.inl hfaulty)
  exact ⟨⟨e, he, hkind⟩, (hfile "/page").untouched s e he hkind⟩

end Crawler

end Gleaner
