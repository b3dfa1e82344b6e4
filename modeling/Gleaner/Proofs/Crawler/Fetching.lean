import Gleaner.Crawler
import Gleaner.Proofs.Session

set_option autoImplicit false

/-! # What fetching comes to

Every operation of a crawler begins with the same exchange: the options are made into a request, and the
request is sent if nothing is wrong with it. What an operation does after that depends on the answer alone.
Here the exchange is said on its own, and the result of every operation that reads a whole response is
computed from its answer. -/

namespace Gleaner

/-! ## Deliveries -/

namespace Http

theorem collect_ok_append (chunks : List Bytes) (rest : List (Except Fault Bytes)) :
    collect (chunks.map .ok ++ rest) = (collect rest).map (chunks.flatten ++ ·) := by
  induction chunks with
  | nil => cases h : collect rest <;> simp [Except.map, h]
  | cons chunk chunks ih =>
    rw [List.map_cons, List.cons_append, collect, ih]
    cases collect rest <;> simp [Except.map]

/-- Whoever collects a body has all of it or nothing. -/
theorem collect_deliveries (body : Stream) :
    collect body.deliveries
      = if body.isComplete then .ok body.content else .error .brokenBody := by
  cases h : body.brokenAfter with
  | none =>
    have hall := collect_ok_append body.chunks []
    simp only [List.append_nil, collect, Except.map] at hall
    simp only [Stream.deliveries, Stream.isComplete, Stream.content, h, hall, Option.isNone_none,
      if_true]
  | some count =>
    simp only [Stream.deliveries, Stream.isComplete, h, collect_ok_append, collect, Except.map,
      Option.isNone_some, Bool.false_eq_true, if_false]

/-- The first chunks are a beginning of the body. -/
theorem Stream.take_flatten_prefix (body : Stream) (count : Nat) :
    (body.chunks.take count).flatten <+: body.content :=
  ⟨(body.chunks.drop count).flatten, by
    rw [← List.flatten_append, List.take_append_drop, Stream.content]⟩

/-- The whole response behind a head, if the body does not break off. -/
def Received.complete (r : Received) : Except Error Response :=
  if r.body.isComplete then .ok ⟨r.url, r.status, r.fields, r.body.content⟩
  else .error (.http .brokenBody)

/-- The response, unless only plain success will do. -/
def Response.accept (strict : Bool) (r : Response) : Except Error Response :=
  if strict && !r.isOk then .error (.ofStatus r.status) else .ok r

end Http

namespace Crawler

variable (c : Crawler) (o : Options) (s : Session)

/-! ## The exchange -/

/-- The request that the options describe, if nothing is wrong with them. -/
def prepare : Except Error Http.Request := do
  let url ← o.address
  let method ← o.token
  match headersFault? o.headers.entries with
  | some e => throw e
  | none => pure (c.request method url o)

/-- All requests that have reached the server when the options have been sent, and what came of them. -/
def exchange : List Http.Request × Except Error Http.Received :=
  match c.prepare o with
  | .error e => (s.sent, .error e)
  | .ok r =>
    let (sent, outcome) := s.server.exchange c.config.maxRedirects.toNat r s.sent
    (sent, outcome.mapError .http)

/-- Without a request nothing is sent. -/
theorem exchange_of_error {e : Error} (h : c.prepare o = .error e) :
    c.exchange o s = (s.sent, .error e) := by
  rw [exchange, h]

section Prepare

variable {o} {url : Url} {method : String} {e : Error}

theorem prepare_of_address_error (h : o.address = .error e) : c.prepare o = .error e := by
  simp only [prepare, h]
  rfl

theorem prepare_of_token_error (haddress : o.address = .ok url) (h : o.token = .error e) :
    c.prepare o = .error e := by
  simp only [prepare, haddress, h]
  rfl

theorem prepare_of_header_fault (haddress : o.address = .ok url) (htoken : o.token = .ok method)
    (h : headersFault? o.headers.entries = some e) : c.prepare o = .error e := by
  simp only [prepare, haddress, htoken, h]
  rfl

theorem prepare_of_sound (haddress : o.address = .ok url) (htoken : o.token = .ok method)
    (h : headersFault? o.headers.entries = none) : c.prepare o = .ok (c.request method url o) := by
  simp only [prepare, haddress, htoken, h]
  rfl

end Prepare

/-- Whatever is wrong with the options, nothing is sent; otherwise the request is. -/
theorem gives_send : (c.send o).Gives s (c.exchange o s).2 (c.exchange o s).1 s.files := by
  unfold send
  cases haddress : o.address with
  | error e =>
    rw [c.exchange_of_error o s (c.prepare_of_address_error haddress)]
    exact (Action.gives_throw e s).bind_error
  | ok url =>
    refine (Action.gives_liftM (.ok url) s).bind fun log => ?_
    cases htoken : o.token with
    | error e =>
      rw [c.exchange_of_error o s (c.prepare_of_token_error haddress htoken)]
      exact (Action.gives_throw e _).bind_error
    | ok method =>
      refine (Action.gives_liftM (.ok method) _).bind fun log => ?_
      refine (Action.gives_report ..).bind fun log => ?_
      cases hheaders : headersFault? o.headers.entries with
      | some e =>
        rw [c.exchange_of_error o s (c.prepare_of_header_fault haddress htoken hheaders)]
        exact Action.gives_throw e _
      | none =>
        simp only [exchange, c.prepare_of_sound haddress htoken hheaders]
        exact Action.gives_send _ _ _

/-- The head of this response arrives when the options are sent. -/
def Answers (received : Http.Received) : Prop := ((c.send o).perform s).1 = .ok received

theorem answers_iff {received : Http.Received} :
    c.Answers o s received ↔ (c.exchange o s).2 = .ok received := by
  rw [Answers, (c.gives_send o s).result_eq]

/-! ## Settled answers -/

/-- The response that an answer comes to when a status other than plain success is an error, or is not. -/
def settle (strict : Bool) (answer : Except Error Http.Received) : Except Error Http.Response :=
  (answer.bind (·.complete)).bind (·.accept strict)

section Settle

variable {received : Http.Received} (strict : Bool)

theorem settle_error (e : Error) : settle strict (.error e) = .error e := rfl

theorem settle_of_broken {count : Nat} (h : received.body.brokenAfter = some count) :
    settle strict (.ok received) = .error (.http .brokenBody) := by
  simp only [settle, Except.bind, Http.Received.complete, Http.Stream.isComplete, h,
    Option.isNone_some, Bool.false_eq_true, if_false]

/-- A whole body is accepted whatever the status, unless only plain success will do. -/
theorem settle_of_complete (h : received.body.brokenAfter = none) :
    settle strict (.ok received) = Http.Response.accept strict
      ⟨received.url, received.status, received.fields, received.body.content⟩ := by
  simp only [settle, Except.bind, Http.Received.complete, Http.Stream.isComplete, h,
    Option.isNone_none, if_true]

/-- After any other status than plain success the exchange has failed, even if the body has failed
before. -/
theorem settle_of_rejected (h : received.status ≠ Http.Status.ok) :
    ∃ e, settle true (.ok received) = .error e ∧ e.kind = .transport := by
  -- The body comes before the status: if it breaks off, this is the error.
  cases hbody : received.body.brokenAfter with
  | some count => exact ⟨_, settle_of_broken true hbody, rfl⟩
  | none =>
    refine ⟨.ofStatus received.status, ?_, rfl⟩
    rw [settle_of_complete true hbody, Http.Response.accept, Http.Response.isOk]
    simp [h]

theorem settle_of_ok (hstatus : received.status = Http.Status.ok)
    (hbody : received.body.brokenAfter = none) :
    settle strict (.ok received)
      = .ok ⟨received.url, received.status, received.fields, received.body.content⟩ := by
  rw [settle_of_complete strict hbody, Http.Response.accept, Http.Response.isOk, hstatus]
  simp

/-- What is accepted when only plain success will do is accepted in any case. -/
theorem settle_lenient {answer : Except Error Http.Received} {response : Http.Response}
    (h : settle true answer = .ok response) : settle false answer = .ok response := by
  cases answer with
  | error e => cases h
  | ok received =>
    by_cases hstatus : received.status = Http.Status.ok
    · cases hbody : received.body.brokenAfter with
      | none => rw [settle_of_ok false hstatus hbody, ← h, settle_of_ok true hstatus hbody]
      | some count => rw [settle_of_broken false hbody, ← h, settle_of_broken true hbody]
    · obtain ⟨e, he, -⟩ := settle_of_rejected hstatus
      cases he.symm.trans h

/-- What goes wrong with an answer is the fault of the exchange. -/
theorem settle_cases (strict : Bool) {answer : Except Error Http.Received} {e : Error}
    (h : settle strict answer = .error e) : answer = .error e ∨ e.kind = .transport := by
  cases answer with
  | error e' =>
    cases h
    exact Or.inl rfl
  | ok received =>
    refine Or.inr ?_
    cases hbody : received.body.brokenAfter with
    | some count =>
      cases (settle_of_broken strict hbody).symm.trans h
      rfl
    | none =>
      rw [settle_of_complete strict hbody, Http.Response.accept] at h
      split at h
      · cases h
        rfl
      · cases h

end Settle

/-! ## Whole responses -/

theorem gives_fetch :
    (c.fetch o).Gives s ((c.exchange o s).2.bind (·.complete)) (c.exchange o s).1 s.files := by
  unfold fetch
  cases h : (c.exchange o s).2 with
  | error e => exact (h ▸ c.gives_send o s).bind_error
  | ok received =>
    refine Action.Gives.bind (h ▸ c.gives_send o s) fun log => ?_
    simp only [Http.collect_deliveries, Except.bind, Http.Received.complete]
    cases received.body.isComplete with
    | false => exact Action.gives_throw _ _
    | true => exact (Action.gives_report ..).bind fun log => Action.gives_pure _ _

theorem gives_fetchResponse (strict : Bool) :
    (c.fetchResponse o strict).Gives s (settle strict (c.exchange o s).2) (c.exchange o s).1 s.files := by
  unfold fetchResponse settle
  cases h : (c.exchange o s).2.bind (·.complete) with
  | error e => exact (h ▸ c.gives_fetch o s).bind_error
  | ok response =>
    refine Action.Gives.bind (h ▸ c.gives_fetch o s) fun log => ?_
    simp only [Except.bind, Http.Response.accept]
    cases strict && !response.isOk with
    | false => exact Action.gives_pure _ _
    | true => exact (Action.gives_report ..).bind fun log => Action.gives_throw _ _

theorem gives_fetchAndExtract (rule : Option Rule) :
    (c.fetchAndExtract o rule).Gives s
      ((settle true (c.exchange o s).2).map fun response =>
        c.extract response.body (some response.url) (rule.getD .html))
      (c.exchange o s).1 s.files := by
  unfold fetchAndExtract
  cases h : settle true (c.exchange o s).2 with
  | error e => exact (h ▸ c.gives_fetchResponse o s true).bind_error
  | ok response =>
    refine Action.Gives.bind (h ▸ c.gives_fetchResponse o s true) fun log => ?_
    refine (Action.gives_report ..).bind fun log => ?_
    exact (Action.gives_report ..).bind fun log => Action.gives_pure _ _

/-! ## An answer of the machine itself

One exchange is followed from the text of an address to the answer: a server at `http://[::1]/` that gives
the same response to everybody and sends nobody elsewhere. -/

/-- The address is what is read, without the blanks around it. -/
theorem address_of_read {o : Options} {url : Url} (htrim : Text.trim o.url.toList ≠ [])
    (hread : Url.read (String.ofList (Text.trim o.url.toList)) = .ok url)
    (hscheme : Options.schemes.contains url.scheme = true) : o.address = .ok url := by
  unfold Options.address
  split
  · contradiction
  · simp only [hread, hscheme, if_true]

namespace Loopback

/-- The address `http://[::1]/`. -/
def url : Url where
  scheme := "http"
  authority := some { host := .ipv6 [0, 0, 0, 0, 0, 0, 0, 1] }
  path := .segments [""]

/-- A question for what is there. -/
def options : Options := .get "http://[::1]/"

/-- A crawler that adds no fields to those that every request has. -/
def crawler : Crawler := ⟨{ headers := [] }, by decide⟩

theorem read_url : Url.read "http://[::1]/" = .ok url := by
  have hcharacters : Url.significant "http://[::1]/" = "http://[::1]/".toList := by decide
  have hscheme : Url.scheme? "http://[::1]/".toList = some ("http", "//[::1]/".toList) := by
    simp only [Url.scheme?, String.contains_char_eq]
    decide
  rw [Url.read, Url.readWith, hcharacters, hscheme]
  rfl

theorem isSendable_url : Http.isSendable url = true := by
  have hcharacters : Http.isUnsendable = fun c => "\x22\x60\x7b\x7d".toList.contains c := by
    funext c
    rw [Http.isUnsendable, String.contains_char_eq]
    simp
  rw [Http.isSendable, hcharacters]
  decide +kernel

theorem credentials?_url : credentials? url = none := by
  have hnothing : Utf8.decode? (Percent.decode (Utf8.encode "")) = some "" := by
    have hbytes : Percent.decode (Utf8.encode "") = [] := by decide
    rw [hbytes, Utf8.decode?, Utf8.scan]
    rfl
  simp only [credentials?, url, Option.bind_eq_bind, Option.bind_some, hnothing]
  rfl

/-- The address is that of all options with its text. -/
theorem address_of_url_eq {o : Options} (h : o.url = "http://[::1]/") : o.address = .ok url := by
  apply address_of_read
  · rw [h]
    decide
  · rw [h]
    exact read_url
  · decide

theorem prepare_options (c : Crawler) : c.prepare options = .ok (c.request "GET" url options) :=
  c.prepare_of_sound (address_of_url_eq rfl) rfl rfl

theorem url_request (c : Crawler) (method : String) {o : Options} (h : o.query = .empty) :
    (c.request method url o).url = url := by
  simp only [request, credentials?_url, h]
  rfl

theorem answers {c : Crawler} {s : Session} {status : Nat} {fields : Http.Fields} {body : Http.Stream}
    (hserver : s.server = fun _ => .response status fields body) (hstatus : Http.isRedirect status = false) :
    c.Answers options s ⟨url, status, fields, body⟩ := by
  have hsendable : Http.isSendable (c.request "GET" url options).url = true := by
    rw [url_request c "GET" rfl, isSendable_url]
  have hstays : Http.redirection? url status fields = none := by
    rw [Http.redirection?, hstatus, if_neg Bool.false_ne_true]
  rw [answers_iff, exchange, prepare_options]
  simp only [hserver]
  rw [Http.Server.exchange, hsendable, url_request c "GET" rfl]
  simp only [hstays]
  rfl

end Loopback

end Crawler

end Gleaner
