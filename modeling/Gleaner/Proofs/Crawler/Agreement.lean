import Gleaner.Proofs.Crawler.Download

set_option autoImplicit false

/-! # The operations agree

A response can be had as a whole, as what a rule finds in it, or as a file. The first two read the whole
body before they look at the status, a download looks at the status first and takes the body chunk by
chunk. Still, all of them ask the server the same, and it does not matter which of them is chosen: they
succeed together, with the same body, and fail together, with errors of the same kind. -/

namespace Gleaner

namespace Error

/-- Two results agree: both are there and are related, or both are errors of one kind. -/
def Agree {α β : Type} (related : α → β → Prop) : Except Error α → Except Error β → Prop
  | .ok a, .ok b => related a b
  | .error e, .error e' => e.kind = e'.kind
  | _, _ => False

variable {α β : Type} {related related' : α → β → Prop} {x : Except Error α} {y : Except Error β}

theorem Agree.imp (h : Agree related x y) (himp : ∀ a b, related a b → related' a b) :
    Agree related' x y := by
  cases x with
  | error e =>
    cases y with
    | error e' => exact h
    | ok b => exact h
  | ok a =>
    cases y with
    | error e' => exact h
    | ok b => exact himp a b h

/-- With a success only a success agrees. -/
theorem Agree.exists_of_ok {a : α} (h : Agree related (.ok a) y) : ∃ b, y = .ok b ∧ related a b := by
  cases y with
  | error e => exact h.elim
  | ok b => exact ⟨b, rfl, h⟩

/-- With an error only an error of its kind agrees. -/
theorem Agree.exists_of_error {e : Error} (h : Agree related (.error e) y) :
    ∃ e', y = .error e' ∧ e.kind = e'.kind := by
  cases y with
  | error e' => exact ⟨e', rfl, h⟩
  | ok b => exact h.elim

/-- A result agrees with what is made of it. -/
theorem agree_map (x : Except Error α) (f : α → β) : Agree (fun a b => b = f a) x (x.map f) := by
  cases x with
  | error e => exact rfl
  | ok a => exact rfl

end Error

namespace Crawler

/-! ## Agreement -/

variable {c : Crawler} {o : Options} {path : String} {s : Session} {result : Except Error Nat}
  {files : FileTree}

/-- A download to a place that can be written to agrees with a response that only plain success will do
for. -/
theorem Ends.agree (h : c.Ends o path s result files) {names : List String}
    (htarget : s.files.target path = .ok names) :
    Error.Agree (fun response n => n = response.body.length ∧ files.read path = .ok response.body)
      (settle true (c.exchange o s).2) result := by
  cases h with
  | unanswered hanswer => rw [hanswer, settle_error, Error.Agree]
  | rejected hanswer hstatus =>
    -- The download reports the status, the response perhaps a broken body: only the kinds are equal.
    obtain ⟨e, he, hkind⟩ := settle_of_rejected hstatus
    rw [hanswer, he, Error.Agree, hkind]
    rfl
  | unwritable _ _ htarget' => cases htarget.symm.trans htarget'
  | saved hanswer hstatus htarget' hbody =>
    rw [hanswer, settle_of_ok true hstatus hbody]
    exact ⟨rfl, s.files.read_put htarget' _⟩
  | brokenOff hanswer _ _ hbody =>
    rw [hanswer, settle_of_broken true hbody, Error.Agree]

/-- All operations ask the same, and they agree: with the response that only plain success will do for
agree what a rule finds, which is what it finds in this body, and the download, which leaves this body at
the destination; and the response whatever its status is the same. -/
theorem operations_agree (c : Crawler) (o : Options) (s : Session) (rule : Option Rule) (path : String)
    (hpath : ∃ names, s.Leads path names) :
    let response := (c.fetchResponse o true).perform s
    let lenient := (c.fetchResponse o false).perform s
    let value := (c.fetchAndExtract o rule).perform s
    let size := (c.fetchToFile o path).perform s
    (lenient.2.sent = response.2.sent ∧ value.2.sent = response.2.sent
        ∧ size.2.sent = response.2.sent)
    ∧ Error.Agree (fun r v => v = c.extract r.body (some r.url) (rule.getD .html)) response.1 value.1
    ∧ Error.Agree (fun r n => n = r.body.length ∧ size.2.Holds path r.body) response.1 size.1
    ∧ ∀ r, response.1 = .ok r → lenient.1 = .ok r := by
  obtain ⟨names, whole, hwhole, htarget⟩ := hpath
  obtain ⟨_, hresponse⟩ := c.gives_fetchResponse o s true
  obtain ⟨_, hlenient⟩ := c.gives_fetchResponse o s false
  obtain ⟨_, hvalue⟩ := c.gives_fetchAndExtract o s rule
  obtain ⟨result, files, hends, log, hfile⟩ := c.fetchToFile_ends o path s hwhole
  rw [hresponse, hlenient, hvalue, hfile]
  refine ⟨⟨rfl, rfl, rfl⟩, Error.agree_map _ _, ?_, fun _ => settle_lenient⟩
  exact (hends.agree htarget).imp fun r n ⟨hn, hread⟩ => ⟨hn, whole, hwhole, hread⟩

/-- A page that comes in two chunks is had in every way. What comes with another status and breaks off is had
in none, although the download stops at the status and the others come upon the broken body. -/
theorem operations_agree_on_page :
    let page : Session :=
      { server := fun _ => .response 200 [] ⟨[[104], [105]], none⟩
        files := ⟨[(["page"], [0, 0])], []⟩
        directory := "/" }
    let missing : Session := { page with server := fun _ => .response 404 [] ⟨[[104], [105]], some 1⟩ }
    let response := (Loopback.crawler.fetchResponse Loopback.options true).perform
    let lenient := (Loopback.crawler.fetchResponse Loopback.options false).perform
    let value := (Loopback.crawler.fetchAndExtract Loopback.options none).perform
    let size := (Loopback.crawler.fetchToFile Loopback.options "/page").perform
    ((response page).1 = .ok ⟨Loopback.url, 200, [], [104, 105]⟩
      ∧ (lenient page).1 = .ok ⟨Loopback.url, 200, [], [104, 105]⟩
      ∧ (value page).1 = .ok (.str "<html><head></head><body>hi</body></html>")
      ∧ (size page).1 = .ok 2 ∧ (size page).2.Holds "/page" [104, 105])
    ∧ (response missing).1 = .error (.http .brokenBody)
      ∧ (∃ e, (value missing).1 = .error e ∧ e.kind = .transport)
      ∧ ∃ e, (size missing).1 = .error e ∧ e.kind = .transport := by
  intro page missing response lenient value size
  have hpage : ∃ names, page.Leads "/page" names := ⟨["page"], "/page", rfl, rfl⟩
  have hmissing : ∃ names, missing.Leads "/page" names := ⟨["page"], "/page", rfl, rfl⟩
  have hwhole : (response page).1 = .ok ⟨Loopback.url, 200, [], [104, 105]⟩ := by
    rw [(gives_fetchResponse ..).result_eq, (answers_iff ..).mp (Loopback.answers rfl rfl)]
    rfl
  have hbroken : (response missing).1 = .error (.http .brokenBody) := by
    rw [(gives_fetchResponse ..).result_eq, (answers_iff ..).mp (Loopback.answers rfl rfl)]
    rfl
  have hmarkup : Loopback.crawler.extract [104, 105] (some Loopback.url) .html
      = .str "<html><head></head><body>hi</body></html>" := by decide +kernel
  obtain ⟨-, hvalue, hsize, hlenient⟩ :=
    operations_agree Loopback.crawler Loopback.options page none "/page" hpage
  obtain ⟨-, hvalue', hsize', -⟩ :=
    operations_agree Loopback.crawler Loopback.options missing none "/page" hmissing
  rw [hwhole] at hvalue hsize
  rw [hbroken] at hvalue' hsize'
  obtain ⟨v, hv, hextract⟩ := hvalue.exists_of_ok
  obtain ⟨n, hn, hlength, hholds⟩ := hsize.exists_of_ok
  obtain ⟨e, he, hkind⟩ := hvalue'.exists_of_error
  obtain ⟨e', he', hkind'⟩ := hsize'.exists_of_error
  refine ⟨⟨hwhole, hlenient _ hwhole, ?_, hn.trans (congrArg _ hlength), hholds⟩, hbroken,
    ⟨e, he, hkind.symm⟩, e', he', hkind'.symm⟩
  exact hv.trans (congrArg _ (hextract.trans hmarkup))

end Crawler

end Gleaner
