import Gleaner.Proofs.Crawler.Fetching

set_option autoImplicit false

/-! # What a download does to files

A download creates one file and writes chunk after chunk behind what the file holds. The loop keeps one
thing true: the tree is the tree from before with one file put in it, which holds the chunks so far. All
that is said here about files comes from this and from the list of the ways in which a download ends. -/

namespace Gleaner

/-! ## Destinations -/

namespace Session

/-- Writing to the path creates or replaces the file of these names. -/
def Leads (s : Session) (path : String) (names : List String) : Prop :=
  ∃ whole, Crawler.destination s.directory path = .ok whole ∧ s.files.target whole = .ok names

/-- This is read at the path. -/
def Holds (s : Session) (path : String) (content : Bytes) : Prop :=
  ∃ whole, Crawler.destination s.directory path = .ok whole ∧ s.files.read whole = .ok content

variable {s : Session} {path : String} {names : List String}

theorem Leads.unique {other : List String} (h : s.Leads path names) (hother : s.Leads path other) :
    names = other := by
  obtain ⟨whole, hwhole, htarget⟩ := h
  obtain ⟨whole', hwhole', htarget'⟩ := hother
  cases hwhole.symm.trans hwhole'
  exact Except.ok.inj (htarget.symm.trans htarget')

end Session

namespace Crawler

/-! ## Saving what is delivered -/

section Saving

variable (t : FileTree) (file : List String) {s : Session} {result : Except Error Nat}
  {sent : List Http.Request} {files : FileTree}

/-- One chunk is written behind what the file holds. -/
theorem gives_save_chunk {held chunk : Bytes} {rest : List (Except Http.Fault Bytes)} {written : Nat}
    (hs : s.files = t.put file held)
    (hrest : ∀ log, (save file (written + chunk.length) rest).Gives
      { s with files := t.put file (held ++ chunk), log } result sent files) :
    (save file written (.ok chunk :: rest)).Gives s result sent files := by
  have happend : s.files.append file chunk = t.put file (held ++ chunk) := by
    rw [hs, FileTree.append_put]
  rw [save]
  exact (happend ▸ Action.gives_append file chunk s).bind fun log => hrest log

/-- After some chunks the file holds what it held and these chunks. -/
theorem gives_save_chunks {chunks : List Bytes} {held : Bytes} {rest : List (Except Http.Fault Bytes)}
    {written : Nat} (hs : s.files = t.put file held)
    (hrest : ∀ log, (save file (written + chunks.flatten.length) rest).Gives
      { s with files := t.put file (held ++ chunks.flatten), log } result sent files) :
    (save file written (chunks.map .ok ++ rest)).Gives s result sent files := by
  -- Every step starts from a file that holds one chunk more, so the session and what it holds vary.
  induction chunks generalizing s held written with
  | nil =>
    have h := hrest s.log
    simp only [List.flatten_nil, List.append_nil, List.length_nil, Nat.add_zero, ← hs] at h
    exact h
  | cons chunk chunks ih =>
    refine gives_save_chunk t file hs fun log => ih rfl fun log => ?_
    have h := hrest log
    simp only [List.flatten_cons, List.length_append, ← Nat.add_assoc, ← List.append_assoc] at h
    exact h

/-- A body that arrives is saved. -/
theorem gives_save_of_complete {body : Http.Stream} (hbody : body.brokenAfter = none)
    (hs : s.files = t.put file []) :
    (save file 0 body.deliveries).Gives s (.ok body.content.length) s.sent
      (t.put file body.content) := by
  have hall : body.deliveries = body.chunks.map .ok ++ [] := by
    simp only [Http.Stream.deliveries, hbody, List.append_nil]
  rw [hall]
  refine gives_save_chunks t file hs fun log => ?_
  rw [Nat.zero_add, save]
  exact Action.gives_pure _ _

/-- A body that breaks off is saved as far as it arrives. -/
theorem gives_save_of_broken {body : Http.Stream} {count : Nat} (hbody : body.brokenAfter = some count)
    (hs : s.files = t.put file []) :
    (save file 0 body.deliveries).Gives s (.error (.http .brokenBody)) s.sent
      (t.put file (body.chunks.take count).flatten) := by
  simp only [Http.Stream.deliveries, hbody]
  exact gives_save_chunks t file hs fun log => Action.gives_throw _ _

end Saving

/-! ## The ways in which a download ends -/

variable (c : Crawler) (o : Options) (path : String) (s : Session)

/-- The result of a download to a path from the root, and the files behind it. -/
inductive Ends : Except Error Nat → FileTree → Prop
  | unanswered {e : Error} (hanswer : (c.exchange o s).2 = .error e) : Ends (.error e) s.files
  | rejected {received : Http.Received} (hanswer : (c.exchange o s).2 = .ok received)
    (hstatus : received.status ≠ Http.Status.ok) :
    Ends (.error (.ofStatus received.status)) s.files
  | unwritable {received : Http.Received} {fault : FileFault}
    (hanswer : (c.exchange o s).2 = .ok received) (hstatus : received.status = Http.Status.ok)
    (htarget : s.files.target path = .error fault) : Ends (.error (.io fault)) s.files
  | saved {received : Http.Received} {names : List String}
    (hanswer : (c.exchange o s).2 = .ok received) (hstatus : received.status = Http.Status.ok)
    (htarget : s.files.target path = .ok names) (hbody : received.body.brokenAfter = none) :
    Ends (.ok received.body.content.length) (s.files.put names received.body.content)
  | brokenOff {received : Http.Received} {names : List String} {count : Nat}
    (hanswer : (c.exchange o s).2 = .ok received) (hstatus : received.status = Http.Status.ok)
    (htarget : s.files.target path = .ok names) (hbody : received.body.brokenAfter = some count) :
    Ends (.error (.http .brokenBody))
      (s.files.put names (received.body.chunks.take count).flatten)

/-- A download ends in one of these ways, and what has been sent by then is what the exchange sends. -/
theorem download_ends : ∃ result files,
    c.Ends o path s result files
      ∧ (c.download o path).Gives s result (c.exchange o s).1 files := by
  have hsend := c.gives_send o s
  unfold download
  cases hanswer : (c.exchange o s).2 with
  | error e =>
    rw [hanswer] at hsend
    exact ⟨_, _, .unanswered hanswer, hsend.bind_error⟩
  | ok received =>
    rw [hanswer] at hsend
    by_cases hstatus : received.status = Http.Status.ok
    · cases htarget : s.files.target path with
      | error fault =>
        refine ⟨_, _, .unwritable hanswer hstatus htarget, hsend.bind fun log => ?_⟩
        rw [if_pos hstatus]
        refine (Action.gives_report ..).bind fun log => ?_
        apply Action.Gives.bind_error
        exact Action.gives_create_of_error htarget
      | ok names =>
        cases hbody : received.body.brokenAfter with
        | none =>
          refine ⟨_, _, .saved hanswer hstatus htarget hbody, hsend.bind fun log => ?_⟩
          rw [if_pos hstatus]
          refine (Action.gives_report ..).bind fun log => ?_
          refine Action.Gives.bind (Action.gives_create htarget) fun log => ?_
          refine Action.Gives.bind (gives_save_of_complete s.files names hbody rfl) fun log => ?_
          refine Action.Gives.bind (Action.gives_size (s.files.read_put htarget _)) fun log => ?_
          -- What is read back is as long as what was written.
          rw [if_neg (by simp)]
          exact (Action.gives_report ..).bind fun log => Action.gives_pure _ _
        | some count =>
          refine ⟨_, _, .brokenOff hanswer hstatus htarget hbody, hsend.bind fun log => ?_⟩
          rw [if_pos hstatus]
          refine (Action.gives_report ..).bind fun log => ?_
          refine Action.Gives.bind (Action.gives_create htarget) fun log => ?_
          apply Action.Gives.bind_error
          exact gives_save_of_broken s.files names hbody rfl
    · refine ⟨_, _, .rejected hanswer hstatus, hsend.bind fun log => ?_⟩
      rw [if_neg hstatus]
      exact (Action.gives_report ..).bind fun log => Action.gives_throw _ _

namespace Ends

variable {c : Crawler} {o : Options} {path : String} {s : Session} {result : Except Error Nat}
  {files : FileTree} {e : Error}

/-- Only the file that the path leads to changes. -/
theorem content?_eq (h : c.Ends o path s result files) {names : List String}
    (hother : s.files.target path ≠ .ok names) : files.content? names = s.files.content? names := by
  cases h with
  | unanswered | rejected | unwritable => rfl
  | saved _ _ htarget _ | brokenOff _ _ htarget _ =>
    apply FileTree.content?_put_of_ne
    rintro rfl
    exact hother htarget

/-- Without an answer a download does nothing. -/
theorem of_unanswered (h : c.Ends o path s result files) (hanswer : (c.exchange o s).2 = .error e) :
    result = .error e ∧ files = s.files := by
  cases h with
  | unanswered hanswer' =>
    cases hanswer.symm.trans hanswer'
    exact ⟨rfl, rfl⟩
  | rejected hanswer' | unwritable hanswer' | saved hanswer' | brokenOff hanswer' =>
    cases hanswer.symm.trans hanswer'

/-- An error of the kind `config` is not found by a download that has got an answer. -/
theorem unanswered_of_config (h : c.Ends o path s (.error e) files) (hkind : e.kind = .config) :
    (c.exchange o s).2 = .error e := by
  cases h with
  | unanswered hanswer => exact hanswer
  | rejected | unwritable | brokenOff => cases hkind

/-- Success means plain success of the exchange and a body that arrived and was written. -/
theorem of_ok {n : Nat} (h : c.Ends o path s (.ok n) files) :
    ∃ received, (c.exchange o s).2 = .ok received ∧ received.status = Http.Status.ok
      ∧ received.body.brokenAfter = none ∧ n = received.body.content.length
      ∧ files.read path = .ok received.body.content := by
  cases h with
  | saved hanswer hstatus htarget hbody =>
    exact ⟨_, hanswer, hstatus, hbody, rfl, s.files.read_put htarget _⟩

/-- An error after which the files differ is that of a body that broke off. -/
theorem of_error (h : c.Ends o path s (.error e) files) :
    files = s.files ∨ e = .http .brokenBody ∧ ∃ received, (c.exchange o s).2 = .ok received := by
  cases h with
  | unanswered | rejected | unwritable => exact Or.inl rfl
  | brokenOff hanswer => exact Or.inr ⟨rfl, _, hanswer⟩

/-- Where a body breaks off, the chunks before are what the file holds. -/
theorem of_brokenAfter (h : c.Ends o path s result files) {received : Http.Received}
    {names : List String} {count : Nat} (hanswer : (c.exchange o s).2 = .ok received)
    (hstatus : received.status = Http.Status.ok) (htarget : s.files.target path = .ok names)
    (hbody : received.body.brokenAfter = some count) :
    result = .error (.http .brokenBody)
      ∧ files.read path = .ok (received.body.chunks.take count).flatten := by
  cases h with
  | unanswered hanswer' => simp [hanswer] at hanswer'
  | rejected hanswer' hstatus' =>
    cases hanswer.symm.trans hanswer'
    exact absurd hstatus hstatus'
  | unwritable _ _ htarget' => simp [htarget] at htarget'
  | saved hanswer' _ _ hbody' =>
    cases hanswer.symm.trans hanswer'
    simp [hbody] at hbody'
  | brokenOff hanswer' _ htarget' hbody' =>
    cases hanswer.symm.trans hanswer'
    cases hbody.symm.trans hbody'
    exact ⟨rfl, s.files.read_put htarget' _⟩

end Ends

/-! ## Downloads from the working directory -/

/-- The address is checked once more when the options are sent, so to check it before changes nothing. -/
theorem check_address_bind_download :
    ((o.address : Action Url) >>= fun _ => c.download o path) = c.download o path := by
  unfold download send
  cases o.address <;> rfl

theorem perform_fetchToFile : (c.fetchToFile o path).perform s
    = match destination s.directory path with
      | .ok whole => (c.download o whole).perform s
      | .error e => (.error e, s) := by
  simp only [fetchToFile, check_address_bind_download, Action.perform_bind, Action.perform_get,
    Action.perform_liftM]
  cases destination s.directory path <;> rfl

theorem gives_fetchToFile_of_error {e : Error} (hpath : destination s.directory path = .error e) :
    (c.fetchToFile o path).Gives s (.error e) s.sent s.files :=
  ⟨s.log, by rw [perform_fetchToFile, hpath]⟩

/-- A download from the working directory ends as a download from the root does. -/
theorem fetchToFile_ends {whole : String} (hpath : destination s.directory path = .ok whole) :
    ∃ result files, c.Ends o whole s result files
      ∧ (c.fetchToFile o path).Gives s result (c.exchange o s).1 files := by
  obtain ⟨result, files, hends, log, hperform⟩ := c.download_ends o whole s
  exact ⟨result, files, hends, log, by rw [perform_fetchToFile, hpath]; exact hperform⟩

/-- What a download does to files, however it ends. No file but the one at the destination changes; after
success it holds the body; an error that comes before the body leaves the tree as it was; and when the body
breaks off, the file holds the chunks that arrived, which is a beginning of the body. -/
theorem fetchToFile_files (c : Crawler) (o : Options) (path : String) (s : Session) :
    let result := ((c.fetchToFile o path).perform s).1
    let after := ((c.fetchToFile o path).perform s).2
    (∀ names, ¬ s.Leads path names → after.files.content? names = s.files.content? names)
    ∧ (∀ n, result = .ok n → ∃ received, c.Answers o s received ∧ received.status = 200
        ∧ received.body.isComplete = true ∧ after.Holds path received.body.content
        ∧ n = received.body.content.length)
    ∧ (∀ e, result = .error e →
        e.kind = .config ∨ (∃ code reason, e = .status code reason) ∨ e.kind = .io
          ∨ (¬ ∃ received, c.Answers o s received) → after.files = s.files)
    ∧ (∀ received names count, c.Answers o s received → received.status = 200 →
        s.Leads path names → received.body.brokenAfter = some count →
        result = .error (.http .brokenBody)
        ∧ after.Holds path (received.body.chunks.take count).flatten
        ∧ (received.body.chunks.take count).flatten <+: received.body.content) := by
  simp only [answers_iff]
  cases hpath : destination s.directory path with
  | error e =>
    obtain ⟨log, hperform⟩ := c.gives_fetchToFile_of_error o path s hpath
    rw [hperform]
    refine ⟨fun _ _ => rfl, fun n h => (by cases h), fun _ _ _ => rfl, ?_⟩
    rintro _ _ _ _ _ ⟨whole, hwhole, _⟩
    cases hpath.symm.trans hwhole
  | ok whole =>
    obtain ⟨result, files, hends, log, hperform⟩ := c.fetchToFile_ends o path s hpath
    rw [hperform]
    refine ⟨fun names h => ?_, ?_, ?_, ?_⟩
    · exact hends.content?_eq fun htarget => h ⟨whole, hpath, htarget⟩
    · rintro n rfl
      obtain ⟨received, hanswer, hstatus, hbody, hn, hread⟩ := hends.of_ok
      exact ⟨received, hanswer, hstatus, by rw [Http.Stream.isComplete, hbody]; rfl,
        ⟨whole, hpath, hread⟩, hn⟩
    · rintro e rfl hkind
      rcases hends.of_error with hfiles | ⟨rfl, received, hanswer⟩
      · exact hfiles
      · rcases hkind with hkind | ⟨_, _, hkind⟩ | hkind | hkind
        · cases hkind
        · cases hkind
        · cases hkind
        · exact absurd ⟨received, hanswer⟩ hkind
    · rintro received names count hanswer hstatus ⟨whole', hwhole', htarget⟩ hbody
      cases hpath.symm.trans hwhole'
      obtain ⟨hresult, hread⟩ := hends.of_brokenAfter hanswer hstatus htarget hbody
      exact ⟨hresult, ⟨whole, hpath, hread⟩, received.body.take_flatten_prefix count⟩

/-- A page that is there already is replaced by the first of two chunks when the connection breaks between
them, and what else is there stays; without a path nothing happens. -/
theorem fetchToFile_of_broken_page :
    let s : Session :=
      { server := fun _ => .response 200 [] ⟨[[104], [105]], some 1⟩
        files := ⟨[(["page"], [0, 0]), (["other"], [1])], []⟩
        directory := "/" }
    let broken := (Loopback.crawler.fetchToFile Loopback.options "/page").perform s
    let misdirected := (Loopback.crawler.fetchToFile Loopback.options "").perform s
    broken.1 = .error (.http .brokenBody) ∧ broken.2.Holds "/page" [104]
      ∧ broken.2.files.content? ["other"] = some [1] ∧ misdirected.2.files = s.files := by
  intro s
  obtain ⟨hframe, -, -, hbroken⟩ := fetchToFile_files Loopback.crawler Loopback.options "/page" s
  obtain ⟨-, -, herror, -⟩ := fetchToFile_files Loopback.crawler Loopback.options "" s
  have hpage : s.Leads "/page" ["page"] := ⟨"/page", rfl, rfl⟩
  have hother : ¬ s.Leads "/page" ["other"] := fun hleads =>
    absurd (hleads.unique hpage) (by decide)
  obtain ⟨hresult, hholds, -⟩ := hbroken ⟨Loopback.url, 200, [], _⟩ ["page"] 1
    (Loopback.answers rfl rfl) rfl hpage rfl
  exact ⟨hresult, hholds, hframe ["other"] hother, herror _ rfl (Or.inl rfl)⟩

end Crawler

end Gleaner
