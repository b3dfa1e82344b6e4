import Gleaner.Proofs.Files
import Gleaner.Session

set_option autoImplicit false

/-! # What actions do to a session

Doing an action gives a result and the session behind it. There is one lemma for each way of putting
actions together and one for each basic action, so that a run of a longer action is followed from its
beginning to its end without opening the layers that actions are made of.

What is reported on the way matters to nothing that comes after it. `Gives` says what an action comes to
without its reports: a result, the requests that have been sent, and the files. -/

namespace Gleaner.Action

variable {α β : Type}

/-! ## Putting actions together -/

@[simp] theorem perform_pure (x : α) (s : Session) : (pure x : Action α).perform s = (.ok x, s) := rfl

@[simp] theorem perform_throw (e : Error) (s : Session) :
    (throw e : Action α).perform s = (.error e, s) := rfl

@[simp] theorem perform_get (s : Session) : (get : Action Session).perform s = (.ok s, s) := rfl

@[simp] theorem perform_set (s t : Session) : (set t : Action PUnit).perform s = (.ok ⟨⟩, t) := rfl

/-- A result that needs no session leaves it alone. -/
@[simp] theorem perform_liftM (x : Except Error α) (s : Session) :
    (liftM x : Action α).perform s = (x, s) := rfl

/-- An action is done after another one in the session that the other leaves behind, unless the other
fails. -/
theorem perform_bind (x : Action α) (f : α → Action β) (s : Session) :
    (x >>= f).perform s = match x.perform s with
      | (.ok a, t) => (f a).perform t
      | (.error e, t) => (.error e, t) := by
  simp only [perform, ExceptT.run_bind, StateT.run_bind]
  rcases h : (ExceptT.run x).run s with ⟨_ | a, t⟩ <;> rfl

theorem perform_bind_of_ok {x : Action α} {f : α → Action β} {s t : Session} {a : α}
    (h : x.perform s = (.ok a, t)) : (x >>= f).perform s = (f a).perform t := by
  rw [perform_bind, h]

theorem perform_bind_of_error {x : Action α} {f : α → Action β} {s t : Session} {e : Error}
    (h : x.perform s = (.error e, t)) : (x >>= f).perform s = (.error e, t) := by
  rw [perform_bind, h]

/-! ## Without the reports -/

/-- Doing the action gives this result and leaves these requests and these files, whatever it reports. -/
def Gives (action : Action α) (s : Session) (result : Except Error α) (sent : List Http.Request)
    (files : FileTree) : Prop :=
  ∃ log, action.perform s = (result, { s with sent, files, log })

variable {action : Action α} {next : α → Action β} {s : Session} {result : Except Error α}
  {outcome : Except Error β} {sent sent' : List Http.Request} {files files' : FileTree}

namespace Gives

theorem result_eq (h : action.Gives s result sent files) : (action.perform s).1 = result := by
  obtain ⟨log, h⟩ := h
  rw [h]

theorem sent_eq (h : action.Gives s result sent files) : (action.perform s).2.sent = sent := by
  obtain ⟨log, h⟩ := h
  rw [h]

theorem files_eq (h : action.Gives s result sent files) : (action.perform s).2.files = files := by
  obtain ⟨log, h⟩ := h
  rw [h]

/-- What comes next starts with what is there by then, behind reports that are not known. -/
theorem bind {a : α} (h : action.Gives s (.ok a) sent files)
    (hnext : ∀ log, (next a).Gives { s with sent, files, log } outcome sent' files') :
    (action >>= next).Gives s outcome sent' files' := by
  obtain ⟨log, h⟩ := h
  obtain ⟨log', hnext⟩ := hnext log
  exact ⟨log', by rw [perform_bind_of_ok h, hnext]⟩

/-- After an error nothing comes next. -/
theorem bind_error {e : Error} (h : action.Gives s (.error e) sent files) :
    (action >>= next).Gives s (.error e) sent files := by
  obtain ⟨log, h⟩ := h
  exact ⟨log, perform_bind_of_error h⟩

end Gives

/-! ## Basic actions -/

theorem gives_pure (x : α) (s : Session) : (pure x : Action α).Gives s (.ok x) s.sent s.files :=
  ⟨s.log, rfl⟩

theorem gives_throw (e : Error) (s : Session) :
    (throw e : Action α).Gives s (.error e) s.sent s.files := ⟨s.log, rfl⟩

theorem gives_liftM (x : Except Error α) (s : Session) :
    (liftM x : Action α).Gives s x s.sent s.files := ⟨s.log, rfl⟩

theorem gives_report (level : LogLevel) (source text : String) (s : Session) :
    (report level source text).Gives s (.ok ()) s.sent s.files := ⟨_, rfl⟩

theorem gives_send (limit : Nat) (r : Http.Request) (s : Session) :
    (send limit r).Gives s ((s.server.exchange limit r s.sent).2.mapError .http)
      (s.server.exchange limit r s.sent).1 s.files := by
  refine ⟨s.log, ?_⟩
  simp only [send, perform_bind, perform_get, perform_set]
  cases (s.server.exchange limit r s.sent).2 <;> rfl

/-- Creating a file leaves nothing in it. -/
theorem gives_create {path : String} {names : List String} {s : Session}
    (h : s.files.target path = .ok names) :
    (create path).Gives s (.ok names) s.sent (s.files.put names []) := by
  refine ⟨s.log, ?_⟩
  simp only [create, perform_bind, perform_get, h, perform_set, perform_pure]

/-- Where no file can be created, none is touched. -/
theorem gives_create_of_error {path : String} {fault : FileFault} {s : Session}
    (h : s.files.target path = .error fault) :
    (create path).Gives s (.error (.io fault)) s.sent s.files := by
  refine ⟨s.log, ?_⟩
  simp only [create, perform_bind, perform_get, h, perform_throw]

theorem gives_append (names : List String) (bytes : Bytes) (s : Session) :
    (append names bytes).Gives s (.ok ()) s.sent (s.files.append names bytes) := ⟨s.log, rfl⟩

theorem gives_size {path : String} {content : Bytes} {s : Session}
    (h : s.files.read path = .ok content) :
    (size path).Gives s (.ok content.length) s.sent s.files := by
  refine ⟨s.log, ?_⟩
  simp only [size, perform_bind, perform_get, h, perform_pure]

end Gleaner.Action
