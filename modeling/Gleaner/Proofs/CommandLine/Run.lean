import Gleaner.Proofs.CommandLine.Headers
import Gleaner.Proofs.Crawler.Checks

set_option autoImplicit false

/-! # How a run ends

A run looks at everything it is given, has a crawler do one thing, and prints what comes of it. It may end
after each of these parts, and each way to end tells what has been printed, sent and written by then. -/

namespace Gleaner.CommandLine

/-! ## Parts of a command -/

namespace Task

variable {α β : Type}

/-- A check leaves the state alone. -/
theorem perform_liftM (x : Except Failure α) (p : State) :
    (liftM x : Task α).perform p = (x, p) := rfl

/-- One part is done after another one in the state that the other leaves behind, unless the other fails. -/
theorem perform_bind (x : Task α) (f : α → Task β) (p : State) :
    (x >>= f).perform p = match x.perform p with
      | (.ok a, q) => (f a).perform q
      | (.error failure, q) => (.error failure, q) := by
  simp only [perform, ExceptT.run_bind, StateT.run_bind]
  rcases h : (ExceptT.run x).run p with ⟨_ | a, q⟩ <;> rfl

/-- What comes after a check starts with the state from before. -/
theorem perform_liftM_bind (x : Except Failure α) (f : α → Task β) (p : State) :
    ((liftM x : Task α) >>= f).perform p = match x with
      | .ok a => (f a).perform p
      | .error failure => (.error failure, p) := by
  rw [perform_bind, perform_liftM]
  cases x <;> rfl

/-- An action works in the session, and prints nothing. -/
theorem perform_act (action : Action α) (p : State) :
    (act action).perform p = match action.perform p.session with
      | (.ok a, t) => (.ok a, { p with session := t })
      | (.error e, t) => (.error (.crawl e), { p with session := t }) := by
  have hget : (get : Task State).perform p = (.ok p, p) := rfl
  have hset (q : State) : (set q : Task PUnit).perform p = (.ok ⟨⟩, q) := rfl
  simp only [act, perform_bind, hget, hset]
  rcases action.perform p.session with ⟨_ | a, t⟩ <;> rfl

@[simp] theorem perform_print (line : String) (p : State) :
    (print line).perform p = (.ok (), { p with printed := p.printed ++ line ++ "\n" }) := rfl

/-- An action whose result is printed fails without printing anything. -/
theorem perform_act_bind {action : Action α} {next : α → Task Unit} {text : α → String}
    (hnext : ∀ a p, (next a).perform p = (.ok (), { p with printed := p.printed ++ text a }))
    (p : State) : (act action >>= next).perform p =
      match (action >>= fun a => pure (text a)).perform p.session with
      | (.error e, t) => (.error (.crawl e), { p with session := t })
      | (.ok printed, t) => (.ok (), ⟨t, p.printed ++ printed⟩) := by
  simp only [perform_bind, perform_act, Action.perform_bind, Action.perform_pure]
  rcases action.perform p.session with ⟨_ | a, t⟩
  · rfl
  · exact hnext a { p with session := t }

end Task

/-! ## What is given, and what is done with it -/

namespace Command

/-- The address that a command is about. -/
def url : Command → String
  | response url _ | download url _ | extract url _ _ _ _ => url

/-- The rule that a command is given, if it is given one. -/
def rule? (readFile : FileReader) : Command → Except Failure (Option Rule)
  | response _ _ | download _ _ => .ok none
  | extract _ rule ruleFile strictRule _ =>
    ((ruleText readFile rule ruleFile).bind readRule).bind fun rule =>
      if strictRule then (checkRule rule).map fun () => rule else .ok rule

/-- The rule of a command is looked at before it is applied. -/
def checksRule : Command → Bool
  | response _ _ | download _ _ => false
  | extract _ _ _ strictRule _ => strictRule

/-- What a crawler does for a command; the answer is what there is to print. -/
def work (c : Crawler) (o : Options) (rule : Option Rule) : Command → Action String
  | response _ strict => do
    let response ← c.fetchResponse o strict
    pure (toString response.status ++ " " ++ response.statusText ++ "\n" ++ response.text ++ "\n")
  | download _ path => do
    let size ← c.fetchToFile o path
    pure (toString size ++ "\n")
  | extract _ _ _ _ pretty => do
    let result ← c.fetchAndExtract o rule
    pure ((if pretty then result.pretty else result.text) ++ "\n")

end Command

/-- What comes after the rule starts with the state from before, and with the rule. -/
theorem perform_rule_bind (readFile : FileReader) (url : String) (rule ruleFile : Option String)
    (strictRule pretty : Bool) (next : Option Rule → Task Unit) (p : State) :
    Task.perform (do
        let rule ← readRule (← ruleText readFile rule ruleFile)
        if strictRule then checkRule rule
        next rule) p =
      match (Command.extract url rule ruleFile strictRule pretty).rule? readFile with
      | .error failure => (.error failure, p)
      | .ok rule => (next rule).perform p := by
  rw [Task.perform_liftM_bind, Command.rule?]
  cases ruleText readFile rule ruleFile with
  | error failure => rfl
  | ok text =>
    simp only [Except.bind, Task.perform_liftM_bind]
    cases readRule text with
    | error failure => rfl
    | ok rule =>
      cases strictRule with
      | false => rfl
      | true =>
        simp only [if_true, Task.perform_liftM_bind]
        cases checkRule rule <;> rfl

/-- The options come first, then the rule, then the work, and printing comes last. -/
theorem perform_eq (c : Crawler) (readFile : FileReader) (i : Invocation) (p : State) :
    (perform c readFile i).perform p = match requestOptions i.command.url i.headers with
      | .error failure => (.error failure, p)
      | .ok o => match i.command.rule? readFile with
        | .error failure => (.error failure, p)
        | .ok rule => match (i.command.work c o rule).perform p.session with
          | (.error e, t) => (.error (.crawl e), { p with session := t })
          | (.ok text, t) => (.ok (), ⟨t, p.printed ++ text⟩) := by
  obtain ⟨headers, command⟩ := i
  cases command with
  | response url strict =>
    rw [perform, Task.perform_liftM_bind, Command.url]
    cases requestOptions url headers with
    | error failure => rfl
    | ok o =>
      exact Task.perform_act_bind (fun response q => by
        simp [Task.perform_bind, String.append_assoc]) p
  | download url path =>
    rw [perform, Task.perform_liftM_bind, Command.url]
    cases requestOptions url headers with
    | error failure => rfl
    | ok o => exact Task.perform_act_bind (fun size q => by simp [String.append_assoc]) p
  | extract url rule ruleFile strictRule pretty =>
    rw [perform, Task.perform_liftM_bind, Command.url]
    cases requestOptions url headers with
    | error failure => rfl
    | ok o =>
      -- Only here there is a rule between the options and the work.
      refine (perform_rule_bind readFile url rule ruleFile strictRule pretty _ p).trans ?_
      dsimp only
      cases (Command.extract url rule ruleFile strictRule pretty).rule? readFile with
      | error failure => rfl
      | ok rule =>
        exact Task.perform_act_bind (fun result q => by simp [String.append_assoc]) p

/-! ## The ways in which a run ends -/

/-- What comes of a run. -/
inductive Ends (environment : Config.Environment) (readFile : FileReader) (i : Invocation)
    (s : Session) : Outcome → Prop
  | misconfigured {e : Error} (hconfig : Crawler.ofConfig (.ofEnvironment environment) = .error e) :
    Ends environment readFile i s ⟨.error (.crawl e), "", s⟩
  | badOptions {c : Crawler} {failure : Failure}
    (hconfig : Crawler.ofConfig (.ofEnvironment environment) = .ok c)
    (hoptions : requestOptions i.command.url i.headers = .error failure) :
    Ends environment readFile i s ⟨.error failure, "", s⟩
  | badRule {c : Crawler} {o : Options} {failure : Failure}
    (hconfig : Crawler.ofConfig (.ofEnvironment environment) = .ok c)
    (hoptions : requestOptions i.command.url i.headers = .ok o)
    (hrule : i.command.rule? readFile = .error failure) :
    Ends environment readFile i s ⟨.error failure, "", s⟩
  | failed {c : Crawler} {o : Options} {rule : Option Rule} {e : Error} {t : Session}
    (hconfig : Crawler.ofConfig (.ofEnvironment environment) = .ok c)
    (hoptions : requestOptions i.command.url i.headers = .ok o)
    (hrule : i.command.rule? readFile = .ok rule)
    (hwork : (i.command.work c o rule).perform s = (.error e, t)) :
    Ends environment readFile i s ⟨.error (.crawl e), "", t⟩
  | done {c : Crawler} {o : Options} {rule : Option Rule} {text : String} {t : Session}
    (hconfig : Crawler.ofConfig (.ofEnvironment environment) = .ok c)
    (hoptions : requestOptions i.command.url i.headers = .ok o)
    (hrule : i.command.rule? readFile = .ok rule)
    (hwork : (i.command.work c o rule).perform s = (.ok text, t)) :
    Ends environment readFile i s ⟨.ok (), text, t⟩

/-- A run ends in one of these ways. -/
theorem runWith_ends (environment : Config.Environment) (readFile : FileReader) (i : Invocation)
    (s : Session) : Ends environment readFile i s (runWith environment readFile i s) := by
  rw [runWith]
  cases hconfig : Crawler.ofConfig (.ofEnvironment environment) with
  | error e => exact .misconfigured hconfig
  | ok c =>
    simp only [perform_eq]
    cases hoptions : requestOptions i.command.url i.headers with
    | error failure => exact .badOptions hconfig hoptions
    | ok o =>
      cases hrule : i.command.rule? readFile with
      | error failure => exact .badRule hconfig hoptions hrule
      | ok rule =>
        rcases hwork : (i.command.work c o rule).perform s with ⟨e | text, t⟩
        · simp only [hwork]
          exact .failed hconfig hoptions hrule hwork
        · simp only [hwork, String.empty_append]
          exact .done hconfig hoptions hrule hwork

/-! ## The rule that is given -/

namespace Command

/-- The text of a rule is given with a command, or it stands in the file that is given. -/
inductive GivesText (s : Session) : Command → String → Prop
  | inline {url text : String} {ruleFile : Option String} {strictRule pretty : Bool} :
    GivesText s (.extract url (some text) ruleFile strictRule pretty) text
  | file {url path text : String} {strictRule pretty : Bool} (hread : fileReader s path = .ok text) :
    GivesText s (.extract url none (some path) strictRule pretty) text

/-- A command applies the rule that is given with it; without one it writes out the page. -/
inductive Applies (s : Session) : Command → Rule → Prop
  | page {url : String} {strictRule pretty : Bool} :
    Applies s (.extract url none none strictRule pretty) .html
  | given {command : Command} {text : String} {r : Rule} (htext : command.GivesText s text)
    (hrule : Rule.read text = .ok r) : Applies s command r

variable {s : Session} {command : Command} {text : String} {given : Option Rule}

theorem GivesText.rule?_eq (h : command.GivesText s text) :
    command.rule? (fileReader s) = (readRule (some text)).bind fun rule =>
      if command.checksRule then (checkRule rule).map fun () => rule else .ok rule := by
  cases h with
  | inline => rfl
  | file hread =>
    rw [rule?, ruleText, hread]
    rfl

/-- Where a text is given, the rule is the one that it spells, and it has been looked at if this was asked
for. -/
theorem GivesText.rule?_ok (h : command.GivesText s text)
    (hrule : command.rule? (fileReader s) = .ok given) :
    ∃ r, Rule.read text = .ok r ∧ given = some r
      ∧ (command.checksRule = true → r.fault? = none) := by
  rw [h.rule?_eq, readRule] at hrule
  cases hread : Rule.read text with
  | error e =>
    rw [hread] at hrule
    cases hrule
  | ok r =>
    refine ⟨r, rfl, ?_⟩
    rw [hread] at hrule
    change (if command.checksRule then (checkRule (some r)).map fun () => some r else .ok (some r))
      = .ok given at hrule
    cases hchecks : command.checksRule with
    | false =>
      simp only [hchecks, Bool.false_eq_true, if_false] at hrule
      cases hrule
      exact ⟨rfl, fun htrue => absurd htrue (by decide)⟩
    | true =>
      simp only [hchecks, if_true, checkRule, Option.bind_some] at hrule
      cases hfault : r.fault? with
      | none =>
        simp only [hfault] at hrule
        cases hrule
        exact ⟨rfl, fun _ => rfl⟩
      | some fault =>
        simp only [hfault] at hrule
        cases hrule

/-- The rule that a command has been given is the one that it applies. -/
theorem applies_of_rule? {url : String} {rule ruleFile : Option String} {strictRule pretty : Bool}
    (hrule : (extract url rule ruleFile strictRule pretty).rule? (fileReader s) = .ok given) :
    (extract url rule ruleFile strictRule pretty).Applies s (given.getD .html) := by
  -- A text in the command goes before a file.
  cases rule with
  | some text =>
    have htext : GivesText s (extract url (some text) ruleFile strictRule pretty) text := .inline
    obtain ⟨r, hread, rfl, -⟩ := htext.rule?_ok hrule
    exact .given htext hread
  | none =>
    cases ruleFile with
    | some path =>
      cases hfile : fileReader s path with
      | error fault =>
        rw [rule?, ruleText, hfile] at hrule
        cases hrule
      | ok text =>
        have htext : GivesText s (extract url none (some path) strictRule pretty) text := .file hfile
        obtain ⟨r, hread, rfl, -⟩ := htext.rule?_ok hrule
        exact .given htext hread
    | none =>
      have hgiven : given = none := by
        cases strictRule <;> cases hrule <;> rfl
      rw [hgiven]
      exact .page

end Command

/-! ## What is wrong from the beginning -/

/-- Something that a run is given is wrong, whatever a server would answer: the configuration, a header
argument, the rule, or the request. -/
inductive Wrong (environment : Config.Environment) (s : Session) : Invocation → Prop
  | config {i : Invocation} {e : Error}
    (hconfig : Crawler.ofConfig (.ofEnvironment environment) = .error e) : Wrong environment s i
  | header {i : Invocation} {argument : String} (hmem : argument ∈ i.headers)
    (hcolon : ':' ∉ argument.toList) : Wrong environment s i
  | ruleFile {headers : List String} {url path : String} {strictRule pretty : Bool} {fault : FileFault}
    (hread : fileReader s path = .error fault) :
    Wrong environment s ⟨headers, .extract url none (some path) strictRule pretty⟩
  | ruleText {i : Invocation} {text : String} {e : Json.ReadError}
    (htext : i.command.GivesText s text) (hread : Rule.read text = .error e) : Wrong environment s i
  | strictRule {i : Invocation} {text : String} {r : Rule} (htext : i.command.GivesText s text)
    (hread : Rule.read text = .ok r) (hchecks : i.command.checksRule = true)
    (hfault : r.fault? ≠ none) : Wrong environment s i
  | request {i : Invocation} {o : Options}
    (hoptions : requestOptions i.command.url i.headers = .ok o) (hfaulty : o.Faulty) :
    Wrong environment s i

/-- With options that something is wrong with, whatever a command does fails at once. -/
theorem Command.work_of_faulty (c : Crawler) {o : Options} (h : o.Faulty) (rule : Option Rule)
    (command : Command) (s : Session) :
    ∃ e, (command.work c o rule).Gives s (.error e) s.sent s.files := by
  rcases c.exchange_cases o s with ⟨-, e, hexchange, -⟩ | ⟨hsound, -⟩
  · cases command with
    | response url strict =>
      have hgives := c.gives_fetchResponse o s strict
      rw [hexchange] at hgives
      exact ⟨e, hgives.bind_error⟩
    | download url path =>
      cases hpath : Crawler.destination s.directory path with
      | error e' => exact ⟨e', (c.gives_fetchToFile_of_error o path s hpath).bind_error⟩
      | ok whole =>
        obtain ⟨result, files, hends, hgives⟩ := c.fetchToFile_ends o path s hpath
        obtain ⟨rfl, rfl⟩ := hends.of_unanswered (by rw [hexchange])
        rw [hexchange] at hgives
        exact ⟨e, hgives.bind_error⟩
    | extract url given ruleFile strictRule pretty =>
      have hgives := c.gives_fetchAndExtract o s rule
      rw [hexchange] at hgives
      exact ⟨e, hgives.bind_error⟩
  · exact absurd h hsound

/-! ## Clean ends -/

namespace Ends

variable {environment : Config.Environment} {readFile : FileReader} {i : Invocation} {s : Session}
  {outcome : Outcome}

/-- A run that fails has not printed anything. -/
theorem printed_of_failed (h : Ends environment readFile i s outcome) (hcode : outcome.exitCode = 1) :
    outcome.printed = "" := by
  cases h with
  | misconfigured | badOptions | badRule | failed => rfl
  | done => cases hcode

/-- A run that is given something wrong fails and does nothing. -/
theorem untouched_of_wrong (h : Ends environment (fileReader s) i s outcome)
    (hwrong : Wrong environment s i) :
    outcome.exitCode = 1 ∧ outcome.session.sent = s.sent ∧ outcome.session.files = s.files := by
  -- Only what has passed all checks but the last can be wrong once the crawler is at work.
  have hfaulty {c : Crawler} {o : Options} {rule : Option Rule}
      (hconfig : Crawler.ofConfig (.ofEnvironment environment) = .ok c)
      (hoptions : requestOptions i.command.url i.headers = .ok o)
      (hrule : i.command.rule? (fileReader s) = .ok rule) : o.Faulty := by
    cases hwrong with
    | config hconfig' => cases hconfig.symm.trans hconfig'
    | header hmem hcolon => exact absurd (exists_requestOptions_iff.mp ⟨_, hoptions⟩ _ hmem) hcolon
    | ruleFile hread =>
      rw [Command.rule?, CommandLine.ruleText, hread] at hrule
      cases hrule
    | ruleText htext hread =>
      obtain ⟨r, hread', -⟩ := htext.rule?_ok hrule
      cases hread.symm.trans hread'
    | strictRule htext hread hchecks hfault =>
      obtain ⟨r, hread', -, hsound⟩ := htext.rule?_ok hrule
      cases hread.symm.trans hread'
      exact absurd (hsound hchecks) hfault
    | request hoptions' hfaulty =>
      cases hoptions.symm.trans hoptions'
      exact hfaulty
  cases h with
  | misconfigured | badOptions | badRule => exact ⟨rfl, rfl, rfl⟩
  | failed hconfig hoptions hrule hwork =>
    obtain ⟨e, log, hgives⟩ := Command.work_of_faulty _ (hfaulty hconfig hoptions hrule) _ _ s
    cases hgives.symm.trans hwork
    exact ⟨rfl, rfl, rfl⟩
  | done hconfig hoptions hrule hwork =>
    obtain ⟨e, log, hgives⟩ := Command.work_of_faulty _ (hfaulty hconfig hoptions hrule) _ _ s
    cases hgives.symm.trans hwork

/-- A run that extracts and succeeds has printed what the crawler finds, and nothing else. -/
theorem printed_of_extract (h : Ends environment (fileReader s) i s outcome)
    (hcode : outcome.exitCode = 0) {url : String} {rule ruleFile : Option String}
    {strictRule pretty : Bool} (hcommand : i.command = .extract url rule ruleFile strictRule pretty) :
    ∃ c o r value, Crawler.ofConfig (.ofEnvironment environment) = .ok c
      ∧ requestOptions url i.headers = .ok o ∧ i.command.Applies s r
      ∧ ((c.fetchAndExtract o (some r)).perform s).1 = .ok value
      ∧ outcome.printed = (if pretty then value.pretty else value.text) ++ "\n" := by
  cases h with
  | misconfigured | badOptions | badRule | failed => cases hcode
  | @done c o given text t hconfig hoptions hrule hwork =>
    rw [hcommand] at hoptions hrule hwork
    -- Without a rule the crawler applies the one that writes out the page.
    have hdefault : c.fetchAndExtract o given = c.fetchAndExtract o (some (given.getD .html)) := rfl
    rw [Command.work, hdefault, Action.perform_bind] at hwork
    rcases hvalue : (c.fetchAndExtract o (some (given.getD .html))).perform s with ⟨e | value, t'⟩
    · rw [hvalue] at hwork
      cases hwork
    · rw [hvalue] at hwork
      cases hwork
      exact ⟨c, o, _, value, hconfig, hoptions, hcommand ▸ Command.applies_of_rule? hrule,
        by rw [hvalue], rfl⟩

end Ends

/-- A run that fails has printed nothing. If anything that it is given is wrong, it fails, and it has neither
sent a request nor touched a file, whatever else is wrong and whatever a server would answer. If it extracts
and does not fail, it has printed the value that the crawler finds on the page with the rule that is given,
or with the one that writes out the page, and a line end behind it. -/
theorem run_fails_cleanly (environment : Config.Environment) (i : Invocation) (s : Session) :
    let outcome := run environment i s
    (outcome.exitCode = 1 → outcome.printed = "")
    ∧ (Wrong environment s i → outcome.exitCode = 1 ∧ outcome.session.sent = s.sent
        ∧ outcome.session.files = s.files)
    ∧ (∀ url rule ruleFile strictRule pretty,
        i.command = .extract url rule ruleFile strictRule pretty → outcome.exitCode = 0 →
        ∃ c o r value, Crawler.ofConfig (.ofEnvironment environment) = .ok c
          ∧ requestOptions url i.headers = .ok o ∧ i.command.Applies s r
          ∧ ((c.fetchAndExtract o (some r)).perform s).1 = .ok value
          ∧ outcome.printed = (if pretty then value.pretty else value.text) ++ "\n") := by
  have hends := runWith_ends environment (fileReader s) i s
  exact ⟨hends.printed_of_failed, hends.untouched_of_wrong,
    fun url rule ruleFile strictRule pretty hcommand hcode =>
      hends.printed_of_extract hcode hcommand⟩

/-- A server would answer both of these command lines with an empty page. The first one names no address, has
a header argument without a colon and a rule file that is not there, and nothing is sent; the second one
prints the markup that an empty page is read as. -/
theorem run_fails_cleanly_of_three_faults :
    let environment : Config.Environment := fun _ => none
    let s : Session :=
      { server := fun _ => .response 200 [] ⟨[], none⟩
        files := ⟨[(["page"], [0, 0])], []⟩
        directory := "/" }
    let broken : Invocation := ⟨["nocolon"], .extract " " none (some "rule") false false⟩
    let sound : Invocation := ⟨[], .extract "http://[::1]/" none none true true⟩
    let c : Crawler := ⟨{}, Config.fault?_default⟩
    (read ["extract", " ", "--rule-file", "rule", "-H", "nocolon"] = .ok broken
      ∧ (run environment broken s).exitCode = 1 ∧ (run environment broken s).printed = ""
      ∧ (run environment broken s).session.sent = []
      ∧ (run environment broken s).session.files = s.files)
    ∧ read ["extract", "http://[::1]/", "--strict-rule", "--pretty"] = .ok sound
      ∧ (run environment sound s).exitCode = 0
      ∧ ((c.fetchAndExtract Crawler.Loopback.options (some .html)).perform s).1
        = .ok (.str "<html><head></head><body></body></html>")
      ∧ (run environment sound s).printed = "\x22<html><head></head><body></body></html>\x22\n" := by
  intro environment s broken sound c
  obtain ⟨hprinted, hwrong, -⟩ := run_fails_cleanly environment broken s
  obtain ⟨-, -, hextract⟩ := run_fails_cleanly environment sound s
  obtain ⟨hcode, hsent, hfiles⟩ := hwrong (.header (List.mem_singleton_self _) (by decide))
  have hconfig : Crawler.ofConfig (.ofEnvironment environment) = .ok c :=
    Crawler.ofConfig_of_sound Config.fault?_default
  have hanswer : (c.exchange Crawler.Loopback.options s).2
      = .ok ⟨Crawler.Loopback.url, 200, [], ⟨[], none⟩⟩ :=
    (Crawler.answers_iff ..).mp (Crawler.Loopback.answers rfl rfl)
  have hsound : (run environment sound s).exitCode = 0 := by
    have hwork := c.gives_fetchAndExtract Crawler.Loopback.options s none
    rw [hanswer, Crawler.settle_of_ok true rfl rfl] at hwork
    obtain ⟨log, hwork⟩ := hwork
    have hrule : sound.command.rule? (fileReader s) = .ok none := rfl
    have hoptions : requestOptions sound.command.url sound.headers = .ok Crawler.Loopback.options := rfl
    simp only [Outcome.exitCode, run, runWith, hconfig, perform_eq, hrule, hoptions]
    simp only [sound, Command.work, Action.perform_bind, hwork]
    rfl
  have hmarkup : ((c.fetchAndExtract Crawler.Loopback.options (some .html)).perform s).1
      = .ok (.str "<html><head></head><body></body></html>") := by
    rw [(c.gives_fetchAndExtract ..).result_eq, hanswer, Crawler.settle_of_ok true rfl rfl]
    have hextract : c.extract [] (some Crawler.Loopback.url) .html
        = .str "<html><head></head><body></body></html>" := by decide +kernel
    exact congrArg Except.ok hextract
  obtain ⟨c', o, r, value, hc, ho, hr, hvalue, hprinted'⟩ := hextract _ _ _ _ _ rfl hsound
  cases hconfig.symm.trans hc
  cases ho
  cases hr with
  | page =>
    cases hmarkup.symm.trans hvalue
    exact ⟨⟨by rfl, hcode, hprinted hcode, hsent, hfiles⟩, by rfl, hsound, hmarkup,
      hprinted'.trans (by decide)⟩
  | given htext => cases htext

end Gleaner.CommandLine
