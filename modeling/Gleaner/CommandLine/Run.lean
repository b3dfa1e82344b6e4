import Gleaner.CommandLine.Arguments
import Gleaner.CommandLine.LogFilter
import Gleaner.Crawler
import Gleaner.Rule.Fault
import Gleaner.Rule.Written

set_option autoImplicit false

/-! # Running a command

A command prints its result only when all of it is there, so a run that fails has printed nothing. What is
given is looked at in a fixed order, and before anything is sent: the configuration that the environment
makes, the header fields, the rule, and then the request. -/

namespace Gleaner.CommandLine

/-! ## Failures -/

/-- Why a command has no result. -/
inductive Failure where
  | crawl (error : Error)
  /-- A header field without a colon. -/
  | header (argument : String)
  /-- The file of a rule cannot be read. -/
  | ruleFile (path : String) (fault : FileFault)
  deriving DecidableEq

namespace Failure

/-- The wording of a failure. -/
def message : Failure → String
  | crawl error => error.message
  | header argument =>
    "header must look like 'Name: value', got " ++ Text.Quoted.encode argument
  | ruleFile path _ => "reading rule file " ++ path

/-- What is behind a failure, from the outermost cause to the innermost. -/
def causes : Failure → List String
  | crawl error => error.causes
  | header _ => []
  | ruleFile _ fault => [fault.message]

/-- A number at the start of a line, with blanks before it up to a width of five. -/
def numbered (n : Nat) : String :=
  let digits := (toString n).toList
  String.ofList (List.replicate (5 - digits.length) ' ' ++ digits)

/-- The causes as lines; they are numbered if there are several. -/
def causeLines : List String → List String
  | [cause] => ["    " ++ cause]
  | causes => causes.zipIdx.map fun (cause, n) => numbered n ++ ": " ++ cause

/-- A failure and its causes, as the program reports them. -/
def report (f : Failure) : String :=
  let lines := match f.causes with
    | [] => []
    | causes => ["", "Caused by:"] ++ causeLines causes
  String.intercalate "\n" (("Error: " ++ f.message) :: lines)

end Failure

/-! ## What the commands are given -/

/-- The options of a request for an address, with header fields that are written as a name and a value with
a colon between them. -/
def requestOptions (url : String) (headers : List String) : Except Failure Options :=
  headers.foldlM (fun o argument =>
    match Text.cut? ':' argument.toList with
    | some (name, value) =>
      .ok (o.withHeader (String.ofList (Text.trim name)) (String.ofList (Text.trim value)))
    | none => .error (.header argument)) (Options.get url)

/-- How files are read. -/
abbrev FileReader := String → Except FileFault String

/-- The text of a rule: given as such, or read from a file. -/
def ruleText (readFile : FileReader) (rule ruleFile : Option String) :
    Except Failure (Option String) :=
  match rule, ruleFile with
  | some text, _ => .ok (some text)
  | none, some path => ((readFile path).mapError (.ruleFile path)).map some
  | none, none => .ok none

/-- The rule that a text spells, if there is a text. -/
def readRule (text : Option String) : Except Failure (Option Rule) :=
  match text with
  | some text => ((Rule.read text).mapError fun e => .crawl (.ofText e)).map some
  | none => .ok none

/-- A rule without faults, or none at all. -/
def checkRule (rule : Option Rule) : Except Failure Unit :=
  match rule.bind (·.fault?) with
  | some fault => .error (.crawl (.invalidRule fault.path fault.reason))
  | none => .ok ()

/-! ## The commands -/

/-- What a command works in. -/
structure State where
  session : Session
  /-- What has been printed. -/
  printed : String := ""

/-- A part of a command. -/
abbrev Task (α : Type) := ExceptT Failure (StateM State) α

namespace Task

/-- Does a part of a command: the result, and the state behind it. -/
def perform {α : Type} (task : Task α) (p : State) : Except Failure α × State :=
  (ExceptT.run task).run p

/-- Does an action in the session. -/
def act {α : Type} (action : Action α) : Task α := do
  let p ← get
  let (result, session) := action.perform p.session
  set { p with session }
  match result with
  | .ok a => pure a
  | .error e => throw (.crawl e)

/-- Prints a line. -/
def print (line : String) : Task Unit :=
  modify fun p => { p with printed := p.printed ++ line ++ "\n" }

end Task

/-- Does what an invocation asks for. -/
def perform (crawler : Crawler) (readFile : FileReader) (i : Invocation) : Task Unit := do
  match i.command with
  | .response url strict =>
    let o ← requestOptions url i.headers
    let response ← Task.act (crawler.fetchResponse o strict)
    Task.print (toString response.status ++ " " ++ response.statusText)
    Task.print response.text
  | .download url path =>
    let o ← requestOptions url i.headers
    let size ← Task.act (crawler.fetchToFile o path)
    Task.print (toString size)
  | .extract url rule ruleFile strictRule pretty =>
    let o ← requestOptions url i.headers
    let rule ← readRule (← ruleText readFile rule ruleFile)
    if strictRule then checkRule rule
    let result ← Task.act (crawler.fetchAndExtract o rule)
    Task.print (if pretty then result.pretty else result.text)

/-- What came of a run. -/
structure Outcome where
  /-- Why the run failed, if it did. -/
  ended : Except Failure Unit
  printed : String
  session : Session

namespace Outcome

/-- The code that the program ends with. -/
def exitCode (outcome : Outcome) : UInt32 :=
  match outcome.ended with
  | .ok () => 0
  | .error _ => 1

/-- What was printed, or why the run failed. -/
def result (outcome : Outcome) : Except Failure String := outcome.ended.map fun () => outcome.printed

end Outcome

/-- Runs what an invocation asks for, with the configuration that the environment makes. -/
def runWith (environment : Config.Environment) (readFile : FileReader) (i : Invocation) (s : Session) :
    Outcome :=
  match Crawler.ofConfig (Config.ofEnvironment environment) with
  | .error e => ⟨.error (.crawl e), "", s⟩
  | .ok crawler =>
    let (ended, p) := (perform crawler readFile i).perform { session := s }
    ⟨ended, p.printed, p.session⟩

/-- How the files of a session are read. -/
def fileReader (s : Session) : FileReader := fun path =>
  s.files.readText (FileTree.absolute s.directory path)

/-- Runs what an invocation asks for; the file of a rule is one of the session. -/
def run (environment : Config.Environment) (i : Invocation) (s : Session) : Outcome :=
  runWith environment (fileReader s) i s

end Gleaner.CommandLine
