import Gleaner.Error
import Gleaner.Files.Tree
import Gleaner.Http.Exchange

set_option autoImplicit false

/-! # Sessions

A crawler works in a session: there are a server, files and a working directory, and the session keeps
what has been sent and what has been reported. An action may fail at any point; what it has done to the
session by then stays done. -/

namespace Gleaner

/-! ## Reports -/

/-- How much a report matters, most first. -/
inductive LogLevel where
  | error | warn | info | debug | trace
  deriving DecidableEq, Repr

namespace LogLevel

/-- The place of a level, counted from one. -/
def rank : LogLevel → Nat
  | error => 1
  | warn => 2
  | info => 3
  | debug => 4
  | trace => 5

/-- A level as it stands at the start of a report. -/
def text : LogLevel → String
  | error => "ERROR"
  | warn => "WARN"
  | info => "INFO"
  | debug => "DEBUG"
  | trace => "TRACE"

end LogLevel

/-- A report. -/
structure LogEntry where
  level : LogLevel
  /-- The part of the program that reports. -/
  source : String
  text : String
  deriving DecidableEq, Repr

/-- A report as a line. -/
def LogEntry.line (e : LogEntry) : String := e.level.text ++ " " ++ e.source ++ ": " ++ e.text

/-! ## Sessions and actions -/

/-- What a crawler works in. -/
structure Session where
  server : Http.Server
  files : FileTree
  /-- The working directory, as a path from the root. -/
  directory : String
  /-- The requests that have reached the server. -/
  sent : List Http.Request := []
  log : List LogEntry := []

/-- Something to be done in a session. -/
abbrev Action (α : Type) := ExceptT Error (StateM Session) α

namespace Action

/-- Does an action: the result, and the session behind it. -/
def perform {α : Type} (action : Action α) (s : Session) : Except Error α × Session :=
  (ExceptT.run action).run s

/-- Reports something. -/
def report (level : LogLevel) (source text : String) : Action Unit :=
  modify fun s => { s with log := s.log ++ [⟨level, source, text⟩] }

/-- Sends a request and follows redirects up to a limit. -/
def send (limit : Nat) (request : Http.Request) : Action Http.Received := do
  let s ← get
  let (sent, outcome) := s.server.exchange limit request s.sent
  set { s with sent }
  match outcome with
  | .ok received => pure received
  | .error fault => throw (.http fault)

/-- Creates the file at a path, or empties the one that is there, and answers the names that lead to it. -/
def create (path : String) : Action (List String) := do
  let s ← get
  match s.files.target path with
  | .ok names =>
    set { s with files := s.files.put names [] }
    pure names
  | .error fault => throw (.io fault)

/-- Writes behind what a file holds. -/
def append (names : List String) (bytes : Bytes) : Action Unit :=
  modify fun s => { s with files := s.files.append names bytes }

/-- The size of the file at a path. -/
def size (path : String) : Action Nat := do
  match (← get).files.read path with
  | .ok content => pure content.length
  | .error fault => throw (.io fault)

end Action

end Gleaner
