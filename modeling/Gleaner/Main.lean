import Gleaner.CommandLine.Run

set_option autoImplicit false

/-! # The program

The program looks up its arguments, its environment and the file of a rule, and leaves everything else to
`CommandLine.runWith`. It has no connection to a network of its own: each of its requests ends like one that
does not reach a server, so nothing is ever downloaded. -/

namespace Gleaner.Main

open CommandLine

/-- Why the system could not read a file. -/
def fileFault : IO.Error → FileFault
  | .noFileOrDirectory _ code _ | .permissionDenied _ code _ | .inappropriateType _ code _
  | .invalidArgument _ code _ | .resourceExhausted _ code _ | .noSuchThing _ code _
  | .otherError code _ | .hardwareFault code _ => .system code.toNat
  | _ => .system SystemCode.failedTransfer

/-- The text of the file at a path. -/
def readFile (path : String) : IO (Except FileFault String) := do
  try
    let content ← IO.FS.readBinFile path
    match Utf8.decode? content.toList with
    | some text => return .ok text
    | none => return .error .notText
  catch e => return .error (fileFault e)

/-- How the file of a rule is read, if a command names one. -/
def ruleReader (command : Command) : IO FileReader := do
  match command with
  | .extract _ _ (some path) _ _ =>
    let content ← readFile path
    return fun _ => content
  | _ => return fun _ => .error (.system SystemCode.noSuchFile)

/-- The settings in the environment. -/
def environment : IO Config.Environment := do
  let values ← Config.variableNames.mapM fun name => do return (name, ← IO.getEnv name)
  return fun name => (List.lookup name values).join

/-- Runs an invocation, prints what came of it and answers the exit code. -/
def runInvocation (i : Invocation) : IO UInt32 := do
  let directory ← IO.currentDir
  let s : Session := { server := .unreachable, files := ⟨[], []⟩, directory := directory.toString }
  let outcome := runWith (← environment) (← ruleReader i.command) i s
  let filter := LogFilter.ofVariable (← IO.getEnv "RUST_LOG")
  for entry in outcome.session.log.filter filter.shows do
    IO.eprintln entry.line
  IO.print outcome.printed
  match outcome.ended with
  | .ok () => pure ()
  | .error failure => IO.eprintln failure.report
  return outcome.exitCode

end Gleaner.Main

/-- Reads the command line and does what it asks for. -/
def main (words : List String) : IO UInt32 := do
  match Gleaner.CommandLine.read words with
  | .ok i => Gleaner.Main.runInvocation i
  | .error .help => do
    IO.print Gleaner.CommandLine.usage
    return 0
  | .error .usage => do
    IO.eprint Gleaner.CommandLine.usage
    return 2
