import Gleaner.Text.Blank

set_option autoImplicit false

/-! # Command lines

A command line names a command and gives it values: by place, behind the name of an option, or by a switch
that is there or not. Header fields may be given to every command, any number of times, before or behind
its name; everything else at most once. Behind two dashes every word is a value by place.

The words are read from left to right, and the first one that does not fit decides: it may ask for help, or
the command line is wrong. -/

namespace Gleaner.CommandLine

/-! ## What can be asked -/

/-- What the program is to do. -/
inductive Command where
  /-- Print the status and the body of a response. -/
  | response (url : String) (strict : Bool)
  /-- Write the body of a response to a file. -/
  | download (url path : String)
  /-- Apply a rule to a page and print the result. -/
  | extract (url : String) (rule ruleFile : Option String) (strictRule pretty : Bool)
  deriving DecidableEq, Repr

/-- A command and the header fields for it. -/
structure Invocation where
  headers : List String
  command : Command
  deriving DecidableEq, Repr

/-- Why there is nothing to do. -/
inductive Stop where
  | help
  | usage
  deriving DecidableEq, Repr

/-- How the program is called. -/
def usage : String :=
  "Fetch pages and extract data with declarative rules\n\n" ++
    "Usage: rule-crawl [-H 'Name: value']... <COMMAND>\n\nCommands:\n" ++
    "  response <URL> [--strict]\n" ++
    "  download <URL> <PATH>\n" ++
    "  extract <URL> [--rule <RULE> | --rule-file <RULE_FILE>] [--strict-rule] [--pretty]\n"

/-! ## What a command takes -/

/-- What a value is used for. -/
inductive ValueKind where
  | text
  /-- Never empty. -/
  | path
  deriving DecidableEq, Repr

/-- The value can be used so. -/
def ValueKind.accepts : ValueKind → String → Bool
  | text, _ => true
  | path, value => !value.isEmpty

/-- The values and switches of a command. -/
structure Form where
  places : List ValueKind := []
  options : List (String × ValueKind) := []
  switches : List String := []

/-- The option for header fields, which every command has. -/
def headerOption : String := "header"

/-- The names of the commands. -/
def commandNames : List String := ["response", "download", "extract"]

/-- What a command takes. -/
def form : String → Form
  | "response" => { places := [.text], switches := ["strict"] }
  | "download" => { places := [.text, .path] }
  | "extract" =>
    { places := [.text]
      options := [("rule", .text), ("rule-file", .path)]
      switches := ["strict-rule", "pretty"] }
  | _ => {}

/-! ## Words -/

/-- What a word of a command line is. -/
inductive Word where
  | place (value : String)
  | option (name value : String)
  | switch (name : String)
  /-- From here on, all words are values by place. -/
  | dashes
  | help
  | wrong
  deriving DecidableEq, Repr

/-- What a word is, as far as it can be told from the word alone. -/
inductive Lead where
  | whole (word : Word)
  /-- An option whose value is the next word. -/
  | valueFollows (name : String)

/-- The option takes a value. -/
def Form.takesValue (f : Form) (name : String) : Bool :=
  name == headerOption || f.options.any (·.1 == name)

/-- A word behind two dashes: a name, and perhaps a value behind an equals sign. -/
def long (f : Form) (cs : List Char) : Lead :=
  match Text.cut? '=' cs with
  | some (name, value) =>
    let name := String.ofList name
    .whole (if f.takesValue name then .option name (String.ofList value) else .wrong)
  | none =>
    let name := String.ofList cs
    if f.takesValue name then .valueFollows name
    else .whole (if name = "help" then .help else if f.switches.contains name then .switch name else .wrong)

/-- A word behind one dash: a letter, and perhaps its value. -/
def short : List Char → Lead
  | ['H'] => .valueFollows headerOption
  | 'H' :: '=' :: value | 'H' :: value => .whole (.option headerOption (String.ofList value))
  | 'h' :: _ => .whole .help
  | _ => .whole .wrong

/-- What a word is. -/
def lead (f : Form) (word : String) : Lead :=
  match word.toList with
  | '-' :: '-' :: cs => long f cs
  | '-' :: c :: cs => short (c :: cs)
  | _ => .whole (.place word)

/-- The word cannot be the value of the option before it. -/
def looksLikeOption (word : String) : Bool :=
  match word.toList with
  | '-' :: _ :: _ => true
  | _ => false

/-- The words of a command line, each with what is left behind it. -/
def scan (f : Form) : List String → List (Word × List String)
  | [] => []
  | "--" :: rest => (.dashes, rest) :: rest.map fun value => (.place value, [])
  | word :: rest =>
    match lead f word with
    | .whole w => (w, rest) :: scan f rest
    | .valueFollows name =>
      match rest with
      | [] => [(.wrong, [])]
      | value :: rest =>
        if looksLikeOption value then [(.wrong, [])] else (.option name value, rest) :: scan f rest

/-! ## Taking the words -/

/-- What has been read. -/
structure Taken where
  headers : List String := []
  places : List String := []
  options : List (String × String) := []
  switches : List String := []

/-- Takes one more word. -/
def Taken.take (f : Form) (t : Taken) : Word → Except Stop Taken
  | .place value =>
    match f.places[t.places.length]? with
    | some kind =>
      if kind.accepts value then .ok { t with places := t.places ++ [value] } else .error .usage
    | none => .error .usage
  | .option name value =>
    if name = headerOption then .ok { t with headers := t.headers ++ [value] }
    else match f.options.lookup name with
      | some kind =>
        if kind.accepts value && (t.options.lookup name).isNone then
          .ok { t with options := t.options ++ [(name, value)] }
        else .error .usage
      | none => .error .usage
  | .switch name =>
    if t.switches.contains name then .error .usage
    else .ok { t with switches := t.switches ++ [name] }
  | .dashes => .ok t
  | .help => .error .help
  | .wrong => .error .usage

/-- The command that the words behind its name make. -/
def command (name : String) (t : Taken) : Except Stop Command :=
  match name, t.places with
  | "response", [url] => .ok (.response url (t.switches.contains "strict"))
  | "download", [url, path] => .ok (.download url path)
  | "extract", [url] =>
    let rule := t.options.lookup "rule"
    let ruleFile := t.options.lookup "rule-file"
    if rule.isSome && ruleFile.isSome then .error .usage
    else .ok (.extract url rule ruleFile (t.switches.contains "strict-rule") (t.switches.contains "pretty"))
  | _, _ => .error .usage

/-- Reads the words up to the name of a command; the words behind it are left. -/
def readLead : List (Word × List String) → Taken → Except Stop (Taken × String × List String)
  | [], _ | (.dashes, _) :: _, _ => .error .usage
  | (.place name, rest) :: _, t => .ok (t, name, rest)
  | (w, _) :: more, t => do readLead more (← t.take {} w)

/-- Reads a command line. Header fields behind the name of the command replace those before it. -/
def read (words : List String) : Except Stop Invocation := do
  let (before, name, rest) ← readLead (scan {} words) {}
  if name = "help" then
    if rest.isEmpty || (rest.length == 1 && (commandNames ++ ["help"]).contains (rest.headD "")) then
      .error .help
    else .error .usage
  else if commandNames.contains name then
    let f := form name
    let t ← (scan f rest).foldlM (fun t (w, _) => t.take f w) {}
    .ok
      { headers := if t.headers.isEmpty then before.headers else t.headers
        command := ← command name t }
  else .error .usage

end Gleaner.CommandLine
