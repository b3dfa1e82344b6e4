import Gleaner.Url.Basic

set_option autoImplicit false

/-! # Reading addresses

An address is read from left to right. Blanks and controls around it, and tabs and line breaks within
it, do not count. What has no scheme, or the scheme of the base and no host, is relative to the base. -/

namespace Gleaner.Url

/-! ## Characters -/

/-- The characters that count. -/
def significant (s : String) : List Char :=
  (Text.strip (·.toNat ≤ 0x20) s.toList).filter fun c => c != '\t' && c != '\n' && c != '\r'

/-- The character parts the segments of a path. -/
def isSlash (special : Bool) (c : Char) : Bool := c == '/' || (special && c == '\\')

/-- The character ends a path. -/
def endsPath (c : Char) : Bool := c == '?' || c == '#'

/-- The character ends the part of an address that names the host. -/
def endsAuthority (special : Bool) (c : Char) : Bool := isSlash special c || endsPath c

/-- The scheme in lower case and what is behind its colon. -/
def scheme? (cs : List Char) : Option (String × List Char) :=
  match cs with
  | [] => none
  | c :: _ =>
    let name := cs.takeWhile fun c => Text.isAsciiAlpha c || Text.isAsciiDigit c || "+-.".contains c
    match cs.drop name.length with
    | ':' :: rest =>
      if Text.isAsciiAlpha c then some (String.ofList (name.map Char.toLower), rest) else none
    | _ => none

/-! ## Query and fragment -/

/-- Reads the query and the fragment. -/
def readEnd (special : Bool) (cs : List Char) : Option String × Option String :=
  let fragmentOf (cs : List Char) : String := String.ofList (Percent.encode Percent.inFragment cs)
  match cs with
  | '?' :: rest =>
    let query := rest.takeWhile (· != '#')
    let encoded :=
      Percent.encode (if special then Percent.inSpecialQuery else Percent.inQuery) query
    (some (String.ofList encoded), (rest.drop (query.length + 1)) |> fun behind =>
      if query.length < rest.length then some (fragmentOf behind) else none)
  | '#' :: rest => (none, some (fragmentOf rest))
  | _ => (none, none)

/-- The address with the query and the fragment that come next. -/
def withEnd (u : Url) (cs : List Char) : Url :=
  let (query, fragment) := readEnd (isSpecial u.scheme) cs
  { u with query, fragment }

/-! ## Paths -/

/-- A letter and a colon or a bar, which name a drive. -/
def isDrive (segment : List Char) : Bool :=
  match segment with
  | [letter, mark] => Text.isAsciiAlpha letter && (mark == ':' || mark == '|')
  | _ => false

/-- A drive comes next. -/
def atDrive (cs : List Char) : Bool :=
  isDrive (cs.take 2) && ((cs.drop 2).head?.map fun c => endsAuthority true c).getD true

/-- A segment that stands for the same place. -/
def isHere (segment : List Char) : Bool :=
  [['.'], "%2e".toList].contains (segment.map Char.toLower)

/-- A segment that stands for the place above. -/
def isAbove (segment : List Char) : Bool :=
  ["..".toList, ".%2e".toList, "%2e.".toList, "%2e%2e".toList].contains (segment.map Char.toLower)

/-- Leaves the last segment, unless it names a drive. The segments are in reverse. -/
def goUp : List (List Char) → List (List Char)
  | [] => []
  | last :: rest => if isDrive last then last :: rest else rest

/-- A segment as it is written: encoded, and a drive of a file with a colon. -/
def segmentText (isFile : Bool) (segment : List Char) : List Char :=
  match segment with
  | [letter, '|'] => if isFile && Text.isAsciiAlpha letter then [letter, ':'] else segment
  | _ => Percent.encode Percent.inPath segment

/-- The segments, in reverse, behind one more that a slash follows. -/
def enter (isFile : Bool) (done : List (List Char)) (segment : List Char) : List (List Char) :=
  if isAbove segment then goUp done
  else if isHere segment then done
  else segmentText isFile segment :: done

/-- The segments, in reverse, behind the last one. -/
def finish (isFile : Bool) (done : List (List Char)) (segment : List Char) : List (List Char) :=
  if isAbove segment then [] :: goUp done
  else if isHere segment then [] :: done
  else segmentText isFile segment :: done

/-- Reads a path, from behind its first slash on, and answers its segments and what is left. `done`
holds the segments so far and `segment` the characters of the one being read, both in reverse. -/
def readSegments (scheme : String) (done : List (List Char)) (segment : List Char) :
    List Char → List (List Char) × List Char
  | [] => ((finish (scheme == "file") done segment.reverse).reverse, [])
  | c :: rest =>
    if endsPath c then ((finish (scheme == "file") done segment.reverse).reverse, c :: rest)
    else if isSlash (isSpecial scheme) c then
      readSegments scheme (enter (scheme == "file") done segment.reverse) [] rest
    else readSegments scheme done (c :: segment) rest

/-- Reads a path from behind its first slash on. The path of a file does not start with empty
segments. -/
def readPath (scheme : String) (done : List (List Char)) (cs : List Char) : Path × List Char :=
  let (segments, rest) := readSegments scheme done [] cs
  let segments :=
    if scheme == "file" then
      match segments.dropWhile (·.isEmpty) with
      | [] => [[]]
      | segments => segments
    else segments
  (.segments (segments.map String.ofList), rest)

/-- Reads the path behind a host. -/
def readPathStart (scheme : String) (cs : List Char) : Path × List Char :=
  match cs with
  | [] => (.segments (if isSpecial scheme then [""] else []), [])
  | c :: rest =>
    if isSlash (isSpecial scheme) c then readPath scheme [] rest
    else if endsPath c && !isSpecial scheme then (.segments [], cs)
    else readPath scheme [] cs

/-- A path starts with a drive. -/
def Path.startsWithDrive : Path → Bool
  | .segments (first :: _) => isDrive first.toList
  | _ => false

/-- The segments of a path, in reverse. -/
def Path.reversed : Path → List (List Char)
  | .segments parts => (parts.map (·.toList)).reverse
  | .rootless _ => []

/-! ## Hosts -/

/-- Splits at the last at sign before the end of the host. -/
def splitUserInfo (special : Bool) (cs : List Char) : Option (List Char × List Char) :=
  let authority := cs.takeWhile fun c => !endsAuthority special c
  let behind := authority.reverse.takeWhile (· != '@')
  if behind.length = authority.length then none
  else
    let count := authority.length - behind.length - 1
    some (cs.take count, cs.drop (count + 1))

/-- Reads the name and the password before the host. -/
def readUserInfo (special : Bool) (cs : List Char) :
    Except UrlError (String × Option String × List Char) :=
  let encoded (part : List Char) : String := String.ofList (Percent.encode Percent.inUserInfo part)
  match splitUserInfo special cs with
  | none => .ok ("", none, cs)
  | some ([], rest) =>
    if (rest.head?.map (endsAuthority special)).getD false then .error .emptyHost
    else .ok ("", none, rest)
  | some (info, rest) =>
    match Text.cut? ':' info with
    | none => .ok (encoded info, none, rest)
    | some (name, []) => .ok (encoded name, none, rest)
    | some (name, password) => .ok (encoded name, some (encoded password), rest)

/-- Splits behind the host. A colon in square brackets belongs to it. -/
def splitHost (special inBrackets : Bool) : List Char → List Char × List Char
  | [] => ([], [])
  | c :: rest =>
    if endsAuthority special c || (c == ':' && !inBrackets) then ([], c :: rest)
    else
      let (host, rest) := splitHost special (c == '[' || (inBrackets && c != ']')) rest
      (c :: host, rest)

/-- The greatest port. -/
def greatestPort : Nat := 65535

/-- Reads the port behind a host; none if it is missing or the default. -/
def readPort (scheme : String) (cs : List Char) : Except UrlError (Option Nat × List Char) :=
  match cs with
  | ':' :: rest =>
    let digits := rest.takeWhile Text.isAsciiDigit
    let behind := rest.drop digits.length
    let port := digits.foldl (fun n c => n * 10 + (c.toNat - '0'.toNat)) 0
    if greatestPort < port || !((behind.head?.map (endsAuthority true)).getD true) then
      .error .invalidPort
    else if digits.isEmpty || defaultPort? scheme = some port then .ok (none, behind)
    else .ok (some port, behind)
  | _ => .ok (none, cs)

/-- Reads what is behind the two slashes that announce a host. -/
def readAuthority (scheme : String) (cs : List Char) : Except UrlError (Authority × List Char) := do
  let special := isSpecial scheme
  let (username, password, rest) ← readUserInfo special cs
  let (hostText, rest) := splitHost special false rest
  let host ←
    if special then
      if hostText.isEmpty then .error .emptyHost else Host.readDomain hostText
    else Host.readPlain hostText
  if host = .name "" && rest.head? = some ':' then .error .emptyHost
  else
    let (port, rest) ← readPort scheme rest
    if host = .name "" && (username != "" || password.isSome) then .error .emptyHost
    else .ok ({ username, password, host, port }, rest)

/-- Reads an address from behind the two slashes that announce a host. -/
def readWithHost (scheme : String) (cs : List Char) : Except UrlError Url := do
  let (authority, rest) ← readAuthority scheme cs
  let (path, rest) := readPathStart scheme rest
  .ok (withEnd { scheme, authority := some authority, path } rest)

/-! ## Relative addresses -/

/-- The base with another fragment. -/
def withFragment (base : Url) (cs : List Char) : Url :=
  { base with fragment := (readEnd true cs).2 }

/-- Drops slashes of either kind and counts them. -/
def countSlashes (cs : List Char) : Nat × List Char :=
  let slashes := cs.takeWhile (isSlash true)
  (slashes.length, cs.drop slashes.length)

/-- Reads what is relative to an address that is no file. -/
def readRelative (base : Url) (cs : List Char) : Except UrlError Url :=
  match cs with
  | [] => .ok { base with fragment := none }
  | '?' :: _ => .ok (withEnd { base with fragment := none } cs)
  | '#' :: _ => .ok (withFragment base cs)
  | c :: rest =>
    if isSlash true c then
      let (count, behind) := countSlashes cs
      if 2 ≤ count then
        readWithHost base.scheme (match cs with
          | '/' :: '/' :: rest => rest
          | _ => behind)
      else
        let (path, rest) := readPath base.scheme [] rest
        .ok (withEnd { base with path } rest)
    else
      let (path, rest) := readPath base.scheme (base.path.reversed.drop 1) cs
      .ok (withEnd { base with path } rest)

/-! ## Files -/

/-- The machine itself. -/
def thisMachine : Authority := { host := .name "" }

/-- Reads a file and its host from behind two slashes. A drive is on this machine. -/
def readFileWithHost (cs : List Char) : Except UrlError Url := do
  let hostText := cs.takeWhile fun c => !endsAuthority true c
  let rest := cs.drop hostText.length
  if hostText.isEmpty || isDrive hostText then
    let (path, rest) := readPath "file" [] cs
    .ok (withEnd { scheme := "file", authority := some thisMachine, path } rest)
  else
    let host ← Host.readDomain hostText
    let (path, rest) := readPathStart "file" rest
    let host := if host = .name "localhost" || path.startsWithDrive then .name "" else host
    .ok (withEnd { scheme := "file", authority := some { host }, path } rest)

/-- The path of a file without its last segment, in reverse. A lone drive stays. -/
def folder (path : Path) : List (List Char) :=
  match path.reversed with
  | [drive] => if isDrive drive then [drive] else []
  | _ :: rest => rest
  | [] => []

/-- Reads a file, relative to another one if there is one. -/
def readFile (base : Option Url) (cs : List Char) : Except UrlError Url :=
  let alone (cs : List Char) : Url :=
    let (path, rest) := readPath "file" [] cs
    withEnd { scheme := "file", authority := some thisMachine, path } rest
  match cs with
  | c :: d :: rest =>
    if isSlash true c && isSlash true d then readFileWithHost rest else other alone base cs
  | _ => other alone base cs
where
  /-- Reads what does not start with two slashes. -/
  other (alone : List Char → Url) (base : Option Url) (cs : List Char) : Except UrlError Url :=
    match base, cs with
    | none, c :: rest => .ok (if isSlash true c then alone rest else alone cs)
    | none, [] => .ok (alone [])
    | some base, [] => .ok { base with fragment := none }
    | some base, '?' :: _ => .ok (withEnd { base with fragment := none } cs)
    | some base, '#' :: _ => .ok (withFragment base cs)
    | some base, c :: rest =>
      if isSlash true c then
        -- The path starts anew on the same drive or the same host.
        if atDrive rest then .ok (alone rest)
        else if base.path.startsWithDrive then
          let (path, rest) := readPath "file" (base.path.reversed.reverse.take 1) rest
          .ok (withEnd { scheme := "file", authority := some thisMachine, path } rest)
        else
          let (path, rest) := readPath "file" [] rest
          .ok (withEnd { base with path } rest)
      else if atDrive cs then .ok (alone cs)
      else
        let (path, rest) := readPath "file" (folder base.path) cs
        .ok (withEnd { base with path } rest)

/-! ## The whole -/

/-- Reads what is behind the scheme. -/
def readBehindScheme (base : Option Url) (scheme : String) (cs : List Char) : Except UrlError Url :=
  if scheme = "file" then readFile (base.filter (·.scheme = "file")) cs
  else if isSpecial scheme then
    let (count, rest) := countSlashes cs
    match base.filter (·.scheme = scheme) with
    | some base => if count < 2 then readRelative base cs else readWithHost scheme rest
    | none => readWithHost scheme rest
  else
    match cs with
    | '/' :: '/' :: rest => readWithHost scheme rest
    | '/' :: rest =>
      let (path, rest) := readPath scheme [] rest
      .ok (withEnd { scheme, authority := none, path } rest)
    | cs =>
      let path := cs.takeWhile fun c => !endsPath c
      .ok (withEnd
        { scheme, authority := none,
          path := .rootless (String.ofList (Percent.encode Percent.isControl path)) }
        (cs.drop path.length))

/-- Reads an address, relative to the base if there is one. -/
def readWith (base : Option Url) (s : String) : Except UrlError Url :=
  let cs := significant s
  match scheme? cs with
  | some (scheme, rest) => readBehindScheme base scheme rest
  | none =>
    match base with
    | none => .error .relativeWithoutBase
    | some base =>
      if cs.head? = some '#' then .ok (withFragment base cs)
      else match base.path with
        | .rootless _ => .error .relativeToRootless
        | .segments _ =>
          if base.scheme = "file" then readFile (some base) cs else readRelative base cs

/-- The address that a text is. -/
def read (s : String) : Except UrlError Url := readWith none s

/-- The address that a text means where the base stands. -/
def join (base : Url) (s : String) : Except UrlError Url := readWith (some base) s

/-- A text as the address that it means where the base stands, or as it is if there is no base or the
text is no address. -/
def resolve (base : Option Url) (raw : String) : String :=
  match base with
  | none => raw
  | some b => match b.join raw with
    | .ok u => u.text
    | .error _ => raw

end Gleaner.Url
