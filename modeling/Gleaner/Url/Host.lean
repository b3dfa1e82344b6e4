import Gleaner.Url.Domain
import Gleaner.Url.Percent

set_option autoImplicit false

/-! # Hosts

A host is a name or a number of the internet protocol, version four or six. Which of them a text means
depends on the scheme: hosts of special schemes are domain names, and a name that ends in a number is an
address of version four; in other schemes a host is any text. -/

namespace Gleaner

/-! ## Why an address is none -/

/-- What can be wrong with an address. -/
inductive UrlError where
  | emptyHost
  | invalidDomain
  | invalidPort
  | invalidIpv4
  | invalidIpv6
  | invalidHostCharacter
  | relativeWithoutBase
  | relativeToRootless
  deriving DecidableEq, Repr

/-- The wording of an error. -/
def UrlError.message : UrlError → String
  | emptyHost => "empty host"
  | invalidDomain => "invalid international domain name"
  | invalidPort => "invalid port number"
  | invalidIpv4 => "invalid IPv4 address"
  | invalidIpv6 => "invalid IPv6 address"
  | invalidHostCharacter => "invalid domain character"
  | relativeWithoutBase => "relative URL without a base"
  | relativeToRootless => "relative URL with a cannot-be-a-base base"

/-- Where an address leads. -/
inductive Host where
  /-- A name; the empty one stands for the machine itself. -/
  | name (text : String)
  | ipv4 (address : Nat)
  /-- Eight numbers of sixteen bits. -/
  | ipv6 (pieces : List Nat)
  deriving DecidableEq, Repr

namespace Host

/-! ## Version four -/

/-- A number in base sixteen behind `0x`, in base eight behind `0` and else in base ten. -/
def ipv4Number? (cs : List Char) : Option Nat :=
  let value (base : Nat) (digits : List Char) : Option Nat :=
    (digits.mapM fun c => (Text.hexDigit? c).filter (· < base)).map
      (·.foldl (fun n d => n * base + d) 0)
  match cs with
  | [] => none
  | '0' :: 'x' :: digits | '0' :: 'X' :: digits => value 16 digits
  | '0' :: d :: digits => value 8 (d :: digits)
  | digits => value 10 digits

/-- The last label, or the one before if the last is empty, is a number. -/
def endsInNumber (name : List Char) : Bool :=
  let last := match (Text.pieces '.' name).reverse with
    | [] :: label :: _ => label
    | label :: _ => label
    | [] => []
  (!last.isEmpty && last.all Text.isAsciiDigit) || (ipv4Number? last).isSome

/-- The address that a name with a number at its end stands for. The last number covers all bytes that
the ones before it leave. -/
def ipv4? (name : List Char) : Option Nat := do
  let labels := Text.pieces '.' name
  let labels := if labels.getLast? = some [] then labels.dropLast else labels
  if 4 < labels.length then none
  let numbers ← labels.mapM ipv4Number?
  let last ← numbers.getLast?
  let before := numbers.dropLast
  if before.any (255 < ·) || Nat.pow 256 (4 - before.length) ≤ last then none
  else some (before.foldl (fun n x => n * 256 + x) 0 * Nat.pow 256 (4 - before.length) + last)

/-- Four numbers with dots between them. -/
def ipv4Text (address : Nat) : String :=
  String.intercalate "."
    ([address / 0x1000000, address / 0x10000 % 256, address / 0x100 % 256, address % 256].map toString)

/-! ## Version six -/

/-- One to four hexadecimal digits. -/
def ipv6Piece? (digits : List Char) : Option Nat :=
  if digits.isEmpty || 4 < digits.length then none
  else (digits.mapM Text.hexDigit?).map (·.foldl (fun n d => n * 16 + d) 0)

/-- A number up to 255 without leading zeros. -/
def byte? (digits : List Char) : Option Nat :=
  if digits.isEmpty || 3 < digits.length || !digits.all Text.isAsciiDigit then none
  else
    let n := digits.foldl (fun n c => n * 10 + (c.toNat - '0'.toNat)) 0
    if 255 < n || (1 < digits.length && digits.head? == some '0') then none else some n

/-- The last pieces, which may be written as an address of version four. -/
def ipv6Last? (cs : List Char) : Option (List Nat) :=
  if cs.contains '.' then
    match (Text.pieces '.' cs).mapM byte? with
    | some [a, b, c, d] => some [a * 256 + b, c * 256 + d]
    | _ => none
  else (ipv6Piece? cs).map fun n => [n]

/-- Pieces with colons between them; at the end of the address, the last may be of version four. -/
def ipv6Pieces? (atEnd : Bool) (cs : List Char) : Option (List Nat) :=
  if cs.isEmpty then some []
  else
    let pieces := Text.pieces ':' cs
    do
      let before ← pieces.dropLast.mapM ipv6Piece?
      let last ← pieces.getLast?
      let last ← if atEnd then ipv6Last? last else (ipv6Piece? last).map fun n => [n]
      some (before ++ last)

/-- What stands before and after the first two colons in a row. -/
def cutAtGap? : List Char → Option (List Char × List Char)
  | ':' :: ':' :: rest => some ([], rest)
  | c :: rest => (cutAtGap? rest).map fun (before, after) => (c :: before, after)
  | [] => none

/-- The pieces of an address; two colons in a row stand for one or more pieces that are zero. -/
def ipv6? (cs : List Char) : Option (List Nat) :=
  match cutAtGap? cs with
  | none => (ipv6Pieces? true cs).filter (·.length = 8)
  | some (before, after) => do
    let before ← ipv6Pieces? false before
    let after ← ipv6Pieces? true after
    if 7 < before.length + after.length then none
    else some (before ++ List.replicate (8 - before.length - after.length) 0 ++ after)

/-- The start and the length of the first longest run of zeros. -/
def longestZeros (pieces : List Nat) : Nat × Nat :=
  (List.range pieces.length).foldl
    (fun best start =>
      let run := ((pieces.drop start).takeWhile (· == 0)).length
      if best.2 < run then (start, run) else best)
    (0, 0)

/-- Pieces with colons between them. -/
def ipv6Join (pieces : List Nat) : String :=
  String.intercalate ":" (pieces.map fun n => String.ofList (Text.hex 1 n))

/-- The address with the longest run of zeros left out, if there is more than one. -/
def ipv6Text (pieces : List Nat) : String :=
  let (start, count) := longestZeros pieces
  if count < 2 then ipv6Join pieces
  else ipv6Join (pieces.take start) ++ "::" ++ ipv6Join (pieces.drop (start + count))

/-! ## Reading and writing -/

/-- The host in an address. -/
def text : Host → String
  | name text => text
  | ipv4 address => ipv4Text address
  | ipv6 pieces => "[" ++ ipv6Text pieces ++ "]"

/-- The address in square brackets, for a text that starts with one. -/
def bracketed (cs : List Char) : Except UrlError Host :=
  match cs.getLast? with
  | some ']' =>
    match ipv6? (cs.drop 1).dropLast with
    | some pieces => .ok (ipv6 pieces)
    | none => .error .invalidIpv6
  | _ => .error .invalidIpv6

/-- The host of a special scheme. -/
def readDomain (cs : List Char) : Except UrlError Host :=
  match cs with
  | '[' :: _ => bracketed cs
  | _ =>
    match Domain.ofBytes? (Percent.decode (Utf8.encode (String.ofList cs))) with
    | none => .error .invalidDomain
    | some [] => .error .emptyHost
    | some domain =>
      if endsInNumber domain then
        match ipv4? domain with
        | some address => .ok (ipv4 address)
        | none => .error .invalidIpv4
      else .ok (name (String.ofList domain))

/-- The host of any other scheme. -/
def readPlain (cs : List Char) : Except UrlError Host :=
  match cs with
  | '[' :: _ => bracketed cs
  | _ =>
    if cs.any fun c => "\x00\t\n\r #/:<>?@[\\]^|".contains c then .error .invalidHostCharacter
    else .ok (name (String.ofList (Percent.encode Percent.isControl cs)))

end Host

end Gleaner
