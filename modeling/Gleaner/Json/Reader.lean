import Gleaner.Json.Basic
import Gleaner.Text.Utf8

set_option autoImplicit false

/-! # Reading JSON text

The reader goes over the bytes of a text once and never back. It answers a value or the first fault
with its place; a place is a line and the number of bytes of that line up to and including the one at
fault. Arrays and objects may be nested `nestingLimit` deep, no deeper.

A number without fraction and exponent is an integer if the machine range holds it. Every other
number is read in two roundings: the digits to the nearest binary64 number, and its product with (or
quotient by) the binary64 number nearest to the power of ten. Digits that no longer fit into 64 bits
are dropped and only counted. -/

namespace Gleaner.Json

/-- How deep arrays and objects may be nested. -/
def nestingLimit : Nat := 127

/-! ## Faults -/

/-- What can be wrong with a JSON text. -/
inductive Fault where
  | endInValue | endInString | endInArray | endInObject
  | expectedValue | expectedWord | expectedColon | expectedItemEnd | expectedMemberEnd
  | keyNotText | trailingComma | trailingText
  | badNumber | numberTooLarge
  | badEscape | loneSurrogate | unfinishedSurrogate | controlCharacter | badEncoding
  | tooDeep
  deriving DecidableEq, Repr

/-- The wording of a fault. -/
def Fault.message : Fault → String
  | endInValue => "EOF while parsing a value"
  | endInString => "EOF while parsing a string"
  | endInArray => "EOF while parsing a list"
  | endInObject => "EOF while parsing an object"
  | expectedValue => "expected value"
  | expectedWord => "expected ident"
  | expectedColon => "expected `:`"
  | expectedItemEnd => "expected `,` or `]`"
  | expectedMemberEnd => "expected `,` or `\x7d`"
  | keyNotText => "key must be a string"
  | trailingComma => "trailing comma"
  | trailingText => "trailing characters"
  | badNumber => "invalid number"
  | numberTooLarge => "number out of range"
  | badEscape => "invalid escape"
  | loneSurrogate => "lone leading surrogate in hex escape"
  | unfinishedSurrogate => "unexpected end of hex escape"
  | controlCharacter => "control character (\\u0000-\\u001F) found while parsing a string"
  | badEncoding => "invalid unicode code point"
  | tooDeep => "recursion limit exceeded"

/-- A fault and where it was noticed. -/
structure ReadError where
  fault : Fault
  line : Nat
  column : Nat
  deriving DecidableEq, Repr

/-- The fault in words, with its place. -/
def ReadError.message (e : ReadError) : String :=
  e.fault.message ++ " at line " ++ toString e.line ++ " column " ++ toString e.column

/-! ## The place in the text -/

/-- What is left to read, and the place reached. -/
structure Cursor where
  rest : Bytes
  line : Nat
  column : Nat

namespace Cursor

/-- The start of a text. -/
def start (bytes : Bytes) : Cursor := ⟨bytes, 1, 0⟩

/-- Takes one byte. -/
def next? (c : Cursor) : Option (UInt8 × Cursor) :=
  match c.rest with
  | [] => none
  | b :: rest => some (b, if b == 10 then ⟨rest, c.line + 1, 0⟩ else ⟨rest, c.line, c.column + 1⟩)

/-- Behind the next byte, or at the end. -/
def skip (c : Cursor) : Cursor := ((c.next?).map (·.2)).getD c

/-- A fault of what was read last. -/
def fail (c : Cursor) (fault : Fault) : ReadError := ⟨fault, c.line, c.column⟩

/-- A fault of what comes next. -/
def failNext (c : Cursor) (fault : Fault) : ReadError := c.skip.fail fault

/-- Behind the blanks that JSON allows between its parts. -/
def skipBlanks (c : Cursor) : Cursor := go c.rest c.line c.column
where
  /-- Counts lines and columns along the way. -/
  go : Bytes → Nat → Nat → Cursor
    | [], line, column => ⟨[], line, column⟩
    | b :: rest, line, column =>
      if b == 10 then go rest (line + 1) 0
      else if b == 32 || b == 9 || b == 13 then go rest line (column + 1)
      else ⟨b :: rest, line, column⟩

end Cursor

/-! ## Words and numbers -/

/-- Reads the rest of one of the three words. -/
def readWord (word : Bytes) (value : Json) (c : Cursor) : Except ReadError (Json × Cursor) :=
  match word with
  | [] => .ok (value, c)
  | expected :: more =>
    match c.next? with
    | none => .error (c.fail .endInValue)
    | some (b, c') => if b == expected then readWord more value c' else .error (c'.fail .expectedWord)

/-- The value of a decimal digit. -/
def digit? (b : UInt8) : Option Nat := if 48 ≤ b && b ≤ 57 then some (b.toNat - 48) else none

/-- A digit comes next. -/
def Cursor.atDigit (c : Cursor) : Bool := (c.rest.head?.bind digit?).isSome

/-- A given byte comes next. -/
def Cursor.isAt (c : Cursor) (b : UInt8) : Bool := c.rest.head? == some b

/-- The mark of an exponent comes next. -/
def Cursor.atExponent (c : Cursor) : Bool := c.isAt 101 || c.isAt 69

/-- Takes digits into a number as long as it stays within `limit`. -/
def takeDigits (limit : Nat) (n : Nat) (c : Cursor) : Nat × Nat × Cursor :=
  go c.rest n 0 c.column
where
  /-- Counts the digits taken. -/
  go : Bytes → Nat → Nat → Nat → Nat × Nat × Cursor
    | [], n, count, column => (n, count, ⟨[], c.line, column⟩)
    | b :: rest, n, count, column =>
      match digit? b with
      | none => (n, count, ⟨b :: rest, c.line, column⟩)
      | some d =>
        if limit < n * 10 + d then (n, count, ⟨b :: rest, c.line, column⟩)
        else go rest (n * 10 + d) (count + 1) (column + 1)

/-- Passes over digits and counts them. -/
def dropDigits (c : Cursor) : Nat × Cursor :=
  let run := c.rest.takeWhile fun b => (digit? b).isSome
  (run.length, ⟨c.rest.drop run.length, c.line, c.column + run.length⟩)

/-- The greatest significand. -/
def significandLimit : Nat := 0xFFFFFFFFFFFFFFFF

/-- The largest power of ten that is a finite binary64 number. -/
def powerLimit : Nat := 308

/-- The binary64 number nearest to a power of ten that has one. -/
def powerOfTen (k : Nat) : Binary64 :=
  (Binary64.ofDecimal? false 1 k).getD (Binary64.zero false)

/-- Divides by a power of ten, in steps of the largest one. -/
def divideByPower (x : Binary64) (k : Nat) : Binary64 :=
  let small (x : Binary64) (k : Nat) : Binary64 := (x.div? (powerOfTen k)).getD x
  if k ≤ powerLimit then small x k
  else
    let x' := small x powerLimit
    -- Two divisions by the largest power leave nothing of any significand.
    if k - powerLimit ≤ powerLimit then small x' (k - powerLimit)
    else small (small x' powerLimit) powerLimit

/-- The number made of a significand and a power of ten. -/
def scaledNumber (negative : Bool) (significand : Nat) (exponent : Int) (c : Cursor) :
    Except ReadError (Json × Cursor) :=
  let x := (Binary64.ofRatio? negative significand 1).getD (Binary64.zero negative)
  if exponent < 0 then .ok (num (.float (divideByPower x exponent.natAbs)), c)
  else if exponent ≤ powerLimit then
    match x.mul? (powerOfTen exponent.natAbs) with
    | some y => .ok (num (.float y), c)
    | none => .error (c.fail .numberTooLarge)
  else if x.isZero then .ok (num (.float x), c)
  else .error (c.fail .numberTooLarge)

/-- Reads an exponent, from its mark on. -/
def readExponent (negative : Bool) (significand : Nat) (exponent : Int) (c : Cursor) :
    Except ReadError (Json × Cursor) :=
  let c := c.skip
  let (below, c) :=
    if c.isAt 43 then (false, c.skip) else if c.isAt 45 then (true, c.skip) else (false, c)
  match c.next? with
  | none => .error (c.fail .endInValue)
  | some (b, c') =>
    match digit? b with
    | none => .error (c'.fail .badNumber)
    | some d =>
      let (n, _, c'') := takeDigits 0x7FFFFFFF d c'
      if c''.atDigit then
        -- The exponent is beyond all bounds.
        if significand ≠ 0 ∧ !below then .error (c''.skip.fail .numberTooLarge)
        else .ok (num (.float (Binary64.zero negative)), (dropDigits c'').2)
      else scaledNumber negative significand (if below then exponent - n else exponent + n) c''

/-- Reads a fraction, from its point on. -/
def readFraction (negative : Bool) (significand : Nat) (exponent : Int) (c : Cursor) :
    Except ReadError (Json × Cursor) :=
  let (significand', count, c') := takeDigits significandLimit significand c.skip
  if c'.atDigit then
    -- The significand is full; what follows does not count.
    let c'' := (dropDigits c').2
    if c''.atExponent then readExponent negative significand' (exponent - count) c''
    else scaledNumber negative significand' (exponent - count) c''
  else if count = 0 then
    .error (c'.failNext (if c'.rest.isEmpty then .endInValue else .badNumber))
  else if c'.atExponent then readExponent negative significand' (exponent - count) c'
  else scaledNumber negative significand' (exponent - count) c'

/-- The integer, if it is in range; minus zero is not an integer. -/
def integer (negative : Bool) (n : Nat) : Json :=
  let asFloat := num (.float ((Binary64.ofRatio? negative n 1).getD (Binary64.zero negative)))
  if negative && n == 0 then asFloat
  else (ofInt? (if negative then -n else n)).getD asFloat

/-- Reads a number, from behind its sign on. -/
def readNumber (negative : Bool) (c : Cursor) : Except ReadError (Json × Cursor) :=
  match c.next? with
  | none => .error (c.fail .endInValue)
  | some (b, c') =>
    match digit? b with
    | none => .error (c'.fail .badNumber)
    | some 0 =>
      if c'.atDigit then .error (c'.failNext .badNumber) else behind 0 0 c'
    | some d =>
      let (n, _, c'') := takeDigits significandLimit d c'
      let (dropped, c''') := dropDigits c''
      behind n dropped c'''
where
  /-- Goes on behind the digits before the point, `dropped` of which did not fit. -/
  behind (n dropped : Nat) (c : Cursor) : Except ReadError (Json × Cursor) :=
    if c.isAt 46 then readFraction negative n dropped c
    else if c.atExponent then readExponent negative n dropped c
    else if dropped = 0 then .ok (integer negative n, c)
    else scaledNumber negative n dropped c

/-! ## Texts -/

/-- Reads four hexadecimal digits. -/
def readHex (c : Cursor) : Except ReadError (Nat × Cursor) :=
  match c.rest with
  | a :: b :: d :: e :: rest =>
    let c' : Cursor := ⟨rest, c.line, c.column + 4⟩
    match [a, b, d, e].mapM hexValue? with
    | some digits => .ok (digits.foldl (fun n d => n * 16 + d) 0, c')
    | none =>
      .error ((((c.skip).skip).skip).skip.fail .badEscape)
  | _ => .error (endOf c |>.fail .endInString)
where
  /-- The value of a hexadecimal digit. -/
  hexValue? (b : UInt8) : Option Nat :=
    if 48 ≤ b && b ≤ 57 then some (b.toNat - 48)
    else if 97 ≤ b && b ≤ 102 then some (b.toNat - 87)
    else if 65 ≤ b && b ≤ 70 then some (b.toNat - 55)
    else none
  /-- The end of the text, at most three bytes away. -/
  endOf (c : Cursor) : Cursor := c.skip.skip.skip

/-- Reads the code point of a hexadecimal escape, from behind its mark on; two escapes form one
code point when the first is a leading surrogate. -/
def readCodePoint (c : Cursor) : Except ReadError (Nat × Cursor) := do
  let (n, c) ← readHex c
  if 0xDC00 ≤ n ∧ n ≤ 0xDFFF then .error (c.fail .loneSurrogate)
  else if n < 0xD800 ∨ 0xDBFF < n then .ok (n, c)
  else
    let c ← mark 92 c
    let c ← mark 117 c
    let (low, c) ← readHex c
    if low < 0xDC00 ∨ 0xDFFF < low then .error (c.fail .loneSurrogate)
    else .ok ((n - 0xD800) * 0x400 + (low - 0xDC00) + 0x10000, c)
where
  /-- Passes over one byte that a trailing surrogate needs. -/
  mark (expected : UInt8) (c : Cursor) : Except ReadError Cursor :=
    match c.next? with
    | none => .error (c.fail .endInString)
    | some (b, c') => if b == expected then .ok c' else .error (c'.fail .unfinishedSurrogate)

/-- Reads an escape, from behind the backslash on. -/
def readEscape (c : Cursor) : Except ReadError (Bytes × Cursor) :=
  match c.next? with
  | none => .error (c.fail .endInString)
  | some (b, c') =>
    match b.toNat with
    | 34 => .ok ([34], c')
    | 92 => .ok ([92], c')
    | 47 => .ok ([47], c')
    | 98 => .ok ([8], c')
    | 102 => .ok ([12], c')
    | 110 => .ok ([10], c')
    | 114 => .ok ([13], c')
    | 116 => .ok ([9], c')
    | 117 => (readCodePoint c').map fun (n, c'') => (Utf8.encodeChar (Char.ofNat n), c'')
    | _ => .error (c'.fail .badEscape)

/-- Reads a text, from behind its opening quote on. `taken` holds its bytes in reverse. -/
def readText : Nat → Bytes → Cursor → Except ReadError (String × Cursor)
  | 0, _, c => .error (c.fail .endInString)
  | fuel + 1, taken, c =>
    match c.next? with
    | none => .error (c.fail .endInString)
    | some (b, c') =>
      if b == 34 then
        match Utf8.decode? taken.reverse with
        | some s => .ok (s, c')
        | none => .error (c.fail .badEncoding)
      else if b == 92 then do
        let (bytes, c'') ← readEscape c'
        readText fuel (bytes.reverse ++ taken) c''
      else if b < 32 then .error (c'.fail .controlCharacter)
      else readText fuel (b :: taken) c'

/-- Reads a text that starts at the cursor. -/
def readQuoted (c : Cursor) : Except ReadError (String × Cursor) := readText (c.rest.length + 1) [] c.skip

/-! ## Values -/

/-- Reads what comes between two members: whether there is another one. -/
def readSeparator (close : UInt8) (isFirst : Bool) (endFault closeFault : Fault)
    (c : Cursor) : Except ReadError (Bool × Cursor) :=
  let c := c.skipBlanks
  match c.rest.head? with
  | none => .error (c.failNext endFault)
  | some b =>
    if b == close then .ok (false, c.skip)
    else if isFirst then .ok (true, c)
    else if b == 44 then
      let c := c.skip.skipBlanks
      match c.rest.head? with
      | none => .error (c.failNext .endInValue)
      | some b => if b == close then .error (c.failNext .trailingComma) else .ok (true, c)
    else .error (c.failNext closeFault)

/-- Reads the name of a member and the colon behind it. -/
def readKey (c : Cursor) : Except ReadError (String × Cursor) := do
  if c.isAt 34 then
    let (key, c) ← readQuoted c
    let c := c.skipBlanks
    match c.rest.head? with
    | none => .error (c.failNext .endInObject)
    | some b => if b == 58 then .ok (key, c.skip) else .error (c.failNext .expectedColon)
  else .error (c.failNext .keyNotText)

mutual

/-- Reads a value; `depth` more levels of nesting are allowed. Each call takes from the fuel, and a
chain of calls takes a byte at least every second time. -/
def readValue (depth : Nat) : Nat → Cursor → Except ReadError (Json × Cursor)
  | 0, c => .error (c.fail .endInValue)
  | fuel + 1, c =>
    let c := c.skipBlanks
    match c.rest.head? with
    | none => .error (c.failNext .endInValue)
    | some b =>
      match b.toNat with
      | 110 => readWord [117, 108, 108] null c.skip
      | 116 => readWord [114, 117, 101] (bool true) c.skip
      | 102 => readWord [97, 108, 115, 101] (bool false) c.skip
      | 45 => readNumber true c.skip
      | 34 => (readQuoted c).map fun (s, c') => (str s, c')
      | 91 =>
        match depth with
        | 0 => .error (c.failNext .tooDeep)
        | depth + 1 =>
          (readItems depth fuel true c.skip).map fun (items, c') => (arr items, c')
      | 123 =>
        match depth with
        | 0 => .error (c.failNext .tooDeep)
        | depth + 1 =>
          (readMembers depth fuel true c.skip).map fun (members, c') => (obj members, c')
      | _ =>
        if (digit? b).isSome then readNumber false c else .error (c.failNext .expectedValue)

/-- Reads the items of an array and its end. -/
def readItems (depth : Nat) : Nat → Bool → Cursor → Except ReadError (List Json × Cursor)
  | 0, _, c => .error (c.fail .endInArray)
  | fuel + 1, isFirst, c => do
    let (more, c) ← readSeparator 93 isFirst .endInArray .expectedItemEnd c
    if more then
      let (item, c) ← readValue depth fuel c
      let (items, c) ← readItems depth fuel false c
      .ok (item :: items, c)
    else .ok ([], c)

/-- Reads the members of an object and its end. -/
def readMembers (depth : Nat) : Nat → Bool → Cursor → Except ReadError (List (String × Json) × Cursor)
  | 0, _, c => .error (c.fail .endInObject)
  | fuel + 1, isFirst, c => do
    let (more, c) ← readSeparator 125 isFirst .endInObject .expectedMemberEnd c
    if more then
      let (key, c) ← readKey c
      let (value, c) ← readValue depth fuel c
      let (members, c) ← readMembers depth fuel false c
      .ok ((key, value) :: members, c)
    else .ok ([], c)

end

/-! ## Whole texts -/

/-- The value at the start of the bytes, as it is written, and the place behind it. -/
def readAsWritten (bytes : Bytes) : Except ReadError (Json × Cursor) :=
  readValue nestingLimit (2 * bytes.length + 2) (Cursor.start bytes)

/-- Nothing but blanks may follow. -/
def Cursor.finish (c : Cursor) : Except ReadError Unit :=
  let c := c.skipBlanks
  if c.rest.isEmpty then .ok () else .error (c.failNext .trailingText)

/-- The value that the bytes spell, with blanks around it. -/
def readBytes (bytes : Bytes) : Except ReadError Json := do
  let (value, c) ← readAsWritten bytes
  c.finish
  .ok value.arrange

/-- The value that a text spells, with blanks around it. -/
def read (s : String) : Except ReadError Json := readBytes (Utf8.encode s)

end Gleaner.Json
