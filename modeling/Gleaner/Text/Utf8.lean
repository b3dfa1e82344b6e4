set_option autoImplicit false

/-! # Bytes and the text they encode

Bodies and files are bytes; rules and pages are text. Text is taken from bytes in two ways: strictly,
where one bad byte refuses the whole, and leniently, where every maximal broken sequence becomes one
U+FFFD. Both are folds of the same step, so they agree wherever the strict one answers. -/

namespace Gleaner

/-- The content of a body or a file. -/
abbrev Bytes := List UInt8

namespace Utf8

/-- A byte that continues a sequence. -/
def isContinuation (b : UInt8) : Bool := 0x80 ≤ b && b ≤ 0xBF

/-- The payload of a continuation byte placed behind the bits read so far. -/
def extend (high : Nat) (b : UInt8) : Nat := high * 64 + (b.toNat - 0x80)

/-- How many continuation bytes a lead byte asks for, and the range the first of them must lie in;
none for a byte that leads nothing. The ranges shut out overlong forms, surrogates and code points
beyond the last plane. -/
def lead? (b : UInt8) : Option (Nat × UInt8 × UInt8) :=
  if b < 0xC2 then none
  else if b ≤ 0xDF then some (1, 0x80, 0xBF)
  else if b == 0xE0 then some (2, 0xA0, 0xBF)
  else if b == 0xED then some (2, 0x80, 0x9F)
  else if b ≤ 0xEF then some (2, 0x80, 0xBF)
  else if b == 0xF0 then some (3, 0x90, 0xBF)
  else if b ≤ 0xF3 then some (3, 0x80, 0xBF)
  else if b == 0xF4 then some (3, 0x80, 0x8F)
  else none

/-- The bits that a lead byte contributes. -/
def leadBits (b : UInt8) : Nat :=
  if b ≤ 0xDF then b.toNat - 0xC0 else if b ≤ 0xEF then b.toNat - 0xE0 else b.toNat - 0xF0

/-- Reads the character that starts with `b`. The answer is the character, if the sequence is whole,
and the number of bytes of `rest` that belong to the sequence or to the longest valid beginning of
it. -/
def step (b : UInt8) (rest : Bytes) : Option Char × Nat :=
  if b < 0x80 then (some (Char.ofNat b.toNat), 0)
  else match lead? b with
    | none => (none, 0)
    | some (count, low, high) =>
      match rest with
      | [] => (none, 0)
      | b₁ :: rest₁ =>
        if b₁ < low || high < b₁ then (none, 0)
        else
          let n₁ := extend (leadBits b) b₁
          if count == 1 then (some (Char.ofNat n₁), 1)
          else match rest₁ with
            | [] => (none, 1)
            | b₂ :: rest₂ =>
              if !isContinuation b₂ then (none, 1)
              else
                let n₂ := extend n₁ b₂
                if count == 2 then (some (Char.ofNat n₂), 2)
                else match rest₂ with
                  | [] => (none, 2)
                  | b₃ :: _ =>
                    if !isContinuation b₃ then (none, 2)
                    else (some (Char.ofNat (extend n₂ b₃)), 3)

/-- The characters of the bytes; a broken sequence reads as none. -/
def scan : Bytes → List (Option Char)
  | [] => []
  | b :: rest =>
    let (c, used) := step b rest
    c :: scan (rest.drop used)
termination_by bytes => bytes.length
decreasing_by simp only [List.length_drop, List.length_cons]; omega

/-- The text of the bytes, with U+FFFD for every broken sequence. -/
def decodeLossy (bytes : Bytes) : String :=
  String.ofList ((scan bytes).map (·.getD '\ufffd'))

/-- The text of the bytes, if they are well formed throughout. -/
def decode? (bytes : Bytes) : Option String :=
  ((scan bytes).mapM id).map String.ofList

/-- The encoding of one character. -/
def encodeChar (c : Char) : Bytes := String.utf8EncodeChar c

/-- The encoding of a text. -/
def encode (s : String) : Bytes := s.toList.flatMap encodeChar

/-- Bytes as pairs of lower-case hexadecimal digits. -/
def toHex (bytes : Bytes) : String :=
  let digit (n : Nat) : Char := (Nat.digitChar n)
  String.ofList (bytes.flatMap fun b => [digit (b.toNat / 16), digit (b.toNat % 16)])

end Utf8

end Gleaner
