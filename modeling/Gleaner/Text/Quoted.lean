import Gleaner.Unicode.Visibility

set_option autoImplicit false

/-! # Quoted text in messages

A message that repeats a text puts it between double quotes, where a reader can tell every character: a
quote and a backslash stand behind a backslash, and what does not show is spelled out. -/

namespace Gleaner.Text.Quoted

/-- One character between the quotes. -/
def encodeChar (c : Char) : List Char :=
  if c == '\x22' then ['\\', '\x22']
  else if c == '\\' then ['\\', '\\']
  else if c == '\x00' then ['\\', '0']
  else if c == '\t' then ['\\', 't']
  else if c == '\n' then ['\\', 'n']
  else if c == '\r' then ['\\', 'r']
  else if Unicode.Visibility.isHidden c then
    ['\\', 'u', '\x7b'] ++ Text.hex 1 c.toNat ++ ['\x7d']
  else [c]

/-- A text between quotes. -/
def encode (s : String) : String :=
  String.ofList ('\x22' :: (s.toList.flatMap encodeChar ++ ['\x22']))

end Gleaner.Text.Quoted
