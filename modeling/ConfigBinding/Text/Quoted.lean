import ConfigBinding.Text.Character

/-!
# Quoted text

A text in double quotes, as generated source and messages show it: a quote and a backslash follow a
backslash, line feed, carriage return, tab and the null character have their letters, and a
character without a glyph of its own is written by its code point in hexadecimal.
-/

namespace ConfigBinding.Text

/-- The digits of a number in base sixteen, small letters. -/
def hexadecimal (n : Nat) : List Char := Nat.toDigits 16 n

def quotedChar (c : Char) : List Char :=
  if c == '\x00' then ['\\', '0']
  else if c == '\t' then ['\\', 't']
  else if c == '\r' then ['\\', 'r']
  else if c == '\n' then ['\\', 'n']
  else if c == '\x22' then ['\\', '\x22']
  else if c == '\\' then ['\\', '\\']
  else if isUnprintable c then ['\\', 'u', '\x7b'] ++ hexadecimal c.toNat ++ ['\x7d']
  else [c]

def quoted (s : String) : String :=
  String.ofList ('\x22' :: s.toList.flatMap quotedChar ++ ['\x22'])

end ConfigBinding.Text
