import Phrasemill.Text.Printable

/-!
# Quoted text

How a text is shown inside a message: between double quotes, on one line and in visible characters.
Quotes, backslashes and four common controls have short escapes; any other character without a
shape of its own is written as its code point in hexadecimal.
-/

namespace Phrasemill.Text

/-- Whether the character has a shape of its own. -/
def isVisible (c : Char) : Bool :=
  !Charset.combining.contains c && !Charset.unprintable.contains c

/-- A code point in lower-case hexadecimal, without leading zeros. -/
def codePoint (c : Char) : List Char :=
  ['\\', 'u', '\x7b'] ++ Nat.toDigits 16 c.toNat ++ ['\x7d']

/-- How one character is shown between quotes. -/
def escaped (c : Char) : List Char :=
  if c = '"' then ['\\', '"']
  else if c = '\\' then ['\\', '\\']
  else if c = '\n' then ['\\', 'n']
  else if c = '\r' then ['\\', 'r']
  else if c = '\t' then ['\\', 't']
  else if c = '\x00' then ['\\', '0']
  else if isVisible c then [c]
  else codePoint c

def quoted (s : String) : String :=
  String.ofList ('"' :: s.toList.flatMap escaped ++ ['"'])

end Phrasemill.Text
