/-
Text between double quotes, made safe to print on one line.

Quotes and backslashes take a backslash, line ends, tabs and NUL have escapes of their own, and a
character that does not show on its own is written as its code point.
-/
import PageScript.Text.Visible

namespace PageScript.Text

def quotedChar (c : Char) : List Char :=
  if c = '\x00' then ['\\', '0']
  else if c = '\t' then ['\\', 't']
  else if c = '\r' then ['\\', 'r']
  else if c = '\n' then ['\\', 'n']
  else if c = '\\' ∨ c = '"' then ['\\', c]
  else if isVisible c then [c]
  else '\\' :: 'u' :: '\x7b' :: Nat.toDigits 16 c.toNat ++ ['\x7d']

def quoted (s : String) : String :=
  String.ofList ('"' :: s.toList.flatMap quotedChar ++ ['"'])

end PageScript.Text
