import DiveLink.Text.Digits
import DiveLink.Text.Hidden

/-!
# Quoted text

Text between quotes, on one line and free of characters that cannot be seen: quotes and
backslashes get a backslash, a few control characters have a letter, and every other character that
is not shown is given by its number.

## Main definitions

* `Quoted.escape` — how one character is written.
* `quoted` — a text between quotes.
-/

namespace DiveLink

namespace Quoted

/-- How a character is written between quotes. -/
def escape (c : Char) : List Char :=
  if c = '\x00' then ['\\', '0']
  else if c = '\t' then ['\\', 't']
  else if c = '\r' then ['\\', 'r']
  else if c = '\n' then ['\\', 'n']
  else if c = '"' then ['\\', '"']
  else if c = '\\' then ['\\', '\\']
  else if isHidden c then ['\\', 'u', '\x7b'] ++ Digits.write 16 c.toNat ++ ['\x7d']
  else [c]

end Quoted

/-- A text between quotes. -/
def quoted (s : String) : String :=
  String.ofList ('"' :: s.toList.flatMap Quoted.escape ++ ['"'])

example : quoted "a\"\tb" = "\"a\\\"\\tb\"" := by decide +kernel

end DiveLink
