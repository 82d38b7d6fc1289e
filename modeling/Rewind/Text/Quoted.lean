import Rewind.Text.Decimal
import Rewind.Text.Visible

/-!
Quoted text: a file name in double quotes inside a message.

Quotes and backslashes get a backslash, the common control characters a letter, and every other
hidden character its code point in braces, so a name can not break the line it is reported on.
-/

namespace Rewind.Text

/-- The quoted form of one character. -/
def quotedChar (c : Char) : List Char :=
  if c = '"' then ['\\', '"']
  else if c = '\\' then ['\\', '\\']
  else if c = '\n' then ['\\', 'n']
  else if c = '\t' then ['\\', 't']
  else if c = '\r' then ['\\', 'r']
  else if c.toNat = 0 then ['\\', '0']
  else if isVisible c then [c]
  else ['\\', 'u', '\x7b'] ++ Decimal.hexOfNat c.toNat ++ ['\x7d']

/-- A text in double quotes, everything unprintable escaped. -/
def quoted (text : String) : String :=
  String.ofList ('"' :: (text.toList.flatMap quotedChar ++ ['"']))

end Rewind.Text
