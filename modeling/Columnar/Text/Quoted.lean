import Columnar.Text.Unprintable
import Columnar.Text.ExtendingMarks

/-!
# Quoted text

Text in messages stands between double quotes.  The quote, the backslash and
the four common controls have short escapes; every other character that would
not show as a mark of its own is written as its code point in hexadecimal.
-/

namespace Columnar
namespace Text

/--
Shows as a mark of its own: printable, and not attached to the character before
it.
-/
def isVisible (c : Char) : Bool :=
  if c.toNat < 0x7f then decide (0x20 ≤ c.toNat)
  else !unprintable.contains c && !extendingMarks.contains c

def escape (c : Char) : List Char :=
  if c = '"' then ['\\', '"']
  else if c = '\\' then ['\\', '\\']
  else if c = '\n' then ['\\', 'n']
  else if c = '\r' then ['\\', 'r']
  else if c = '\t' then ['\\', 't']
  else if c.toNat = 0 then ['\\', '0']
  else if isVisible c then [c]
  else '\\' :: 'u' :: '\x7b' :: (Nat.toDigits 16 c.toNat ++ ['\x7d'])

def quoted (text : String) : String :=
  String.ofList ('"' :: (text.toList.flatMap escape ++ ['"']))

end Text
end Columnar
