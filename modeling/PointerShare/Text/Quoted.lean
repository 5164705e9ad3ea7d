/-
# Quoted texts

A text between double quotes, in which quotes, backslashes and whatever cannot
be seen by itself are escaped: the usual whitespace by a letter, zero by a
digit, the rest by its code point in braces.

Key definitions: `escapeChar`, `quoted`.
-/
import PointerShare.Text.Unprintable

namespace PointerShare
namespace Text

/-- A character inside quotes. -/
def escapeChar (c : Char) : List Char :=
  if c = '"' then ['\\', '"']
  else if c = '\\' then ['\\', '\\']
  else if c = '\t' then ['\\', 't']
  else if c = '\n' then ['\\', 'n']
  else if c = '\r' then ['\\', 'r']
  else if c = '\x00' then ['\\', '0']
  else if isUnprintable c then
    ['\\', 'u', '\x7b'] ++ Nat.toDigits 16 c.toNat ++ ['\x7d']
  else [c]

/-- The text in quotes. -/
def quoted (s : String) : String :=
  String.ofList ('"' :: s.toList.flatMap escapeChar ++ ['"'])

end Text
end PointerShare
