/-
# Writing TOML values

A text is written in the first of these forms that can show it: between
quotes, if nothing in it needs escaping; between apostrophes; between triple
quotes; between triple apostrophes. A text that none of them can show is
escaped between quotes, or between triple quotes when it has several lines. A
text over several lines begins on a line of its own. Doubles are written
without an exponent.

Key definitions: `TextTraits`, `writeText`, `writeFloat`.
-/
import PointerShare.Decimal.Style

namespace PointerShare
namespace Toml

/-- What decides how a text can be written. -/
structure TextTraits where
  hasControl : Bool
  hasBackslash : Bool
  hasNewline : Bool
  /-- The most apostrophes in a row. -/
  apostrophes : Nat
  /-- The most quotes in a row. -/
  quotes : Nat
  deriving DecidableEq, Repr

/-- The length of the longest run of `q`, of which `current` have just been seen. -/
def longestRun (q : Char) : Nat → List Char → Nat
  | current, [] => current
  | current, c :: rest =>
    if c = q then longestRun q (current + 1) rest else max current (longestRun q 0 rest)

/-- A control character other than the tab and the line feed. -/
def needsEscape (c : Char) : Bool :=
  (c.toNat < 0x20 && c != '\t' && c != '\n') || c.toNat == 0x7f

def TextTraits.of (cs : List Char) : TextTraits :=
  ⟨cs.any needsEscape, cs.contains '\\', cs.contains '\n', longestRun '\'' 0 cs,
    longestRun '"' 0 cs⟩

/-- The ways to write a text. -/
inductive TextForm where
  | basic
  | literal
  | basicLines
  | literalLines
  deriving DecidableEq, Repr

/-- The form in which a text is written. -/
def TextTraits.form (t : TextTraits) : TextForm :=
  if !t.hasControl && !t.hasBackslash && t.quotes == 0 && !t.hasNewline then .basic
  else if !t.hasControl && t.apostrophes == 0 && !t.hasNewline then .literal
  else if !t.hasControl && !t.hasBackslash && t.quotes ≤ 2 then .basicLines
  else if !t.hasControl && t.apostrophes ≤ 2 then .literalLines
  else if t.hasNewline then .basicLines
  else .basic

def upperHexDigit (n : Nat) : Char :=
  if n < 10 then Char.ofNat ('0'.toNat + n) else Char.ofNat ('A'.toNat + (n - 10))

/-- A character that always has to be escaped, or a tab. -/
def escapeControl (c : Char) : List Char :=
  if c = '\x08' then ['\\', 'b']
  else if c = '\t' then ['\\', 't']
  else if c = '\x0c' then ['\\', 'f']
  else if c = '\r' then ['\\', 'r']
  else ['\\', 'u', '0', '0', upperHexDigit (c.toNat / 16 % 16), upperHexDigit (c.toNat % 16)]

/-- The characters of a text between quotes: `allowed` quotes in a row may stand unescaped, of
which `run` have just been written; line feeds stand as they are if `lines`. -/
def escapeBasic (lines : Bool) (allowed : Nat) : Nat → List Char → List Char
  | _, [] => []
  | run, c :: rest =>
    if c = '"' then
      if allowed ≤ run then '\\' :: '"' :: escapeBasic lines allowed 0 rest
      else '"' :: escapeBasic lines allowed (run + 1) rest
    else if c = '\\' then '\\' :: '\\' :: escapeBasic lines allowed 0 rest
    else if c = '\n' then
      (if lines then ['\n'] else ['\\', 'n']) ++ escapeBasic lines allowed 0 rest
    else if c = '\t' || needsEscape c then escapeControl c ++ escapeBasic lines allowed 0 rest
    else c :: escapeBasic lines allowed 0 rest

/-- A text with its quotes. -/
def writeText (s : String) : String :=
  let cs := s.toList
  let t := TextTraits.of cs
  let first := if t.hasNewline then "\n" else ""
  match t.form with
  | .basic => "\"" ++ String.ofList (escapeBasic false 0 0 cs) ++ "\""
  | .literal => "'" ++ s ++ "'"
  | .basicLines =>
    "\"\"\"" ++ first ++ String.ofList (escapeBasic true 2 0 cs) ++ "\"\"\""
  | .literalLines => "'''" ++ first ++ s ++ "'''"

/-- Every magnitude is written positionally; of two decimals as near, the greater is taken. -/
def floatStyle : Decimal.Style := ⟨.up, none, none⟩

/-- The double with the given bits. What is no number is written without its sign. -/
def writeFloat (bits : UInt64) : String :=
  let magnitude := bits.toNat % Nat.pow 2 63
  if 0x7ff0000000000000 < magnitude then "nan"
  else if magnitude = 0x7ff0000000000000 then
    (if Decimal.isNegative bits then "-" else "") ++ "inf"
  else floatStyle.write bits

end Toml
end PointerShare
