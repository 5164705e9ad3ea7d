/-
# Writing JSON

Values are written without any whitespace. In a text only the quote, the
backslash and control characters are escaped, those without a letter of their
own by four hexadecimal digits; everything else is written as it is. A number's
exponent is written with its sign.

Key definitions: `writeText`, `Value.write`.
-/
import PointerShare.Json.Value

namespace PointerShare
namespace Json

def hexDigit (n : Nat) : Char :=
  if n < 10 then Char.ofNat ('0'.toNat + n) else Char.ofNat ('a'.toNat + (n - 10))

/-- Four hexadecimal digits. -/
def hex4 (n : Nat) : List Char :=
  [hexDigit (n / 4096 % 16), hexDigit (n / 256 % 16), hexDigit (n / 16 % 16), hexDigit (n % 16)]

/-- A character inside quotes. -/
def writeChar (c : Char) : List Char :=
  if c = '"' then ['\\', '"']
  else if c = '\\' then ['\\', '\\']
  else if c = '\x08' then ['\\', 'b']
  else if c = '\x0c' then ['\\', 'f']
  else if c = '\n' then ['\\', 'n']
  else if c = '\r' then ['\\', 'r']
  else if c = '\t' then ['\\', 't']
  else if c.toNat < 0x20 then '\\' :: 'u' :: hex4 c.toNat
  else [c]

def writeGlyph : Glyph → List Char
  | .char c => writeChar c
  | .half u => '\\' :: 'u' :: hex4 u.toNat

/-- A text after its opening quote. -/
def writeText : List Glyph → List Char
  | [] => ['"']
  | g :: rest => writeGlyph g ++ writeText rest

namespace Number

/-- The number as it is written. -/
def write (n : Number) : List Char :=
  (if n.isNegative then ['-'] else []) ++ n.whole ++
    (match n.fraction with
      | none => []
      | some ds => '.' :: ds) ++
    (match n.exponent with
      | none => []
      | some (isNegative, ds) => 'e' :: (if isNegative then '-' else '+') :: ds)

end Number

mutual

def Value.chars : Value → List Char
  | .null => ['n', 'u', 'l', 'l']
  | .bool true => ['t', 'r', 'u', 'e']
  | .bool false => ['f', 'a', 'l', 's', 'e']
  | .number n => n.write
  | .text t => '"' :: writeText t
  | .array items => '[' :: itemChars items
  | .object fields => '{' :: fieldChars fields

/-- The items of an array and its closing bracket. -/
def itemChars : List Value → List Char
  | [] => [']']
  | [v] => v.chars ++ [']']
  | v :: w :: rest => v.chars ++ ',' :: itemChars (w :: rest)

/-- The fields of an object and its closing brace. -/
def fieldChars : List (List Glyph × Value) → List Char
  | [] => ['}']
  | [(name, v)] => '"' :: writeText name ++ ':' :: v.chars ++ ['}']
  | (name, v) :: f :: rest => '"' :: writeText name ++ ':' :: v.chars ++ ',' :: fieldChars (f :: rest)

end

/-- A value in one line. -/
def Value.write (v : Value) : String := String.ofList v.chars

end Json
end PointerShare
