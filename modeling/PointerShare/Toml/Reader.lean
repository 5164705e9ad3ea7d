/-
# Reading TOML

A document is read from front to back: blank lines and comments, headers, and
keys with values. A reader gives what it read and the characters that are
left, or `none` where the text is no TOML. Arrays and inline tables may be
nested less than 80 deep, and a key has fewer than 80 parts.

Key definitions: `readString`, `readNumber`, `readValue`, `readDocument`,
`parse?`.
-/
import PointerShare.Decimal.Reading
import PointerShare.Toml.Document

namespace PointerShare
namespace Toml

/-! ### Blanks, line ends and comments -/

def isBlank (c : Char) : Bool := c == ' ' || c == '\t'

def isDigit (c : Char) : Bool := '0' ≤ c && c ≤ '9'

def skipBlank (cs : List Char) : List Char := cs.dropWhile isBlank

/-- A line end, which is one or two characters. -/
def readNewline : List Char → Option (List Char)
  | '\n' :: rest => some rest
  | '\r' :: '\n' :: rest => some rest
  | _ => none

/-- A character that may stand in a comment or unescaped in a string. -/
def isPlain (c : Char) : Bool := c == '\t' || (0x20 ≤ c.toNat && c.toNat != 0x7f)

/-- What follows a comment on its line; the comment starts at the front. -/
def skipComment : List Char → List Char
  | '#' :: rest => rest.dropWhile isPlain
  | cs => cs

/-- The end of a line: blanks, a comment, and a line end or the end of the text. -/
def readLineEnd (cs : List Char) : Option (List Char) :=
  match skipComment (skipBlank cs) with
  | [] => some []
  | cs => readNewline cs

/-- Skips blanks, comments and line ends between the items of an array. -/
def skipFiller : Nat → List Char → List Char
  | 0, cs => cs
  | n + 1, cs =>
    let cs := skipBlank cs
    match readNewline (skipComment cs) with
    | some rest => skipFiller n rest
    | none => cs

/-! ### Strings -/

def hexValue? (c : Char) : Option Nat :=
  if '0' ≤ c ∧ c ≤ '9' then some (c.toNat - '0'.toNat)
  else if 'a' ≤ c ∧ c ≤ 'f' then some (c.toNat - 'a'.toNat + 10)
  else if 'A' ≤ c ∧ c ≤ 'F' then some (c.toNat - 'A'.toNat + 10)
  else none

/-- The number that `count` hexadecimal digits at the front stand for. -/
def readHex : Nat → Nat → List Char → Option (Nat × List Char)
  | 0, n, cs => some (n, cs)
  | _ + 1, _, [] => none
  | k + 1, n, c :: rest =>
    match hexValue? c with
    | none => none
    | some d => readHex k (n * 16 + d) rest

/-- The character with a code point; surrogates are none. -/
def char? (n : Nat) : Option Char := if h : n.isValidChar then some (Char.ofNatAux n h) else none

/-- An escape sequence after its backslash. -/
def readEscape : List Char → Option (Char × List Char)
  | '"' :: rest => some ('"', rest)
  | '\\' :: rest => some ('\\', rest)
  | 'b' :: rest => some ('\x08', rest)
  | 'f' :: rest => some ('\x0c', rest)
  | 'n' :: rest => some ('\n', rest)
  | 'r' :: rest => some ('\r', rest)
  | 't' :: rest => some ('\t', rest)
  | 'u' :: rest => (readHex 4 0 rest).bind fun p => (char? p.1).map fun c => (c, p.2)
  | 'U' :: rest => (readHex 8 0 rest).bind fun p => (char? p.1).map fun c => (c, p.2)
  | _ => none

/-- A basic string after its opening quote. -/
def readBasic : Nat → List Char → Option (List Char × List Char)
  | 0, _ => none
  | _ + 1, [] => none
  | _ + 1, '"' :: rest => some ([], rest)
  | n + 1, '\\' :: rest =>
    match readEscape rest with
    | none => none
    | some (c, rest) => (readBasic n rest).map fun p => (c :: p.1, p.2)
  | n + 1, c :: rest =>
    if isPlain c then (readBasic n rest).map fun p => (c :: p.1, p.2) else none

/-- A literal string after its opening apostrophe. -/
def readLiteral : List Char → Option (List Char × List Char)
  | [] => none
  | '\'' :: rest => some ([], rest)
  | c :: rest => if isPlain c then (readLiteral rest).map fun p => (c :: p.1, p.2) else none

/-- The line end that a backslash joins lines over, and all blanks and line ends after it. -/
def readJoin (cs : List Char) : Option (List Char) :=
  (readNewline (skipBlank cs)).map fun rest =>
    rest.dropWhile fun c => isBlank c || c == '\n' || c == '\r'

/-- A backslash joins lines only over line ends of the two allowed forms. -/
def hasLoneReturn : List Char → Bool
  | '\r' :: '\n' :: rest => hasLoneReturn rest
  | '\r' :: _ => true
  | _ :: rest => hasLoneReturn rest
  | [] => false

/-- How many quotes of a kind stand at the front. -/
def quoteRun (q : Char) (cs : List Char) : Nat := (cs.takeWhile (· == q)).length

/-- A string over several lines after its opening quotes `q`; `escapes` says whether backslashes
mean something. It ends with three quotes, and up to two more before them belong to it. -/
def readLines (q : Char) (escapes : Bool) : Nat → List Char → Option (List Char × List Char)
  | 0, _ => none
  | _ + 1, [] => none
  | n + 1, c :: rest =>
    let run := quoteRun q (c :: rest)
    if 3 ≤ run then
      let kept := min (run - 3) 2
      some (List.replicate kept q, (c :: rest).drop (kept + 3))
    else if c == '\\' && escapes then
      match readJoin rest with
      | some joined =>
        if hasLoneReturn (rest.take (rest.length - joined.length)) then none
        else readLines q escapes n joined
      | none =>
        match readEscape rest with
        | none => none
        | some (e, rest) => (readLines q escapes n rest).map fun p => (e :: p.1, p.2)
    else
      match readNewline (c :: rest) with
      | some rest => (readLines q escapes n rest).map fun p => ('\n' :: p.1, p.2)
      | none =>
        if isPlain c then (readLines q escapes n rest).map fun p => (c :: p.1, p.2) else none

/-- Skips the line end right after the opening quotes of a string over several lines. -/
def skipFirstNewline (cs : List Char) : List Char := (readNewline cs).getD cs

/-- A string in any of its four forms. -/
def readString (cs : List Char) : Option (List Char × List Char) :=
  match cs with
  | '"' :: '"' :: '"' :: rest => readLines '"' true (cs.length + 1) (skipFirstNewline rest)
  | '"' :: rest => readBasic (cs.length + 1) rest
  | '\'' :: '\'' :: '\'' :: rest => readLines '\'' false (cs.length + 1) (skipFirstNewline rest)
  | '\'' :: rest => readLiteral rest
  | _ => none

/-! ### Numbers -/

/-- Digits with single underscores between them, of which the first may be anything; gives the
digits without underscores. -/
def readDigits (isOk : Char → Bool) (cs : List Char) : Option (List Char × List Char) :=
  match cs with
  | [] => none
  | c :: rest => if isOk c then (go rest).map fun p => (c :: p.1, p.2) else none
where
  /-- The digits after the first. -/
  go : List Char → Option (List Char × List Char)
    | [] => some ([], [])
    | '_' :: d :: rest => if isOk d then (go rest).map fun p => (d :: p.1, p.2) else none
    | c :: rest =>
      if c == '_' then none
      else if isOk c then (go rest).map fun p => (c :: p.1, p.2)
      else some ([], c :: rest)

/-- A sign, and whether it is a minus. -/
def readSign : List Char → Bool × List Char
  | '+' :: rest => (false, rest)
  | '-' :: rest => (true, rest)
  | cs => (false, cs)

/-- A decimal whole number: a zero alone, or digits that do not begin with zero. -/
def readDecimal : List Char → Option (List Char × List Char)
  | '0' :: rest => some (['0'], rest)
  | cs => readDigits isDigit cs

def natOf (base : Nat) (digits : List Char) : Nat :=
  digits.foldl (fun n c => n * base + (hexValue? c).getD 0) 0

/-- A whole number of 64 bits. -/
def int? (i : Int) : Option Node :=
  if -(Nat.pow 2 63 : Int) ≤ i ∧ i < Nat.pow 2 63 then some (.int i) else none

def signed (isNegative : Bool) (n : Nat) : Int := if isNegative then -(n : Int) else n

/-- The double that a decimal reads as. One too large is refused, one too small is infinite. -/
def float? (isNegative : Bool) (digits : List Char) (exponent : Int) : Option Node :=
  let f := Decimal.nearest (natOf 10 digits) exponent
  if isNegative then some (.float (-f).toBits)
  else if f.isInf then none
  else some (.float f.toBits)

/-- An exponent after its letter. -/
def readExponent (cs : List Char) : Option (Int × List Char) :=
  let (isNegative, cs) := readSign cs
  (readDigits isDigit cs).map fun p => (signed isNegative (natOf 10 p.1), p.2)

/-- What follows the whole part of a number: a fraction, an exponent, both or neither. -/
def readRest (isNegative : Bool) (whole : List Char) : List Char → Option (Node × List Char)
  | '.' :: rest =>
    match readDigits isDigit rest with
    | none => none
    | some (fraction, rest) =>
      let places := -(fraction.length : Int)
      match rest with
      | e :: rest' =>
        if e == 'e' || e == 'E' then
          (readExponent rest').bind fun p =>
            (float? isNegative (whole ++ fraction) (p.1 + places)).map fun v => (v, p.2)
        else (float? isNegative (whole ++ fraction) places).map fun v => (v, rest)
      | [] => (float? isNegative (whole ++ fraction) places).map fun v => (v, [])
  | e :: rest =>
    if e == 'e' || e == 'E' then
      (readExponent rest).bind fun p => (float? isNegative whole p.1).map fun v => (v, p.2)
    else (int? (signed isNegative (natOf 10 whole))).map fun v => (v, e :: rest)
  | [] => (int? (signed isNegative (natOf 10 whole))).map fun v => (v, [])

/-- The bits of infinity and of no number. -/
def infinityBits : UInt64 := 0x7ff0000000000000
def nanBits : UInt64 := 0x7ff8000000000000
def signBit : UInt64 := 0x8000000000000000

/-- A number with a sign or without. -/
def readSigned (cs : List Char) : Option (Node × List Char) :=
  let (isNegative, rest) := readSign cs
  let sign := if isNegative then signBit else 0
  match rest with
  | 'i' :: 'n' :: 'f' :: rest => some (.float (infinityBits ||| sign), rest)
  | 'n' :: 'a' :: 'n' :: rest => some (.float (nanBits ||| sign), rest)
  | _ => (readDecimal rest).bind fun p => readRest isNegative p.1 p.2

/-- A whole number in another base, after its sign of base. -/
def readBased (base : Nat) (cs : List Char) : Option (Node × List Char) :=
  let isOk := fun c => (hexValue? c).any (· < base)
  (readDigits isOk cs).bind fun p => (int? (natOf base p.1)).map fun v => (v, p.2)

/-! ### Dates and times -/

/-- A number of two digits between `low` and `high`. -/
def readTwo (low high : Nat) : List Char → Option (Nat × List Char)
  | a :: b :: rest =>
    if isDigit a ∧ isDigit b then
      let n := natOf 10 [a, b]
      if low ≤ n ∧ n ≤ high then some (n, rest) else none
    else none
  | _ => none

def expect (c : Char) : List Char → Option (List Char)
  | d :: rest => if c == d then some rest else none
  | [] => none

def daysIn (year month : Nat) : Nat :=
  if month = 2 then
    if year % 4 = 0 ∧ (year % 100 ≠ 0 ∨ year % 400 = 0) then 29 else 28
  else if month = 4 ∨ month = 6 ∨ month = 9 ∨ month = 11 then 30
  else 31

/-- The year and its dash have been read. -/
def readMonthAndDay (year : Nat) (cs : List Char) : Option (List Char) := do
  let (month, cs) ← readTwo 1 12 cs
  let cs ← expect '-' cs
  let (day, cs) ← readTwo 1 31 cs
  if day ≤ daysIn year month then some cs else none

/-- The hour and its colon have been read. -/
def readMinutes (cs : List Char) : Option (List Char) := do
  let (_, cs) ← readTwo 0 59 cs
  let cs ← expect ':' cs
  let (_, cs) ← readTwo 0 60 cs
  match cs with
  | '.' :: rest =>
    if (rest.takeWhile isDigit).isEmpty then some cs else some (rest.dropWhile isDigit)
  | _ => some cs

/-- An hour and its colon. -/
def readHour (cs : List Char) : Option (List Char) :=
  (readTwo 0 23 cs).bind fun p => expect ':' p.2

/-- An offset from universal time, if there is one. -/
def readOffset : List Char → Option (List Char)
  | 'Z' :: rest => some rest
  | 'z' :: rest => some rest
  | '+' :: rest => (readHour rest).bind fun cs => (readTwo 0 59 cs).map (·.2)
  | '-' :: rest => (readHour rest).bind fun cs => (readTwo 0 59 cs).map (·.2)
  | cs => some cs

/-- A time after a date, if there is one. -/
def readTimeAfterDate (cs : List Char) : Option (List Char) :=
  match cs with
  | c :: rest =>
    if c == 'T' || c == 't' || c == ' ' then
      match readHour rest with
      | none => some cs
      | some rest => (readMinutes rest).bind readOffset
    else some cs
  | [] => some []

/-- A number, a date or a time. What looks like the beginning of a date or a time must be one. -/
def readNumber (cs : List Char) : Option (Node × List Char) :=
  let plain :=
    match cs with
    | '0' :: 'x' :: rest => readBased 16 rest
    | '0' :: 'o' :: rest => readBased 8 rest
    | '0' :: 'b' :: rest => readBased 2 rest
    | _ => readSigned cs
  match cs with
  | a :: b :: c :: d :: '-' :: rest =>
    if [a, b, c, d].all isDigit then
      ((readMonthAndDay (natOf 10 [a, b, c, d]) rest).bind readTimeAfterDate).map
        fun rest => (.dateTime, rest)
    else plain
  | _ =>
    match readHour cs with
    | some rest => (readMinutes rest).map fun rest => (.dateTime, rest)
    | none => plain

/-! ### Keys -/

def isBareKey (c : Char) : Bool :=
  isDigit c || ('a' ≤ c && c ≤ 'z') || ('A' ≤ c && c ≤ 'Z') || c == '-' || c == '_'

/-- One part of a key. -/
def readKeyPart (cs : List Char) : Option (String × List Char) :=
  match cs with
  | '"' :: rest => (readBasic (cs.length + 1) rest).map fun p => (String.ofList p.1, p.2)
  | '\'' :: rest => (readLiteral rest).map fun p => (String.ofList p.1, p.2)
  | _ =>
    if (cs.takeWhile isBareKey).isEmpty then none
    else some (String.ofList (cs.takeWhile isBareKey), cs.dropWhile isBareKey)

/-- The depth that keys and values stay below. -/
def depthLimit : Nat := 80

/-- A key with its dots: the parts before the last, and the last. -/
def readKey : Nat → List Char → Option ((List String × String) × List Char)
  | 0, _ => none
  | n + 1, cs =>
    match readKeyPart (skipBlank cs) with
    | none => none
    | some (part, rest) =>
      match skipBlank rest with
      | '.' :: rest => (readKey n rest).map fun p => ((part :: p.1.1, p.1.2), p.2)
      | rest => some (([], part), rest)

/-! ### Values -/

mutual

/-- Reads a value; `depth` counts the arrays and inline tables around it. -/
def readValue (depth : Nat) : Nat → List Char → Option (Node × List Char)
  | 0, _ => none
  | n + 1, cs =>
    match cs with
    | '"' :: _ => (readString cs).map fun p => (.text (String.ofList p.1), p.2)
    | '\'' :: _ => (readString cs).map fun p => (.text (String.ofList p.1), p.2)
    | '[' :: rest =>
      if depth + 1 < depthLimit then
        (readItems (depth + 1) n rest).map fun p => (.array p.1, p.2)
      else none
    | '{' :: rest =>
      if depth + 1 < depthLimit then
        match skipBlank rest with
        | '}' :: rest => some (.table .inline [], rest)
        | rest =>
          (readPairs (depth + 1) n rest).bind fun p =>
            (inlineTable? p.1).map fun t => (t, p.2)
      else none
    | 't' :: 'r' :: 'u' :: 'e' :: rest => some (.bool true, rest)
    | 'f' :: 'a' :: 'l' :: 's' :: 'e' :: rest => some (.bool false, rest)
    | c :: _ =>
      if isDigit c || c == '+' || c == '-' then readNumber cs
      else if c == 'i' || c == 'n' then readSigned cs
      else none
    | [] => none

/-- Reads the items of an array and its closing bracket; a comma may follow the last one. -/
def readItems (depth : Nat) : Nat → List Char → Option (List Node × List Char)
  | 0, _ => none
  | n + 1, cs =>
    match skipFiller cs.length cs with
    | ']' :: rest => some ([], rest)
    | cs =>
      match readValue depth n cs with
      | none => none
      | some (v, rest) =>
        match skipFiller rest.length rest with
        | ',' :: rest => (readItems depth n rest).map fun p => (v :: p.1, p.2)
        | ']' :: rest => some ([v], rest)
        | _ => none

/-- Reads the keys and values of an inline table and its closing brace. -/
def readPairs (depth : Nat) :
    Nat → List Char → Option (List (List String × String × Node) × List Char)
  | 0, _ => none
  | n + 1, cs =>
    match readKey (depthLimit - 1) cs with
    | some ((path, key), '=' :: rest) =>
      match readValue depth n (skipBlank rest) with
      | none => none
      | some (v, rest) =>
        match skipBlank rest with
        | ',' :: rest => (readPairs depth n rest).map fun p => ((path, key, v) :: p.1, p.2)
        | '}' :: rest => some ([(path, key, v)], rest)
        | _ => none
    | _ => none

end

/-! ### Documents -/

/-- A header after its opening bracket or brackets. -/
def readHeader (cs : List Char) : Option ((List String × String) × List Char) :=
  match readKey (depthLimit - 1) cs with
  | some (key, ']' :: rest) => some (key, rest)
  | _ => none

/-- Reads one line, or more where a value takes more, into the document. -/
def readLine (d : Document) (cs : List Char) : Option (Document × List Char) :=
  match cs with
  | '#' :: _ => (readLineEnd cs).map fun rest => (d, rest)
  | '\n' :: rest => some (d, rest)
  | '\r' :: _ => (readNewline cs).map fun rest => (d, rest)
  | '[' :: '[' :: rest =>
    match readHeader rest with
    | some (key, ']' :: rest) =>
      (readLineEnd rest).bind fun rest => (d.openArrayTable key.1 key.2).map fun d => (d, rest)
    | _ => none
  | '[' :: rest =>
    match readHeader rest with
    | some (key, rest) =>
      (readLineEnd rest).bind fun rest => (d.openTable key.1 key.2).map fun d => (d, rest)
    | none => none
  | _ =>
    match readKey (depthLimit - 1) cs with
    | some (key, '=' :: rest) =>
      match readValue 0 (2 * rest.length + 2) (skipBlank rest) with
      | some (v, rest) =>
        (readLineEnd rest).bind fun rest => (d.addValue key.1 key.2 v).map fun d => (d, rest)
      | none => none
    | _ => none

/-- Reads lines until the text ends; every one takes a character. -/
def readDocument : Nat → Document → List Char → Option Entries
  | 0, _, _ => none
  | n + 1, d, cs =>
    match skipBlank cs with
    | [] => some d.root
    | cs =>
      match readLine d cs with
      | none => none
      | some (d, rest) => readDocument n d rest

/-- Reads a document; a byte order mark at its front does not count. -/
def parse? (s : String) : Option Entries :=
  let cs := match s.toList with
    | '\ufeff' :: rest => rest
    | cs => cs
  readDocument (cs.length + 1) .empty cs

end Toml
end PointerShare
