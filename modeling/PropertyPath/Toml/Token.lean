import PropertyPath.Numeric.Reading
import PropertyPath.Text.Reader

/-!
# Tokens of TOML documents

Keys, strings in their four forms, numbers in their four bases, and dates and
times. Underscores may stand between digits; a number has no needless leading
zero; an integer beyond 64 bits and a decimal that rounds to positive infinity
are refused.
-/

namespace PropertyPath.Toml

open Reader

/-- Space and tab. -/
def isBlank (c : Char) : Bool := c = ' ' || c = '\t'

/-- The text after leading blanks. -/
def skipBlanks (text : List Char) : List Char := text.dropWhile isBlank

/-- A line feed, with or without a carriage return before it. -/
def newline : Reader Unit
  | '\n' :: rest => some ((), rest)
  | '\r' :: '\n' :: rest => some ((), rest)
  | _ => none

/-- The characters a comment or a literal string may hold: a tab, everything from
the space on but the delete character. -/
def isPlain (c : Char) : Bool := c = '\t' || (' '.toNat ≤ c.toNat && c.toNat ≠ 0x7F)

/-- A number sign and the rest of its line. -/
def comment : Reader Unit
  | '#' :: rest => some ((), rest.dropWhile isPlain)
  | _ => none

/-- The end of a line or of the document. -/
def lineEnd : Reader Unit := fun text => if text.isEmpty then some ((), []) else newline text

/-- The end of a line after blanks and perhaps a comment. -/
def trailing : Reader Unit := fun text =>
  let text := skipBlanks text
  lineEnd (((comment text).map Prod.snd).getD text)

/-- Blanks, line ends and comments, which may stand around the items of an array. -/
def filler (text : List Char) : List Char :=
  (many (orElse (mapping (fun _ => ()) (someOf isBlank))
    (orElse newline fun text => do
      let ((), text) ← comment text
      newline text)) text).2

/-- The value of a hexadecimal digit. -/
def hexValue (c : Char) : Nat :=
  if c.isDigit then c.toNat - '0'.toNat
  else if 'a'.toNat ≤ c.toNat then c.toNat - 'a'.toNat + 10
  else c.toNat - 'A'.toNat + 10

/-- Decimal digits and the letters to `f` in either case. -/
def isHexDigit (c : Char) : Bool :=
  c.isDigit || ('a' ≤ c && c ≤ 'f') || ('A' ≤ c && c ≤ 'F')

/-- The number a run of digits denotes in a base up to sixteen. -/
def inBase (base : Nat) (digits : List Char) : Nat :=
  digits.foldl (fun n c => base * n + hexValue c) 0

/-- A character written by a fixed count of hexadecimal digits. -/
def numbered (count : Nat) : Reader Char := fun text =>
  let digits := text.take count
  let code := inBase 16 digits
  if digits.length = count && digits.all isHexDigit && decide code.isValidChar then
    some (Char.ofNat code, text.drop count)
  else none

/-- What follows a backslash in a string with escapes. -/
def escape : Reader Char
  | 'b' :: rest => some ('\x08', rest)
  | 'f' :: rest => some ('\x0c', rest)
  | 'n' :: rest => some ('\n', rest)
  | 'r' :: rest => some ('\r', rest)
  | 't' :: rest => some ('\t', rest)
  | '"' :: rest => some ('"', rest)
  | '\\' :: rest => some ('\\', rest)
  | 'u' :: rest => numbered 4 rest
  | 'U' :: rest => numbered 8 rest
  | _ => none

/-- One character of a string with escapes, the closing quote excluded. -/
def basicCharacter : Reader Char
  | '\\' :: rest => escape rest
  | c :: rest => if c ≠ '"' && isPlain c then some (c, rest) else none
  | [] => none

/-- A string with escapes on one line. -/
def basicString : Reader String := fun text => do
  let ((), text) ← character '"' text
  let (body, text) := many basicCharacter text
  let ((), text) ← character '"' text
  return (String.ofList body, text)

/-- A string without escapes on one line. -/
def literalString : Reader String := fun text => do
  let ((), text) ← character '\'' text
  let (body, text) := run (fun c => c ≠ '\'' && isPlain c) text
  let ((), text) ← character '\'' text
  return (String.ofList body, text)

/-- A backslash that ends a line, with all blanks and line ends after it. -/
def lineContinuation : Reader (List Char) := fun text => do
  let ((), text) ← character '\\' text
  let ((), text) ← newline (skipBlanks text)
  return ([], (many (orElse (mapping (fun _ => ()) (someOf isBlank)) newline) text).2)

/-- A line end inside a string, which counts as a line feed. -/
def innerNewline : Reader (List Char) := mapping (fun _ => ['\n']) newline

/-- One or two quotes that other content follows. -/
def innerQuotes (quote : Char) : Reader (List Char) := fun text =>
  let (quotes, after) := run (· = quote) text
  if quotes.isEmpty || 2 < quotes.length then none else some (quotes, after)

/-- A string over several lines between three quotes: content, and up to two more
quotes before the closing ones. A line end right after the opening quotes is left
out. -/
def multiline (quote : Char) (content : Reader (List Char)) : Reader String := fun text => do
  let ((), text) ← exactly [quote, quote, quote] text
  let text := ((newline text).map Prod.snd).getD text
  let (pieces, text) := many (orElse (innerQuotes quote) content) text
  let (quotes, text) := run (· = quote) text
  if quotes.length < 3 || 5 < quotes.length then none
  else some (String.ofList (pieces.flatten ++ quotes.drop 3), text)

/-- A string with escapes over several lines. -/
def multilineBasic : Reader String :=
  multiline '"' (orElse lineContinuation (orElse innerNewline (mapping (fun c => [c]) basicCharacter)))

/-- A string without escapes over several lines. -/
def multilineLiteral : Reader String :=
  multiline '\'' (orElse innerNewline
    (mapping (fun c => [c]) (one fun c => c ≠ '\'' && isPlain c)))

/-- A string in any of its forms. -/
def string : Reader String :=
  orElse multilineBasic (orElse multilineLiteral (orElse basicString literalString))

/-- The characters of a key without quotes. -/
def isBareKeyChar (c : Char) : Bool := c.isAlphanum || c = '-' || c = '_'

/-- A single key, bare or as a string on one line. -/
def simpleKey : Reader String
  | '"' :: rest => basicString ('"' :: rest)
  | '\'' :: rest => literalString ('\'' :: rest)
  | text => mapping String.ofList (someOf isBareKeyChar) text

/-- The count of keys at which a dotted key is refused. -/
def keyLimit : Nat := 80

/-- Keys joined by points, with blanks around each; the last one stands apart. -/
def key : Reader (List String × String) := fun text => do
  let (first, text) ← simpleKey (skipBlanks text)
  let (others, text) := many (fun text => do
    let ((), text) ← character '.' text
    let (next, text) ← simpleKey (skipBlanks text)
    return (next, skipBlanks text)) (skipBlanks text)
  let keys := first :: others
  if keyLimit ≤ keys.length then none else some ((keys.dropLast, keys.getLastD first), text)

/-- Digits of a class with single underscores between them. -/
def digitGroups (isDigit : Char → Bool) : Reader (List Char) := fun text => do
  let (first, text) ← one isDigit text
  let (others, text) := many (orElse (one isDigit) fun text => do
    let ((), text) ← character '_' text
    one isDigit text) text
  if text.head? = some '_' then none else some (first :: others, text)

/-- Decimal digits without a needless leading zero. -/
def decimalDigits : Reader (List Char)
  | '0' :: rest => some (['0'], rest)
  | text => digitGroups Char.isDigit text

/-- The value of digits after a mark that names their base. -/
def basedInteger (mark : List Char) (base : Nat) (isDigit : Char → Bool) : Reader Int64 := fun text => do
  let ((), text) ← exactly mark text
  let (digits, text) ← digitGroups isDigit text
  let n ← (Reading.toInt64 (inBase base digits)).toOption
  return (n, text)

/-- A decimal integer with an optional sign. -/
def decimalInteger : Reader Int64 := fun text => do
  let (negative, text) := Reading.sign text
  let (digits, text) ← decimalDigits text
  let magnitude : Int := Reading.natural digits
  let n ← (Reading.toInt64 (if negative then -magnitude else magnitude)).toOption
  return (n, text)

/-- An integer. A mark decides on the base once and for all. -/
def integer : Reader Int64 := fun text =>
  match text with
  | '0' :: 'x' :: _ => basedInteger ['0', 'x'] 16 isHexDigit text
  | '0' :: 'o' :: _ => basedInteger ['0', 'o'] 8 (fun c => '0' ≤ c && c ≤ '7') text
  | '0' :: 'b' :: _ => basedInteger ['0', 'b'] 2 (fun c => c = '0' || c = '1') text
  | _ => decimalInteger text

/-- A point and digits. -/
def fraction : Reader (List Char) := fun text => do
  let ((), text) ← character '.' text
  digitGroups Char.isDigit text

/-- An exponent mark, an optional sign and digits. -/
def exponent : Reader Int := fun text => do
  let (_, text) ← one (fun c => c = 'e' || c = 'E') text
  let (negative, text) := Reading.sign text
  let (digits, text) ← digitGroups Char.isDigit text
  let magnitude : Int := Reading.natural digits
  return (if negative then -magnitude else magnitude, text)

/-- A decimal with a fraction, an exponent or both. -/
def decimal : Reader Float := fun text => do
  let (negative, text) := Reading.sign text
  let (whole, text) ← decimalDigits text
  let (fraction, exponent, text) ←
    match fraction text with
    | some (fraction, text) =>
      if text.head? = some 'e' || text.head? = some 'E' then
        (exponent text).map fun (e, text) => (fraction, e, text)
      else some (fraction, 0, text)
    | none => (exponent text).map fun (e, text) => ([], e, text)
  let magnitude :=
    Reading.nearest (Reading.natural (whole ++ fraction)) (exponent - fraction.length)
  let x := if negative then -magnitude else magnitude
  if x == Reading.infinity then none else some (x, text)

/-- Infinity or NaN with an optional sign. -/
def specialFloat : Reader Float := fun text => do
  let (negative, text) := Reading.sign text
  let (x, text) ← orElse (mapping (fun _ => Reading.infinity) (exactly ['i', 'n', 'f']))
    (mapping (fun _ => Reading.nan) (exactly ['n', 'a', 'n'])) text
  return (if negative then -x else x, text)

/-- A number of two digits within bounds. -/
def twoDigits (low high : Nat) : Reader Nat := fun text => do
  let (tens, text) ← one Char.isDigit text
  let (ones, text) ← one Char.isDigit text
  let n := Reading.natural [tens, ones]
  if low ≤ n ∧ n ≤ high then some (n, text) else none

/-- The days of a month. -/
def monthLength (year month : Nat) : Nat :=
  if month = 2 then
    if year % 4 = 0 ∧ (year % 100 ≠ 0 ∨ year % 400 = 0) then 29 else 28
  else if month = 4 ∨ month = 6 ∨ month = 9 ∨ month = 11 then 30
  else 31

/-- Year, month and day. -/
def date : Reader Unit := fun text => do
  let year := text.take 4
  if year.length < 4 || !year.all Char.isDigit then none
  let ((), text) ← character '-' (text.drop 4)
  let (month, text) ← twoDigits 1 12 text
  let ((), text) ← character '-' text
  let (_, text) ← twoDigits 1 (monthLength (Reading.natural year) month) text
  return ((), text)

/-- Hours and minutes. -/
def hourMinute : Reader Unit := fun text => do
  let (_, text) ← twoDigits 0 23 text
  let ((), text) ← character ':' text
  let (_, text) ← twoDigits 0 59 text
  return ((), text)

/-- A time of day, with a leap second allowed and any fraction of a second. -/
def time : Reader Unit := fun text => do
  let ((), text) ← hourMinute text
  let ((), text) ← character ':' text
  let (_, text) ← twoDigits 0 60 text
  match text with
  | '.' :: rest => mapping (fun _ => ()) (someOf Char.isDigit) rest
  | _ => return ((), text)

/-- A distance from universal time, perhaps none. -/
def offset : Reader Unit := fun text =>
  match text with
  | 'Z' :: rest | 'z' :: rest => some ((), rest)
  | '+' :: rest | '-' :: rest => hourMinute rest
  | _ => some ((), text)

/-- A date, a time, or both with an optional offset. -/
def datetime : Reader Unit := fun text =>
  match date text with
  | none => time text
  | some ((), afterDate) =>
    match afterDate with
    | mark :: rest =>
      if mark = 'T' || mark = 't' || mark = ' ' then
        match time rest with
        | some ((), afterTime) => offset afterTime
        | none => some ((), afterDate)
      else some ((), afterDate)
    | [] => some ((), afterDate)

end PropertyPath.Toml
