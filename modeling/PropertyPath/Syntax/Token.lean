import PropertyPath.Numeric.Reading
import PropertyPath.Text.Reader

/-!
# Tokens of path expressions

Blanks may stand between tokens and never inside one. A word is read to its end
before it is told apart: `null`, `true` and `false` are literals, every other word
is a name, and an integer must not run into a word.
-/

namespace PropertyPath.Token

open Reader

/-- The blanks between tokens: space, tab, carriage return and line feed. -/
def isSpace (c : Char) : Bool := c = ' ' || c = '\t' || c = '\r' || c = '\n'

/-- The text after its leading blanks. -/
def skip (text : List Char) : List Char := text.dropWhile isSpace

/-- Letters, the underscore and the dollar sign begin a word. -/
def isWordStart (c : Char) : Bool := c.isAlpha || c = '_' || c = '$'

/-- Words continue with digits as well. -/
def isWordChar (c : Char) : Bool := isWordStart c || c.isDigit

/-- The longest run of word characters at the front. -/
def word (text : List Char) : List Char × List Char := run isWordChar text

/-- The words that are literals. -/
def isKeyword (w : List Char) : Bool :=
  w = "null".toList || w = "true".toList || w = "false".toList

/-- A word that begins like one and is no keyword. -/
def name : Reader String
  | [] => none
  | first :: rest =>
    let (w, after) := word (first :: rest)
    if isWordStart first && !isKeyword w then some (String.ofList w, after) else none

/-- A given word, read to its end. -/
def keyword (w : String) : Reader Unit := fun text =>
  let (found, after) := word text
  if found = w.toList then some ((), after) else none

/-- One of the two truth values. -/
def boolean : Reader Bool := fun text =>
  match keyword "true" text with
  | some ((), after) => some (true, after)
  | none => (keyword "false" text).map fun (_, after) => (false, after)

/-- A nonempty run of digits, read to its end. -/
def digits : Reader (List Char) := someOf Char.isDigit

/-- An optional minus sign. -/
def minus : List Char → Bool × List Char
  | '-' :: rest => (true, rest)
  | text => (false, text)

/-- An integer as written. -/
structure Numeral where
  negative : Bool
  digits : List Char
  deriving DecidableEq, Repr

/-- The unbounded integer a numeral denotes. -/
def Numeral.value (n : Numeral) : Int :=
  if n.negative then -(Reading.natural n.digits : Int) else Reading.natural n.digits

/-- The characters of a numeral. -/
def Numeral.text (n : Numeral) : List Char :=
  if n.negative then '-' :: n.digits else n.digits

/-- An optionally negative run of digits that no word character follows. -/
def integer : Reader Numeral := fun text => do
  let (negative, text) := minus text
  let (digits, after) ← digits text
  if (after.head?.map isWordChar).getD false then none else some (⟨negative, digits⟩, after)

/-- The part after the exponent mark: an optional sign and a run of digits. -/
def exponentPart : Reader Int := fun text => do
  let (negative, text) := Reading.sign text
  let (digits, after) ← digits text
  return (if negative then -(Reading.natural digits : Int) else Reading.natural digits, after)

/-- An exponent with its mark; where there is none, the text is left alone. -/
def exponent (text : List Char) : Int × List Char :=
  match text with
  | mark :: rest =>
    if mark = 'e' ∨ mark = 'E' then (exponentPart rest).getD (0, text) else (0, text)
  | [] => (0, text)

/-- A decimal with a point between digits and an optional exponent, rounded to
the nearest double. -/
def float : Reader Float := fun text => do
  let (negative, text) := minus text
  let (whole, text) ← digits text
  let ((), text) ← character '.' text
  let (fraction, text) ← digits text
  let (exponent, after) := exponent text
  let magnitude :=
    Reading.nearest (Reading.natural (whole ++ fraction)) (exponent - fraction.length)
  return (if negative then -magnitude else magnitude, after)

/-- The character that a backslash and `c` stand for. -/
def unescape (c : Char) : Char :=
  if c = 'n' then '\n'
  else if c = 't' then '\t'
  else if c = 'r' then '\r'
  else if c = '0' then '\x00'
  else c

/-- The characters up to the first unescaped closing quote, with the rest. -/
def quotedBody (quote : Char) : Reader (List Char)
  | [] => none
  | '\\' :: [] => none
  | '\\' :: c :: rest =>
    (quotedBody quote rest).map fun (body, after) => (unescape c :: body, after)
  | c :: rest =>
    if c = quote then some ([], rest)
    else (quotedBody quote rest).map fun (body, after) => (c :: body, after)

/-- A text between two equal quotes, single or double. -/
def string : Reader String
  | quote :: rest =>
    if quote = '\'' ∨ quote = '"' then
      (quotedBody quote rest).map fun (body, after) => (String.ofList body, after)
    else none
  | [] => none

end PropertyPath.Token
