import PropertyPath.Syntax.Diagnosis
import PropertyPath.Syntax.Nesting

/-!
# Syntax errors and their texts

A syntax error points at a position or a span of its source. Its text shows the
line with that position, a marker below it, and the cause.
-/

namespace PropertyPath

/-- Why a source was rejected. -/
inductive SyntaxCause where
  | nestedTooDeep
  | integerOutOfRange (numeral : String) (excess : Reading.Excess)
  | expected (constructs : List Diagnosis.Construct)
  deriving DecidableEq, Repr

/-- A rejected source, the number of characters before the fault, the number of
characters it spans (none for a single position), and the cause. -/
structure SyntaxFailure where
  source : List Char
  position : Nat
  span : Option Nat
  cause : SyntaxCause
  deriving DecidableEq, Repr

namespace SyntaxCause

/-- Alternatives in prose: `x`, `x or y`, `x, y, or z`. -/
def alternatives : List String → String
  | [] => ""
  | [only] => only
  | [first, second] => first ++ " or " ++ second
  | several => ", ".intercalate several.dropLast ++ ", or " ++ several.getLastD ""

/-- The text of a cause. -/
def text : SyntaxCause → String
  | nestedTooDeep => s!"expression nested deeper than {Nesting.limit} levels"
  | integerOutOfRange numeral excess =>
    "invalid literal " ++ numeral ++ ": number too "
      ++ (match excess with
          | .tooLarge => "large"
          | .tooSmall => "small")
      ++ " to fit in target type"
  | expected constructs => "expected " ++ alternatives (constructs.map (·.text))

end SyntaxCause

namespace SyntaxFailure

/-- The characters before the fault. -/
def before (f : SyntaxFailure) : List Char := f.source.take f.position

/-- The characters from the fault on. -/
def after (f : SyntaxFailure) : List Char := f.source.drop f.position

/-- The number of the line with the fault, from one. -/
def line (f : SyntaxFailure) : Nat := f.before.count '\n' + 1

/-- The part of that line before the fault. -/
def lineStart (f : SyntaxFailure) : List Char :=
  (f.before.reverse.takeWhile (· ≠ '\n')).reverse

/-- The number of the faulty character in its line, from one. -/
def column (f : SyntaxFailure) : Nat := f.lineStart.length + 1

/-- The rest of a line, with the line feed that ends it. -/
def throughLineFeed (text : List Char) : List Char :=
  text.takeWhile (· ≠ '\n') ++ (text.dropWhile (· ≠ '\n')).take 1

/-- A line break shown as a symbol. -/
def lineBreakSymbol (c : Char) : Char :=
  if c = '\r' then '␍' else if c = '\n' then '␊' else c

/-- Whether a character breaks a line. -/
def isLineBreak (c : Char) : Bool := c = '\r' || c = '\n'

/-- The line as shown. Its breaks appear as symbols where the fault is at one of
them, and not at all otherwise. -/
def shownLine (f : SyntaxFailure) : List Char :=
  let whole := f.lineStart ++ throughLineFeed f.after
  if f.span = none ∧ (f.after.head?.map isLineBreak).getD false then whole.map lineBreakSymbol
  else whole.filter fun c => !isLineBreak c

/-- The marker below the fault: `^---` at a position, a line between two carets
below a span. -/
def marker (f : SyntaxFailure) : List Char :=
  match f.span with
  | none => "^---".toList
  | some width =>
    if width ≤ 1 then ['^'] else '^' :: (List.replicate (width - 2) '-' ++ ['^'])

/-- The marker below its place in the line; tabs are kept so that columns agree. -/
def underline (f : SyntaxFailure) : List Char :=
  (f.shownLine.take (f.column - 1)).map (fun c => if c = '\t' then '\t' else ' ') ++ f.marker

/-- The text of a syntax error. -/
def text (f : SyntaxFailure) : String :=
  let number := toString f.line
  let margin := String.ofList (List.replicate number.length ' ')
  "\n".intercalate
    [margin ++ "--> " ++ number ++ ":" ++ toString f.column,
     margin ++ " |",
     number ++ " | " ++ String.ofList f.shownLine,
     margin ++ " | " ++ String.ofList f.underline,
     margin ++ " |",
     margin ++ " = " ++ f.cause.text]

end SyntaxFailure

end PropertyPath
