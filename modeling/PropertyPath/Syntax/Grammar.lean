import PropertyPath.Syntax.Expr
import PropertyPath.Syntax.Token

/-!
# Reading path expressions

The grammar, with blanks allowed between any two tokens:

    value     = literal | path
    path      = root segment*
    root      = name ':' name '(' arguments ')' | name
    segment   = '.' name | '[' value ']'
    arguments = (value (',' value)*)?

Alternatives are tried in the order written and the first that applies is kept.
The reader of nested values is a parameter of every rule, so the grammar itself
is not recursive; `value` ties the knot for a given number of levels.
-/

namespace PropertyPath.Grammar

open Reader Token

/-- A literal as written. An integer is kept unbounded, together with the length
of the text after it, which tells where it stands. -/
inductive Lexeme where
  | null
  | boolean (b : Bool)
  | float (x : Float)
  | integer (numeral : Numeral) (remaining : Nat)
  | string (s : String)
  deriving DecidableEq, Inhabited

/-- Skips blanks before a reader. -/
def spaced {α : Type} (reader : Reader α) : Reader α := fun text => reader (skip text)

/-- A literal; a decimal is tried before the integer it begins with. -/
def literal : Reader Lexeme := fun text =>
  match keyword "null" text with
  | some ((), after) => some (.null, after)
  | none =>
  match boolean text with
  | some (b, after) => some (.boolean b, after)
  | none =>
  match float text with
  | some (x, after) => some (.float x, after)
  | none =>
  match integer text with
  | some (numeral, after) => some (.integer numeral after.length, after)
  | none => (string text).map fun (s, after) => (.string s, after)

variable (nested : Reader (Expr Lexeme))

/-- A comma and the value after it. -/
def furtherArgument : Reader (Expr Lexeme) := fun text => do
  let ((), text) ← character ',' text
  spaced nested text

/-- Values separated by commas, possibly none. -/
def arguments (text : List Char) : List (Expr Lexeme) × List Char :=
  match nested text with
  | none => ([], text)
  | some (first, text) =>
    let (others, text) := many (spaced (furtherArgument nested)) text
    (first :: others, text)

/-- A function call. -/
def call : Reader (Root Lexeme) := fun text => do
  let (space, text) ← name text
  let ((), text) ← spaced (character ':') text
  let (function, text) ← spaced name text
  let ((), text) ← spaced (character '(') text
  let (arguments, text) := arguments nested (skip text)
  let ((), text) ← spaced (character ')') text
  return (.call space function arguments, text)

/-- The start of a path. -/
def root : Reader (Root Lexeme) :=
  orElse (call nested) fun text => (name text).map fun (name, after) => (.identifier name, after)

/-- A point and a name. -/
def property : Reader (Segment Lexeme) := fun text => do
  let ((), text) ← character '.' text
  let (name, text) ← spaced name text
  return (.property name, text)

/-- A value in brackets. -/
def index : Reader (Segment Lexeme) := fun text => do
  let ((), text) ← character '[' text
  let (index, text) ← spaced nested text
  let ((), text) ← spaced (character ']') text
  return (.index index, text)

/-- A root and all segments that follow it. -/
def path : Reader (Expr Lexeme) := fun text => do
  let (root, text) ← root nested text
  let (segments, text) := many (spaced (orElse property (index nested))) text
  return (.path root segments, text)

/-- A literal or a path. -/
def valueOver : Reader (Expr Lexeme) :=
  orElse (fun text => (literal text).map fun (l, after) => (.literal l, after)) (path nested)

/-- A value that opens at most the given number of levels. -/
def value : Nat → Reader (Expr Lexeme)
  | 0 => valueOver fun _ => none
  | levels + 1 => valueOver (value levels)

/-- The value that a whole text consists of, blanks around it aside. -/
def expression? (levels : Nat) (text : List Char) : Option (Expr Lexeme) := do
  let (value, after) ← spaced (value levels) text
  if (skip after).isEmpty then some value else none

end PropertyPath.Grammar
