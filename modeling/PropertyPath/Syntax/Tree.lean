import PropertyPath.Syntax.Source

/-!
# Parse trees

An expression can be made from a source in two stages. First the source is read as a tree of
what the rules of the grammar matched: a node for each construct and for the characters between
quotes, with the characters it covers and the nodes inside it. Rules that only choose between
others leave no node. Then the tree is turned into an expression, rule by rule.

The second stage has to allow for trees that the first never builds. Where it meets a node that
it does not expect there, it gives up with an internal error.
-/

namespace PropertyPath.ParseTree

open Reader Token
open Diagnosis (Construct)
open Grammar (spaced)

/-- What a node was matched by. -/
inductive Label where
  | construct (c : Construct)
  | singleQuoted
  | doubleQuoted
  deriving DecidableEq, Repr

/-- The word for a label. -/
def Label.text : Label → String
  | construct c => c.text
  | singleQuoted => "single_quoted"
  | doubleQuoted => "double_quoted"

/-- A matched rule: the characters from its first token to its last, the length of the text
behind them, and the nodes inside. -/
inductive Node where
  | mk (label : Label) (text : List Char) (remaining : Nat) (inner : List Node)

namespace Node

/-- The label of a node. -/
def label : Node → Label
  | mk label _ _ _ => label

/-- The characters of a node. -/
def text : Node → List Char
  | mk _ text _ _ => text

/-- The length of the text behind a node. -/
def remaining : Node → Nat
  | mk _ _ remaining _ => remaining

/-- The nodes inside a node. -/
def inner : Node → List Node
  | mk _ _ _ inner => inner

end Node

/-! ## Reading a tree -/

/-- What a rule matches, as a node. -/
def node (label : Label) (rule : Reader (List Node)) : Reader Node := fun text =>
  (rule text).map fun (inner, after) =>
    (.mk label (text.take (text.length - after.length)) after.length inner, after)

/-- A token, as a node with no other inside. -/
def leaf {α : Type} (c : Construct) (token : Reader α) : Reader Node :=
  node (.construct c) fun text => (token text).map fun (_, after) => ([], after)

/-- The text behind the longest run of characters that are escaped or neither the quote nor a
backslash. -/
def behindQuoted (quote : Char) : List Char → List Char
  | '\\' :: _ :: rest => behindQuoted quote rest
  | ['\\'] => ['\\']
  | c :: rest => if c = quote then c :: rest else behindQuoted quote rest
  | [] => []

/-- Characters between two of a quote. -/
def quoted (label : Label) (quote : Char) : Reader (List Node) := fun text => do
  let ((), text) ← character quote text
  let (body, text) ← node label (fun text => some ([], behindQuoted quote text)) text
  let ((), text) ← character quote text
  return ([body], text)

/-- A text between two equal quotes, single or double. -/
def string : Reader Node :=
  node (.construct .stringLiteral) (orElse (quoted .singleQuoted '\'') (quoted .doubleQuoted '"'))

/-- A literal. -/
def literal : Reader Node :=
  orElse (leaf .nullLiteral (keyword "null")) <|
  orElse (leaf .booleanLiteral boolean) <|
  orElse (leaf .floatLiteral float) <|
  orElse (leaf .integerLiteral integer) string

/-- A name. -/
def identifier : Reader Node := leaf .identifier name

variable (nested : Reader Node)

/-- A comma and the value after it. -/
def furtherArgument : Reader Node := fun text => do
  let ((), text) ← character ',' text
  spaced nested text

/-- Values separated by commas, possibly none. -/
def arguments : Reader Node :=
  node (.construct .arguments) fun text =>
    match nested text with
    | none => some ([], text)
    | some (first, text) =>
      let (others, text) := many (spaced (furtherArgument nested)) text
      some (first :: others, text)

/-- A function call. -/
def call : Reader Node :=
  node (.construct .functionCall) fun text => do
    let (space, text) ← identifier text
    let ((), text) ← spaced (character ':') text
    let (function, text) ← spaced identifier text
    let ((), text) ← spaced (character '(') text
    let (given, text) ← spaced (arguments nested) text
    let ((), text) ← spaced (character ')') text
    return ([space, function, given], text)

/-- A point and a name. -/
def property : Reader Node :=
  node (.construct .propertySegment) fun text => do
    let ((), text) ← character '.' text
    let (name, text) ← spaced identifier text
    return ([name], text)

/-- A value in brackets. -/
def index : Reader Node :=
  node (.construct .indexSegment) fun text => do
    let ((), text) ← character '[' text
    let (index, text) ← spaced nested text
    let ((), text) ← spaced (character ']') text
    return ([index], text)

/-- A root and all segments that follow it. -/
def path : Reader Node :=
  node (.construct .path) fun text => do
    let (root, text) ← orElse (call nested) identifier text
    let (segments, text) := many (spaced (orElse property (index nested))) text
    return (root :: segments, text)

/-- A literal or a path. -/
def valueOver : Reader Node := orElse literal (path nested)

/-- A value that opens at most the given number of levels. -/
def value : Nat → Reader Node
  | 0 => valueOver fun _ => none
  | levels + 1 => valueOver (value levels)

/-- The trees of a whole text: one expression, which holds a value and the end of the text. -/
def trees (levels : Nat) (text : List Char) : Except SyntaxFailure (List Node) :=
  match spaced (value levels) text with
  | some (value, after) =>
    if (skip after).isEmpty then
      .ok [.mk (.construct .expression) text 0 [value, .mk (.construct .endOfInput) [] 0 []]]
    else failed
  | none => failed
where
  failed :=
    let (remaining, constructs) := Diagnosis.furthest levels text
    .error ⟨text, text.length - remaining, none, .expected constructs⟩

/-! ## Building an expression -/

/-- Why no expression is made from a source: the source is rejected, or an internal error with its
text stands at some characters of it. -/
inductive Failure where
  | rejected (failure : SyntaxFailure)
  | internal (message : String) (position : Nat) (span : Option Nat)
  deriving DecidableEq, Repr

variable (source : List Char)

/-- The number of characters before a node. -/
def Node.position (n : Node) : Nat := source.length - n.remaining - n.text.length

/-- A node that is not expected where it stands; the number tells where that is. -/
def unexpected (place : Nat) (n : Node) : Failure :=
  .internal ("Unexpected state reached [" ++ n.label.text ++ "] - " ++ toString place)
    (n.position source) (some n.text.length)

/-- A literal whose characters denote nothing. -/
def invalid (n : Node) (reason : String) : Failure :=
  .internal ("invalid literal " ++ String.ofList n.text ++ ": " ++ reason) (n.position source)
    (some n.text.length)

/-- The characters that quoted ones stand for; none if a backslash stands at the end. -/
def unescaped : List Char → Option (List Char)
  | '\\' :: c :: rest => (unescaped rest).map (unescape c :: ·)
  | ['\\'] => none
  | c :: rest => (unescaped rest).map (c :: ·)
  | [] => some []

/-- The integer of a node. -/
def buildInteger (n : Node) : Except Failure Literal :=
  match Reading.integer? n.text with
  | none => .error (invalid source n "invalid digit found in string")
  | some i =>
    match Reading.toInt64 i with
    | .ok word => .ok (.integer word)
    | .error excess =>
      .error (.rejected ⟨source, n.position source, some n.text.length,
        .integerOutOfRange (String.ofList n.text) excess⟩)

/-- The double of a node. -/
def buildFloat (n : Node) : Except Failure Literal :=
  match Reading.float? n.text with
  | none => .error (invalid source n "invalid float literal")
  | some x => .ok (.float x)

/-- The string of a node with its body inside. -/
def buildString (n : Node) : Except Failure Literal :=
  match n.inner with
  | [] => .error (unexpected source 7 n)
  | body :: _ =>
    match unescaped body.text with
    | none => .error (invalid source body "dangling escape")
    | some meant => .ok (.string (String.ofList meant))

/-- The property that a segment names. -/
def buildProperty (n : Node) : Except Failure (Segment Literal) :=
  match n.inner with
  | [] => .error (unexpected source 3 n)
  | name :: _ => .ok (.property (String.ofList name.text))

mutual

/-- The expression of a node for a literal or a path. -/
def build : Node → Except Failure (Expr Literal)
  | .mk (.construct .path) text remaining inner =>
    match inner with
    | [] => .error (unexpected source 2 (.mk (.construct .path) text remaining []))
    | root :: segments => do
      let root ← buildRoot root
      return .path root (← buildSegments segments)
  | .mk (.construct .nullLiteral) _ _ _ => .ok (.literal .null)
  | .mk (.construct .booleanLiteral) text _ _ => .ok (.literal (.boolean (text = "true".toList)))
  | .mk (.construct .integerLiteral) text remaining inner => do
    return .literal (← buildInteger source (.mk (.construct .integerLiteral) text remaining inner))
  | .mk (.construct .floatLiteral) text remaining inner => do
    return .literal (← buildFloat source (.mk (.construct .floatLiteral) text remaining inner))
  | .mk (.construct .stringLiteral) text remaining inner => do
    return .literal (← buildString source (.mk (.construct .stringLiteral) text remaining inner))
  | other => .error (unexpected source 1 other)

/-- The root of a node for a name or a call. -/
def buildRoot : Node → Except Failure (Root Literal)
  | .mk (.construct .identifier) text _ _ => .ok (.identifier (String.ofList text))
  | .mk (.construct .functionCall) text remaining inner =>
    match inner with
    | space :: function :: given =>
      match given with
      | .mk _ _ _ arguments :: _ => do
        return .call (String.ofList space.text) (String.ofList function.text) (← buildAll arguments)
      | [] => .ok (.call (String.ofList space.text) (String.ofList function.text) [])
    | few => .error (unexpected source 6 (.mk (.construct .functionCall) text remaining few))
  | other => .error (unexpected source 2 other)

/-- The segment of a node for a property or an index. -/
def buildSegment : Node → Except Failure (Segment Literal)
  | .mk (.construct .propertySegment) text remaining inner =>
    buildProperty source (.mk (.construct .propertySegment) text remaining inner)
  | .mk (.construct .indexSegment) text remaining inner =>
    match inner with
    | [] => .error (unexpected source 4 (.mk (.construct .indexSegment) text remaining []))
    | index :: _ => do return .index (← build index)
  | other => .error (unexpected source 5 other)

/-- The expressions of nodes, from left to right. -/
def buildAll : List Node → Except Failure (List (Expr Literal))
  | [] => return []
  | first :: rest => do
    let first ← build first
    return first :: (← buildAll rest)

/-- The segments of nodes, from left to right. -/
def buildSegments : List Node → Except Failure (List (Segment Literal))
  | [] => return []
  | first :: rest => do
    let first ← buildSegment first
    return first :: (← buildSegments rest)

end

/-- The expression that characters denote, by way of a tree. -/
def read : Except Failure (Expr Literal) :=
  match Nesting.excess? {} source with
  | some rest => .error (.rejected ⟨source, source.length - rest.length, none, .nestedTooDeep⟩)
  | none =>
    match trees Nesting.limit source with
    | .error failure => .error (.rejected failure)
    | .ok [] => .error (.internal "empty expression" 0 none)
    | .ok (expression :: _) =>
      match expression.inner.find? (·.label ≠ .construct .endOfInput) with
      | none => .error (unexpected source 0 expression)
      | some value => build source value

end PropertyPath.ParseTree
