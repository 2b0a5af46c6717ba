import PropertyPath.Syntax.Grammar

/-!
# Diagnosis of unreadable texts

Where a text is no expression, the diagnosis names what could have stood at the
furthest position that reading attained. Recognisers follow the grammar of
`Grammar` and keep a record of the constructs that failed furthest on. A construct
that fails is recorded in place of the failures inside it, unless there was
exactly one of those: then the inner one says more.
-/

namespace PropertyPath.Diagnosis

open Reader Token

/-- The constructs a diagnosis can name, in the order in which it names them. -/
inductive Construct where
  | endOfInput
  | expression
  | path
  | propertySegment
  | indexSegment
  | functionCall
  | arguments
  | nullLiteral
  | booleanLiteral
  | floatLiteral
  | integerLiteral
  | stringLiteral
  | identifier
  deriving DecidableEq, Repr

/-- All constructs in order. -/
def Construct.all : List Construct :=
  [.endOfInput, .expression, .path, .propertySegment, .indexSegment, .functionCall, .arguments,
   .nullLiteral, .booleanLiteral, .floatLiteral, .integerLiteral, .stringLiteral, .identifier]

/-- The word for a construct. -/
def Construct.text : Construct → String
  | endOfInput => "EOI"
  | expression => "expression"
  | path => "path"
  | propertySegment => "property_segment"
  | indexSegment => "index_segment"
  | functionCall => "function_call"
  | arguments => "arguments"
  | nullLiteral => "null_literal"
  | booleanLiteral => "boolean_literal"
  | floatLiteral => "float_literal"
  | integerLiteral => "integer_literal"
  | stringLiteral => "string_literal"
  | identifier => "identifier"

/-- The furthest position at which a construct failed, as the length of the text
from there on, and the constructs recorded for it. -/
structure Record where
  remaining : Nat
  constructs : List Construct := []
  deriving DecidableEq, Repr

/-- The number of constructs recorded for a position. -/
def Record.countAt (r : Record) (remaining : Nat) : Nat :=
  if r.remaining = remaining then r.constructs.length else 0

/-- Records that a construct failed at a position, which had `before` recorded
failures when the construct was entered. -/
def Record.fail (r : Record) (construct : Construct) (remaining before : Nat) : Record :=
  if r.countAt remaining - before = 1 then r
  else if remaining < r.remaining then ⟨remaining, [construct]⟩
  else if r.remaining = remaining then ⟨remaining, r.constructs.take before ++ [construct]⟩
  else r

/-- Recognises the front of a text and returns the rest, keeping the record. -/
abbrev Recogniser := List Char → Record → Option (List Char) × Record

/-- A token, which is no construct of its own. -/
def token {α : Type} (reader : Reader α) : Recogniser := fun text record =>
  ((reader text).map Prod.snd, record)

/-- A construct: its failure is recorded. -/
def construct (c : Construct) (body : Recogniser) : Recogniser := fun text record =>
  match body text record with
  | (some after, attempted) => (some after, attempted)
  | (none, attempted) =>
    (none, attempted.fail c text.length (record.countAt text.length))

/-- One recogniser after another, blanks between them. -/
def andThen (first second : Recogniser) : Recogniser := fun text record =>
  match first text record with
  | (some after, record) => second (skip after) record
  | (none, record) => (none, record)

/-- A second recogniser where the first fails. -/
def orTry (first second : Recogniser) : Recogniser := fun text record =>
  match first text record with
  | (some after, record) => (some after, record)
  | (none, record) => second text record

/-- Nothing where the recogniser fails. -/
def optional (body : Recogniser) : Recogniser := fun text record =>
  match body text record with
  | (some after, record) => (some after, record)
  | (none, record) => (some text, record)

/-- Any number of repetitions, blanks before each. -/
def repeated (body : Recogniser) (text : List Char) (record : Record) :
    Option (List Char) × Record :=
  match body (skip text) record with
  | (none, record) => (some text, record)
  | (some after, record) =>
    if after.length < text.length then repeated body after record else (some text, record)
termination_by text.length

/-- A literal. -/
def literal : Recogniser :=
  orTry (construct .nullLiteral (token (keyword "null"))) <|
  orTry (construct .booleanLiteral (token boolean)) <|
  orTry (construct .floatLiteral (token float)) <|
  orTry (construct .integerLiteral (token integer)) <|
  construct .stringLiteral (token string)

/-- A name. -/
def identifier : Recogniser := construct .identifier (token name)

variable (nested : Recogniser)

/-- Values separated by commas, possibly none. -/
def arguments : Recogniser :=
  construct .arguments <| optional <|
    andThen nested (fun text => repeated (andThen (token (character ',')) nested) text)

/-- A function call. -/
def call : Recogniser :=
  construct .functionCall <|
    andThen identifier <| andThen (token (character ':')) <| andThen identifier <|
    andThen (token (character '(')) <| andThen (arguments nested) (token (character ')'))

/-- A segment. -/
def segment : Recogniser :=
  orTry (construct .propertySegment (andThen (token (character '.')) identifier))
    (construct .indexSegment
      (andThen (token (character '[')) (andThen nested (token (character ']')))))

/-- A root and all segments that follow it. -/
def path : Recogniser :=
  construct .path (andThen (orTry (call nested) identifier) (fun text => repeated (segment nested) text))

/-- A literal or a path. -/
def valueOver : Recogniser := orTry literal (path nested)

/-- A value that opens at most the given number of levels. -/
def value : Nat → Recogniser
  | 0 => valueOver fun _ record => (none, record)
  | levels + 1 => valueOver (value levels)

/-- The end of the text. -/
def endOfInput : Recogniser :=
  construct .endOfInput fun text record => (if text.isEmpty then some [] else none, record)

/-- A whole text: a value with blanks around it. -/
def expression (levels : Nat) : Recogniser :=
  construct .expression fun text => andThen (value levels) endOfInput (skip text)

/-- The furthest position and what could have stood there, in order. -/
def furthest (levels : Nat) (text : List Char) : Nat × List Construct :=
  let (_, record) := expression levels text ⟨text.length, []⟩
  (record.remaining, Construct.all.filter (· ∈ record.constructs))

end PropertyPath.Diagnosis
