import PropertyPath.Syntax.Source

/-!
# Renderings of expressions

What it means for a text to be an expression, said without reading it. A token is a run
of characters, and an expression is spelled by a list of tokens in the way of the
productions

    value     = literal | path
    path      = root segment*
    root      = name | name ':' name '(' arguments ')'
    segment   = '.' name | '[' value ']'
    arguments = (value (',' value)*)?

A text renders the expression if it consists of these tokens in order, with any run of
blanks before, between and after them and none inside a token. Nothing here says which
alternative is tried first, how far a token reaches, or what may not follow it.

The productions are parametric in how literals are spelled. The literals of this
library are spelled as words, numerals and quoted texts; a numeral is a literal only if
the integer it denotes is one of 64 bits.
-/

namespace PropertyPath

open Token

/-! ## Tokens -/

/-- A run of blanks, possibly empty. -/
def Blanks (text : List Char) : Prop := ∀ c ∈ text, isSpace c = true

/-- A text of some tokens in order, with blanks before, between and after them. -/
inductive Spread : List (List Char) → List Char → Prop
  | done {blanks : List Char} (blank : Blanks blanks) : Spread [] blanks
  | token {blanks token : List Char} {tokens : List (List Char)} {rest : List Char}
    (blank : Blanks blanks) (later : Spread tokens rest) :
    Spread (token :: tokens) (blanks ++ (token ++ rest))

/-- A word that begins like one and is none of the three that are literals. -/
structure IsName (word : List Char) : Prop where
  starts : ∃ first rest, word = first :: rest ∧ isWordStart first = true
  continues : ∀ c ∈ word, isWordChar c = true
  notKeyword : isKeyword word = false

/-- A run of decimal digits that is not empty. -/
structure Digits (digits : List Char) : Prop where
  nonempty : digits ≠ []
  each : ∀ c ∈ digits, c.isDigit = true

/-- An exponent: nothing, or a mark with an optional sign and digits. -/
inductive Exponent : List Char → Prop
  | absent : Exponent []
  | present {mark : Char} {sign digits : List Char} (marks : mark = 'e' ∨ mark = 'E')
    (signs : sign = [] ∨ sign = ['+'] ∨ sign = ['-']) (number : Digits digits) :
    Exponent (mark :: (sign ++ digits))

/-- A decimal: an optional minus sign, a point between digits, and an exponent. -/
inductive Decimal : List Char → Prop
  | mk {sign whole fraction exponent : List Char} (signs : sign = [] ∨ sign = ['-'])
    (before : Digits whole) (after : Digits fraction) (scale : Exponent exponent) :
    Decimal (sign ++ (whole ++ '.' :: (fraction ++ exponent)))

/-- The characters between quotes, as written and as meant: a backslash protects the
character after it, and every other character but the quote stands for itself. -/
inductive QuotedText (quote : Char) : List Char → List Char → Prop
  | nil : QuotedText quote [] []
  | plain {c : Char} {written meant : List Char} (notQuote : c ≠ quote) (notEscape : c ≠ '\\')
    (rest : QuotedText quote written meant) : QuotedText quote (c :: written) (c :: meant)
  | escape {c : Char} {written meant : List Char} (rest : QuotedText quote written meant) :
    QuotedText quote ('\\' :: c :: written) (unescape c :: meant)

/-- The spellings of a literal. A float is the one that its characters denote. -/
inductive Literal.Spelled : List Char → Literal → Prop
  | null : Spelled "null".toList .null
  | true : Spelled "true".toList (.boolean true)
  | false : Spelled "false".toList (.boolean false)
  | integer {numeral : Numeral} {n : Int64} (number : Digits numeral.digits)
    (denotes : numeral.value = n.toInt) : Spelled numeral.text (.integer n)
  | float {text : List Char} {x : Float} (decimal : Decimal text)
    (denotes : Reading.float? text = some x) : Spelled text (.float x)
  | string {quote : Char} {written meant : List Char} (quotes : quote = '\'' ∨ quote = '"')
    (body : QuotedText quote written meant) :
    Spelled (quote :: (written ++ [quote])) (.string (String.ofList meant))

/-- The texts that are written as literals, integers of any size among them. -/
inductive IsLiteral : List Char → Prop
  | null : IsLiteral "null".toList
  | true : IsLiteral "true".toList
  | false : IsLiteral "false".toList
  | integer {numeral : Numeral} (number : Digits numeral.digits) : IsLiteral numeral.text
  | float {text : List Char} (decimal : Decimal text) : IsLiteral text
  | string {quote : Char} {written meant : List Char} (quotes : quote = '\'' ∨ quote = '"')
    (body : QuotedText quote written meant) : IsLiteral (quote :: (written ++ [quote]))

/-! ## Productions -/

/-- The tokens of items one after another. -/
inductive Sequence {β : Type} (item : List (List Char) → β → Prop) :
    List (List Char) → List β → Prop
  | nil : Sequence item [] []
  | cons {front back : List (List Char)} {x : β} {xs : List β} (first : item front x)
    (rest : Sequence item back xs) : Sequence item (front ++ back) (x :: xs)

section Productions

variable {α : Type} (spelled : List Char → α → Prop)

mutual

/-- The tokens of a value: a literal or a path. -/
inductive Expr.Spelled : List (List Char) → Expr α → Prop
  | literal {text : List Char} {x : α} (literal : spelled text x) : Expr.Spelled [text] (.literal x)
  | path {front back : List (List Char)} {root : Root α} {segments : List (Segment α)}
    (start : Root.Spelled front root) (steps : Sequence Segment.Spelled back segments) :
    Expr.Spelled (front ++ back) (.path root segments)

/-- The tokens of a root: a name or a function call. -/
inductive Root.Spelled : List (List Char) → Root α → Prop
  | identifier {name : String} (named : IsName name.toList) :
    Root.Spelled [name.toList] (.identifier name)
  | call {space name : String} {inner : List (List Char)} {arguments : List (Expr α)}
    (spaceNamed : IsName space.toList) (named : IsName name.toList)
    (given : Expr.ArgumentsSpelled inner arguments) :
    Root.Spelled (space.toList :: [':'] :: name.toList :: ['('] :: (inner ++ [[')']]))
      (.call space name arguments)

/-- The tokens of a segment: a point and a name, or a value in brackets. -/
inductive Segment.Spelled : List (List Char) → Segment α → Prop
  | property {name : String} (named : IsName name.toList) :
    Segment.Spelled [['.'], name.toList] (.property name)
  | index {inner : List (List Char)} {index : Expr α} (value : Expr.Spelled inner index) :
    Segment.Spelled (['['] :: (inner ++ [[']']])) (.index index)

/-- The tokens of arguments: none at all, or values with commas between them. -/
inductive Expr.ArgumentsSpelled : List (List Char) → List (Expr α) → Prop
  | none : Expr.ArgumentsSpelled [] []
  | some {front back : List (List Char)} {first : Expr α} {rest : List (Expr α)}
    (value : Expr.Spelled front first) (further : Sequence Expr.FurtherSpelled back rest) :
    Expr.ArgumentsSpelled (front ++ back) (first :: rest)

/-- The tokens of an argument after the first: a comma and a value. -/
inductive Expr.FurtherSpelled : List (List Char) → Expr α → Prop
  | comma {inner : List (List Char)} {argument : Expr α} (value : Expr.Spelled inner argument) :
    Expr.FurtherSpelled ([','] :: inner) argument

end

end Productions

/-- A text renders an expression if it consists of tokens that spell it. -/
def Expr.RenderedBy (e : Expr Literal) (text : List Char) : Prop :=
  ∃ tokens, Expr.Spelled Literal.Spelled tokens e ∧ Spread tokens text

/-- A text renders segments if it consists of tokens that spell them. -/
def Segment.RenderedBy (segments : List (Segment Literal)) (text : List Char) : Prop :=
  ∃ tokens, Sequence (Segment.Spelled Literal.Spelled) tokens segments ∧ Spread tokens text

/-- What is left of an expression without its literals. -/
abbrev Shape := Expr Unit

/-- The tokens of a shape, whatever its literals denote. -/
abbrev Shape.Spelled (tokens : List (List Char)) (shape : Shape) : Prop :=
  Expr.Spelled (fun w _ => IsLiteral w) tokens shape

/-- A text is of the grammar if it consists of the tokens of some shape. -/
def Grammatical (text : List Char) : Prop :=
  ∃ tokens shape, Shape.Spelled tokens shape ∧ Spread tokens text

/-! ## Depth -/

variable {α : Type}

mutual

/-- How deep the brackets and the parentheses of an expression nest. -/
def Expr.depth : Expr α → Nat
  | .literal _ => 0
  | .path root segments => max root.depth (Segment.depthOf segments)

/-- The depth of a root. A call opens a level even without arguments. -/
def Root.depth : Root α → Nat
  | .identifier _ => 0
  | .call _ _ arguments => Expr.depthOf arguments + 1

/-- The depth of a segment. -/
def Segment.depth : Segment α → Nat
  | .property _ => 0
  | .index index => index.depth + 1

/-- The depth of the deepest of some expressions. -/
def Expr.depthOf : List (Expr α) → Nat
  | [] => 0
  | first :: rest => max first.depth (Expr.depthOf rest)

/-- The depth of the deepest of some segments. -/
def Segment.depthOf : List (Segment α) → Nat
  | [] => 0
  | first :: rest => max first.depth (Segment.depthOf rest)

end

end PropertyPath
