/-!
# Nesting depth of a text

The brackets and parentheses of a text open and close levels; those between
quotes do not count, and a backslash between quotes protects the next character.
A closing character without an opening one is ignored. The scan looks at the text
alone, whether or not it is an expression.
-/

namespace PropertyPath.Nesting

/-- The levels an expression may open. -/
def limit : Nat := 64

/-- Where the scan stands: outside quotes, between quotes, or between quotes
after a backslash. -/
inductive Mode where
  | plain
  | quoted (quote : Char)
  | escaped (quote : Char)
  deriving DecidableEq, Repr

/-- The mode of the scan and the number of open levels. -/
structure State where
  mode : Mode := .plain
  depth : Nat := 0
  deriving DecidableEq, Repr

/-- The state after a character; none if the character opens a level too many. -/
def State.step? (s : State) (c : Char) : Option State :=
  match s.mode with
  | .escaped quote => some { s with mode := .quoted quote }
  | .quoted quote =>
    if c = '\\' then some { s with mode := .escaped quote }
    else if c = quote then some { s with mode := .plain }
    else some s
  | .plain =>
    if c = '\'' ∨ c = '"' then some { s with mode := .quoted c }
    else if c = '[' ∨ c = '(' then
      if s.depth < limit then some { s with depth := s.depth + 1 } else none
    else if c = ']' ∨ c = ')' then some { s with depth := s.depth - 1 }
    else some s

/-- The part of a text that begins with the first bracket or parenthesis beyond
the limit. -/
def excess? (s : State) : List Char → Option (List Char)
  | [] => none
  | c :: rest =>
    match s.step? c with
    | none => some (c :: rest)
    | some next => excess? next rest

end PropertyPath.Nesting
