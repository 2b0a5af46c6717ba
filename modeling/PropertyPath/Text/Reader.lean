/-!
# Readers

A reader takes something off the front of a text and returns it with the rest, or
does not apply. Repetition stops where the reader no longer applies or no longer
shortens the text, so it always ends.
-/

namespace PropertyPath

/-- Takes something off the front of a text, or does not apply. -/
abbrev Reader (α : Type) := List Char → Option (α × List Char)

namespace Reader

variable {α β : Type}

/-- A given character. -/
def character (c : Char) : Reader Unit
  | first :: rest => if first = c then some ((), rest) else none
  | [] => none

/-- A character of a class. -/
def one (p : Char → Bool) : Reader Char
  | first :: rest => if p first then some (first, rest) else none
  | [] => none

/-- The longest run of characters of a class, possibly empty. -/
def run (p : Char → Bool) (text : List Char) : List Char × List Char :=
  (text.takeWhile p, text.dropWhile p)

/-- The longest run of characters of a class, if there is one. -/
def someOf (p : Char → Bool) : Reader (List Char) := fun text =>
  if (text.takeWhile p).isEmpty then none else some (run p text)

/-- A given run of characters. -/
def exactly : List Char → Reader Unit
  | [], text => some ((), text)
  | c :: rest, first :: text => if first = c then exactly rest text else none
  | _ :: _, [] => none

/-- What a reader takes, transformed. -/
def mapping (f : α → β) (reader : Reader α) : Reader β := fun text =>
  (reader text).map fun (x, after) => (f x, after)

/-- A second reader where the first does not apply. -/
def orElse (first second : Reader α) : Reader α := fun text =>
  match first text with
  | some result => some result
  | none => second text

/-- Applies a reader as often as it applies and shortens the text. -/
def many (reader : Reader α) (text : List Char) : List α × List Char :=
  match reader text with
  | none => ([], text)
  | some (first, rest) =>
    if rest.length < text.length then
      let (others, after) := many reader rest
      (first :: others, after)
    else ([], text)
termination_by text.length

end Reader

end PropertyPath
