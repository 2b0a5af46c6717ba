import PropertyPath.Toml.Item
import PropertyPath.Toml.Token

/-!
# Reading TOML documents

A document is a sequence of lines: comments, headers, and keys with values below
the last header. It is accepted as a whole or not at all.
-/

namespace PropertyPath.Toml

open Reader

/-- The levels of arrays and inline tables a value may have. -/
def levelLimit : Nat := 79

variable (nested : Reader Item)

/-- An item of an array with the filler around it. -/
def arrayItem : Reader Item := fun text => do
  let (item, text) ← nested (filler text)
  return (item, filler text)

/-- The items of an array from the opening bracket on; a comma may end them. -/
def array : Reader Item := fun text => do
  let ((), text) ← character '[' text
  let (items, text) :=
    match arrayItem nested text with
    | none => ([], text)
    | some (first, text) =>
      let (others, text) := many (fun text => do
        let ((), text) ← character ',' text
        arrayItem nested text) text
      let text := ((character ',' text).map Prod.snd).getD text
      (first :: others, text)
  let ((), text) ← character ']' (filler text)
  return (.array items, text)

/-- A dotted key, an equals sign and a value. -/
def assignment : Reader ((List String × String) × Item) := fun text => do
  let (key, text) ← key text
  let ((), text) ← character '=' text
  let (item, text) ← nested (skipBlanks text)
  return ((key, item), skipBlanks text)

/-- A table on one line, without a comma after its last key. -/
def inlineTable : Reader Item := fun text => do
  let ((), text) ← character '\x7b' text
  let (pairs, text) :=
    match assignment nested text with
    | none => ([], text)
    | some (first, text) =>
      let (others, text) := many (fun text => do
        let ((), text) ← character ',' text
        assignment nested text) text
      (first :: others, text)
  let ((), text) ← character '\x7d' (skipBlanks text)
  let entries ← pairs.foldlM (fun entries ((path, key), item) =>
    Entries.define path key item .inlined entries) []
  return (.table .inlined entries, text)

/-- A value, told by its first character. -/
def valueOver : Reader Item := fun text =>
  match text with
  | [] => none
  | first :: _ =>
    if first = '"' || first = '\'' then mapping Item.string string text
    else if first = '[' then array nested text
    else if first = '\x7b' then inlineTable nested text
    else if first = 't' then mapping (fun _ => Item.boolean true) (exactly "true".toList) text
    else if first = 'f' then mapping (fun _ => Item.boolean false) (exactly "false".toList) text
    else
      orElse (mapping (fun _ => Item.datetime) datetime)
        (orElse (mapping Item.float (orElse decimal specialFloat)) (mapping Item.integer integer)) text

/-- A value with at most the given number of levels. -/
def value : Nat → Reader Item
  | 0 => fun text =>
    match text with
    | '[' :: _ | '\x7b' :: _ => none
    | _ => valueOver (fun _ => none) text
  | levels + 1 => valueOver (value levels)

/-- A document as far as it was read: its entries, and the path of the last header. -/
structure Progress where
  header : List String := []
  entries : Entries := []

/-- What one line does to the document. -/
abbrev Line := Progress → Option Progress

/-- A header in single or double brackets. -/
def header : Reader Line := fun text => do
  let ((), text) ← character '[' text
  match text with
  | '[' :: text =>
    let ((path, last), text) ← key text
    let ((), text) ← exactly [']', ']'] text
    return (fun p => (Entries.openElement path last p.entries).map (⟨path ++ [last], ·⟩), text)
  | _ =>
    let ((path, last), text) ← key text
    let ((), text) ← character ']' text
    return (fun p => (Entries.openTable path last p.entries).map (⟨path ++ [last], ·⟩), text)

/-- A key with its value, below the last header. -/
def definition : Reader Line := fun text => do
  let (((path, last), item), text) ← assignment (value levelLimit) text
  return (fun p => (Entries.defineAt p.header path last item p.entries).map (⟨p.header, ·⟩), text)

/-- A line that changes nothing: blanks and perhaps a comment, then a line feed or,
after a comment, the end of the document. -/
def emptyLine : Reader Line := fun text =>
  match comment text with
  | some ((), text) => mapping (fun _ => some) lineEnd text
  | none => mapping (fun _ => some) newline text

/-- A header or a definition with the end of its line. -/
def fullLine : Reader Line := fun text => do
  let (line, text) ← if text.head? = some '[' then header text else definition text
  let ((), text) ← trailing text
  return (line, text)

/-- Any line. -/
def anyLine : Reader Line := fun text => orElse emptyLine fullLine (skipBlanks text)

/-- The text without a byte order mark at its start. -/
def withoutMark : List Char → List Char
  | '\uFEFF' :: rest => rest
  | text => text

/-- The entries of a document, if the whole text is one. -/
def document? (text : List Char) : Option Entries := do
  let (lines, rest) := many anyLine (withoutMark text)
  if !(skipBlanks rest).isEmpty then none
  let progress ← lines.foldlM (fun progress line => line progress) {}
  return progress.entries

end PropertyPath.Toml
