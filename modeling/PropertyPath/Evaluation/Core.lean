import PropertyPath.Evaluation.Function
import PropertyPath.Text.Case

/-!
# Core functions

Functions on texts and collections. They look at the store and change nothing.
Where a text is wanted, null counts as the empty text and any other value as the
text it displays.
-/

namespace PropertyPath

/-- The functions the library provides. -/
inductive CoreFunction where
  | length
  | join
  | toUpperCase
  | toLowerCase
  | contains
  deriving DecidableEq, Repr

namespace CoreFunction

/-- The core functions in order. -/
def all : List CoreFunction := [length, join, toUpperCase, toLowerCase, contains]

/-- The name of a core function. -/
def name : CoreFunction → String
  | length => "length"
  | join => "join"
  | toUpperCase => "toUpperCase"
  | toLowerCase => "toLowerCase"
  | contains => "contains"

/-- The number of its arguments. -/
def arity : CoreFunction → Nat
  | length | toUpperCase | toLowerCase => 1
  | join | contains => 2

/-- The text of a value, empty for null. -/
def textOf (s : Store) (value : Value) : String :=
  if value.isNull then "" else s.text value

/-- The number of items or entries of a collection, else of characters. -/
def lengthOf (s : Store) : Value → Nat
  | .sequence kind ref => (s.items kind ref).length
  | .map ref => (s.maps.get ref).size
  | value => (textOf s value).length

/-- The texts of the items of a sequence with a separator between them. Null has
no items; other values cannot be joined. -/
def joined (s : Store) (separator sequence : Value) : Except Fault String :=
  let items : Except Fault (List Value) :=
    if sequence.isNull then .ok []
    else match s.sequenceItems? sequence with
      | some items => .ok items
      | none => .error (.invocation (.notJoinable (s.typeOf sequence)))
  items.map fun items => (textOf s separator).intercalate (items.map (textOf s))

/-- Whether one text occurs in another. -/
def occursIn (part : List Char) : List Char → Bool
  | [] => part.isEmpty
  | c :: rest => part.isPrefixOf (c :: rest) || occursIn part rest

/-- Whether a sequence holds an equal item, a map an entry of that key, or a text
the other text. -/
def holds (s : Store) (whole part : Value) : Bool :=
  match whole with
  | .sequence kind ref => (s.items kind ref).any (·.equals part)
  | .map ref => (part.key?.map (s.maps.get ref).contains).getD false
  | whole => occursIn (textOf s part).toList (textOf s whole).toList

/-- What a core function gives; arguments that are missing count as null. -/
def apply (f : CoreFunction) (s : Store) (arguments : List Value) : Except Fault Value :=
  let first := arguments[0]?.getD .null
  let second := arguments[1]?.getD .null
  match f with
  | length => .ok (.integer (Int64.ofNat (lengthOf s first)))
  | join => (joined s first second).map .string
  | toUpperCase => .ok (.string (Text.toUpper (textOf s first)))
  | toLowerCase => .ok (.string (Text.toLower (textOf s first)))
  | contains => .ok (.boolean (holds s first second))

/-- A core function in any world. -/
def function {ρ : Type} (f : CoreFunction) : Function ρ where
  name := f.name
  arity := some f.arity
  body arguments := ExceptT.mk do return f.apply (← get).store arguments

/-- Binds all core functions under a prefix. -/
def register {ρ : Type} (table : FunctionTable ρ) (space : String) : FunctionTable ρ :=
  all.foldl (fun table f => table.define space "" f.function) table

end CoreFunction

end PropertyPath
