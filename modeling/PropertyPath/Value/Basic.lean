import PropertyPath.Table.Arena
import PropertyPath.Text.Blank
import PropertyPath.Value.Color
import PropertyPath.Value.Number

/-!
# Values

A value is plain data or a reference to contents in a store. Lists, arrays, maps,
records and classes are references, so a copy of the value shares its contents,
and two of them are equal exactly if they are the same reference. A marker stands
for the root of a namespace and carries nothing else.
-/

namespace PropertyPath

/-- The namespaces that hand out markers. -/
inductive Namespace where
  | classes
  | colors
  deriving DecidableEq, Repr, Inhabited

/-- The two kinds of sequence. Neither changes its length by assignment. -/
inductive SequenceKind where
  | list
  | array
  deriving DecidableEq, Repr, Inhabited

/-- The word for a kind of sequence. -/
def SequenceKind.text : SequenceKind → String
  | list => "list"
  | array => "array"

/-- A datum that flows through a path. -/
inductive Value where
  | null
  | boolean (b : Bool)
  | string (s : String)
  | number (n : Number)
  | sequence (kind : SequenceKind) (ref : Ref)
  | map (ref : Ref)
  | record (ref : Ref)
  | classObject (ref : Ref)
  | marker (issuer : Namespace)
  | color (c : Color)
  deriving DecidableEq, Inhabited

/-- The identity of a value that may hold itself: a sequence or a map. -/
inductive Container where
  | sequence (kind : SequenceKind) (ref : Ref)
  | map (ref : Ref)
  deriving DecidableEq

namespace Value

/-- The integer value of a 64-bit word. -/
def integer (n : Int64) : Value := .number (.integer n)

/-- The value of a double. -/
def float (x : Float) : Value := .number (.float x)

/-- Whether the value is null. -/
def isNull : Value → Bool
  | null => true
  | _ => false

/-- The test for null is true of null alone. -/
theorem isNull_iff {v : Value} : v.isNull = true ↔ v = null := by
  cases v <;> simp [isNull]

/-- Whether the value is a marker of the given namespace. -/
def isMarkerOf (issuer : Namespace) : Value → Bool
  | marker other => other = issuer
  | _ => false

/-- Plain data compare by content, numbers by `Number.equals`, references by
identity. -/
def equals : Value → Value → Bool
  | number m, number n => m.equals n
  | v, w => v = w

/-- The textual key a property denotes: a string itself, and the text of a number
or a truth value. -/
def key? : Value → Option String
  | string s => some s
  | number n => some n.text
  | boolean b => some (if b then "true" else "false")
  | _ => none

/-- The index a property denotes: that of a number, or a string that holds a
64-bit integer between blank characters. -/
def index? : Value → Option Int64
  | number n => n.index?
  | string s => Reading.int64? (Text.trim s.toList)
  | _ => none

/-- The container a value refers to. -/
def container? : Value → Option Container
  | sequence kind ref => some (.sequence kind ref)
  | map ref => some (.map ref)
  | _ => none

end Value

/-- The type a request reports. `any` answers where nothing more is known. -/
inductive ValueType where
  | any
  | null
  | boolean
  | string
  | number
  | sequence (kind : SequenceKind)
  | map
  | record (typeName : String)
  | classObject
  | marker (issuer : Namespace)
  | color
  deriving DecidableEq, Repr, Inhabited

/-- The text of a type. -/
def ValueType.text : ValueType → String
  | any => "any"
  | null => "null"
  | boolean => "boolean"
  | string => "string"
  | number => "number"
  | sequence kind => kind.text
  | map => "map"
  | record typeName => "record " ++ typeName
  | classObject => "class"
  | marker .classes => "class namespace"
  | marker .colors => "color namespace"
  | color => "color"

end PropertyPath
