import PropertyPath.Syntax.Failure
import PropertyPath.Value.Basic

/-!
# Faults

Everything that can go wrong with an expression, as causes. A fault keeps the
texts of values as they were when it arose, since their contents may change
afterwards.
-/

namespace PropertyPath

/-- Why something was not found. -/
inductive Absence where
  | identifier (name : String)
  | propertyOfType (property : String) (type : ValueType)
  | propertyOfRecord (property typeName : String)
  | unreachable (source : String)
  | index (property : String)
  | outOfBounds (index : Int64) (length : Nat)
  | mapKey (property : String)
  | recordName (typeName name : String)
  | className (name : String)
  | field (name className : String)
  | color (name : String)
  | reported (message : String)
  deriving DecidableEq, Repr

/-- Why something cannot be assigned. -/
inductive Refusal where
  | literal (source : String)
  | callResult (source : String)
  | literalBinding (value : String)
  | unclaimed (property : String)
  | readOnlyMap (property : String)
  | readOnlySequence (kind : SequenceKind) (property : String)
  | readOnlyRecord (property : String)
  | readOnlyProperty (name typeName : String)
  | noSetter (typeName name : String)
  | classRoot
  | classNamespace (property : String)
  | finalField (className property : String)
  | colorConstant (property : String)
  | implicitObject (root : String)
  deriving DecidableEq, Repr

/-- Why a function call failed. -/
inductive InvocationFailure where
  | argumentCount (function : String) (expected given : Nat)
  | notJoinable (type : ValueType)
  | reported (message : String)
  deriving DecidableEq, Repr

/-- Why a request or an expression failed. -/
inductive Fault where
  | notFound (cause : Absence)
  | notWritable (cause : Refusal)
  | malformed (failure : SyntaxFailure)
  | unboundFunction (space name : String)
  | invocation (cause : InvocationFailure)
  deriving DecidableEq, Repr

/-- The text of an absence. -/
def Absence.text : Absence → String
  | identifier name => "identifier '" ++ name ++ "' cannot be resolved"
  | propertyOfType property type => "property '" ++ property ++ "' not found on type " ++ type.text
  | propertyOfRecord property typeName =>
    "property '" ++ property ++ "' not found on type " ++ typeName
  | unreachable source => "target unreachable: '" ++ source ++ "' passes through null"
  | index property => "invalid index: " ++ property
  | outOfBounds position length =>
    "index " ++ toString position.toInt ++ " out of bounds for length " ++ toString length
  | mapKey property => "invalid map key: " ++ property
  | recordName typeName name => typeName ++ "." ++ name
  | className name => "undefined class name: " ++ name
  | field name owner => "undefined field: " ++ name ++ "/class=" ++ owner
  | color name => "undefined color: " ++ name
  | reported message => message

/-- The text of a refusal. -/
def Refusal.text : Refusal → String
  | literal source => "cannot assign to literal '" ++ source ++ "'"
  | callResult source => "cannot assign to function result '" ++ source ++ "'"
  | literalBinding value => "variable bound to literal " ++ value
  | unclaimed property => "no resolver accepts assignment to '" ++ property ++ "'"
  | readOnlyMap property => "map is read-only: " ++ property
  | readOnlySequence kind property => kind.text ++ " is read-only: [" ++ property ++ "]"
  | readOnlyRecord property => "record is read-only: " ++ property
  | readOnlyProperty name typeName => "property '" ++ name ++ "' is read-only on type " ++ typeName
  | noSetter typeName name => typeName ++ "." ++ name ++ " has no setter"
  | classRoot => "cannot assign to Class"
  | classNamespace property => "cannot assign to Class[" ++ property ++ "]"
  | finalField className property => className ++ "." ++ property ++ " is final"
  | colorConstant property => "color constants cannot be assigned: " ++ property
  | implicitObject root => "'" ++ root ++ "' is an implicit object"

/-- The text of a failed call. -/
def InvocationFailure.text : InvocationFailure → String
  | argumentCount function expected given =>
    function ++ " expects " ++ toString expected ++ " argument(s), got " ++ toString given
  | notJoinable type => "join expects a list or array, got " ++ type.text
  | reported message => message

/-- The text of a fault. -/
def Fault.text : Fault → String
  | notFound cause => "property not found: " ++ cause.text
  | notWritable cause => "property not writable: " ++ cause.text
  | malformed failure => "syntax error: " ++ failure.text
  | unboundFunction space name => "function not found: " ++ space ++ ":" ++ name
  | invocation cause => "invocation failed: " ++ cause.text

end PropertyPath
