import PropertyPath.Evaluation.Function
import PropertyPath.Resolver.Chain
import PropertyPath.Syntax.Expr

/-!
# Walking paths

A path is walked from its root, one request to the chain per segment. Reading
stops with null at a null base. Writing, and asking for the type or for
writability, walk to the last segment only and make their own request there; on
these walks a null base is a fault. Index expressions after a null base are not
evaluated on either walk.
-/

namespace PropertyPath

variable {ρ α : Type}

/-- The value of a literal. -/
def Literal.value : Literal → Value
  | null => .null
  | boolean b => .boolean b
  | integer n => .integer n
  | float x => .float x
  | string s => .string s

/-- The four requests on what an expression or a name stands for. -/
structure Handle (ρ : Type) where
  get : Attempt ρ Value
  type : Attempt ρ ValueType
  readOnly : Attempt ρ Bool
  set : Value → Attempt ρ Unit

/-- What names mean while an expression is evaluated: variables and functions
bound for it, and a chain for everything else. The source is quoted in faults. -/
structure Environment (ρ : Type) where
  source : String
  chain : Chain ρ
  variableOf : String → Option (Handle ρ)
  functionOf : String → String → Option (Function ρ)

/-- The fault of a root name that nobody claims. -/
def unknownIdentifier (name : String) : Attempt ρ α :=
  throw (.notFound (.identifier name))

/-- The fault of a property that nobody claims. -/
def unknownProperty (base property : Value) : Attempt ρ α :=
  failWith fun s => .notFound (.propertyOfType (s.text property) (s.typeOf base))

namespace Environment

/-- A root name in the chain. -/
def rootHandle (env : Environment ρ) (name : String) : Handle ρ where
  get := claimedOr (env.chain.toResolver.get (.root name)) (unknownIdentifier name)
  type := claimedOr (env.chain.toResolver.type (.root name)) (unknownIdentifier name)
  readOnly := claimedOr (env.chain.toResolver.readOnly (.root name)) (unknownIdentifier name)
  set value := env.chain.assign (.root name) value

/-- A name: the variable bound to it, or else a root name in the chain. -/
def name (env : Environment ρ) (name : String) : Handle ρ :=
  (env.variableOf name).getD (env.rootHandle name)

/-- A property of a value. -/
def propertyHandle (env : Environment ρ) (base property : Value) : Handle ρ where
  get := claimedOr (env.chain.toResolver.get (.on base property)) (unknownProperty base property)
  type := claimedOr (env.chain.toResolver.type (.on base property)) (unknownProperty base property)
  readOnly :=
    claimedOr (env.chain.toResolver.readOnly (.on base property)) (unknownProperty base property)
  set value := env.chain.assign (.on base property) value

end Environment

mutual

/-- The value of an expression. -/
def Expr.value (env : Environment ρ) : Expr Literal → Attempt ρ Value
  | .literal l => pure l.value
  | .path root segments => do Segment.walk env segments (← root.value env)

/-- The value of a root. A function is looked up before its arguments are
evaluated. -/
def Root.value (env : Environment ρ) : Root Literal → Attempt ρ Value
  | .identifier name => (env.name name).get
  | .call space name arguments =>
    match env.functionOf space name with
    | none => throw (.unboundFunction space name)
    | some f => do f.call (← Expr.values env arguments)

/-- The property a segment asks for. -/
def Segment.key (env : Environment ρ) : Segment Literal → Attempt ρ Value
  | .property name => pure (.string name)
  | .index index => index.value env

/-- The values of arguments, from left to right. -/
def Expr.values (env : Environment ρ) : List (Expr Literal) → Attempt ρ (List Value)
  | [] => pure []
  | first :: rest => do
    let value ← first.value env
    return value :: (← Expr.values env rest)

/-- The value at the end of segments, null from a null base on. -/
def Segment.walk (env : Environment ρ) : List (Segment Literal) → Value → Attempt ρ Value
  | [], base => pure base
  | first :: rest, base =>
    if base.isNull then pure .null
    else do
      let property ← first.key env
      Segment.walk env rest (← (env.propertyHandle base property).get)

end

/-- Where a path leads when it is not read: to a name, to the result of a function,
to a property of a value, or nowhere since a null base comes before its last
segment. -/
inductive Target where
  | root (name : String)
  | callResult
  | property (base property : Value)
  | unreachable

/-- Walks to the last of some segments, which is not read itself. -/
def Segment.locate (env : Environment ρ) :
    Segment Literal → List (Segment Literal) → Value → Attempt ρ Target
  | last, [], base =>
    if base.isNull then pure .unreachable
    else return .property base (← last.key env)
  | first, next :: rest, base =>
    if base.isNull then pure .unreachable
    else do
      let property ← first.key env
      Segment.locate env next rest (← (env.propertyHandle base property).get)

/-- Where a path leads. -/
def Root.target (env : Environment ρ) (root : Root Literal) :
    List (Segment Literal) → Attempt ρ Target
  | [] =>
    match root with
    | .identifier name => pure (.root name)
    | .call _ _ _ => pure .callResult
  | first :: rest => do Segment.locate env first rest (← root.value env)

/-- The requests on the target of a path from a root. The result of a function can
be read and nothing else; what is out of reach reads as null. -/
def Target.handle (env : Environment ρ) (root : Root Literal) : Target → Handle ρ
  | .root name => env.name name
  | .callResult =>
    { get := root.value env
      type := do
        let value ← root.value env
        return (← get).store.typeOf value
      readOnly := pure true
      set := fun _ => throw (.notWritable (.callResult env.source)) }
  | .property base key => env.propertyHandle base key
  | .unreachable =>
    { get := pure .null
      type := throw (.notFound (.unreachable env.source))
      readOnly := throw (.notFound (.unreachable env.source))
      set := fun _ => throw (.notFound (.unreachable env.source)) }

/-- The requests on a literal. -/
def Literal.handle (env : Environment ρ) (l : Literal) : Handle ρ where
  get := pure l.value
  type := return (← get).store.typeOf l.value
  readOnly := pure true
  set _ := throw (.notWritable (.literal env.source))

/-- The requests on an expression. Only reading walks a path to its end. -/
def Expr.handle (env : Environment ρ) : Expr Literal → Handle ρ
  | .literal l => l.handle env
  | .path root segments =>
    { get := Expr.value env (.path root segments)
      type := do ((← root.target env segments).handle env root).type
      readOnly := do ((← root.target env segments).handle env root).readOnly
      set := fun value => do ((← root.target env segments).handle env root).set value }

end PropertyPath
