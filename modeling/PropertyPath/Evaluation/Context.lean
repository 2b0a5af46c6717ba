import PropertyPath.Config.Basic
import PropertyPath.Evaluation.Compiled
import PropertyPath.Evaluation.Core
import PropertyPath.Resolver.Stock

/-!
# Contexts

A context is a chain with a scope of local variables, and the variables and
functions that expressions are compiled with. Its chain is, in order: local
variables if they come first, the namespaces, the resolvers of the host, the
resolvers of collections, and local variables if they come last.
-/

namespace PropertyPath

variable {ρ : Type}

/-- A class whose fields are constants. -/
def constantClass (name : String) (fields : List (String × Value)) : ClassObject :=
  fields.foldl (fun c (field, value) => c.define field value .constant) { name }

/-- The class of mathematical constants. -/
def mathClass : ClassObject :=
  constantClass "java.lang.Math"
    [("E", .float 2.718281828459045),
     ("LN10", .float 2.302585092994046),
     ("LN2", .float 0.6931471805599453),
     ("LOG10E", .float 0.4342944819032518),
     ("LOG2E", .float 1.4426950408889634),
     ("PI", .float 3.141592653589793),
     ("SQRT1_2", .float 0.7071067811865476),
     ("SQRT2", .float 1.4142135623730951)]

/-- A new registry with the core classes. -/
def Store.newCoreRegistry (s : Store) : Ref × Store :=
  let (registry, s) := s.newRegistry
  (registry, (s.registerClass registry mathClass).2)

/-- What expressions are compiled and evaluated with. Resolvers of the host go to
`customSlot`, which moves on with each of them. -/
structure Context (ρ : Type) where
  chain : Chain ρ
  customSlot : Nat
  scope : Ref
  bindings : Bindings ρ := .empty
  functions : FunctionTable ρ := {}

namespace Context

/-- Adds a resolver before those of collections and after those added earlier. -/
def addResolver (c : Context ρ) (r : Resolver ρ) : Context ρ :=
  { c with chain := c.chain.insert c.customSlot r, customSlot := c.customSlot + 1 }

/-- The resolvers of collections. -/
def collections (readOnly : Bool) : List (Resolver ρ) :=
  [(Stock.maps readOnly).resolver, (Stock.sequences .list readOnly).resolver,
   (Stock.sequences .array readOnly).resolver, (Stock.records readOnly).resolver]

/-- A context without namespaces and functions. -/
def bare (placement : LocalPlacement) (readOnly : Bool) (scope : Ref) : Context ρ :=
  let locals := (Stock.locals scope).resolver
  let collections : Chain ρ := ⟨collections readOnly⟩
  match placement with
  | .first => { chain := collections.prepend locals, customSlot := 1, scope }
  | .last => { chain := collections.append locals, customSlot := 0, scope }

/-- Assembles a context. Its local variables are its own, and so is its class of
mathematical constants. -/
def ofConfig (config : Config) (s : Store) : Context ρ × Store :=
  let (scope, s) := s.newScope
  let context := bare config.localVariables config.readOnlyCollections scope
  let (context, s) :=
    if config.classNamespace then
      let (registry, s) := s.newCoreRegistry
      (context.addResolver (Stock.classes (.registry registry)).resolver, s)
    else (context, s)
  let context :=
    if config.colorNamespace then context.addResolver Stock.colors.resolver else context
  let context :=
    if config.corePrefix.isEmpty then context
    else { context with functions := CoreFunction.register context.functions config.corePrefix }
  (context, s)

/-- Compiles a source with the variables and functions of the context. -/
def compile (c : Context ρ) (source : String) : Except Fault (Compiled ρ) :=
  Compiled.compile source c.bindings c.functions

/-- Makes one of the requests on a source. -/
def request {α : Type} (c : Context ρ) (source : String) (ask : Handle ρ → Attempt ρ α) :
    Attempt ρ α := do
  let compiled ← ExceptT.mk (pure (c.compile source))
  ask (compiled.handle c.chain)

/-- The value of a source. -/
def eval (c : Context ρ) (source : String) : Attempt ρ Value := c.request source (·.get)

/-- The type of a source. -/
def typeOf (c : Context ρ) (source : String) : Attempt ρ ValueType := c.request source (·.type)

/-- Whether a source cannot be written. -/
def isReadOnly (c : Context ρ) (source : String) : Attempt ρ Bool := c.request source (·.readOnly)

/-- Writes to a source. -/
def assign (c : Context ρ) (source : String) (value : Value) : Attempt ρ Unit :=
  c.request source (·.set value)

/-- Binds a variable, or takes it away. -/
def bind (c : Context ρ) (name : String) : Option (Binding ρ) → Context ρ
  | some binding => { c with bindings := c.bindings.insert name binding }
  | none => { c with bindings := c.bindings.erase name }

/-- Binds a function; an empty name stands for the function's own. -/
def defineFunction (c : Context ρ) (space name : String) (f : Function ρ) : Context ρ :=
  { c with functions := c.functions.define space name f }

end Context

end PropertyPath
