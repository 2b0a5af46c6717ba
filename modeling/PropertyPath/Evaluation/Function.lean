import PropertyPath.Resolver.Basic
import PropertyPath.Table.Dictionary

/-!
# Functions

A function is called with evaluated arguments, whose count is checked first where
the function fixes it. Functions are bound by a prefix and a name below it.
-/

namespace PropertyPath

variable {ρ : Type}

/-- A function with its own name and, unless it takes any number, its number of
arguments. -/
structure Function (ρ : Type) where
  name : String
  arity : Option Nat
  body : List Value → Attempt ρ Value

namespace Function

/-- Calls a function, unless the number of arguments is wrong. -/
def call (f : Function ρ) (arguments : List Value) : Attempt ρ Value :=
  match f.arity with
  | none => f.body arguments
  | some expected =>
    if arguments.length = expected then f.body arguments
    else throw (.invocation (.argumentCount f.name expected arguments.length))

/-- A function under inspection: its name and its number of arguments. -/
def inspect (f : Function ρ) : String :=
  "NativeFunction(" ++ f.name ++ "/"
    ++ (match f.arity with
        | none => "None"
        | some n => "Some(" ++ toString n ++ ")")
    ++ ")"

end Function

/-- Functions by prefix, and below it by name. -/
structure FunctionTable (ρ : Type) where
  spaces : Dictionary (Dictionary (Function ρ)) := .empty

namespace FunctionTable

/-- The functions of a prefix. -/
def space (t : FunctionTable ρ) (space : String) : Dictionary (Function ρ) :=
  (t.spaces.get? space).getD .empty

/-- The function bound under a prefix and a name. -/
def find? (t : FunctionTable ρ) (space name : String) : Option (Function ρ) :=
  (t.space space).get? name

/-- Binds a function; an empty name stands for the function's own. -/
def define (t : FunctionTable ρ) (space name : String) (f : Function ρ) : FunctionTable ρ :=
  ⟨t.spaces.insert space ((t.space space).insert (if name.isEmpty then f.name else name) f)⟩

/-- The function that a definition would replace. -/
def replaced? (t : FunctionTable ρ) (space name : String) (f : Function ρ) : Option (Function ρ) :=
  t.find? space (if name.isEmpty then f.name else name)

/-- Whether any function is bound under a prefix. -/
def hasSpace (t : FunctionTable ρ) (space : String) : Bool := t.spaces.contains space

/-- All bound names with their prefixes, in increasing order. -/
def qualifiedNames (t : FunctionTable ρ) : List String :=
  (t.spaces.entries.flatMap fun (space, functions) =>
    functions.names.map fun name => space ++ ":" ++ name).mergeSort (· ≤ ·)

end FunctionTable

end PropertyPath
