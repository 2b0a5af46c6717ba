import PropertyPath.Evaluation.Path
import PropertyPath.Syntax.Source

/-!
# Compiled expressions

Compiling an expression fixes the variables and functions its names stand for.
Binding a variable anew later does not change an expression that was compiled
before; whatever the chain resolves is read as it is at each evaluation. A
variable stands for a fixed value or for a compiled expression with bindings of
its own, so bindings are nested to a finite depth and never refer to themselves.
-/

namespace PropertyPath

variable {ρ : Type}

mutual

/-- What a variable is bound to. -/
inductive Binding (ρ : Type) where
  | literal (value : Value)
  | expression (compiled : Compiled ρ)

/-- An expression with its source, the variables and the functions bound for it. -/
structure Compiled (ρ : Type) where
  source : String
  expr : Expr Literal
  captured : List (String × Binding ρ)
  functions : List ((String × String) × Function ρ)

end

/-- The variables that are bound, by name. -/
abbrev Bindings (ρ : Type) := Dictionary (Binding ρ)

mutual

/-- The requests on a variable. A fixed value cannot be written. -/
def Binding.handle (chain : Chain ρ) : Binding ρ → Handle ρ
  | .literal value =>
    { get := pure value
      type := return (← get).store.typeOf value
      readOnly := pure true
      set := fun _ => failWith fun s => .notWritable (.literalBinding (s.text value)) }
  | .expression compiled => compiled.handle chain

/-- The requests on a compiled expression. -/
def Compiled.handle (chain : Chain ρ) : Compiled ρ → Handle ρ
  | ⟨source, expr, captured, functions⟩ =>
    expr.handle
      { source
        chain
        variableOf := Binding.search chain captured
        functionOf := fun space name => functions.lookup (space, name) }

/-- The requests on the variable of a name. They are formed when the name comes up
and not before, since several variables may share what they are bound to. -/
def Binding.search (chain : Chain ρ) : List (String × Binding ρ) → String → Option (Handle ρ)
  | [], _ => none
  | (other, binding) :: rest, name =>
    if name = other then some (binding.handle chain) else Binding.search chain rest name

end

/-- A search through what was captured finds the first binding of the name, as a lookup does; the
recursion is there for termination only. -/
theorem Binding.search_eq (chain : Chain ρ) (captured : List (String × Binding ρ)) (name : String) :
    Binding.search chain captured name = (captured.lookup name).map (·.handle chain) := by
  induction captured with
  | nil => simp [Binding.search]
  | cons first rest hypothesis =>
    obtain ⟨other, binding⟩ := first
    rcases Decidable.em (name = other) with same | apart
    · simp [Binding.search, same]
    · simp [Binding.search, apart, List.lookup_cons, beq_false_of_ne apart, hypothesis]

namespace Compiled

/-- Looks up the functions of calls, from left to right. -/
def bindCalls (functions : FunctionTable ρ) :
    List (String × String) → Except Fault (List ((String × String) × Function ρ))
  | [] => return []
  | (space, name) :: rest =>
    match functions.find? space name with
    | none => throw (.unboundFunction space name)
    | some f => return ((space, name), f) :: (← bindCalls functions rest)

/-- Compiles a source. Every function it calls must be bound; names without a
variable are left to the chain. -/
def compile (source : String) (bindings : Bindings ρ) (functions : FunctionTable ρ) :
    Except Fault (Compiled ρ) := do
  let expr ← (Expr.parse source).mapError .malformed
  let functions ← bindCalls functions expr.calls
  let captured := expr.rootNames.filterMap fun name => (bindings.get? name).map (name, ·)
  return { source, expr, captured, functions }

/-- The names of the variables bound for an expression, in increasing order. -/
def variableNames (c : Compiled ρ) : List String := (c.captured.map Prod.fst).mergeSort (· ≤ ·)

/-- A compiled expression under inspection. -/
def inspect (c : Compiled ρ) : String := "CompiledExpression(" ++ c.source ++ ")"

end Compiled

end PropertyPath
