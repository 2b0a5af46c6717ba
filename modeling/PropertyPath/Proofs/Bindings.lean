import PropertyPath.Proofs.Walk

/-!
# Induction through bindings

An expression is evaluated with the variables bound when it was compiled, and these
may be expressions with variables of their own. What holds of the requests on fixed
values, and passes from the variables and functions of an expression to the requests
on the expression itself, holds of the requests on every compiled expression. The
functions that matter are those bound in the expression and in the expressions its
variables stand for.
-/

namespace PropertyPath

variable {ρ : Type}

mutual

/-- The functions that a request on a variable may call. -/
def Binding.reachableFunctions : Binding ρ → List (Function ρ)
  | .literal _ => []
  | .expression compiled => compiled.reachableFunctions

/-- The functions that a request on a compiled expression may call: its own, and
those of the expressions its variables stand for. -/
def Compiled.reachableFunctions : Compiled ρ → List (Function ρ)
  | ⟨_, _, captured, functions⟩ =>
    functions.map Prod.snd ++ Binding.functionsBehind captured

/-- The functions that requests on some variables may call. -/
def Binding.functionsBehind : List (String × Binding ρ) → List (Function ρ)
  | [] => []
  | (_, binding) :: rest => binding.reachableFunctions ++ Binding.functionsBehind rest

end

/-- The names of an environment stand for requests and functions of a kind. -/
structure Environment.Supplies (env : Environment ρ) (Good : Handle ρ → Prop)
    (Harmless : Function ρ → Prop) : Prop where
  ofVariable : ∀ name h, env.variableOf name = some h → Good h
  ofFunction : ∀ space name f, env.functionOf space name = some f → Harmless f

/-- A property of requests that fixed values have and that passes to an expression
from the variables and functions of its environment. -/
structure Chain.Hereditary (chain : Chain ρ) (Good : Handle ρ → Prop)
    (Harmless : Function ρ → Prop) : Prop where
  literal : ∀ value, Good ((Binding.literal value).handle chain)
  expression : ∀ (env : Environment ρ) (expr : Expr Literal), env.chain = chain →
    env.Supplies Good Harmless → Good (expr.handle env)

section Law

variable {chain : Chain ρ} {Good : Handle ρ → Prop} {Harmless : Function ρ → Prop}

mutual

/-- What a binding stands for is as good as fixed values and compiled expressions are. The induction
is on the nesting of bindings, in three mutual steps. -/
theorem Binding.handle_law (passes : chain.Hereditary Good Harmless) : ∀ binding : Binding ρ,
    (∀ f ∈ binding.reachableFunctions, Harmless f) → Good (binding.handle chain)
  | .literal value, _ => passes.literal value
  | .expression compiled, harmless => by
    rw [Binding.handle]
    rw [Binding.reachableFunctions] at harmless
    exact Compiled.handle_law passes compiled harmless

/-- A hereditary property holds of every compiled expression whose functions are
harmless. The induction follows the nesting of bindings. -/
theorem Compiled.handle_law (passes : chain.Hereditary Good Harmless) : ∀ c : Compiled ρ,
    (∀ f ∈ c.reachableFunctions, Harmless f) → Good (c.handle chain)
  | ⟨source, expr, captured, functions⟩, harmless => by
    rw [Compiled.reachableFunctions] at harmless
    rw [Compiled.handle_eq]
    refine passes.expression _ expr rfl ⟨?_, ?_⟩
    · intro name h found
      have behind : ∀ f ∈ Binding.functionsBehind captured, Harmless f :=
        fun f member => harmless f (List.mem_append_right _ member)
      exact Binding.search_law passes captured behind name h found
    · intro space name f found
      exact harmless f (List.mem_append_left _ (List.mem_map_of_mem (mem_of_lookup_eq_some found)))

/-- Whatever a search through captured bindings finds is good. -/
theorem Binding.search_law (passes : chain.Hereditary Good Harmless) :
    ∀ captured : List (String × Binding ρ),
    (∀ f ∈ Binding.functionsBehind captured, Harmless f) →
    ∀ name h, Binding.search chain captured name = some h → Good h
  | [], _, name, h, found => by
    rw [Binding.search] at found
    cases found
  | (other, binding) :: rest, harmless, name, h, found => by
    rw [Binding.functionsBehind] at harmless
    rw [Binding.search] at found
    by_cases here : name = other
    · have own : ∀ f ∈ binding.reachableFunctions, Harmless f :=
        fun f member => harmless f (List.mem_append_left _ member)
      rw [if_pos here] at found
      cases found
      exact Binding.handle_law passes binding own
    · have later : ∀ f ∈ Binding.functionsBehind rest, Harmless f :=
        fun f member => harmless f (List.mem_append_right _ member)
      rw [if_neg here] at found
      exact Binding.search_law passes rest later name h found

end

end Law

end PropertyPath
