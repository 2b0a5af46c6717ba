import PropertyPath.Proofs.Reach
import PropertyPath.Evaluation.Context

/-!
# What compiling captures

An expression is compiled in three steps, each of which may be the last: its source is
read, the functions it calls are looked up, and the variables its names stand for are
noted. What is noted is looked up again by name at evaluation. So a name in a compiled
expression stands for the variable that was bound to it when it was compiled, a call
for the function that was bound then, and a name without a variable for whatever the
chain makes of it.
-/

namespace PropertyPath

variable {ρ α : Type}

/-- The entries noted from a table for some keys hold what the table holds for them,
and nothing for other keys. -/
theorem lookup_noted {κ : Type} [BEq κ] [LawfulBEq κ] (keys : List κ) (table : κ → Option α)
    (key : κ) : (keys.filterMap fun k => (table k).map (k, ·)).lookup key
      = if key ∈ keys then table key else none := by
  induction keys with
  | nil => rfl
  | cons k rest hypothesis =>
    rw [List.filterMap_cons]
    by_cases here : key = k
    · subst here
      cases found : table key with
      | none => simp [found, hypothesis]
      | some x => simp
    · have apart : (key == k) = false := by simpa using here
      cases table k <;> simp [List.lookup_cons, here, apart, hypothesis]

/-- Noting from two tables that hold the same for the keys is noting the same. -/
theorem noted_congr {κ : Type} {keys : List κ} {table other : κ → Option α}
    (same : ∀ k ∈ keys, other k = table k) :
    (keys.filterMap fun k => (other k).map (k, ·)) = keys.filterMap fun k => (table k).map (k, ·) := by
  induction keys with
  | nil => rfl
  | cons k rest hypothesis =>
    rw [List.filterMap_cons, List.filterMap_cons, same k List.mem_cons_self,
      hypothesis fun later member => same later (List.mem_cons_of_mem k member)]

/-- The root names of an expression are its roots that are identifiers. -/
theorem Expr.mem_rootNames {e : Expr α} {name : String} :
    name ∈ e.rootNames ↔ .identifier name ∈ e.roots := by
  rw [rootNames, List.mem_eraseDups, List.mem_filterMap]
  constructor
  · rintro ⟨root, member, named⟩
    cases root with
    | identifier other => cases named; exact member
    | call space function arguments => cases named
  · exact fun member => ⟨_, member, rfl⟩

/-- The calls of an expression are its roots that are calls, with whatever arguments. -/
theorem Expr.mem_calls {e : Expr α} {space name : String} :
    (space, name) ∈ e.calls ↔ ∃ arguments, .call space name arguments ∈ e.roots := by
  rw [calls, List.mem_filterMap]
  constructor
  · rintro ⟨root, member, called⟩
    cases root with
    | identifier other => cases called
    | call other function arguments => cases called; exact ⟨arguments, member⟩
  · rintro ⟨arguments, member⟩
    exact ⟨_, member, rfl⟩

namespace Compiled

/-- An expression with the variables and functions that are bound for its names and
calls. -/
def noting (source : String) (expr : Expr Literal) (bindings : Bindings ρ)
    (functions : FunctionTable ρ) : Compiled ρ where
  source
  expr
  captured := expr.rootNames.filterMap fun name => (bindings.get? name).map (name, ·)
  functions := expr.calls.filterMap fun call => (functions.find? call.1 call.2).map (call, ·)

/-- Every call of an expression has a function bound to it. -/
def Callable (expr : Expr Literal) (functions : FunctionTable ρ) : Prop :=
  ∀ call ∈ expr.calls, (functions.find? call.1 call.2).isSome = true

/-- Where all calls are bound, each is noted with its function. -/
theorem bindCalls_of_bound {functions : FunctionTable ρ} {calls : List (String × String)}
    (bound : ∀ call ∈ calls, (functions.find? call.1 call.2).isSome = true) :
    bindCalls functions calls
      = .ok (calls.filterMap fun call => (functions.find? call.1 call.2).map (call, ·)) := by
  induction calls with
  | nil => rfl
  | cons call rest hypothesis =>
    obtain ⟨f, found⟩ := Option.isSome_iff_exists.1 (bound call List.mem_cons_self)
    have later := hypothesis fun other member => bound other (List.mem_cons_of_mem call member)
    rw [bindCalls, found, later, List.filterMap_cons, found]
    rfl

/-- Calls are only noted if all of them are bound. -/
theorem bound_of_bindCalls {functions : FunctionTable ρ} {calls : List (String × String)}
    {noted : List ((String × String) × Function ρ)} (done : bindCalls functions calls = .ok noted) :
    ∀ call ∈ calls, (functions.find? call.1 call.2).isSome = true := by
  induction calls generalizing noted with
  | nil => simp
  | cons call rest hypothesis =>
    rw [bindCalls] at done
    cases found : functions.find? call.1 call.2 with
    | none => rw [found] at done; cases done
    | some f =>
      rw [found] at done
      cases later : bindCalls functions rest with
      | error x => rw [later] at done; cases done
      | ok others =>
        intro other member
        rcases List.mem_cons.1 member with rfl | member
        · rw [found]; rfl
        · exact hypothesis later other member

/-- A source that cannot be read does not compile, for the reason it cannot be read. -/
theorem compile_of_malformed {source : String} {failure : SyntaxFailure}
    (read : Expr.parse source = .error failure) (bindings : Bindings ρ) (functions : FunctionTable ρ) :
    compile source bindings functions = .error (.malformed failure) := by
  rw [compile, read]
  rfl

/-- Once a source is read, only the calls in it can keep it from compiling. -/
theorem compile_of_parsed {source : String} {expr : Expr Literal} (read : Expr.parse source = .ok expr)
    (bindings : Bindings ρ) (functions : FunctionTable ρ) :
    compile source bindings functions = (bindCalls functions expr.calls).map fun noted =>
      { source, expr, functions := noted,
        captured := expr.rootNames.filterMap fun name => (bindings.get? name).map (name, ·) } := by
  rw [compile, read]
  change (bindCalls functions expr.calls >>= _) = _
  cases bindCalls functions expr.calls <;> rfl

/-- A source compiles exactly if it can be read and every function it calls is bound.
The expression then holds the variables and functions noted for it. -/
theorem compile_eq_ok_iff {source : String} {bindings : Bindings ρ} {functions : FunctionTable ρ}
    {c : Compiled ρ} : compile source bindings functions = .ok c ↔
      ∃ expr, Expr.parse source = .ok expr ∧ Callable expr functions ∧
        c = noting source expr bindings functions := by
  cases read : Expr.parse source with
  | error failure =>
    rw [compile_of_malformed read]
    constructor
    · rintro ⟨⟩
    · rintro ⟨expr, ⟨⟩, _⟩
  | ok expr =>
    rw [compile_of_parsed read]
    constructor
    · intro done
      -- looking up the calls succeeded, so each of them is bound
      cases bound : bindCalls functions expr.calls with
      | error x =>
        rw [bound] at done
        cases done
      | ok noted =>
        have callable : Callable expr functions := bound_of_bindCalls bound
        rw [bindCalls_of_bound callable] at done
        cases done
        exact ⟨expr, rfl, callable, rfl⟩
    · rintro ⟨_, ⟨⟩, callable, rfl⟩
      rw [bindCalls_of_bound callable]
      rfl

section Noting

variable (chain : Chain ρ) (source : String) (expr : Expr Literal) (bindings : Bindings ρ)
  (functions : FunctionTable ρ)

/-- A name of the expression stands for the variable noted for it. -/
theorem variableOf_noting (name : String) :
    ((noting source expr bindings functions).environment chain).variableOf name
      = if name ∈ expr.rootNames then (bindings.get? name).map (·.handle chain) else none := by
  simp only [environment, noting, Binding.search_eq, lookup_noted]
  split <;> rfl

/-- A call of the expression is one of the function noted for it. -/
theorem functionOf_noting (space name : String) :
    ((noting source expr bindings functions).environment chain).functionOf space name
      = if (space, name) ∈ expr.calls then functions.find? space name else none := by
  simp only [environment, noting, lookup_noted]

/-- Bindings and functions that agree on the names and calls of an expression make the
same of it. -/
theorem noting_congr {bindings other : Bindings ρ} {functions others : FunctionTable ρ}
    (names : ∀ name ∈ expr.rootNames, other.get? name = bindings.get? name)
    (calls : ∀ call ∈ expr.calls,
      others.find? call.1 call.2 = functions.find? call.1 call.2) :
    noting source expr other others = noting source expr bindings functions := by
  rw [noting, noting, noted_congr names, noted_congr calls]

end Noting

end Compiled

end PropertyPath
