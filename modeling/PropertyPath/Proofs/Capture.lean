import PropertyPath.Proofs.Compilation
import PropertyPath.Proofs.Exactness

/-!
# Lexical capture

A context goes on changing after an expression was compiled in it: variables are bound,
bound anew and taken away, functions are bound. None of this reaches the expression.
Each change leaves the chain alone, and beyond the chain the expression holds all that
evaluation asks for. So its requests remain, in every world, those that the context
would have made on its source at the time of compiling.

What an expression captured may be an expression that captured others in turn, and so
on. Captured expressions lie strictly inside those that capture them, so there is an
end to this: no sequence of bindings leads from an expression back to itself. Names
that were not variables are left to the chain, and the local variables among them are
read from the world as it is.
-/

namespace PropertyPath

variable {ρ α : Type}

/-- A change to what names stand for in a context: a variable is bound, or taken away,
or a function is bound. -/
inductive Rebinding (ρ : Type) where
  | ofVariable (name : String) (binding : Option (Binding ρ))
  | ofFunction (space name : String) (f : Function ρ)

namespace Context

/-- A context after a change. -/
def rebind (c : Context ρ) : Rebinding ρ → Context ρ
  | .ofVariable name binding => c.bind name binding
  | .ofFunction space name f => c.defineFunction space name f

/-- A context after changes, the first of them first. -/
def rebindAll (c : Context ρ) (changes : List (Rebinding ρ)) : Context ρ := changes.foldl rebind c

/-- A change is to variables or functions and never to the chain. -/
theorem chain_rebind (c : Context ρ) (change : Rebinding ρ) : (c.rebind change).chain = c.chain := by
  cases change with
  | ofVariable name binding => cases binding <;> rfl
  | ofFunction space name f => rfl

/-- So any number of changes leaves the chain. -/
theorem chain_rebindAll (c : Context ρ) (changes : List (Rebinding ρ)) :
    (c.rebindAll changes).chain = c.chain := by
  induction changes generalizing c with
  | nil => rfl
  | cons change later hypothesis =>
    have further : ((c.rebind change).rebindAll later).chain = (c.rebind change).chain :=
      hypothesis (c.rebind change)
    exact further.trans (chain_rebind c change)

/-- A request on a source is the request on what it compiles to. -/
theorem request_of_compile {c : Context ρ} {source : String} {e : Compiled ρ}
    (compiled : c.compile source = .ok e) (ask : Handle ρ → Attempt ρ α) :
    c.request source ask = ask (e.handle c.chain) := by
  rw [request, compiled]
  exact pure_bind e _

end Context

namespace Compiled

/-- One expression is what a variable captured by another stands for. -/
def CapturedBy (inner outer : Compiled ρ) : Prop :=
  ∃ name, (name, Binding.expression inner) ∈ outer.captured

mutual

/-- A binding that is an expression lies below the expression that captured it. -/
theorem accessible_of_binding : ∀ (binding : Binding ρ) (c : Compiled ρ),
    binding = .expression c → Acc CapturedBy c
  | .literal _, _, isExpression => nomatch isExpression
  | .expression compiled, c, isExpression => by
    cases isExpression
    exact accessible compiled

/-- Following captured expressions comes to an end. The induction is on the nesting of
bindings. -/
theorem accessible : ∀ c : Compiled ρ, Acc CapturedBy c
  | ⟨source, expr, captured, functions⟩ => by
    constructor
    rintro inner ⟨name, member⟩
    exact accessible_of_captured captured name inner member

/-- So does each expression among those that were captured. -/
theorem accessible_of_captured : ∀ (captured : List (String × Binding ρ)) (name : String)
    (inner : Compiled ρ), (name, Binding.expression inner) ∈ captured → Acc CapturedBy inner
  | [], _, _, member => nomatch member
  | (other, binding) :: rest, name, inner, member => by
    rcases List.mem_cons.1 member with here | later
    · have same : binding = .expression inner := (congrArg Prod.snd here).symm
      exact accessible_of_binding binding inner same
    · exact accessible_of_captured rest name inner later

end

end Compiled

/-- Resolvers that leave a request to others are passed over, in the world they leave. -/
theorem outcome_firstClaim_append (ask : Resolver ρ → Action ρ (Answer α))
    {before after : List (Resolver ρ)} {w reached : World ρ}
    (unclaimed : (firstClaim ask before).outcome w = (none, reached)) :
    (firstClaim ask (before ++ after)).outcome w = (firstClaim ask after).outcome reached := by
  induction before generalizing w with
  | nil =>
    cases unclaimed
    rfl
  | cons r rest hypothesis =>
    rw [firstClaim, Action.outcome_bind] at unclaimed
    rw [List.cons_append, firstClaim, Action.outcome_bind]
    cases answered : (Action.outcome (ask r) w).1 with
    | some outcome => rw [answered] at unclaimed; cases unclaimed
    | none =>
      rw [answered] at unclaimed
      exact hypothesis unclaimed

/-- A name that comes to the local variables in a chain is read from their scope as it
is in that world. -/
theorem Chain.outcome_get_local {chain : Chain ρ} {before after : List (Resolver ρ)} {scope : Ref}
    (placed : chain.resolvers = before ++ (Stock.locals scope).resolver :: after) {name : String}
    {w reached : World ρ} {value : Value} (unclaimed : Store → Absence)
    (passed : (firstClaim (·.get (.root name)) before).outcome w = (none, reached))
    (there : (reached.store.locals scope).get? name = some value) :
    (chain.handle (.root name) unclaimed).get.outcome w = (.ok value, reached) := by
  have answer : (chain.toResolver.get (.root name)).outcome w = (some (.ok value), reached) := by
    change (firstClaim (·.get (.root name)) chain.resolvers).outcome w = _
    rw [placed, outcome_firstClaim_append _ passed, firstClaim, Action.outcome_bind]
    have claimed : ((Stock.locals scope).resolver.get (.root name)).outcome reached
        = (some (.ok value), reached) := by
      change (((reached.store.locals scope).get? name).map Except.ok, reached) = _
      rw [there]
      rfl
    rw [claimed]
    rfl
  rw [Chain.handle, outcome_claimedOr, answer]

/-- What stays true of an expression while the context it was compiled in changes. -/
structure Context.Keeps (c : Context ρ) (source : String) (e : Compiled ρ) (now : Context ρ) :
    Prop where
  /-- Every request is, in every world, the one on the source in the earlier context. -/
  requests : ∀ {α : Type} (ask : Handle ρ → Attempt ρ α) (w : World ρ),
    (ask (e.handle now.chain)).outcome w = (c.request source ask).outcome w
  /-- Requests on the expression are requests on what it was compiled to, in the environment that
  the fields below are about. -/
  evaluated : e.handle now.chain = e.expr.handle (e.environment now.chain)
  /-- A name that was a variable stands for what was bound to it. -/
  bound : ∀ name ∈ e.expr.rootNames, ∀ binding, c.bindings.get? name = some binding →
    (e.environment now.chain).name name = binding.handle c.chain
  /-- A name that was not a variable is left to the chain. -/
  unbound : ∀ name ∈ e.expr.rootNames, c.bindings.get? name = none →
    (e.environment now.chain).name name = c.chain.handle (.root name) fun _ => .identifier name
  /-- A call is one of the function that was bound. -/
  calls : ∀ space name, (space, name) ∈ e.expr.calls →
    (e.environment now.chain).functionOf space name = c.functions.find? space name
  /-- Compiling afresh gives the same if names and calls stand for the same. -/
  afresh : (∀ name ∈ e.expr.rootNames, now.bindings.get? name = c.bindings.get? name) →
    (∀ call ∈ e.expr.calls,
      now.functions.find? call.1 call.2 = c.functions.find? call.1 call.2) →
    now.compile source = .ok e

/-- Changes to variables and functions do not reach what was compiled before them. -/
theorem Context.keeps_rebindAll {c : Context ρ} {source : String} {e : Compiled ρ}
    (compiled : c.compile source = .ok e) (changes : List (Rebinding ρ)) :
    c.Keeps source e (c.rebindAll changes) := by
  obtain ⟨expr, read, callable, rfl⟩ := Compiled.compile_eq_ok_iff.1 compiled
  -- what was noted is part of the expression, and the chain has not changed
  constructor
  · intro α ask w
    rw [chain_rebindAll, request_of_compile compiled]
  · exact Compiled.handle_eq _ _
  · intro name (member : name ∈ expr.rootNames) binding found
    rw [chain_rebindAll, Environment.name, Compiled.variableOf_noting, if_pos member, found]
    rfl
  · intro name (member : name ∈ expr.rootNames) free
    rw [chain_rebindAll, Environment.name, Compiled.variableOf_noting, if_pos member, free]
    rfl
  · intro space name (member : (space, name) ∈ expr.calls)
    rw [Compiled.functionOf_noting, if_pos member]
  · intro names functions
    refine Compiled.compile_eq_ok_iff.2 ⟨expr, read, ?_, ?_⟩
    · intro call member
      rw [functions call member]
      exact callable call member
    · exact (Compiled.noting_congr source expr names functions).symm

/-- An expression that compiles in a context keeps what it captured there, whatever is
bound, bound anew, taken away or defined later. This goes for the expressions behind
its variables as well, since a variable stays what was bound to it.

Let a variable be bound to the expression. Expressions compiled from then on see the
expression under that name. The expression itself, if it mentions the name, still sees
what the name meant before: no expression is captured by itself, directly or through
others. A name that is not captured is read by the chain, and where it comes to the
local variables of a scope, it reads as what is there at the time.

Proof: captured bindings are looked up once, when the expression is compiled, and no change to
the context reaches them. A capture is a part of what captured it, so there is no descent without
end. A name that was not bound goes to the chain, and there to the first resolver that claims it. -/
theorem Context.capture_is_lexical (c : Context ρ) (source : String) (e : Compiled ρ)
    (compiled : c.compile source = .ok e) (changes : List (Rebinding ρ)) :
    c.Keeps source e (c.rebindAll changes) ∧
    (∀ x other outer, ((c.rebindAll changes).bind x (some (.expression e))).compile other = .ok outer →
      x ∈ outer.expr.rootNames → (outer.environment c.chain).name x = e.handle c.chain) ∧
    WellFounded (Compiled.CapturedBy : Compiled ρ → Compiled ρ → Prop) ∧
    ∀ name ∈ e.expr.rootNames, c.bindings.get? name = none →
      ∀ before scope after, c.chain.resolvers = before ++ (Stock.locals scope).resolver :: after →
        ∀ w reached value, (firstClaim (·.get (.root name)) before).outcome w = (none, reached) →
          (reached.store.locals scope).get? name = some value →
          ((e.environment (c.rebindAll changes).chain).name name).get.outcome w
            = (.ok value, reached) := by
  have keeps : c.Keeps source e (c.rebindAll changes) := keeps_rebindAll compiled changes
  refine ⟨keeps, ?_, ⟨Compiled.accessible⟩, ?_⟩
  · intro x other outer bound member
    let now : Context ρ := (c.rebindAll changes).bind x (some (.expression e))
    have same : now.chain = c.chain := chain_rebindAll c changes
    -- the new binding is the expression itself, captured by what is compiled now
    have held : now.bindings.get? x = some (.expression e) := Dictionary.get?_insert_self _ _ _
    have named := (keeps_rebindAll bound []).bound x member _ held
    rw [chain_rebindAll, same, Binding.handle] at named
    exact named
  · intro name member free before scope after placed w reached value passed there
    rw [keeps.unbound name member free]
    exact Chain.outcome_get_local placed _ passed there

/-- A context with `x` bound to a truth value and local variables for all other names. -/
def flagContext : Context Unit :=
  (Context.bare .first false ⟨0⟩).bind "x" (some (.literal (.boolean true)))

/-- What `x[y]` compiles to in that context. -/
def flagAtLocal : Compiled Unit where
  source := "x[y]"
  expr := .path (.identifier "x") [.index (.path (.identifier "y") [])]
  captured := [("x", .literal (.boolean true))]
  functions := []

/-- Bound to `x` itself, and after `y` has become a variable too, `x[y]` still means the
truth value and the local variable. -/
theorem flagAtLocal_keeps :
    flagContext.compile "x[y]" = .ok flagAtLocal ∧
    flagContext.Keeps "x[y]" flagAtLocal (flagContext.rebindAll
      [.ofVariable "x" (some (.expression flagAtLocal)), .ofVariable "y" (some (.literal .null))]) := by
  have x : IsName "x".toList := isName_letter (by decide)
  have y : IsName "y".toList := isName_letter (by decide)
  have blank : Blanks [] := nofun
  have index : Segment.RenderedBy [.index (.path (.identifier "y") [])] "[y]".toList :=
    ⟨_, .cons (.index (.path (.identifier y) .nil)) .nil,
      .token blank (.token blank (.token blank (.done blank)))⟩
  have compiled : flagContext.compile "x[y]" = .ok flagAtLocal :=
    Compiled.compile_eq_ok_iff.2
      ⟨_, Expr.read_eq_ok_iff.2 ⟨x.rendered.append index, by decide⟩, nofun, rfl⟩
  exact ⟨compiled, (Context.capture_is_lexical flagContext "x[y]" flagAtLocal compiled _).1⟩

end PropertyPath
