import PropertyPath.Proofs.NestedChains
import PropertyPath.Proofs.Occurrence
import PropertyPath.Proofs.Twins

/-!
# What evaluation delegates

All that an evaluation does to the world, and most of what can go wrong in it, it delegates: to
the bodies of the functions that an expression has bound, and to the members of the chain. What
was delegated is a list, in the order in which it was done, and the world that an evaluation
leaves is the one that this list leaves.

The evaluator has one fault of its own that speaks of a function it does not know. It is for a
call that was not bound. Since compiling binds every call that occurs, and evaluation looks up
no other, this fault is never its own in an expression that was compiled: if it comes up, the
last thing that was delegated has returned it.
-/

namespace PropertyPath

variable {ρ α β : Type}

/-- What evaluation leaves to others: a call of the body of a function, or a request to a
resolver. -/
inductive Delegation (ρ : Type) where
  | call (f : Function ρ) (arguments : List Value)
  | request (r : Resolver ρ) (query : Query)

/-- The fault that a result is, if it is one. -/
def faultOf : Except Fault α → Option Fault
  | .error x => some x
  | .ok _ => none

/-- The fault in an answer to a request. -/
def Query.fault? : (query : Query) → query.Found → Option Fault
  | get _, answer => faultOf answer
  | type _, answer => faultOf answer
  | readOnly _, answer => faultOf answer
  | set _ _, answer => faultOf answer
  | commonType _, _ => none

namespace Delegation

/-- The fault that something delegated ends in, and the world it leaves. -/
def outcome : Delegation ρ → World ρ → Option Fault × World ρ
  | call f arguments, w =>
    let (result, left) := (f.body arguments).outcome w
    (faultOf result, left)
  | request r query, w =>
    let (answer, left) := (query.ask r).outcome w
    (answer.bind query.fault?, left)

/-- The world after some things were done, the first of them first. -/
def after (done : List (Delegation ρ)) (w : World ρ) : World ρ :=
  done.foldl (fun reached d => (d.outcome reached).2) w

/-- Doing some things and then others leads on from the world that the first ones left. -/
theorem after_append (done further : List (Delegation ρ)) (w : World ρ) :
    after (done ++ further) w = after further (after done w) := List.foldl_append

end Delegation

/-! ## Accounts of a run -/

/-- An account of a run from a world: what was delegated, from among what may be, leads to the
world that was left, and an unbound function, if that is the fault it ended in, is what the last
of it returned. -/
structure AccountedFor (may : Delegation ρ → Prop) (w : World ρ) (done : List (Delegation ρ))
    (ended : Option Fault) (left : World ρ) : Prop where
  allowed : ∀ d ∈ done, may d
  leads : Delegation.after done w = left
  blames : ∀ space name, ended = some (.unboundFunction space name) →
    ∃ before last, done = before ++ [last]
      ∧ (last.outcome (Delegation.after before w)).1 = some (.unboundFunction space name)

namespace AccountedFor

variable {may : Delegation ρ → Prop} {w reached left : World ρ} {done further : List (Delegation ρ)}
  {ended : Option Fault}

/-- Where nothing was delegated, no fault is an unbound function. -/
theorem nothing (other : ∀ space name, ended ≠ some (.unboundFunction space name)) :
    AccountedFor may w [] ended w where
  allowed _ member := absurd member List.not_mem_nil
  leads := rfl
  blames _ _ same := absurd same (other _ _)

/-- One thing done accounts for the fault it ends in. -/
theorem one {d : Delegation ρ} (allowed : may d) : AccountedFor may w [d] (d.outcome w).1 (d.outcome w).2 where
  allowed := List.forall_mem_singleton.2 allowed
  leads := rfl
  blames _ _ same := ⟨[], d, rfl, same⟩

/-- What is done in two parts, the first without a fault, is accounted for by what was done in
the one and then in the other. -/
theorem append (first : AccountedFor may w done none reached)
    (second : AccountedFor may reached further ended left) :
    AccountedFor may w (done ++ further) ended left where
  allowed := List.forall_mem_append.2 ⟨first.allowed, second.allowed⟩
  leads := by rw [Delegation.after_append, first.leads, second.leads]
  blames space name same := by
    obtain ⟨before, last, rfl, raised⟩ := second.blames space name same
    refine ⟨done ++ before, last, (List.append_assoc ..).symm, ?_⟩
    rwa [Delegation.after_append, first.leads]

end AccountedFor

/-- Every run of an attempt can be accounted for. -/
def Attempt.Delegates (may : Delegation ρ → Prop) (m : Attempt ρ α) : Prop :=
  ∀ w, ∃ done, AccountedFor may w done (faultOf (m.outcome w).1) (m.outcome w).2

/-- Every run of a request can be accounted for. -/
def Action.Delegates (may : Delegation ρ → Prop) (ask : Action ρ (Answer α)) : Prop :=
  ∀ w, ∃ done, AccountedFor may w done ((ask.outcome w).1.bind faultOf) (ask.outcome w).2

section Delegates

variable {may : Delegation ρ → Prop}

namespace Attempt

/-- What does nothing needs no account. -/
theorem delegates_pure (a : α) : Delegates may (pure a : Attempt ρ α) :=
  fun _ => ⟨[], .nothing nofun⟩

/-- A fault of the evaluator's own needs no account if it is no unbound function. -/
theorem delegates_failWith {cause : Store → Fault}
    (other : ∀ s space name, cause s ≠ .unboundFunction space name) :
    Delegates may (failWith cause : Attempt ρ α) :=
  fun w => ⟨[], .nothing fun space name same => other w.store space name (Option.some.inj same)⟩

/-- A fault that is no unbound function needs no account. -/
theorem delegates_throw {x : Fault} (other : ∀ space name, x ≠ .unboundFunction space name) :
    Delegates may (throw x : Attempt ρ α) :=
  delegates_failWith fun _ => other

/-- Two steps are accounted for by the accounts of both. If the first ends in a fault the second is
not made, and the first account is all there is. -/
theorem delegates_bind {m : Attempt ρ α} {f : α → Attempt ρ β} (first : m.Delegates may)
    (second : ∀ a, (f a).Delegates may) : Delegates may (m >>= f) := by
  intro w
  obtain ⟨done, account⟩ := first w
  rw [outcome_bind]
  cases ended : m.outcome w with
  | mk result reached =>
    rw [ended] at account
    cases result with
    | error x => exact ⟨done, account⟩
    | ok a =>
      obtain ⟨further, later⟩ := second a reached
      exact ⟨done ++ further, account.append later⟩

/-- A request that may go unclaimed is accounted for by what claims it, and by what is done
otherwise. -/
theorem delegates_claimedOr {ask : Action ρ (Answer α)} {unclaimed : Attempt ρ α}
    (asking : ask.Delegates may) (otherwise : unclaimed.Delegates may) :
    Delegates may (claimedOr ask unclaimed) := by
  intro w
  obtain ⟨done, account⟩ := asking w
  rw [outcome_claimedOr]
  cases asked : ask.outcome w with
  | mk answer reached =>
    rw [asked] at account
    cases answer with
    | some claimed => exact ⟨done, account⟩
    | none =>
      obtain ⟨further, later⟩ := otherwise reached
      exact ⟨done ++ further, account.append later⟩

/-- Asking for the type of what was found delegates nothing further. -/
theorem delegates_typeOf {m : Attempt ρ Value} (finds : m.Delegates may) :
    Delegates may (do let value ← m; return (← get).store.typeOf value) :=
  delegates_bind finds fun _ _ => ⟨[], .nothing nofun⟩

end Attempt

/-- A request to a chain is delegated to its members, as far as they are asked. -/
theorem delegates_firstClaim {ask : Resolver ρ → Action ρ (Answer α)} (query : Query)
    (asks : ∀ r w, (Delegation.request r query).outcome w
      = (((ask r).outcome w).1.bind faultOf, ((ask r).outcome w).2))
    {rs : List (Resolver ρ)} (members : ∀ r ∈ rs, may (.request r query)) :
    (firstClaim ask rs).Delegates may := by
  induction rs with
  | nil => exact fun _ => ⟨[], .nothing nofun⟩
  | cons r rest hypothesis =>
    intro w
    -- the first member is asked in any case, and the others if it is silent
    have own := AccountedFor.one (w := w) (members r List.mem_cons_self)
    rw [asks] at own
    rw [firstClaim, Action.outcome_bind]
    cases asked : (ask r).outcome w with
    | mk answer reached =>
      rw [asked] at own
      cases answer with
      | some claimed => exact ⟨_, own⟩
      | none =>
        obtain ⟨further, later⟩ :=
          hypothesis (fun x member => members x (List.mem_cons_of_mem r member)) reached
        exact ⟨_, own.append later⟩

/-- The four requests can be accounted for. -/
structure Handle.Delegates (may : Delegation ρ → Prop) (h : Handle ρ) : Prop where
  get : h.get.Delegates may
  type : h.type.Delegates may
  readOnly : h.readOnly.Delegates may
  set : ∀ value, (h.set value).Delegates may

/-- What is asked after a search that can be accounted for. -/
theorem Handle.delegates_after {found : Attempt ρ α} {next : α → Handle ρ} (finds : found.Delegates may)
    (each : ∀ a, (next a).Delegates may) : (Handle.after found next).Delegates may where
  get := Attempt.delegates_bind finds fun a => (each a).get
  type := Attempt.delegates_bind finds fun a => (each a).type
  readOnly := Attempt.delegates_bind finds fun a => (each a).readOnly
  set value := Attempt.delegates_bind finds fun a => (each a).set value

/-- Requests on a property are delegated to the members of the chain. -/
theorem Chain.delegates_handle {chain : Chain ρ}
    (members : ∀ r ∈ chain.resolvers, ∀ query, may (.request r query))
    (q : Request) (unclaimed : Store → Absence) : (chain.handle q unclaimed).Delegates may := by
  have refused {α : Type} (cause : Store → Fault)
      (other : ∀ s space name, cause s ≠ .unboundFunction space name) :
      (failWith cause : Attempt ρ α).Delegates may := Attempt.delegates_failWith other
  constructor
  · exact Attempt.delegates_claimedOr
      (delegates_firstClaim (.get q) (fun _ _ => rfl) fun r member => members r member _)
      (refused _ nofun)
  · exact Attempt.delegates_claimedOr
      (delegates_firstClaim (.type q) (fun _ _ => rfl) fun r member => members r member _)
      (refused _ nofun)
  · exact Attempt.delegates_claimedOr
      (delegates_firstClaim (.readOnly q) (fun _ _ => rfl) fun r member => members r member _)
      (refused _ nofun)
  · exact fun value => Attempt.delegates_claimedOr
      (delegates_firstClaim (.set q value) (fun _ _ => rfl) fun r member => members r member _)
      (refused _ nofun)

/-- What can be accounted for can be accounted for where more is allowed. -/
theorem Handle.Delegates.mono {more : Delegation ρ → Prop} {h : Handle ρ} (delegates : h.Delegates may)
    (included : ∀ d, may d → more d) : h.Delegates more := by
  have weaker {α : Type} {m : Attempt ρ α} (run : m.Delegates may) : m.Delegates more := by
    intro w
    obtain ⟨done, account⟩ := run w
    exact ⟨done, fun d member => included d (account.allowed d member), account.leads, account.blames⟩
  exact ⟨weaker delegates.get, weaker delegates.type, weaker delegates.readOnly,
    fun value => weaker (delegates.set value)⟩

end Delegates

/-! ## Evaluation -/

/-- A call of a function is one of its body, unless the number of arguments is wrong. -/
theorem Function.delegates_call {may : Delegation ρ → Prop} {f : Function ρ}
    (allowed : ∀ arguments, may (.call f arguments)) (arguments : List Value) :
    (f.call arguments).Delegates may := by
  have body : (f.body arguments).Delegates may :=
    fun w => ⟨_, .one (d := .call f arguments) (allowed arguments)⟩
  rw [call]
  cases f.arity with
  | none => exact body
  | some expected =>
    by_cases fits : arguments.length = expected
    · simp only [if_pos fits]
      exact body
    · simp only [if_neg fits]
      refine Attempt.delegates_throw ?_
      intro space name absurdity
      cases absurdity

/-- In an environment, runs on variables can be accounted for, functions and members of the chain
may be delegated to, and the calls at some roots are bound. -/
structure Environment.Delegates (may : Delegation ρ → Prop) (env : Environment ρ)
    (roots : List (Root Literal)) : Prop where
  ofVariable : ∀ name h, env.variableOf name = some h → h.Delegates may
  ofRequest : ∀ r ∈ env.chain.resolvers, ∀ query, may (.request r query)
  ofFunction : ∀ space name f, env.functionOf space name = some f → ∀ arguments, may (.call f arguments)
  bound : ∀ space name arguments, .call space name arguments ∈ roots →
    (env.functionOf space name).isSome = true

section Evaluation

variable {may : Delegation ρ → Prop} {env : Environment ρ} {roots : List (Root Literal)}

namespace Environment.Delegates

/-- What holds at some roots holds at fewer. -/
theorem mono {fewer : List (Root Literal)} (steps : env.Delegates may roots)
    (included : ∀ r ∈ fewer, r ∈ roots) : env.Delegates may fewer where
  ofVariable := steps.ofVariable
  ofRequest := steps.ofRequest
  ofFunction := steps.ofFunction
  bound space name arguments member := steps.bound space name arguments (included _ member)

/-- What holds at two lists of roots holds at the first. -/
theorem left {more : List (Root Literal)} (steps : env.Delegates may (roots ++ more)) :
    env.Delegates may roots := steps.mono fun _ => List.mem_append_left more

/-- It holds at the second as well. The inductions below take the roots of an expression apart with
these two. -/
theorem right {before : List (Root Literal)} (steps : env.Delegates may (before ++ roots)) :
    env.Delegates may roots := steps.mono fun _ => List.mem_append_right before

/-- Requests for properties are delegated to the chain. -/
theorem propertyHandle (steps : env.Delegates may roots) (base property : Value) :
    (env.propertyHandle base property).Delegates may := by
  rw [propertyHandle_eq]
  exact Chain.delegates_handle steps.ofRequest _ _

/-- A name is delegated to what it is bound to, or to the chain. -/
theorem name (steps : env.Delegates may roots) (name : String) : (env.name name).Delegates may := by
  rw [Environment.name]
  cases bound : env.variableOf name with
  | none =>
    rw [Option.getD_none, rootHandle_eq]
    exact Chain.delegates_handle steps.ofRequest _ _
  | some h => exact steps.ofVariable name h bound

end Environment.Delegates

mutual

/-- Evaluation can be accounted for. The induction is on the expression; a call is one of those
at its roots, so it is bound. -/
theorem Expr.value_delegates : ∀ expr : Expr Literal, env.Delegates may expr.roots →
    (expr.value env).Delegates may
  | .literal l, _ => by
    rw [Expr.value]
    exact Attempt.delegates_pure _
  | .path root segments, steps => by
    rw [Expr.roots, ← List.cons_append] at steps
    rw [Expr.value]
    exact Attempt.delegates_bind (Root.value_delegates root steps.left)
      fun base => Segment.walk_delegates segments steps.right base

/-- A root delegates to what it names or to the function that it calls. The function is there, since
all calls are bound. -/
theorem Root.value_delegates : ∀ root : Root Literal, env.Delegates may (root :: root.innerRoots) →
    (root.value env).Delegates may
  | .identifier name, steps => by
    rw [Root.value]
    exact (steps.name name).get
  | .call space name arguments, steps => by
    have inner := steps.mono fun _ => List.mem_cons_of_mem _
    rw [Root.innerRoots] at inner
    obtain ⟨f, found⟩ := Option.isSome_iff_exists.1 (steps.bound space name arguments List.mem_cons_self)
    rw [Root.value, found]
    exact Attempt.delegates_bind (Expr.values_delegates arguments inner)
      (Function.delegates_call (steps.ofFunction space name f found))

/-- The key of a segment delegates what its index does. -/
theorem Segment.key_delegates : ∀ segment : Segment Literal, env.Delegates may segment.roots →
    (segment.key env).Delegates may
  | .property name, _ => by
    rw [Segment.key]
    exact Attempt.delegates_pure _
  | .index index, steps => by
    rw [Segment.roots] at steps
    rw [Segment.key]
    exact Expr.value_delegates index steps

/-- Arguments are evaluated in turn, each accounted for on its own. -/
theorem Expr.values_delegates : ∀ arguments : List (Expr Literal),
    env.Delegates may (Expr.rootsOf arguments) → (Expr.values env arguments).Delegates may
  | [], _ => by
    rw [Expr.values]
    exact Attempt.delegates_pure _
  | first :: rest, steps => by
    rw [Expr.rootsOf] at steps
    rw [Expr.values]
    refine Attempt.delegates_bind (Expr.value_delegates first steps.left) fun value => ?_
    exact Attempt.delegates_bind (Expr.values_delegates rest steps.right)
      fun values => Attempt.delegates_pure _

/-- A walk delegates one request for each segment. -/
theorem Segment.walk_delegates : ∀ segments : List (Segment Literal),
    env.Delegates may (Segment.rootsOf segments) → ∀ base, (Segment.walk env segments base).Delegates may
  | [], _, base => by
    rw [Segment.walk]
    exact Attempt.delegates_pure _
  | first :: rest, steps, base => by
    rw [Segment.rootsOf] at steps
    rw [Segment.walk]
    by_cases absent : base.isNull = true
    · rw [if_pos absent]
      exact Attempt.delegates_pure _
    · rw [if_neg absent]
      refine Attempt.delegates_bind (Segment.key_delegates first steps.left) fun property => ?_
      exact Attempt.delegates_bind (steps.propertyHandle base property).get
        fun next => Segment.walk_delegates rest steps.right next

end

/-- So can the walk to the last segment. -/
theorem Segment.locate_delegates {first : Segment Literal} {rest : List (Segment Literal)}
    (steps : env.Delegates may (Segment.rootsOf (first :: rest))) (base : Value) :
    (Segment.locate env first rest base).Delegates may := by
  induction rest generalizing first base with
  | nil =>
    rw [Segment.rootsOf] at steps
    rw [Segment.locate]
    by_cases absent : base.isNull = true
    · rw [if_pos absent]
      exact Attempt.delegates_pure _
    · rw [if_neg absent]
      exact Attempt.delegates_bind (Segment.key_delegates first steps.left)
        fun key => Attempt.delegates_pure _
  | cons next rest hypothesis =>
    rw [Segment.rootsOf] at steps
    rw [Segment.locate]
    by_cases absent : base.isNull = true
    · rw [if_pos absent]
      exact Attempt.delegates_pure _
    · rw [if_neg absent]
      refine Attempt.delegates_bind (Segment.key_delegates first steps.left) fun property => ?_
      exact Attempt.delegates_bind (steps.propertyHandle base property).get
        fun reached => hypothesis steps.right reached

/-- The four requests on an expression can be accounted for, if its calls are bound. -/
theorem Expr.handle_delegates {expr : Expr Literal} (steps : env.Delegates may expr.roots) :
    (expr.handle env).Delegates may := by
  cases expr with
  | literal l =>
    exact ⟨Attempt.delegates_pure _, Attempt.delegates_typeOf (Attempt.delegates_pure l.value),
      Attempt.delegates_pure _, fun _ => Attempt.delegates_throw nofun⟩
  | path root segments =>
    rw [Expr.handle_path]
    rw [Expr.roots, ← List.cons_append] at steps
    have value := Root.value_delegates root steps.left
    refine Handle.delegates_after ?_ fun target => ?_
    -- the search delegates what the root and the steps do
    · cases segments with
      | nil => cases root <;> exact Attempt.delegates_pure _
      | cons first rest =>
        exact Attempt.delegates_bind value fun base => Segment.locate_delegates steps.right base
    -- what is asked where it ends is a request or a value again
    · cases target with
      | root name => exact steps.name name
      | callResult =>
        exact ⟨value, Attempt.delegates_typeOf value, Attempt.delegates_pure _,
          fun _ => Attempt.delegates_throw nofun⟩
      | property base key => exact steps.propertyHandle base key
      | unreachable =>
        exact ⟨Attempt.delegates_pure _, Attempt.delegates_throw nofun, Attempt.delegates_throw nofun,
          fun _ => Attempt.delegates_throw nofun⟩

end Evaluation

/-! ## Compiled expressions -/

namespace Compiled

/-- An expression that was compiled, with variables whose expressions were compiled before it. -/
inductive Made : Compiled ρ → Prop where
  | compile {source : String} {bindings : Bindings ρ} {functions : FunctionTable ρ} {c : Compiled ρ}
      (earlier : ∀ name inner, bindings.get? name = some (.expression inner) → Made inner)
      (done : compile source bindings functions = .ok c) : Made c

/-- What a request on an expression may delegate in a chain: calls of the functions bound in it or
behind its variables, and requests to the members of the chain. -/
inductive MayDelegate (chain : Chain ρ) (c : Compiled ρ) : Delegation ρ → Prop where
  | call {f : Function ρ} (bound : f ∈ c.reachableFunctions) (arguments : List Value) :
    MayDelegate chain c (.call f arguments)
  | request {r : Resolver ρ} (member : r ∈ chain.resolvers) (query : Query) :
    MayDelegate chain c (.request r query)

section Noting

variable {source : String} {expr : Expr Literal} {bindings : Bindings ρ} {functions : FunctionTable ρ}

/-- A variable that was noted is the one that was bound. -/
theorem bound_of_lookup_noting {name : String} {binding : Binding ρ}
    (found : (noting source expr bindings functions).captured.lookup name = some binding) :
    bindings.get? name = some binding := by
  rw [noting, lookup_noted] at found
  split at found
  · exact found
  · cases found

/-- In the environment of an expression that was compiled all calls are bound. -/
theorem environment_delegates (chain : Chain ρ) (callable : Callable expr functions)
    (earlier : ∀ name inner, bindings.get? name = some (.expression inner) →
      (inner.handle chain).Delegates (MayDelegate chain inner)) :
    let c := noting source expr bindings functions
    (c.environment chain).Delegates (MayDelegate chain c) expr.roots := by
  intro c
  refine ⟨?_, fun r member query => .request member query, ?_, ?_⟩
  · intro name h bound
    simp only [environment, Binding.search_eq] at bound
    obtain ⟨binding, found, rfl⟩ := Option.map_eq_some_iff.1 bound
    cases binding with
    -- a literal is its own answer, and its refusal of a write names no function
    | literal value =>
      rw [Binding.handle]
      refine ⟨Attempt.delegates_pure _, Attempt.delegates_typeOf (Attempt.delegates_pure value),
        Attempt.delegates_pure _, fun _ => Attempt.delegates_failWith ?_⟩
      intro s space name absurdity
      cases absurdity
    | expression inner =>
      rw [Binding.handle]
      -- what a captured expression may delegate to, the one around it may
      refine (earlier name inner (bound_of_lookup_noting found)).mono ?_
      rintro _ (⟨reachable, arguments⟩ | ⟨member, query⟩)
      · exact .call (mem_reachableFunctions_of_capturedBy (capturedBy_of_lookup found) reachable) _
      · exact .request member query
  · exact fun space name f found arguments => .call (mem_reachableFunctions_of_lookup found) arguments
  · intro space name arguments member
    have called : (space, name) ∈ expr.calls := Expr.mem_calls.2 ⟨arguments, member⟩
    rw [functionOf_noting, if_pos called]
    exact callable (space, name) called

end Noting

/-- Requests on an expression that was compiled can be accounted for. The induction is on how it
was made. -/
theorem Made.delegates {c : Compiled ρ} (made : c.Made) (chain : Chain ρ) :
    (c.handle chain).Delegates (MayDelegate chain c) := by
  induction made with
  | compile earlier done hypothesis =>
    obtain ⟨expr, read, callable, rfl⟩ := compile_eq_ok_iff.1 done
    rw [handle_eq]
    exact Expr.handle_delegates (environment_delegates chain callable hypothesis)

/-- Compiling succeeds exactly if the source can be read and every call that occurs in it is
bound; else the first call that is not bound is reported. What is captured is the bound variables
among the names that occur. An evaluation ends in an unbound function only if a function or a
resolver that was asked, last, returned that.

Proof: the calls and names of a tree are collected in the order in which they occur, and
compiling goes through the two lists. Delegation is an induction over the expressions that were
made and what they captured: each step of an evaluation either is a call of a bound function or
asks a resolver. -/
theorem binding_is_complete (source : String) (bindings : Bindings ρ) (functions : FunctionTable ρ) :
    ((∃ c, compile source bindings functions = .ok c) ↔ ∃ expr, Expr.parse source = .ok expr
      ∧ ∀ space name arguments, Expr.Occurs (.call space name arguments) expr →
        (functions.find? space name).isSome = true)
    ∧ (∀ expr, Expr.parse source = .ok expr →
      (∀ x, compile source bindings functions = .error x ↔ ∃ call,
        expr.calls.find? (fun call => (functions.find? call.1 call.2).isNone) = some call
          ∧ x = .unboundFunction call.1 call.2)
      ∧ ∀ c, compile source bindings functions = .ok c →
        c.variableNames.Nodup
        ∧ ∀ name, name ∈ c.variableNames ↔ Expr.Occurs (.identifier name) expr
          ∧ (bindings.get? name).isSome = true)
    ∧ ∀ c : Compiled ρ, c.Made → ∀ chain, (c.handle chain).Delegates (MayDelegate chain c) := by
  refine ⟨?_, fun expr read => ⟨fun x => compile_eq_error_iff read, fun c done => ?_⟩,
    fun c made chain => made.delegates chain⟩
  · constructor
    · rintro ⟨c, done⟩
      obtain ⟨expr, read, callable, _⟩ := compile_eq_ok_iff.1 done
      exact ⟨expr, read, callable_iff.1 callable⟩
    · rintro ⟨expr, read, bound⟩
      exact ⟨_, compile_eq_ok_iff.2 ⟨expr, read, callable_iff.2 bound, rfl⟩⟩
  · obtain ⟨other, read', callable, rfl⟩ := compile_eq_ok_iff.1 done
    cases read.symm.trans read'
    exact ⟨variableNames_noting_nodup, fun name => mem_variableNames_noting⟩

end Compiled

end PropertyPath
