import PropertyPath.Proofs.Coherence
import PropertyPath.Proofs.Walk

/-!
# Landings

A name bound to an expression stands for whatever that expression leads to, and so
on through the bindings. Followed to the end, every compiled expression comes to
one of three places: a value that can only be read, a request to the chain, or
nowhere, because a base before the last segment is null. To get there is one
attempt, and the four requests on the expression are the requests on the place.

A law about the four requests is therefore a law about the three places. For a
chain of stock resolvers the requests on a place are spelled out below.
-/

namespace PropertyPath

variable {ρ : Type}

/-- The requests on one property in a chain, with the absence that stands for a
property nobody claims. -/
def Chain.handle (chain : Chain ρ) (q : Request) (unclaimed : Store → Absence) : Handle ρ where
  get := claimedOr (chain.toResolver.get q) (failWith fun s => .notFound (unclaimed s))
  type := claimedOr (chain.toResolver.type q) (failWith fun s => .notFound (unclaimed s))
  readOnly := claimedOr (chain.toResolver.readOnly q) (failWith fun s => .notFound (unclaimed s))
  set value := chain.assign q value

namespace Environment

variable (env : Environment ρ)

/-- A name at the root is left to the chain. If nobody claims it, the identifier cannot be
resolved. -/
theorem rootHandle_eq (name : String) :
    env.rootHandle name = env.chain.handle (.root name) fun _ => .identifier name := rfl

/-- A property on a base is left to the chain. If nobody claims it, it is not found on a value of
that type, worded from the store at that time. -/
theorem propertyHandle_eq (base property : Value) :
    env.propertyHandle base property
      = env.chain.handle (.on base property)
          fun s => .propertyOfType (s.text property) (s.typeOf base) := rfl

end Environment

/-- Where an expression comes to once the variables at its root are followed: a
value to read, with the reason why it cannot be written; a request to the chain;
or nowhere, past a base that is null. -/
inductive Landing (ρ : Type) where
  | reading (value : Attempt ρ Value) (refusal : Store → Refusal)
  | request (q : Request) (unclaimed : Store → Absence)
  | unreachable (source : String)

/-- The requests on the place an expression comes to. -/
def Landing.handle (chain : Chain ρ) : Landing ρ → Handle ρ
  | .reading value refusal =>
    { get := value
      type := do
        let value ← value
        return (← get).store.typeOf value
      readOnly := pure true
      set := fun _ => failWith fun s => .notWritable (refusal s) }
  | .request q unclaimed => chain.handle q unclaimed
  | .unreachable source =>
    { get := pure .null
      type := throw (.notFound (.unreachable source))
      readOnly := throw (.notFound (.unreachable source))
      set := fun _ => throw (.notFound (.unreachable source)) }

/-- Where a target comes to, given where variables do. -/
def Target.landing (env : Environment ρ) (root : Root Literal)
    (variableOf : String → Option (Attempt ρ (Landing ρ))) : Target → Attempt ρ (Landing ρ)
  | .root name => (variableOf name).getD (pure (.request (.root name) fun _ => .identifier name))
  | .callResult => pure (.reading (root.value env) fun _ => .callResult env.source)
  | .property base key =>
    pure (.request (.on base key) fun s => .propertyOfType (s.text key) (s.typeOf base))
  | .unreachable => pure (.unreachable env.source)

/-- Where an expression comes to, given where variables do. -/
def Expr.landing (env : Environment ρ) (variableOf : String → Option (Attempt ρ (Landing ρ))) :
    Expr Literal → Attempt ρ (Landing ρ)
  | .literal l => pure (.reading (pure l.value) fun _ => .literal env.source)
  | .path root segments => do (← root.target env segments).landing env root variableOf

mutual

/-- Where a variable comes to. -/
def Binding.landing (chain : Chain ρ) : Binding ρ → Attempt ρ (Landing ρ)
  | .literal value => pure (.reading (pure value) fun s => .literalBinding (s.text value))
  | .expression compiled => compiled.landing chain

/-- Where a compiled expression comes to. -/
def Compiled.landing (chain : Chain ρ) : Compiled ρ → Attempt ρ (Landing ρ)
  | ⟨source, expr, captured, functions⟩ =>
    expr.landing (Compiled.environment chain ⟨source, expr, captured, functions⟩)
      (Binding.landingOf chain captured)

/-- Where the variable of a name comes to. -/
def Binding.landingOf (chain : Chain ρ) :
    List (String × Binding ρ) → String → Option (Attempt ρ (Landing ρ))
  | [], _ => none
  | (other, binding) :: rest, name =>
    if name = other then some (binding.landing chain) else Binding.landingOf chain rest name

end

section Follow

variable {env : Environment ρ} {variableOf : String → Option (Attempt ρ (Landing ρ))}
  (followed : ∀ name, env.variableOf name
    = (variableOf name).map fun found => .after found (Landing.handle env.chain))

include followed

/-- The requests on a target are those on the place it comes to. -/
theorem Target.handle_eq_landing (root : Root Literal) (target : Target) :
    target.handle env root
      = .after (target.landing env root variableOf) (Landing.handle env.chain) := by
  cases target with
  | root name =>
    simp only [handle, landing, Environment.name, followed]
    cases variableOf name with
    | none => rw [Option.map_none, Option.getD_none, Option.getD_none, Handle.after_pure]; rfl
    | some found => rfl
  | callResult => rw [landing, Handle.after_pure]; rfl
  | property base key => rw [landing, Handle.after_pure]; rfl
  | unreachable => rw [landing, Handle.after_pure]; rfl

/-- The requests on an expression are those on the place it comes to. -/
theorem Expr.handle_eq_landing (expr : Expr Literal) :
    expr.handle env = .after (expr.landing env variableOf) (Landing.handle env.chain) := by
  cases expr with
  | literal l => rw [landing, Handle.after_pure]; rfl
  | path root segments =>
    have each : (fun target : Target => target.handle env root)
        = fun target => .after (target.landing env root variableOf) (Landing.handle env.chain) :=
      funext fun target => Target.handle_eq_landing followed root target
    rw [Expr.handle_path, landing, Handle.after_bind, each]

end Follow

mutual

/-- What a variable stands for is come to first and requested then. The induction is on the nesting
of bindings, with that on searches below. -/
theorem Binding.handle_eq_landing (chain : Chain ρ) : ∀ binding : Binding ρ,
    binding.handle chain = .after (binding.landing chain) (Landing.handle chain)
  | .literal value => by rw [Binding.landing, Handle.after_pure, Binding.handle]; rfl
  | .expression compiled => by
    rw [Binding.landing, Binding.handle, Compiled.handle_eq_landing chain compiled]

/-- The four requests on a compiled expression are those on the place it comes to,
in any chain and with any functions. -/
theorem Compiled.handle_eq_landing (chain : Chain ρ) : ∀ c : Compiled ρ,
    c.handle chain = .after (c.landing chain) (Landing.handle chain)
  | ⟨source, expr, captured, functions⟩ => by
    rw [Compiled.handle_eq, Compiled.landing]
    exact Expr.handle_eq_landing (Binding.search_eq_landing chain captured) expr

/-- A search finds the requests on the place to which the search for places leads. -/
theorem Binding.search_eq_landing (chain : Chain ρ) : ∀ (captured : List (String × Binding ρ))
    (name : String), Binding.search chain captured name
      = (Binding.landingOf chain captured name).map
          fun found => .after found (Landing.handle chain)
  | [], name => by rw [Binding.search, Binding.landingOf, Option.map_none]
  | (other, binding) :: rest, name => by
    rw [Binding.search, Binding.landingOf]
    by_cases here : name = other
    · rw [if_pos here, if_pos here, Option.map_some, Binding.handle_eq_landing chain binding]
    · rw [if_neg here, if_neg here, Binding.search_eq_landing chain rest name]

end

/-- From one world, an expression leads to a request that the chain is asked in
another. -/
def Compiled.LeadsTo (chain : Chain ρ) (c : Compiled ρ) (w : World ρ) (q : Request)
    (reached : World ρ) : Prop :=
  ∃ unclaimed, (c.landing chain).outcome w = (.ok (.request q unclaimed), reached)

namespace Assembly

variable (members : List Assembly) (q : Request) (unclaimed : Store → Absence) (w : World ρ)

/-- Through a chain of stock resolvers, a request reads as their common behaviour answers it, or is
not found; the world is left as it was. -/
theorem outcome_get : ((chain members).handle q unclaimed).get.outcome w
    = (((behaviour (.nested members)).get w.store q).getD (.error (.notFound (unclaimed w.store))),
        w) := by
  simp only [Chain.handle, outcome_claimedOr, toResolver_chain, StoreResolver.outcome_get]
  cases (behaviour (.nested members)).get w.store q <;> rfl

/-- The same holds for the type of a request, -/
theorem outcome_type : ((chain members).handle q unclaimed).type.outcome w
    = (((behaviour (.nested members)).type w.store q).getD (.error (.notFound (unclaimed w.store))),
        w) := by
  simp only [Chain.handle, outcome_claimedOr, toResolver_chain, StoreResolver.outcome_type]
  cases (behaviour (.nested members)).type w.store q <;> rfl

/-- and for the question whether it can be written. -/
theorem outcome_readOnly : ((chain members).handle q unclaimed).readOnly.outcome w
    = (((behaviour (.nested members)).readOnly w.store q).getD
        (.error (.notFound (unclaimed w.store))), w) := by
  simp only [Chain.handle, outcome_claimedOr, toResolver_chain, StoreResolver.outcome_readOnly]
  cases (behaviour (.nested members)).readOnly w.store q <;> rfl

/-- A write changes the store only if it is claimed and finds a slot. -/
theorem outcome_set (value : Value) : (((chain members).handle q unclaimed).set value).outcome w
    = match (behaviour (.nested members)).target w.store q with
      | none => (.error (.notWritable (.unclaimed (w.store.text q.property))), w)
      | some (.error x) => (.error x, w)
      | some (.ok slot) => (.ok (), { w with store := w.store.put slot value }) := by
  simp only [Chain.handle, Chain.assign, outcome_claimedOr, toResolver_chain,
    StoreResolver.outcome_set, StoreResolver.write]
  cases (behaviour (.nested members)).target w.store q with
  | none => rfl
  | some placed => cases placed <;> rfl

end Assembly

end PropertyPath
