import PropertyPath.Resolver.Basic

/-!
# Chains

A chain asks its resolvers in order until one claims the request, and is itself a
resolver. The order matters: a later resolver never overrides an earlier one.
-/

namespace PropertyPath

variable {ρ α : Type}

/-- Resolvers in the order in which they are asked. -/
structure Chain (ρ : Type) where
  resolvers : List (Resolver ρ) := []

/-- Asks resolvers in order until one claims the request. -/
def firstClaim (ask : Resolver ρ → Action ρ (Answer α)) : List (Resolver ρ) → Action ρ (Answer α)
  | [] => pure none
  | r :: rest => do
    match ← ask r with
    | some outcome => pure (some outcome)
    | none => firstClaim ask rest

/-- Collects the features of all resolvers in order. -/
def allFeatures (base : Option Value) : List (Resolver ρ) → Action ρ (List Feature)
  | [] => pure []
  | r :: rest => do
    let own ← r.features base
    return own ++ (← allFeatures base rest)

/-- Asks resolvers in order until one knows a common type. -/
def firstCommonType (base : Option Value) : List (Resolver ρ) → Action ρ (Option ValueType)
  | [] => pure none
  | r :: rest => do
    match ← r.commonType base with
    | some type => pure (some type)
    | none => firstCommonType base rest

namespace Chain

/-- The names of the resolvers in order. -/
def names (c : Chain ρ) : List String := c.resolvers.map (·.name)

/-- Adds a resolver that is asked after all others. -/
def append (c : Chain ρ) (r : Resolver ρ) : Chain ρ := ⟨c.resolvers ++ [r]⟩

/-- Adds a resolver that is asked before all others. -/
def prepend (c : Chain ρ) (r : Resolver ρ) : Chain ρ := ⟨r :: c.resolvers⟩

/-- Adds a resolver after the first `position` ones, or at the end of a shorter
chain. -/
def insert (c : Chain ρ) (position : Nat) (r : Resolver ρ) : Chain ρ :=
  ⟨c.resolvers.take position ++ r :: c.resolvers.drop position⟩

/-- The chain as a resolver, so that chains nest. -/
def toResolver (c : Chain ρ) : Resolver ρ where
  name := "chain"
  get q := firstClaim (·.get q) c.resolvers
  type q := firstClaim (·.type q) c.resolvers
  readOnly q := firstClaim (·.readOnly q) c.resolvers
  set q value := firstClaim (·.set q value) c.resolvers
  features base := allFeatures base c.resolvers
  commonType base := firstCommonType base c.resolvers

/-- Writes through the chain; a write that nobody claims is refused. -/
def assign (c : Chain ρ) (q : Request) (value : Value) : Attempt ρ Unit :=
  claimedOr (c.toResolver.set q value) <|
    failWith fun s => .notWritable (.unclaimed (s.text q.property))

end Chain

end PropertyPath
