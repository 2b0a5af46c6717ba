import PropertyPath.Fault
import PropertyPath.Store.Display

/-!
# Resolvers

A path is resolved one request at a time: a property, and the value it is looked
up on, or no value for the root of the path. A resolver may leave a request to
others; once it claims one, its answer is final, whether a result or a fault.

Resolvers run in a world that holds the shared store and whatever the host keeps
for resolvers and functions of its own.
-/

namespace PropertyPath

/-- A property to resolve, on a base or at the root of a path. -/
structure Request where
  base : Option Value
  property : Value
  deriving DecidableEq

/-- The request for a name at the root of a path. -/
def Request.root (name : String) : Request := ⟨none, .string name⟩

/-- The request for a property of a value. -/
def Request.on (base property : Value) : Request := ⟨some base, property⟩

/-- The name a request looks up at the root, if it does. -/
def Request.rootName? : Request → Option String
  | ⟨none, .string name⟩ => some name
  | _ => none

/-- Nothing where a request is left to others, else the outcome. -/
abbrev Answer (α : Type) := Option (Except Fault α)

/-- One name that a resolver offers on a base. -/
structure Feature where
  name : String
  type : ValueType
  description : String := ""
  displayName : String := name
  preferred : Bool := true
  designTime : Bool := true
  deriving DecidableEq, Repr

/-- The shared store, and what the host keeps. -/
structure World (ρ : Type) where
  store : Store
  host : ρ

/-- An action on the world that always ends in a result. -/
abbrev Action (ρ α : Type) := StateM (World ρ) α

/-- An action on the world that may end in a fault. What it changed before the
fault stays changed. -/
abbrev Attempt (ρ α : Type) := ExceptT Fault (StateM (World ρ)) α

/-- Fails with a cause that is worded from the store as it is now. -/
def failWith {ρ α : Type} (cause : Store → Fault) : Attempt ρ α :=
  ExceptT.mk do return .error (cause (← get).store)

/-- The outcome of a request, or another attempt where nobody claims it. -/
def claimedOr {ρ α : Type} (ask : Action ρ (Answer α)) (unclaimed : Attempt ρ α) : Attempt ρ α :=
  ExceptT.mk do
    match ← ask with
    | some outcome => return outcome
    | none => unclaimed.run

/-- A source of values: how to read a request, its type, whether it can be
written, how to write it, and which names there are. -/
structure Resolver (ρ : Type) where
  name : String
  get : Request → Action ρ (Answer Value)
  type : Request → Action ρ (Answer ValueType)
  readOnly : Request → Action ρ (Answer Bool)
  set : Request → Value → Action ρ (Answer Unit)
  features : Option Value → Action ρ (List Feature) := fun _ => pure []
  commonType : Option Value → Action ρ (Option ValueType) := fun _ => pure none

/-- A resolver that looks at nothing but the store, and whose writes store a value
in one slot. -/
structure StoreResolver where
  name : String
  get : Store → Request → Answer Value
  type : Store → Request → Answer ValueType
  readOnly : Store → Request → Answer Bool
  target : Store → Request → Answer Slot
  features : Store → Option Value → List Feature
  commonType : Option Value → Option ValueType

/-- What a write does to the store: nothing, unless a slot is found. -/
def StoreResolver.write (r : StoreResolver) (s : Store) (q : Request) (value : Value) :
    Answer Unit × Store :=
  match r.target s q with
  | none => (none, s)
  | some (.error fault) => (some (.error fault), s)
  | some (.ok slot) => (some (.ok ()), s.put slot value)

/-- A resolver on the store as a resolver in any world. -/
def StoreResolver.toResolver {ρ : Type} (r : StoreResolver) : Resolver ρ where
  name := r.name
  get q := return r.get (← MonadState.get).store q
  type q := return r.type (← MonadState.get).store q
  readOnly q := return r.readOnly (← MonadState.get).store q
  set q value := fun world =>
    let (answer, store) := r.write world.store q value
    (answer, { world with store })
  features base := return r.features (← MonadState.get).store base
  commonType base := return r.commonType base

end PropertyPath
