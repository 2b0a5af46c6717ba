import PropertyPath.Proofs.Outcome
import PropertyPath.Resolver.Chain

/-!
# Chains within chains

The members of a chain may be chains of members again. Whatever their leaves are, resolvers
with state or effects of any kind included, the chain is the same resolver as the flat chain of
its leaves from left to right. Nothing is assumed of the leaves: the two chains are equal as
attempts on the world, so they ask the same leaves in the same order and leave the same world.

The reason is the same for all kinds of request. What a chain makes of a request is put together
from what its members make of it, by an operation that is associative and has a unit: the first
answer, or all that is listed. Such an operation does not see how its operands were grouped.

A chain can be changed at any place of its top level. The flat chain keeps up with it if the
leaves of what is added go where the leaves before that place end.
-/

namespace PropertyPath

variable {ρ σ α β : Type}

/-! ## Operations that do not see grouping -/

/-- Actions that end alike in every world are one action. -/
theorem Action.ext {m n : Action ρ α} (ends : ∀ w, m.outcome w = n.outcome w) : m = n := funext ends

/-- One action, and another where the first has no answer. -/
def Action.otherwise (first rest : Action ρ (Option β)) : Action ρ (Option β) := do
  match ← first with
  | some answer => pure (some answer)
  | none => rest

/-- Two listings, one after the other. -/
def Action.followedBy (first rest : Action ρ (List β)) : Action ρ (List β) := do
  let own ← first
  return own ++ (← rest)

namespace Action

/-- The second action is only begun where the first has no answer, and in the world that the first
leaves. -/
theorem outcome_otherwise (first rest : Action ρ (Option β)) (w : World ρ) :
    (first.otherwise rest).outcome w =
      match first.outcome w with
      | (some answer, reached) => (some answer, reached)
      | (none, reached) => rest.outcome reached := by
  rw [otherwise, outcome_bind]
  cases first.outcome w with
  | mk answer reached => cases answer <;> rfl

/-- How first answers are grouped does not matter: in each case the first action that has an answer
is the last one begun. -/
instance : Std.Associative (otherwise (ρ := ρ) (β := β)) where
  assoc first second third := by
    apply Action.ext
    intro w
    simp only [outcome_otherwise]
    cases first.outcome w with
    | mk answer reached => cases answer <;> rfl

/-- An action without an answer may be left out, if it leaves the world alone. -/
instance : Std.LawfulIdentity (otherwise (ρ := ρ) (β := β)) (pure none) where
  left_id rest := rfl
  right_id first := by
    apply Action.ext
    intro w
    rw [outcome_otherwise]
    cases first.outcome w with
    | mk answer reached => cases answer <;> rfl

/-- How listings are grouped does not matter. -/
instance : Std.Associative (followedBy (ρ := ρ) (β := β)) where
  assoc first second third := by
    apply Action.ext
    intro w
    simp only [followedBy, outcome_bind, outcome_pure, List.append_assoc]

/-- A listing of nothing may be left out, if it leaves the world alone. -/
instance : Std.LawfulIdentity (followedBy (ρ := ρ) (β := β)) (pure []) where
  left_id rest := rfl
  right_id first := by
    apply Action.ext
    intro w
    simp only [followedBy, outcome_bind, outcome_pure, List.append_nil]

end Action

/-! ## Requests as data -/

/-- One of the requests that end with the first answer. -/
inductive Query where
  | get (q : Request)
  | type (q : Request)
  | readOnly (q : Request)
  | set (q : Request) (value : Value)
  | commonType (base : Option Value)

namespace Query

/-- What an answer to a request is. -/
def Found : Query → Type
  | get _ => Except Fault Value
  | type _ => Except Fault ValueType
  | readOnly _ => Except Fault Bool
  | set _ _ => Except Fault Unit
  | commonType _ => ValueType

/-- Makes a request of a resolver. -/
def ask : (query : Query) → Resolver ρ → Action ρ (Option query.Found)
  | get q, r => r.get q
  | type q, r => r.type q
  | readOnly q, r => r.readOnly q
  | set q value, r => r.set q value
  | commonType base, r => r.commonType base

end Query

/-- What is made of a request to a resolver, so that for a chain it is put together from its
members by an operation that does not see how they are grouped. -/
structure Resolver.PutTogether {γ : Type} (ask : Resolver ρ → γ) (op : γ → γ → γ) (unit : γ) : Prop where
  associative : Std.Associative op
  identity : Std.LawfulIdentity op unit
  ofChain : ∀ rs, ask (Chain.toResolver ⟨rs⟩) = (rs.map ask).foldr op unit

section Kinds

open PropertyPath.Action

/-- The first claim of some resolvers puts their claims together, one otherwise the next. -/
theorem firstClaim_eq_foldr (ask : Resolver ρ → Action ρ (Answer α)) (rs : List (Resolver ρ)) :
    firstClaim ask rs = (rs.map ask).foldr otherwise (pure none) := by
  induction rs with
  | nil => rfl
  | cons r rest hypothesis =>
    rw [List.map_cons, List.foldr_cons, ← hypothesis]
    apply Action.ext
    intro w
    rw [firstClaim, outcome_bind, outcome_otherwise]
    cases (ask r).outcome w with
    | mk answer reached => cases answer <;> rfl

/-- So does the first common type. -/
theorem firstCommonType_eq_foldr (base : Option Value) (rs : List (Resolver ρ)) :
    firstCommonType base rs = (rs.map (·.commonType base)).foldr otherwise (pure none) := by
  induction rs with
  | nil => rfl
  | cons r rest hypothesis =>
    rw [List.map_cons, List.foldr_cons, ← hypothesis]
    apply Action.ext
    intro w
    rw [firstCommonType, outcome_bind, outcome_otherwise]
    cases (r.commonType base).outcome w with
    | mk answer reached => cases answer <;> rfl

/-- All features are those of each resolver, one listing followed by the next. -/
theorem allFeatures_eq_foldr (base : Option Value) (rs : List (Resolver ρ)) :
    allFeatures base rs = (rs.map (·.features base)).foldr followedBy (pure []) := by
  induction rs with
  | nil => rfl
  | cons r rest hypothesis =>
    rw [allFeatures, hypothesis]
    rfl

/-- A request that ends with the first answer is put together so. -/
theorem Query.putTogether (query : Query) :
    Resolver.PutTogether (query.ask : Resolver ρ → _) otherwise (pure none) where
  associative := inferInstance
  identity := inferInstance
  ofChain rs := by
    cases query with
    | get q => exact firstClaim_eq_foldr (·.get q) rs
    | type q => exact firstClaim_eq_foldr (·.type q) rs
    | readOnly q => exact firstClaim_eq_foldr (·.readOnly q) rs
    | set q value => exact firstClaim_eq_foldr (·.set q value) rs
    | commonType base => exact firstCommonType_eq_foldr base rs

/-- The features of a chain are those of its members, one after the other. -/
theorem Resolver.putTogether_features (base : Option Value) :
    PutTogether (fun r : Resolver ρ => r.features base) followedBy (pure []) where
  associative := inferInstance
  identity := inferInstance
  ofChain rs := allFeatures_eq_foldr base rs

end Kinds

/-! ## Members and their leaves -/

/-- A member of a chain: a leaf, or a chain of members. -/
inductive Member (α : Type) where
  | leaf (x : α)
  | chain (members : List (Member α))

namespace Member

mutual

/-- A member as a resolver, given what its leaves are. -/
def resolver (make : α → Resolver ρ) : Member α → Resolver ρ
  | .leaf x => make x
  | .chain members => Chain.toResolver ⟨resolvers make members⟩

/-- Members as resolvers, in order. -/
def resolvers (make : α → Resolver ρ) : List (Member α) → List (Resolver ρ)
  | [] => []
  | first :: rest => first.resolver make :: resolvers make rest

end

mutual

/-- The leaves of a member, from left to right. -/
def leaves : Member α → List α
  | .leaf x => [x]
  | .chain members => leavesOf members

/-- The leaves of members, from left to right. -/
def leavesOf : List (Member α) → List α
  | [] => []
  | first :: rest => first.leaves ++ leavesOf rest

end

/-- The chain of some members. -/
def nested (make : α → Resolver ρ) (members : List (Member α)) : Chain ρ := ⟨resolvers make members⟩

/-- The chain of the leaves of some members, without the chains between. -/
def flat (make : α → Resolver ρ) (members : List (Member α)) : Chain ρ := ⟨(leavesOf members).map make⟩

/-- The resolvers of members are those of each. -/
theorem resolvers_eq_map (make : α → Resolver ρ) (members : List (Member α)) :
    resolvers make members = members.map (resolver make) := by
  induction members with
  | nil => rw [resolvers, List.map_nil]
  | cons first rest hypothesis => rw [resolvers, hypothesis, List.map_cons]

/-- The leaves of members that stand behind others come behind theirs. -/
theorem leavesOf_append (members others : List (Member α)) :
    leavesOf (members ++ others) = leavesOf members ++ leavesOf others := by
  induction members with
  | nil => rw [leavesOf, List.nil_append, List.nil_append]
  | cons first rest hypothesis =>
    rw [List.cons_append, leavesOf, hypothesis, leavesOf, List.append_assoc]

section Grouping

variable {γ : Type} {ask : Resolver ρ → γ} {op : γ → γ → γ} {unit : γ}

/-- Parts of two lists are put together as the two lists are. -/
theorem foldr_append_of_putTogether (together : Resolver.PutTogether ask op unit) (xs ys : List γ) :
    (xs ++ ys).foldr op unit = op (xs.foldr op unit) (ys.foldr op unit) := by
  have associative := together.associative
  have identity := together.identity
  induction xs with
  | nil => exact (identity.left_id _).symm
  | cons x rest hypothesis =>
    rw [List.cons_append, List.foldr_cons, List.foldr_cons, hypothesis, associative.assoc]

mutual

/-- What is made of a request to a member is put together from its leaves. The induction follows
the nesting. -/
theorem ask_resolver (together : Resolver.PutTogether ask op unit) (make : α → Resolver ρ) :
    ∀ m : Member α, ask (m.resolver make) = ((m.leaves.map make).map ask).foldr op unit
  | .leaf x => by
    rw [resolver, leaves]
    exact (together.identity.right_id _).symm
  | .chain members => by
    rw [resolver, leaves, together.ofChain, ask_resolvers together make members]

/-- The same of members in a row. Both are proved together, since a group contains members. -/
theorem ask_resolvers (together : Resolver.PutTogether ask op unit) (make : α → Resolver ρ) :
    ∀ members : List (Member α), ((resolvers make members).map ask).foldr op unit
      = (((leavesOf members).map make).map ask).foldr op unit
  | [] => by rw [resolvers, leavesOf, List.map_nil, List.map_nil, List.map_nil]
  | first :: rest => by
    rw [resolvers, leavesOf, List.map_cons, List.foldr_cons, List.map_append, List.map_append,
      foldr_append_of_putTogether together, ask_resolver together make first,
      ask_resolvers together make rest]

end

/-- So it is the same for a chain of members and for the flat chain of their leaves. -/
theorem ask_nested (together : Resolver.PutTogether ask op unit) (make : α → Resolver ρ)
    (members : List (Member α)) :
    ask (nested make members).toResolver = ask (flat make members).toResolver := by
  rw [nested, flat, together.ofChain, together.ofChain, ask_resolvers together]

end Grouping

/-- A chain of members and the flat chain of their leaves are one resolver. -/
theorem toResolver_nested (make : α → Resolver ρ) (members : List (Member α)) :
    (nested make members).toResolver = (flat make members).toResolver := by
  have same (query : Query) := ask_nested query.putTogether make members
  refine (Resolver.mk.injEq ..).mpr ⟨rfl, ?_, ?_, ?_, ?_, ?_, ?_⟩
  · exact funext fun q => same (.get q)
  · exact funext fun q => same (.type q)
  · exact funext fun q => same (.readOnly q)
  · exact funext fun q => funext fun value => same (.set q value)
  · exact funext fun base => ask_nested (Resolver.putTogether_features base) make members
  · exact funext fun base => same (.commonType base)

end Member

/-! ## Changing a chain -/

/-- A member that is added to a chain: after the others, before them, or after the first
`position` of them. -/
inductive Edit (α : Type) where
  | append (m : Member α)
  | prepend (m : Member α)
  | insert (position : Nat) (m : Member α)

/-- Adds resolvers one after the other, the first of them after the first `position` that are
there. -/
def Chain.insertAll (c : Chain ρ) (position : Nat) : List (Resolver ρ) → Chain ρ
  | [] => c
  | r :: rest => (c.insert position r).insertAll (position + 1) rest

/-- Resolvers that are added one after the other stand there in their order. -/
theorem Chain.insertAll_length (before rs after : List (Resolver ρ)) :
    (⟨before ++ after⟩ : Chain ρ).insertAll before.length rs = ⟨before ++ rs ++ after⟩ := by
  induction rs generalizing before with
  | nil => rw [insertAll, List.append_nil]
  | cons r rest hypothesis =>
    have further := hypothesis (before ++ [r])
    simp only [List.length_append, List.length_singleton, List.append_assoc, List.singleton_append] at further
    rw [insertAll, insert, List.take_left, List.drop_left, List.append_assoc, List.cons_append]
    exact further

namespace Edit

/-- The member that is added. -/
def member : Edit α → Member α
  | append m => m
  | prepend m => m
  | insert _ m => m

/-- A chain after a change. -/
def onChain (make : α → Resolver ρ) (c : Chain ρ) : Edit α → Chain ρ
  | append m => c.append (m.resolver make)
  | prepend m => c.prepend (m.resolver make)
  | insert position m => c.insert position (m.resolver make)

/-- The members that stay before the one that is added, and those that come after it. -/
def around (members : List (Member α)) : Edit α → List (Member α) × List (Member α)
  | append _ => (members, [])
  | prepend _ => ([], members)
  | insert position _ => (members.take position, members.drop position)

/-- The members of a chain after a change. -/
def onMembers (members : List (Member α)) (edit : Edit α) : List (Member α) :=
  (edit.around members).1 ++ edit.member :: (edit.around members).2

/-- The flat chain after a change: the leaves of the member that is added go behind the leaves of
the members before it. -/
def onFlat (make : α → Resolver ρ) (members : List (Member α)) (c : Chain ρ) (edit : Edit α) : Chain ρ :=
  c.insertAll (Member.leavesOf (edit.around members).1).length (edit.member.leaves.map make)

/-- The members of a chain after changes, the first of them first. -/
def allOnMembers : List (Edit α) → List (Member α) → List (Member α)
  | [], members => members
  | edit :: rest, members => allOnMembers rest (edit.onMembers members)

/-- The flat chain after changes to a chain of members, the first of them first. -/
def allOnFlat (make : α → Resolver ρ) : List (Edit α) → List (Member α) → Chain ρ → Chain ρ
  | [], _, c => c
  | edit :: rest, members, c => allOnFlat make rest (edit.onMembers members) (edit.onFlat make members c)

/-- An edit splits the members in two at its place, and loses none of them. -/
theorem around_append (members : List (Member α)) (edit : Edit α) :
    (edit.around members).1 ++ (edit.around members).2 = members := by
  cases edit with
  | append m => exact List.append_nil _
  | prepend m => rfl
  | insert position m => exact List.take_append_drop _ _

/-- Editing a nested chain is editing the members that it was made of. -/
theorem onChain_nested (make : α → Resolver ρ) (members : List (Member α)) (edit : Edit α) :
    edit.onChain make (Member.nested make members) = Member.nested make (edit.onMembers members) := by
  simp only [Member.nested, Member.resolvers_eq_map, onMembers, List.map_append, List.map_cons]
  cases edit with
  | append m => rfl
  | prepend m => rfl
  | insert position m =>
    simp only [onChain, Chain.insert, around, member, List.map_take, List.map_drop]

/-- Editing a flat chain at the place that belongs to the members is editing the members. A group
counts for all its leaves there. -/
theorem onFlat_flat (make : α → Resolver ρ) (members : List (Member α)) (edit : Edit α) :
    edit.onFlat make members (Member.flat make members) = Member.flat make (edit.onMembers members) := by
  have placed := Chain.insertAll_length ((Member.leavesOf (edit.around members).1).map make)
    (edit.member.leaves.map make) ((Member.leavesOf (edit.around members).2).map make)
  rw [List.length_map, ← List.map_append, ← Member.leavesOf_append, around_append] at placed
  rw [onFlat, Member.flat, placed, Member.flat, onMembers, Member.leavesOf_append, Member.leavesOf,
    List.map_append, List.map_append, List.append_assoc]

/-- Edits of a nested chain, one after another, by induction on the edits. -/
theorem foldl_onChain_nested (make : α → Resolver ρ) (edits : List (Edit α)) :
    ∀ members : List (Member α), edits.foldl (onChain make) (Member.nested make members)
      = Member.nested make (allOnMembers edits members) := by
  induction edits with
  | nil => exact fun _ => rfl
  | cons edit rest hypothesis =>
    intro members
    rw [List.foldl_cons, onChain_nested, hypothesis, allOnMembers]

/-- Edits of a flat chain, one after another. Each finds its place among the members that those
before it have left. -/
theorem allOnFlat_flat (make : α → Resolver ρ) (edits : List (Edit α)) :
    ∀ members : List (Member α), allOnFlat make edits members (Member.flat make members)
      = Member.flat make (allOnMembers edits members) := by
  induction edits with
  | nil => exact fun _ => rfl
  | cons edit rest hypothesis =>
    intro members
    rw [allOnFlat, onFlat_flat, hypothesis, allOnMembers]

end Edit

end PropertyPath
