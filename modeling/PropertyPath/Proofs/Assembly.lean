import PropertyPath.Proofs.Outcome
import PropertyPath.Resolver.Stock

/-!
# Assemblies of stock resolvers

Stock resolvers may stand in a chain in any order, more than once, and in chains
within chains. An assembly is one member of such a chain. No stock resolver has
state or effects beyond the store, so the members of a chain, nested ones
included, behave as a single resolver on the store: the one that asks them in
order and leaves a request to others only if all of them do.

What holds of every stock resolver and survives asking in order therefore holds
of every chain of stock resolvers. Order and repetition need no case of their
own, since no law below says which member answers.
-/

namespace PropertyPath

variable {ρ α β γ : Type}

/-- Searches that agree on every candidate agree on the first answer. -/
theorem rel_findSome? {R : β → γ → Prop} {f : α → Option β} {g : α → Option γ} {candidates : List α}
    (each : ∀ x ∈ candidates, Option.Rel R (f x) (g x)) :
    Option.Rel R (candidates.findSome? f) (candidates.findSome? g) := by
  induction candidates with
  | nil => exact Option.Rel.none
  | cons first rest hypothesis =>
    have head : Option.Rel R (f first) (g first) := each first List.mem_cons_self
    have tail : Option.Rel R (rest.findSome? f) (rest.findSome? g) :=
      hypothesis fun x later => each x (List.mem_cons_of_mem first later)
    rw [List.findSome?_cons, List.findSome?_cons]
    cases left : f first with
    | none =>
      cases right : g first with
      | none => exact tail
      | some z => rw [left, right] at head; cases head
    | some y =>
      cases right : g first with
      | none => rw [left, right] at head; cases head
      | some z => rw [left, right] at head; exact head

/-- Where candidates answer like one of them or not at all, the first answer is the one of that
candidate. -/
theorem findSome?_eq_of_alike {f : α → Option β} {candidates : List α} {x : α}
    (member : x ∈ candidates) (alike : ∀ y ∈ candidates, f y = none ∨ f y = f x) :
    candidates.findSome? f = f x := by
  cases own : f x with
  | none =>
    apply List.findSome?_eq_none_iff.2
    intro y later
    rcases alike y later with none | same
    · exact none
    · rw [same, own]
  | some answer =>
    have claimed : (candidates.findSome? f).isSome = true := by
      rw [List.findSome?_isSome_iff]
      exact ⟨x, member, by rw [own]; rfl⟩
    obtain ⟨first, found⟩ := Option.isSome_iff_exists.1 claimed
    obtain ⟨y, later, answered⟩ := List.exists_of_findSome?_eq_some found
    rcases alike y later with none | same
    · rw [answered] at none
      cases none
    · rw [found, ← answered, same, own]

/-- Related answers stay related when related defaults stand for no answer. -/
theorem rel_getD {R : β → γ → Prop} {left : Option β} {right : Option γ}
    (related : Option.Rel R left right) {y : β} {z : γ} (defaults : R y z) :
    R (left.getD y) (right.getD z) := by
  cases related with
  | none => exact defaults
  | some answers => exact answers

namespace StoreResolver

/-- Resolvers on the store that are asked in order, as one. -/
def inOrder (rs : List StoreResolver) : StoreResolver where
  name := "chain"
  get s q := rs.findSome? (·.get s q)
  type s q := rs.findSome? (·.type s q)
  readOnly s q := rs.findSome? (·.readOnly s q)
  target s q := rs.findSome? (·.target s q)
  features s base := rs.flatMap (·.features s base)
  commonType base := rs.findSome? (·.commonType base)

/-- Requests that leave the world alone are answered by the first resolver on the
store that claims them, and leave the world alone. -/
theorem outcome_firstClaim (ask : Resolver ρ → Action ρ (Answer α))
    (answer : StoreResolver → Store → Answer α)
    (reads : ∀ (r : StoreResolver) (w : World ρ),
      (ask r.toResolver).outcome w = (answer r w.store, w))
    (rs : List StoreResolver) (w : World ρ) :
    (firstClaim ask (rs.map toResolver)).outcome w = (rs.findSome? (answer · w.store), w) := by
  induction rs with
  | nil => rfl
  | cons r rest hypothesis =>
    rw [List.map_cons, firstClaim, Action.outcome_bind, reads, List.findSome?_cons]
    cases answer r w.store with
    | none => exact hypothesis
    | some claimed => rfl

/-- A write changes the store only through the first resolver that claims it: the
ones before it leave the store as it was. -/
theorem outcome_firstClaim_set (q : Request) (value : Value) (rs : List StoreResolver)
    (w : World ρ) :
    (firstClaim (·.set q value) (rs.map toResolver)).outcome w
      = ((inOrder rs).toResolver.set q value).outcome w := by
  induction rs with
  | nil => rfl
  | cons r rest hypothesis =>
    rw [List.map_cons, firstClaim, Action.outcome_bind, outcome_set, outcome_set]
    cases claimed : r.target w.store q with
    | none =>
      simp only [write, inOrder, List.findSome?_cons, claimed]
      exact hypothesis
    | some placed =>
      simp only [write, inOrder, List.findSome?_cons, claimed]
      cases placed <;> rfl

/-- Members on the store list their names one after the other and leave the world. -/
theorem outcome_allFeatures (base : Option Value) (rs : List StoreResolver) (w : World ρ) :
    (allFeatures base (rs.map toResolver)).outcome w
      = (rs.flatMap (·.features w.store base), w) := by
  induction rs with
  | nil => rfl
  | cons r rest hypothesis =>
    rw [List.map_cons, allFeatures, Action.outcome_bind, outcome_features, Action.outcome_bind,
      hypothesis, Action.outcome_pure, List.flatMap_cons]

/-- The common type of members on the store is that of the first which has one. -/
theorem outcome_firstCommonType (base : Option Value) (rs : List StoreResolver) (w : World ρ) :
    (firstCommonType base (rs.map toResolver)).outcome w
      = (rs.findSome? (·.commonType base), w) := by
  induction rs with
  | nil => rfl
  | cons r rest hypothesis =>
    rw [List.map_cons, firstCommonType, Action.outcome_bind, outcome_commonType,
      List.findSome?_cons]
    cases r.commonType base with
    | none => exact hypothesis
    | some type => rfl

/-- A chain of resolvers on the store is one resolver on the store. -/
theorem toResolver_chain (rs : List StoreResolver) :
    (Chain.toResolver ⟨rs.map toResolver⟩ : Resolver ρ) = (inOrder rs).toResolver := by
  simp only [Chain.toResolver, toResolver, Resolver.mk.injEq]
  refine ⟨rfl, ?_, ?_, ?_, ?_, ?_, ?_⟩
  · funext q w
    exact outcome_firstClaim (·.get q) (·.get · q) (fun _ _ => rfl) rs w
  · funext q w
    exact outcome_firstClaim (·.type q) (·.type · q) (fun _ _ => rfl) rs w
  · funext q w
    exact outcome_firstClaim (·.readOnly q) (·.readOnly · q) (fun _ _ => rfl) rs w
  · funext q value w
    exact outcome_firstClaim_set q value rs w
  · funext base w
    exact outcome_allFeatures base rs w
  · funext base w
    exact outcome_firstCommonType base rs w

end StoreResolver

/-- A member of a chain of stock resolvers: one of them, or a chain of such
members. -/
inductive Assembly where
  | stock (r : Stock)
  | nested (members : List Assembly)

namespace Assembly

mutual

/-- A member as a resolver. -/
def resolver : Assembly → Resolver ρ
  | .stock r => r.resolver
  | .nested members => Chain.toResolver ⟨resolvers members⟩

/-- Members as resolvers, in order. -/
def resolvers : List Assembly → List (Resolver ρ)
  | [] => []
  | first :: rest => first.resolver :: resolvers rest

end

mutual

/-- What a member does to the store. -/
def behaviour : Assembly → StoreResolver
  | .stock r => r.behaviour
  | .nested members => .inOrder (behaviours members)

/-- What members do to the store, in order. -/
def behaviours : List Assembly → List StoreResolver
  | [] => []
  | first :: rest => first.behaviour :: behaviours rest

end

/-- The chain of some members. -/
def chain (members : List Assembly) : Chain ρ := ⟨resolvers members⟩

mutual

/-- An assembly is a resolver on the store, whose behaviour does not depend on what the host keeps.
The recursion goes through nested chains, together with that on their members. -/
theorem resolver_eq : ∀ a : Assembly, (a.resolver : Resolver ρ) = a.behaviour.toResolver
  | .stock r => by rw [resolver, behaviour, Stock.resolver]
  | .nested members => by
    rw [resolver, behaviour, resolvers_eq members, StoreResolver.toResolver_chain]

/-- So are the members of a chain, each with its own behaviour. -/
theorem resolvers_eq : ∀ members : List Assembly,
    (resolvers members : List (Resolver ρ)) = (behaviours members).map StoreResolver.toResolver
  | [] => by rw [resolvers, behaviours, List.map_nil]
  | first :: rest => by
    rw [resolvers, behaviours, List.map_cons, resolver_eq first, resolvers_eq rest]

end

/-- A chain of stock resolvers, however nested, is one resolver on the store. -/
theorem toResolver_chain (members : List Assembly) :
    (chain members : Chain ρ).toResolver = (behaviour (.nested members)).toResolver := by
  rw [← resolver_eq, resolver, chain]

mutual

/-- What holds of every stock resolver and survives asking in order holds of
every member. The induction follows the nesting. -/
theorem behaviour_law {P : StoreResolver → Prop} (stock : ∀ r : Stock, P r.behaviour)
    (inOrder : ∀ rs, (∀ r ∈ rs, P r) → P (.inOrder rs)) : ∀ a : Assembly, P a.behaviour
  | .stock r => by
    rw [behaviour]
    exact stock r
  | .nested members => by
    rw [behaviour]
    exact inOrder (behaviours members) (behaviours_law stock inOrder members)

/-- A law of stock resolvers that passes on to chains holds of all members of a chain, nested ones
included. -/
theorem behaviours_law {P : StoreResolver → Prop} (stock : ∀ r : Stock, P r.behaviour)
    (inOrder : ∀ rs, (∀ r ∈ rs, P r) → P (.inOrder rs)) :
    ∀ members : List Assembly, ∀ r ∈ behaviours members, P r
  | [] => by
    intro r member
    rw [behaviours] at member
    cases member
  | first :: rest => by
    intro r member
    rw [behaviours] at member
    rcases List.mem_cons.1 member with rfl | later
    · exact behaviour_law stock inOrder first
    · exact behaviours_law stock inOrder rest r later

end

end Assembly

end PropertyPath
