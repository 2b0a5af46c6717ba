import PropertyPath.Proofs.Assembly

/-!
# Nested chains laid out

The members of a chain may be chains themselves. A request still passes through stock
resolvers only, from left to right, until one of them claims it: an inner chain that leaves
the request to others is passed over like a single resolver. What a chain of stock resolvers
does is therefore settled by the list of its leaves, and no law about its requests has to
speak of the nesting. What it lists is what they list, from left to right.
-/

namespace PropertyPath

variable {β : Type}

namespace Assembly

mutual

/-- The stock resolvers in a member, from left to right. -/
def leaves : Assembly → List Stock
  | .stock r => [r]
  | .nested members => leavesOf members

/-- The stock resolvers in members, from left to right. -/
def leavesOf : List Assembly → List Stock
  | [] => []
  | first :: rest => first.leaves ++ leavesOf rest

end

/-- The leaves of members that stand behind others come behind theirs. -/
theorem leavesOf_append (members others : List Assembly) :
    leavesOf (members ++ others) = leavesOf members ++ leavesOf others := by
  induction members with
  | nil => rfl
  | cons first rest hypothesis =>
    rw [List.cons_append, leavesOf, hypothesis, leavesOf, List.append_assoc]

/-- Stock resolvers are their own leaves. -/
@[simp] theorem leavesOf_stock (rs : List Stock) : leavesOf (rs.map .stock) = rs := by
  induction rs with
  | nil => rfl
  | cons r rest hypothesis =>
    rw [List.map_cons, leavesOf, leaves, hypothesis, List.singleton_append]

mutual

/-- What the first of some resolvers answers, the first of the leaves answers. -/
theorem ask_behaviour {ask : StoreResolver → Option β}
    (inOrder : ∀ rs, ask (.inOrder rs) = rs.findSome? ask) :
    ∀ a : Assembly, ask a.behaviour = a.leaves.findSome? fun r => ask r.behaviour
  | .stock r => by
    rw [behaviour, leaves, List.findSome?_singleton]
  | .nested members => by
    rw [behaviour, leaves, inOrder, ask_behaviours inOrder members]

/-- The same of members in a row. -/
theorem ask_behaviours {ask : StoreResolver → Option β}
    (inOrder : ∀ rs, ask (.inOrder rs) = rs.findSome? ask) :
    ∀ members : List Assembly,
      (behaviours members).findSome? ask = (leavesOf members).findSome? fun r => ask r.behaviour
  | [] => rfl
  | first :: rest => by
    rw [behaviours, leavesOf, List.findSome?_append, List.findSome?_cons,
      ask_behaviour inOrder first, ask_behaviours inOrder rest]
    cases first.leaves.findSome? fun r => ask r.behaviour <;> rfl

end

mutual

/-- A member lists what its leaves list, from left to right. -/
theorem features_eq_flatMap (s : Store) (base : Option Value) : ∀ a : Assembly,
    a.behaviour.features s base = a.leaves.flatMap (·.behaviour.features s base)
  | .stock r => by
    rw [behaviour, leaves, List.flatMap_singleton]
  | .nested members => by
    rw [behaviour, leaves]
    exact features_flatMap_eq s base members

/-- The features listed by members in a row are those listed by their leaves. -/
theorem features_flatMap_eq (s : Store) (base : Option Value) : ∀ members : List Assembly,
    (behaviours members).flatMap (·.features s base)
      = (leavesOf members).flatMap (·.behaviour.features s base)
  | [] => rfl
  | first :: rest => by
    rw [behaviours, leavesOf, List.flatMap_append, List.flatMap_cons, features_eq_flatMap s base first,
      features_flatMap_eq s base rest]

end

section Requests

variable (members : List Assembly) (s : Store) (q : Request)

/-- Nesting makes no difference to reading: the first leaf that answers does. -/
theorem get_eq_leaves : (behaviour (.nested members)).get s q
    = (leavesOf members).findSome? (·.behaviour.get s q) := by
  have asked : (behaviour (.nested members)).get s q
      = (leaves (.nested members)).findSome? (·.behaviour.get s q) :=
    @ask_behaviour _ (·.get s q) (fun _ => rfl) (.nested members)
  rwa [leaves] at asked

/-- Nesting makes no difference to types. -/
theorem type_eq_leaves : (behaviour (.nested members)).type s q
    = (leavesOf members).findSome? (·.behaviour.type s q) := by
  have asked : (behaviour (.nested members)).type s q
      = (leaves (.nested members)).findSome? (·.behaviour.type s q) :=
    @ask_behaviour _ (·.type s q) (fun _ => rfl) (.nested members)
  rwa [leaves] at asked

/-- It makes none to whether a write would be refused. -/
theorem readOnly_eq_leaves : (behaviour (.nested members)).readOnly s q
    = (leavesOf members).findSome? (·.behaviour.readOnly s q) := by
  have asked : (behaviour (.nested members)).readOnly s q
      = (leaves (.nested members)).findSome? (·.behaviour.readOnly s q) :=
    @ask_behaviour _ (·.readOnly s q) (fun _ => rfl) (.nested members)
  rwa [leaves] at asked

/-- It makes none to the slot of a write. -/
theorem target_eq_leaves : (behaviour (.nested members)).target s q
    = (leavesOf members).findSome? (·.behaviour.target s q) := by
  have asked : (behaviour (.nested members)).target s q
      = (leaves (.nested members)).findSome? (·.behaviour.target s q) :=
    @ask_behaviour _ (·.target s q) (fun _ => rfl) (.nested members)
  rwa [leaves] at asked

/-- Features are listed by all leaves, in order. -/
theorem features_eq_leaves (base : Option Value) : (behaviour (.nested members)).features s base
    = (leavesOf members).flatMap (·.behaviour.features s base) := by
  rw [features_eq_flatMap, leaves]

end Requests

end Assembly

end PropertyPath
