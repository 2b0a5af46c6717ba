import Mathlib.Data.List.Pairwise
import Mathlib.Data.List.Perm.Basic
import PropertyPath.Proofs.Arrangement
import PropertyPath.Proofs.Domains
import PropertyPath.Proofs.Interchange

/-!
# The order of resolvers

A chain asks its resolvers in order, so order could matter for any request. For stock
resolvers it matters at the root only. On a base, the base says which kind of resolver
answers, and all others leave the request alone: with one resolver of each kind there is
nothing to be first at. At the root, local variables take every name, and a namespace or an
implicit object takes its own; a name of theirs is contested, any other is not.

So chains that differ in the order of their resolvers, or in how these are nested, cannot be
told apart by an expression that asks for no contested name, neither by what the requests
find nor by what they do to the store.
-/

namespace PropertyPath

variable {ρ α β : Type}

/-- Where no two candidates have an answer, the order of candidates does not decide who is the
first to have one. The induction is on the permutation: neighbours that change places are the
one case where something is to be compared. -/
theorem findSome?_perm {f : α → Option β} {xs ys : List α} (reordered : xs.Perm ys)
    (single : xs.Pairwise fun x y => f x = none ∨ f y = none) : xs.findSome? f = ys.findSome? f := by
  induction reordered with
  | nil => rfl
  | cons x _ hypothesis =>
    rw [List.findSome?_cons, List.findSome?_cons, hypothesis (List.pairwise_cons.1 single).2]
  | swap x y rest =>
    have apart : f y = none ∨ f x = none := (List.pairwise_cons.1 single).1 x List.mem_cons_self
    simp only [List.findSome?_cons]
    rcases apart with none | none
    · rw [none]
    · rw [none]
  | trans first _ hypothesis hypothesis' =>
    exact (hypothesis single).trans (hypothesis' ((first.pairwise_iff Or.symm).1 single))

namespace Stock

/-- At most one resolver of each kind; implicit objects are of none. -/
def Distinct (rs : List Stock) : Prop := (rs.filterMap kind?).Nodup

/-- A name that no namespace and no implicit object has at the root. -/
def Uncontested (rs : List Stock) (name : String) : Prop := ∀ r ∈ rs, r.root? ≠ some name

variable {rs : List Stock} {q : Request}

/-- Resolvers that take one request are of one kind, unless it is for a contested name. -/
theorem kind?_of_takes {good : Value → Prop} (admitted : q.Admitted good (Uncontested rs)) {r r' : Stock}
    (member : r ∈ rs) (member' : r' ∈ rs) (takes : r.takes q = true) (takes' : r'.takes q = true) :
    ∃ k, r.kind? = some k ∧ r'.kind? = some k := by
  cases admitted with
  | root named =>
    rcases takes_root.1 takes with locals | own
    · rcases takes_root.1 takes' with locals' | own'
      · exact ⟨.locals, locals, locals'⟩
      · exact absurd own' (named r' member')
    · exact absurd own (named r member)
  | on place denotes =>
    obtain ⟨k, governor, kind⟩ := takes_on.1 takes
    obtain ⟨k', governor', kind'⟩ := takes_on.1 takes'
    rw [governor] at governor'
    cases governor'
    exact ⟨k, kind, kind'⟩

/-- Of distinct resolvers at most one takes a request, unless it is for a contested name. -/
theorem Distinct.single (distinct : Distinct rs) {good : Value → Prop}
    (admitted : q.Admitted good (Uncontested rs)) :
    rs.Pairwise fun r r' => r.takes q = false ∨ r'.takes q = false := by
  refine (List.pairwise_filterMap.1 distinct).imp_of_mem ?_
  intro r r' member member' apart
  by_cases takes : r.takes q = true
  · refine .inr (Bool.eq_false_iff.2 fun takes' => ?_)
    obtain ⟨k, kind, kind'⟩ := kind?_of_takes admitted member member' takes takes'
    exact apart k kind k kind' rfl
  · exact .inl (Bool.eq_false_iff.2 takes)

end Stock

/-- In any order of distinct resolvers the same one is the first to answer a request, unless it
is for a contested name. -/
theorem Stock.Distinct.findSome?_eq {rs others : List Stock} (distinct : Distinct rs)
    (same : rs.Perm others) {q : Request} {good : Value → Prop}
    (admitted : q.Admitted good (Uncontested rs)) {ask : Stock → Option β}
    (declines : ∀ r : Stock, r.takes q = false → ask r = none) :
    rs.findSome? ask = others.findSome? ask := by
  apply findSome?_perm same
  apply (distinct.single admitted).imp
  intro r r' apart
  exact apart.imp (declines r) (declines r')

namespace Assembly

variable {members others : List Assembly}

/-- Chains of the same distinct resolvers answer alike, unless for a contested name. -/
theorem agrees_of_perm (same : (leavesOf members).Perm (leavesOf others))
    (distinct : Stock.Distinct (leavesOf members)) (s : Store) {q : Request} {good : Value → Prop}
    (admitted : q.Admitted good (Stock.Uncontested (leavesOf members))) :
    (behaviour (.nested members)).Agrees (behaviour (.nested others)) s q := by
  apply agrees_of_leaves
  intro β ask declines
  exact distinct.findSome?_eq same admitted fun r outside => declines r (Stock.declines outside)

end Assembly

/-- Two resolvers do the same for a request, in answers and in effects. -/
structure Resolver.SameFor (r other : Resolver ρ) (q : Request) : Prop where
  get : r.get q = other.get q
  type : r.type q = other.type q
  readOnly : r.readOnly q = other.readOnly q
  set : r.set q = other.set q

/-- Resolvers on the store that answer alike in every store do the same in every world. -/
theorem StoreResolver.sameFor {r other : StoreResolver} {q : Request} (agrees : ∀ s, r.Agrees other s q) :
    Resolver.SameFor (r.toResolver : Resolver ρ) other.toResolver q := by
  constructor
  · funext w
    change (r.get w.store q, w) = (other.get w.store q, w)
    rw [(agrees w.store).get]
  · funext w
    change (r.type w.store q, w) = (other.type w.store q, w)
    rw [(agrees w.store).type]
  · funext w
    change (r.readOnly w.store q, w) = (other.readOnly w.store q, w)
    rw [(agrees w.store).readOnly]
  · funext value w
    have written : r.write w.store q value = other.write w.store q value := by
      rw [write, write, (agrees w.store).target]
    change ((r.write w.store q value).1, { w with store := (r.write w.store q value).2 })
      = ((other.write w.store q value).1, { w with store := (other.write w.store q value).2 })
    rw [written]

/-- In all stores and for all values, requests that go side by side in one world are the same
requests. -/
theorem Handle.Parallel.eq {literals : ∀ _ : Literal, True} {h k : Handle ρ}
    (along : h.Parallel (.same (fun _ => True) (fun _ => True) literals) k) : h = k := by
  obtain ⟨get, type, readOnly, set⟩ := h
  obtain ⟨get', type', readOnly', set'⟩ := k
  obtain ⟨gets, types, readOnlys, sets⟩ := along
  have equalGet : get = get' := funext fun w => (gets.outcome_eq (fun _ _ results => results.1) trivial).1
  have equalType : type = type' := funext fun w => (types.outcome_eq (fun _ _ results => results) trivial).1
  have equalReadOnly : readOnly = readOnly' :=
    funext fun w => (readOnlys.outcome_eq (fun _ _ results => results) trivial).1
  have equalSet : set = set' :=
    funext fun value => funext fun w =>
      ((sets value trivial).outcome_eq (fun _ _ results => results) trivial).1
  rw [equalGet, equalType, equalReadOnly, equalSet]

/-- Any function goes side by side with itself in all stores and for all values. -/
theorem Function.parallel_self {literals : ∀ _ : Literal, True} (f : Function ρ) :
    f.Parallel (.same (fun _ => True) (fun _ => True) literals) f := by
  rintro arguments _ w _ ⟨rfl, _⟩ _
  exact Pairing.matched_same trivial fun _ _ => ⟨rfl, trivial⟩

namespace Config

/-- All resolvers of a context with some that were added, in order. -/
def arrangement (config : Config) (s : Store) (added : List Stock) : List Stock :=
  config.front s ++ added ++ config.back s

/-- A configuration with local variables in another place. -/
def placing (config : Config) (placement : LocalPlacement) : Config :=
  { config with localVariables := placement }

/-- Local variables that come last are the same resolvers in another order. -/
theorem arrangement_perm (config : Config) (s : Store) (added : List Stock) :
    ((config.placing .first).arrangement s added).Perm ((config.placing .last).arrangement s added) := by
  let middle : List Stock :=
    config.classesOf s ++ config.colorsOf ++ added ++ Stock.collections config.readOnlyCollections
  have first : (config.placing .first).arrangement s added = .locals (scope s) :: middle := by
    change ([.locals (scope s)] ++ config.classesOf s ++ config.colorsOf) ++ added
      ++ (Stock.collections config.readOnlyCollections ++ []) = .locals (scope s) :: middle
    simp only [middle, List.append_assoc, List.append_nil, List.cons_append, List.nil_append]
  have last : (config.placing .last).arrangement s added = middle ++ [.locals (scope s)] := by
    change ([] ++ config.classesOf s ++ config.colorsOf) ++ added
      ++ (Stock.collections config.readOnlyCollections ++ [.locals (scope s)]) = _
    simp only [middle, List.append_assoc, List.nil_append]
  rw [first, last]
  exact (List.perm_append_singleton _ middle).symm

/-- The place of local variables makes no difference to the store. -/
theorem store_placing (config : Config) (s : Store) (placement : LocalPlacement) :
    (Context.ofConfig (config.placing placement) s : Context ρ × Store).2
      = (Context.ofConfig config s : Context ρ × Store).2 := by
  obtain ⟨before, classNamespace, colorNamespace, readOnly, corePrefix⟩ := config
  cases classNamespace <;> rfl

end Config

namespace Assembly

variable {members others : List Assembly}

/-- Chains of the same distinct resolvers can be interchanged. -/
theorem interchangeable_of_perm (same : (leavesOf members).Perm (leavesOf others))
    (distinct : Stock.Distinct (leavesOf members)) :
    Interchangeable (fun _ => True) (fun _ => True) (Stock.Uncontested (leavesOf members)) members
      others where
  literals _ := trivial
  agree _ _ admitted := agrees_of_perm same distinct _ admitted
  reads _ _ _ _ _ := trivial
  writes _ _ _ _ _ := trivial

/-- They make the same of an expression that asks for no contested name. -/
theorem handle_eq_of_perm (same : (leavesOf members).Perm (leavesOf others))
    (distinct : Stock.Distinct (leavesOf members)) (c : Compiled ρ)
    (uncontested : ∀ name, c.Asks name → Stock.Uncontested (leavesOf members) name) :
    c.handle (chain members) = c.handle (chain others) := by
  apply Handle.Parallel.eq
  apply (interchangeable_of_perm same distinct).compiled_parallel
  exact ⟨uncontested, fun _ _ _ _ _ => trivial, fun f _ => f.parallel_self⟩

/-- Let two chains hold the same stock resolvers in whatever order and nesting, at most one of
each kind and any number of implicit objects. Then every request on a base is answered alike
and has the same effect in both. And the four requests on an expression are the same in both,
in every world and with any functions, unless the expression, or one it captured, leaves a
name to the chain that a namespace or an implicit object has.

So it is with the contexts that a configuration assembles with local variables first and with
local variables last, whatever resolvers are added to both: they are assembled in the same
store, and their chains differ in order only.

Proof: among resolvers of distinct kinds at most one claims a request that nobody contests, so
the first claim is the same in any order. Chains that agree on all requests that come up make the
same of an expression. The two contexts hold the same resolvers in another order. -/
theorem order_matters_only_at_contested_names (members others : List Assembly)
    (same : (leavesOf members).Perm (leavesOf others)) (distinct : Stock.Distinct (leavesOf members)) :
    (∀ base property, Resolver.SameFor (chain members : Chain ρ).toResolver (chain others).toResolver
      (.on base property)) ∧
    (∀ c : Compiled ρ, (∀ name, c.Asks name → Stock.Uncontested (leavesOf members) name) →
      c.handle (chain members) = c.handle (chain others)) ∧
    ∀ (config : Config) (s : Store) (added : List Stock),
      let first : Context ρ × Store := Context.ofConfig (config.placing .first) s
      let last : Context ρ × Store := Context.ofConfig (config.placing .last) s
      let rs : List Stock := (config.placing .first).arrangement s added
      first.2 = last.2 ∧
      (Stock.Distinct rs → ∀ c : Compiled ρ, (∀ name, c.Asks name → Stock.Uncontested rs name) →
        c.handle (first.1.addAll added).chain = c.handle (last.1.addAll added).chain) := by
  refine ⟨?_, handle_eq_of_perm same distinct, ?_⟩
  · intro base property
    -- on a base no name is asked for, so no name can be contested
    have admitted : (Request.on base property).Admitted (fun _ => True)
        (Stock.Uncontested (leavesOf members)) := .on trivial trivial
    rw [toResolver_chain, toResolver_chain]
    exact StoreResolver.sameFor fun s => agrees_of_perm same distinct s admitted
  · intro config s added first last rs
    -- the classes and the scope are made in one order, wherever their resolvers stand
    have stores : first.2 = last.2 := by
      rw [Config.store_placing, Config.store_placing]
    refine ⟨stores, fun distinct c uncontested => ?_⟩
    have chain_first : (first.1.addAll added).chain = chain (rs.map .stock) :=
      ((Context.arranged_ofConfig (config.placing .first) s).addAll added).chain
    have chain_last : (last.1.addAll added).chain
        = chain (((config.placing .last).arrangement s added).map .stock) :=
      ((Context.arranged_ofConfig (config.placing .last) s).addAll added).chain
    rw [chain_first, chain_last]
    apply handle_eq_of_perm
    · rw [leavesOf_stock, leavesOf_stock]
      exact config.arrangement_perm s added
    · rwa [leavesOf_stock]
    · rwa [leavesOf_stock]

/-- An entry of a map that a local variable holds. -/
def entryOfLocal : Compiled Unit where
  source := "m.k"
  expr := .path (.identifier "m") [.property "k"]
  captured := []
  functions := []

/-- Local variables, colors and maps make the same of it as maps, colors and local variables,
the last two in a chain of their own. -/
theorem entryOfLocal_handle :
    (∀ name, entryOfLocal.Asks name →
      Stock.Uncontested (leavesOf [.stock (.locals ⟨0⟩), .stock .colors, .stock (.maps false)]) name) ∧
    entryOfLocal.handle (chain [.stock (.locals ⟨0⟩), .stock .colors, .stock (.maps false)])
      = entryOfLocal.handle
          (chain [.stock (.maps false), .nested [.stock .colors, .stock (.locals ⟨0⟩)]]) := by
  have same : (leavesOf [.stock (.locals ⟨0⟩), .stock .colors, .stock (.maps false)]).Perm
      (leavesOf [.stock (.maps false), .nested [.stock .colors, .stock (.locals ⟨0⟩)]]) := by
    change [Stock.locals ⟨0⟩, .colors, .maps false].Perm [.maps false, .colors, .locals ⟨0⟩]
    decide
  have distinct : Stock.Distinct
      (leavesOf [.stock (.locals ⟨0⟩), .stock .colors, .stock (.maps false)]) := by
    change [Stock.Kind.locals, .colors, .maps].Nodup
    decide
  -- the one name asked for is that of the local variable
  have uncontested : ∀ name, entryOfLocal.Asks name →
      Stock.Uncontested (leavesOf [.stock (.locals ⟨0⟩), .stock .colors, .stock (.maps false)]) name := by
    rintro name ⟨d, behind, member, _⟩
    have itself : d = entryOfLocal := behind.eq_of_nil rfl
    rw [itself] at member
    have asked : name = "m" := by
      have root : Root.identifier name = .identifier "m" := List.mem_singleton.1 member
      cases root
      rfl
    rw [asked]
    change ∀ r ∈ [Stock.locals ⟨0⟩, .colors, .maps false], r.root? ≠ some "m"
    decide
  exact ⟨uncontested,
    (order_matters_only_at_contested_names _ _ same distinct).2.1 entryOfLocal uncontested⟩

end Assembly

end PropertyPath
