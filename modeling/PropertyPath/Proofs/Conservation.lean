import PropertyPath.Proofs.Arrangement
import PropertyPath.Proofs.Holding
import PropertyPath.Proofs.Interchange

/-!
# Adding a namespace

A namespace stands before the resolvers of collections, so it is asked about every segment of
every path. It answers for its own root, for its marker and, if it is the namespace of classes,
for classes; an implicit object answers for its root alone. Where nothing of this comes up, it
leaves every request to the others, and a context does the same with it as without it.

It comes up only if it was there before. An expression that calls core functions finds plain
values, values held by others and values that resolvers offer, and it stores what it is given.
So the values that do not lead to anything of the namespace are never left, by reading or by
writing, and the store stays free of it.
-/

namespace PropertyPath

variable {ρ : Type}

/-! ## Values that lead to nothing of a namespace -/

/-- Neither a value nor anything it holds, directly or through others, is governed by a
resolver. -/
def Store.Spares (s : Store) (r : Stock) (v : Value) : Prop :=
  ∀ u, Relation.ReflTransGen s.Holds v u → ¬ r.Governs u

namespace Store

variable {s : Store} {r : Stock} {v : Value}

/-- A value that is spared by a namespace is not governed by it. -/
theorem Spares.not_governs (spares : s.Spares r v) : ¬ r.Governs v := spares v .refl

/-- What a spared value holds is spared too. -/
theorem Spares.of_holds {u : Value} (spares : s.Spares r v) (holds : s.Holds v u) : s.Spares r u :=
  fun x further => spares x (.head holds further)

/-- A value that holds nothing leads to itself alone. -/
theorem spares_of_not_holds (nothing : ∀ u, ¬ s.Holds v u) (ungoverned : ¬ r.Governs v) :
    s.Spares r v := by
  intro u further
  rw [eq_of_not_holds nothing further]
  exact ungoverned

/-- Texts, numbers, colors and null are governed by no resolver. -/
theorem spares_of_plain (plain : v.governor? = none) : s.Spares r v := by
  apply spares_of_not_holds
  · exact fun u holds => holds.governed plain
  · rintro ⟨k, governor, _⟩
    rw [plain] at governor
    cases governor

/-- An implicit object governs nothing. -/
theorem spares_of_kind_none (none : r.kind? = none) : s.Spares r v := by
  rintro u _ ⟨k, _, kind⟩
  rw [none] at kind
  cases kind

/-- A marker holds nothing. -/
theorem spares_marker {issuer : Namespace} (ungoverned : ¬ r.Governs (.marker issuer)) :
    s.Spares r (.marker issuer) := spares_of_not_holds (fun _ => not_holds_marker) ungoverned

end Store

/-- What answers for a marker has the root that hands it out. -/
theorem Stock.root?_of_governs {r r' : Stock} {issuer : Namespace} (governs : r.Governs (.marker issuer))
    (governs' : r'.Governs (.marker issuer)) : r.root? = r'.root? := by
  obtain ⟨k, governor, kind⟩ := governs
  obtain ⟨k', governor', kind'⟩ := governs'
  rw [governor] at governor'
  cases governor'
  cases issuer <;> cases governor <;> cases r <;> cases kind <;> cases r' <;> cases kind' <;> rfl

/-- The namespaces have different roots. -/
theorem Stock.governs_of_root? {r r' : Stock} {issuer : Namespace} (governs : r.Governs (.marker issuer))
    (same : r.root? = r'.root?) {k : Kind} (kind : r'.kind? = some k) : r'.Governs (.marker issuer) := by
  have distinct : Classes.root ≠ Colors.root := by decide
  obtain ⟨k', governor, kind'⟩ := governs
  -- a resolver that governs a marker is the namespace of that name
  cases issuer with
  | classes =>
    cases governor
    cases r <;> cases kind'
    cases r' with
    | classes loader => exact ⟨.classes, rfl, rfl⟩
    | colors => exact absurd (Option.some.inj same) distinct
    | implicit root value => cases kind
    | _ => cases same
  | colors =>
    cases governor
    cases r <;> cases kind'
    cases r' with
    | classes loader => exact absurd (Option.some.inj same) distinct.symm
    | colors => exact ⟨.colors, rfl, rfl⟩
    | implicit root value => cases kind
    | _ => cases same

/-- A collection of values that is not left in a store, by what they hold or by what resolvers
offer. Resolvers with the root of the namespace count only as far as they are asked. -/
structure Store.Encloses (s : Store) (namespaceRoot : Option String) (rs : List Stock)
    (good : Value → Prop) : Prop where
  held : ∀ {u v}, good u → s.Holds u v → good v
  offered : ∀ r ∈ rs, r.root? ≠ namespaceRoot → ∀ {v}, r.Offers s v → good v

/-- A write of a value of the collection leaves it enclosed. -/
theorem Store.Encloses.put {s : Store} {namespaceRoot : Option String} {rs : List Stock}
    {good : Value → Prop} (encloses : s.Encloses namespaceRoot rs good) {slot : Slot}
    (assignable : s.Assignable slot) {value : Value} (taken : good value) :
    (s.put slot value).Encloses namespaceRoot rs good where
  held member holds := by
    rcases holds.of_put assignable with rfl | before
    · exact taken
    · exact encloses.held member before
  offered r member other _ offers := by
    rcases offers.of_put with rfl | before
    · exact taken
    · exact encloses.offered r member other before

section Spared

variable {N : Stock} {root : String} (named : N.root? = some root) {before : Store} {q : Request}
  (admitted : q.Admitted (before.Spares N) (· ≠ root))

include named admitted

/-- A request by values that are spared, for another name than its root, is none of a namespace. -/
theorem Stock.not_takes_of_spared : N.takes q = false := by
  apply Bool.eq_false_iff.2
  intro takes
  cases admitted with
  | root other =>
    rcases takes_root.1 takes with locals | own
    · cases N <;> cases locals
      cases named
    · rw [named] at own
      exact other (Option.some.inj own).symm
  | on place denotes => exact place.not_governs (takes_on.1 takes)

/-- What resolvers answer to such a request is spared again. At the root it is what they offer
or the marker of another namespace, on a base it is held or offered behind such a marker. -/
theorem Store.Encloses.spares_of_get {s : Store} {rs : List Stock} {r : Stock} {v : Value}
    (encloses : s.Encloses N.root? rs (before.Spares N)) (member : r ∈ rs)
    (found : r.behaviour.get s q = some (.ok v)) : before.Spares N v := by
  cases admitted with
  | @root name other =>
    rcases Stock.get_root found with offers | ⟨own, ⟨issuer, rfl⟩, governs⟩
    -- what is offered under another name than the root
    · apply encloses.offered r member _ offers
      rw [named]
      rcases Stock.takes_root.1 (Stock.takes_of_get found) with locals | own
      · cases r <;> cases locals
        exact nofun
      · rw [own]
        exact fun same => other (Option.some.inj same)
    · apply Store.spares_marker
      intro governs'
      rw [Stock.root?_of_governs governs governs', named] at own
      exact other (Option.some.inj own).symm
  | on place denotes =>
    rcases Stock.get_on found with plain | holds | ⟨rfl, governs, offers⟩
    · exact Store.spares_of_plain plain
    · exact encloses.held place holds
    -- the marker is spared, so the newcomer is no namespace with that root
    · cases kind : N.kind? with
      | none => exact Store.spares_of_kind_none kind
      | some k =>
        apply encloses.offered r member _ offers
        intro same
        exact place.not_governs (Stock.governs_of_root? governs same kind)

end Spared

/-! ## A chain with one more resolver -/

namespace Assembly

/-- Members with a stock resolver after the first `position` of them. -/
def inserted (members : List Assembly) (position : Nat) (r : Stock) : List Assembly :=
  members.take position ++ .stock r :: members.drop position

/-- The resolvers of a chain are those of its members, one for each. -/
theorem resolvers_eq_map (members : List Assembly) :
    (resolvers members : List (Resolver ρ)) = members.map resolver := by
  induction members with
  | nil => rw [resolvers, List.map_nil]
  | cons first rest hypothesis => rw [resolvers, List.map_cons, hypothesis]

/-- A resolver is inserted in a chain where it is inserted among the members. -/
theorem chain_insert (members : List Assembly) (position : Nat) (r : Stock) :
    (chain members : Chain ρ).insert position r.resolver = chain (inserted members position r) := by
  simp only [Chain.insert, chain, inserted, resolvers_eq_map, List.map_append, List.map_cons,
    List.map_take, List.map_drop, resolver]

variable {β : Type} {members : List Assembly} {position : Nat} {N : Stock}

/-- A resolver that leaves a request to others can be left out. -/
theorem findSome?_inserted {ask : Stock → Option β} (declined : ask N = none) :
    (leavesOf (inserted members position N)).findSome? ask = (leavesOf members).findSome? ask := by
  have split : leavesOf members = leavesOf (members.take position) ++ leavesOf (members.drop position) := by
    rw [← leavesOf_append, List.take_append_drop]
  rw [inserted, leavesOf_append, leavesOf, leaves, split, List.singleton_append, List.findSome?_append,
    List.findSome?_append, List.findSome?_cons, declined]

/-- Where a resolver declines a request, the chain answers it alike with and without that resolver,
wherever it is inserted. -/
theorem agrees_inserted {s : Store} {q : Request} (declines : N.behaviour.Declines s q) :
    (behaviour (.nested members)).Agrees (behaviour (.nested (inserted members position N))) s q := by
  apply agrees_of_leaves
  intro β ask none
  exact (findSome?_inserted (none N declines)).symm

/-- The values that are spared may come up and lead only to each other, where resolvers offer
no others. So a namespace can be left out if its root is not asked for. -/
theorem interchangeable_inserted (members : List Assembly) (position : Nat) (before : Store)
    {root : String} (named : N.root? = some root) :
    Interchangeable (fun s => s.Encloses N.root? (leavesOf members) (before.Spares N)) (before.Spares N)
      (· ≠ root) members (inserted members position N) where
  literals l := Store.spares_of_plain (by cases l <;> rfl)
  agree _ q admitted := agrees_inserted (Stock.declines (Stock.not_takes_of_spared named admitted))
  reads encloses q admitted v found := by
    rw [get_eq_leaves] at found
    obtain ⟨r, member, found⟩ := List.exists_of_findSome?_eq_some found
    exact Store.Encloses.spares_of_get named admitted encloses member found
  writes encloses _ assignable _ taken := encloses.put assignable taken

end Assembly

/-! ## Core functions -/

/-- Core functions give plain values. -/
theorem CoreFunction.governor?_apply {f : CoreFunction} {s : Store} {arguments : List Value} {v : Value}
    (applied : f.apply s arguments = .ok v) : v.governor? = none := by
  cases f with
  | join =>
    simp only [apply] at applied
    cases text : joined s (arguments[0]?.getD .null) (arguments[1]?.getD .null) with
    | error x =>
      rw [text] at applied
      cases applied
    | ok joined =>
      rw [text] at applied
      cases applied
      rfl
  | _ =>
    cases applied
    rfl

/-- So a core function goes side by side with itself where plain values may come up. -/
theorem CoreFunction.parallel_self {clean : Store → Prop} {good : Value → Prop}
    {literals : ∀ l : Literal, good l.value} (plain : ∀ v, v.governor? = none → good v)
    (f : CoreFunction) :
    Function.Parallel (.same clean good literals) (f.function : Function ρ) f.function := by
  apply Function.parallel_of_body
  rintro arguments _ w _ ⟨rfl, begun⟩ _
  have ended : ((f.function : Function ρ).body arguments).outcome w = (f.apply w.store arguments, w) := rfl
  rw [ended]
  exact Pairing.matched_same begun fun v applied => ⟨rfl, plain v (governor?_apply applied)⟩

/-! ## Contexts -/

/-- The ways in which a context comes to have one more stock resolver: it is added, or the
configuration enables it. -/
inductive Context.Gains : Context ρ → Context ρ → Stock → Prop
  | added (c : Context ρ) (r : Stock) : Gains c (c.addResolver r.resolver) r
  | classes (config : Config) (s : Store) (added : List Stock) :
    Gains ((ofConfig { config with classNamespace := false } s).1.addAll added)
      ((ofConfig { config with classNamespace := true } s).1.addAll added)
      (.classes (.registry (Config.registry s)))
  | colors (config : Config) (s : Store) (added : List Stock) :
    Gains ((ofConfig { config with colorNamespace := false } s).1.addAll added)
      ((ofConfig { config with colorNamespace := true } s).1.addAll added) .colors

/-- A chain with one more resolver somewhere is the chain with the resolver inserted. -/
theorem Assembly.exists_insert {chain extended : Chain ρ} {rs more before after : List Stock} {r : Stock}
    (without : chain = Assembly.chain (rs.map .stock))
    (within : extended = Assembly.chain (more.map .stock)) (laid : rs = before ++ after)
    (gained : more = before ++ r :: after) :
    ∃ position, extended = chain.insert position r.resolver := by
  refine ⟨(before.map (Stock.resolver : Stock → Resolver ρ)).length, ?_⟩
  rw [without, within, laid, gained, chain_stock, chain_stock, List.map_append, List.map_append,
    List.map_cons, Chain.insert_length]

/-- In each of these ways the resolver is inserted in the chain. -/
theorem Context.Gains.insert {c extended : Context ρ} {r : Stock} (gains : c.Gains extended r) :
    ∃ position, extended.chain = c.chain.insert position r.resolver := by
  cases gains with
  | added => exact ⟨c.customSlot, rfl⟩
  -- with and without it the chain has the same resolvers before and behind the namespace
  | classes config s added =>
    have without := ((arranged_ofConfig (ρ := ρ) { config with classNamespace := false } s).addAll added).chain
    have within := ((arranged_ofConfig (ρ := ρ) { config with classNamespace := true } s).addAll added).chain
    apply @Assembly.exists_insert _ _ _ _ _ (config.localsAt s .first) (config.colorsOf ++ added ++ config.back s)
      _ without within
    · change (config.localsAt s .first ++ [] ++ config.colorsOf) ++ added ++ config.back s = _
      simp only [List.append_nil, List.append_assoc]
    · change (config.localsAt s .first ++ [.classes (.registry (Config.registry s))] ++ config.colorsOf)
        ++ added ++ config.back s = _
      simp only [List.append_assoc, List.cons_append, List.nil_append]
  | colors config s added =>
    have without := ((arranged_ofConfig (ρ := ρ) { config with colorNamespace := false } s).addAll added).chain
    have within := ((arranged_ofConfig (ρ := ρ) { config with colorNamespace := true } s).addAll added).chain
    apply @Assembly.exists_insert _ _ _ _ _ (config.localsAt s .first ++ config.classesOf s)
      (added ++ config.back s) _ without within
    · change (config.localsAt s .first ++ config.classesOf s ++ []) ++ added ++ config.back s = _
      simp only [List.append_nil, List.append_assoc]
    · change (config.localsAt s .first ++ config.classesOf s ++ [.colors]) ++ added ++ config.back s = _
      simp only [List.append_assoc, List.cons_append, List.nil_append]

/-- Nothing governed by a resolver can come up when requests are made on an expression, with a
value to write: nothing that other resolvers offer, no fixed value behind the expression and
not the value to write leads to such a thing. -/
structure Store.FreeOf (s : Store) (r : Stock) (rs : List Stock) (c : Compiled ρ) (v : Value) : Prop where
  offered : ∀ other ∈ rs, other.root? ≠ r.root? → ∀ u, other.Offers s u → s.Spares r u
  captured : ∀ d : Compiled ρ, d.Behind c → ∀ name u, (name, Binding.literal u) ∈ d.captured →
    s.Spares r u
  written : s.Spares r v

/-- What was enclosed before a request and is after it stays free. -/
theorem Store.FreeOf.of_encloses {before after : Store} {r : Stock} {rs : List Stock} {c : Compiled ρ}
    {v : Value} (free : before.FreeOf r rs c v) (encloses : after.Encloses r.root? rs (before.Spares r)) :
    after.FreeOf r rs c v := by
  have spares : ∀ u, before.Spares r u → after.Spares r u := by
    intro u spared x further
    have still : before.Spares r x := by
      induction further with
      | refl => exact spared
      | tail _ holds hypothesis => exact encloses.held hypothesis holds
    exact still.not_governs
  constructor
  · exact fun other member apart u offers => spares u (encloses.offered other member apart offers)
  · exact fun d behind name u member => spares u (free.captured d behind name u member)
  · exact spares v free.written

/-- A context of stock resolvers gains a namespace or an implicit object. Let an expression call
core functions only, and let neither it nor an expression it captured leave the root of the
newcomer to the chain. If nothing that can come up leads to a value the newcomer governs, the
four requests end with it as they do without it, in the same results and worlds, and the store
is again free of such values.

Proof: the chains with and without the newcomer are run side by side. They can be interchanged
for requests that are not on its root and not on a value it governs. Freedom is the invariant
that keeps every value that comes up among those it spares. -/
theorem Context.namespace_is_conservative {context extended : Context ρ} {N : Stock}
    (gains : context.Gains extended N) {root : String} (named : N.root? = some root)
    {members : List Assembly} (stock : context.chain = Assembly.chain members) (c : Compiled ρ)
    (core : ∀ f ∈ c.reachableFunctions, ∃ k : CoreFunction, f = k.function) (unasked : ¬ c.Asks root)
    (v : Value) (w : World ρ) (free : w.store.FreeOf N (Assembly.leavesOf members) c v) :
    let h := c.handle context.chain
    let h' := c.handle extended.chain
    let stays (s : Store) := s.FreeOf N (Assembly.leavesOf members) c v
    (h.get.outcome w = h'.get.outcome w ∧ stays (h.get.outcome w).2.store) ∧
    (h.type.outcome w = h'.type.outcome w ∧ stays (h.type.outcome w).2.store) ∧
    (h.readOnly.outcome w = h'.readOnly.outcome w ∧ stays (h.readOnly.outcome w).2.store) ∧
    ((h.set v).outcome w = (h'.set v).outcome w ∧ stays ((h.set v).outcome w).2.store) := by
  intro h h' stays
  obtain ⟨position, inserted⟩ := gains.insert
  have same := Assembly.interchangeable_inserted members position w.store named
  -- what may come up is what the newcomer spares: it leads to no other values, and resolvers offer
  -- no others
  have encloses : w.store.Encloses N.root? (Assembly.leavesOf members) (w.store.Spares N) :=
    ⟨fun spares holds => spares.of_holds holds, fun r member apart _ => free.offered r member apart _⟩
  -- so the chain with it and the chain without it go side by side, for as long as its root is not
  -- asked for
  have along : Handle.Parallel (.same (fun s => s.Encloses N.root? (Assembly.leavesOf members)
      (w.store.Spares N)) (w.store.Spares N) same.literals) h h' := by
    have chain : extended.chain = Assembly.chain (Assembly.inserted members position N) := by
      rw [inserted, stock, Assembly.chain_insert]
    simp only [h, h', chain, stock]
    apply same.compiled_parallel
    constructor
    · rintro name asks rfl
      exact unasked asks
    · exact free.captured
    · intro f member
      obtain ⟨k, rfl⟩ := core f member
      exact k.parallel_self fun _ => Store.spares_of_plain
  obtain ⟨gets, getKeeps⟩ := along.get.outcome_eq (fun _ _ results => results.1) encloses
  obtain ⟨types, typeKeeps⟩ := along.type.outcome_eq (fun _ _ results => results) encloses
  obtain ⟨readOnlys, readOnlyKeeps⟩ := along.readOnly.outcome_eq (fun _ _ results => results) encloses
  obtain ⟨sets, setKeeps⟩ := (along.set v free.written).outcome_eq (fun _ _ results => results) encloses
  exact ⟨⟨gets, free.of_encloses getKeeps⟩, ⟨types, free.of_encloses typeKeeps⟩,
    ⟨readOnlys, free.of_encloses readOnlyKeeps⟩, ⟨sets, free.of_encloses setKeeps⟩⟩

/-- A store with a map in a local variable. -/
def mapInLocal : Store :=
  (({} : Store).put (.entry ⟨0⟩ "k") (.string "x")).put (.localVariable ⟨0⟩ "m") (.map ⟨0⟩)

/-- What leads from the map leads to itself or to its entry. -/
theorem mapInLocal_holds {owner v : Value} (holds : mapInLocal.Holds owner v) :
    v = .map ⟨0⟩ ∨ v = .string "x" := by
  have inMap : Store.Assignable {} (.entry ⟨0⟩ "k") := trivial
  have inScope : Store.Assignable (Store.put {} (.entry ⟨0⟩ "k") (.string "x"))
      (.localVariable ⟨0⟩ "m") := trivial
  rcases holds.of_put inScope with here | before
  · exact .inl here
  · rcases before.of_put inMap with here | nothing
    · exact .inr here
    · cases nothing with
      | @inSlot slot owned there shown =>
        cases slot with
        | item kind ref position => cases kind <;> cases there
        | _ => cases there

/-- An entry of a map in a local variable. -/
def entryInLocal : Compiled Unit where
  source := "m.k"
  expr := .path (.identifier "m") [.property "k"]
  captured := []
  functions := []

/-- Nothing else is offered by local variables and collections. -/
theorem mapInLocal_offers {r : Stock} (member : r ∈ Stock.locals ⟨0⟩ :: Stock.collections false) {u : Value}
    (offers : r.Offers mapInLocal u) : u = .map ⟨0⟩ ∨ u = .string "x" := by
  rcases offers.of_put with here | before
  · exact .inl here
  · rcases before.of_put with here | nothing
    · exact .inr here
    · cases nothing with
      | ofLocals there => cases there
      | ofImplicit => simp [Stock.collections] at member
      | ofClasses => simp [Stock.collections] at member

/-- No color comes up when the entry is asked for or a number is written to it. -/
theorem mapInLocal_free :
    mapInLocal.FreeOf .colors (.locals ⟨0⟩ :: Stock.collections false) entryInLocal (.integer 1) := by
  have plain : ∀ v, v = .map ⟨0⟩ ∨ v = .string "x" → ¬ Stock.colors.Governs v := by
    rintro v (rfl | rfl) ⟨k, governor, kind⟩ <;> cases governor
    cases kind
  have spares : ∀ v, v = .map ⟨0⟩ ∨ v = .string "x" → mapInLocal.Spares .colors v := by
    intro v among u further
    apply plain
    induction further with
    | refl => exact among
    | tail _ holds _ => exact mapInLocal_holds holds
  constructor
  · exact fun r member _ u offers => spares u (mapInLocal_offers member offers)
  · rintro d behind name u member
    rw [behind.eq_of_nil rfl] at member
    cases member
  · exact Store.spares_of_plain rfl

/-- The requests on it are as they were when colors are added. -/
theorem entryInLocal_with_colors :
    let context : Context Unit := Context.bare .first false ⟨0⟩
    let rs : List Stock := .locals ⟨0⟩ :: Stock.collections false
    mapInLocal.FreeOf .colors rs entryInLocal (.integer 1) ∧
    (entryInLocal.handle context.chain).get.outcome ⟨mapInLocal, ()⟩
      = (entryInLocal.handle (context.addResolver Stock.colors.resolver).chain).get.outcome
          ⟨mapInLocal, ()⟩ := by
  intro context rs
  have stock : context.chain = Assembly.chain (rs.map .stock) := by
    rw [Assembly.chain_stock]
    rfl
  have unasked : ¬ entryInLocal.Asks Colors.root := by
    rintro ⟨d, behind, member, _⟩
    rw [behind.eq_of_nil rfl] at member
    have same : Root.identifier Colors.root = .identifier "m" := List.mem_singleton.1 member
    have apart : Colors.root ≠ "m" := by decide
    exact apart (Root.identifier.inj same)
  have law := Context.namespace_is_conservative (.added context .colors) rfl stock entryInLocal nofun unasked
    (.integer 1) ⟨mapInLocal, ()⟩ (by rw [Assembly.leavesOf_stock]; exact mapInLocal_free)
  exact ⟨mapInLocal_free, law.1.1⟩

end PropertyPath
