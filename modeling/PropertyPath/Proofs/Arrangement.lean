import PropertyPath.Evaluation.Context
import PropertyPath.Proofs.Leaves

/-!
# Where resolvers stand in a context

A context keeps one place in its chain where resolvers are added: behind local variables
that come first, the namespaces and whatever was added earlier, and before the collections
and local variables that come last. What stands on either side is enough to say what the
chain is after any additions, and so what a configuration assembles.
-/

namespace PropertyPath

variable {ρ : Type}

/-- A chain of stock resolvers without nesting has those resolvers. -/
theorem Assembly.resolvers_stock (rs : List Stock) :
    (resolvers (rs.map .stock) : List (Resolver ρ)) = rs.map Stock.resolver := by
  induction rs with
  | nil => rw [List.map_nil, resolvers, List.map_nil]
  | cons r rest hypothesis => rw [List.map_cons, resolvers, resolver, hypothesis, List.map_cons]

/-- Stock resolvers one after the other are a chain without nesting. -/
theorem Assembly.chain_stock (rs : List Stock) :
    (chain (rs.map .stock) : Chain ρ) = ⟨rs.map Stock.resolver⟩ := by
  rw [chain, resolvers_stock]

/-- A resolver is inserted between resolvers by the number of those before it. -/
theorem Chain.insert_length (before after : List (Resolver ρ)) (r : Resolver ρ) :
    (⟨before ++ after⟩ : Chain ρ).insert before.length r = ⟨before ++ r :: after⟩ := by
  rw [insert, List.take_left, List.drop_left]

/-- The resolvers of collections, as data. -/
def Stock.collections (readOnly : Bool) : List Stock :=
  [.maps readOnly, .sequences .list readOnly, .sequences .array readOnly, .records readOnly]

namespace Context

/-- The chain of a context has some resolvers before the place where resolvers are added, and
the others behind it. -/
structure Laid (c : Context ρ) (before after : List (Resolver ρ)) : Prop where
  resolvers : c.chain.resolvers = before ++ after
  customSlot : c.customSlot = before.length

/-- Adds resolvers, the first of them first. -/
def extend (c : Context ρ) (rs : List (Resolver ρ)) : Context ρ := rs.foldl addResolver c

/-- A resolver that is added stands behind those added earlier: it goes to the place that the
context keeps, and that place moves behind it. -/
theorem Laid.addResolver {c : Context ρ} {before after : List (Resolver ρ)}
    (laid : c.Laid before after) (r : Resolver ρ) : (c.addResolver r).Laid (before ++ [r]) after := by
  obtain ⟨resolvers, slot⟩ := laid
  have chain : c.chain = ⟨before ++ after⟩ := by rw [← resolvers]
  constructor
  · change (c.chain.insert c.customSlot r).resolvers = _
    rw [chain, slot, Chain.insert_length, List.append_assoc]
    rfl
  · change c.customSlot + 1 = _
    rw [slot, List.length_append, List.length_singleton]

/-- Resolvers added in turn stand in the order in which they were added, by induction on those still
to come. -/
theorem Laid.extend {c : Context ρ} {before after : List (Resolver ρ)} (laid : c.Laid before after)
    (rs : List (Resolver ρ)) : (c.extend rs).Laid (before ++ rs) after := by
  induction rs generalizing c before with
  | nil =>
    rw [List.append_nil]
    exact laid
  | cons r rest hypothesis =>
    have further := hypothesis (laid.addResolver r)
    rwa [List.append_assoc, List.singleton_append] at further

/-- The chain of a context is made of stock resolvers, and resolvers are added between the
first of them and the others. -/
structure Arranged (c : Context ρ) (before after : List Stock) : Prop where
  resolvers : c.chain.resolvers = before.map Stock.resolver ++ after.map Stock.resolver
  customSlot : c.customSlot = before.length

/-- Adds stock resolvers, the first of them first. -/
def addAll (c : Context ρ) (rs : List Stock) : Context ρ := rs.foldl (fun c r => c.addResolver r.resolver) c

/-- Resolvers that are added to a context leave its functions as they are. -/
theorem functions_addAll (context : Context ρ) (added : List Stock) :
    (context.addAll added).functions = context.functions := by
  rw [addAll]
  induction added generalizing context with
  | nil => rfl
  | cons r rest ih => exact ih (context.addResolver r.resolver)

variable {c : Context ρ} {before after : List Stock}

/-- The chain of an arranged context is that of its stock resolvers, so what is proved of chains
holds of it. -/
theorem Arranged.chain (arranged : c.Arranged before after) :
    c.chain = Assembly.chain ((before ++ after).map .stock) := by
  have laid : c.chain = ⟨c.chain.resolvers⟩ := rfl
  rw [Assembly.chain_stock, List.map_append, laid, arranged.resolvers]

/-- An arrangement of stock resolvers is one of resolvers. -/
theorem arranged_iff_laid :
    c.Arranged before after ↔ c.Laid (before.map Stock.resolver) (after.map Stock.resolver) := by
  constructor
  · rintro ⟨resolvers, slot⟩
    exact ⟨resolvers, slot.trans (List.length_map _).symm⟩
  · rintro ⟨resolvers, slot⟩
    exact ⟨resolvers, slot.trans (List.length_map _)⟩

/-- A stock resolver that is added stands behind those added earlier. -/
theorem Arranged.addResolver (arranged : c.Arranged before after) (r : Stock) :
    (c.addResolver r.resolver).Arranged (before ++ [r]) after := by
  rw [arranged_iff_laid, List.map_append]
  exact (arranged_iff_laid.1 arranged).addResolver r.resolver

/-- Stock resolvers are added like any others. -/
theorem addAll_eq_extend (rs : List Stock) : c.addAll rs = c.extend (rs.map Stock.resolver) := by
  rw [addAll, extend, List.foldl_map]

/-- Stock resolvers added in turn stand in the order in which they were added. -/
theorem Arranged.addAll (arranged : c.Arranged before after) (rs : List Stock) :
    (c.addAll rs).Arranged (before ++ rs) after := by
  rw [arranged_iff_laid, addAll_eq_extend, List.map_append]
  exact (arranged_iff_laid.1 arranged).extend (rs.map Stock.resolver)

end Context

namespace Config

/-- The scope of local variables that a context assembled in a store gets. -/
def scope (s : Store) : Ref := s.newScope.1

/-- The registry that a context assembled in a store gets if it has the namespace of
classes. -/
def registry (s : Store) : Ref := s.newScope.2.newCoreRegistry.1

/-- Local variables if they have this place. -/
def localsAt (config : Config) (s : Store) (placement : LocalPlacement) : List Stock :=
  if config.localVariables = placement then [.locals (scope s)] else []

/-- The namespace of classes if it is there. -/
def classesOf (config : Config) (s : Store) : List Stock :=
  if config.classNamespace then [.classes (.registry (registry s))] else []

/-- The namespace of colors if it is there. -/
def colorsOf (config : Config) : List Stock := if config.colorNamespace then [.colors] else []

/-- What stands before the resolvers added to a context. -/
def front (config : Config) (s : Store) : List Stock :=
  config.localsAt s .first ++ config.classesOf s ++ config.colorsOf

/-- What stands behind the resolvers added to a context. -/
def back (config : Config) (s : Store) : List Stock :=
  Stock.collections config.readOnlyCollections ++ config.localsAt s .last

end Config

/-- A context starts out with the scope of local variables before or behind the place for resolvers,
as its configuration says, and with those for collections behind it. -/
theorem Context.arranged_bare (config : Config) (s : Store) :
    (bare config.localVariables config.readOnlyCollections (Config.scope s) : Context ρ).Arranged
      (config.localsAt s .first) (config.back s) := by
  rw [Config.back, Config.localsAt, Config.localsAt]
  cases config.localVariables <;> constructor <;> rfl

/-- Functions have no place in the chain. -/
theorem Context.Arranged.functions {c : Context ρ} {before after : List Stock}
    (arranged : c.Arranged before after) (functions : FunctionTable ρ) :
    { c with functions }.Arranged before after :=
  ⟨arranged.resolvers, arranged.customSlot⟩

/-- A configuration assembles its namespaces and local variables around the resolvers that
are added. -/
theorem Context.arranged_ofConfig (config : Config) (s : Store) :
    (ofConfig config s : Context ρ × Store).1.Arranged (config.front s) (config.back s) := by
  have base := arranged_bare (ρ := ρ) config s
  rw [Config.front, Config.classesOf, Config.colorsOf]
  simp only [ofConfig]
  -- each namespace is added like a resolver, and functions have no place in the chain
  cases config.classNamespace with
  | false =>
    cases config.colorNamespace with
    | false =>
      simp only [Bool.false_eq_true, if_false, List.append_nil]
      split
      · exact base
      · exact base.functions _
    | true =>
      simp only [Bool.false_eq_true, if_false, if_true, List.append_nil]
      split
      · exact base.addResolver _
      · exact (base.addResolver _).functions _
  | true =>
    cases config.colorNamespace with
    | false =>
      simp only [Bool.false_eq_true, if_false, if_true, List.append_nil]
      split
      · exact base.addResolver _
      · exact (base.addResolver _).functions _
    | true =>
      simp only [if_true]
      split
      · exact (base.addResolver _).addResolver _
      · exact ((base.addResolver _).addResolver _).functions _

end PropertyPath
