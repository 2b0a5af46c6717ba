import PropertyPath.Proofs.Arrangement

/-!
# Precedence in a context

What a resolver takes from others is a matter of its place in the chain, and the place comes
about by insertions: a context starts with collections and local variables, and namespaces and
the resolvers of the host are inserted one after the other at an index that is kept beside the
chain. The index is right as long as it counts the resolvers before the collections. Each
insertion puts one more there and moves the index by one, so it stays right whatever is added,
and no insertion is cut short at the end of the chain.
-/

namespace PropertyPath

variable {ρ : Type}

namespace Config

/-- The namespaces of a context, in the order in which they are inserted. -/
def namespaces (config : Config) (s : Store) : List Stock := config.classesOf s ++ config.colorsOf

end Config

namespace Context

/-- A context as it is before any insertion: collections, and local variables on one side of
them. -/
def start (config : Config) (s : Store) : Context ρ :=
  bare config.localVariables config.readOnlyCollections (Config.scope s)

/-- Before the namespaces are added, the place for resolvers stands behind local variables that come
first, and before all others. -/
theorem laid_start (config : Config) (s : Store) :
    (start config s : Context ρ).Laid ((config.localsAt s .first).map Stock.resolver)
      ((config.back s).map Stock.resolver) :=
  arranged_iff_laid.1 (arranged_bare config s)

/-- Namespaces are inserted like the resolvers of the host, before all of them. -/
theorem laid_extend_start (config : Config) (s : Store) (rs : List (Resolver ρ)) :
    ((start config s).extend rs).Laid ((config.localsAt s .first).map Stock.resolver ++ rs)
      ((config.back s).map Stock.resolver) :=
  (laid_start config s).extend rs

/-- The namespaces are added like any other resolvers, so they stand before those that are added to
the finished context. -/
theorem laid_ofConfig (config : Config) (s : Store) (added : List (Resolver ρ)) :
    ((ofConfig config s : Context ρ × Store).1.extend added).Laid
      ((config.localsAt s .first).map Stock.resolver
        ++ ((config.namespaces s).map Stock.resolver ++ added))
      ((config.back s).map Stock.resolver) := by
  have assembled := arranged_iff_laid.1 (arranged_ofConfig (ρ := ρ) config s)
  have front : config.front s = config.localsAt s .first ++ config.namespaces s := by
    rw [Config.front, Config.namespaces, List.append_assoc]
  rw [front, List.map_append] at assembled
  rw [← List.append_assoc]
  exact assembled.extend added

variable {c : Context ρ} {before after : List (Resolver ρ)}

/-- The place where resolvers are added lies within the chain. -/
theorem Laid.customSlot_le (laid : c.Laid before after) :
    c.customSlot ≤ c.chain.resolvers.length := by
  rw [laid.customSlot, laid.resolvers, List.length_append]
  omega

/-- A resolver that is added stands at the place that was kept for it. -/
theorem Laid.getElem?_addResolver (laid : c.Laid before after) (r : Resolver ρ) :
    (c.addResolver r).chain.resolvers[c.customSlot]? = some r := by
  rw [(laid.addResolver r).resolvers, laid.customSlot, List.append_assoc,
    List.getElem?_append_right (Nat.le_refl _), Nat.sub_self]
  rfl

/-- Two contexts laid out alike have the same chain and keep the same place in it. -/
theorem Laid.same {other : Context ρ} (laid : c.Laid before after) (alike : other.Laid before after) :
    c.chain.resolvers = other.chain.resolvers ∧ c.customSlot = other.customSlot :=
  ⟨laid.resolvers.trans alike.resolvers.symm, laid.customSlot.trans alike.customSlot.symm⟩

/-- Take any configuration and any resolvers that are added to the context it assembles, one
after the other. The chain is, in this order: local variables if they come first, the namespace
of classes and the namespace of colors if they are there, the added resolvers in the order in
which they were added, maps, lists, arrays and records with the configured read-only flag, and
local variables if they come last. The index at which a resolver would be inserted next is the
number of resolvers before maps.

The chain comes about by insertions into the chain of the start, namespaces first, and none of
them is cut short: whatever was inserted earlier, the index lies within the chain as it is then,
and the next resolver stands at that index afterwards.

Proof: the chain of a context is a front, the place of insertion and a back. An insertion adds
one resolver to the front and moves the place by one, so by induction it stays behind all that
was added, and within the chain. -/
theorem resolvers_keep_precedence (config : Config) (s : Store) (added : List (Resolver ρ)) :
    let context : Context ρ := (ofConfig config s : Context ρ × Store).1.extend added
    let inserted : List (Resolver ρ) := (config.namespaces s).map Stock.resolver ++ added
    let before : List (Resolver ρ) := (config.localsAt s .first).map Stock.resolver
      ++ (config.classesOf s).map Stock.resolver ++ config.colorsOf.map Stock.resolver ++ added
    let readOnly := config.readOnlyCollections
    context.chain.resolvers = before
      ++ [(Stock.maps readOnly).resolver, (Stock.sequences .list readOnly).resolver,
        (Stock.sequences .array readOnly).resolver, (Stock.records readOnly).resolver]
      ++ (config.localsAt s .last).map Stock.resolver ∧
    context.customSlot = before.length ∧
    (context.chain.resolvers = ((start config s).extend inserted).chain.resolvers ∧
      context.customSlot = ((start config s).extend inserted).customSlot) ∧
    ∀ (earlier : List (Resolver ρ)) (r : Resolver ρ),
      let reached : Context ρ := (start config s).extend earlier
      reached.customSlot ≤ reached.chain.resolvers.length ∧
        (reached.addResolver r).chain.resolvers[reached.customSlot]? = some r := by
  intro context inserted before readOnly
  -- namespaces and added resolvers are insertions at one moving place, so they stand between the
  -- rest in their order
  have laid : context.Laid ((config.localsAt s .first).map Stock.resolver ++ inserted)
      ((config.back s).map Stock.resolver) := laid_ofConfig config s added
  have front : (config.localsAt s .first).map Stock.resolver ++ inserted = before := by
    simp only [inserted, before, Config.namespaces, List.map_append, List.append_assoc]
  have collections : (config.back s).map (Stock.resolver : Stock → Resolver ρ)
      = (Stock.collections readOnly).map Stock.resolver
        ++ (config.localsAt s .last).map Stock.resolver := by
    rw [Config.back, List.map_append]
  refine ⟨?_, ?_, laid.same (laid_extend_start config s inserted), ?_⟩
  · rw [laid.resolvers, front, collections, ← List.append_assoc]
    rfl
  · rw [laid.customSlot, front]
  · intro earlier r reached
    -- the same of every stage, which says that the place is within the chain
    have stage := laid_extend_start config s earlier
    exact ⟨stage.customSlot_le, stage.getElem?_addResolver r⟩

end Context

end PropertyPath
