import PropertyPath.Proofs.Confinement

/-!
# What a configuration assembles

A configuration assembles a context in a store. The context has local variables of its own, no
bindings, and no functions but the core functions. With the namespace of classes it has a registry
of its own too, which holds the class of mathematical constants and nothing else. That class has
constants only, with plain values, so nothing dangerous comes with a context.
-/

namespace PropertyPath

variable {ρ : Type}

/-! ## The class of constants -/

/-- A field after a definition is the one defined or one that was there. -/
theorem ClassObject.field?_define {c : ClassObject} {name other : String} {value : Value}
    {kind : FieldKind} {found : Field} (there : (c.define name value kind).field? other = some found) :
    found = ⟨value, kind⟩ ∨ c.field? other = some found := by
  rw [field?, define] at there
  by_cases here : other = name
  · subst here
    rw [Roster.get?_define_self] at there
    exact .inl (Option.some.inj there).symm
  · rw [Roster.get?_define_of_ne _ here] at there
    exact .inr there

/-- A field after constants were defined, one after the other, is one of them or was there. -/
theorem ClassObject.field?_foldl_define {fields : List (String × Value)} {c : ClassObject} {field : String}
    {found : Field}
    (there : (fields.foldl (fun c entry => c.define entry.1 entry.2 .constant) c).field? field = some found) :
    (found.kind = .constant ∧ found.value ∈ fields.map Prod.snd) ∨ c.field? field = some found := by
  induction fields generalizing c with
  | nil => exact .inr there
  | cons first rest hypothesis =>
    rcases hypothesis there with ⟨kind, member⟩ | earlier
    · exact .inl ⟨kind, List.mem_cons_of_mem _ member⟩
    · rcases field?_define earlier with rfl | before
      · exact .inl ⟨rfl, List.mem_cons_self⟩
      · exact .inr before

/-- The fields of a class of constants are constants, with the values it was given. -/
theorem constantClass_field? {name field : String} {fields : List (String × Value)} {found : Field}
    (there : (constantClass name fields).field? field = some found) :
    found.kind = .constant ∧ found.value ∈ fields.map Prod.snd := by
  rcases ClassObject.field?_foldl_define (c := { name }) there with here | nothing
  · exact here
  · cases nothing

/-- The mathematical constants are constants, and plain values. -/
theorem mathClass_field? {field : String} {found : Field} (there : mathClass.field? field = some found) :
    found.kind = .constant ∧ found.value.governor? = none := by
  obtain ⟨kind, member⟩ := constantClass_field? there
  refine ⟨kind, ?_⟩
  simp only [List.map_cons, List.map_nil, List.mem_cons, List.not_mem_nil, or_false] at member
  rcases member with same | same | same | same | same | same | same | same <;> rw [same] <;> rfl

/-! ## Core functions in a table -/

namespace FunctionTable

/-- A function that is found after a definition is the one defined or was found before. -/
theorem find?_define {t : FunctionTable ρ} {space name space' name' : String} {f g : Function ρ}
    (found : (t.define space name f).find? space' name' = some g) :
    g = f ∨ t.find? space' name' = some g := by
  rw [find?, FunctionTable.space, define] at found
  by_cases here : space' = space
  · rw [here, Dictionary.get?_insert_self, Option.getD_some] at found
    rw [here]
    exact Dictionary.eq_or_get?_of_insert found
  · rw [Dictionary.get?_insert_of_ne _ here] at found
    exact .inr found

/-- A function that is defined without another name is found under its own. -/
theorem find?_define_self (t : FunctionTable ρ) (space : String) (f : Function ρ) :
    (t.define space "" f).find? space f.name = some f := by
  rw [find?, FunctionTable.space, define, if_pos (by decide), Dictionary.get?_insert_self,
    Option.getD_some, Dictionary.get?_insert_self]

/-- Under other names the table is as it was. -/
theorem find?_define_of_ne (t : FunctionTable ρ) (space : String) {f : Function ρ} {name : String}
    (distinct : name ≠ f.name) : (t.define space "" f).find? space name = t.find? space name := by
  rw [find?, FunctionTable.space, define, if_pos (by decide), Dictionary.get?_insert_self,
    Option.getD_some, Dictionary.get?_insert_of_ne _ distinct, find?]

/-- Every function in a table is a core function. -/
def Core (t : FunctionTable ρ) : Prop :=
  ∀ space name f, t.find? space name = some f → ∃ k : CoreFunction, f = k.function

/-- An empty table holds no functions that are not core functions. -/
theorem core_empty : ({} : FunctionTable ρ).Core := by
  intro space name f found
  cases found

/-- Registering core functions brings no others. -/
theorem Core.register {t : FunctionTable ρ} (core : t.Core) (space : String) :
    (CoreFunction.register t space).Core := by
  rw [CoreFunction.register]
  induction CoreFunction.all generalizing t with
  | nil => exact core
  | cons k rest hypothesis =>
    refine hypothesis ?_
    intro space' name f found
    rcases find?_define found with rfl | before
    · exact ⟨k, rfl⟩
    · exact core space' name f before

end FunctionTable

namespace CoreFunction

/-- Core functions are told apart by their names. -/
theorem name_injective {k other : CoreFunction} (same : k.name = other.name) : k = other := by
  revert same
  cases k <;> cases other <;> decide

/-- Once the core functions are registered, each of them is found under its name: those that are
registered after it have other names. -/
theorem find?_register (t : FunctionTable ρ) (space : String) (k : CoreFunction) :
    (register t space).find? space k.name = some k.function := by
  -- on those still to be registered: the function is among them, or it is there already
  have kept (fs : List CoreFunction) (t : FunctionTable ρ)
      (found : k ∈ fs ∨ t.find? space k.name = some k.function) :
      (fs.foldl (fun t f => t.define space "" f.function) t).find? space k.name = some k.function := by
    induction fs generalizing t with
    | nil =>
      rcases found with member | there
      · cases member
      · exact there
    | cons first rest ih =>
      refine ih _ ?_
      by_cases same : k = first
      · subst same
        exact .inr (FunctionTable.find?_define_self t space k.function)
      · rcases found with member | there
        · exact .inl ((List.mem_cons.mp member).resolve_left same)
        · rw [FunctionTable.find?_define_of_ne t space fun named => same (name_injective named)]
          exact .inr there
  exact kept all t (.inl (by cases k <;> decide))

end CoreFunction

/-! ## Assembled contexts -/

/-- The class that a context assembled in a store brings along, if it has the namespace of
classes. -/
def Config.ownClass? (config : Config) (s : Store) : Option Ref :=
  if config.classNamespace then some s.classes.next else none

namespace Context

variable (config : Config) (s : Store)

/-- Assembling a context in a store makes a scope, and a registry with its class if it has the
namespace of classes. -/
theorem ofConfig_store : (ofConfig config s : Context ρ × Store).2
    = if config.classNamespace then s.newScope.2.newCoreRegistry.2 else s.newScope.2 := by
  simp only [ofConfig]
  cases config.classNamespace <;> rfl

/-- It has no variables, and no functions but the core functions. -/
theorem ofConfig_context : ∃ chain customSlot, (ofConfig config s : Context ρ × Store).1
    = { chain, customSlot, scope := Config.scope s,
        functions :=
          if config.corePrefix.isEmpty then {} else CoreFunction.register {} config.corePrefix } := by
  simp only [ofConfig]
  cases config.localVariables <;> cases config.classNamespace <;> cases config.colorNamespace <;>
    cases config.corePrefix.isEmpty <;> exact ⟨_, _, rfl⟩

/-- Its core functions are found under the prefix of the configuration, if it has one. -/
theorem find?_ofConfig (present : config.corePrefix.isEmpty = false) (k : CoreFunction) :
    (ofConfig config s : Context ρ × Store).1.functions.find? config.corePrefix k.name
      = some k.function := by
  obtain ⟨chain, customSlot, assembled⟩ := ofConfig_context (ρ := ρ) config s
  rw [assembled]
  simp only [present, Bool.false_eq_true, if_false]
  exact CoreFunction.find?_register {} config.corePrefix k

end Context

/-- A registry holds no class but one, which is the class of mathematical constants. -/
structure Store.HoldsMath (t : Store) (registry own : Ref) : Prop where
  inUse : registry.index < t.registries.next.index
  ownInUse : own.index < t.classes.next.index
  math : t.classes.get own = mathClass
  only : ∀ name ref, (t.registries.get registry).get? name = some ref → ref = own

namespace Store.HoldsMath

variable {s t : Store} {registry own : Ref}

/-- So does a new registry with the core classes. -/
theorem newCoreRegistry (s : Store) : s.newCoreRegistry.2.HoldsMath s.newCoreRegistry.1 s.classes.next where
  inUse := Arena.index_lt_next_set _ _ _
  ownInUse := Arena.index_next_lt_next_push _ _
  math := Arena.get_push_self _ _
  only name ref found := by
    have entries : s.newCoreRegistry.2.registries.get s.newCoreRegistry.1
        = ((s.registries.push .empty).get s.registries.next).insert mathClass.name s.classes.next :=
      Arena.get_set_self _ _ _
    rw [entries, Arena.get_push_self] at found
    rcases Dictionary.eq_or_get?_of_insert found with same | nothing
    · exact same
    · cases nothing

/-- Where contents and registries are kept, the class of constants is still there. -/
theorem of_intact (math : s.HoldsMath registry own) (intact : s.Intact t)
    (registries : Arena.Grown s.registries t.registries) : t.HoldsMath registry own where
  inUse := Nat.lt_of_lt_of_le math.inUse registries.frontier
  ownInUse := Nat.lt_of_lt_of_le math.ownInUse intact.classes.frontier
  math := (intact.classes.kept own math.ownInUse).trans math.math
  only name ref found := by
    rw [registries.kept registry math.inUse] at found
    exact math.only name ref found

/-- The class has constants only. -/
theorem constant (math : s.HoldsMath registry own) : s.Constant own := by
  intro name field there
  rw [math.math] at there
  have kind := (mathClass_field? (Option.filter_eq_some_iff.1 there).1).1
  rw [Field.isAssignable, Field.isFinal, kind]
  exact Bool.and_false _

/-- It leads to plain values only. -/
theorem harmless (math : s.HoldsMath registry own) : s.Harmless (some own) (.classObject own) := by
  have plain : ∀ u, s.Holds (.classObject own) u → u.governor? = none := by
    intro u holds
    cases holds with
    | @inSlot slot owned there shown =>
      cases slot <;> cases owned
      rw [read?, math.math] at there
      obtain ⟨field, found, rfl⟩ := Option.map_eq_some_iff.1 there
      exact (mathClass_field? found).2
  intro u further
  rcases Relation.ReflTransGen.cases_head further with rfl | ⟨x, holds, beyond⟩
  · exact ⟨math.ownInUse, fun other same => congrArg some (Value.classObject.inj same)⟩
  · exact Harmless.of_plain (plain x holds) u beyond

end Store.HoldsMath

/-- What the store keeps while a context that was assembled in a store is in use: local variables
are harmless, and if there is a registry it holds the class that came with it. -/
structure Store.Guarded (t : Store) (config : Config) (start : Store) : Prop where
  scope : (Config.scope start).index < t.scopes.next.index
  locals : ∀ name v, (t.locals (Config.scope start)).get? name = some v →
    t.Harmless (config.ownClass? start) v
  math : config.classNamespace = true → t.HoldsMath (Config.registry start) start.classes.next

namespace Store.Guarded

variable {config : Config} {start t u : Store}

/-- It does so from the beginning. -/
theorem ofConfig (config : Config) (start : Store) :
    (Context.ofConfig config start : Context ρ × Store).2.Guarded config start := by
  have laid : (Context.ofConfig config start : Context ρ × Store).2.scopes = start.newScope.2.scopes := by
    rw [Context.ofConfig_store]
    cases config.classNamespace <;> rfl
  constructor
  · rw [laid]
    exact Arena.index_next_lt_next_push _ _
  · intro name v there
    have fresh : start.newScope.2.scopes.get (Config.scope start) = .empty := Arena.get_push_self _ _
    rw [Store.locals, laid, fresh] at there
    cases there
  · intro present
    rw [Context.ofConfig_store, if_pos present]
    exact .newCoreRegistry start.newScope.2

/-- It still does when contents are kept and local variables are harmless. -/
theorem of_intact (guarded : t.Guarded config start) (intact : t.Intact u)
    (scope : t.scopes.next.index ≤ u.scopes.next.index)
    (locals : ∀ name v, (u.locals (Config.scope start)).get? name = some v →
      t.Harmless (config.ownClass? start) v)
    (registries : Arena.Grown t.registries u.registries) : u.Guarded config start where
  scope := Nat.lt_of_lt_of_le guarded.scope scope
  locals name v there := (locals name v there).of_intact intact
  math present := (guarded.math present).of_intact intact registries

/-- It still does when a store has grown by new contents. The scope was there before, so its
variables are the same. -/
theorem of_grown (guarded : t.Guarded config start) (grown : t.Grown u) : u.Guarded config start := by
  refine guarded.of_intact grown.intact grown.scopes.frontier ?_ grown.registries
  intro name v there
  rw [Store.locals, grown.scopes.kept _ guarded.scope] at there
  exact guarded.locals name v there

/-- Local variables may be replaced by others that are harmless. -/
theorem setLocals (guarded : t.Guarded config start) {d : Dictionary Value}
    (harmless : ∀ name v, d.get? name = some v → t.Harmless (config.ownClass? start) v) :
    (t.setLocals (Config.scope start) d).Guarded config start := by
  refine guarded.of_intact (intact_setLocals _ _ _) (Arena.next_le_next_set _ _ _) ?_ (.refl _)
  intro name v there
  have placed : (t.setLocals (Config.scope start) d).locals (Config.scope start) = d :=
    Arena.get_set_self _ _ _
  rw [placed] at there
  exact harmless name v there

/-- The own class, if there is one, has constants only. -/
theorem constant (guarded : t.Guarded config start) {ref : Ref} (own : config.ownClass? start = some ref) :
    t.Constant ref := by
  obtain ⟨present, same⟩ := Option.ite_none_right_eq_some.1 own
  cases same
  exact (guarded.math present).constant

end Store.Guarded

/-! ## Resolvers -/

/-- The resolvers of an assembled context, with objects that were added to it. -/
theorem Config.mem_resolvers {config : Config} {s : Store} {objects : List Stock} {r : Stock}
    (member : r ∈ config.front s ++ objects ++ config.back s) :
    r = .locals (scope s) ∨ (config.classNamespace = true ∧ r = .classes (.registry (registry s))) ∨
      r = .colors ∨ r ∈ objects ∨ r ∈ Stock.collections config.readOnlyCollections := by
  simp only [front, back, localsAt, classesOf, colorsOf, List.mem_append, List.mem_ite_nil_right,
    List.mem_singleton] at member
  rcases member with (((⟨_, here⟩ | present) | ⟨_, here⟩) | here) | (here | ⟨_, here⟩)
  · exact .inl here
  · exact .inr (.inl present)
  · exact .inr (.inr (.inl here))
  · exact .inr (.inr (.inr (.inl here)))
  · exact .inr (.inr (.inr (.inr here)))
  · exact .inl here

/-- Objects that were added to a context: implicit ones, with harmless values. -/
def Store.Objects (t : Store) (own : Option Ref) (objects : List Stock) : Prop :=
  ∀ r ∈ objects, ∃ root v, r = .implicit root v ∧ t.Harmless own v

section Resolvers

variable {config : Config} {start t : Store} {objects : List Stock}

/-- With read-only collections, all resolvers are sealed. -/
theorem Config.sealed_of_readOnly (readOnly : config.readOnlyCollections = true)
    (added : t.Objects (config.ownClass? start) objects) {r : Stock}
    (member : r ∈ config.front start ++ objects ++ config.back start) : r.Sealed (scope start) := by
  rcases mem_resolvers member with rfl | ⟨_, rfl⟩ | rfl | object | collection
  · rfl
  · trivial
  · trivial
  · obtain ⟨root, v, rfl, _⟩ := added r object
    trivial
  · simp only [Stock.collections, List.mem_cons, List.not_mem_nil, or_false] at collection
    rcases collection with rfl | rfl | rfl | rfl <;> exact readOnly

/-- All that they offer is harmless. -/
theorem Store.Guarded.harmless_offered (guarded : t.Guarded config start)
    (added : t.Objects (config.ownClass? start) objects) {r : Stock}
    (member : r ∈ config.front start ++ objects ++ config.back start) {v : Value} (offers : r.Offers t v) :
    t.Harmless (config.ownClass? start) v := by
  -- by the kinds of resolvers that such a context has
  rcases Config.mem_resolvers member with rfl | ⟨present, rfl⟩ | rfl | object | collection
  · cases offers with
    | ofLocals there => exact guarded.locals _ v there
  · cases offers with
    | ofClasses registered =>
      have math := guarded.math present
      have own : config.ownClass? start = some start.classes.next := if_pos present
      cases math.only _ _ registered
      rw [own]
      exact math.harmless
  · cases offers
  · obtain ⟨root, u, rfl, harmless⟩ := added r object
    cases offers
    exact harmless
  · simp only [Stock.collections, List.mem_cons, List.not_mem_nil, or_false] at collection
    rcases collection with rfl | rfl | rfl | rfl <;> cases offers

end Resolvers

end PropertyPath
