import PropertyPath.Proofs.Assembled
import PropertyPath.Proofs.Compilation
import PropertyPath.Proofs.Exactness
import PropertyPath.Proofs.MapRequests

/-!
# Paths to the entries of a map

An expression comes to an entry of a map if the walk along it ends at a request for some key on that
map; it may be a variable, a container or a function that has the map, and the key may be the value
of any index. A call of a core function may be given a map in as many ways. Whatever the way, what
comes of reading, of writing and of the call is settled by the map and the key.

The plainest way is by two variables, one that stands for the map and one that stands for the key.
Their names make a source for the entry and for each call.
-/

namespace PropertyPath

variable {ρ : Type}

/-- A map has in one world what it has in another. -/
def World.KeepsMap (ref : Ref) (before after : World ρ) : Prop :=
  after.store.maps.get ref = before.store.maps.get ref

/-- A core function that is called with the right number of arguments gives what it makes of them. -/
theorem CoreFunction.outcome_call {f : CoreFunction} {arguments : List Value}
    (enough : arguments.length = f.arity) (w : World ρ) :
    ((f.function : Function ρ).call arguments).outcome w = (f.apply w.store arguments, w) := by
  rw [Function.call]
  simp only [CoreFunction.function, if_pos enough]
  rfl

namespace Compiled

/-- From one world an expression comes to the entry of a map under a key. To get there leaves another
world, and the map as it was. -/
structure EntryOf (chain : Chain ρ) (c : Compiled ρ) (ref : Ref) (k : Value) (w reached : World ρ) :
    Prop where
  leads : c.LeadsTo chain w (.on (.map ref) k) reached
  kept : World.KeepsMap ref w reached

/-- An expression is a call of a core function. To evaluate its arguments in one world leaves another
world, and a map as it was. -/
structure Calls (chain : Chain ρ) (c : Compiled ρ) (f : CoreFunction) (arguments : List Value) (ref : Ref)
    (w reached : World ρ) : Prop where
  called : ∃ space name given, c.expr = .path (.call space name given) [] ∧
    (c.environment chain).functionOf space name = some f.function ∧
    (Expr.values (c.environment chain) given).outcome w = (.ok arguments, reached)
  kept : World.KeepsMap ref w reached

section Outcomes

variable {members : List Assembly} (one : Assembly.OneMaps members) {c : Compiled ρ} {ref : Ref} {k : Value}
  {w reached : World ρ}

include one

/-- What is read is what the map has under the text of the key, or null. -/
theorem EntryOf.outcome_get (entry : c.EntryOf (Assembly.chain members) ref k w reached) :
    (c.handle (Assembly.chain members)).get.outcome w
      = ((Maps.key reached.store k).map fun text => ((w.store.maps.get ref).get? text).getD .null,
          reached) := by
  obtain ⟨⟨unclaimed, ended⟩, kept⟩ := entry
  rw [handle_eq_landing, (Handle.after_continues ended _).get, Landing.handle, one.outcome_get, kept]

/-- A write under a key without a text fails and changes nothing. -/
theorem EntryOf.outcome_set_of_keyless (entry : c.EntryOf (Assembly.chain members) ref k w reached)
    (keyless : k.key? = none) (v : Value) : ((c.handle (Assembly.chain members)).set v).outcome w
      = (.error (.notFound (.mapKey (reached.store.text k))), reached) := by
  obtain ⟨⟨unclaimed, ended⟩, _⟩ := entry
  rw [handle_eq_landing, (Handle.after_continues ended _).set, Landing.handle,
    one.outcome_set_of_keyless _ _ _ _ keyless]

/-- Any other write puts the value under the text of the key. -/
theorem EntryOf.outcome_set_of_keyed (entry : c.EntryOf (Assembly.chain members) ref k w reached)
    {text : String} (keyed : k.key? = some text) (v : Value) :
    ((c.handle (Assembly.chain members)).set v).outcome w
      = (.ok (), { reached with store := reached.store.put (.entry ref text) v }) := by
  obtain ⟨⟨unclaimed, ended⟩, _⟩ := entry
  rw [handle_eq_landing, (Handle.after_continues ended _).set, Landing.handle,
    one.outcome_set_of_keyed _ _ _ _ keyed]

end Outcomes

/-- A call of a function is made with the values of its arguments, from the world that they leave. -/
theorem outcome_get_of_call {chain : Chain ρ} {c : Compiled ρ} {f : Function ρ} {space name : String}
    {given : List (Expr Literal)} {arguments : List Value} {w reached : World ρ}
    (path : c.expr = .path (.call space name given) [])
    (bound : (c.environment chain).functionOf space name = some f)
    (values : (Expr.values (c.environment chain) given).outcome w = (.ok arguments, reached)) :
    (c.handle chain).get.outcome w = (f.call arguments).outcome reached := by
  rw [handle_eq, path, ← Expr.value_eq_get, Expr.value, Root.value, bound]
  simp only [Segment.walk, bind_pure]
  rw [Attempt.outcome_bind_ok values]

/-- A call with the right number of arguments ends in what the core function gives for them. -/
theorem Calls.outcome_get {chain : Chain ρ} {c : Compiled ρ} {f : CoreFunction} {arguments : List Value}
    {ref : Ref} {w reached : World ρ} (calls : c.Calls chain f arguments ref w reached)
    (enough : arguments.length = f.arity) :
    (c.handle chain).get.outcome w = (f.apply reached.store arguments, reached) := by
  obtain ⟨⟨space, name, given, path, bound, values⟩, _⟩ := calls
  rw [outcome_get_of_call path bound values, CoreFunction.outcome_call enough]

end Compiled

/-! ## Sources -/

namespace Expr

/-- A name on its own. -/
def named (name : String) : Expr Literal := .path (.identifier name) []

/-- A name with an index that is a name. -/
def entry (m k : String) : Expr Literal := .path (.identifier m) [.index (named k)]

/-- A call of a core function with names for its arguments. -/
def calling (space : String) (f : CoreFunction) (names : List String) : Expr Literal :=
  .path (.call space f.name (names.map named)) []

section Meaning

variable {env : Environment ρ} {chain : Chain ρ}

/-- A name that stands for a value reads as the value. -/
theorem value_named {name : String} {v : Value}
    (bound : env.variableOf name = some (Binding.handle chain (.literal v))) : (named name).value env = pure v := by
  rw [named, value, Root.value, Environment.name, bound, Option.getD_some, Binding.handle]
  simp only [Segment.walk, bind_pure]

/-- Names that stand for values read as the values. -/
theorem values_named {names : List String} {arguments : List Value}
    (bound : List.Forall₂ (fun name v => env.variableOf name = some (Binding.handle chain (.literal v)))
      names arguments) : values env (names.map named) = pure arguments := by
  induction bound with
  | nil => rw [List.map_nil, values]
  | cons first _ ih => rw [List.map_cons, values, value_named first, ih, pure_bind, pure_bind]

/-- Where the name stands for a map and the index for a key, the path comes to the entry. -/
theorem landing_entry {m k : String} {ref : Ref} {key : Value}
    (map : env.variableOf m = some (Binding.handle chain (.literal (.map ref))))
    (index : env.variableOf k = some (Binding.handle chain (.literal key)))
    (variableOf : String → Option (Attempt ρ (Landing ρ))) :
    (entry m k).landing env variableOf
      = pure (.request (.on (.map ref) key) fun s => .propertyOfType (s.text key) (s.typeOf (.map ref))) := by
  rw [entry, landing, Root.target, Root.value, Environment.name, map, Option.getD_some, Binding.handle,
    pure_bind, Segment.locate, if_neg (by simp [Value.isNull]), Segment.key, value_named index]
  simp only [pure_bind, Target.landing]

end Meaning

/-- The names in a call are its arguments and nothing else, and it calls one function. -/
theorem roots_calling (space : String) (f : CoreFunction) (names : List String) :
    (calling space f names).roots
      = .call space f.name (names.map named) :: names.map .identifier := by
  have each : rootsOf (names.map named) = names.map Root.identifier := by
    induction names with
    | nil => rfl
    | cons first rest ih =>
      rw [List.map_cons, rootsOf, ih]
      rfl
  rw [calling, roots, Root.innerRoots, each, Segment.rootsOf, List.append_nil]

end Expr

/-- The name of a core function is a name. -/
theorem CoreFunction.isName (f : CoreFunction) : IsName f.name.toList := by
  cases f <;> exact ⟨⟨_, _, rfl, by decide⟩, List.all_eq_true.mp (by decide), by decide⟩

/-- A name on its own is a token. -/
theorem IsName.spelled {name : String} (isName : IsName name.toList) :
    Expr.Spelled Literal.Spelled [name.toList] (.named name) :=
  .path (.identifier isName) .nil

/-- The source of a call of a core function has the parts of the call in order. -/
theorem CoreFunction.rendered_calling {space : String} (isName : IsName space.toList) (f : CoreFunction)
    {inner : List (List Char)} {names : List String}
    (arguments : Expr.ArgumentsSpelled Literal.Spelled inner (names.map .named)) :
    (Expr.calling space f names).RenderedBy
      (space.toList ++ ':' :: (f.name.toList ++ '(' :: (inner.flatten ++ [')']))) := by
  refine ⟨_, .path (.call isName f.isName arguments) .nil, ?_⟩
  simpa using Spread.flatten (space.toList :: [':'] :: f.name.toList :: ['('] :: (inner ++ [[')']]))

/-- In a context, one name stands for a map and one for a key. -/
structure Context.Names (context : Context ρ) (m k : String) (ref : Ref) (key : Value) : Prop where
  mapName : IsName m.toList
  keyName : IsName k.toList
  map : context.bindings.get? m = some (.literal (.map ref))
  key : context.bindings.get? k = some (.literal key)

namespace Compiled

variable (chain : Chain ρ) (source : String) {bindings : Bindings ρ} (functions : FunctionTable ρ)

/-- A name in an expression that is bound to a value stands for the value. -/
theorem variableOf_of_bound {expr : Expr Literal} {name : String} {v : Value}
    (bound : bindings.get? name = some (.literal v)) (used : .identifier name ∈ expr.roots) :
    ((noting source expr bindings functions).environment chain).variableOf name
      = some (Binding.handle chain (.literal v)) := by
  rw [variableOf_noting, if_pos (Expr.mem_rootNames.mpr used), bound, Option.map_some]

/-- Names that are bound to a map and a key make an expression that comes to the entry. -/
theorem entryOf_noting {m k : String} {ref : Ref} {key : Value}
    (map : bindings.get? m = some (.literal (.map ref))) (index : bindings.get? k = some (.literal key))
    (w : World ρ) : (noting source (.entry m k) bindings functions).EntryOf chain ref key w w := by
  have usesMap : .identifier m ∈ (Expr.entry m k).roots := List.mem_cons_self
  have usesKey : .identifier k ∈ (Expr.entry m k).roots := List.mem_cons_of_mem _ List.mem_cons_self
  have landed := Expr.landing_entry (variableOf_of_bound chain source functions map usesMap)
    (variableOf_of_bound chain source functions index usesKey)
  refine ⟨⟨fun s => .propertyOfType (s.text key) (s.typeOf (.map ref)), ?_⟩, rfl⟩
  rw [landing_eq]
  exact congrArg (Attempt.outcome · w) (landed _)

variable {functions}

/-- A call of a registered function may be made. -/
theorem callable_calling {space : String} {f : CoreFunction}
    (registered : functions.find? space f.name = some f.function) (names : List String) :
    Callable (.calling space f names) functions := by
  rintro ⟨space', name⟩ member
  obtain ⟨given, root⟩ := Expr.mem_calls.mp member
  rw [Expr.roots_calling] at root
  rcases List.mem_cons.mp root with same | named
  · cases same
    rw [registered]
    rfl
  · obtain ⟨_, _, absurdity⟩ := List.mem_map.mp named
    cases absurdity

/-- Names that are bound to values make a call with the values for its arguments. -/
theorem calls_noting {space : String} {f : CoreFunction} {names : List String} {arguments : List Value}
    (registered : functions.find? space f.name = some f.function)
    (bound : List.Forall₂ (fun name v => bindings.get? name = some (.literal v)) names arguments)
    (ref : Ref) (w : World ρ) :
    (noting source (.calling space f names) bindings functions).Calls chain f arguments ref w w := by
  have calls : (space, f.name) ∈ (Expr.calling space f names).calls := by
    rw [Expr.mem_calls, Expr.roots_calling]
    exact ⟨_, List.mem_cons_self⟩
  have stand : List.Forall₂ (fun name v => ((noting source (.calling space f names) bindings
      functions).environment chain).variableOf name = some (Binding.handle chain (.literal v)))
      names arguments := by
    refine List.forall₂_iff_zip.mpr ⟨bound.length_eq, fun {name v} member => ?_⟩
    refine variableOf_of_bound chain source functions ((List.forall₂_iff_zip.mp bound).2 member) ?_
    rw [Expr.roots_calling]
    exact List.mem_cons_of_mem _ (List.mem_map_of_mem (List.of_mem_zip member).1)
  refine ⟨⟨space, f.name, _, rfl, ?_, congrArg (Attempt.outcome · w) (Expr.values_named stand)⟩, rfl⟩
  rw [functionOf_noting, if_pos calls, registered]

end Compiled

namespace Context.Names

variable {context : Context ρ} {m k : String} {ref : Ref} {key : Value} (names : context.Names m k ref key)
  (chain : Chain ρ)

include names

/-- The name of the map with that of the key in brackets is a source for the entry. -/
theorem compile_entry : ∃ c, context.compile (m ++ "[" ++ k ++ "]") = .ok c ∧
    ∀ w, c.EntryOf chain ref key w w := by
  have steps : Segment.RenderedBy [.index (.named k)] (['['] ++ (k.toList ++ [']'])) :=
    ⟨_, .cons (.index names.keyName.spelled) .nil, Spread.flatten [['['], k.toList, [']']]⟩
  have shallow : (Expr.entry m k).depth ≤ Nesting.limit := (by decide : 1 ≤ 64)
  have whole : Expr.read _ = .ok (.entry m k) :=
    Expr.read_eq_ok_iff.mpr ⟨names.mapName.rendered.append steps, shallow⟩
  have read : Expr.parse (m ++ "[" ++ k ++ "]") = .ok (.entry m k) := by
    simpa [Expr.parse] using whole
  exact ⟨_, Compiled.compile_eq_ok_iff.mpr ⟨_, read, nofun, rfl⟩,
    Compiled.entryOf_noting chain _ _ names.map names.key⟩

variable {space : String} (spaceName : IsName space.toList)

include spaceName

/-- A call of `contains` with both names is a source for the question whether the map has the key. -/
theorem compile_contains
    (registered : context.functions.find? space "contains" = some CoreFunction.contains.function) :
    ∃ c, context.compile (space ++ ":contains(" ++ m ++ "," ++ k ++ ")") = .ok c ∧
      ∀ w, c.Calls chain .contains [.map ref, key] ref w w := by
  have shallow : (Expr.calling space .contains [m, k]).depth ≤ Nesting.limit := (by decide : 1 ≤ 64)
  have whole := Expr.read_eq_ok_iff.mpr ⟨CoreFunction.contains.rendered_calling spaceName
    (.some names.mapName.spelled (.cons (.comma names.keyName.spelled) .nil)), shallow⟩
  have read : Expr.parse (space ++ ":contains(" ++ m ++ "," ++ k ++ ")")
      = .ok (.calling space .contains [m, k]) := by
    simpa [Expr.parse, CoreFunction.name] using whole
  exact ⟨_, Compiled.compile_eq_ok_iff.mpr ⟨_, read, Compiled.callable_calling registered [m, k], rfl⟩,
    Compiled.calls_noting chain _ registered (.cons names.map (.cons names.key .nil)) ref⟩

/-- A call of `length` with the name of the map is a source for the number of its entries. -/
theorem compile_length
    (registered : context.functions.find? space "length" = some CoreFunction.length.function) :
    ∃ c, context.compile (space ++ ":length(" ++ m ++ ")") = .ok c ∧
      ∀ w, c.Calls chain .length [.map ref] ref w w := by
  have shallow : (Expr.calling space .length [m]).depth ≤ Nesting.limit := (by decide : 1 ≤ 64)
  have whole := Expr.read_eq_ok_iff.mpr ⟨CoreFunction.length.rendered_calling spaceName
    (.some names.mapName.spelled .nil), shallow⟩
  have read : Expr.parse (space ++ ":length(" ++ m ++ ")") = .ok (.calling space .length [m]) := by
    simpa [Expr.parse, CoreFunction.name] using whole
  exact ⟨_, Compiled.compile_eq_ok_iff.mpr ⟨_, read, Compiled.callable_calling registered [m], rfl⟩,
    Compiled.calls_noting chain _ registered (.cons names.map .nil) ref⟩

end Context.Names

end PropertyPath
