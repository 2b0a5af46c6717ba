import PropertyPath.Proofs.Capture
import PropertyPath.Proofs.Assembled

/-!
# Sessions with read-only collections

A host assembles a context, adds implicit objects, compiles expressions, binds variables to values
and to expressions, defines local variables, and makes requests, in any order and any number of
times. It may make new contents at any time, but brings in no classes. If collections are
read-only, all contents stay as they were from the moment they were made, and a write that succeeds
has stored its value in a local variable.

This takes an invariant. Whatever a session has collected by then, fixed values, expressions,
local variables and objects, leads to no class but that of mathematical constants, which has no
field that can be assigned. A step keeps this and leaves contents alone; so does a run.
-/

namespace PropertyPath

variable {ρ : Type}

/-- A context in use: the context itself, the expressions that were compiled in it, and the world. -/
structure Session (ρ : Type) where
  context : Context ρ
  held : List (Compiled ρ)
  world : World ρ

namespace Session

/-- A session begins with a context that is assembled in a store. -/
def start (config : Config) (s : Store) (host : ρ) : Session ρ :=
  let (context, store) := Context.ofConfig config s
  ⟨context, [], ⟨store, host⟩⟩

/-- A session after a change to its store. -/
def withStore (x : Session ρ) (store : Store) : Session ρ := { x with world := { x.world with store } }

/-- What the host may bind a variable to: a fixed value that is harmless, or an expression that was
compiled in the session. -/
inductive Supplies (own : Option Ref) (x : Session ρ) : Binding ρ → Prop
  | literal {v : Value} (harmless : x.world.store.Harmless own v) : Supplies own x (.literal v)
  | expression {e : Compiled ρ} (member : e ∈ x.held) : Supplies own x (.expression e)

/-- One operation of a session. All values that the host supplies exist, and lead to no class but
the one that came with the context. A request that fails is a step all the same. A request on a source
takes two steps: it compiles the source, and makes the request on the expression. -/
inductive Step (own : Option Ref) : Session ρ → Session ρ → Prop
  /-- An expression is compiled, and held from then on. -/
  | compile {x : Session ρ} {source : String} {e : Compiled ρ} (done : x.context.compile source = .ok e) :
    Step own x { x with held := e :: x.held }
  | get {x : Session ρ} {e : Compiled ρ} (member : e ∈ x.held) :
    Step own x { x with world := ((e.handle x.context.chain).get.outcome x.world).2 }
  | type {x : Session ρ} {e : Compiled ρ} (member : e ∈ x.held) :
    Step own x { x with world := ((e.handle x.context.chain).type.outcome x.world).2 }
  | readOnly {x : Session ρ} {e : Compiled ρ} (member : e ∈ x.held) :
    Step own x { x with world := ((e.handle x.context.chain).readOnly.outcome x.world).2 }
  | set {x : Session ρ} {e : Compiled ρ} (member : e ∈ x.held) {value : Value}
    (harmless : x.world.store.Harmless own value) :
    Step own x { x with world := (((e.handle x.context.chain).set value).outcome x.world).2 }
  /-- A variable is bound, bound anew or taken away. -/
  | bind {x : Session ρ} (name : String) {binding : Option (Binding ρ)}
    (supplied : ∀ b, binding = some b → x.Supplies own b) :
    Step own x { x with context := x.context.bind name binding }
  /-- A local variable is defined, in place of one of the same name. -/
  | define {x : Session ρ} (name : String) {value : Value} (harmless : x.world.store.Harmless own value) :
    Step own x (x.withStore (x.world.store.put (.localVariable x.context.scope name) value))
  | remove {x : Session ρ} (name : String) :
    Step own x (x.withStore (x.world.store.setLocals x.context.scope
      ((x.world.store.locals x.context.scope).erase name)))
  /-- All local variables are replaced. -/
  | replace {x : Session ρ} {locals : Dictionary Value}
    (harmless : ∀ name v, locals.get? name = some v → x.world.store.Harmless own v) :
    Step own x (x.withStore (x.world.store.setLocals x.context.scope locals))
  /-- An implicit object is added to the resolvers. -/
  | addObject {x : Session ρ} (root : String) {value : Value}
    (harmless : x.world.store.Harmless own value) :
    Step own x { x with context := x.context.addResolver (Stock.implicit root value).resolver }
  /-- The host makes new contents, and does what it likes with what it keeps for itself. -/
  | make {x : Session ρ} {store : Store} (grown : x.world.store.Grown store) (host : ρ) :
    Step own x { x with world := ⟨store, host⟩ }

/-- What a session that began with a configuration has collected is harmless. -/
structure Sound (x : Session ρ) (config : Config) (s : Store) : Prop where
  arranged : ∃ objects, x.world.store.Objects (config.ownClass? s) objects ∧
    x.context.Arranged (config.front s ++ objects) (config.back s)
  scope : x.context.scope = Config.scope s
  functions : x.context.functions.Core
  bindings : ∀ name b, x.context.bindings.get? name = some b →
    b.Trusted (config.ownClass? s) x.world.store
  held : ∀ e ∈ x.held, e.Trusted (config.ownClass? s) x.world.store
  guarded : x.world.store.Guarded config s

namespace Sound

variable {x : Session ρ} {config : Config} {s : Store}

/-- So it is at the beginning. -/
theorem start (config : Config) (s : Store) (host : ρ) : (start config s host).Sound config s := by
  obtain ⟨chain, customSlot, assembled⟩ := Context.ofConfig_context (ρ := ρ) config s
  constructor
  · exact ⟨[], nofun, by rw [List.append_nil]; exact Context.arranged_ofConfig config s⟩
  · exact congrArg Context.scope assembled
  · have functions := congrArg Context.functions assembled
    rw [Session.start, functions]
    split
    · exact FunctionTable.core_empty
    · exact FunctionTable.core_empty.register _
  · intro name b bound
    have bindings := congrArg Context.bindings assembled
    rw [Session.start, bindings] at bound
    cases bound
  · exact nofun
  · exact Store.Guarded.ofConfig config s

/-- It stays so when contents are kept. -/
theorem of_intact (sound : x.Sound config s) {world : World ρ} (intact : x.world.store.Intact world.store)
    (guarded : world.store.Guarded config s) : Session.Sound { x with world } config s where
  arranged := by
    obtain ⟨objects, added, arranged⟩ := sound.arranged
    refine ⟨objects, ?_, arranged⟩
    intro r member
    obtain ⟨root, v, same, harmless⟩ := added r member
    exact ⟨root, v, same, harmless.of_intact intact⟩
  scope := sound.scope
  functions := sound.functions
  bindings name b bound := (sound.bindings name b bound).of_intact intact
  held e member := (sound.held e member).of_intact intact
  guarded

/-- Whatever is compiled can be trusted. -/
theorem trusted (sound : x.Sound config s) {source : String} {e : Compiled ρ}
    (done : x.context.compile source = .ok e) : e.Trusted (config.ownClass? s) x.world.store := by
  obtain ⟨expr, _, _, rfl⟩ := Compiled.compile_eq_ok_iff.1 done
  exact Compiled.trusted_noting sound.bindings sound.functions

/-- The chain has stock resolvers that offer what is harmless. With read-only collections they are
sealed. -/
theorem assembled (sound : x.Sound config s) : ∃ members, x.context.chain = Assembly.chain members ∧
    (∀ r ∈ Assembly.leavesOf members, ∀ v, r.Offers x.world.store v →
      x.world.store.Harmless (config.ownClass? s) v) ∧
    (config.readOnlyCollections = true → ∀ r ∈ Assembly.leavesOf members, r.Sealed (Config.scope s)) := by
  obtain ⟨objects, added, arranged⟩ := sound.arranged
  refine ⟨_, arranged.chain, ?_, ?_⟩
  · intro r member v offers
    rw [Assembly.leavesOf_stock] at member
    exact sound.guarded.harmless_offered added member offers
  · intro readOnly r member
    rw [Assembly.leavesOf_stock] at member
    exact Config.sealed_of_readOnly readOnly added member

/-- A write to a trusted expression stores its value in a local variable, or fails. -/
theorem storesOneLocal (sound : x.Sound config s) (readOnly : config.readOnlyCollections = true)
    {e : Compiled ρ} (trusted : e.Trusted (config.ownClass? s) x.world.store) (value : Value) :
    ((e.handle x.context.chain).set value).StoresOneLocal (Config.scope s) value x.world := by
  obtain ⟨members, chain, offered, isSealed⟩ := sound.assembled
  rw [chain]
  exact trusted.storesOneLocal (isSealed readOnly) offered (fun ref own => sound.guarded.constant own) value

/-- What a trusted expression reads as is harmless. -/
theorem harmless_get (sound : x.Sound config s) {e : Compiled ρ}
    (trusted : e.Trusted (config.ownClass? s) x.world.store) {v : Value} {left : World ρ}
    (read : (e.handle x.context.chain).get.outcome x.world = (.ok v, left)) :
    x.world.store.Harmless (config.ownClass? s) v := by
  obtain ⟨members, chain, offered, _⟩ := sound.assembled
  rw [chain] at read
  exact trusted.harmless_get offered read

/-- Requests leave the world alone, up to what a write stores. -/
theorem frames (sound : x.Sound config s) {e : Compiled ρ} (member : e ∈ x.held) :
    (e.handle x.context.chain).Frames (· = ·) := by
  obtain ⟨members, chain, _⟩ := sound.assembled
  rw [chain]
  exact Compiled.frames_handle_of_core members e (sound.held e member).core

/-- What the host may bind a variable to can be trusted. -/
theorem trusted_supplied (sound : x.Sound config s) {b : Binding ρ}
    (supplied : x.Supplies (config.ownClass? s) b) : b.Trusted (config.ownClass? s) x.world.store := by
  cases supplied with
  | literal harmless => exact .literal harmless
  | expression member => exact .expression (sound.held _ member)

/-- A variable may be bound to what the host can supply, or removed. The chain and the functions are
not concerned. -/
theorem bind (sound : x.Sound config s) (name : String) {binding : Option (Binding ρ)}
    (supplied : ∀ b, binding = some b → x.Supplies (config.ownClass? s) b) :
    Session.Sound { x with context := x.context.bind name binding } config s := by
  obtain ⟨objects, added, arranged⟩ := sound.arranged
  cases binding with
  | none =>
    refine ⟨⟨objects, added, arranged.resolvers, arranged.customSlot⟩, sound.scope, sound.functions, ?_,
      sound.held, sound.guarded⟩
    exact fun other b bound => sound.bindings other b (Dictionary.get?_of_erase bound)
  | some binding =>
    refine ⟨⟨objects, added, arranged.resolvers, arranged.customSlot⟩, sound.scope, sound.functions, ?_,
      sound.held, sound.guarded⟩
    intro other b bound
    rcases Dictionary.eq_or_get?_of_insert bound with rfl | before
    · exact sound.trusted_supplied (supplied b rfl)
    · exact sound.bindings other b before

/-- An implicit object may be added if its value is harmless. It stands behind those that were added
before, so the arrangement is kept. -/
theorem addObject (sound : x.Sound config s) (root : String) {value : Value}
    (harmless : x.world.store.Harmless (config.ownClass? s) value) :
    Session.Sound { x with context := x.context.addResolver (Stock.implicit root value).resolver }
      config s := by
  obtain ⟨objects, added, arranged⟩ := sound.arranged
  refine { sound with arranged := ⟨objects ++ [.implicit root value], ?_, ?_⟩ }
  · intro r member
    rcases List.mem_append.1 member with earlier | last
    · exact added r earlier
    · exact ⟨root, value, List.mem_singleton.1 last, harmless⟩
  · rw [← List.append_assoc]
    exact arranged.addResolver _

/-- New local variables that are harmless leave the rest as it was. -/
theorem setLocals (sound : x.Sound config s) {locals : Dictionary Value}
    (harmless : ∀ name v, locals.get? name = some v →
      x.world.store.Harmless (config.ownClass? s) v) :
    (x.withStore (x.world.store.setLocals (Config.scope s) locals)).Sound config s :=
  sound.of_intact (Store.intact_setLocals _ _ _) (sound.guarded.setLocals harmless)

/-- One local variable may be stored if its value is harmless. -/
theorem putLocal (sound : x.Sound config s) (name : String) {value : Value}
    (harmless : x.world.store.Harmless (config.ownClass? s) value) :
    (x.withStore (x.world.store.put (.localVariable (Config.scope s) name) value)).Sound config s := by
  refine sound.setLocals ?_
  intro other v there
  rcases Dictionary.eq_or_get?_of_insert there with rfl | before
  · exact harmless
  · exact sound.guarded.locals other v before

end Sound

variable {x y : Session ρ} {config : Config} {s : Store}

/-- A step leaves contents alone, and what the session has collected stays harmless. -/
theorem Step.kept (step : Step (config.ownClass? s) x y) (sound : x.Sound config s)
    (readOnly : config.readOnlyCollections = true) :
    y.Sound config s ∧ x.world.store.Intact y.world.store := by
  cases step with
  | compile done =>
    exact ⟨{ sound with held := List.forall_mem_cons.2 ⟨sound.trusted done, sound.held⟩ }, .refl _⟩
  -- requests that do not write leave the world alone, whatever is read
  | get member =>
    rw [← (sound.frames member).get x.world]
    exact ⟨sound, .refl _⟩
  | type member =>
    rw [← (sound.frames member).type x.world]
    exact ⟨sound, .refl _⟩
  | readOnly member =>
    rw [← (sound.frames member).readOnly x.world]
    exact ⟨sound, .refl _⟩
  | @set e member value harmless =>
    -- a write fails without an effect, or stores one local variable
    rcases sound.storesOneLocal readOnly (sound.held e member) value with ⟨fault, ended⟩ | ⟨name, ended, _⟩
    · rw [ended]
      exact ⟨sound, .refl _⟩
    · rw [ended]
      exact ⟨sound.putLocal name harmless, Store.intact_setLocals _ _ _⟩
  | bind name supplied => exact ⟨sound.bind name supplied, .refl _⟩
  | @define name value harmless =>
    rw [sound.scope]
    exact ⟨sound.putLocal name harmless, Store.intact_setLocals _ _ _⟩
  | remove name =>
    rw [sound.scope]
    refine ⟨sound.setLocals ?_, Store.intact_setLocals _ _ _⟩
    exact fun other v there => sound.guarded.locals other v (Dictionary.get?_of_erase there)
  | replace harmless =>
    rw [sound.scope]
    exact ⟨sound.setLocals harmless, Store.intact_setLocals _ _ _⟩
  | addObject root harmless => exact ⟨sound.addObject root harmless, .refl _⟩
  -- new contents are no change to those that are there
  | make grown host =>
    exact ⟨sound.of_intact grown.intact (sound.guarded.of_grown grown), grown.intact⟩

/-- So does a run. -/
theorem kept_of_run (run : Relation.ReflTransGen (Step (config.ownClass? s)) x y) (sound : x.Sound config s)
    (readOnly : config.readOnlyCollections = true) :
    y.Sound config s ∧ x.world.store.Intact y.world.store := by
  induction run with
  | refl => exact ⟨sound, .refl _⟩
  | tail _ step hypothesis =>
    obtain ⟨sound', intact⟩ := hypothesis
    obtain ⟨sound'', further⟩ := step.kept sound' readOnly
    exact ⟨sound'', intact.trans further⟩

/-- Read-only collections confine writes to local variables. Let a context be assembled with
read-only collections in any store, with any other settings, and let the host use it in any way,
without bringing in classes. Then all lists, arrays, maps, records and classes that are there at any
time stay as they are. A write to an expression that was compiled, or to a source, is a success only
if it has stored the value in one local variable of the context, and it changes nothing else. What
the host reads it may supply again.

Proof: soundness is an invariant of runs: the chain keeps its read-only resolvers, and all that
is held or bound is harmless. In a sound session a write finds no slot but a local variable. -/
theorem readOnly_confines_writes (config : Config) (readOnly : config.readOnlyCollections = true) (s : Store)
    (host : ρ) {x y : Session ρ}
    (earlier : Relation.ReflTransGen (Step (config.ownClass? s)) (start config s host) x)
    (later : Relation.ReflTransGen (Step (config.ownClass? s)) x y) :
    x.world.store.Intact y.world.store ∧
    (∀ e ∈ y.held, ∀ value,
      ((e.handle y.context.chain).set value).StoresOneLocal (Config.scope s) value y.world) ∧
    (∀ source value, (y.context.assign source value).StoresOneLocal (Config.scope s) value y.world) ∧
    ∀ e ∈ y.held, ∀ v left, (e.handle y.context.chain).get.outcome y.world = (.ok v, left) →
      y.world.store.Harmless (config.ownClass? s) v := by
  -- soundness holds at the start, and every step keeps it; what is said of a write is said of a
  -- sound session
  have sound : x.Sound config s := (kept_of_run earlier (.start config s host) readOnly).1
  obtain ⟨sound', intact⟩ := kept_of_run later sound readOnly
  refine ⟨intact, ?_, ?_, ?_⟩
  · exact fun e member value => sound'.storesOneLocal readOnly (sound'.held e member) value
  · intro source value
    cases compiled : y.context.compile source with
    | error fault =>
      refine .inl ⟨fault, ?_⟩
      rw [Context.assign, Context.request, compiled]
      rfl
    | ok e =>
      rw [Context.assign, Context.request_of_compile compiled]
      exact sound'.storesOneLocal readOnly (sound'.trusted compiled) value
  · exact fun e member v left read => sound'.harmless_get (sound'.held e member) read

end Session

/-- The map in `mapInLocal` leads to plain values only. -/
theorem mapInLocal_harmless : mapInLocal.Harmless none (.map ⟨0⟩) := by
  intro u further
  have among : u = .map ⟨0⟩ ∨ u = .string "x" := by
    induction further with
    | refl => exact .inl rfl
    | tail _ holds _ => exact mapInLocal_holds holds
  rcases among with rfl | rfl
  · exact ⟨Nat.one_pos, nofun⟩
  · exact ⟨trivial, nofun⟩

/-- A local variable by its name. -/
def nameOfLocal : Compiled Unit where
  source := "m"
  expr := .path (.identifier "m") []
  captured := []
  functions := []

/-- In a session with the map in a local variable, a write to that variable succeeds and leaves the
map as it is. -/
theorem nameOfLocal_written_in_session :
    let config : Config := { readOnlyCollections := true }
    let begun : Session Unit := .start config mapInLocal ()
    let x : Session Unit :=
      begun.withStore (begun.world.store.put (.localVariable begun.context.scope "m") (.map ⟨0⟩))
    let written : Session Unit := { x with
      held := [nameOfLocal], world := ⟨x.world.store.put (.localVariable ⟨1⟩ "m") .null, ()⟩ }
    Relation.ReflTransGen (Session.Step (config.ownClass? mapInLocal)) begun x ∧
    Relation.ReflTransGen (Session.Step (config.ownClass? mapInLocal)) x written ∧
    x.world.store.Intact written.world.store ∧
    let write := (nameOfLocal.handle x.context.chain).set (.boolean true)
    (write.outcome written.world).1 = .ok () ∧
      write.StoresOneLocal (Config.scope mapInLocal) (.boolean true) written.world := by
  intro config begun x written
  have kept : mapInLocal.Intact begun.world.store := ⟨.refl _, .refl _, .refl _, .refl _, .refl _⟩
  have earlier : Relation.ReflTransGen (Session.Step (config.ownClass? mapInLocal)) begun x :=
    .single (.define "m" (mapInLocal_harmless.of_intact kept))
  have m : IsName "m".toList := isName_letter (by decide)
  have compiled : x.context.compile "m" = .ok nameOfLocal :=
    Compiled.compile_eq_ok_iff.2 ⟨_, Expr.read_eq_ok_iff.2 ⟨m.rendered, by decide⟩, nofun, rfl⟩
  let holding : Session Unit := { x with held := [nameOfLocal] }
  have plain : holding.world.store.Harmless (config.ownClass? mapInLocal) .null := .of_plain rfl
  have writes : Session.Step (config.ownClass? mapInLocal) holding written :=
    @Session.Step.set _ _ holding nameOfLocal List.mem_cons_self .null plain
  have later : Relation.ReflTransGen (Session.Step (config.ownClass? mapInLocal)) x written :=
    .tail (.single (.compile compiled)) writes
  obtain ⟨intact, stores, _⟩ := Session.readOnly_confines_writes config rfl mapInLocal () earlier later
  exact ⟨earlier, later, intact, rfl, stores nameOfLocal List.mem_cons_self _⟩

end PropertyPath
