import PropertyPath.Proofs.BetweenWrites
import PropertyPath.Proofs.Compilation
import PropertyPath.Proofs.Exactness
import PropertyPath.Proofs.Interchange
import PropertyPath.Proofs.Spreading

/-!
# The namespace of classes, end to end

A path to a field of a class takes three requests: for the root name, which is answered with a
marker; for the name of the class on the marker; and for the field on the class. Each request is
seen by the chain on its own. If no other resolver has the root name to offer, the first is
answered by the namespace, and the others are nobody else's at all. From there on the namespace
decides, wherever in the chain it stands: what it does not know is a property not found, and no
other resolver is asked.
-/

namespace PropertyPath

variable {ρ : Type}

namespace Assembly

/-- A namespace over a registry is in a chain, and nobody else has the root name of classes to
offer. -/
structure NamesClasses (members : List Assembly) (s : Store) (registry : Ref) : Prop where
  present : .classes (.registry registry) ∈ leavesOf members
  alone : ∀ r ∈ leavesOf members, r.behaviour.get s (.root Classes.root) ≠ none →
    r = .classes (.registry registry)

namespace NamesClasses

variable {members : List Assembly} {s : Store} {registry : Ref} (named : NamesClasses members s registry)

include named

/-- The root name reads as the marker. -/
theorem get_root : (behaviour (.nested members)).get s (.root Classes.root)
    = some (.ok (.marker .classes)) := by
  rw [get_eq_leaves]
  refine findSome?_eq_of_alike named.present ?_
  intro r member
  by_cases declines : r.behaviour.get s (.root Classes.root) = none
  · exact .inl declines
  · rw [named.alone r member declines]
    exact .inr rfl

/-- A resolver that takes a request for a property of the marker or of a class is the namespace:
another one over classes would have the root name to offer. -/
theorem eq_of_takes {r : Stock} (member : r ∈ leavesOf members) {base property : Value}
    (governor : base.governor? = some .classes) (takes : r.takes (.on base property) = true) :
    r = .classes (.registry registry) := by
  obtain ⟨k, governor', kind⟩ := Stock.takes_on.1 takes
  rw [governor] at governor'
  cases governor'
  -- A resolver of this kind has the root name to offer, over whatever classes.
  refine named.alone r member ?_
  cases r <;> cases kind
  exact Option.some_ne_none _

/-- Properties of the marker and of classes are a matter of the namespace. -/
theorem agrees {base property : Value} (governor : base.governor? = some .classes) :
    (behaviour (.nested members)).Agrees (behaviour (.nested [.stock (.classes (.registry registry))])) s
      (.on base property) := by
  apply agrees_of_single named.present
  intro r member takes
  exact named.eq_of_takes member governor takes

end NamesClasses

end Assembly

/-- The path to a field of a class, by the name of the class and that of the field. -/
def classField (className field : String) : Expr Literal :=
  .path (.identifier Classes.root) [.index (.literal (.string className)), .property field]

section Walk

variable {env : Environment ρ} {members : List Assembly} (stock : env.chain = Assembly.chain members)
  (free : env.variableOf Classes.root = none) {w : World ρ} {registry : Ref}
  (named : Assembly.NamesClasses members w.store registry) (n f : String)

include stock free named

/-- The walk along the path comes to the field on the class of that name, or there is none. -/
theorem Environment.outcome_target_classField :
    (Root.target env (.identifier Classes.root)
        [.index (.literal (.string n)), .property f]).outcome w
      = ((Classes.load (.registry registry) w.store (.string n)).map
          fun ref => .property (.classObject ref) (.string f), w) := by
  -- the name is bound to nothing, so the chain is asked, where the namespace answers
  have root : (Root.value env (.identifier Classes.root)).outcome w = (.ok (.marker .classes), w) := by
    rw [Root.value, Environment.name, free, Option.getD_none, rootHandle_eq, stock,
      Assembly.outcome_get, named.get_root]
    rfl
  have key : (Segment.key env (.index (.literal (.string n)))).outcome w = (.ok (.string n), w) := by
    rw [Segment.key, Expr.value]
    rfl
  -- the index is looked up in the registry
  have loaded : (env.propertyHandle (.marker .classes) (.string n)).get.outcome w
      = ((Classes.load (.registry registry) w.store (.string n)).map .classObject, w) := by
    rw [propertyHandle_eq, stock, Assembly.outcome_get, (named.agrees rfl).get]
    rfl
  rw [Root.target, Attempt.outcome_bind_ok root, Segment.locate, if_neg (by decide),
    Attempt.outcome_bind_ok key]
  cases found : Classes.load (.registry registry) w.store (.string n) with
  | error x =>
    rw [found] at loaded
    rw [Attempt.outcome_bind_error loaded]
    rfl
  | ok ref =>
    rw [found] at loaded
    rw [Attempt.outcome_bind_ok loaded, Segment.locate, if_neg (by simp [Value.isNull]), Segment.key,
      pure_bind]
    rfl

end Walk

/-! ## The requests on a field -/

namespace Assembly.NamesClasses

variable {members : List Assembly} {w : World ρ} {registry : Ref}
  (named : NamesClasses members w.store registry) (ref : Ref) (property : Value)
  (unclaimed : Store → Absence)

include named

/-- Reading a static field of a class gives its value, or the fault with which it is not found. -/
theorem outcome_get : ((chain members).handle (.on (.classObject ref) property) unclaimed).get.outcome w
    = ((Classes.field w.store ref property).map fun (_, field) => field.value, w) := by
  rw [Assembly.outcome_get, (named.agrees rfl).get]
  rfl

/-- Its type is that of its value. -/
theorem outcome_type : ((chain members).handle (.on (.classObject ref) property) unclaimed).type.outcome w
    = ((Classes.field w.store ref property).map fun (_, field) => w.store.typeOf field.value, w) := by
  rw [Assembly.outcome_type, (named.agrees rfl).type]
  rfl

/-- It is read-only unless it may be assigned. -/
theorem outcome_readOnly :
    ((chain members).handle (.on (.classObject ref) property) unclaimed).readOnly.outcome w
      = ((Classes.field w.store ref property).map fun (_, field) => !field.isAssignable, w) := by
  rw [Assembly.outcome_readOnly, (named.agrees rfl).readOnly]
  rfl

/-- Assigning it puts the value in its place if the field may be assigned. A final field refuses,
and the world is left as it was. -/
theorem outcome_set (value : Value) :
    (((chain members).handle (.on (.classObject ref) property) unclaimed).set value).outcome w
      = match Classes.field w.store ref property with
        | .error x => (.error x, w)
        | .ok (name, field) =>
          if field.isAssignable then (.ok (), { w with store := w.store.put (.field ref name) value })
          else (.error (.notWritable (.finalField (w.store.classes.get ref).name (w.store.text property))),
            w) := by
  -- the slot, in the words of the lookup of the field
  have placed : (behaviour (.nested [.stock (.classes (.registry registry))])).target w.store
      (.on (.classObject ref) property) = some (do
          let (name, field) ← Classes.field w.store ref property
          if field.isAssignable then return .field ref name
          else throw (.notWritable
            (.finalField (w.store.classes.get ref).name (w.store.text property)))) := rfl
  rw [Assembly.outcome_set, (named.agrees rfl).target, placed]
  cases Classes.field w.store ref property with
  | error x => rfl
  | ok found =>
    obtain ⟨name, field⟩ := found
    cases loose : field.isAssignable with
    | false => simp only [loose, bind, Except.bind]; rfl
    | true => simp only [loose, bind, Except.bind]; rfl

/-- A field that a class does not have, or that its instances have, is not found. -/
theorem fails_of_absent {f : String} (absent : (w.store.classes.get ref).staticField? f = none) :
    ((chain members).handle (.on (.classObject ref) (.string f)) unclaimed).Fails w
      (.notFound (.field f (w.store.classes.get ref).name)) w := by
  have missing : Classes.field w.store ref (.string f)
      = .error (.notFound (.field f (w.store.classes.get ref).name)) := by
    simp only [Classes.field, Value.key?, Option.getD_some, absent]
  constructor
  · rw [named.outcome_get, missing]
    rfl
  · rw [named.outcome_type, missing]
    rfl
  · rw [named.outcome_readOnly, missing]
    rfl
  · intro value
    rw [named.outcome_set, missing]

end Assembly.NamesClasses

/-- The four requests in a world are on a static field of a class. One that is final is read only
and refuses every write without an effect; any other takes the value. -/
structure Handle.OnField (h : Handle ρ) (w : World ρ) (ref : Ref) (name : String) (field : Field) :
    Prop where
  get : h.get.outcome w = (.ok field.value, w)
  type : h.type.outcome w = (.ok (w.store.typeOf field.value), w)
  readOnly : h.readOnly.outcome w = (.ok field.isFinal, w)
  refused : field.isFinal = true → ∀ value, (h.set value).outcome w
    = (.error (.notWritable (.finalField (w.store.classes.get ref).name name)), w)
  written : field.isFinal = false → ∀ value, (h.set value).outcome w
    = (.ok (), { w with store := w.store.put (.field ref name) value })

section Path

variable {c : Compiled ρ} {n f : String} (path : c.expr = classField n f) {members : List Assembly}
  (free : (c.environment (Assembly.chain members)).variableOf Classes.root = none)
  {w : World ρ} {registry : Ref} (named : Assembly.NamesClasses members w.store registry)

include path free named

/-- The requests on the path fail if the registry has no class of the name. -/
theorem Compiled.fails_on_unknown_class (unknown : (w.store.registries.get registry).get? n = none) :
    (c.handle (Assembly.chain members)).Fails w (.notFound (.className n)) w := by
  have walk := Environment.outcome_target_classField rfl free named n f
  have missing : Classes.load (.registry registry) w.store (.string n)
      = .error (.notFound (.className n)) := by
    simp only [Classes.load, Classes.Loader.load?, Value.key?, Option.getD_some, unknown]
  rw [missing] at walk
  rw [handle_eq, path, classField, Expr.handle_path]
  exact Handle.after_fails walk _

variable {ref : Ref} (known : (w.store.registries.get registry).get? n = some ref)

include known

/-- Otherwise they are the requests on the class. -/
theorem Compiled.continues_on_class : ∃ unclaimed, (c.handle (Assembly.chain members)).Continues w
    ((Assembly.chain members).handle (.on (.classObject ref) (.string f)) unclaimed) w := by
  have walk := Environment.outcome_target_classField rfl free named n f
  have loaded : Classes.load (.registry registry) w.store (.string n) = .ok ref := by
    simp only [Classes.load, Classes.Loader.load?, Value.key?, Option.getD_some, known]
  rw [loaded] at walk
  rw [handle_eq, path, classField, Expr.handle_path]
  exact ⟨_, Handle.after_continues walk _⟩

/-- A static field of the class is what the requests are on. -/
theorem Compiled.onField {field : Field} (there : (w.store.classes.get ref).staticField? f = some field) :
    (c.handle (Assembly.chain members)).OnField w ref f field := by
  obtain ⟨unclaimed, continues⟩ := continues_on_class path free named known
  have found : Classes.field w.store ref (.string f) = .ok (f, field) :=
    Classes.field_eq_ok_iff.2 ⟨rfl, there⟩
  have static : field.isStatic = true := (Option.filter_eq_some_iff.1 there).2
  -- of a static field nothing but being final stands in the way of a write
  have loose : field.isAssignable = !field.isFinal := by rw [Field.isAssignable, static, Bool.true_and]
  constructor
  · rw [continues.get, named.outcome_get, found]
    rfl
  · rw [continues.type, named.outcome_type, found]
    rfl
  · rw [continues.readOnly, named.outcome_readOnly, found]
    simp only [Except.map, loose, Bool.not_not]
  · intro final value
    rw [continues.set, named.outcome_set, found]
    simp only [loose, final, Bool.not_true, Bool.false_eq_true, if_false, Store.text_string]
  · intro notFinal value
    rw [continues.set, named.outcome_set, found]
    simp only [loose, notFinal, Bool.not_false, if_true]

end Path

/-- A source that reads as a path to a field compiles, and if there is no variable of the root
name, that name is left to the chain. -/
theorem Context.compile_classField {context : Context ρ} {source n f : String}
    (read : Expr.parse source = .ok (classField n f))
    (unbound : context.bindings.get? Classes.root = none) (chain : Chain ρ) :
    ∃ e, context.compile source = .ok e ∧ e.expr = classField n f ∧
      (e.environment chain).variableOf Classes.root = none := by
  have compiled : context.compile source
      = .ok (.noting source (classField n f) context.bindings context.functions) :=
    Compiled.compile_eq_ok_iff.2 ⟨_, read, nofun, rfl⟩
  refine ⟨_, compiled, rfl, ?_⟩
  rw [Compiled.variableOf_noting, unbound]
  exact ite_self none

/-- In a context with a chain of stock resolvers in any order and nesting, let a namespace of
classes over a registry be the only resolver with the root name of classes to offer, and let no
variable have that name. Then a path to a field of a class behaves as follows.

If the registry has no class of the name, or the class has no static field of the name, all four
requests fail since there is nothing of the name. Otherwise they are on the static field. It reads
as its value and is read only if it is final; then every write is refused without an effect. If it
is not final it takes the value that is written. From then on it reads as that value, through the
path and through the class wherever it is held, until it is written to again.

Proof: the walk along the path asks for the root, the class and the field, and the namespace
answers each time, wherever it stands in the chain. That the field has its value is kept by every
step that passes, so it holds after any run of them. -/
theorem Context.class_fields_end_to_end (context : Context ρ) (members : List Assembly)
    (stock : context.chain = Assembly.chain members) (registry : Ref) (source n f : String)
    (read : Expr.parse source = .ok (classField n f))
    (unbound : context.bindings.get? Classes.root = none) (w : World ρ)
    (named : Assembly.NamesClasses members w.store registry) :
    ∃ e, context.compile source = .ok e ∧
      let h := e.handle context.chain
      ((w.store.registries.get registry).get? n = none → h.Fails w (.notFound (.className n)) w) ∧
      ∀ ref, (w.store.registries.get registry).get? n = some ref →
        let c := w.store.classes.get ref
        (c.staticField? f = none → h.Fails w (.notFound (.field f c.name)) w) ∧
        ∀ field, c.staticField? f = some field → h.OnField w ref f field ∧
          (field.isFinal = false → ∀ v later,
            Relation.ReflTransGen (World.Passes ref f)
              { w with store := w.store.put (.field ref f) v } later →
            World.FieldReads ref f v later ∧
            (Assembly.NamesClasses members later.store registry →
              (later.store.registries.get registry).get? n = some ref →
              h.OnField later ref f { field with value := v })) := by
  obtain ⟨e, compiled, path, free⟩ := compile_classField read unbound (Assembly.chain members)
  refine ⟨e, compiled, ?_⟩
  rw [stock]
  intro h
  refine ⟨Compiled.fails_on_unknown_class path free named, ?_⟩
  intro ref known c
  constructor
  · intro absent
    obtain ⟨unclaimed, continues⟩ := Compiled.continues_on_class path free named known
    exact continues.fails (named.fails_of_absent ref unclaimed absent)
  · intro field there
    refine ⟨Compiled.onField path free named known there, ?_⟩
    intro notFinal v later run
    -- the field has the value right after the write, and every step that passes keeps it
    have now : (later.store.classes.get ref).staticField? f = some { field with value := v } :=
      World.keepsField_of_passes run _ (Store.staticField?_put_self there v)
    refine ⟨World.fieldReads_of_staticField? now, ?_⟩
    intro still registered
    exact Compiled.onField path free still registered now

/-- A context with a namespace of classes in an inner chain, after local variables and maps. -/
def namespaceContext : Context Unit where
  chain := Assembly.chain [.stock (.locals ⟨0⟩),
    .nested [.stock (.maps false), .stock (.classes (.registry ⟨0⟩))]]
  customSlot := 0
  scope := ⟨0⟩

/-- A class with a static field, registered and held by a local variable. -/
def registeredClass : World Unit :=
  let c := ClassObject.define { name := "A" } "f" .null .variable
  ⟨((Store.newRegistry {}).2.registerClass ⟨0⟩ c).2.put (.localVariable ⟨0⟩ "held") (.classObject ⟨0⟩), ()⟩

/-- The field on the local variable. -/
def fieldOfHeld : Compiled Unit where
  source := "held.f"
  expr := .path (.identifier "held") [.property "f"]
  captured := []
  functions := []

/-- The path by the name of the class renders itself. -/
theorem parse_classField_A : Expr.parse "Class['A'].f" = .ok (classField "A" "f") := by
  have root : IsName "Class".toList :=
    ⟨⟨'C', "lass".toList, rfl, by decide⟩, List.all_eq_true.1 (by decide), by decide⟩
  have field : IsName "f".toList := isName_letter (by decide)
  have blank : Blanks [] := nofun
  have quoted : Literal.Spelled "'A'".toList (.string "A") :=
    .string (.inl rfl) (.plain (by decide) (by decide) .nil)
  have steps : Segment.RenderedBy [.index (.literal (.string "A")), .property "f"] "['A'].f".toList :=
    ⟨_, .cons (.index (.literal quoted)) (.cons (.property field) .nil),
      .token blank (.token blank (.token blank (.token blank (.token blank (.done blank)))))⟩
  exact Expr.read_eq_ok_iff.2 ⟨root.rendered.append steps, by decide⟩

/-- After a write through the name of the class, and after the host has made a list, the field
reads as the value that was written, by the name and through the local variable. -/
theorem field_written_by_name :
    ∃ e, namespaceContext.compile "Class['A'].f" = .ok e ∧
      let h := e.handle namespaceContext.chain
      let left : World Unit := ⟨registeredClass.store.put (.field ⟨0⟩ "f") (.boolean true), ()⟩
      let later : World Unit := ⟨(left.store.newSequence .list []).2, ()⟩
      (h.set (.boolean true)).outcome registeredClass = (.ok (), left) ∧
      h.get.outcome later = (.ok (.boolean true), later) ∧
      (fieldOfHeld.handle namespaceContext.chain).get.outcome later = (.ok (.boolean true), later) := by
  let members : List Assembly :=
    [.stock (.locals ⟨0⟩), .nested [.stock (.maps false), .stock (.classes (.registry ⟨0⟩))]]
  have alone : ∀ s : Store, (s.locals ⟨0⟩).get? Classes.root = none →
      Assembly.NamesClasses members s ⟨0⟩ := by
    intro s absent
    refine ⟨.tail _ (.tail _ (.head _)), ?_⟩
    intro r member claimed
    have leaves : r ∈ [Stock.locals ⟨0⟩, .maps false, .classes (.registry ⟨0⟩)] := member
    simp only [List.mem_cons, List.not_mem_nil, or_false] at leaves
    rcases leaves with rfl | rfl | rfl
    · refine absurd ?_ claimed
      change ((s.locals ⟨0⟩).get? Classes.root).map Except.ok = none
      rw [absent, Option.map_none]
    · exact absurd rfl claimed
    · rfl
  obtain ⟨e, compiled, _, registered⟩ := Context.class_fields_end_to_end namespaceContext members rfl
    ⟨0⟩ "Class['A'].f" "A" "f" parse_classField_A rfl registeredClass (alone _ rfl)
  obtain ⟨_, fields⟩ := registered ⟨0⟩ rfl
  obtain ⟨now, keeps⟩ := fields ⟨.null, .variable⟩ rfl
  refine ⟨e, compiled, ?_⟩
  intro h left later
  have grown : left.Grown later := Store.grown_newSequence left.store .list []
  have run : Relation.ReflTransGen (World.Passes ⟨0⟩ "f") left later :=
    .single (.host (grown.keepsField ⟨0⟩ "f"))
  obtain ⟨everyone, onField⟩ := keeps rfl (.boolean true) later run
  have silent : fieldOfHeld.LeavesField ⟨0⟩ "f" := nofun
  refine ⟨now.written rfl (.boolean true), (onField (alone _ rfl) rfl).get, ?_⟩
  exact everyone members (.registry ⟨0⟩) (.tail _ (.tail _ (.head _))) fieldOfHeld silent
    (.on (.classObject ⟨0⟩) (.string "f")) later ⟨_, rfl⟩ rfl rfl

end PropertyPath
