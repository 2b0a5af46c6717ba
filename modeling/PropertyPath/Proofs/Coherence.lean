import PropertyPath.Proofs.Assembly
import PropertyPath.Proofs.Slots

/-!
# Coherence of stock resolvers

A resolver answers four kinds of request, each by code of its own. Two relations
say what the answers to one and the same request have to do with each other: the
type beside the value read, and the place of a write beside the answer about
writability. A resolver is coherent if both relations hold for every store and
every request, and if it claims the one request exactly when it claims the other.

Every stock resolver is coherent, and so is a chain of them, because the first
member to claim a request is the same for both of its answers. Maps are the one
kind of base that lets a place be announced that does not exist: they answer for
writability without looking at the key.
-/

namespace PropertyPath

variable {α β γ : Type}

/-- A request for an entry of a map by a property that denotes no key. -/
def Request.Keyless (q : Request) : Prop :=
  (Maps.map? q.base).isSome = true ∧ q.property.key? = none

/-- What the type of a request may be beside its value. A value that is absent
reads as null and has no type, or any type if it could come into being. -/
inductive TypeAnswers (s : Store) : Except Fault Value → Except Fault ValueType → Prop
  | typed (value : Value) : TypeAnswers s (.ok value) (.ok (s.typeOf value))
  | missing : TypeAnswers s (.ok .null) (.ok .any)
  | absent (cause : Absence) : TypeAnswers s (.ok .null) (.error (.notFound cause))
  | failed (x : Fault) : TypeAnswers s (.error x) (.error x)

/-- What the place of a write may be beside the answer about writability. Where it
is announced there is a slot that takes a value, unless a map is asked for an entry
without a key. -/
inductive WriteAnswers (s : Store) (q : Request) : Except Fault Bool → Except Fault Slot → Prop
  | refused (cause : Refusal) : WriteAnswers s q (.ok true) (.error (.notWritable cause))
  | failed (x y : Fault) : WriteAnswers s q (.error x) (.error y)
  | writable (slot : Slot) (assignable : s.Assignable slot) (keyed : ¬ q.Keyless) :
    WriteAnswers s q (.ok false) (.ok slot)
  | keyless (lacksKey : q.Keyless) :
    WriteAnswers s q (.ok false) (.error (.notFound (.mapKey (s.text q.property))))

/-- The answers of a resolver to each request fit together. -/
structure StoreResolver.Coherent (r : StoreResolver) : Prop where
  types : ∀ s q, Option.Rel (TypeAnswers s) (r.get s q) (r.type s q)
  writes : ∀ s q, Option.Rel (WriteAnswers s q) (r.readOnly s q) (r.target s q)

/-- The slot a coherent resolver finds for a write takes a value. -/
theorem StoreResolver.Coherent.assignable {r : StoreResolver} (coherent : r.Coherent) {s : Store}
    {q : Request} {slot : Slot} (found : r.target s q = some (.ok slot)) : s.Assignable slot := by
  have answers : Option.Rel (WriteAnswers s q) (r.readOnly s q) (r.target s q) :=
    coherent.writes s q
  rw [found] at answers
  generalize r.readOnly s q = announced at answers
  cases answers with
  | some related =>
    cases related with
    | writable _ assignable _ => exact assignable

/-- Coherent resolvers that are asked in order are coherent together. -/
theorem StoreResolver.coherent_inOrder (rs : List StoreResolver)
    (each : ∀ r ∈ rs, r.Coherent) : (inOrder rs).Coherent where
  types s q := rel_findSome? fun r member => (each r member).types s q
  writes s q := rel_findSome? fun r member => (each r member).writes s q

/-- Answers given under one condition are related if they are wherever it holds. -/
theorem rel_map {R : β → γ → Prop} {o : Option α} {f : α → β} {g : α → γ}
    (each : ∀ x, o = some x → R (f x) (g x)) : Option.Rel R (o.map f) (o.map g) := by
  cases o with
  | none => exact Option.Rel.none
  | some x => exact Option.Rel.some (each x rfl)

/-- Only a request about a map can lack a key. -/
theorem Request.not_keyless {q : Request} (other : ∀ ref, q.base ≠ some (.map ref)) :
    ¬ q.Keyless := by
  rintro ⟨isMap, _⟩
  cases based : q.base with
  | none => rw [based] at isMap; cases isMap
  | some base =>
    cases base with
    | map ref => exact other ref based
    | _ => rw [based] at isMap; cases isMap

/-- Local variables can be read if they are there and written in any case. -/
theorem Locals.coherent (scope : Ref) : (Locals.resolver scope).Coherent where
  types s q := by
    change Option.Rel _ (q.rootName?.bind _) (q.rootName?.bind _)
    cases q.rootName? with
    | none => exact Option.Rel.none
    | some name => exact rel_map fun value _ => TypeAnswers.typed value
  writes s q := by
    refine rel_map fun name named => ?_
    have atRoot : ∀ ref, q.base ≠ some (.map ref) := by
      intro ref based
      simp only [Request.rootName?] at named
      split at named
      · cases based
      · cases named
    exact WriteAnswers.writable _ trivial (Request.not_keyless atRoot)

/-- A missing entry reads as null and may be of any type. -/
theorem Maps.coherent (readOnly : Bool) : (Maps.resolver readOnly).Coherent where
  types s q := by
    refine rel_map fun ref _ => ?_
    simp only [key]
    cases q.property.key? with
    | none => exact TypeAnswers.failed _
    | some name =>
      change TypeAnswers s (.ok (((s.maps.get ref).get? name).getD .null))
        (.ok ((((s.maps.get ref).get? name).map s.typeOf).getD .any))
      cases (s.maps.get ref).get? name with
      | none => exact TypeAnswers.missing
      | some value => exact TypeAnswers.typed value
  writes s q := by
    refine rel_map fun ref isMap => ?_
    cases readOnly with
    -- a map that is read-only refuses before it looks at the key
    | true => exact WriteAnswers.refused _
    | false =>
      simp only [key, Bool.false_eq_true, if_false]
      cases denoted : q.property.key? with
      | none => exact WriteAnswers.keyless ⟨by rw [isMap]; rfl, denoted⟩
      | some name =>
        refine WriteAnswers.writable (.entry ref name) trivial ?_
        rintro ⟨_, lacksKey⟩
        rw [denoted] at lacksKey
        cases lacksKey

/-- A position within a length is below it. -/
theorem Sequences.position?_lt {index : Int64} {length n : Nat}
    (placed : position? index length = some n) : n < length := by
  simp only [position?] at placed
  split at placed
  · rename_i inside
    cases placed
    omega
  · cases placed

/-- An index inside the bounds reads as the item there, and one outside as null.
All else that is asked of an index outside is a fault. -/
theorem Sequences.coherent (kind : SequenceKind) (readOnly : Bool) :
    (Sequences.resolver kind readOnly).Coherent where
  types s q := by
    refine rel_map fun ref _ => ?_
    simp only [position, index]
    cases q.property.index? with
    | none => exact TypeAnswers.failed _
    | some i =>
      simp only [bind, Except.bind, pure, Except.pure]
      cases placed : position? i (s.items kind ref).length with
      | none => exact TypeAnswers.absent _
      | some n =>
        have inside : n < (s.items kind ref).length := position?_lt placed
        simp only [Option.bind_some, List.getElem?_eq_getElem inside, Option.getD_some,
          Option.map_some]
        exact TypeAnswers.typed _
  writes s q := by
    refine rel_map fun ref isSequence => ?_
    -- no sequence is a map, so no write to it lacks a key
    have other : ∀ map, q.base ≠ some (.map map) := by
      intro map based
      rw [based] at isSequence
      cases isSequence
    cases readOnly with
    | true =>
      cases position s q.property (s.items kind ref).length with
      | error x => exact WriteAnswers.failed _ _
      | ok n => exact WriteAnswers.refused _
    | false =>
      simp only [position, index, Bool.false_eq_true, if_false]
      cases q.property.index? with
      | none => exact WriteAnswers.failed _ _
      | some i =>
        simp only [bind, Except.bind, pure, Except.pure]
        cases placed : position? i (s.items kind ref).length with
        | none => exact WriteAnswers.failed _ _
        | some n =>
          exact WriteAnswers.writable (.item kind ref n) (position?_lt placed)
            (Request.not_keyless other)

/-- A property that is found belongs to the record under the name it is given. -/
theorem Records.get?_of_property {s : Store} {ref : Ref} {property : Value} {name : String}
    {found : Property} (known : Records.property s ref property = .ok (name, found)) :
    (s.records.get ref).properties.get? name = some found := by
  simp only [Records.property] at known
  cases denoted : property.key? with
  | none => rw [denoted] at known; cases known
  | some key =>
    rw [denoted, Option.bind_some] at known
    cases there : (s.records.get ref).properties.get? key with
    | none => rw [there] at known; cases known
    | some entry =>
      rw [there] at known
      cases known
      exact there

/-- The properties that are defined can be read, and written if they have a setter. -/
theorem Records.coherent (readOnly : Bool) : (Records.resolver readOnly).Coherent where
  types s q := by
    refine rel_map fun ref _ => ?_
    cases property s ref q.property with
    | error x => exact TypeAnswers.failed x
    | ok found => exact TypeAnswers.typed found.2.value
  writes s q := by
    refine rel_map fun ref isRecord => ?_
    have other : ∀ map, q.base ≠ some (.map map) := by
      intro map based
      rw [based] at isRecord
      cases isRecord
    cases known : property s ref q.property with
    | error x => cases readOnly <;> exact WriteAnswers.failed _ _
    | ok found =>
      obtain ⟨name, property⟩ := found
      have there : (s.records.get ref).properties.get? name = some property :=
        get?_of_property known
      cases readOnly with
      | true => exact WriteAnswers.refused _
      | false =>
        simp only [Bool.false_eq_true, if_false, Bool.false_or, bind, Except.bind, pure,
          Except.pure]
        -- the property has a slot if it has a setter, and refuses else
        cases setter : property.writable with
        | false => exact WriteAnswers.refused _
        | true =>
          have assignable : s.Assignable (.property ref name) := by
            simp [Store.Assignable, Record.isWritable, there, setter]
          exact WriteAnswers.writable _ assignable (Request.not_keyless other)

/-- An implicit object can be read and not be replaced. -/
theorem Implicit.coherent (root : String) (value : Value) :
    (Implicit.resolver root value).Coherent where
  types s q := by
    simp only [resolver]
    split
    · exact Option.Rel.some (TypeAnswers.typed value)
    · exact Option.Rel.none
  writes s q := by
    simp only [resolver]
    split
    · exact Option.Rel.some (WriteAnswers.refused _)
    · exact Option.Rel.none

/-- The palette can be read and not be changed; a name it lacks is a fault. -/
theorem Colors.coherent : Colors.resolver.Coherent where
  types s q := by
    refine rel_map fun claim _ => ?_
    cases claim with
    | root => exact TypeAnswers.typed (.marker .colors)
    | palette =>
      cases lookup q.property with
      | error x => exact TypeAnswers.failed x
      | ok color => exact TypeAnswers.typed (.color color)
  writes s q := by
    refine rel_map fun claim _ => ?_
    cases claim with
    | root => exact WriteAnswers.refused _
    | palette =>
      cases lookup q.property with
      | error x => exact WriteAnswers.failed x x
      | ok color => exact WriteAnswers.refused _

/-- A field that is found belongs to the class under the name it is given. -/
theorem Classes.field?_of_field {s : Store} {ref : Ref} {property : Value} {name : String}
    {found : Field} (known : Classes.field s ref property = .ok (name, found)) :
    (s.classes.get ref).field? name = some found := by
  simp only [Classes.field] at known
  cases there : (s.classes.get ref).staticField? (property.key?.getD "") with
  | none => rw [there] at known; cases known
  | some entry =>
    rw [there] at known
    cases known
    exact (Option.filter_eq_some_iff.1 there).1

/-- Fields of classes can be read, and written unless they are constants. The root
and the names of classes cannot be written. -/
theorem Classes.coherent (loader : Classes.Loader) : (Classes.resolver loader).Coherent where
  types s q := by
    refine rel_map fun claim _ => ?_
    cases claim with
    | root => exact TypeAnswers.typed (.marker .classes)
    | namespaceEntry =>
      change TypeAnswers s ((load loader s q.property).map .classObject) _
      cases load loader s q.property with
      | error x => exact TypeAnswers.failed x
      | ok ref => exact TypeAnswers.typed (.classObject ref)
    | fieldOf ref =>
      dsimp only
      cases field s ref q.property with
      | error x => exact TypeAnswers.failed x
      | ok found => exact TypeAnswers.typed found.2.value
  writes s q := by
    refine rel_map fun claim claimed => ?_
    cases claim with
    | root => exact WriteAnswers.refused _
    | namespaceEntry => exact WriteAnswers.refused _
    | fieldOf ref =>
      dsimp only
      cases known : field s ref q.property with
      | error x => exact WriteAnswers.failed x x
      | ok found =>
        obtain ⟨name, field⟩ := found
        have there : (s.classes.get ref).field? name = some field := field?_of_field known
        have other : ∀ map, q.base ≠ some (.map map) := by
          intro map based
          simp only [claim?, based] at claimed
          cases claimed
        simp only [Except.map, bind, Except.bind, pure, Except.pure]
        -- only a field that is no constant has a slot
        cases loose : field.isAssignable with
        | false => exact WriteAnswers.refused _
        | true =>
          exact WriteAnswers.writable (.field ref name) ⟨field, there, loose⟩
            (Request.not_keyless other)

/-- Every stock resolver is coherent. -/
theorem Stock.coherent (r : Stock) : r.behaviour.Coherent := by
  cases r with
  | locals scope => exact Locals.coherent scope
  | maps readOnly => exact Maps.coherent readOnly
  | sequences kind readOnly => exact Sequences.coherent kind readOnly
  | records readOnly => exact Records.coherent readOnly
  | classes loader => exact Classes.coherent loader
  | colors => exact Colors.coherent
  | implicit root value => exact Implicit.coherent root value

/-- Every member of a chain of stock resolvers is coherent. -/
theorem Assembly.coherent (a : Assembly) : a.behaviour.Coherent :=
  Assembly.behaviour_law Stock.coherent StoreResolver.coherent_inOrder a

end PropertyPath
