import Mathlib.Logic.Relation
import PropertyPath.Proofs.Frame
import PropertyPath.Proofs.WriteRead

/-!
# A field between two writes

A static field of a class is a variable that everyone shares who can name the class or holds
it. Its value is that of the last write, however many requests were made since, on whatever
expressions and in whatever chains. This takes a step lemma and an induction: no request that
comes to another place touches the field, and so neither does a run of them.

Reading the field is the same wherever the class came from. A class as the base is claimed by
the first namespace of classes in a chain, and it answers from the class itself, with no regard
to the registry it is over.
-/

namespace PropertyPath

variable {ρ : Type}

/-! ## Steps that are no writes to a field -/

/-- A static field of a class is in the one world as it was in the other. -/
def World.KeepsField (ref : Ref) (name : String) (before after : World ρ) : Prop :=
  ∀ field, (before.store.classes.get ref).staticField? name = some field →
    (after.store.classes.get ref).staticField? name = some field

/-- Steps that keep a field keep it together, and so does no step at all. -/
instance (ref : Ref) (name : String) : IsPreorder (World ρ) (World.KeepsField ref name) where
  refl _ _ there := there
  trans _ _ _ first second field there := second field (first field there)

/-- New contents leave fields alone. -/
theorem World.Grown.keepsField {before after : World ρ} (grown : before.Grown after) (ref : Ref)
    (name : String) : World.KeepsField ref name before after := by
  intro field there
  have found : (before.store.classes.get ref).field? name = some field :=
    (Option.filter_eq_some_iff.1 there).1
  rw [grown.classes.kept ref (Store.inUse_of_field? found)]
  exact there

/-- No function that evaluation may call writes to a field. -/
def Compiled.LeavesField (ref : Ref) (name : String) (c : Compiled ρ) : Prop :=
  ∀ f ∈ c.reachableFunctions, f.Within (World.KeepsField ref name)

/-- A step that is no write to a field: one of the four requests on an expression, in a chain of
stock resolvers, or anything else the host may do as long as the field stays. A request to write
must not come to the field. -/
inductive World.Passes (ref : Ref) (name : String) : World ρ → World ρ → Prop
  | get (members : List Assembly) {c : Compiled ρ} (leaves : c.LeavesField ref name) (w : World ρ) :
    Passes ref name w ((c.handle (Assembly.chain members)).get.outcome w).2
  | type (members : List Assembly) {c : Compiled ρ} (leaves : c.LeavesField ref name) (w : World ρ) :
    Passes ref name w ((c.handle (Assembly.chain members)).type.outcome w).2
  | readOnly (members : List Assembly) {c : Compiled ρ} (leaves : c.LeavesField ref name) (w : World ρ) :
    Passes ref name w ((c.handle (Assembly.chain members)).readOnly.outcome w).2
  | set {members : List Assembly} {c : Compiled ρ} (leaves : c.LeavesField ref name) {w : World ρ}
    (elsewhere : ¬ c.WritesTo members w (.field ref name)) (value : Value) :
    Passes ref name w (((c.handle (Assembly.chain members)).set value).outcome w).2
  | host {w after : World ρ} (kept : World.KeepsField ref name w after) : Passes ref name w after

/-- The walk to a request keeps what reading keeps. -/
theorem Compiled.LeadsTo.passed {R : World ρ → World ρ → Prop} {members : List Assembly} {c : Compiled ρ}
    {w reached : World ρ} {q : Request} (leads : c.LeadsTo (Assembly.chain members) w q reached)
    (reading : (c.handle (Assembly.chain members)).get.Within R) : R w reached := by
  obtain ⟨unclaimed, ended⟩ := leads
  have left := reading w
  rw [Compiled.handle_eq_landing, (Handle.after_continues ended _).get, Landing.handle,
    Assembly.outcome_get] at left
  exact left

/-- Each such step leaves the field as it was. A write that succeeds has stored its value in one
slot, and that slot is another. -/
theorem World.Passes.keepsField {ref : Ref} {name : String} {before after : World ρ}
    (step : World.Passes ref name before after) : World.KeepsField ref name before after := by
  cases step with
  | get members leaves => exact (Compiled.frames_handle members _ leaves).get before
  | type members leaves => exact (Compiled.frames_handle members _ leaves).type before
  | readOnly members leaves => exact (Compiled.frames_handle members _ leaves).readOnly before
  | @set members c leaves _ elsewhere value =>
    have frames := Compiled.frames_handle members c leaves
    have effect := frames.set value before
    cases ended : ((c.handle (Assembly.chain members)).set value).outcome before with
    | mk result left =>
      cases result with
      | error x =>
        rw [ended] at effect
        cases effect with
        | failed _ _ passed => exact passed
      | ok _ =>
        -- The frame of the write names no slot, so the request it came to is looked up.
        obtain ⟨q, reached, slot, leads, found, rfl⟩ := Compiled.leadsTo_of_set ended
        have apart : slot ≠ .field ref name := by
          rintro rfl
          exact elsewhere ⟨q, reached, leads, found⟩
        intro field there
        rw [Store.staticField?_put_of_ne apart]
        exact leads.passed frames.get field there
  | host kept => exact kept

/-- So does a run of them. -/
theorem World.keepsField_of_passes {ref : Ref} {name : String} {before after : World ρ}
    (run : Relation.ReflTransGen (World.Passes ref name) before after) :
    World.KeepsField ref name before after := by
  induction run with
  | refl => exact refl_of (World.KeepsField ref name) before
  | tail _ step hypothesis => exact trans_of (World.KeepsField ref name) hypothesis step.keepsField

/-! ## Reading a field of a class that is held -/

/-- A static field of a class reads as a value: whatever expression leads to it, from a variable, a
container, a function or the namespace, and in whatever chain with a namespace of classes. -/
def World.FieldReads (ref : Ref) (name : String) (value : Value) (w : World ρ) : Prop :=
  ∀ (members : List Assembly) (loader : Classes.Loader), .classes loader ∈ Assembly.leavesOf members →
    ∀ c : Compiled ρ, c.LeavesField ref name → ∀ q reached,
      c.LeadsTo (Assembly.chain members) w q reached → q.base = some (.classObject ref) →
      q.property.key?.getD "" = name →
      (c.handle (Assembly.chain members)).get.outcome w = (.ok value, reached)

/-- A class as the base is claimed by any namespace of classes and by nobody else, and the answer
is a matter of the class alone. -/
theorem Assembly.get_classObject {members : List Assembly} {loader : Classes.Loader}
    (present : .classes loader ∈ leavesOf members) (s : Store) (ref : Ref) (property : Value) :
    (behaviour (.nested members)).get s (.on (.classObject ref) property)
      = some ((Classes.field s ref property).map fun (_, field) => field.value) := by
  rw [get_eq_leaves]
  refine findSome?_eq_of_alike present ?_
  intro r _
  cases takes : r.takes (.on (.classObject ref) property) with
  | false => exact .inl (Stock.declines takes).get
  | true =>
    obtain ⟨k, governor, kind⟩ := Stock.takes_on.1 takes
    cases governor
    cases r <;> cases kind
    exact .inr rfl

/-- What a field holds, everyone reads. -/
theorem World.fieldReads_of_staticField? {ref : Ref} {name : String} {field : Field} {w : World ρ}
    (there : (w.store.classes.get ref).staticField? name = some field) :
    World.FieldReads ref name field.value w := by
  intro members loader present c leaves q reached leads base denotes
  obtain ⟨place, property⟩ := q
  cases base
  have still : (reached.store.classes.get ref).staticField? name = some field :=
    leads.passed (Compiled.frames_handle members c leaves).get field there
  obtain ⟨unclaimed, ended⟩ := leads
  have answer := Assembly.get_classObject present reached.store ref property
  rw [Classes.field_eq_ok_iff.2 ⟨denotes, still⟩] at answer
  rw [Compiled.handle_eq_landing, (Handle.after_continues ended _).get, Landing.handle,
    Assembly.outcome_get, show Request.mk (some (.classObject ref)) property
      = .on (.classObject ref) property from rfl, answer]
  rfl

end PropertyPath
