import PropertyPath.Proofs.Coherence
import PropertyPath.Proofs.Domains
import PropertyPath.Proofs.Leaves

/-!
# What reads look at

To read a property a stock resolver looks at one slot of the store at most: the local variable,
entry, item, property or field that the request is for. A chain looks at the slots of its
resolvers up to the first that answers, so a local variable that is not there is looked at, and
so is an entry that is missing. Slots that are not looked at can be changed without a
difference to the answer.

What a request looks at on its way can be found out by making it in a chain that keeps notes.
The resolvers of this chain answer as the stock resolvers do, and each time one of them is
asked to read it notes the slot it looks at.
-/

namespace PropertyPath

/-- The slot that a stock resolver looks at to read a property. -/
def Stock.slot? (s : Store) (q : Request) : Stock → Option Slot
  | .locals scope => q.rootName?.map (.localVariable scope)
  | .maps _ => (Maps.map? q.base).bind fun ref => q.property.key?.map (.entry ref)
  | .sequences kind _ =>
    (Sequences.sequence? kind q.base).bind fun ref => q.property.index?.bind fun index =>
      (Sequences.position? index (s.items kind ref).length).map (.item kind ref)
  | .records _ => (Records.record? q.base).bind fun ref => q.property.key?.map (.property ref)
  | .classes _ => (Classes.claim? q).bind fun
    | .fieldOf ref => some (.field ref (q.property.key?.getD ""))
    | _ => none
  | .colors => none
  | .implicit _ _ => none

/-- A stock resolver that notes in the world which slots it is asked to read. -/
def Stock.recording (r : Stock) : Resolver (List Slot) :=
  { (r.resolver : Resolver (List Slot)) with
    get := fun q w =>
      (r.behaviour.get w.store q, { w with host := w.host ++ (r.slot? w.store q).toList }) }

/-- The stock resolvers of a chain, in order, taking notes. -/
def Assembly.recording (members : List Assembly) : Chain (List Slot) :=
  ⟨(leavesOf members).map Stock.recording⟩

/-! ## Stores that differ in some slots -/

/-- A store that differs from another in the contents of some slots at most. -/
structure Store.AgreesBut (touched : Slot → Prop) (s t : Store) : Prop where
  slots : ∀ slot, ¬ touched slot → t.read? slot = s.read? slot
  lengths : ∀ kind ref, (t.items kind ref).length = (s.items kind ref).length
  fieldKinds : ∀ ref name,
    ((t.classes.get ref).field? name).map (·.kind) = ((s.classes.get ref).field? name).map (·.kind)
  registries : t.registries = s.registries

namespace Store

variable {touched : Slot → Prop} {s t : Store}

/-- A store differs from itself in no slot. -/
theorem AgreesBut.refl (s : Store) : AgreesBut touched s s :=
  ⟨fun _ _ => rfl, fun _ _ => rfl, fun _ _ => rfl, rfl⟩

/-- An assignment touches its slot. -/
theorem Assigned.agreesBut {slot : Slot} {value : Value} (assigned : s.Assigned slot value t) :
    AgreesBut (· = slot) s t :=
  ⟨assigned.others, assigned.lengths, assigned.fieldKinds, assigned.registries⟩

/-- A field that is not touched is the same. -/
theorem AgreesBut.field? (agrees : AgreesBut touched s t) {ref : Ref} {name : String}
    (untouched : ¬ touched (.field ref name)) :
    (t.classes.get ref).field? name = (s.classes.get ref).field? name := by
  have values : ((t.classes.get ref).field? name).map (·.value)
      = ((s.classes.get ref).field? name).map (·.value) := agrees.slots _ untouched
  -- a field is its value and its kind, and both are the same
  have kinds := agrees.fieldKinds ref name
  cases later : (t.classes.get ref).field? name with
  | none =>
    rw [later] at kinds
    exact (Option.map_eq_none_iff.1 kinds.symm).symm
  | some field =>
    rw [later] at values kinds
    obtain ⟨field', there, value⟩ := Option.map_eq_some_iff.1 values.symm
    rw [there] at kinds ⊢
    have kind : field.kind = field'.kind := Option.some.inj kinds
    cases field
    cases field'
    cases value
    cases kind
    rfl

end Store

/-- Two ways to read that find the same value, or both fail. -/
inductive SameReading : Except Fault Value → Except Fault Value → Prop
  | found (v : Value) : SameReading (.ok v) (.ok v)
  | failed (x y : Fault) : SameReading (.error x) (.error y)

/-- Reading twice finds the same. -/
theorem SameReading.refl (reading : Except Fault Value) : SameReading reading reading := by
  cases reading with
  | error x => exact .failed x x
  | ok v => exact .found v

section Untouched

variable {touched : Slot → Prop} {s t : Store} {q : Request}

/-- Reading a local variable looks at that variable alone. -/
theorem Locals.get_agrees {scope : Ref} (agrees : s.AgreesBut touched t)
    (untouched : ∀ slot, (Stock.locals scope).slot? s q = some slot → ¬ touched slot) :
    Option.Rel SameReading ((resolver scope).get s q) ((resolver scope).get t q) := by
  change Option.Rel _ (q.rootName?.bind _) (q.rootName?.bind _)
  cases named : q.rootName? with
  | none => exact .none
  | some name =>
    have apart : ¬ touched (.localVariable scope name) := by
      apply untouched
      rw [Stock.slot?, named, Option.map_some]
    have kept : (t.locals scope).get? name = (s.locals scope).get? name := agrees.slots _ apart
    simp only [Option.bind_some, kept]
    cases (s.locals scope).get? name with
    | none => exact .none
    | some v => exact .some (.found v)

/-- Reading an entry looks at the entry alone. No other entry of the map matters. -/
theorem Maps.get_agrees {readOnly : Bool} (agrees : s.AgreesBut touched t)
    (untouched : ∀ slot, (Stock.maps readOnly).slot? s q = some slot → ¬ touched slot) :
    Option.Rel SameReading ((resolver readOnly).get s q) ((resolver readOnly).get t q) := by
  refine rel_map fun ref isMap => ?_
  simp only [key]
  cases denoted : q.property.key? with
  | none => exact .failed _ _
  | some name =>
    have apart : ¬ touched (.entry ref name) := by
      apply untouched
      rw [Stock.slot?, isMap, denoted, Option.bind_some, Option.map_some]
    have kept : (t.maps.get ref).get? name = (s.maps.get ref).get? name := agrees.slots _ apart
    change SameReading (.ok (((s.maps.get ref).get? name).getD .null))
      (.ok (((t.maps.get ref).get? name).getD .null))
    rw [kept]
    exact .found _

/-- Reading an item looks at the item, and at the length that decides whether there is one. Lengths
are the same in stores that differ in slots. -/
theorem Sequences.get_agrees {kind : SequenceKind} {readOnly : Bool} (agrees : s.AgreesBut touched t)
    (untouched : ∀ slot, (Stock.sequences kind readOnly).slot? s q = some slot → ¬ touched slot) :
    Option.Rel SameReading ((resolver kind readOnly).get s q) ((resolver kind readOnly).get t q) := by
  refine rel_map fun ref isSequence => ?_
  simp only [index]
  cases denoted : q.property.index? with
  | none => exact .failed _ _
  | some i =>
    simp only [bind, Except.bind, pure, Except.pure, agrees.lengths]
    cases placed : position? i (s.items kind ref).length with
    | none => exact .found _
    | some n =>
      have apart : ¬ touched (.item kind ref n) := by
        apply untouched
        rw [Stock.slot?, isSequence, Option.bind_some, denoted, Option.bind_some, placed, Option.map_some]
      have kept : (t.items kind ref)[n]? = (s.items kind ref)[n]? := agrees.slots _ apart
      simp only [Option.bind_some, kept]
      exact .found _

/-- Reading a property looks at the property alone. -/
theorem Records.get_agrees {readOnly : Bool} (agrees : s.AgreesBut touched t)
    (untouched : ∀ slot, (Stock.records readOnly).slot? s q = some slot → ¬ touched slot) :
    Option.Rel SameReading ((resolver readOnly).get s q) ((resolver readOnly).get t q) := by
  refine rel_map fun ref isRecord => ?_
  simp only [Records.property]
  cases denoted : q.property.key? with
  | none => exact .failed _ _
  | some name =>
    -- the slot of the property is the one that is looked at
    have apart : ¬ touched (.property ref name) := by
      apply untouched
      rw [Stock.slot?, isRecord, denoted, Option.bind_some, Option.map_some]
    have kept : (t.records.get ref).get? name = (s.records.get ref).get? name := agrees.slots _ apart
    simp only [Record.get?] at kept
    simp only [Option.bind_some]
    cases there : (s.records.get ref).properties.get? name with
    | none =>
      rw [there] at kept
      rw [Option.map_eq_none_iff.1 kept]
      exact .failed _ _
    | some property =>
      rw [there] at kept
      obtain ⟨property', there', value⟩ := Option.map_eq_some_iff.1 kept
      rw [there']
      change SameReading (.ok property.value) (.ok property'.value)
      rw [value]
      exact .found _

/-- Reading a field looks at the field alone. Which fields and classes there are does not change
with slots. -/
theorem Classes.get_agrees {loader : Loader} (agrees : s.AgreesBut touched t)
    (untouched : ∀ slot, (Stock.classes loader).slot? s q = some slot → ¬ touched slot) :
    Option.Rel SameReading ((resolver loader).get s q) ((resolver loader).get t q) := by
  refine rel_map fun claim claimed => ?_
  cases claim with
  | root => exact .found _
  | namespaceEntry =>
    -- a name among the classes is looked up in the registry, which is no slot
    have registered : loader.load? t = loader.load? s := by
      funext name
      cases loader with
      | disabled => rfl
      | registry ref => rw [Loader.load?, Loader.load?, agrees.registries]
    simp only [load, registered]
    exact .refl _
  | fieldOf ref =>
    have apart : ¬ touched (.field ref (q.property.key?.getD "")) := by
      apply untouched
      rw [Stock.slot?, claimed, Option.bind_some]
    simp only [field, ClassObject.staticField?, agrees.field? apart]
    cases ((s.classes.get ref).field? (q.property.key?.getD "")).filter (·.isStatic) with
    | none => exact .failed _ _
    | some field => exact .found _

/-- A slot that a stock resolver does not look at makes no difference to what it reads. -/
theorem Stock.get_agrees {r : Stock} (agrees : s.AgreesBut touched t)
    (untouched : ∀ slot, r.slot? s q = some slot → ¬ touched slot) :
    Option.Rel SameReading (r.behaviour.get s q) (r.behaviour.get t q) := by
  cases r with
  | locals scope => exact Locals.get_agrees agrees untouched
  | maps readOnly => exact Maps.get_agrees agrees untouched
  | sequences kind readOnly => exact Sequences.get_agrees agrees untouched
  | records readOnly => exact Records.get_agrees agrees untouched
  | classes loader => exact Classes.get_agrees agrees untouched
  | colors =>
    refine rel_map fun claim _ => ?_
    exact .refl _
  | implicit root value =>
    simp only [behaviour, Implicit.resolver]
    split
    · exact .some (.found value)
    · exact .none

end Untouched

/-! ## Taking notes -/

/-- Taking notes while resolvers are asked in order: the answer is theirs, the store is left
alone, and the notes grow. In a store that differs in no slot noted the answer is the same. The
induction is on the resolvers; those before the first that answers are asked as well. -/
theorem Assembly.outcome_recording (rs : List Stock) (q : Request) (s : Store) (notes : List Slot) :
    ∃ noted, (firstClaim (·.get q) (rs.map Stock.recording)).outcome ⟨s, notes⟩
        = (rs.findSome? (·.behaviour.get s q), ⟨s, notes ++ noted⟩) ∧
      ∀ touched t, s.AgreesBut touched t → (∀ slot ∈ noted, ¬ touched slot) →
        Option.Rel SameReading (rs.findSome? (·.behaviour.get s q)) (rs.findSome? (·.behaviour.get t q)) := by
  induction rs generalizing notes with
  | nil =>
    refine ⟨[], ?_, fun _ _ _ _ => .none⟩
    rw [List.append_nil]
    rfl
  | cons r rest hypothesis =>
    -- a resolver that takes notes does so whether or not it answers
    have asked : (r.recording.get q).outcome ⟨s, notes⟩
        = (r.behaviour.get s q, ⟨s, notes ++ (r.slot? s q).toList⟩) := rfl
    have first : ∀ touched t, s.AgreesBut touched t → (∀ slot ∈ (r.slot? s q).toList, ¬ touched slot) →
        Option.Rel SameReading (r.behaviour.get s q) (r.behaviour.get t q) := by
      intro touched t agrees untouched
      exact Stock.get_agrees agrees fun slot looked => untouched slot (Option.mem_toList.2 looked)
    rw [List.map_cons, firstClaim, Action.outcome_bind, asked, List.findSome?_cons]
    simp only [List.findSome?_cons]
    cases answer : r.behaviour.get s q with
    | some claimed =>
      refine ⟨(r.slot? s q).toList, rfl, ?_⟩
      intro touched t agrees untouched
      -- in the other store it answers as well, and nobody is asked after it
      have same := first touched t agrees untouched
      rw [answer] at same
      cases same' : r.behaviour.get t q with
      | none => rw [same'] at same; cases same
      | some claimed' => rw [same'] at same; exact same
    | none =>
      obtain ⟨noted, outcome, later⟩ := hypothesis (notes ++ (r.slot? s q).toList)
      refine ⟨(r.slot? s q).toList ++ noted, ?_, ?_⟩
      · rw [← List.append_assoc]
        exact outcome
      · intro touched t agrees untouched
        -- in the other store it is silent too, and the rest are asked there with the same notes to
        -- come
        have same := first touched t agrees fun slot member =>
          untouched slot (List.mem_append_left noted member)
        rw [answer] at same
        cases same' : r.behaviour.get t q with
        | some claimed => rw [same'] at same; cases same
        | none => exact later touched t agrees fun slot member =>
            untouched slot (List.mem_append_right _ member)

end PropertyPath
