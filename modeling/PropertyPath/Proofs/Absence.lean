import PropertyPath.Proofs.Listing

/-!
# Absent targets

What a request names may be absent: an index outside the bounds, or no index at all; a property
that a record does not define; a field that a class lacks or leaves to its instances; a color that
is not in the palette. Asking whether it can be written reports it as not found, and that is the
only fault such a question ends in.

A write to it changes nothing. It is reported as not found as well, with the same cause, unless the
resolver is read-only: then lists, arrays and records refuse the write before they look for what it
names. Namespaces never can be written in these places, and still they look first.
-/

namespace PropertyPath

variable {ρ : Type}

namespace Stock

/-- Whether a resolver of collections was made read-only. -/
def forbids : Stock → Bool
  | maps readOnly | sequences _ readOnly | records readOnly => readOnly
  | _ => false

/-- What a request names on its base is not there for the resolver of that base. -/
inductive Lacks (s : Store) : Stock → Request → Prop
  | item {kind : SequenceKind} {readOnly : Bool} {ref : Ref} {property : Value}
    (outside : ∀ index, property.index? = some index →
      index.toInt < 0 ∨ ((s.items kind ref).length : Int) ≤ index.toInt) :
    Lacks s (.sequences kind readOnly) ⟨some (.sequence kind ref), property⟩
  | property {readOnly : Bool} {ref : Ref} {property : Value}
    (undefined : ∀ name, property.key? = some name → name ∉ (s.records.get ref).names) :
    Lacks s (.records readOnly) ⟨some (.record ref), property⟩
  | field {loader : Classes.Loader} {ref : Ref} {property : Value}
    (foreign : ∀ field, (s.classes.get ref).field? (property.key?.getD "") = some field →
      field.isStatic = false) : Lacks s (.classes loader) ⟨some (.classObject ref), property⟩
  | color {property : Value} (unnamed : property.key?.getD "" ∉ Color.names) :
    Lacks s .colors ⟨some (.marker .colors), property⟩

end Stock

/-! ## What is there -/

variable {s : Store} {property : Value}

/-- A position is found for an index within the bounds only; otherwise there is nothing. -/
theorem Sequences.position_cases (s : Store) (property : Value) (length : Nat) :
    (∃ n, position s property length = .ok n ∧ ∃ index, property.index? = some index ∧
      0 ≤ index.toInt ∧ index.toInt < length) ∨
    ((∃ cause, position s property length = .error (.notFound cause)) ∧
      ∀ index, property.index? = some index → index.toInt < 0 ∨ (length : Int) ≤ index.toInt) := by
  cases denoted : property.index? with
  | none =>
    refine .inr ⟨⟨.index (s.text property), ?_⟩, fun index found => ?_⟩
    · simp only [position, index, denoted]
      rfl
    · cases found
  | some i =>
    -- the index is within the bounds or beyond one of them
    by_cases inside : 0 ≤ i.toInt ∧ i.toInt < length
    · refine .inl ⟨i.toInt.toNat, ?_, i, rfl, inside⟩
      simp only [position, index, denoted, position?, inside, bind, Except.bind]
      rfl
    · refine .inr ⟨⟨.outOfBounds i length, ?_⟩, ?_⟩
      · simp only [position, index, denoted, position?, inside, bind, Except.bind, if_false]
        rfl
      · rintro index ⟨⟩
        omega

/-- A property is found if the record defines one of its name; otherwise there is nothing. -/
theorem Records.property_cases (s : Store) (ref : Ref) (property : Value) :
    (∃ found, Records.property s ref property = .ok found ∧
      ∃ name, property.key? = some name ∧ name ∈ (s.records.get ref).names) ∨
    ((∃ cause, Records.property s ref property = .error (.notFound cause)) ∧
      ∀ name, property.key? = some name → name ∉ (s.records.get ref).names) := by
  -- names are those of the roster, where properties are looked up
  have defined : ∀ name, name ∈ (s.records.get ref).names ↔
      ∃ entry, (s.records.get ref).properties.get? name = some entry := by
    intro name
    simp only [Record.names, Roster.names, List.mem_map, Roster.get?_eq_some_iff]
    constructor
    · rintro ⟨⟨_, entry⟩, member, rfl⟩
      exact ⟨entry, member⟩
    · rintro ⟨entry, member⟩
      exact ⟨(name, entry), member, rfl⟩
  cases denoted : property.key? with
  | none =>
    refine .inr ⟨⟨.propertyOfRecord (s.text property) (s.records.get ref).typeName, ?_⟩, fun name found => ?_⟩
    · simp only [Records.property, denoted, Option.bind_none]
    · cases found
  | some name =>
    cases there : (s.records.get ref).properties.get? name with
    | none =>
      refine .inr ⟨⟨.propertyOfRecord (s.text property) (s.records.get ref).typeName, ?_⟩, ?_⟩
      · simp only [Records.property, denoted, Option.bind_some, there, Option.map_none]
      · rintro other ⟨⟩ member
        obtain ⟨entry, found⟩ := (defined name).1 member
        rw [there] at found
        cases found
    | some entry =>
      refine .inl ⟨(name, entry), ?_, name, rfl, (defined name).2 ⟨entry, there⟩⟩
      simp only [Records.property, denoted, Option.bind_some, there, Option.map_some]

/-- A field is found if it belongs to the class itself; otherwise there is nothing. -/
theorem Classes.field_cases (s : Store) (ref : Ref) (property : Value) :
    (∃ found, Classes.field s ref property = .ok found ∧ ∃ field,
      (s.classes.get ref).field? (property.key?.getD "") = some field ∧ field.isStatic = true) ∨
    ((∃ cause, Classes.field s ref property = .error (.notFound cause)) ∧
      ∀ field, (s.classes.get ref).field? (property.key?.getD "") = some field →
        field.isStatic = false) := by
  cases reached : (s.classes.get ref).staticField? (property.key?.getD "") with
  | none =>
    refine .inr ⟨⟨.field (property.key?.getD "") (s.classes.get ref).name, ?_⟩, fun field there => ?_⟩
    · simp only [Classes.field, reached]
    -- a static field of that name would have been reached
    · by_contra static
      have own : field.isStatic = true := by simpa using static
      have found : (s.classes.get ref).staticField? (property.key?.getD "") = some field :=
        Option.filter_eq_some_iff.2 ⟨there, own⟩
      rw [reached] at found
      cases found
  | some field =>
    obtain ⟨there, static⟩ := Option.filter_eq_some_iff.1 reached
    refine .inl ⟨(property.key?.getD "", field), ?_, field, there, static⟩
    simp only [Classes.field, reached]

/-- A color is found if the palette names it; otherwise there is nothing. -/
theorem Colors.lookup_cases (property : Value) :
    (∃ color, lookup property = .ok color ∧ property.key?.getD "" ∈ Color.names) ∨
    ((∃ cause, lookup property = .error (.notFound cause)) ∧ property.key?.getD "" ∉ Color.names) := by
  cases named : Color.named? (property.key?.getD "") with
  | none =>
    refine .inr ⟨⟨.color (property.key?.getD ""), ?_⟩, fun member => ?_⟩
    · simp only [lookup, named]
    · have known := Color.mem_names.1 member
      rw [named] at known
      cases known
  | some color =>
    refine .inl ⟨color, ?_, Color.mem_names.2 (by rw [named]; rfl)⟩
    simp only [lookup, named]

/-! ## What is said of it -/

/-- The place of a write beside the answer about writability, for a resolver that was made
read-only or not. What is absent to the question is absent to the write too, with the same cause,
or the write is refused. -/
inductive AbsenceAnswers (r : Stock) (s : Store) (q : Request) :
    Except Fault Bool → Except Fault Slot → Prop
  | present (there : ¬ r.Lacks s q) (readOnly : Bool) (placed : Except Fault Slot) :
    AbsenceAnswers r s q (.ok readOnly) placed
  | absent (lacks : r.Lacks s q) (allows : r.forbids = false) (cause : Absence) :
    AbsenceAnswers r s q (.error (.notFound cause)) (.error (.notFound cause))
  | refused (lacks : r.Lacks s q) (forbids : r.forbids = true) (cause : Absence) (refusal : Refusal) :
    AbsenceAnswers r s q (.error (.notFound cause)) (.error (.notWritable refusal))

namespace Stock

variable {q : Request}

/-- Whether a sequence can be written or not, an item lies within the bounds or it is absent. -/
theorem absence_sequences (kind : SequenceKind) (readOnly : Bool) :
    Option.Rel (AbsenceAnswers (.sequences kind readOnly) s q)
      ((Sequences.resolver kind readOnly).readOnly s q)
      ((Sequences.resolver kind readOnly).target s q) := by
  obtain ⟨base, property⟩ := q
  refine rel_map fun ref isSequence => ?_
  obtain rfl := Sequences.base_of_sequence? isSequence
  rcases Sequences.position_cases s property (s.items kind ref).length with
    ⟨n, found, index, denoted, low, high⟩ | ⟨⟨cause, missing⟩, outside⟩
  · simp only [found]
    refine .present ?_ readOnly _
    intro lacks
    cases lacks with
    | item outside =>
      have either := outside index denoted
      omega
  · simp only [missing]
    cases readOnly with
    -- a read-only sequence refuses the write before it looks for the item
    | true => exact .refused (.item outside) rfl cause _
    | false => exact .absent (.item outside) rfl cause

/-- Whether records can be written or not, a property is defined or it is absent. -/
theorem absence_records (readOnly : Bool) : Option.Rel (AbsenceAnswers (.records readOnly) s q)
    ((Records.resolver readOnly).readOnly s q) ((Records.resolver readOnly).target s q) := by
  obtain ⟨base, property⟩ := q
  refine rel_map fun ref isRecord => ?_
  obtain rfl := Records.base_of_record? isRecord
  rcases Records.property_cases s ref property with
    ⟨found, known, name, denoted, defined⟩ | ⟨⟨cause, missing⟩, undefined⟩
  · simp only [known]
    refine .present ?_ _ _
    intro lacks
    cases lacks with
    | property undefined => exact undefined name denoted defined
  · simp only [missing]
    cases readOnly with
    | true => exact .refused (.property undefined) rfl cause _
    | false => exact .absent (.property undefined) rfl cause

/-- The root of classes and their names are never absent. A field belongs to the class itself or it
is absent, and whether it is a constant is asked only then. -/
theorem absence_classes (loader : Classes.Loader) : Option.Rel (AbsenceAnswers (.classes loader) s q)
    ((Classes.resolver loader).readOnly s q) ((Classes.resolver loader).target s q) := by
  obtain ⟨base, property⟩ := q
  refine rel_map fun claim claimed => ?_
  cases claim with
  -- neither the namespace nor a name behind it is a place that can be absent
  | root =>
    refine .present ?_ true _
    rintro ⟨⟩
    cases claimed
  | namespaceEntry =>
    refine .present ?_ true _
    rintro ⟨⟩
    cases claimed
  | fieldOf ref =>
    obtain rfl := Classes.base_of_claim claimed
    rcases Classes.field_cases s ref property with
      ⟨found, known, field, there, static⟩ | ⟨⟨cause, missing⟩, foreign⟩
    · simp only [known]
      refine .present ?_ _ _
      intro lacks
      cases lacks with
      | field foreign =>
        rw [foreign field there] at static
        cases static
    · simp only [missing]
      exact .absent (.field foreign) rfl cause

/-- The palette names a color or the color is absent, although none can be written. -/
theorem absence_colors : Option.Rel (AbsenceAnswers .colors s q) (Colors.resolver.readOnly s q)
    (Colors.resolver.target s q) := by
  obtain ⟨base, property⟩ := q
  refine rel_map fun claim claimed => ?_
  cases claim with
  | root =>
    refine .present ?_ true _
    rintro ⟨⟩
    cases claimed
  | palette =>
    obtain rfl := Colors.base_of_claim claimed
    rcases Colors.lookup_cases property with ⟨color, found, named⟩ | ⟨⟨cause, missing⟩, unnamed⟩
    · simp only [found]
      refine .present ?_ true _
      intro lacks
      cases lacks with
      | color unnamed => exact unnamed named
    · simp only [missing]
      exact .absent (.color unnamed) rfl cause

/-- For every stock resolver, what is said of the place of a write and what the write finds there
fit together. -/
theorem absence_answers (r : Stock) :
    Option.Rel (AbsenceAnswers r s q) (r.behaviour.readOnly s q) (r.behaviour.target s q) := by
  cases r with
  -- any variable may be stored, and so may any entry of a map that takes writes
  | locals scope =>
    refine rel_map fun name _ => .present ?_ false _
    intro lacks
    cases lacks
  | maps readOnly =>
    refine rel_map fun ref _ => .present ?_ readOnly _
    intro lacks
    cases lacks
  | sequences kind readOnly => exact absence_sequences kind readOnly
  | records readOnly => exact absence_records readOnly
  | classes loader => exact absence_classes loader
  | colors => exact absence_colors
  | implicit root value =>
    simp only [behaviour, Implicit.resolver]
    split
    · refine .some (.present ?_ true _)
      intro lacks
      cases lacks
    · exact .none

/-- What is absent for a resolver lies in its domain all the same. -/
theorem takes_of_lacks {r : Stock} (lacks : r.Lacks s q) : r.takes q = true := by
  cases lacks with
  | item _ => simp [takes, Sequences.sequence?]
  | property _ => rfl
  | field _ => rfl
  | color _ => rfl

/-- What is absent for a resolver is what it reports as not found when asked whether it can be
written. -/
theorem lacks_iff {r : Stock} :
    r.Lacks s q ↔ ∃ cause, r.behaviour.readOnly s q = some (.error (.notFound cause)) := by
  have answers := r.absence_answers (s := s) (q := q)
  constructor
  · intro lacks
    -- where something is lacking the resolver has an answer for the write
    obtain ⟨placed, found⟩ := Option.isSome_iff_exists.1 (target_isSome (s := s) (takes_of_lacks lacks))
    rw [found] at answers
    generalize r.behaviour.readOnly s q = said at answers
    cases answers with
    | some related =>
      cases related with
      | present there readOnly _ => exact absurd lacks there
      | absent _ _ cause => exact ⟨cause, rfl⟩
      | refused _ _ cause refusal => exact ⟨cause, rfl⟩
  · rintro ⟨cause, said⟩
    rw [said] at answers
    generalize r.behaviour.target s q = placed at answers
    cases answers with
    | some related =>
      cases related with
      | absent lacks _ _ => exact lacks
      | refused lacks _ _ _ => exact lacks

end Stock

/-! ## Writing it -/

/-- The resolver that answers a chain's question about writability answers its writes. -/
theorem Assembly.exists_answering {members : List Assembly} {q : Request} {answer : Except Fault Bool}
    (said : (behaviour (.nested members)).readOnly s q = some answer) :
    ∃ r ∈ leavesOf members, r.behaviour.readOnly s q = some answer ∧
      (behaviour (.nested members)).target s q = r.behaviour.target s q := by
  rw [readOnly_eq_leaves] at said
  obtain ⟨before, r, after, form, claimed, passed⟩ := List.findSome?_eq_some_iff.1 said
  refine ⟨r, form ▸ List.mem_append_right before List.mem_cons_self, claimed, ?_⟩
  -- a resolver that says nothing of writability leaves the write to others as well
  have silent : before.findSome? (·.behaviour.target s q) = none := by
    rw [List.findSome?_eq_none_iff]
    intro earlier member
    have answers := earlier.absence_answers (s := s) (q := q)
    rw [passed earlier member] at answers
    generalize earlier.behaviour.target s q = placed at answers ⊢
    cases answers with
    | none => rfl
  have answers := r.absence_answers (s := s) (q := q)
  rw [claimed] at answers
  rw [target_eq_leaves, form, List.findSome?_append, silent, Option.none_or, List.findSome?_cons]
  cases placed : r.behaviour.target s q with
  | none =>
    rw [placed] at answers
    cases answers
  | some slot => rfl

/-- Writing what was reported as absent changes nothing. The write ends in the same report, unless
the resolver that answers it was made read-only: then it is refused. -/
def Resolver.WritesAbsent (a : Resolver ρ) (r : Stock) (q : Request) (w : World ρ) (cause : Absence) : Prop :=
  ∀ value, ((a.set q value).outcome w = (some (.error (.notFound cause)), w) ↔ r.forbids = false) ∧
    (r.forbids = true → ∃ refusal, (a.set q value).outcome w = (some (.error (.notWritable refusal)), w))

/-- So it is where the places of writes are those of a stock resolver. -/
theorem StoreResolver.writesAbsent {a : StoreResolver} {r : Stock} {q : Request} {w : World ρ}
    {cause : Absence} (said : r.behaviour.readOnly w.store q = some (.error (.notFound cause)))
    (same : a.target w.store q = r.behaviour.target w.store q) :
    (a.toResolver : Resolver ρ).WritesAbsent r q w cause := by
  intro value
  have answers := r.absence_answers (s := w.store) (q := q)
  rw [said] at answers
  rw [outcome_set, write, same]
  generalize r.behaviour.target w.store q = placed at answers ⊢
  cases answers with
  | some related =>
    cases related with
    | absent _ allows _ =>
      refine ⟨iff_of_true rfl allows, fun forbids => ?_⟩
      rw [allows] at forbids
      cases forbids
    | refused _ forbids _ refusal =>
      refine ⟨iff_of_false ?_ ?_, fun _ => ⟨refusal, rfl⟩⟩
      · intro reported
        cases reported
      · intro allows
        rw [allows] at forbids
        cases forbids

/-- A stock resolver reports a request as not found, when asked whether it can be written, exactly
if what it names is absent. A write of it then ends in the same report and changes nothing, if and
only if the resolver was not made read-only; if it was, the write is refused and changes nothing.
In a chain of stock resolvers it is so with the resolver that answers.

Proof: that the report and the absence go together is told by the kinds of resolver, each of
which says what its write does about a request that it lacks. In a chain the answer is that of
one leaf, and the same leaf answers the write. -/
theorem Stock.absent_write_iff (q : Request) (w : World ρ) :
    (∀ r : Stock,
      (r.Lacks w.store q ↔
        ∃ cause, (r.resolver.readOnly q).outcome w = (some (.error (.notFound cause)), w)) ∧
      ∀ cause, (r.resolver.readOnly q).outcome w = (some (.error (.notFound cause)), w) →
        r.resolver.WritesAbsent r q w cause) ∧
    ∀ (members : List Assembly) (cause : Absence),
      ((Assembly.chain members).toResolver.readOnly q).outcome w = (some (.error (.notFound cause)), w) →
      ∃ r ∈ Assembly.leavesOf members, r.Lacks w.store q ∧
        (Assembly.chain members).toResolver.WritesAbsent r q w cause := by
  have reported : ∀ (a : StoreResolver) cause,
      (a.toResolver.readOnly q).outcome w = (some (.error (.notFound cause)), w) ↔
        a.readOnly w.store q = some (.error (.notFound cause)) := by
    intro a cause
    rw [StoreResolver.outcome_readOnly, Prod.mk.injEq, and_iff_left rfl]
  constructor
  · intro r
    refine ⟨?_, fun cause said => ?_⟩
    · simp only [resolver, reported]
      exact lacks_iff
    · exact StoreResolver.writesAbsent ((reported r.behaviour cause).1 said) rfl
  · intro members cause said
    rw [Assembly.toResolver_chain] at said ⊢
    obtain ⟨r, member, claimed, same⟩ := Assembly.exists_answering ((reported _ cause).1 said)
    exact ⟨r, member, lacks_iff.2 ⟨cause, claimed⟩, StoreResolver.writesAbsent claimed same⟩

/-- A world with one list of one item. -/
def oneItemWorld : World Unit := ⟨(({} : Store).newSequence .list [.null]).2, ()⟩

/-- The sixth item of that list. -/
def sixthItem : Request := .on (.sequence .list ⟨0⟩) (.integer 5)

/-- In a read-only list an item beyond the end is not found when asked whether it can be written,
and yet the write is refused. -/
theorem absent_item_refused :
    (((Stock.sequences .list true).resolver : Resolver Unit).readOnly sixthItem).outcome oneItemWorld
      = (some (.error (.notFound (.outOfBounds 5 1))), oneItemWorld) ∧
    (((Stock.sequences .list true).resolver : Resolver Unit).set sixthItem .null).outcome oneItemWorld
      = (some (.error (.notWritable
          (.readOnlySequence .list (oneItemWorld.store.text (.integer 5))))), oneItemWorld) :=
  ⟨rfl, rfl⟩

end PropertyPath
