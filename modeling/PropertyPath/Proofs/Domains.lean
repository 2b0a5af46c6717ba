import PropertyPath.Resolver.Stock

/-!
# Domains of stock resolvers

Each stock resolver answers for requests of its own, and a request tells by itself who answers
for it. On a base, the base settles the kind of resolver: maps for maps, the namespace of
classes for its marker and for classes, and so on; a text, a number, a color or null is
nobody's. At the root, namespaces and implicit objects answer for one name each, and local
variables for every name.

A resolver leaves all requests outside its domain to others, in every store. Within its domain
it takes all writes; reading is the same but for local variables that are not there.
-/

namespace PropertyPath

namespace Stock

/-- The kinds of resolver that answer for more than the name of one object. -/
inductive Kind where
  | locals
  | maps
  | sequences (kind : SequenceKind)
  | records
  | classes
  | colors
  deriving DecidableEq, Repr

/-- The kind of a stock resolver, unless it is an implicit object. -/
def kind? : Stock → Option Kind
  | locals _ => some .locals
  | maps _ => some .maps
  | sequences kind _ => some (.sequences kind)
  | records _ => some .records
  | classes _ => some .classes
  | colors => some .colors
  | implicit _ _ => none

/-- The root name of a namespace or an implicit object. -/
def root? : Stock → Option String
  | classes _ => some Classes.root
  | colors => some Colors.root
  | implicit root _ => some root
  | _ => none

/-- Whether a request lies in the domain of a stock resolver. -/
def takes : Stock → Request → Bool
  | locals _, q => q.rootName?.isSome
  | maps _, q => (Maps.map? q.base).isSome
  | sequences kind _, q => (Sequences.sequence? kind q.base).isSome
  | records _, q => (Records.record? q.base).isSome
  | classes _, q => (Classes.claim? q).isSome
  | colors, q => (Colors.claim? q).isSome
  | implicit root _, q => q.rootName? = some root

end Stock

/-- The kind of resolver that answers for the properties of a value. -/
def Value.governor? : Value → Option Stock.Kind
  | .sequence kind _ => some (.sequences kind)
  | .map _ => some .maps
  | .record _ => some .records
  | .classObject _ => some .classes
  | .marker .classes => some .classes
  | .marker .colors => some .colors
  | _ => none

/-! ## Who answers for a value -/

section Governor

variable {base : Value}

/-- Local variables are at the root and nowhere else. -/
theorem Value.governor?_ne_locals : base.governor? ≠ some .locals := by
  simp only [governor?]
  split <;> simp

/-- A base is taken for a map exactly if maps govern it. -/
theorem Maps.isSome_map? : (Maps.map? (some base)).isSome = true ↔ base.governor? = some .maps := by
  simp only [Value.governor?]
  split <;> simp_all [Maps.map?]

/-- A base is taken for a sequence of a kind exactly if that kind governs it. -/
theorem Sequences.isSome_sequence? {kind : SequenceKind} :
    (Sequences.sequence? kind (some base)).isSome = true
      ↔ base.governor? = some (.sequences kind) := by
  simp only [Value.governor?]
  split <;> simp_all [Sequences.sequence?]

/-- A base is taken for a record exactly if records govern it. -/
theorem Records.isSome_record? :
    (Records.record? (some base)).isSome = true ↔ base.governor? = some .records := by
  simp only [Value.governor?]
  split <;> simp_all [Records.record?]

/-- A request on a base is claimed for classes exactly if classes govern the base. -/
theorem Classes.isSome_claim? {property : Value} :
    (Classes.claim? (.on base property)).isSome = true ↔ base.governor? = some .classes := by
  simp only [Value.governor?]
  split <;> simp_all [Classes.claim?, Request.on]

/-- A request on a base is claimed for colors exactly if colors govern the base. -/
theorem Colors.isSome_claim? {property : Value} :
    (Colors.claim? (.on base property)).isSome = true ↔ base.governor? = some .colors := by
  cases base with
  | marker issuer => cases issuer <;> simp [Colors.claim?, Request.on, Value.isMarkerOf, Value.governor?]
  | _ => simp [Colors.claim?, Request.on, Value.isMarkerOf, Value.governor?]

end Governor

/-! ## What a claimed request is about -/

section Claimed

variable {base : Option Value} {q : Request} {ref : Ref}

/-- What is taken for a sequence is that sequence. -/
theorem Sequences.base_of_sequence? {kind : SequenceKind} (isSequence : sequence? kind base = some ref) :
    base = some (.sequence kind ref) := by
  unfold sequence? at isSequence
  split at isSequence
  · split at isSequence
    · rename_i same
      cases isSequence
      rw [same]
    · cases isSequence
  · cases isSequence

/-- What is taken for a record is that record. -/
theorem Records.base_of_record? (isRecord : record? base = some ref) : base = some (.record ref) := by
  unfold record? at isRecord
  split at isRecord
  · cases isRecord
    rfl
  · cases isRecord

/-- A request for a field of a class is on that class. -/
theorem Classes.base_of_claim (claimed : claim? q = some (.fieldOf ref)) :
    q.base = some (.classObject ref) := by
  simp only [claim?] at claimed
  split at claimed
  · split at claimed <;> cases claimed
  · cases claimed
  · rename_i other based
    cases claimed
    exact based
  · cases claimed

/-- A request for a color is on the marker of colors. -/
theorem Colors.base_of_claim (claimed : claim? q = some .palette) : q.base = some (.marker .colors) := by
  simp only [claim?] at claimed
  split at claimed
  · split at claimed <;> cases claimed
  · rename_i value based
    by_cases marked : value.isMarkerOf .colors = true
    · cases value with
      | marker issuer => cases issuer <;> simp_all [Value.isMarkerOf]
      | _ => cases marked
    · rw [if_neg marked] at claimed
      cases claimed

end Claimed

/-- A resolver leaves all four requests for a property to others. -/
structure StoreResolver.Declines (r : StoreResolver) (s : Store) (q : Request) : Prop where
  get : r.get s q = none
  type : r.type s q = none
  readOnly : r.readOnly s q = none
  target : r.target s q = none

namespace Stock

variable {r : Stock} {s : Store} {q : Request}

/-- What lies outside its domain a resolver leaves to others, whatever the store. -/
theorem declines (outside : r.takes q = false) : r.behaviour.Declines s q := by
  cases r with
  | locals scope =>
    have unnamed : q.rootName? = none := by simpa [takes] using outside
    constructor <;> simp only [behaviour, Locals.resolver, unnamed, Option.bind_none, Option.map_none]
  | maps readOnly =>
    have other : Maps.map? q.base = none := by simpa [takes] using outside
    constructor <;> simp only [behaviour, Maps.resolver, other, Option.map_none]
  | sequences kind readOnly =>
    have other : Sequences.sequence? kind q.base = none := by simpa [takes] using outside
    constructor <;> simp only [behaviour, Sequences.resolver, other, Option.map_none]
  | records readOnly =>
    have other : Records.record? q.base = none := by simpa [takes] using outside
    constructor <;> simp only [behaviour, Records.resolver, other, Option.map_none]
  | classes loader =>
    have other : Classes.claim? q = none := by simpa [takes] using outside
    constructor <;> simp only [behaviour, Classes.resolver, other, Option.map_none]
  | colors =>
    have other : Colors.claim? q = none := by simpa [takes] using outside
    constructor <;> simp only [behaviour, Colors.resolver, other, Option.map_none]
  | implicit root value =>
    have other : ¬ q.rootName? = some root := by simpa [takes] using outside
    constructor <;> simp only [behaviour, Implicit.resolver, if_neg other]

/-- What a resolver answers lies in its domain. -/
theorem takes_of_get {answer : Except Fault Value} (found : r.behaviour.get s q = some answer) :
    r.takes q = true := by
  cases outside : r.takes q with
  | true => rfl
  | false =>
    rw [(declines outside).get] at found
    cases found

/-- Within its domain a resolver answers every write, if only with a refusal. -/
theorem target_isSome (inside : r.takes q = true) : (r.behaviour.target s q).isSome = true := by
  cases r with
  | implicit root value =>
    have named : q.rootName? = some root := by simpa [takes] using inside
    simp only [behaviour, Implicit.resolver, if_pos named, Option.isSome_some]
  | _ => exact Option.isSome_map.trans inside

/-- On a base, the domain is that of the kind of resolver that answers for the base. -/
theorem takes_on {base property : Value} :
    r.takes (.on base property) = true ↔ ∃ k, base.governor? = some k ∧ r.kind? = some k := by
  have only {k : Kind} : (∃ k', base.governor? = some k' ∧ some k = some k')
      ↔ base.governor? = some k := by grind
  cases r with
  | locals scope =>
    have unclaimed : (locals scope).takes (.on base property) = false := rfl
    rw [unclaimed, kind?, only]
    exact iff_of_false Bool.false_ne_true Value.governor?_ne_locals
  | maps readOnly => exact Maps.isSome_map?.trans only.symm
  | sequences kind readOnly => exact Sequences.isSome_sequence?.trans only.symm
  | records readOnly => exact Records.isSome_record?.trans only.symm
  | classes loader => exact Classes.isSome_claim?.trans only.symm
  | colors => exact Colors.isSome_claim?.trans only.symm
  | implicit root value => simp [takes, kind?, Request.on, Request.rootName?]

/-- At the root, local variables take every name and the others their own. -/
theorem takes_root {name : String} :
    r.takes (.root name) = true ↔ r.kind? = some .locals ∨ r.root? = some name := by
  cases r with
  | locals scope => simp [takes, kind?, Request.root, Request.rootName?]
  | classes loader =>
    simp only [takes, kind?, root?, Classes.claim?, Request.root, Request.rootName?, Option.some.injEq]
    split <;> simp_all [eq_comm]
  | colors =>
    simp only [takes, kind?, root?, Colors.claim?, Request.root, Request.rootName?, Option.some.injEq]
    split <;> simp_all [eq_comm]
  | implicit root value => simp [takes, kind?, root?, Request.root, Request.rootName?, eq_comm]
  | _ => simp [takes, kind?, root?, Request.root, Maps.map?, Sequences.sequence?, Records.record?]

end Stock

end PropertyPath
