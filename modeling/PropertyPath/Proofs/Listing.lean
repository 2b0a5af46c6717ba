import Mathlib.Data.List.Nodup
import PropertyPath.Proofs.Coherence
import PropertyPath.Proofs.Decimals
import PropertyPath.Proofs.Domains
import PropertyPath.Proofs.Leaves

/-!
# Listed names and resolved names

Resolvers list the names they offer on a base, and they look names up; the one is no part of
the other. Yet what a stock resolver lists can be looked up and is of the listed type, and a
name that can be looked up is listed, unless it only could come into being. A sequence lists
its positions by their decimal digits, and other spellings of an index are looked up as well.

For a chain there is more to it, because listing puts together what all resolvers offer and
looking up stops at the first that claims the name. At the root whoever claims a name lists it.
On a value all resolvers that claim anything are of one kind, and those of one kind list the
same, but for namespaces of classes, which have loaders of their own. With one of these at most,
the first to list a name is the first to claim it.
-/

namespace PropertyPath

variable {ρ : Type}

/-- The name under which a base lists what a string denotes: a sequence lists an index by its
decimal digits, and every other base lists the string itself. -/
def Value.listedName? : Option Value → String → Option String
  | some (.sequence _ _), name => (Value.string name).index?.map fun i => toString i.toInt
  | _, name => some name

/-- All positions of a sequence are indices: a base that is a sequence has no more than 2 ^ 63
items. -/
def Store.Indexable (s : Store) (base : Option Value) : Prop :=
  ∀ kind ref, base = some (.sequence kind ref) → (s.items kind ref).length ≤ 2 ^ 63

/-- What a resolver lists for a base can be looked up there, and the other way round. -/
structure StoreResolver.Lists (r : StoreResolver) (s : Store) (base : Option Value) : Prop where
  resolves : ∀ feature ∈ r.features s base,
    r.type s ⟨base, .string feature.name⟩ = some (.ok feature.type)
  listed : ∀ name type, r.type s ⟨base, .string name⟩ = some (.ok type) → type ≠ .any →
    ∃ feature ∈ r.features s base, Value.listedName? base name = some feature.name

/-! ## Each resolver by itself -/

section Resolvers

variable {s : Store} {base : Option Value}

/-- A resolver that offers nothing on a base agrees with itself there. -/
theorem StoreResolver.Lists.of_nothing {r : StoreResolver} (empty : r.features s base = [])
    (silent : ∀ name, r.type s ⟨base, .string name⟩ = none) : r.Lists s base := by
  constructor
  · intro feature member
    rw [empty] at member
    cases member
  · intro name type found
    rw [silent] at found
    cases found

/-- Local variables are listed and looked up in one table. -/
theorem Locals.lists (scope : Ref) : (Locals.resolver scope).Lists s base := by
  cases base with
  | some value => exact .of_nothing rfl fun _ => rfl
  | none =>
    constructor
    · intro feature member
      obtain ⟨⟨name, value⟩, entry, rfl⟩ := List.mem_map.1 member
      change ((s.locals scope).get? name).map _ = _
      rw [Dictionary.get?_eq_some_iff.2 entry]
      rfl
    · intro name type found _
      change ((s.locals scope).get? name).map _ = some (Except.ok type) at found
      obtain ⟨value, present, _⟩ := Option.map_eq_some_iff.1 found
      exact ⟨_, List.mem_map_of_mem (Dictionary.get?_eq_some_iff.1 present), rfl⟩

/-- A map lists its keys. The others have any type, as they could come into being. -/
theorem Maps.lists (readOnly : Bool) : (Maps.resolver readOnly).Lists s base := by
  -- on anything but a map the resolver lists and answers nothing
  cases isMap : map? base with
  | none => exact .of_nothing (by simp only [resolver, isMap]) fun _ => by simp only [resolver, isMap]; rfl
  | some ref =>
    constructor
    · intro feature member
      simp only [resolver, isMap] at member ⊢
      obtain ⟨⟨name, value⟩, entry, rfl⟩ := List.mem_map.1 member
      change some (Except.ok ((((s.maps.get ref).get? name).map s.typeOf).getD .any)) = _
      rw [Dictionary.get?_eq_some_iff.2 entry]
      rfl
    · intro name type found known
      simp only [resolver, isMap] at found ⊢
      change some (Except.ok ((((s.maps.get ref).get? name).map s.typeOf).getD .any)) = _ at found
      cases present : (s.maps.get ref).get? name with
      -- what is missing could have any type, and that is the answer excluded
      | none =>
        rw [present] at found
        cases found
        exact absurd rfl known
      | some value =>
        refine ⟨_, List.mem_map_of_mem (Dictionary.get?_eq_some_iff.1 present), ?_⟩
        unfold map? at isMap
        split at isMap <;> cases isMap
        rfl

/-- A position is the index that its digits denote. -/
theorem Sequences.position_toString {n length : Nat} (inside : n < length) (small : length ≤ 2 ^ 63) :
    position s (.string (toString n)) length = .ok n := by
  have denotes : (Value.string (toString n)).index? = some (Int64.ofNat n) :=
    Value.index?_toString (by omega)
  have value : (Int64.ofNat n).toInt = n := Int64.toInt_ofNat_of_lt (by omega)
  have placed : position? (Int64.ofNat n) length = some n := by
    rw [position?, value, if_pos (by omega), Int.toNat_natCast]
  simp only [position, index, denotes, bind, Except.bind, placed, pure, Except.pure]

/-- A sequence lists its positions, however the index is spelled that is looked up. -/
theorem Sequences.lists (kind : SequenceKind) (readOnly : Bool) (indexable : s.Indexable base) :
    (Sequences.resolver kind readOnly).Lists s base := by
  cases isSequence : sequence? kind base with
  | none =>
    exact .of_nothing (by simp only [resolver, isSequence]) fun _ => by simp only [resolver, isSequence]; rfl
  | some ref =>
    have based : base = some (.sequence kind ref) := by
      unfold sequence? at isSequence
      split at isSequence
      · split at isSequence <;> cases isSequence
        rename_i same
        rw [same]
      · cases isSequence
    subst based
    -- positions that an index can denote, so their texts are read back as themselves
    have small : (s.items kind ref).length ≤ 2 ^ 63 := indexable kind ref rfl
    constructor
    · intro feature member
      simp only [resolver, isSequence] at member ⊢
      obtain ⟨n, inside, rfl⟩ := List.mem_mapIdx.1 member
      simp only [Option.map_some, position_toString inside small, bind, Except.bind, pure, Except.pure,
        List.getElem?_eq_getElem inside, Option.getD_some]
    · intro name type found _
      simp only [resolver, isSequence, Option.map_some] at found ⊢
      cases denotes : (Value.string name).index? with
      | none =>
        simp only [position, index, denotes, bind, Except.bind] at found
        cases found
      | some i =>
        simp only [position, index, denotes, bind, Except.bind] at found
        cases placed : position? i (s.items kind ref).length with
        | none =>
          rw [placed] at found
          cases found
        | some n =>
          have inside : n < (s.items kind ref).length := position?_lt placed
          have value : i.toInt = n := by
            simp only [position?, Option.ite_none_right_eq_some, Option.some.injEq] at placed
            omega
          -- the name may be any spelling of the position, which is listed in its usual one
          refine ⟨_, List.mem_mapIdx.2 ⟨n, inside, rfl⟩, ?_⟩
          rw [Value.listedName?, denotes, Option.map_some, value]
          rfl

/-- A record lists the properties it defines, and these are what is looked up. -/
theorem Records.lists (readOnly : Bool) : (Records.resolver readOnly).Lists s base := by
  cases isRecord : record? base with
  | none =>
    exact .of_nothing (by simp only [resolver, isRecord]) fun _ => by simp only [resolver, isRecord]; rfl
  | some ref =>
    constructor
    · intro feature member
      simp only [resolver, isRecord] at member ⊢
      obtain ⟨⟨name, property⟩, entry, rfl⟩ := List.mem_map.1 member
      have defined : (s.records.get ref).properties.get? name = some property :=
        Roster.get?_eq_some_iff.2 entry
      simp only [Option.map_some, Records.property, Value.key?, Option.bind_some, defined, bind, Except.bind,
        pure, Except.pure]
    · intro name type found _
      simp only [resolver, isRecord] at found ⊢
      cases defined : (s.records.get ref).properties.get? name with
      | none =>
        simp only [Option.map_some, Records.property, Value.key?, Option.bind_some, defined] at found
        cases found
      | some property =>
        -- what is looked up stands in the roster, and the base is the record
        refine ⟨_, List.mem_map_of_mem (Roster.get?_eq_some_iff.1 defined), ?_⟩
        unfold record? at isRecord
        split at isRecord <;> cases isRecord
        rfl

/-- An implicit object lists its one name. -/
theorem Implicit.lists (root : String) (value : Value) : (Implicit.resolver root value).Lists s base := by
  cases base with
  | some other => exact .of_nothing rfl fun _ => rfl
  | none =>
    constructor
    · intro feature member
      rw [List.mem_singleton.1 member]
      simp only [resolver, Request.rootName?, if_true]
    · intro name type found _
      simp only [resolver, Request.rootName?, Option.some.injEq, Option.ite_none_right_eq_some] at found ⊢
      exact ⟨_, List.mem_singleton.2 rfl, congrArg some found.1⟩

/-- The names of the palette are those that name a color. -/
theorem Color.mem_names {name : String} : name ∈ names ↔ (named? name).isSome = true := by
  simp only [names, List.mem_mergeSort, named?, List.findSome?_isSome_iff, List.mem_flatMap,
    List.mem_cons, List.not_mem_nil, or_false]
  constructor
  · rintro ⟨entry, member, either⟩
    exact ⟨entry, member, by rw [if_pos either]; rfl⟩
  · rintro ⟨entry, member, applies⟩
    refine ⟨entry, member, ?_⟩
    by_contra neither
    rw [if_neg neither] at applies
    cases applies

/-- The namespace of colors lists its root, and the palette behind it. -/
theorem Colors.lists : Colors.resolver.Lists s base := by
  cases base with
  | none =>
    constructor
    · intro feature member
      rw [List.mem_singleton.1 member]
      rfl
    · intro name type found _
      have isRoot : name = root := by
        by_contra other
        simp [resolver, claim?, Request.rootName?, other] at found
      exact ⟨_, List.mem_singleton.2 rfl, congrArg some isRoot⟩
  | some value =>
    by_cases marker : value.isMarkerOf .colors = true
    · constructor
      · intro feature member
        simp only [resolver, marker, if_true] at member
        obtain ⟨name, inPalette, rfl⟩ := List.mem_map.1 member
        obtain ⟨color, named⟩ := Option.isSome_iff_exists.1 (Color.mem_names.1 inPalette)
        simp [resolver, claim?, marker, lookup, Value.key?, named, Except.map]
      · intro name type found _
        cases named : Color.named? name with
        | none => simp [resolver, claim?, marker, lookup, Value.key?, named, Except.map] at found
        | some color =>
          have inPalette : name ∈ Color.names := Color.mem_names.2 (by rw [named]; rfl)
          refine ⟨⟨name, .color, "", name, true, true⟩, ?_, ?_⟩
          · simp only [resolver, marker, if_true]
            exact List.mem_map.2 ⟨name, inPalette, rfl⟩
          · cases value <;> simp_all [Value.listedName?, Value.isMarkerOf]
    -- any other base is not the namespace's
    · exact .of_nothing (by simp [resolver, marker]) fun _ => by simp [resolver, claim?, marker]

/-- A loader lists the names of the classes that it loads. -/
theorem Classes.Loader.mem_names {loader : Classes.Loader} {name : String} :
    name ∈ loader.names s ↔ (loader.load? s name).isSome = true := by
  cases loader with
  | disabled => simp [names, load?]
  | registry ref =>
    rw [names, load?, Dictionary.names, Option.isSome_iff_exists]
    constructor
    · intro member
      obtain ⟨⟨_, loaded⟩, entry, rfl⟩ := List.mem_map.1 member
      exact ⟨loaded, Dictionary.get?_eq_some_iff.2 entry⟩
    · rintro ⟨loaded, present⟩
      exact List.mem_map.2 ⟨_, Dictionary.get?_eq_some_iff.1 present, rfl⟩

/-- The namespace of classes lists its root, behind it the classes that can be loaded, and on a
class the fields of the class itself. -/
theorem Classes.lists (loader : Classes.Loader) : (Classes.resolver loader).Lists s base := by
  cases base with
  | none =>
    constructor
    · intro feature member
      rw [List.mem_singleton.1 member]
      rfl
    · intro name type found _
      -- at the root nothing but the one name is answered for
      have isRoot : name = root := by
        by_contra other
        simp [resolver, claim?, Request.rootName?, other] at found
      exact ⟨_, List.mem_singleton.2 rfl, congrArg some isRoot⟩
  | some value =>
    cases value with
    | marker issuer =>
      cases issuer with
      | colors => exact .of_nothing rfl fun _ => rfl
      | classes =>
        constructor
        · intro feature member
          obtain ⟨name, known, rfl⟩ := List.mem_map.1 member
          obtain ⟨ref, loaded⟩ := Option.isSome_iff_exists.1 (Loader.mem_names.1 known)
          simp only [resolver, claim?, Option.map_some, load, Value.key?, Option.getD_some, loaded, Except.map]
        · intro name type found _
          cases loaded : loader.load? s name with
          | none =>
            simp only [resolver, claim?, Option.map_some, load, Value.key?, Option.getD_some, loaded] at found
            cases found
          | some ref =>
            have known : name ∈ loader.names s := Loader.mem_names.2 (by rw [loaded]; rfl)
            exact ⟨_, List.mem_map_of_mem known, rfl⟩
    | classObject ref =>
      constructor
      · intro feature member
        obtain ⟨⟨name, field⟩, entry, rfl⟩ := List.mem_map.1 member
        obtain ⟨entry, own⟩ := List.mem_filter.1 entry
        have defined : (s.classes.get ref).fields.get? name = some field := Roster.get?_eq_some_iff.2 entry
        -- a field that is listed is the class's own, so looking it up finds the same one
        have reached : (s.classes.get ref).staticField? name = some field :=
          Option.filter_eq_some_iff.2 ⟨defined, own⟩
        simp only [resolver, claim?, Option.map_some, Classes.field, Value.key?, Option.getD_some, reached,
          Except.map]
      · intro name type found _
        cases reached : (s.classes.get ref).staticField? name with
        | none =>
          simp only [resolver, claim?, Option.map_some, Classes.field, Value.key?, Option.getD_some,
            reached] at found
          cases found
        | some field =>
          -- and a field that is looked up passes the filter of the listing
          obtain ⟨defined, own⟩ := Option.filter_eq_some_iff.1 reached
          have entry : (name, field) ∈ (s.classes.get ref).fields.entries := Roster.get?_eq_some_iff.1 defined
          exact ⟨_, List.mem_map_of_mem (List.mem_filter.2 ⟨entry, own⟩), rfl⟩
    | _ => exact .of_nothing rfl fun _ => rfl

/-- What a stock resolver lists is what it can look up. -/
theorem Stock.lists (r : Stock) (indexable : s.Indexable base) : r.behaviour.Lists s base := by
  cases r with
  | locals scope => exact Locals.lists scope
  | maps readOnly => exact Maps.lists readOnly
  | sequences kind readOnly => exact Sequences.lists kind readOnly indexable
  | records readOnly => exact Records.lists readOnly
  | classes loader => exact Classes.lists loader
  | colors => exact Colors.lists
  | implicit root value => exact Implicit.lists root value

/-- The names of a palette differ, in either spelling. -/
theorem Color.names_nodup : names.Nodup := by
  rw [names, (List.mergeSort_perm _ _).nodup_iff]
  decide

/-- No stock resolver lists a name twice. -/
theorem Stock.features_nodup (r : Stock) : ((r.behaviour.features s base).map (·.name)).Nodup := by
  cases r with
  | locals scope =>
    cases base with
    | some value => exact List.nodup_nil
    | none =>
      change (((s.locals scope).entries.map _).map _).Nodup
      rw [List.map_map]
      -- a dictionary has each key once, and this is part of its type
      exact (s.locals scope).distinct
  | maps readOnly =>
    simp only [behaviour, Maps.resolver]
    cases Maps.map? base with
    | none => exact List.nodup_nil
    | some ref =>
      rw [List.map_map]
      exact (s.maps.get ref).distinct
  | sequences kind readOnly =>
    simp only [behaviour, Sequences.resolver]
    cases Sequences.sequence? kind base with
    | none => exact List.nodup_nil
    | some ref =>
      -- the names of items are the numerals of their positions, which differ as the positions do
      have positions : ((s.items kind ref).mapIdx fun i item =>
          ({ name := toString i, type := s.typeOf item } : Feature)).map (·.name)
          = (List.range' 0 (s.items kind ref).length).map toString := by
        rw [List.mapIdx_eq_zipIdx_map, List.map_map, ← List.zipIdx_map_snd, List.map_map]
        rfl
      rw [positions]
      exact List.Nodup.map (fun _ _ => Reading.eq_of_toString_eq) (List.nodup_range' ..)
  | records readOnly =>
    simp only [behaviour, Records.resolver]
    cases Records.record? base with
    | none => exact List.nodup_nil
    | some ref =>
      rw [List.map_map]
      exact (s.records.get ref).properties.distinct
  | classes loader =>
    cases base with
    | none => exact List.nodup_singleton _
    | some value =>
      cases value with
      | marker issuer =>
        cases issuer with
        | colors => exact List.nodup_nil
        | classes =>
          change ((loader.names s).map _ |>.map _).Nodup
          rw [List.map_map]
          cases loader with
          | disabled => exact List.nodup_nil
          | registry ref =>
            have same :
                (Classes.Loader.registry ref).names s = ((s.registries.get ref).entries.map Prod.fst) := rfl
            rw [same, List.map_map]
            exact (s.registries.get ref).distinct
      | classObject ref =>
        change (((s.classes.get ref).fields.entries.filter _).map _ |>.map _).Nodup
        rw [List.map_map]
        exact (s.classes.get ref).fields.distinct.sublist (List.filter_sublist.map Prod.fst)
      | _ => exact List.nodup_nil
  | colors =>
    cases base with
    | none => exact List.nodup_singleton _
    | some value =>
      simp only [behaviour, Colors.resolver]
      split
      · rw [List.map_map]
        exact (List.map_id Color.names).symm ▸ Color.names_nodup
      · exact List.nodup_nil
  | implicit root value =>
    cases base with
    | some other => exact List.nodup_nil
    | none => exact List.nodup_singleton _

end Resolvers

/-! ## Resolvers in order -/

/-- The type of a value is never left open. -/
theorem Store.typeOf_ne_any {s : Store} {v : Value} : s.typeOf v ≠ .any := by
  cases v <;> simp [typeOf]

namespace Stock

variable {s : Store} {base : Option Value} {r other : Stock} {name : String} {q : Request}
  {answer : Except Fault ValueType}

/-- Whose type a resolver answers lies in its domain. -/
theorem takes_of_type (claimed : r.behaviour.type s q = some answer) : r.takes q = true := by
  by_contra outside
  rw [(declines (Bool.eq_false_iff.2 outside)).type] at claimed
  cases claimed

/-- At the root every answer is a definite type. -/
theorem type_root (claimed : r.behaviour.type s (.root name) = some answer) :
    ∃ type, answer = .ok type ∧ type ≠ .any := by
  cases r with
  | locals scope =>
    change ((s.locals scope).get? name).map _ = _ at claimed
    obtain ⟨value, _, rfl⟩ := Option.map_eq_some_iff.1 claimed
    exact ⟨_, rfl, Store.typeOf_ne_any⟩
  | implicit root value =>
    simp only [behaviour, Implicit.resolver, Option.ite_none_right_eq_some, Option.some.injEq] at claimed
    exact ⟨_, claimed.2.symm, Store.typeOf_ne_any⟩
  | classes loader =>
    simp only [behaviour, Classes.resolver, Classes.claim?, Request.root] at claimed
    split at claimed <;> cases claimed
    refine ⟨_, rfl, fun any => ?_⟩
    cases any
  | colors =>
    simp only [behaviour, Colors.resolver, Colors.claim?, Request.root] at claimed
    split at claimed <;> cases claimed
    refine ⟨_, rfl, fun any => ?_⟩
    cases any
  | _ => cases claimed

/-- Resolvers of one kind list the same on a value. Namespaces of classes may differ in their
loaders. -/
theorem features_eq_of_kind {value : Value} {k : Kind} (kind : r.kind? = some k)
    (kind' : other.kind? = some k) (notClasses : k ≠ .classes) :
    r.behaviour.features s (some value) = other.behaviour.features s (some value) := by
  cases r <;> cases other <;> simp only [kind?] at kind kind' <;> cases kind <;> cases kind'
  case classes => exact absurd rfl notClasses
  all_goals rfl

/-- A resolver that claims a name in a chain with another that lists it lists it as well, if at
most one of the two is a namespace of classes. -/
theorem exists_feature_of_claimed {feature : Feature}
    (claimed : other.behaviour.type s ⟨base, .string name⟩ = some answer)
    (listed : feature ∈ r.behaviour.features s base)
    (resolved : r.behaviour.type s ⟨base, .string name⟩ = some (.ok feature.type))
    (named : feature.name = name) (single : ¬ (other.kind? = some .classes ∧ r.kind? = some .classes)) :
    ∃ found ∈ other.behaviour.features s base, found.name = name := by
  cases base with
  | none =>
    obtain ⟨type, rfl, known⟩ := type_root claimed
    have indexable : s.Indexable none := nofun
    obtain ⟨found, member, same⟩ := (other.lists indexable).listed name type claimed known
    exact ⟨found, member, (Option.some.inj same).symm⟩
  | some value =>
    obtain ⟨k, governor, kind⟩ := takes_on.1 (takes_of_type claimed)
    obtain ⟨k', governor', kind'⟩ := takes_on.1 (takes_of_type resolved)
    cases governor.symm.trans governor'
    have notClasses : k ≠ .classes := by
      rintro rfl
      exact single ⟨kind, kind'⟩
    rw [features_eq_of_kind kind kind' notClasses]
    exact ⟨feature, listed, named⟩

/-- The first to list a name is the first to claim it. -/
theorem type_of_first_listed {rs : List Stock} {feature : Feature}
    (single : rs.countP (·.kind? = some .classes) ≤ 1) (indexable : s.Indexable base)
    (first : (rs.flatMap (·.behaviour.features s base)).find? (·.name = name) = some feature) :
    rs.findSome? (·.behaviour.type s ⟨base, .string name⟩) = some (.ok feature.type) := by
  rw [List.find?_flatMap] at first
  obtain ⟨before, r, after, rfl, here, passed⟩ := List.findSome?_eq_some_iff.1 first
  have listed : feature ∈ r.behaviour.features s base := List.mem_of_find?_eq_some here
  have named : feature.name = name := by simpa using List.find?_some here
  have resolved : r.behaviour.type s ⟨base, .string name⟩ = some (.ok feature.type) := by
    rw [← named]
    exact (r.lists indexable).resolves feature listed
  refine List.findSome?_eq_some_iff.2 ⟨before, r, after, rfl, resolved, fun other earlier => ?_⟩
  -- a resolver before the first to list the name does not claim it, or it would list it as well
  cases claimed : other.behaviour.type s ⟨base, .string name⟩ with
  | none => rfl
  | some answer =>
    have apart : ¬ (other.kind? = some .classes ∧ r.kind? = some .classes) := by
      rintro ⟨kind, kind'⟩
      have some_before : 0 < before.countP (·.kind? = some .classes) :=
        List.countP_pos_iff.2 ⟨other, earlier, by simpa using kind⟩
      rw [List.countP_append, List.countP_cons_of_pos (by simpa using kind')] at single
      omega
    obtain ⟨found, member, same⟩ := exists_feature_of_claimed claimed listed resolved named apart
    have missed := List.find?_eq_none.1 (passed other earlier) found member
    exact absurd (decide_eq_true same) missed

/-- Of the names that resolvers in order can look up, those of a definite type are listed. -/
theorem listed_of_type {rs : List Stock} {type : ValueType} (indexable : s.Indexable base)
    (found : rs.findSome? (·.behaviour.type s ⟨base, .string name⟩) = some (.ok type)) (known : type ≠ .any) :
    ∃ feature ∈ rs.flatMap (·.behaviour.features s base),
      Value.listedName? base name = some feature.name := by
  obtain ⟨r, member, here⟩ := List.exists_of_findSome?_eq_some found
  obtain ⟨feature, listed, same⟩ := (r.lists indexable).listed name type here known
  exact ⟨feature, List.mem_flatMap.2 ⟨r, member, listed⟩, same⟩

end Stock

namespace Assembly

/-- In a chain of stock resolvers with at most one namespace of classes, in whatever order and
nesting, listing and looking up agree on every base, the root included. The first feature of a
name has the type that the chain answers for that name, and the name can be read. A name of a
definite type is listed, an index under its decimal digits. Neither request changes anything,
and no resolver by itself lists a name twice.

Proof: features and answers are both collected from the leaves in order. The first leaf to list a
name resolves it, and a leaf before it does not claim the name, or it would list the name as
well; two namespaces of classes could break this, so there is one at most. -/
theorem listed_names_resolve (members : List Assembly)
    (single : (leavesOf members).countP (·.kind? = some .classes) ≤ 1) (w : World ρ)
    (base : Option Value) (indexable : w.store.Indexable base) :
    let c : Resolver ρ := (chain members).toResolver
    ∃ features, (c.features base).outcome w = (features, w) ∧
      (∀ name feature, features.find? (·.name = name) = some feature →
        (c.type ⟨base, .string name⟩).outcome w = (some (.ok feature.type), w) ∧
        ∃ value, (c.get ⟨base, .string name⟩).outcome w = (some (.ok value), w)) ∧
      (∀ name type, (c.type ⟨base, .string name⟩).outcome w = (some (.ok type), w) → type ≠ .any →
        ∃ feature ∈ features, Value.listedName? base name = some feature.name) ∧
      ∀ r : Stock, (((r.resolver.features base : Action ρ (List Feature)).outcome w).1.map (·.name)).Nodup := by
  intro c
  have same : c = (behaviour (.nested members)).toResolver := toResolver_chain members
  rw [same]
  refine ⟨_, StoreResolver.outcome_features .., ?_, ?_, fun r => r.features_nodup⟩
  · intro name feature first
    rw [features_eq_leaves] at first
    have typed := Stock.type_of_first_listed single indexable first
    rw [← type_eq_leaves] at typed
    have answers := (coherent (.nested members)).types w.store ⟨base, .string name⟩
    rw [typed] at answers
    rw [StoreResolver.outcome_type, StoreResolver.outcome_get, typed]
    refine ⟨rfl, ?_⟩
    generalize (behaviour (.nested members)).get w.store ⟨base, .string name⟩ = read at answers
    generalize feature.type = type at answers
    cases answers with
    | some related => cases related <;> exact ⟨_, rfl⟩
  · intro name type found known
    rw [StoreResolver.outcome_type, Prod.mk.injEq, type_eq_leaves] at found
    rw [features_eq_leaves]
    exact Stock.listed_of_type indexable found.1 known

/-- Classes, and behind them colors and lists in a chain of their own. -/
def classesBeforeLists : List Assembly :=
  [.stock (.classes (.registry ⟨0⟩)), .nested [.stock .colors, .stock (.sequences .list true)]]

/-- A world with one list, of null and a number. -/
def listWorld : World Unit := ⟨(({} : Store).newSequence .list [.null, .integer 7]).2, ()⟩

/-- The list lists its second position, so its type can be asked for under that name. -/
theorem second_position_resolves :
    (leavesOf classesBeforeLists).countP (·.kind? = some .classes) ≤ 1 ∧
    listWorld.store.Indexable (some (.sequence .list ⟨0⟩)) ∧
    (((chain classesBeforeLists).toResolver : Resolver Unit).type
      ⟨some (.sequence .list ⟨0⟩), .string "1"⟩).outcome listWorld = (some (.ok .number), listWorld) := by
  have single : (leavesOf classesBeforeLists).countP (·.kind? = some .classes) ≤ 1 := by
    change [Stock.classes (.registry ⟨0⟩), .colors, .sequences .list true].countP _ ≤ 1
    decide
  have indexable : listWorld.store.Indexable (some (.sequence .list ⟨0⟩)) := by
    rintro kind ref ⟨⟩
    change [Value.null, .integer 7].length ≤ 2 ^ 63
    decide
  obtain ⟨features, listed, resolves, _⟩ :=
    listed_names_resolve classesBeforeLists single listWorld (some (.sequence .list ⟨0⟩)) indexable
  have positions : features = [{ name := "0", type := .null }, { name := "1", type := .number }] :=
    (congrArg Prod.fst listed).symm
  refine ⟨single, indexable, (resolves "1" { name := "1", type := .number } ?_).1⟩
  rw [positions]
  decide

end Assembly

end PropertyPath
