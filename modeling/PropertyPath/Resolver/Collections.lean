import PropertyPath.Resolver.Basic

/-!
# Resolvers of collections

Maps are keyed by text and a missing entry reads as null. Lists and arrays share
one rule for indices: reading outside the bounds gives null, every other request
outside them is a fault, and no write changes the length. Records answer for the
properties they define. Any of the three can be made read-only, which refuses
writes and leaves reading alone.
-/

namespace PropertyPath

namespace Maps

/-- The map a request is about. -/
def map? : Option Value → Option Ref
  | some (.map ref) => some ref
  | _ => none

/-- The key a property denotes, or the fault that it denotes none. -/
def key (s : Store) (property : Value) : Except Fault String :=
  match property.key? with
  | some key => .ok key
  | none => .error (.notFound (.mapKey (s.text property)))

/-- The entries of maps. -/
def resolver (readOnly : Bool) : StoreResolver where
  name := "map"
  get s q := (map? q.base).map fun ref => do
    let key ← key s q.property
    return ((s.maps.get ref).get? key).getD .null
  type s q := (map? q.base).map fun ref => do
    let key ← key s q.property
    return (((s.maps.get ref).get? key).map s.typeOf).getD .any
  readOnly _ q := (map? q.base).map fun _ => .ok readOnly
  target s q := (map? q.base).map fun ref =>
    if readOnly then .error (.notWritable (.readOnlyMap (s.text q.property)))
    else do return .entry ref (← key s q.property)
  features s base :=
    match map? base with
    | none => []
    | some ref => (s.maps.get ref).entries.map fun (key, value) =>
      { name := key, type := s.typeOf value }
  commonType base := (map? base).map fun _ => .any

end Maps

namespace Sequences

/-- The sequence of a kind that a request is about. -/
def sequence? (kind : SequenceKind) : Option Value → Option Ref
  | some (.sequence other ref) => if other = kind then some ref else none
  | _ => none

/-- The index a property denotes, or the fault that it denotes none. -/
def index (s : Store) (property : Value) : Except Fault Int64 :=
  match property.index? with
  | some index => .ok index
  | none => .error (.notFound (.index (s.text property)))

/-- The position of an index within a length. -/
def position? (index : Int64) (length : Nat) : Option Nat :=
  if 0 ≤ index.toInt ∧ index.toInt < length then some index.toInt.toNat else none

/-- The position a property denotes within a length, or the fault that there is
no such position. -/
def position (s : Store) (property : Value) (length : Nat) : Except Fault Nat := do
  let index ← index s property
  match position? index length with
  | some position => return position
  | none => throw (.notFound (.outOfBounds index length))

/-- The items of sequences of one kind. -/
def resolver (kind : SequenceKind) (readOnly : Bool) : StoreResolver where
  name := kind.text
  get s q := (sequence? kind q.base).map fun ref => do
    let index ← index s q.property
    let items := s.items kind ref
    return ((position? index items.length).bind (items[·]?)).getD .null
  type s q := (sequence? kind q.base).map fun ref => do
    let items := s.items kind ref
    let position ← position s q.property items.length
    return (items[position]?.map s.typeOf).getD .any
  readOnly s q := (sequence? kind q.base).map fun ref => do
    let _ ← position s q.property (s.items kind ref).length
    return readOnly
  target s q := (sequence? kind q.base).map fun ref =>
    if readOnly then .error (.notWritable (.readOnlySequence kind (s.text q.property)))
    else do return .item kind ref (← position s q.property (s.items kind ref).length)
  features s base :=
    match sequence? kind base with
    | none => []
    | some ref => (s.items kind ref).mapIdx fun i item =>
      { name := toString i, type := s.typeOf item }
  commonType base := (sequence? kind base).map fun _ => .number

end Sequences

namespace Records

/-- The record a request is about. -/
def record? : Option Value → Option Ref
  | some (.record ref) => some ref
  | _ => none

/-- The property of a record that a request names, or the fault that the record
does not define it. -/
def property (s : Store) (ref : Ref) (property : Value) : Except Fault (String × Property) :=
  let record := s.records.get ref
  match property.key?.bind fun name => (record.properties.get? name).map (name, ·) with
  | some found => .ok found
  | none => .error (.notFound (.propertyOfRecord (s.text property) record.typeName))

/-- Stores a value in a property with a setter. -/
def assign (r : Record) (name : String) (value : Value) : Except Fault Record :=
  match r.properties.get? name with
  | none => .error (.notFound (.recordName r.typeName name))
  | some property =>
    if property.writable then .ok (r.put name value)
    else .error (.notWritable (.noSetter r.typeName name))

/-- The properties of records. -/
def resolver (readOnly : Bool) : StoreResolver where
  name := "record"
  get s q := (record? q.base).map fun ref => do
    let (_, property) ← property s ref q.property
    return property.value
  type s q := (record? q.base).map fun ref => do
    let (_, property) ← property s ref q.property
    return s.typeOf property.value
  readOnly s q := (record? q.base).map fun ref => do
    let (_, property) ← property s ref q.property
    return readOnly || !property.writable
  target s q := (record? q.base).map fun ref =>
    if readOnly then .error (.notWritable (.readOnlyRecord (s.text q.property)))
    else do
      let (name, property) ← property s ref q.property
      if property.writable then return .property ref name
      else throw (.notWritable (.readOnlyProperty name (s.records.get ref).typeName))
  features s base :=
    match record? base with
    | none => []
    | some ref => (s.records.get ref).properties.entries.map fun (name, property) =>
      { name
        type := s.typeOf property.value
        description := if property.writable then "read-write property" else "read-only property" }
  commonType base := (record? base).map fun _ => .string

end Records

end PropertyPath
