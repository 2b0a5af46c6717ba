import PropertyPath.Table.Arena
import PropertyPath.Table.Dictionary
import PropertyPath.Table.Roster
import PropertyPath.Value.Basic

/-!
# The store

The store holds the contents of everything that values and resolvers share:
sequences, maps, records, classes, scopes of local variables and class
registries. A `Slot` is one place in it that an assignment can change.
-/

namespace PropertyPath

/-- A property of a record: its value, and whether it has a setter. -/
structure Property where
  value : Value
  writable : Bool
  deriving Inhabited

/-- An object-like value with named properties of a named type. -/
structure Record where
  typeName : String := ""
  properties : Roster Property := .empty
  deriving Inhabited

namespace Record

/-- Defines a property, after every property already there. -/
def define (r : Record) (name : String) (value : Value) (writable : Bool) : Record :=
  { r with properties := r.properties.define name ⟨value, writable⟩ }

/-- The property names in order of their last definition. -/
def names (r : Record) : List String := r.properties.names

/-- The value of a property. -/
def get? (r : Record) (name : String) : Option Value := (r.properties.get? name).map (·.value)

/-- Whether a property is defined. -/
def has (r : Record) (name : String) : Bool := (r.get? name).isSome

/-- Whether a property is defined and has a setter. -/
def isWritable (r : Record) (name : String) : Bool :=
  ((r.properties.get? name).map (·.writable)).getD false

/-- Stores a value under a name that is already defined. -/
def put (r : Record) (name : String) (value : Value) : Record :=
  { r with properties := r.properties.modify name fun p => { p with value } }

end Record

/-- How a field belongs to its class. Only the fields of the class itself are
reachable from a path; those of its instances are kept to be told apart. -/
inductive FieldKind where
  | variable
  | constant
  | perInstance
  deriving DecidableEq, Repr, Inhabited

/-- A field of a class. -/
structure Field where
  value : Value
  kind : FieldKind
  deriving Inhabited

namespace Field

/-- Whether the field belongs to the class itself. -/
def isStatic (f : Field) : Bool := f.kind != .perInstance

/-- Whether the field keeps its first value. -/
def isFinal (f : Field) : Bool := f.kind == .constant

/-- Whether the field belongs to the class and may change. -/
def isAssignable (f : Field) : Bool := f.isStatic && !f.isFinal

end Field

/-- A class with a qualified name and named fields. -/
structure ClassObject where
  name : String := ""
  fields : Roster Field := .empty
  deriving Inhabited

namespace ClassObject

/-- Defines a field, after every field already there. -/
def define (c : ClassObject) (name : String) (value : Value) (kind : FieldKind) : ClassObject :=
  { c with fields := c.fields.define name ⟨value, kind⟩ }

/-- The field of a name, whatever its kind. -/
def field? (c : ClassObject) (name : String) : Option Field := c.fields.get? name

/-- The field of a name if it belongs to the class itself. -/
def staticField? (c : ClassObject) (name : String) : Option Field :=
  (c.field? name).filter (·.isStatic)

/-- The names of the fields of the class itself, in order of definition. -/
def staticNames (c : ClassObject) : List String :=
  (c.fields.entries.filter (·.2.isStatic)).map Prod.fst

/-- Stores a value in a field that is already defined. -/
def put (c : ClassObject) (name : String) (value : Value) : ClassObject :=
  { c with fields := c.fields.modify name fun f => { f with value } }

end ClassObject

/-- The shared contents. A scope holds local variables; a registry holds
references to classes by their qualified names. -/
structure Store where
  lists : Arena (List Value) := {}
  arrays : Arena (List Value) := {}
  maps : Arena (Dictionary Value) := {}
  records : Arena Record := {}
  classes : Arena ClassObject := {}
  scopes : Arena (Dictionary Value) := {}
  registries : Arena (Dictionary Ref) := {}
  deriving Inhabited

/-- A place that an assignment can change. -/
inductive Slot where
  | localVariable (scope : Ref) (name : String)
  | entry (map : Ref) (key : String)
  | item (kind : SequenceKind) (sequence : Ref) (position : Nat)
  | property (record : Ref) (name : String)
  | field (classRef : Ref) (name : String)
  deriving DecidableEq

namespace Store

/-- The items of a sequence. -/
def items (s : Store) : SequenceKind → Ref → List Value
  | .list, ref => s.lists.get ref
  | .array, ref => s.arrays.get ref

/-- Replaces the items of a sequence. -/
def setItems (s : Store) (kind : SequenceKind) (ref : Ref) (items : List Value) : Store :=
  match kind with
  | .list => { s with lists := s.lists.set ref items }
  | .array => { s with arrays := s.arrays.set ref items }

/-- The local variables of a scope. -/
def locals (s : Store) (scope : Ref) : Dictionary Value := s.scopes.get scope

/-- Replaces all local variables of a scope. -/
def setLocals (s : Store) (scope : Ref) (locals : Dictionary Value) : Store :=
  { s with scopes := s.scopes.set scope locals }

/-- What a slot holds; nothing if there is no such item, entry or name. -/
def read? (s : Store) : Slot → Option Value
  | .localVariable scope name => (s.locals scope).get? name
  | .entry map key => (s.maps.get map).get? key
  | .item kind ref position => (s.items kind ref)[position]?
  | .property ref name => (s.records.get ref).get? name
  | .field ref name => ((s.classes.get ref).field? name).map (·.value)

/-- Stores a value in a slot. Local variables and map entries come into being;
items, properties and fields that do not exist stay absent. -/
def put (s : Store) (slot : Slot) (value : Value) : Store :=
  match slot with
  | .localVariable scope name => s.setLocals scope ((s.locals scope).insert name value)
  | .entry map key => { s with maps := s.maps.set map ((s.maps.get map).insert key value) }
  | .item kind ref position => s.setItems kind ref ((s.items kind ref).set position value)
  | .property ref name =>
    { s with records := s.records.set ref ((s.records.get ref).put name value) }
  | .field ref name =>
    { s with classes := s.classes.set ref ((s.classes.get ref).put name value) }

/-- A new sequence with the given items. -/
def newSequence (s : Store) (kind : SequenceKind) (items : List Value) : Value × Store :=
  match kind with
  | .list => (.sequence .list s.lists.next, { s with lists := s.lists.push items })
  | .array => (.sequence .array s.arrays.next, { s with arrays := s.arrays.push items })

/-- A new map with the given entries; the last entry of a key decides. -/
def newMap (s : Store) (entries : List (String × Value)) : Value × Store :=
  (.map s.maps.next, { s with maps := s.maps.push (Dictionary.ofList entries) })

/-- A new record. -/
def newRecord (s : Store) (record : Record) : Value × Store :=
  (.record s.records.next, { s with records := s.records.push record })

/-- A new scope without local variables. -/
def newScope (s : Store) : Ref × Store :=
  (s.scopes.next, { s with scopes := s.scopes.push .empty })

/-- A new registry without classes. -/
def newRegistry (s : Store) : Ref × Store :=
  (s.registries.next, { s with registries := s.registries.push .empty })

/-- Registers a new class in a registry, in place of a class of the same name. -/
def registerClass (s : Store) (registry : Ref) (c : ClassObject) : Ref × Store :=
  let ref := s.classes.next
  (ref, { s with
    classes := s.classes.push c
    registries := s.registries.set registry ((s.registries.get registry).insert c.name ref) })

/-- The type of a value. -/
def typeOf (s : Store) : Value → ValueType
  | .null => .null
  | .boolean _ => .boolean
  | .string _ => .string
  | .number _ => .number
  | .sequence kind _ => .sequence kind
  | .map _ => .map
  | .record ref => .record (s.records.get ref).typeName
  | .classObject _ => .classObject
  | .marker issuer => .marker issuer
  | .color _ => .color

/-- The items of a list or an array. -/
def sequenceItems? (s : Store) : Value → Option (List Value)
  | .sequence kind ref => some (s.items kind ref)
  | _ => none

end Store

end PropertyPath
