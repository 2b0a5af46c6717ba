import PropertyPath.Resolver.Basic

/-!
# Resolvers of roots

Local variables answer for the names they hold and accept every write at the
root. An implicit object is one fixed value under one name. The namespaces of
classes and colors span several requests: their root is a marker, and a marker or
a class as the base belongs to them, so what they do not know is a fault and is
never left to others.
-/

namespace PropertyPath

namespace Locals

/-- The local variables of a scope. -/
def resolver (scope : Ref) : StoreResolver where
  name := "local_variables"
  get s q := q.rootName?.bind fun name => ((s.locals scope).get? name).map .ok
  type s q := q.rootName?.bind fun name =>
    ((s.locals scope).get? name).map fun value => .ok (s.typeOf value)
  readOnly _ q := q.rootName?.map fun _ => .ok false
  target _ q := q.rootName?.map fun name => .ok (.localVariable scope name)
  features s base :=
    match base with
    | some _ => []
    | none => (s.locals scope).entries.map fun (name, value) =>
      { name, type := s.typeOf value, description := "local variable" }
  commonType base := if base.isNone then some .string else none

end Locals

namespace Implicit

/-- A fixed value under a root name. -/
def resolver (root : String) (value : Value) : StoreResolver where
  name := root
  get _ q := if q.rootName? = some root then some (.ok value) else none
  type s q := if q.rootName? = some root then some (.ok (s.typeOf value)) else none
  readOnly _ q := if q.rootName? = some root then some (.ok true) else none
  target _ q :=
    if q.rootName? = some root then some (.error (.notWritable (.implicitObject root))) else none
  features s base :=
    match base with
    | some _ => []
    | none => [{ name := root, type := s.typeOf value, description := "implicit object" }]
  commonType _ := none

end Implicit

namespace Colors

/-- The root name of the namespace. -/
def root : String := "Color"

/-- Whether a request is about the root or about a name in the palette. -/
inductive Claim where
  | root
  | palette

/-- What a request asks of the namespace. -/
def claim? (q : Request) : Option Claim :=
  match q.base with
  | none => if q.rootName? = some root then some .root else none
  | some base => if base.isMarkerOf .colors then some .palette else none

/-- The color a property names, or the fault that there is none. A property
without a textual key names the color with the empty name. -/
def lookup (property : Value) : Except Fault Color :=
  let name := property.key?.getD ""
  match Color.named? name with
  | some color => .ok color
  | none => .error (.notFound (.color name))

/-- The named colors behind their root. -/
def resolver : StoreResolver where
  name := "color_namespace"
  get _ q := (claim? q).map fun
    | .root => .ok (.marker .colors)
    | .palette => (lookup q.property).map .color
  type _ q := (claim? q).map fun
    | .root => .ok (.marker .colors)
    | .palette => (lookup q.property).map fun _ => .color
  readOnly _ q := (claim? q).map fun
    | .root => .ok true
    | .palette => (lookup q.property).map fun _ => true
  target s q := (claim? q).map fun
    | .root => .error (.notWritable (.colorConstant (s.text q.property)))
    | .palette => do
      let _ ← lookup q.property
      throw (.notWritable (.colorConstant (s.text q.property)))
  features _ base :=
    match base with
    | none => [{ name := root, type := .marker .colors, description := "named colors" }]
    | some base =>
      if base.isMarkerOf .colors then Color.names.map fun name => { name, type := .color } else []
  commonType base :=
    match base with
    | none => some .string
    | some base => if base.isMarkerOf .colors then some .string else none

end Colors

namespace Classes

/-- The root name of the namespace. -/
def root : String := "Class"

/-- Where classes come from: nowhere, or a registry as it stands at each request. -/
inductive Loader where
  | disabled
  | registry (ref : Ref)
  deriving DecidableEq, Repr

/-- The class of a name. -/
def Loader.load? (s : Store) : Loader → String → Option Ref
  | .disabled, _ => none
  | .registry ref, name => (s.registries.get ref).get? name

/-- The names of all classes, in increasing order. -/
def Loader.names (s : Store) : Loader → List String
  | .disabled => []
  | .registry ref => (s.registries.get ref).names

/-- Whether a request is about the root, the name of a class or a field of one. -/
inductive Claim where
  | root
  | namespaceEntry
  | fieldOf (classRef : Ref)

/-- What a request asks of the namespace. -/
def claim? (q : Request) : Option Claim :=
  match q.base with
  | none => if q.rootName? = some root then some .root else none
  | some (.marker .classes) => some .namespaceEntry
  | some (.classObject ref) => some (.fieldOf ref)
  | some _ => none

/-- The class a property names, or the fault that there is none. A property
without a textual key names the class with the empty name. -/
def load (loader : Loader) (s : Store) (property : Value) : Except Fault Ref :=
  let name := property.key?.getD ""
  match loader.load? s name with
  | some ref => .ok ref
  | none => .error (.notFound (.className name))

/-- The field of the class itself that a property names, or the fault that there
is none. -/
def field (s : Store) (ref : Ref) (property : Value) : Except Fault (String × Field) :=
  let name := property.key?.getD ""
  match (s.classes.get ref).staticField? name with
  | some field => .ok (name, field)
  | none => .error (.notFound (.field name (s.classes.get ref).name))

/-- The classes behind their root, and the fields of classes. -/
def resolver (loader : Loader) : StoreResolver where
  name := "class_namespace"
  get s q := (claim? q).map fun
    | .root => .ok (.marker .classes)
    | .namespaceEntry => (load loader s q.property).map .classObject
    | .fieldOf ref => (field s ref q.property).map fun (_, field) => field.value
  type s q := (claim? q).map fun
    | .root => .ok (.marker .classes)
    | .namespaceEntry => (load loader s q.property).map fun _ => .classObject
    | .fieldOf ref => (field s ref q.property).map fun (_, field) => s.typeOf field.value
  readOnly s q := (claim? q).map fun
    | .root | .namespaceEntry => .ok true
    | .fieldOf ref => (field s ref q.property).map fun (_, field) => !field.isAssignable
  target s q := (claim? q).map fun
    | .root => .error (.notWritable .classRoot)
    | .namespaceEntry => .error (.notWritable (.classNamespace (s.text q.property)))
    | .fieldOf ref => do
      let (name, field) ← field s ref q.property
      if field.isAssignable then return .field ref name
      else throw (.notWritable (.finalField (s.classes.get ref).name (s.text q.property)))
  features s base :=
    match base with
    | none => [{ name := root, type := .marker .classes, description := "class namespace" }]
    | some (.marker .classes) => (loader.names s).map fun name => { name, type := .classObject }
    | some (.classObject ref) =>
      ((s.classes.get ref).fields.entries.filter (·.2.isStatic)).map fun (name, field) =>
        { name
          type := s.typeOf field.value
          description := if field.isFinal then "static final field" else "static field" }
    | some _ => []
  commonType base :=
    match base with
    | none | some (.classObject _) | some (.marker .classes) => some .string
    | some _ => none

end Classes

end PropertyPath
