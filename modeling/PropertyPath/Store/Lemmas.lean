import PropertyPath.Store.Basic

/-!
# Slots under assignment

Storing a value in a slot makes that slot read as the value and leaves every other
slot as it was. Local variables and map entries come into being when they are
stored; the other slots read as the value only if they existed before.
-/

namespace PropertyPath

namespace Record

/-- A write defines no property and moves none. -/
@[simp] theorem names_put (r : Record) (name : String) (value : Value) :
    (r.put name value).names = r.names :=
  Roster.names_modify ..

/-- A write leaves the type of the record. -/
@[simp] theorem typeName_put (r : Record) (name : String) (value : Value) :
    (r.put name value).typeName = r.typeName := rfl

/-- A write replaces the value of its own name, if that is defined, and of no other. -/
theorem get?_put (r : Record) (name : String) (value : Value) (other : String) :
    (r.put name value).get? other
      = if other = name then (r.get? name).map fun _ => value else r.get? other := by
  simp only [get?, put, Roster.get?_modify]
  split
  · simp only [Option.map_map, Function.comp_def]
  · rfl

/-- A write leaves the setters of all properties as they were. -/
@[simp] theorem isWritable_put (r : Record) (name : String) (value : Value) (other : String) :
    (r.put name value).isWritable other = r.isWritable other := by
  simp only [isWritable, put, Roster.get?_modify]
  split
  · rename_i same
    simp only [same, Option.map_map, Function.comp_def]
  · rfl

end Record

namespace ClassObject

/-- A write replaces the value of a field and keeps its kind; other fields are as they were. -/
theorem field?_put (c : ClassObject) (name : String) (value : Value) (other : String) :
    (c.put name value).field? other
      = if other = name then (c.field? name).map fun f => { f with value } else c.field? other :=
  Roster.get?_modify ..

/-- A write leaves the name of the class. -/
@[simp] theorem name_put (c : ClassObject) (name : String) (value : Value) :
    (c.put name value).name = c.name := rfl

end ClassObject

namespace Store

/-- A sequence has the items that were stored for it. -/
@[simp] theorem items_setItems_self (s : Store) (kind : SequenceKind) (ref : Ref)
    (items : List Value) : (s.setItems kind ref items).items kind ref = items := by
  cases kind <;> simp [setItems, Store.items]

/-- Any other sequence keeps its items, and so does one of the other kind at the same reference. -/
theorem items_setItems_of_ne (s : Store) {kind otherKind : SequenceKind} {ref otherRef : Ref}
    (distinct : (otherKind, otherRef) ≠ (kind, ref)) (items : List Value) :
    (s.setItems kind ref items).items otherKind otherRef = s.items otherKind otherRef := by
  cases kind <;> cases otherKind <;> simp only [setItems, Store.items] <;>
    exact Arena.get_set_of_ne _ (by simpa using distinct) _

/-- A write changes no slot but its own. -/
theorem read?_put_of_ne (s : Store) {slot other : Slot} (distinct : other ≠ slot) (value : Value) :
    (s.put slot value).read? other = s.read? other := by
  -- a slot of another kind is in another part of the store; one of the same kind is in other
  -- contents, or under another name in the same
  cases slot with
  | localVariable scope name =>
    cases other with
    | localVariable otherScope otherName =>
      simp only [put, read?, setLocals, locals]
      rcases Decidable.em (otherScope = scope) with rfl | apart
      · rw [Arena.get_set_self, Dictionary.get?_insert_of_ne _ (by simpa using distinct)]
      · rw [Arena.get_set_of_ne _ apart]
    | _ => rfl
  | entry map key =>
    cases other with
    | entry otherMap otherKey =>
      simp only [put, read?]
      rcases Decidable.em (otherMap = map) with rfl | apart
      · rw [Arena.get_set_self, Dictionary.get?_insert_of_ne _ (by simpa using distinct)]
      · rw [Arena.get_set_of_ne _ apart]
    | _ => rfl
  | item kind ref position =>
    cases other with
    | item otherKind otherRef otherPosition =>
      simp only [put, read?]
      rcases Decidable.em ((otherKind, otherRef) = (kind, ref)) with same | apart
      · cases same
        rw [items_setItems_self, List.getElem?_set_ne (fun same => distinct (by rw [same]))]
      · rw [items_setItems_of_ne _ apart]
    | _ => cases kind <;> rfl
  | property ref name =>
    cases other with
    | property otherRef otherName =>
      simp only [put, read?]
      rcases Decidable.em (otherRef = ref) with rfl | apart
      · rw [Arena.get_set_self, Record.get?_put, if_neg (by simpa using distinct)]
      · rw [Arena.get_set_of_ne _ apart]
    | _ => rfl
  | field ref name =>
    cases other with
    | field otherRef otherName =>
      simp only [put, read?]
      rcases Decidable.em (otherRef = ref) with rfl | apart
      · rw [Arena.get_set_self, ClassObject.field?_put, if_neg (by simpa using distinct)]
      · rw [Arena.get_set_of_ne _ apart]
    | _ => rfl

/-- A slot that exists reads as the value stored in it. -/
theorem read?_put_of_isSome (s : Store) {slot : Slot} (present : (s.read? slot).isSome)
    (value : Value) : (s.put slot value).read? slot = some value := by
  cases slot with
  | localVariable scope name => simp [put, read?, setLocals, locals]
  | entry map key => simp [put, read?]
  | item kind ref position =>
    obtain ⟨old, found⟩ := Option.isSome_iff_exists.1 present
    have inside := (List.getElem?_eq_some_iff.1 found).1
    simp only [put, read?, items_setItems_self, List.getElem?_set_self inside]
  | property ref name =>
    obtain ⟨old, found⟩ := Option.isSome_iff_exists.1 present
    simp only [read?] at found
    simp only [put, read?, Arena.get_set_self, Record.get?_put, if_true, found, Option.map_some]
  | field ref name =>
    obtain ⟨old, found⟩ := Option.isSome_iff_exists.1 present
    obtain ⟨field, here, _⟩ := Option.map_eq_some_iff.1 found
    simp only [put, read?, Arena.get_set_self, ClassObject.field?_put, if_true, here,
      Option.map_some]

/-- Local variables come into being when they are stored. -/
@[simp] theorem read?_put_localVariable (s : Store) (scope : Ref) (name : String) (value : Value) :
    (s.put (.localVariable scope name) value).read? (.localVariable scope name) = some value := by
  simp [put, read?, setLocals, locals]

/-- Map entries come into being when they are stored. -/
@[simp] theorem read?_put_entry (s : Store) (map : Ref) (key : String) (value : Value) :
    (s.put (.entry map key) value).read? (.entry map key) = some value := by
  simp [put, read?]

/-- No write changes the length of a sequence. -/
theorem length_items_put (s : Store) (slot : Slot) (value : Value) (kind : SequenceKind)
    (ref : Ref) : ((s.put slot value).items kind ref).length = (s.items kind ref).length := by
  cases slot with
  | item writtenKind writtenRef position =>
    simp only [put]
    rcases Decidable.em ((kind, ref) = (writtenKind, writtenRef)) with same | apart
    · cases same
      rw [items_setItems_self, List.length_set]
    · rw [items_setItems_of_ne _ apart]
  | _ => cases kind <;> rfl

end Store

end PropertyPath
