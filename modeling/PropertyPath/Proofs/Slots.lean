import PropertyPath.Store.Lemmas

/-!
# Growth and assignment

Two ways for a store to differ from an earlier one. It has grown when contents
were stored at references not used before and at no others: all that a value of
the earlier store can lead to is as it was. It is an assignment to a slot when
that slot holds a new value and all else is as it was, down to the lengths of
sequences, the names, order and setters of properties, and the kinds of fields.

A slot can be assigned if it is a local variable or a map entry, which come into
being, or an item, property or field that is there and lets itself be written.
Storing in such a slot is an assignment to it. For any other slot it is not: the
item or property would stay absent, and a property without a setter would change.
-/

namespace PropertyPath

namespace Arena

variable {α : Type} [Inhabited α]

/-- A later arena keeps what an earlier one held below its next fresh reference. -/
structure Grown (a b : Arena α) : Prop where
  frontier : a.next.index ≤ b.next.index
  kept : ∀ ref : Ref, ref.index < a.next.index → b.get ref = a.get ref

/-- An arena has grown by nothing from itself. -/
theorem Grown.refl (a : Arena α) : Grown a a := ⟨Nat.le_refl _, fun _ _ => rfl⟩

/-- Growth after growth is growth: what was in use stays in use, so it was kept twice. -/
theorem Grown.trans {a b c : Arena α} (first : Grown a b) (second : Grown b c) : Grown a c := by
  refine ⟨Nat.le_trans first.frontier second.frontier, ?_⟩
  intro ref used
  have still : ref.index < b.next.index := Nat.lt_of_lt_of_le used first.frontier
  exact (second.kept ref still).trans (first.kept ref used)

/-- A push is growth, since the reference that was next was not in use. -/
theorem grown_push (a : Arena α) (x : α) : Grown a (a.push x) := by
  refine ⟨by simp [next, push], ?_⟩
  intro ref used
  have old : ref ≠ a.next := by
    rintro rfl
    exact Nat.lt_irrefl _ used
  exact get_push_of_ne a old x

/-- What is stored comes into use, and nothing goes out of use. -/
theorem index_lt_next_set (a : Arena α) (ref : Ref) (x : α) : ref.index < (a.set ref x).next.index := by
  simp only [next, set, Array.size_setIfInBounds, Array.size_append, Array.size_replicate]
  omega

/-- Storing takes no reference out of use. -/
theorem next_le_next_set (a : Arena α) (ref : Ref) (x : α) : a.next.index ≤ (a.set ref x).next.index := by
  simp only [next, set, Array.size_setIfInBounds, Array.size_append, Array.size_replicate]
  omega

omit [Inhabited α] in
/-- A push brings the reference that was next into use. -/
theorem index_next_lt_next_push (a : Arena α) (x : α) : a.next.index < (a.push x).next.index := by
  simp [next, push]

end Arena

namespace Store

/-- A later store has new contents at most: whatever was in use holds what it held. -/
structure Grown (s t : Store) : Prop where
  lists : Arena.Grown s.lists t.lists
  arrays : Arena.Grown s.arrays t.arrays
  maps : Arena.Grown s.maps t.maps
  records : Arena.Grown s.records t.records
  classes : Arena.Grown s.classes t.classes
  scopes : Arena.Grown s.scopes t.scopes
  registries : Arena.Grown s.registries t.registries

/-- A store has grown by nothing from itself. -/
theorem Grown.refl (s : Store) : Grown s s :=
  ⟨.refl _, .refl _, .refl _, .refl _, .refl _, .refl _, .refl _⟩

/-- Growth of stores is growth in each of their arenas, so it goes on over steps. -/
theorem Grown.trans {s t u : Store} (first : Grown s t) (second : Grown t u) : Grown s u :=
  ⟨first.lists.trans second.lists, first.arrays.trans second.arrays,
    first.maps.trans second.maps, first.records.trans second.records,
    first.classes.trans second.classes, first.scopes.trans second.scopes,
    first.registries.trans second.registries⟩

/-- Making a new sequence is growth. -/
theorem grown_newSequence (s : Store) (kind : SequenceKind) (items : List Value) :
    Grown s (s.newSequence kind items).2 := by
  cases kind with
  | list => exact { Grown.refl s with lists := Arena.grown_push s.lists items }
  | array => exact { Grown.refl s with arrays := Arena.grown_push s.arrays items }

/-- A class with a field is in use: what was never stored has none. -/
theorem inUse_of_field? {s : Store} {ref : Ref} {name : String} {field : Field}
    (there : (s.classes.get ref).field? name = some field) : ref.index < s.classes.next.index := by
  rcases Nat.lt_or_ge ref.index s.classes.next.index with used | unused
  · exact used
  · have empty : s.classes.get ref = {} := by
      rw [Arena.get, Array.getElem?_eq_none unused]
      rfl
    rw [empty] at there
    cases there

/-- Whether a slot takes a value: local variables and map entries always do, the
others if they are there and may change. -/
def Assignable (s : Store) : Slot → Prop
  | .localVariable _ _ => True
  | .entry _ _ => True
  | .item kind ref position => position < (s.items kind ref).length
  | .property ref name => (s.records.get ref).isWritable name = true
  | .field ref name =>
    ∃ field, (s.classes.get ref).field? name = some field ∧ field.isAssignable = true

/-- A later store is an assignment of a value to one slot. -/
structure Assigned (s : Store) (slot : Slot) (value : Value) (t : Store) : Prop where
  holds : t.read? slot = some value
  others : ∀ other, other ≠ slot → t.read? other = s.read? other
  lengths : ∀ kind ref, (t.items kind ref).length = (s.items kind ref).length
  recordTypes : ∀ ref, (t.records.get ref).typeName = (s.records.get ref).typeName
  propertyNames : ∀ ref, (t.records.get ref).names = (s.records.get ref).names
  setters : ∀ ref name,
    (t.records.get ref).isWritable name = (s.records.get ref).isWritable name
  classNames : ∀ ref, (t.classes.get ref).name = (s.classes.get ref).name
  fieldNames : ∀ ref, (t.classes.get ref).fields.names = (s.classes.get ref).fields.names
  fieldKinds : ∀ ref name,
    ((t.classes.get ref).field? name).map (·.kind) = ((s.classes.get ref).field? name).map (·.kind)
  fixedFields : ∀ ref name field, (s.classes.get ref).field? name = some field →
    field.isAssignable = false → (t.classes.get ref).field? name = some field
  registries : t.registries = s.registries

/-- A record after a write to any slot: the same one, or with one property changed. -/
theorem records_get_put (s : Store) (slot : Slot) (value : Value) (ref : Ref) :
    ((s.put slot value).records.get ref = s.records.get ref) ∨
      ∃ name, (s.put slot value).records.get ref = (s.records.get ref).put name value := by
  cases slot with
  | property written name =>
    by_cases same : ref = written
    · subst same
      exact .inr ⟨name, Arena.get_set_self _ _ _⟩
    · exact .inl (Arena.get_set_of_ne _ same _)
  | item kind _ _ => cases kind <;> exact .inl rfl
  | _ => exact .inl rfl

/-- A class after a write to any slot: the same one, or with one field changed. -/
theorem classes_get_put (s : Store) (slot : Slot) (value : Value) (ref : Ref) :
    ((s.put slot value).classes.get ref = s.classes.get ref) ∨
      ∃ name, slot = .field ref name ∧
        (s.put slot value).classes.get ref = (s.classes.get ref).put name value := by
  cases slot with
  | field written name =>
    by_cases same : ref = written
    · subst same
      exact .inr ⟨name, rfl, Arena.get_set_self _ _ _⟩
    · exact .inl (Arena.get_set_of_ne _ same _)
  | item kind _ _ => cases kind <;> exact .inl rfl
  | _ => exact .inl rfl

/-- A field belongs to the class itself after a write as it did before. -/
theorem isSome_staticField?_put (s : Store) (slot : Slot) (value : Value) (ref : Ref) (name : String) :
    (((s.put slot value).classes.get ref).staticField? name).isSome
      = ((s.classes.get ref).staticField? name).isSome := by
  rcases classes_get_put s slot value ref with same | ⟨written, _, changed⟩
  · rw [same]
  · rw [changed, ClassObject.staticField?, ClassObject.staticField?, ClassObject.field?_put]
    by_cases here : name = written
    · rw [if_pos here, here]
      cases (s.classes.get ref).field? written with
      | none => rfl
      | some field => cases field with | mk _ kind => cases kind <;> rfl
    · rw [if_neg here]

/-- A write to another slot leaves a static field as it was. -/
theorem staticField?_put_of_ne {s : Store} {ref : Ref} {name : String} {slot : Slot}
    (apart : slot ≠ .field ref name) (value : Value) :
    ((s.put slot value).classes.get ref).staticField? name = (s.classes.get ref).staticField? name := by
  rcases classes_get_put s slot value ref with same | ⟨written, placed, changed⟩
  · rw [same]
  · have other : name ≠ written := by
      rintro rfl
      exact apart placed
    rw [changed, ClassObject.staticField?, ClassObject.staticField?, ClassObject.field?_put, if_neg other]

/-- A write to a static field changes its value only. -/
theorem staticField?_put_self {s : Store} {ref : Ref} {name : String} {field : Field}
    (there : (s.classes.get ref).staticField? name = some field) (value : Value) :
    ((s.put (.field ref name) value).classes.get ref).staticField? name = some { field with value } := by
  obtain ⟨found, static⟩ := Option.filter_eq_some_iff.1 there
  have changed : (s.put (.field ref name) value).classes.get ref = (s.classes.get ref).put name value :=
    Arena.get_set_self _ _ _
  rw [changed, ClassObject.staticField?, ClassObject.field?_put, if_pos rfl, found]
  exact Option.filter_eq_some_iff.2 ⟨rfl, static⟩

/-- No slot lies in a registry, so no write changes one. -/
theorem registries_put (s : Store) (slot : Slot) (value : Value) :
    (s.put slot value).registries = s.registries := by
  cases slot with
  | item kind _ _ => cases kind <;> rfl
  | _ => rfl

/-- A slot that takes a value holds it afterwards. -/
theorem read?_put_of_assignable (s : Store) {slot : Slot} (assignable : s.Assignable slot)
    (value : Value) : (s.put slot value).read? slot = some value := by
  cases slot with
  | localVariable scope name => exact read?_put_localVariable s scope name value
  | entry map key => exact read?_put_entry s map key value
  | item kind ref position =>
    -- items, properties and fields take values only where they are there already
    have inside : position < (s.items kind ref).length := assignable
    have present : (s.read? (.item kind ref position)).isSome := by
      rw [read?, List.getElem?_eq_getElem inside]
      rfl
    exact read?_put_of_isSome s present value
  | property ref name =>
    have present : (s.read? (.property ref name)).isSome := by
      simp only [Assignable, Record.isWritable] at assignable
      cases found : (s.records.get ref).properties.get? name with
      | none => simp [found] at assignable
      | some property => simp [read?, Record.get?, found]
    exact read?_put_of_isSome s present value
  | field ref name =>
    obtain ⟨field, found, _⟩ := assignable
    have present : (s.read? (.field ref name)).isSome := by simp [read?, found]
    exact read?_put_of_isSome s present value

/-- Storing in a slot that takes a value is an assignment to it. Fixed fields stay
because the field of the slot is not one of them. -/
theorem assigned_put (s : Store) {slot : Slot} (assignable : s.Assignable slot) (value : Value) :
    s.Assigned slot value (s.put slot value) where
  holds := read?_put_of_assignable s assignable value
  others other distinct := read?_put_of_ne s distinct value
  lengths kind ref := length_items_put s slot value kind ref
  recordTypes ref := by
    -- a record is as it was, or one of its properties has another value
    rcases records_get_put s slot value ref with same | ⟨name, changed⟩
    · rw [same]
    · rw [changed, Record.typeName_put]
  propertyNames ref := by
    rcases records_get_put s slot value ref with same | ⟨name, changed⟩
    · rw [same]
    · rw [changed, Record.names_put]
  setters ref other := by
    rcases records_get_put s slot value ref with same | ⟨name, changed⟩
    · rw [same]
    · rw [changed, Record.isWritable_put]
  classNames ref := by
    -- so is a class, with its fields
    rcases classes_get_put s slot value ref with same | ⟨name, _, changed⟩
    · rw [same]
    · rw [changed, ClassObject.name_put]
  fieldNames ref := by
    rcases classes_get_put s slot value ref with same | ⟨name, _, changed⟩
    · rw [same]
    · rw [changed]
      exact Roster.names_modify ..
  fieldKinds ref other := by
    rcases classes_get_put s slot value ref with same | ⟨name, _, changed⟩
    · rw [same]
    · rw [changed, ClassObject.field?_put]
      by_cases here : other = name
      · rw [if_pos here, here, Option.map_map]
        rfl
      · rw [if_neg here]
  fixedFields ref other field found fixed := by
    rcases classes_get_put s slot value ref with same | ⟨name, written, changed⟩
    · rw [same, found]
    · have elsewhere : other ≠ name := by
        rintro rfl
        rw [written] at assignable
        obtain ⟨writable, here, loose⟩ := assignable
        rw [found] at here
        cases here
        rw [fixed] at loose
        cases loose
      rw [changed, ClassObject.field?_put, if_neg elsewhere, found]
  registries := registries_put s slot value

end Store

end PropertyPath
