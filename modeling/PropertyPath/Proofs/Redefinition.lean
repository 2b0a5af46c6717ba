import Mathlib.Data.List.Dedup
import Mathlib.Data.List.Induction
import PropertyPath.Proofs.WriteRead

/-!
# Names that are defined again

A record or a class is a table of names. A name may be defined any number of times, each time with
another value and as another kind of property or field, and values are stored under names in between.
Each name occurs once, in the place of its last definition and with the kind that this one gave to it;
what is stored under it later is its value, unless the kind refuses it.

What a run of such steps leaves is told from the steps and from what each of them ended in, by looking
for the last one that matters. The induction is on the run, from its end, for records and classes at
once: both are rosters, and all it takes is what one definition and one assignment do to a roster.
-/

namespace PropertyPath

variable {τ κ α β : Type}

/-! ## Steps -/

/-- A step in the life of a table: a name is defined, or a value is to be stored under a name. -/
inductive TableStep (κ : Type) where
  | define (name : String) (value : Value) (kind : κ)
  | assign (name : String) (value : Value)

namespace TableStep

/-- The name that a step is about. -/
def name : TableStep κ → String
  | define name _ _ | assign name _ => name

/-- The value that a step brings. -/
def value : TableStep κ → Value
  | define _ value _ | assign _ value => value

/-- The kind that a step gives to its name, if it defines it. -/
def kind? : TableStep κ → Option κ
  | define _ _ kind => some kind
  | assign _ _ => none

end TableStep

/-- Steps, and what each of them ended in. -/
abbrev TableLog (κ : Type) := List (TableStep κ × Except Fault Unit)

/-- The names that steps define, as often as they do, in order. -/
def definitions (steps : List (TableStep κ)) : List String :=
  steps.filterMap fun step => step.kind?.map fun _ => step.name

/-- The kind that the last definition of a name gave to it. -/
def lastKind? (steps : List (TableStep κ)) (name : String) : Option κ :=
  steps.reverse.findSome? fun step => if step.name = name then step.kind? else none

/-- The value of the last step under a name that succeeded, be it a definition or not. -/
def lastValue? (log : TableLog κ) (name : String) : Option Value :=
  log.reverse.findSome? fun entry =>
    if entry.1.name = name ∧ entry.2.isOk then some entry.1.value else none

section Append

variable (steps : List (TableStep κ)) (log : TableLog κ) (name : String) (value : Value) (kind : κ)

/-- A definition adds its name to those defined. -/
theorem definitions_define : definitions (steps ++ [.define name value kind]) = definitions steps ++ [name] := by
  rw [definitions, List.filterMap_append, ← definitions]
  rfl

/-- An assignment defines nothing. -/
theorem definitions_assign : definitions (steps ++ [.assign name value]) = definitions steps := by
  rw [definitions, List.filterMap_append, ← definitions]
  exact List.append_nil _

/-- After a definition its name has the kind given there, and all others have the kinds they had. -/
theorem lastKind?_define (other : String) : lastKind? (steps ++ [.define name value kind]) other =
    if other = name then some kind else lastKind? steps other := by
  rw [lastKind?, List.reverse_append, List.reverse_singleton, List.singleton_append, List.findSome?_cons]
  by_cases same : other = name
  · simp only [TableStep.name, TableStep.kind?, same, if_true]
  · simp only [TableStep.name, Ne.symm same, same, if_false, lastKind?]

/-- An assignment gives no kind. -/
theorem lastKind?_assign (other : String) : lastKind? (steps ++ [.assign name value]) other = lastKind? steps other := by
  rw [lastKind?, List.reverse_append, List.reverse_singleton, List.singleton_append, List.findSome?_cons]
  simp only [TableStep.kind?, ite_self, lastKind?]

/-- After a step that succeeded its name has the value of the step. -/
theorem lastValue?_taken (step : TableStep κ) (other : String) : lastValue? (log ++ [(step, .ok ())]) other =
    if other = step.name then some step.value else lastValue? log other := by
  rw [lastValue?, List.reverse_append, List.reverse_singleton, List.singleton_append, List.findSome?_cons]
  by_cases same : other = step.name
  · simp only [same, if_true, true_and, Except.isOk, Except.toBool]
  · simp only [Ne.symm same, same, if_false, false_and, lastValue?]

/-- A step that failed leaves no value. -/
theorem lastValue?_failed (step : TableStep κ) (fault : Fault) (other : String) :
    lastValue? (log ++ [(step, .error fault)]) other = lastValue? log other := by
  rw [lastValue?, List.reverse_append, List.reverse_singleton, List.singleton_append, List.findSome?_cons]
  simp only [Except.isOk, Except.toBool, Bool.false_eq_true, and_false, if_false, lastValue?]

end Append

/-- Of names of which the last occurrence counts, one more at the end takes its place there. -/
theorem dedup_append_singleton (names : List String) (name : String) :
    (names ++ [name]).dedup = names.dedup.filter (· ≠ name) ++ [name] := by
  induction names with
  | nil => rfl
  | cons first rest ih =>
    rw [List.cons_append]
    by_cases again : first ∈ rest
    · rw [List.dedup_cons_of_mem (List.mem_append_left _ again), List.dedup_cons_of_mem again, ih]
    · rw [List.dedup_cons_of_notMem again, List.filter_cons]
      by_cases same : first = name
      · rw [same, List.dedup_cons_of_mem (by simp), ih]
        simp
      · rw [List.dedup_cons_of_notMem (by simp [again, same]), ih]
        simp [same]

/-! ## Tables -/

/-- How tables of some sort take definitions and assignments. -/
structure Tabling (τ κ : Type) where
  define : τ → String → Value → κ → τ
  assign : τ → String → Value → Except Fault τ

namespace Tabling

/-- Takes a step, and says what it ended in. An assignment that fails leaves the table. -/
def perform (T : Tabling τ κ) (t : τ) : TableStep κ → Except Fault Unit × τ
  | .define name value kind => (.ok (), T.define t name value kind)
  | .assign name value =>
    match T.assign t name value with
    | .ok assigned => (.ok (), assigned)
    | .error fault => (.error fault, t)

/-- Takes steps in order, and keeps a log of them. -/
def run (T : Tabling τ κ) (t : τ) (steps : List (TableStep κ)) : TableLog κ × τ :=
  steps.foldl (fun reached step =>
    (reached.1 ++ [(step, (T.perform reached.2 step).1)], (T.perform reached.2 step).2)) ([], t)

variable (T : Tabling τ κ) (t : τ)

/-- One more step is made where the steps before it have led. The inductions on runs go from the
end, and this is their step. -/
theorem run_append (steps : List (TableStep κ)) (step : TableStep κ) :
    T.run t (steps ++ [step]) = ((T.run t steps).1 ++ [(step, (T.perform (T.run t steps).2 step).1)],
      (T.perform (T.run t steps).2 step).2) := by
  rw [run, List.foldl_append, ← run]
  rfl

/-- The log of a run has all its steps in order. -/
theorem steps_run (steps : List (TableStep κ)) : (T.run t steps).1.map Prod.fst = steps := by
  induction steps using List.reverseRecOn with
  | nil => rfl
  | append_singleton steps step ih =>
    rw [run_append, List.map_append, ih]
    rfl

/-- What no definition and no assignment changes, no run does. -/
theorem run_keeps {f : τ → β} (define : ∀ t name value kind, f (T.define t name value kind) = f t)
    (assign : ∀ t name value left, T.assign t name value = .ok left → f left = f t)
    (steps : List (TableStep κ)) : f (T.run t steps).2 = f t := by
  induction steps using List.reverseRecOn with
  | nil => rfl
  | append_singleton steps step ih =>
    rw [run_append, ← ih]
    cases step with
    | define name value kind => exact define ..
    | assign name value =>
      cases assigned : T.assign (T.run t steps).2 name value with
      | error fault => simp only [perform, assigned]
      | ok left => simpa only [perform, assigned] using assign _ name value left assigned

/-- Tables are rosters of entries that have a value and a kind. A definition puts an entry last, and an
assignment changes the value of an entry that is there. -/
structure OnRoster (T : Tabling τ κ) (roster : τ → Roster α) (row : α → Value × κ) : Prop where
  define : ∀ t name value kind, ∃ x, row x = (value, kind) ∧
    roster (T.define t name value kind) = (roster t).define name x
  assign : ∀ t name value left, T.assign t name value = .ok left → name ∈ (roster t).names ∧
    ∃ f, (∀ x, row (f x) = (value, (row x).2)) ∧ roster left = (roster t).modify name f

/-- What a table has is what steps tell: the names in the order of their last definitions, and under
each the last value that was taken and the kind of the last definition. -/
structure Reflects (roster : τ → Roster α) (row : α → Value × κ) (steps : List (TableStep κ)) (log : TableLog κ)
    (t : τ) : Prop where
  names : (roster t).names = (definitions steps).dedup
  values : ∀ name, ((roster t).get? name).map (fun x => (row x).1) = lastValue? log name
  kinds : ∀ name, ((roster t).get? name).map (fun x => (row x).2) = lastKind? steps name

variable {T t} {roster : τ → Roster α} {row : α → Value × κ} (on : T.OnRoster roster row)

include on

/-- It is so after one more step. -/
theorem Reflects.perform {steps : List (TableStep κ)} {log : TableLog κ} (reflects : Reflects roster row steps log t)
    (step : TableStep κ) : Reflects roster row (steps ++ [step]) (log ++ [(step, (T.perform t step).1)])
      (T.perform t step).2 := by
  cases step with
  | define name value kind =>
    -- a definition puts its name last, with its own value and kind
    obtain ⟨x, isRow, defined⟩ := on.define t name value kind
    simp only [Tabling.perform]
    refine ⟨?_, fun other => ?_, fun other => ?_⟩
    · rw [definitions_define, dedup_append_singleton, ← reflects.names, defined, Roster.names_define]
    · rw [lastValue?_taken, defined, Roster.get?_define, apply_ite (Option.map _), reflects.values,
        Option.map_some, isRow]
      rfl
    · rw [lastKind?_define, defined, Roster.get?_define, apply_ite (Option.map _), reflects.kinds,
        Option.map_some, isRow]
  | assign name value =>
    cases assigned : T.assign t name value with
    | error fault =>
      -- an assignment that failed leaves the table as it is
      simp only [Tabling.perform, assigned]
      refine ⟨?_, fun other => ?_, fun other => ?_⟩
      · rw [definitions_assign, reflects.names]
      · rw [lastValue?_failed, reflects.values]
      · rw [lastKind?_assign, reflects.kinds]
    | ok left =>
      -- one that succeeded changes the value of a row that is there, and no kind
      obtain ⟨present, f, changes, modified⟩ := on.assign t name value left assigned
      obtain ⟨x, found⟩ := Roster.mem_names.mp present
      simp only [Tabling.perform, assigned]
      refine ⟨?_, fun other => ?_, fun other => ?_⟩
      · rw [definitions_assign, modified, Roster.names_modify, reflects.names]
      · rw [lastValue?_taken, modified, Roster.get?_modify, apply_ite (Option.map _), reflects.values, found,
          Option.map_some, Option.map_some, changes]
        rfl
      · rw [lastKind?_assign, modified, Roster.get?_modify, ← reflects.kinds]
        by_cases same : other = name
        · rw [if_pos same, same, found, Option.map_some, Option.map_some, Option.map_some, changes]
        · rw [if_neg same]

/-- So it is after a run that began with an empty table. -/
theorem reflects_run (empty : roster t = .empty) (steps : List (TableStep κ)) :
    Reflects roster row steps (T.run t steps).1 (T.run t steps).2 := by
  induction steps using List.reverseRecOn with
  | nil =>
    have nothing : Reflects roster row [] [] t := by
      constructor
      · rw [empty]
        rfl
      · intro name
        rw [empty]
        rfl
      · intro name
        rw [empty]
        rfl
    exact nothing
  | append_singleton steps step ih =>
    rw [run_append]
    exact ih.perform on step

end Tabling

/-! ## Records -/

namespace Records

/-- How records take definitions of properties and assignments to them. The kind of a property is
whether it has a setter. -/
def tabling : Tabling Record Bool := ⟨Record.define, assign⟩

/-- A property is writable if the roster has it with a setter. -/
theorem isWritable_iff {r : Record} {name : String} :
    r.isWritable name = true ↔ ∃ value, r.properties.get? name = some ⟨value, true⟩ := by
  rw [Record.isWritable]
  constructor
  · intro writable
    cases found : r.properties.get? name with
    | none => simp [found] at writable
    | some property =>
      rw [found] at writable
      obtain ⟨value, flag⟩ := property
      cases (writable : flag = true)
      exact ⟨value, rfl⟩
  · rintro ⟨value, found⟩
    rw [found]
    rfl

/-- What is writable is there. -/
theorem mem_names_of_isWritable {r : Record} {name : String} (writable : r.isWritable name = true) :
    name ∈ r.names := by
  obtain ⟨value, found⟩ := isWritable_iff.mp writable
  exact Roster.mem_names.mpr ⟨_, found⟩

/-- Only a property with a setter is assigned. -/
theorem assign_eq_ok_iff {r left : Record} {name : String} {value : Value} :
    assign r name value = .ok left ↔ r.isWritable name = true ∧ left = r.put name value := by
  rw [assign, Record.isWritable]
  cases found : r.properties.get? name with
  | none => simp
  | some property => cases writable : property.writable <;> simp [writable, eq_comm]

/-- A record works on the roster of its properties, by name, with a value and whether there is a
setter. -/
theorem onRoster : tabling.OnRoster Record.properties fun p => (p.value, p.writable) where
  define r name value kind := ⟨⟨value, kind⟩, rfl, rfl⟩
  assign r name value left assigned := by
    obtain ⟨writable, rfl⟩ := assign_eq_ok_iff.mp assigned
    exact ⟨mem_names_of_isWritable writable, fun p => { p with value }, fun _ => rfl, rfl⟩

/-- No step changes the name of the type. -/
theorem typeName_run (r : Record) (steps : List (TableStep Bool)) : (tabling.run r steps).2.typeName = r.typeName := by
  apply Tabling.run_keeps
  · intro r name value kind
    rfl
  · intro r name value left assigned
    obtain ⟨_, rfl⟩ := assign_eq_ok_iff.mp assigned
    exact r.typeName_put name value

end Records

/-- What a record has after steps that ended as a log says. All ways to ask which names exist agree. -/
structure Record.Tells (r : Record) (steps : List (TableStep Bool)) (log : TableLog Bool) : Prop where
  once : r.names.Nodup
  order : r.names = (definitions steps).dedup
  value : ∀ name, r.get? name = lastValue? log name
  writable : ∀ name, r.isWritable name = (lastKind? steps name).getD false
  get : ∀ name, (r.get? name).isSome = true ↔ name ∈ r.names
  has : ∀ name, r.has name = true ↔ name ∈ r.names
  writes : ∀ name, r.isWritable name = true → name ∈ r.names

/-- What becomes of a value that is to be stored in a record. It takes the place of the value of the
first property of the name, if that one has a setter; else the record is left as it is. -/
structure Record.Assigns (r : Record) (name : String) (value : Value) : Prop where
  undefined : name ∉ r.names → Records.tabling.perform r (.assign name value)
    = (.error (.notFound (.recordName r.typeName name)), r)
  refused : name ∈ r.names → r.isWritable name = false → Records.tabling.perform r (.assign name value)
    = (.error (.notWritable (.noSetter r.typeName name)), r)
  taken : r.isWritable name = true → ∃ before old after left,
    r.properties.entries = before ++ (name, ⟨old, true⟩) :: after ∧ name ∉ before.map Prod.fst ∧
      Records.tabling.perform r (.assign name value) = (.ok (), left) ∧ left.typeName = r.typeName ∧
      left.properties.entries = before ++ (name, ⟨value, true⟩) :: after

namespace Records

/-- A record tells what its steps have left. Most of it is said of rosters in general, and what is
added here is how a record is asked. -/
theorem tells_run (typeName : String) (steps : List (TableStep Bool)) :
    Record.Tells (tabling.run { typeName } steps).2 steps (tabling.run { typeName } steps).1 := by
  have reflects := Tabling.reflects_run (t := { typeName }) onRoster rfl steps
  have exist : ∀ r : Record, ∀ name, (r.get? name).isSome = true ↔ name ∈ r.names := by
    intro r name
    rw [Record.names, Roster.mem_names, ← Option.isSome_iff_exists, Record.get?, Option.isSome_map]
  refine ⟨?_, reflects.names, reflects.values, fun name => ?_, exist _, exist _, fun _ => mem_names_of_isWritable⟩
  · rw [Record.names, reflects.names]
    exact List.nodup_dedup _
  · rw [← reflects.kinds]
    rfl

/-- A record assigns as it says, in the place of the first property of the name. The cases are those
of the lookup: no property, one without a setter, one with. -/
theorem assigns (r : Record) (name : String) (value : Value) : r.Assigns name value := by
  refine ⟨fun undefined => ?_, fun defined fixed => ?_, fun writable => ?_⟩
  · have nothing : r.properties.get? name = none := by
      rw [Option.eq_none_iff_forall_ne_some]
      intro property found
      exact undefined (Roster.mem_names.mpr ⟨property, found⟩)
    simp only [Tabling.perform, tabling, assign, nothing]
  · obtain ⟨property, found⟩ := Roster.mem_names.mp defined
    have flag : property.writable = false := by
      rwa [Record.isWritable, found] at fixed
    simp only [Tabling.perform, tabling, assign, found, flag, Bool.false_eq_true, if_false]
  · obtain ⟨old, found⟩ := isWritable_iff.mp writable
    obtain ⟨before, after, form, first, changed⟩ := Roster.modify_entry found fun p => { p with value }
    have assigned : assign r name value = .ok (r.put name value) := assign_eq_ok_iff.mpr ⟨writable, rfl⟩
    refine ⟨before, old, after, _, form, first, ?_, r.typeName_put name value, changed⟩
    simp only [Tabling.perform, tabling, assigned]

/-- The resolver of records finds the properties that are defined. -/
theorem exists_property_iff (s : Store) (ref : Ref) (p : Value) : (∃ found, property s ref p = .ok found) ↔
    ∃ name, p.key? = some name ∧ name ∈ (s.records.get ref).names := by
  constructor
  · rintro ⟨found, known⟩
    obtain ⟨denoted, there⟩ := property_eq_ok_iff.mp known
    exact ⟨found.1, denoted, Roster.mem_names.mpr ⟨found.2, there⟩⟩
  · rintro ⟨name, denoted, member⟩
    obtain ⟨entry, there⟩ := Roster.mem_names.mp member
    exact ⟨(name, entry), property_eq_ok_iff.mpr ⟨denoted, there⟩⟩

/-- The place of a write to a property, by its name. -/
theorem target_named (s : Store) (ref : Ref) (name : String) :
    (resolver false).target s (.on (.record ref) (.string name)) = some
      ((property s ref (.string name)).bind fun found =>
        if found.2.writable then .ok (.property ref found.1)
        else .error (.notWritable (.readOnlyProperty found.1 (s.records.get ref).typeName))) := rfl

/-- A write through the resolver assigns to the record, and fails where the record does. -/
structure Writes (s : Store) (ref : Ref) (name : String) (value : Value) : Prop where
  taken : ∀ left, assign (s.records.get ref) name value = .ok left →
    (resolver false).write s (.on (.record ref) (.string name)) value
      = (some (.ok ()), { s with records := s.records.set ref left })
  failed : ∀ fault, assign (s.records.get ref) name value = .error fault →
    ∃ cause, (resolver false).write s (.on (.record ref) (.string name)) value = (some (.error cause), s)

/-- A write through the resolver for records is an assignment. A refusal is worded by the resolver
in its own way, so of a failure only the world is compared. -/
theorem writes (s : Store) (ref : Ref) (name : String) (value : Value) : Writes s ref name value := by
  constructor
  · intro left assigned
    obtain ⟨writable, rfl⟩ := assign_eq_ok_iff.mp assigned
    obtain ⟨old, found⟩ := isWritable_iff.mp writable
    have known : property s ref (.string name) = .ok (name, ⟨old, true⟩) :=
      property_eq_ok_iff.mpr ⟨rfl, found⟩
    rw [StoreResolver.write, target_named, known]
    rfl
  · intro fault failed
    rw [StoreResolver.write, target_named]
    cases known : property s ref (.string name) with
    | error cause => exact ⟨cause, rfl⟩
    | ok found =>
      obtain ⟨denoted, there⟩ := property_eq_ok_iff.mp known
      cases denoted
      -- there is no setter, else the assignment had succeeded
      by_cases writable : found.2.writable
      · simp [assign, there, writable] at failed
      · exact ⟨.notWritable (.readOnlyProperty found.1 (s.records.get ref).typeName), by
          rw [Except.bind, if_neg writable]⟩

end Records

/-! ## Classes -/

namespace Classes

/-- Stores a value in a field of the class itself that may change. -/
def assign (c : ClassObject) (name : String) (value : Value) : Except Fault ClassObject :=
  match c.staticField? name with
  | none => .error (.notFound (.field name c.name))
  | some field =>
    if field.isAssignable then .ok (c.put name value) else .error (.notWritable (.finalField c.name name))

/-- How classes take definitions of fields and assignments to them. -/
def tabling : Tabling ClassObject FieldKind := ⟨ClassObject.define, assign⟩

/-- A field that is the class's own is one that is found and static. -/
theorem staticField?_eq_some_iff {c : ClassObject} {name : String} {f : Field} :
    c.staticField? name = some f ↔ c.field? name = some f ∧ f.isStatic = true :=
  Option.filter_eq_some_iff

/-- A field that may be assigned is the class's own. -/
theorem isStatic_of_isAssignable {f : Field} (assignable : f.isAssignable = true) : f.isStatic = true :=
  (Bool.and_eq_true_iff.mp assignable).1

/-- Only a field of the class itself that is no constant is assigned. -/
theorem assign_eq_ok_iff {c left : ClassObject} {name : String} {value : Value} : assign c name value = .ok left ↔
    (∃ f, c.field? name = some f ∧ f.isAssignable = true) ∧ left = c.put name value := by
  rw [assign]
  cases reached : c.staticField? name with
  | none =>
    constructor
    · rintro ⟨⟩
    · rintro ⟨⟨f, found, assignable⟩, _⟩
      -- a field that may be assigned is static, and would have been found
      have static := staticField?_eq_some_iff.mpr ⟨found, isStatic_of_isAssignable assignable⟩
      rw [reached] at static
      cases static
  | some f =>
    have found := (staticField?_eq_some_iff.mp reached).1
    by_cases assignable : f.isAssignable
    · simp only [if_pos assignable, Except.ok.injEq]
      constructor
      · rintro rfl
        exact ⟨⟨f, found, assignable⟩, rfl⟩
      · rintro ⟨_, rfl⟩
        rfl
    · simp [found, assignable]

/-- A class works on the roster of its fields, by name, with a value and a kind. -/
theorem onRoster : tabling.OnRoster ClassObject.fields fun f => (f.value, f.kind) where
  define c name value kind := ⟨⟨value, kind⟩, rfl, rfl⟩
  assign c name value left assigned := by
    obtain ⟨⟨f, found, _⟩, rfl⟩ := assign_eq_ok_iff.mp assigned
    exact ⟨Roster.mem_names.mpr ⟨f, found⟩, fun f => { f with value }, fun _ => rfl, rfl⟩

/-- No step changes the name of the class. -/
theorem name_run (c : ClassObject) (steps : List (TableStep FieldKind)) : (tabling.run c steps).2.name = c.name := by
  apply Tabling.run_keeps
  · intro c name value kind
    rfl
  · intro c name value left assigned
    obtain ⟨_, rfl⟩ := assign_eq_ok_iff.mp assigned
    exact c.name_put name value

end Classes

/-- What a class has after steps that ended as a log says. Its own fields are those that were last
defined as such, in the order of all fields. -/
structure ClassObject.Tells (c : ClassObject) (steps : List (TableStep FieldKind)) (log : TableLog FieldKind) :
    Prop where
  once : c.fields.names.Nodup
  order : c.fields.names = (definitions steps).dedup
  value : ∀ name, (c.field? name).map (·.value) = lastValue? log name
  kind : ∀ name, (c.field? name).map (·.kind) = lastKind? steps name
  field : ∀ name, (c.field? name).isSome = true ↔ name ∈ c.fields.names
  statics : c.staticNames = c.fields.names.filter fun name => (lastKind? steps name).any (· != .perInstance)
  static : ∀ name, name ∈ c.staticNames ↔ ∃ f, c.field? name = some f ∧ f.isStatic = true

/-- What becomes of a value that is to be stored in a class. It takes the place of the value of the
first field of the name, if that one is the class's own and no constant; else the class is left as it is. -/
structure ClassObject.Assigns (c : ClassObject) (name : String) (value : Value) : Prop where
  foreign : (∀ f, c.field? name = some f → f.isStatic = false) →
    Classes.tabling.perform c (.assign name value) = (.error (.notFound (.field name c.name)), c)
  constant : ∀ f, c.field? name = some f → f.isFinal = true →
    Classes.tabling.perform c (.assign name value) = (.error (.notWritable (.finalField c.name name)), c)
  taken : ∀ f, c.field? name = some f → f.isAssignable = true → ∃ before after left,
    c.fields.entries = before ++ (name, f) :: after ∧ name ∉ before.map Prod.fst ∧
      Classes.tabling.perform c (.assign name value) = (.ok (), left) ∧ left.name = c.name ∧
      left.fields.entries = before ++ (name, { f with value }) :: after

namespace Classes

/-- A class tells what its steps have left. Its own fields are those whose last kind is not that of
instances. -/
theorem tells_run (name : String) (steps : List (TableStep FieldKind)) :
    ClassObject.Tells (tabling.run { name } steps).2 steps (tabling.run { name } steps).1 := by
  have reflects := Tabling.reflects_run (t := { name }) onRoster rfl steps
  generalize (tabling.run { name } steps).1 = log at reflects
  generalize (tabling.run { name } steps).2 = c at reflects
  have kinds : ∀ name, (c.field? name).map (·.kind) = lastKind? steps name := reflects.kinds
  -- a field that is listed as static is one by the kind that it was last given
  have own : ∀ entry ∈ c.fields.entries,
      entry.2.isStatic = (lastKind? steps entry.1).any (· != .perInstance) := by
    intro entry member
    have found : c.field? entry.1 = some entry.2 := Roster.get?_eq_some_iff.mpr member
    rw [← kinds, found]
    rfl
  refine ⟨?_, reflects.names, reflects.values, kinds, fun name => ?_, ?_, fun name => ?_⟩
  · rw [reflects.names]
    exact List.nodup_dedup _
  · rw [Roster.mem_names, Option.isSome_iff_exists]
    exact Iff.rfl
  · rw [ClassObject.staticNames, List.filter_congr own, Roster.names, List.filter_map]
    rfl
  · rw [ClassObject.staticNames, List.mem_map]
    constructor
    · rintro ⟨entry, member, rfl⟩
      obtain ⟨inside, static⟩ := List.mem_filter.mp member
      exact ⟨entry.2, Roster.get?_eq_some_iff.mpr inside, static⟩
    · rintro ⟨f, found, static⟩
      exact ⟨(name, f), List.mem_filter.mpr ⟨Roster.get?_eq_some_iff.mp found, static⟩, rfl⟩

/-- A class assigns as it says, in the place of the first field of the name. The cases are those of
the field that is found. -/
theorem assigns (c : ClassObject) (name : String) (value : Value) : c.Assigns name value := by
  refine ⟨fun foreign => ?_, fun f found final => ?_, fun f found assignable => ?_⟩
  · have nothing : c.staticField? name = none := by
      rw [Option.eq_none_iff_forall_ne_some]
      intro f reached
      obtain ⟨found, static⟩ := staticField?_eq_some_iff.mp reached
      rw [foreign f found] at static
      cases static
    simp only [Tabling.perform, tabling, assign, nothing]
  · have kind : f.kind = .constant := by simpa [Field.isFinal] using final
    have reached : c.staticField? name = some f :=
      staticField?_eq_some_iff.mpr ⟨found, by rw [Field.isStatic, kind]; rfl⟩
    have fixed : ¬f.isAssignable = true := by simp [Field.isAssignable, final]
    simp only [Tabling.perform, tabling, assign, reached, if_neg fixed]
  · have assigned : assign c name value = .ok (c.put name value) :=
      assign_eq_ok_iff.mpr ⟨⟨f, found, assignable⟩, rfl⟩
    obtain ⟨before, after, form, first, changed⟩ := Roster.modify_entry found fun f => { f with value }
    refine ⟨before, after, c.put name value, form, first, ?_, rfl, changed⟩
    simp only [Tabling.perform, tabling, assigned]

/-- A write through the resolver assigns to the class, and fails as the class does. -/
structure Writes (loader : Loader) (s : Store) (ref : Ref) (name : String) (value : Value) : Prop where
  taken : ∀ left, assign (s.classes.get ref) name value = .ok left →
    (resolver loader).write s (.on (.classObject ref) (.string name)) value
      = (some (.ok ()), { s with classes := s.classes.set ref left })
  failed : ∀ fault, assign (s.classes.get ref) name value = .error fault →
    (resolver loader).write s (.on (.classObject ref) (.string name)) value = (some (.error fault), s)

/-- The place of a write to a field, by its name. -/
theorem target_named (loader : Loader) (s : Store) (ref : Ref) (name : String) :
    (resolver loader).target s (.on (.classObject ref) (.string name)) = some
      ((field s ref (.string name)).bind fun found =>
        if found.2.isAssignable then .ok (.field ref found.1)
        else .error (.notWritable (.finalField (s.classes.get ref).name (s.text (.string name))))) := rfl

/-- A write through the resolver for classes is an assignment, and ends in the same fault. -/
theorem writes (loader : Loader) (s : Store) (ref : Ref) (name : String) (value : Value) :
    Writes loader s ref name value := by
  constructor
  · intro left assigned
    obtain ⟨⟨f, found, assignable⟩, rfl⟩ := assign_eq_ok_iff.mp assigned
    have reached := staticField?_eq_some_iff.mpr ⟨found, isStatic_of_isAssignable assignable⟩
    have known : field s ref (.string name) = .ok (name, f) := field_eq_ok_iff.mpr ⟨rfl, reached⟩
    rw [StoreResolver.write, target_named, known, Except.bind, if_pos assignable]
    rfl
  · intro fault failed
    rw [StoreResolver.write, target_named, Store.text_string]
    cases reached : (s.classes.get ref).staticField? name with
    | none =>
      have unknown : field s ref (.string name) = .error (.notFound (.field name (s.classes.get ref).name)) := by
        simp only [field, Value.key?, Option.getD_some, reached]
      simp only [assign, reached, Except.error.injEq] at failed
      rw [unknown, ← failed]
      rfl
    | some f =>
      have known : field s ref (.string name) = .ok (name, f) := field_eq_ok_iff.mpr ⟨rfl, reached⟩
      by_cases assignable : f.isAssignable
      · simp [assign, reached, assignable] at failed
      · simp only [assign, reached, if_neg assignable, Except.error.injEq] at failed
        rw [known, Except.bind, if_neg assignable, ← failed]

end Classes

/-- Records and classes keep the last definition of a name. After any run of definitions, of properties
with or without a setter or of fields of any kind, and of assignments between them, each name occurs
once, where it was last defined, with the setter or the kind of that definition; its value is that of the
last definition or of a later assignment that succeeded. An assignment changes one value or nothing at
all, and so does a write through the resolvers, which find what is defined.

Proof: one step more at the end of a run changes the table at one name, as it changes what was
last said of that name. So by induction from the end the table reflects the run, for records and
for classes alike. -/
theorem tables_keep_last_definitions :
    (∀ (typeName : String) (steps : List (TableStep Bool)), ∃ log r,
      Records.tabling.run { typeName } steps = (log, r) ∧ log.map Prod.fst = steps ∧ r.typeName = typeName ∧
        r.Tells steps log) ∧
    (∀ (r : Record) (name : String) (value : Value), r.Assigns name value) ∧
    (∀ (s : Store) (ref : Ref), (∀ name value, Records.Writes s ref name value) ∧
      ∀ p, (∃ found, Records.property s ref p = .ok found) ↔
        ∃ name, p.key? = some name ∧ name ∈ (s.records.get ref).names) ∧
    (∀ (name : String) (steps : List (TableStep FieldKind)), ∃ log c,
      Classes.tabling.run { name } steps = (log, c) ∧ log.map Prod.fst = steps ∧ c.name = name ∧
        c.Tells steps log) ∧
    (∀ (c : ClassObject) (name : String) (value : Value), c.Assigns name value) ∧
    ∀ (loader : Classes.Loader) (s : Store) (ref : Ref) (name : String) (value : Value),
      Classes.Writes loader s ref name value := by
  refine ⟨?_, Records.assigns, fun s ref => ⟨Records.writes s ref, Records.exists_property_iff s ref⟩, ?_,
    Classes.assigns, Classes.writes⟩
  · intro typeName steps
    exact ⟨_, _, rfl, Tabling.steps_run .., Records.typeName_run .., Records.tells_run typeName steps⟩
  · intro name steps
    exact ⟨_, _, rfl, Tabling.steps_run .., Classes.name_run .., Classes.tells_run name steps⟩

/-- A property that is defined again goes to the end and loses its setter, and a value that is to be
stored in it afterwards is refused. -/
example :
    let steps : List (TableStep Bool) := [.define "a" .null true, .define "b" (.string "x") true,
      .assign "a" (.string "y"), .define "a" (.string "z") false, .assign "a" .null]
    (Records.tabling.run {} steps).2.properties.entries = [("b", ⟨.string "x", true⟩), ("a", ⟨.string "z", false⟩)] :=
  rfl

end PropertyPath
