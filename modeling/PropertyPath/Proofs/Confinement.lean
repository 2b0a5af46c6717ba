import PropertyPath.Proofs.BetweenWrites
import PropertyPath.Proofs.Dependence

/-!
# Writes that only local variables take

Where the resolvers of collections are read-only there are two kinds of slots left that a chain
of stock resolvers may find for a write: local variables, and fields of classes that are no
constants. Whether a write comes to such a field depends on the classes that an expression can
come to. A value is harmless if it leads to no class but one, in a store in which all that it
leads to exists. If that one class has constants only, and an expression can come to harmless
values only, then a write to it that succeeds has stored its value in a local variable.

What exists does not become harmful. As long as contents that were in use are kept, a harmless
value leads to what it led to before.
-/

namespace PropertyPath

variable {ρ : Type}

/-! ## Contents that are in use -/

namespace Store

/-- A later store holds all contents of an earlier one as they were. It may have more, and other
local variables and registries. -/
structure Intact (s t : Store) : Prop where
  lists : Arena.Grown s.lists t.lists
  arrays : Arena.Grown s.arrays t.arrays
  maps : Arena.Grown s.maps t.maps
  records : Arena.Grown s.records t.records
  classes : Arena.Grown s.classes t.classes

/-- The contents of a value were stored at some time. -/
def InUse (s : Store) : Value → Prop
  | .sequence .list ref => ref.index < s.lists.next.index
  | .sequence .array ref => ref.index < s.arrays.next.index
  | .map ref => ref.index < s.maps.next.index
  | .record ref => ref.index < s.records.next.index
  | .classObject ref => ref.index < s.classes.next.index
  | _ => True

variable {s t : Store} {v : Value}

/-- Every store keeps its own contents. -/
theorem Intact.refl (s : Store) : Intact s s := ⟨.refl _, .refl _, .refl _, .refl _, .refl _⟩

/-- Contents that are kept by two steps are kept by both together. This carries the property along a
run. -/
theorem Intact.trans {u : Store} (first : Intact s t) (second : Intact t u) : Intact s u :=
  ⟨first.lists.trans second.lists, first.arrays.trans second.arrays, first.maps.trans second.maps,
    first.records.trans second.records, first.classes.trans second.classes⟩

/-- A store that has only grown keeps its contents. -/
theorem Grown.intact (grown : Grown s t) : Intact s t :=
  ⟨grown.lists, grown.arrays, grown.maps, grown.records, grown.classes⟩

/-- Local variables are no contents of values. -/
theorem intact_setLocals (s : Store) (scope : Ref) (locals : Dictionary Value) :
    Intact s (s.setLocals scope locals) := ⟨.refl _, .refl _, .refl _, .refl _, .refl _⟩

/-- What is in use stays in use. -/
theorem Intact.inUse (intact : Intact s t) (used : s.InUse v) : t.InUse v := by
  cases v with
  | sequence kind ref =>
    cases kind with
    | list => exact Nat.lt_of_lt_of_le used intact.lists.frontier
    | array => exact Nat.lt_of_lt_of_le used intact.arrays.frontier
  | map ref => exact Nat.lt_of_lt_of_le used intact.maps.frontier
  | record ref => exact Nat.lt_of_lt_of_le used intact.records.frontier
  | classObject ref => exact Nat.lt_of_lt_of_le used intact.classes.frontier
  | _ => trivial

/-- What is in use has the same contents in a store that keeps them. -/
theorem Intact.sameContents (intact : Intact s t) (used : s.InUse v) : s.SameContents t v := by
  cases v with
  | sequence kind ref =>
    cases kind with
    | list => exact intact.lists.kept ref used
    | array => exact intact.arrays.kept ref used
  | map ref => exact intact.maps.kept ref used
  | record ref => exact intact.records.kept ref used
  | classObject ref => exact intact.classes.kept ref used
  | _ => trivial

/-- A value holds what it held where it had the same contents. -/
theorem Holds.of_sameContents {owner : Value} (same : s.SameContents t owner) (holds : t.Holds owner v) :
    s.Holds owner v := by
  cases holds with
  | @inSlot slot owned there shown =>
    have read : s.read? slot = t.read? slot := by
      cases slot <;> cases owned
      · exact congrArg (Dictionary.get? · _) (Eq.symm same)
      · exact congrArg (·[_]?) (Eq.symm same)
      · exact congrArg (Record.get? · _) (Eq.symm same)
      · exact congrArg (fun c => (ClassObject.field? c _).map (·.value)) (Eq.symm same)
    refine .inSlot owned (read.trans there) ?_
    cases slot with
    | field ref name =>
      cases owned
      have fields : t.classes.get ref = s.classes.get ref := same
      simp only [Shows] at shown ⊢
      rwa [← fields]
    | _ => trivial

/-! ## Harmless values -/

/-- All that a value leads to is in use, and is no class but one. -/
def Harmless (own : Option Ref) (s : Store) (v : Value) : Prop :=
  ∀ u, Relation.ReflTransGen s.Holds v u → s.InUse u ∧ ∀ ref, u = .classObject ref → own = some ref

namespace Harmless

variable {own : Option Ref}

/-- What a harmless value holds is harmless. It leads to less. -/
theorem of_holds {u : Value} (harmless : Harmless own s v) (holds : s.Holds v u) : Harmless own s u :=
  fun x further => harmless x (.head holds further)

/-- A value that holds nothing leads to itself alone, so only that has to be asked of it. -/
theorem of_nothing (nothing : ∀ u, ¬ s.Holds v u) (used : s.InUse v)
    (only : ∀ ref, v = .classObject ref → own = some ref) : Harmless own s v := by
  intro u further
  rw [eq_of_not_holds nothing further]
  exact ⟨used, only⟩

/-- Texts, numbers, colors and null are harmless. -/
theorem of_plain (plain : v.governor? = none) : Harmless own s v := by
  refine of_nothing (fun u holds => holds.governed plain) ?_ ?_
  · cases v with
    | sequence kind ref => cases plain
    | map ref => cases plain
    | record ref => cases plain
    | classObject ref => cases plain
    | _ => trivial
  · rintro ref rfl
    cases plain

/-- So are the markers of namespaces. A marker holds nothing, and classes are named behind it rather
than held. -/
theorem marker (issuer : Namespace) : Harmless own s (.marker issuer) :=
  of_nothing (fun _ => not_holds_marker) trivial fun _ same => Value.noConfusion same

/-- A harmless value stays harmless while contents in use are kept. -/
theorem of_intact (harmless : Harmless own s v) (intact : Intact s t) : Harmless own t v := by
  intro u further
  have before : Relation.ReflTransGen s.Holds v u := by
    induction further with
    | refl => exact .refl
    | tail _ holds hypothesis =>
      exact .tail hypothesis (holds.of_sameContents (intact.sameContents (harmless _ hypothesis).1))
  exact ⟨intact.inUse (harmless u before).1, (harmless u before).2⟩

end Harmless

end Store

/-! ## Where writes go -/

/-- No static field of a class can be assigned. -/
def Store.Constant (s : Store) (ref : Ref) : Prop :=
  ∀ name field, (s.classes.get ref).staticField? name = some field → field.isAssignable = false

/-- A resolver of collections that is read-only, local variables of one scope, a namespace or an
implicit object. -/
def Stock.Sealed (scope : Ref) : Stock → Prop
  | locals other => other = scope
  | maps readOnly => readOnly = true
  | sequences _ readOnly => readOnly = true
  | records readOnly => readOnly = true
  | _ => True

section Target

variable {s : Store} {q : Request} {slot : Slot}

/-- The namespace of classes finds no slot on a class with constants only. -/
theorem Classes.target_ne_ok {loader : Loader}
    (constant : ∀ ref, q.base = some (.classObject ref) → s.Constant ref) :
    (resolver loader).target s q ≠ some (.ok slot) := by
  intro found
  obtain ⟨claim, claimed, placed⟩ := Option.map_eq_some_iff.1 found
  cases claim with
  | root => cases placed
  | namespaceEntry => cases placed
  | fieldOf ref =>
    cases known : field s ref q.property with
    | error x =>
      simp only [known] at placed
      cases placed
    | ok entry =>
      obtain ⟨name, field⟩ := entry
      have fixed : field.isAssignable = false :=
        constant ref (base_of_claim claimed) name field (field_eq_ok_iff.1 known).2
      simp only [known, bind, Except.bind, fixed] at placed
      cases placed

/-- A sealed resolver finds no slot for a write but a local variable, unless the base is a class
that has fields other than constants. -/
theorem Stock.Sealed.target {r : Stock} {scope : Ref} (isSealed : r.Sealed scope)
    (constant : ∀ ref, q.base = some (.classObject ref) → s.Constant ref)
    (found : r.behaviour.target s q = some (.ok slot)) : ∃ name, slot = .localVariable scope name := by
  cases r with
  | locals other =>
    cases isSealed
    obtain ⟨name, _, placed⟩ := Option.map_eq_some_iff.1 found
    cases placed
    exact ⟨name, rfl⟩
  -- sealed collections are read-only, so they answer a write with a refusal
  | maps readOnly =>
    cases isSealed
    obtain ⟨_, _, placed⟩ := Option.map_eq_some_iff.1 found
    cases placed
  | sequences kind readOnly =>
    cases isSealed
    obtain ⟨_, _, placed⟩ := Option.map_eq_some_iff.1 found
    cases placed
  | records readOnly =>
    cases isSealed
    obtain ⟨_, _, placed⟩ := Option.map_eq_some_iff.1 found
    cases placed
  | colors => exact absurd found Colors.target_ne_ok
  | implicit root value => exact absurd found Implicit.target_ne_ok
  | classes loader => exact absurd found (Classes.target_ne_ok constant)

end Target

/-! ## What expressions come to -/

/-- A write stores its value in one local variable of a scope, which reads as the value from then on,
and changes nothing else; or it fails and changes nothing at all. -/
def Attempt.StoresOneLocal (write : Attempt ρ Unit) (scope : Ref) (value : Value) (w : World ρ) : Prop :=
  (∃ fault, write.outcome w = (.error fault, w)) ∨ ∃ name,
    write.outcome w = (.ok (), { w with store := w.store.put (.localVariable scope name) value }) ∧
      w.store.Assigned (.localVariable scope name) value
        (w.store.put (.localVariable scope name) value)

/-- An expression calls core functions only, and the fixed values behind its variables are
harmless. -/
structure Compiled.Trusted (own : Option Ref) (s : Store) (c : Compiled ρ) : Prop where
  core : ∀ f ∈ c.reachableFunctions, ∃ k : CoreFunction, f = k.function
  literals : ∀ d : Compiled ρ, d.Behind c → ∀ name v, (name, Binding.literal v) ∈ d.captured →
    s.Harmless own v

/-- What a variable stands for is harmless, or an expression that is trusted. -/
inductive Binding.Trusted (own : Option Ref) (s : Store) : Binding ρ → Prop
  | literal {v : Value} (harmless : s.Harmless own v) : Trusted own s (.literal v)
  | expression {c : Compiled ρ} (trusted : c.Trusted own s) : Trusted own s (.expression c)

variable {own : Option Ref} {s t : Store} {c : Compiled ρ}

/-- An expression stays trusted while contents are kept. -/
theorem Compiled.Trusted.of_intact (trusted : c.Trusted own s) (intact : s.Intact t) : c.Trusted own t :=
  ⟨trusted.core, fun d behind name v member => (trusted.literals d behind name v member).of_intact intact⟩

/-- A binding stays trusted while contents are kept. -/
theorem Binding.Trusted.of_intact {b : Binding ρ} (trusted : b.Trusted own s) (intact : s.Intact t) :
    b.Trusted own t := by
  cases trusted with
  | literal harmless => exact .literal (harmless.of_intact intact)
  | expression trusted => exact .expression (trusted.of_intact intact)

namespace Compiled

/-- An expression is trusted if it is compiled with variables that are and with core functions. -/
theorem trusted_noting {source : String} {expr : Expr Literal} {bindings : Bindings ρ}
    {functions : FunctionTable ρ} (bound : ∀ name b, bindings.get? name = some b → b.Trusted own s)
    (core : ∀ space name f, functions.find? space name = some f → ∃ k : CoreFunction, f = k.function) :
    (noting source expr bindings functions).Trusted own s := by
  -- what is captured was bound, and so it is trusted already
  have captured : ∀ name b, (name, b) ∈ (noting source expr bindings functions).captured →
      b.Trusted own s := by
    intro name b member
    obtain ⟨other, _, noted⟩ := List.mem_filterMap.1 member
    obtain ⟨_, found, same⟩ := Option.map_eq_some_iff.1 noted
    cases same
    exact bound name b found
  constructor
  · intro f reachable
    simp only [noting, reachableFunctions] at reachable
    rcases List.mem_append.1 reachable with called | behind
    · obtain ⟨⟨call, g⟩, member, rfl⟩ := List.mem_map.1 called
      obtain ⟨_, _, noted⟩ := List.mem_filterMap.1 member
      obtain ⟨_, found, same⟩ := Option.map_eq_some_iff.1 noted
      cases same
      exact core _ _ g found
    · obtain ⟨name, b, member, reachable⟩ := Binding.exists_of_mem_functionsBehind behind
      cases captured name b member with
      | literal harmless =>
        rw [Binding.reachableFunctions] at reachable
        cases reachable
      | expression trusted =>
        rw [Binding.reachableFunctions] at reachable
        exact trusted.core f reachable
  -- a literal lies behind a variable, or behind an expression that one of them captured
  · intro d behind name v member
    rcases Relation.ReflTransGen.cases_tail behind with rfl | ⟨inner, further, other, held⟩
    · cases captured name _ member with
      | literal harmless => exact harmless
    · cases captured other _ held with
      | expression trusted => exact trusted.literals d further name v member

/-- A class that is the base of a request is one that the expression can come to. -/
theorem LeadsTo.reaches {members : List Assembly} {w reached : World ρ} {q : Request} {ref : Ref}
    (leads : c.LeadsTo (Assembly.chain members) w q reached)
    (core : ∀ f ∈ c.reachableFunctions, ∃ k : CoreFunction, f = k.function)
    (based : q.base = some (.classObject ref)) : c.Reaches members w.store (.classObject ref) := by
  -- The walk beside itself comes to a request that can come up.
  have places := (AgreeOn.refl members c w.store).landing_parallel core w w ⟨rfl, rfl⟩ not_false
  obtain ⟨unclaimed, ended⟩ := leads
  rw [ended] at places
  cases places with
  | ok results _ =>
    cases results with
    | request admitted _ =>
      cases admitted with
      | root asked => cases based
      | on place denotes =>
        cases based
        rcases place with reaches | plain
        · exact reaches
        · cases plain

/-- All that a trusted expression can come to is harmless, where all that resolvers offer is. -/
theorem Trusted.harmless {members : List Assembly} (trusted : c.Trusted own s)
    (offered : ∀ r ∈ Assembly.leavesOf members, ∀ v, r.Offers s v → s.Harmless own v) {v : Value}
    (reaches : c.Reaches members s v) : s.Harmless own v := by
  induction reaches with
  | offered member asked found =>
    rcases Stock.get_root found with offers | ⟨_, ⟨issuer, rfl⟩, _⟩
    · exact offered _ member _ offers
    · exact .marker issuer
  | captured behind member => exact trusted.literals _ behind _ _ member
  | held reached holds hypothesis => exact hypothesis.of_holds holds
  | registered reached member found hypothesis => exact offered _ member _ (.ofClasses found)

/-- So is what it reads as. -/
theorem Trusted.harmless_get {members : List Assembly} {w left : World ρ} {v : Value}
    (trusted : c.Trusted own w.store)
    (offered : ∀ r ∈ Assembly.leavesOf members, ∀ v, r.Offers w.store v → w.store.Harmless own v)
    (read : (c.handle (Assembly.chain members)).get.outcome w = (.ok v, left)) :
    w.store.Harmless own v := by
  have values := (AgreeOn.refl members c w.store).get_parallel trusted.core w w ⟨rfl, rfl⟩ not_false
  rw [read] at values
  cases values with
  | ok results _ =>
    rcases results.2 with reaches | plain
    · exact trusted.harmless offered reaches
    · exact .of_plain plain

/-- If the resolvers are sealed, and the one class that a trusted expression may come to has
constants only, then a write to the expression stores its value in a local variable of the scope,
or fails. -/
theorem Trusted.storesOneLocal {members : List Assembly} {scope : Ref} {w : World ρ}
    (trusted : c.Trusted own w.store) (isSealed : ∀ r ∈ Assembly.leavesOf members, r.Sealed scope)
    (offered : ∀ r ∈ Assembly.leavesOf members, ∀ v, r.Offers w.store v → w.store.Harmless own v)
    (constant : ∀ ref, own = some ref → w.store.Constant ref) (value : Value) :
    ((c.handle (Assembly.chain members)).set value).StoresOneLocal scope value w := by
  have frames := frames_handle_of_core members c trusted.core
  cases ended : ((c.handle (Assembly.chain members)).set value).outcome w with
  | mk result left =>
    cases result with
    | error fault =>
      -- a write that failed has changed nothing, by the frame of all requests
      have effect := frames.set value w
      rw [ended] at effect
      cases effect with
      | failed _ _ stayed =>
        cases stayed
        exact .inl ⟨fault, ended⟩
    | ok _ =>
      obtain ⟨q, reached, slot, leads, found, rfl⟩ := leadsTo_of_set ended
      have stayed : w = reached := leads.passed frames.get
      cases stayed
      -- the walk may come to a class, but then it is the one whose fields are constants
      have base : ∀ ref, q.base = some (.classObject ref) → w.store.Constant ref := by
        intro ref based
        have reaches := leads.reaches trusted.core based
        exact constant ref ((trusted.harmless offered reaches _ .refl).2 ref rfl)
      rw [Assembly.target_eq_leaves] at found
      obtain ⟨r, member, found⟩ := List.exists_of_findSome?_eq_some found
      obtain ⟨name, rfl⟩ := (isSealed r member).target base found
      have assignable : w.store.Assignable (.localVariable scope name) := trivial
      exact .inr ⟨name, ended, w.store.assigned_put assignable value⟩

end Compiled

end PropertyPath
