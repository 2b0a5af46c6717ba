import PropertyPath.Proofs.Footprint
import PropertyPath.Proofs.Twins

/-!
# Reading after a write

A write that succeeds has come to a request and has stored its value in the slot which the
first resolver to claim the request found. To read afterwards is to walk the same path again, in
a store that differs in this slot. If the walk does not look at the slot, it comes to the same
request. The resolvers before the one that took the write leave the request to others as they
did then, and the one that took the write looks at the slot it wrote: keys, indices and names
mean to reading what they mean to writing.

The walk in the changed store is compared with one that takes notes in the store as it was.
The two go side by side until the notes show the slot. That the notes do not show it in the
end is all that is assumed.
-/

namespace PropertyPath

variable {ρ σ : Type}

/-! ## The resolver that took the write -/

section Written

variable {s : Store} {q : Request} {slot : Slot} {v : Value}

/-- A local variable reads as what was written to it. -/
theorem Locals.get_put {scope : Ref} (found : (resolver scope).target s q = some (.ok slot)) :
    (resolver scope).get (s.put slot v) q = some (.ok v) := by
  obtain ⟨name, named, placed⟩ := Option.map_eq_some_iff.1 found
  cases placed
  have read : ((s.put (.localVariable scope name) v).locals scope).get? name = some v :=
    Store.read?_put_localVariable s scope name v
  simp only [resolver, named, Option.bind_some, read, Option.map_some]

/-- An entry reads as what was written to it, whether or not it was there before. -/
theorem Maps.get_put {readOnly : Bool} (found : (resolver readOnly).target s q = some (.ok slot)) :
    (resolver readOnly).get (s.put slot v) q = some (.ok v) := by
  obtain ⟨ref, isMap, placed⟩ := Option.map_eq_some_iff.1 found
  cases readOnly with
  | true => cases placed
  | false =>
    cases denoted : q.property.key? with
    | none =>
      simp only [key, denoted] at placed
      cases placed
    | some name =>
      simp only [key, denoted] at placed
      cases placed
      have read : ((s.put (.entry ref name) v).maps.get ref).get? name = some v :=
        Store.read?_put_entry s ref name v
      simp only [resolver, isMap, Option.map_some, key, denoted]
      change some (Except.ok ((((s.put (.entry ref name) v).maps.get ref).get? name).getD .null)) = _
      rw [read, Option.getD_some]

/-- An item reads as what was written to it. The length is the same, so the index comes to the same
position. -/
theorem Sequences.get_put {kind : SequenceKind} {readOnly : Bool}
    (found : (resolver kind readOnly).target s q = some (.ok slot)) :
    (resolver kind readOnly).get (s.put slot v) q = some (.ok v) := by
  have assignable : s.Assignable slot := (coherent kind readOnly).assignable found
  have read := Store.read?_put_of_assignable s assignable v
  obtain ⟨ref, isSequence, placed⟩ := Option.map_eq_some_iff.1 found
  cases readOnly with
  | true => cases placed
  | false =>
    cases denoted : q.property.index? with
    | none =>
      simp only [position, index, denoted] at placed
      cases placed
    | some i =>
      cases there : position? i (s.items kind ref).length with
      | none =>
        simp only [position, index, denoted, bind, Except.bind, there] at placed
        cases placed
      | some n =>
        simp only [position, index, denoted, bind, Except.bind, there] at placed
        cases placed
        -- the item is at the position that was found before, and the length has not changed
        have item : ((s.put (.item kind ref n) v).items kind ref)[n]? = some v := read
        simp only [resolver, isSequence, Option.map_some, index, denoted, bind, Except.bind,
          Store.length_items_put, there, Option.bind_some, item, Option.getD_some]
        rfl

/-- The property of a record that a request names is the one defined under its key. -/
theorem Records.property_eq_ok_iff {ref : Ref} {property : Value} {name : String} {found : Property} :
    Records.property s ref property = .ok (name, found)
      ↔ property.key? = some name ∧ (s.records.get ref).properties.get? name = some found := by
  constructor
  · intro known
    refine ⟨?_, get?_of_property known⟩
    simp only [Records.property] at known
    cases denoted : property.key? with
    | none => rw [denoted] at known; cases known
    | some key =>
      cases there : (s.records.get ref).properties.get? key with
      | none => rw [denoted, Option.bind_some, there] at known; cases known
      | some entry =>
        rw [denoted, Option.bind_some, there] at known
        cases known
        rfl
  · rintro ⟨denoted, there⟩
    rw [Records.property, denoted, Option.bind_some, there]
    rfl

/-- The field of a class that a request names is the static one of that name. -/
theorem Classes.field_eq_ok_iff {ref : Ref} {property : Value} {name : String} {found : Field} :
    Classes.field s ref property = .ok (name, found)
      ↔ property.key?.getD "" = name ∧ (s.classes.get ref).staticField? name = some found := by
  simp only [Classes.field]
  cases there : (s.classes.get ref).staticField? (property.key?.getD "") with
  | none =>
    constructor
    · intro known
      cases known
    · rintro ⟨rfl, here⟩
      rw [there] at here
      cases here
  | some entry =>
    constructor
    · rintro ⟨⟩
      exact ⟨rfl, there⟩
    · rintro ⟨rfl, here⟩
      rw [there] at here
      cases here
      rfl

/-- A property reads as what was written to it. -/
theorem Records.get_put {readOnly : Bool} (found : (resolver readOnly).target s q = some (.ok slot)) :
    (resolver readOnly).get (s.put slot v) q = some (.ok v) := by
  have assignable : s.Assignable slot := (coherent readOnly).assignable found
  have read := Store.read?_put_of_assignable s assignable v
  obtain ⟨ref, isRecord, placed⟩ := Option.map_eq_some_iff.1 found
  cases readOnly with
  | true => cases placed
  | false =>
    cases known : Records.property s ref q.property with
    | error x =>
      rw [known] at placed
      cases placed
    | ok entry =>
      obtain ⟨name, property⟩ := entry
      rw [known] at placed
      cases setter : property.writable with
      | false =>
        simp only [bind, Except.bind, setter] at placed
        cases placed
      | true =>
        simp only [bind, Except.bind, setter] at placed
        cases placed
        -- the property has the value, and is looked up under the same name
        have here : (((s.put (.property ref name) v).records.get ref).properties.get? name).map (·.value)
            = some v := read
        obtain ⟨property', there, value⟩ := Option.map_eq_some_iff.1 here
        have denoted : q.property.key? = some name := (property_eq_ok_iff.1 known).1
        simp only [resolver, isRecord, Option.map_some, property_eq_ok_iff.2 ⟨denoted, there⟩]
        rw [← value]
        rfl

/-- A field reads as what was written to it. It is as static after the write as before, so the class
still finds it. -/
theorem Classes.get_put {loader : Loader} (found : (resolver loader).target s q = some (.ok slot)) :
    (resolver loader).get (s.put slot v) q = some (.ok v) := by
  obtain ⟨claim, claimed, placed⟩ := Option.map_eq_some_iff.1 found
  cases claim with
  | root => cases placed
  | namespaceEntry => cases placed
  | fieldOf ref =>
    cases known : Classes.field s ref q.property with
    | error x =>
      simp only [known] at placed
      cases placed
    | ok entry =>
      obtain ⟨name, field⟩ := entry
      cases loose : field.isAssignable with
      | false =>
        simp only [known, bind, Except.bind, loose] at placed
        cases placed
      | true =>
        simp only [known, bind, Except.bind, loose] at placed
        cases placed
        obtain ⟨denoted, there⟩ := field_eq_ok_iff.1 known
        -- a write changes the value of the field and not its kind
        have after : ((s.put (.field ref name) v).classes.get ref).staticField? name
            = some { field with value := v } := Store.staticField?_put_self there v
        simp only [resolver, claimed, Option.map_some, field_eq_ok_iff.2 ⟨denoted, after⟩, Except.map]

/-- Colors take no writes. -/
theorem Colors.target_ne_ok : resolver.target s q ≠ some (.ok slot) := by
  intro found
  obtain ⟨claim, _, placed⟩ := Option.map_eq_some_iff.1 found
  cases claim with
  | root => cases placed
  | palette =>
    cases looked : Colors.lookup q.property with
    | error x => rw [looked] at placed; cases placed
    | ok color => rw [looked] at placed; cases placed

/-- Implicit objects take no writes. -/
theorem Implicit.target_ne_ok {root : String} {value : Value} :
    (resolver root value).target s q ≠ some (.ok slot) := by
  intro found
  simp only [Implicit.resolver] at found
  split at found <;> cases found

/-- A stock resolver reads the value that was stored in the slot it found for a write. -/
theorem Stock.get_put {r : Stock} (found : r.behaviour.target s q = some (.ok slot)) :
    r.behaviour.get (s.put slot v) q = some (.ok v) := by
  cases r with
  | locals scope => exact Locals.get_put found
  | maps readOnly => exact Maps.get_put found
  | sequences kind readOnly => exact Sequences.get_put found
  | records readOnly => exact Records.get_put found
  | classes loader => exact Classes.get_put found
  | colors => exact absurd found Colors.target_ne_ok
  | implicit root value => exact absurd found Implicit.target_ne_ok

/-- A resolver that leaves a write to others leaves reading to others, in every store. -/
theorem Stock.get_eq_none_of_target {r : Stock} (unclaimed : r.behaviour.target s q = none) (t : Store) :
    r.behaviour.get t q = none := by
  cases takes : r.takes q with
  | false => exact (Stock.declines takes).get
  | true =>
    have claimed := Stock.target_isSome (s := s) takes
    rw [unclaimed] at claimed
    cases claimed

/-- So a chain reads the value that was stored in the slot it found for a write. -/
theorem Assembly.get_put {members : List Assembly}
    (found : (behaviour (.nested members)).target s q = some (.ok slot)) :
    (behaviour (.nested members)).get (s.put slot v) q = some (.ok v) := by
  rw [target_eq_leaves] at found
  rw [get_eq_leaves]
  obtain ⟨before, r, after, split, claimed, unclaimed⟩ := List.findSome?_eq_some_iff.1 found
  have passed : before.findSome? (·.behaviour.get (s.put slot v) q) = none := by
    apply List.findSome?_eq_none_iff.2
    intro earlier member
    exact Stock.get_eq_none_of_target (unclaimed earlier member) _
  rw [split, List.findSome?_append, passed, List.findSome?_cons, Stock.get_put claimed]
  rfl

end Written

/-! ## Walking with notes -/

mutual

/-- A variable whose expressions call nothing, for another kind of world. -/
def Binding.withoutFunctions : Binding ρ → Binding σ
  | .literal value => .literal value
  | .expression c => .expression c.withoutFunctions

/-- An expression that calls nothing, for another kind of world. -/
def Compiled.withoutFunctions : Compiled ρ → Compiled σ
  | ⟨source, expr, captured, _⟩ => ⟨source, expr, Binding.allWithoutFunctions captured, []⟩

/-- Variables whose expressions call nothing, for another kind of world. -/
def Binding.allWithoutFunctions : List (String × Binding ρ) → List (String × Binding σ)
  | [] => []
  | (name, binding) :: rest => (name, binding.withoutFunctions) :: Binding.allWithoutFunctions rest

end

/-- Neither an expression nor one behind its variables calls a function. -/
def Compiled.CallFree (c : Compiled ρ) : Prop := ∀ d : Compiled ρ, d.Behind c → d.expr.calls = []

/-- The slots that are looked at when a value is written to an expression: those that a chain
which takes notes has noted in the end. -/
def Compiled.slotsRead (members : List Assembly) (s : Store) (c : Compiled ρ) (v : Value) : List Slot :=
  (((c.withoutFunctions.handle (Assembly.recording members)).set v).outcome ⟨s, []⟩).2.host

/-- A write to an expression comes to a request for which the chain finds a slot. -/
def Compiled.WritesTo (members : List Assembly) (c : Compiled ρ) (w : World ρ) (slot : Slot) : Prop :=
  ∃ q reached, c.LeadsTo (Assembly.chain members) w q reached ∧
    (Assembly.behaviour (.nested members)).target reached.store q = some (.ok slot)

/-- A name is bound to the same without functions, but for the functions. -/
theorem Binding.lookup_allWithoutFunctions (captured : List (String × Binding ρ)) (name : String) :
    (allWithoutFunctions captured : List (String × Binding σ)).lookup name
      = (captured.lookup name).map withoutFunctions := by
  induction captured with
  | nil => rfl
  | cons first rest hypothesis =>
    obtain ⟨other, binding⟩ := first
    rw [allWithoutFunctions, List.lookup_cons, List.lookup_cons]
    by_cases here : name = other
    · rw [beq_iff_eq.2 here]
      rfl
    · rw [beq_false_of_ne here, hypothesis]

mutual

/-- Without functions, none is behind a binding. -/
theorem Binding.reachableFunctions_withoutFunctions : ∀ binding : Binding ρ,
    (binding.withoutFunctions : Binding σ).reachableFunctions = []
  | .literal _ => by rw [Binding.withoutFunctions, Binding.reachableFunctions]
  | .expression c => by
    rw [Binding.withoutFunctions, Binding.reachableFunctions,
      Compiled.reachableFunctions_withoutFunctions c]

/-- Without functions, none is behind an expression. -/
theorem Compiled.reachableFunctions_withoutFunctions : ∀ c : Compiled ρ,
    (c.withoutFunctions : Compiled σ).reachableFunctions = []
  | ⟨_, _, captured, _⟩ => by
    rw [Compiled.withoutFunctions, Compiled.reachableFunctions,
      Binding.functionsBehind_allWithoutFunctions captured]
    rfl

/-- Without functions, none is behind any of several bindings. -/
theorem Binding.functionsBehind_allWithoutFunctions : ∀ captured : List (String × Binding ρ),
    Binding.functionsBehind (Binding.allWithoutFunctions captured : List (String × Binding σ)) = []
  | [] => by rw [Binding.allWithoutFunctions, Binding.functionsBehind]
  | (_, binding) :: rest => by
    rw [Binding.allWithoutFunctions, Binding.functionsBehind,
      Binding.reachableFunctions_withoutFunctions binding,
      Binding.functionsBehind_allWithoutFunctions rest]
    rfl

end

/-- A walk that takes notes in one store, beside a walk in another store. The first is lost when
its notes show a slot that is touched. -/
def Pairing.noting (touched : Slot → Prop) (s t : Store) (host : ρ) : Pairing (List Slot) ρ where
  related w v := w.store = s ∧ v = ⟨t, host⟩
  good _ := True
  alike _ _ := True
  lost w := ∃ slot ∈ w.host, touched slot
  words_alike _ _ _ _ _ _ := trivial
  good_literal _ := trivial

section Noting

variable {touched : Slot → Prop} {s t : Store} {host : ρ} {members : List Assembly}

/-- A request to read in a chain that takes notes: it ends as in the chain itself, and the notes
have grown by what makes a difference to the answer. -/
theorem Assembly.outcome_get_recording (members : List Assembly) (q : Request)
    (unclaimed : Store → Absence) (s : Store) (notes : List Slot) :
    ∃ noted, ((recording members).handle q unclaimed).get.outcome ⟨s, notes⟩
        = (((behaviour (.nested members)).get s q).getD (.error (.notFound (unclaimed s))),
            ⟨s, notes ++ noted⟩) ∧
      ∀ touched t, s.AgreesBut touched t → (∀ slot ∈ noted, ¬ touched slot) →
        Option.Rel SameReading ((behaviour (.nested members)).get s q)
          ((behaviour (.nested members)).get t q) := by
  obtain ⟨noted, asked, same⟩ := outcome_recording (leavesOf members) q s notes
  refine ⟨noted, ?_, ?_⟩
  · have answered : ((recording members).toResolver.get q).outcome ⟨s, notes⟩
        = ((behaviour (.nested members)).get s q, ⟨s, notes ++ noted⟩) := by
      rw [get_eq_leaves]
      exact asked
    rw [Chain.handle, outcome_claimedOr, answered]
    cases (behaviour (.nested members)).get s q <;> rfl
  · intro touched t agrees untouched
    rw [get_eq_leaves, get_eq_leaves]
    exact same touched t agrees untouched

/-- Reads go side by side in a chain that takes notes and in the chain itself, if the stores
differ in slots that are touched at most. -/
theorem Assembly.recording_parallel (agrees : s.AgreesBut touched t) :
    (recording members).Parallel (.noting touched s t host) (fun _ => True) (chain members) where
  stays q w := by
    rintro ⟨slot, member, isTouched⟩
    obtain ⟨noted, asked, _⟩ := outcome_recording (leavesOf members) q w.store w.host
    change ∃ slot ∈ ((firstClaim (·.get q) ((leavesOf members).map Stock.recording)).outcome w).2.host,
      touched slot
    rw [asked]
    exact ⟨slot, List.mem_append_left noted member, isTouched⟩
  reads q _ unclaimed _ := by
    rintro ⟨store, notes⟩ _ ⟨rfl, rfl⟩ kept
    obtain ⟨noted, ended, same⟩ := outcome_get_recording members q unclaimed store notes
    rw [ended] at kept ⊢
    rw [outcome_get]
    -- what was noted so far and what this request adds are both free of touched slots, or the walk
    -- were lost
    have untouched : ∀ slot ∈ noted, ¬ touched slot := by
      intro slot member isTouched
      exact kept ⟨slot, List.mem_append_right notes member, isTouched⟩
    have answers := same touched t agrees untouched
    generalize (behaviour (.nested members)).get store q = answer at answers
    generalize (behaviour (.nested members)).get t q = answer' at answers
    cases answers with
    | none => exact .error trivial ⟨rfl, rfl⟩
    | some readings =>
      cases readings with
      | found v => exact .ok ⟨rfl, trivial⟩ ⟨rfl, rfl⟩
      | failed x y => exact .error trivial ⟨rfl, rfl⟩

/-- A write in a chain that takes notes adds nothing to them. -/
theorem Assembly.host_set_recording (members : List Assembly) (q : Request)
    (unclaimed : Store → Absence) (v : Value) (w : World (List Slot)) :
    ((((recording members).handle q unclaimed).set v).outcome w).2.host = w.host := by
  -- a resolver that takes notes writes as the resolver itself does
  have writes : ∀ rs : List Stock, firstClaim (·.set q v) (rs.map Stock.recording)
      = firstClaim (·.set q v) ((rs.map Stock.behaviour).map StoreResolver.toResolver) := by
    intro rs
    induction rs with
    | nil => rfl
    | cons r rest hypothesis =>
      rw [List.map_cons, List.map_cons, List.map_cons, firstClaim, firstClaim, hypothesis]
      rfl
  have asked : ∃ answer store, ((recording members).toResolver.set q v).outcome w
      = (answer, { w with store }) := by
    change ∃ answer store, (firstClaim (·.set q v) ((leavesOf members).map Stock.recording)).outcome w = _
    rw [writes, StoreResolver.outcome_firstClaim_set, StoreResolver.outcome_set]
    exact ⟨_, _, rfl⟩
  obtain ⟨answer, store, asked⟩ := asked
  change ((claimedOr ((recording members).toResolver.set q v) _).outcome w).2.host = _
  rw [outcome_claimedOr, asked]
  cases answer <;> rfl

/-- What a call-free expression captured is call-free. -/
theorem Compiled.CallFree.of_capturedBy {inner outer : Compiled ρ} (callFree : outer.CallFree)
    (captured : CapturedBy inner outer) : inner.CallFree :=
  fun d behind => callFree d (behind.tail captured)

/-- An expression that calls nothing is a twin of itself without functions. -/
theorem Compiled.CallFree.twins {c : Compiled ρ} (callFree : c.CallFree) :
    Twins (.noting touched s t host) (fun _ => True)
      (fun (e : Compiled (List Slot)) (d : Compiled ρ) => e = d.withoutFunctions ∧ d.CallFree)
      c.withoutFunctions c := by
  have none : (c.withoutFunctions : Compiled (List Slot)).reachableFunctions = [] :=
    reachableFunctions_withoutFunctions c
  obtain ⟨source, expr, captured, functions⟩ := c
  rw [withoutFunctions] at none ⊢
  refine ⟨rfl, rfl, ?_, fun _ _ _ => trivial, ?_, ?_⟩
  · intro name
    rw [Binding.lookup_allWithoutFunctions]
    cases found : captured.lookup name with
    | none => exact .none
    | some binding =>
      refine .some ?_
      cases binding with
      | literal value =>
        rw [Binding.withoutFunctions]
        exact .literal trivial
      | expression inner =>
        rw [Binding.withoutFunctions]
        exact .expression ⟨rfl, callFree.of_capturedBy ⟨name, mem_of_lookup_eq_some found⟩⟩
  -- there is no call, so nothing is asked of functions
  · intro space name arguments member
    have calls : (space, name) ∈ expr.calls := Expr.mem_calls.2 ⟨arguments, member⟩
    have silent : expr.calls = [] := callFree _ .refl
    rw [silent] at calls
    cases calls
  · intro f member
    rw [none] at member
    cases member

/-- A walk that comes to a request takes the same way in a store that differs in nothing it has
noted. -/
theorem Compiled.CallFree.landing_parallel {c : Compiled ρ} (callFree : c.CallFree)
    (agrees : s.AgreesBut touched t) (host : ρ) (members : List Assembly) :
    (c.withoutFunctions.landing (Assembly.recording members)).Parallel (.noting touched s t host)
      (Landing.Parallel (.noting touched s t host) fun _ => True) (c.landing (Assembly.chain members)) := by
  have twins : ∀ (e : Compiled (List Slot)) (d : Compiled ρ), e = d.withoutFunctions ∧ d.CallFree →
      Twins (.noting touched s t host) (fun _ => True)
        (fun e d => e = d.withoutFunctions ∧ d.CallFree) e d := by
    rintro _ d ⟨rfl, callFree⟩
    exact callFree.twins
  exact (parallel_of_twins twins (Assembly.recording_parallel agrees) ⟨rfl, callFree⟩).2

end Noting

/-- A write that succeeds comes to a request, finds a slot for it and stores the value there. -/
theorem Compiled.leadsTo_of_set {members : List Assembly} {c : Compiled ρ} {v : Value} {w left : World ρ}
    (written : ((c.handle (Assembly.chain members)).set v).outcome w = (.ok (), left)) :
    ∃ q reached slot, c.LeadsTo (Assembly.chain members) w q reached ∧
      (Assembly.behaviour (.nested members)).target reached.store q = some (.ok slot) ∧
      left = { reached with store := reached.store.put slot v } := by
  rw [handle_eq_landing] at written
  rcases Handle.after_cases (c.landing (Assembly.chain members)) (Landing.handle (Assembly.chain members)) w
    with ⟨x, reached, _, fails⟩ | ⟨landing, reached, ended, continues⟩
  · rw [fails.set] at written
    cases written
  · rw [continues.set] at written
    cases landing with
    -- of the places where a walk ends only a request can be written
    | reading value refusal => cases written
    | unreachable source => cases written
    | request q unclaimed =>
      rw [Landing.handle, Assembly.outcome_set] at written
      cases found : (Assembly.behaviour (.nested members)).target reached.store q with
      | none => rw [found] at written; cases written
      | some placed =>
        rw [found] at written
        cases placed with
        | error x => cases written
        | ok slot =>
          cases written
          exact ⟨q, reached, slot, ⟨unclaimed, ended⟩, found, rfl⟩

/-- A walk that takes notes comes to the request the walk itself comes to, with the notes of a
write, and the walk leaves the world alone. -/
theorem Compiled.CallFree.noted {members : List Assembly} {c : Compiled ρ} (callFree : c.CallFree)
    {q : Request} {unclaimed : Store → Absence} {w reached : World ρ}
    (leads : (c.landing (Assembly.chain members)).outcome w = (.ok (.request q unclaimed), reached))
    (v : Value) :
    reached = w ∧ (c.withoutFunctions.landing (Assembly.recording members)).outcome ⟨w.store, []⟩
      = (.ok (.request q unclaimed), ⟨w.store, c.slotsRead members w.store v⟩) := by
  -- the two walks are in one store, and no slot is touched
  have agrees : w.store.AgreesBut (fun _ => False) w.store := .refl w.store
  have kept : ∀ notes : List Slot, ¬ ∃ slot ∈ notes, False := by
    rintro notes ⟨_, _, ⟨⟩⟩
  have ends := callFree.landing_parallel agrees w.host members ⟨w.store, []⟩ w ⟨rfl, rfl⟩ (kept _)
  rw [leads] at ends
  generalize ended : (c.withoutFunctions.landing (Assembly.recording members)).outcome ⟨w.store, []⟩ = noted
    at ends
  cases ends with
  | @ok _ _ later _ places worlds =>
    obtain ⟨same, rfl⟩ := worlds
    cases places
    refine ⟨rfl, ?_⟩
    -- the notes at the end of the walk are those of the whole write, which adds none
    have notes : c.slotsRead members w.store v = later.host := by
      rw [slotsRead, handle_eq_landing, (Handle.after_continues ended _).set]
      exact Assembly.host_set_recording members q unclaimed v later
    rw [notes, ← same]

/-- In a chain of stock resolvers, nested in any way, let a write to an expression succeed. The
expression calls no function, and neither does one it captured. The write has stored the value
in one slot of the store and changed nothing else. If that slot is not among those looked at in
making the write, reading the expression afterwards gives the value and changes nothing.

Proof: the walk of the write is made once more beside a walk that notes the slots it looks at.
The two stores agree on the noted slots, since the slot that was written is not one of them, so
the walk of the reading comes to the same request. There the coherent resolver that took the
write answers with the value. -/
theorem Compiled.write_then_read (members : List Assembly) (c : Compiled ρ) (callFree : c.CallFree)
    (v : Value) (w left : World ρ)
    (written : ((c.handle (Assembly.chain members)).set v).outcome w = (.ok (), left))
    (apart : ∀ slot, c.WritesTo members w slot → slot ∉ c.slotsRead members w.store v) :
    (∃ slot, c.WritesTo members w slot ∧ left = { w with store := w.store.put slot v }) ∧
    (c.handle (Assembly.chain members)).get.outcome left = (.ok v, left) := by
  obtain ⟨q, reached, slot, ⟨unclaimed, leads⟩, found, rfl⟩ := leadsTo_of_set written
  obtain ⟨rfl, noted⟩ := callFree.noted leads v
  have writes : c.WritesTo members reached slot := ⟨q, reached, ⟨unclaimed, leads⟩, found⟩
  refine ⟨⟨slot, writes, rfl⟩, ?_⟩
  have assignable : reached.store.Assignable slot := (Assembly.coherent _).assignable found
  have agrees : reached.store.AgreesBut (· = slot) (reached.store.put slot v) :=
    (Store.assigned_put reached.store assignable v).agreesBut
  -- in the store after the write the walk comes to the same request, since it looked at no slot
  -- that was written
  have again : (c.landing (Assembly.chain members)).outcome ⟨reached.store.put slot v, reached.host⟩
      = (.ok (.request q unclaimed), ⟨reached.store.put slot v, reached.host⟩) := by
    have ends := callFree.landing_parallel agrees reached.host members ⟨reached.store, []⟩
      ⟨reached.store.put slot v, reached.host⟩ ⟨rfl, rfl⟩
    rw [noted] at ends
    have kept : ¬ ∃ other ∈ c.slotsRead members reached.store v, other = slot := by
      rintro ⟨_, member, rfl⟩
      exact apart _ writes member
    have matched := ends kept
    generalize (c.landing (Assembly.chain members)).outcome _ = ended at matched ⊢
    cases matched with
    | ok places worlds =>
      obtain ⟨_, rfl⟩ := worlds
      cases places
      rfl
  -- there the resolver that took the write answers with the value
  rw [handle_eq_landing, (Handle.after_continues again _).get, Landing.handle, Assembly.outcome_get,
    Assembly.get_put found]
  rfl

/-- An entry of a map that a local variable holds. -/
def entryOfHeldMap : Compiled Unit where
  source := "m.k"
  expr := .path (.identifier "m") [.property "k"]
  captured := []
  functions := []

/-- Writing the entry looks at the local variable, and reading gives what was written. -/
theorem entryOfHeldMap_write_then_read :
    let members : List Assembly := [.stock (.locals ⟨0⟩), .nested [.stock (.maps false)]]
    let w : World Unit := ⟨Store.put {} (.localVariable ⟨0⟩ "m") (.map ⟨0⟩), ()⟩
    let left : World Unit := ⟨w.store.put (.entry ⟨0⟩ "k") (.boolean true), ()⟩
    entryOfHeldMap.CallFree ∧
    ((entryOfHeldMap.handle (Assembly.chain members)).set (.boolean true)).outcome w = (.ok (), left) ∧
    (∀ slot, entryOfHeldMap.WritesTo members w slot →
      slot ∉ entryOfHeldMap.slotsRead members w.store (.boolean true)) ∧
    (entryOfHeldMap.handle (Assembly.chain members)).get.outcome left = (.ok (.boolean true), left) := by
  intro members w left
  have callFree : entryOfHeldMap.CallFree := by
    intro d behind
    rw [behind.eq_of_nil rfl]
    rfl
  have written : ((entryOfHeldMap.handle (Assembly.chain members)).set (.boolean true)).outcome w
      = (.ok (), left) := rfl
  have apart : ∀ slot, entryOfHeldMap.WritesTo members w slot →
      slot ∉ entryOfHeldMap.slotsRead members w.store (.boolean true) := by
    rintro slot ⟨q, reached, ⟨unclaimed, leads⟩, found⟩
    have comes : ∃ text, (entryOfHeldMap.landing (Assembly.chain members)).outcome w
        = (.ok (.request (.on (.map ⟨0⟩) (.string "k")) text), w) := ⟨_, rfl⟩
    obtain ⟨text, comes⟩ := comes
    rw [comes] at leads
    cases leads
    have entry : (Assembly.behaviour (.nested members)).target w.store (.on (.map ⟨0⟩) (.string "k"))
        = some (.ok (.entry ⟨0⟩ "k")) := rfl
    rw [entry] at found
    cases found
    have looked : entryOfHeldMap.slotsRead members w.store (.boolean true) = [.localVariable ⟨0⟩ "m"] := rfl
    rw [looked]
    intro member
    cases List.mem_singleton.1 member
  exact ⟨callFree, written, apart,
    (Compiled.write_then_read members entryOfHeldMap callFree _ w left written apart).2⟩

end PropertyPath
