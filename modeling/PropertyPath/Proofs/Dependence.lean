import PropertyPath.Proofs.Conservation
import PropertyPath.Proofs.Likeness

/-!
# What evaluation depends on

An expression can come to the values that resolvers offer under the names it leaves to the chain,
to the fixed values it captured, and from these to all that they hold, directly or through
others. Whoever has come to the marker of the classes has come to the registered classes too.

Nothing else matters. In two worlds whose stores agree on these names and have the same contents
of these values, an expression that calls core functions gives the same answers, and a write ends
in the same fault or goes to the same slot. The rest of the two stores may differ, in values that
are never come to; so may what the host keeps.
-/

namespace PropertyPath

variable {ρ : Type}

/-- The values an expression can come to in a chain of stock resolvers. -/
inductive Compiled.Reaches (members : List Assembly) (s : Store) (c : Compiled ρ) : Value → Prop where
  | offered {r : Stock} {name : String} {v : Value} (member : r ∈ Assembly.leavesOf members)
      (asked : c.Asks name) (found : r.behaviour.get s (.root name) = some (.ok v)) :
      Reaches members s c v
  | captured {d : Compiled ρ} {name : String} {v : Value} (behind : d.Behind c)
      (member : (name, .literal v) ∈ d.captured) : Reaches members s c v
  | held {u v : Value} (reached : Reaches members s c u) (holds : s.Holds u v) : Reaches members s c v
  | registered {loader : Classes.Loader} {name : String} {ref : Ref}
      (reached : Reaches members s c (.marker .classes))
      (member : .classes loader ∈ Assembly.leavesOf members) (found : loader.load? s name = some ref) :
      Reaches members s c (.classObject ref)

/-- Two stores agree on the local variables that an expression leaves to the chain, on the
contents of the values it can come to, and on the registered classes if it can come to them. -/
structure Compiled.AgreeOn (members : List Assembly) (c : Compiled ρ) (s t : Store) : Prop where
  locals : ∀ scope, .locals scope ∈ Assembly.leavesOf members → ∀ name, c.Asks name →
    (t.locals scope).get? name = (s.locals scope).get? name
  contents : ∀ v, c.Reaches members s v → s.SameContents t v
  registries : c.Reaches members s (.marker .classes) → ∀ loader,
    .classes loader ∈ Assembly.leavesOf members → loader.load? t = loader.load? s

/-- Every store agrees with itself. -/
theorem Compiled.AgreeOn.refl (members : List Assembly) (c : Compiled ρ) (s : Store) :
    c.AgreeOn members s s :=
  ⟨fun _ _ _ _ => rfl, fun v _ => s.sameContents_refl v, fun _ _ _ => rfl⟩

/-! ## Two runs, each in a world of its own -/

/-- Two runs that stay where they begin, each in a world of its own, in stores that are alike on
the values that may come up. -/
def Pairing.beside {good : Value → Prop} (w v : World ρ) (alike : w.store.Alike good v.store) :
    Pairing ρ ρ where
  related w' v' := w' = w ∧ v' = v
  good
  alike x y := x = y
  lost _ := False
  words_alike := by
    rintro _ _ ⟨rfl, rfl⟩ a b good' good'' words
    rw [alike.text_eq good', alike.typeOf_eq good'']
  good_literal l := alike.plain (by cases l <;> rfl)

/-- Two attempts end in one result, each in the world in which it begins. -/
def Attempt.EndAlike {α : Type} (m n : Attempt ρ α) (w v : World ρ) : Prop :=
  ∃ result, m.outcome w = (result, w) ∧ n.outcome v = (result, v)

section Beside

variable {α : Type} {good : Value → Prop} {w v : World ρ} {alike : w.store.Alike good v.store}

/-- Runs that are parallel in worlds of their own end alike, if related results are equal. -/
theorem Attempt.Parallel.endAlike {S : α → α → Prop} {m n : Attempt ρ α}
    (along : m.Parallel (.beside w v alike) S n) (equal : ∀ a b, S a b → a = b) : m.EndAlike n w v := by
  have ends := along w v ⟨rfl, rfl⟩ not_false
  generalize endsLeft : m.outcome w = ended at ends
  generalize endsRight : n.outcome v = ended' at ends
  cases ends with
  | ok results worlds =>
    obtain ⟨rfl, rfl⟩ := worlds
    cases equal _ _ results
    exact ⟨_, endsLeft, endsRight⟩
  | error faults worlds =>
    obtain ⟨rfl, rfl⟩ := worlds
    cases faults
    exact ⟨_, endsLeft, endsRight⟩

/-- A core function goes side by side with itself, since its arguments look the same. -/
theorem CoreFunction.parallel_beside (f : CoreFunction) :
    Function.Parallel (.beside w v alike) (f.function : Function ρ) f.function := by
  apply Function.parallel_of_body
  rintro arguments taken w' v' ⟨rfl, rfl⟩ _
  have ended (u : World ρ) : ((f.function : Function ρ).body arguments).outcome u
      = (f.apply u.store arguments, u) := rfl
  rw [ended, ended, f.apply_eq alike taken]
  cases applied : f.apply w'.store arguments with
  | error x => exact .error rfl ⟨rfl, rfl⟩
  | ok value => exact .ok ⟨rfl, alike.plain (governor?_apply applied)⟩ ⟨rfl, rfl⟩

end Beside

/-! ## One chain in two stores -/

namespace Compiled.AgreeOn

variable {members : List Assembly} {c : Compiled ρ} {s t : Store}

/-- The values that may come up: those an expression can come to, and those that hold nothing. -/
def Candidate (members : List Assembly) (s : Store) (c : Compiled ρ) (v : Value) : Prop :=
  c.Reaches members s v ∨ v.governor? = none

/-- Stores that agree on what an expression can come to are alike on all that may come up. -/
theorem alike (agree : c.AgreeOn members s t) : s.Alike (Candidate members s c) t where
  contents := by
    rintro v (reached | plain)
    · exact agree.contents v reached
    · cases v with
      | sequence kind ref => cases plain
      | map ref => cases plain
      | record ref => cases plain
      | classObject ref => cases plain
      | _ => trivial
  held := by
    rintro u (reached | plain) v holds
    · exact .inl (.held reached holds)
    · exact absurd plain holds.governed
  plain := .inr

/-- What a resolver reads for a request that may come up may come up. -/
theorem candidate_of_get {q : Request} (admitted : q.Admitted (Candidate members s c) c.Asks) {r : Stock}
    (member : r ∈ Assembly.leavesOf members) {v : Value} (found : r.behaviour.get s q = some (.ok v)) :
    Candidate members s c v := by
  cases admitted with
  | root asked => exact .inl (.offered member asked found)
  | @on base key place denotes =>
    rcases Stock.get_on found with plain | holds | ⟨rfl, ⟨_, ⟨⟩, kind⟩, offers⟩
    · exact .inr plain
    · rcases place with reached | plain
      · exact .inl (.held reached holds)
      · exact absurd plain holds.governed
    · rcases place with reached | plain
      · cases offers with
        | ofLocals there => cases kind
        | ofImplicit => cases kind
        | ofClasses registered => exact .inl (.registered reached member registered)
      · cases plain

/-- So may the property that is asked for. -/
theorem candidate_property {q : Request} (admitted : q.Admitted (Candidate members s c) c.Asks) :
    Candidate members s c q.property := by
  cases admitted with
  | root asked => exact .inr rfl
  | on place denotes => exact denotes

/-- The chain answers such a request alike in both stores. -/
theorem answersAlike (agree : c.AgreeOn members s t) {q : Request}
    (admitted : q.Admitted (Candidate members s c) c.Asks) :
    (Assembly.behaviour (.nested members)).AnswersAlike s t q := by
  refine Assembly.answersAlike fun r member => ?_
  cases admitted with
  | root asked =>
    refine Stock.answersAlike_root agree.alike ?_ fun v found => .inl (.offered member asked found)
    rintro scope rfl
    exact agree.locals scope member _ asked
  | on place denotes =>
    refine Stock.answersAlike_on agree.alike place denotes ?_
    rintro rfl loader rfl
    rcases place with reached | plain
    · exact agree.registries reached loader member
    · cases plain

end Compiled.AgreeOn

/-! ## One expression in two worlds -/

section Runs

variable {members : List Assembly} {c : Compiled ρ} {w v : World ρ}

/-- Reads go side by side in one chain, in two worlds that agree. -/
theorem Compiled.AgreeOn.chain_parallel (agree : c.AgreeOn members w.store v.store) :
    (Assembly.chain members : Chain ρ).Parallel (.beside w v agree.alike) c.Asks
      (Assembly.chain members) where
  stays _ _ lost := lost
  reads q admitted unclaimed words := by
    rintro w' v' ⟨rfl, rfl⟩ _
    have worded := words w' v' ⟨rfl, rfl⟩
    rw [Assembly.outcome_get, Assembly.outcome_get, (agree.answersAlike admitted).get]
    cases found : (Assembly.behaviour (.nested members)).get w'.store q with
    | none => exact .error worded ⟨rfl, rfl⟩
    | some claimed =>
      cases claimed with
      | error x => exact .error rfl ⟨rfl, rfl⟩
      | ok value =>
        rw [Assembly.get_eq_leaves] at found
        obtain ⟨r, member, found⟩ := List.exists_of_findSome?_eq_some found
        exact .ok ⟨rfl, AgreeOn.candidate_of_get admitted member found⟩ ⟨rfl, rfl⟩

/-- An expression that calls core functions keeps to what may come up. -/
theorem Compiled.AgreeOn.keepsTo (agree : c.AgreeOn members w.store v.store)
    (core : ∀ f ∈ c.reachableFunctions, ∃ k : CoreFunction, f = k.function) :
    c.KeepsTo (.beside w v agree.alike) c.Asks := by
  refine ⟨fun name asks => asks, fun d behind name value member => .inl (.captured behind member), ?_⟩
  intro f member
  obtain ⟨k, rfl⟩ := core f member
  exact k.parallel_beside

/-- So it reads the same in both worlds, -/
theorem Compiled.AgreeOn.get_parallel (agree : c.AgreeOn members w.store v.store)
    (core : ∀ f ∈ c.reachableFunctions, ∃ k : CoreFunction, f = k.function) :
    (c.handle (Assembly.chain members)).get.Parallel (.beside w v agree.alike)
      (Pairing.beside w v agree.alike).Same (c.handle (Assembly.chain members)).get :=
  ((agree.keepsTo core).parallel (fun _ => not_false) agree.chain_parallel).1

/-- and comes to the same place. -/
theorem Compiled.AgreeOn.landing_parallel (agree : c.AgreeOn members w.store v.store)
    (core : ∀ f ∈ c.reachableFunctions, ∃ k : CoreFunction, f = k.function) :
    (c.landing (Assembly.chain members)).Parallel (.beside w v agree.alike)
      (Landing.Parallel (.beside w v agree.alike) c.Asks) (c.landing (Assembly.chain members)) :=
  ((agree.keepsTo core).parallel (fun _ => not_false) agree.chain_parallel).2

/-- A write ends in one fault in both worlds, and leaves them alone, or stores the value in one
slot in both. The slot reads as the value from then on, and nothing else has changed. -/
def Attempt.WriteAlike (m n : Attempt ρ Unit) (value : Value) (w v : World ρ) : Prop :=
  (∃ x, m.outcome w = (.error x, w) ∧ n.outcome v = (.error x, v)) ∨
    ∃ slot, m.outcome w = (.ok (), { w with store := w.store.put slot value })
      ∧ n.outcome v = (.ok (), { v with store := v.store.put slot value })
      ∧ w.store.Assigned slot value (w.store.put slot value)
      ∧ v.store.Assigned slot value (v.store.put slot value)

/-- Four requests end alike in two worlds. -/
structure Handle.EndAlike (h k : Handle ρ) (w v : World ρ) : Prop where
  get : h.get.EndAlike k.get w v
  type : h.type.EndAlike k.type w v
  readOnly : h.readOnly.EndAlike k.readOnly w v
  set : ∀ value, (h.set value).WriteAlike (k.set value) value w v

/-- The requests on a place to which both runs have come end alike. -/
theorem Landing.Parallel.endAlike (agree : c.AgreeOn members w.store v.store) {landing landing' : Landing ρ}
    (places : landing.Parallel (.beside w v agree.alike) c.Asks landing') :
    Handle.EndAlike (landing.handle (Assembly.chain members)) (landing'.handle (Assembly.chain members))
      w v := by
  cases places with
  | @reading m n values refusal words =>
    -- a fault quotes nothing but values on which the stores are alike
    have worded : Fault.notWritable (refusal w.store) = .notWritable (refusal v.store) :=
      words w v ⟨rfl, rfl⟩
    have types : Attempt.Parallel (.beside w v agree.alike) Eq
        (do let value ← m; return (← get).store.typeOf value)
        (do let value ← n; return (← get).store.typeOf value) := by
      refine Attempt.parallel_bind values ?_ fun _ _ lost => lost
      rintro value _ ⟨rfl, good⟩ _ _ ⟨rfl, rfl⟩ _
      exact .ok (agree.alike.typeOf_eq good).symm ⟨rfl, rfl⟩
    refine ⟨values.endAlike fun _ _ => And.left, types.endAlike fun _ _ => id, ⟨_, rfl, rfl⟩,
      fun value => .inl ⟨_, rfl, congrArg (fun x => (Except.error x, v)) worded.symm⟩⟩
  | @request q admitted unclaimed words =>
    have answers := agree.answersAlike admitted
    have worded : Fault.notFound (unclaimed w.store) = .notFound (unclaimed v.store) :=
      words w v ⟨rfl, rfl⟩
    constructor
    · refine ⟨_, Assembly.outcome_get .., ?_⟩
      rw [Landing.handle, Assembly.outcome_get, answers.get, worded]
    · refine ⟨_, Assembly.outcome_type .., ?_⟩
      rw [Landing.handle, Assembly.outcome_type, answers.type, worded]
    · refine ⟨_, Assembly.outcome_readOnly .., ?_⟩
      rw [Landing.handle, Assembly.outcome_readOnly, answers.readOnly, worded]
    · intro value
      -- the refusal of a write quotes the property
      have refused : v.store.text q.property = w.store.text q.property :=
        agree.alike.text_eq (Compiled.AgreeOn.candidate_property admitted)
      have coherent := Assembly.coherent (.nested members)
      have target := answers.target
      rw [Attempt.WriteAlike, Landing.handle, Assembly.outcome_set, Assembly.outcome_set, target, refused]
      -- the slot is the same in both stores, and takes the value in both
      cases found : (Assembly.behaviour (.nested members)).target w.store q with
      | none => exact .inl ⟨_, rfl, rfl⟩
      | some placed =>
        cases placed with
        | error x => exact .inl ⟨x, rfl, rfl⟩
        | ok slot =>
          rw [found] at target
          exact .inr ⟨slot, rfl, rfl, w.store.assigned_put (coherent.assignable found) value,
            v.store.assigned_put (coherent.assignable target) value⟩
  | unreachable source =>
    exact ⟨⟨_, rfl, rfl⟩, ⟨_, rfl, rfl⟩, ⟨_, rfl, rfl⟩, fun value => .inl ⟨_, rfl, rfl⟩⟩

/-- Requests on what two searches find end alike, if the searches go side by side and the
requests on what they find end alike. -/
theorem Handle.endAlike_after {α : Type} {good : Value → Prop} {alike : w.store.Alike good v.store}
    {S : α → α → Prop} {found found' : Attempt ρ α} {next next' : α → Handle ρ}
    (search : found.Parallel (.beside w v alike) S found')
    (each : ∀ a b, S a b → Handle.EndAlike (next a) (next' b) w v) :
    Handle.EndAlike (after found next) (after found' next') w v := by
  have ends := search w v ⟨rfl, rfl⟩ not_false
  -- both searches end in the worlds in which they began, so what follows begins there too
  generalize endsLeft : found.outcome w = ended at ends
  generalize endsRight : found'.outcome v = ended' at ends
  cases ends with
  | ok results worlds =>
    obtain ⟨rfl, rfl⟩ := worlds
    have left := after_continues endsLeft next
    have right := after_continues endsRight next'
    have places := each _ _ results
    constructor
    · rw [Attempt.EndAlike, left.get, right.get]
      exact places.get
    · rw [Attempt.EndAlike, left.type, right.type]
      exact places.type
    · rw [Attempt.EndAlike, left.readOnly, right.readOnly]
      exact places.readOnly
    · intro value
      rw [Attempt.WriteAlike, left.set, right.set]
      exact places.set value
  | error faults worlds =>
    obtain ⟨rfl, rfl⟩ := worlds
    cases faults
    have left := after_fails endsLeft next
    have right := after_fails endsRight next'
    exact ⟨⟨_, left.get, right.get⟩, ⟨_, left.type, right.type⟩, ⟨_, left.readOnly, right.readOnly⟩,
      fun value => .inl ⟨_, left.set value, right.set value⟩⟩

end Runs

/-- Evaluation depends on nothing but what can be come to. Let an expression call core functions
only, and let two worlds agree on what it can come to in a chain of stock resolvers, nested in any
way. Then reading it, its type and whether it can be written end in the same results in both, and
leave the worlds alone; a write of any value ends in the same fault and leaves the worlds alone,
or stores the value in the same slot.

Proof: the two worlds are run side by side. The walk asks for nothing outside what the expression
can come to, where they agree, so it ends in the same place in both; the requests there see the
same slot. -/
theorem Compiled.depends_on_reach (members : List Assembly) (c : Compiled ρ)
    (core : ∀ f ∈ c.reachableFunctions, ∃ k : CoreFunction, f = k.function) (w v : World ρ)
    (agree : c.AgreeOn members w.store v.store) :
    Handle.EndAlike (c.handle (Assembly.chain members)) (c.handle (Assembly.chain members)) w v := by
  rw [handle_eq_landing]
  exact Handle.endAlike_after (agree.landing_parallel core) fun _ _ places => places.endAlike agree

/-- Nothing but the map and its entry is come to from the name that the expression leaves to the
chain. -/
theorem entryInLocal_reaches {v : Value}
    (reaches : entryInLocal.Reaches ((Stock.locals ⟨0⟩ :: Stock.collections false).map .stock) mapInLocal v) :
    v = .map ⟨0⟩ ∨ v = .string "x" := by
  induction reaches with
  | offered member _ found =>
    rw [Assembly.leavesOf_stock] at member
    rcases Stock.get_root found with offers | ⟨root, _⟩
    · exact mapInLocal_offers member offers
    · have unnamed : ∀ r ∈ Stock.locals ⟨0⟩ :: Stock.collections false, r.root? = none := by
        simp [Stock.collections, Stock.root?]
      rw [unnamed _ member] at root
      cases root
  | captured behind member =>
    rw [behind.eq_of_nil rfl] at member
    cases member
  | held _ holds _ => exact mapInLocal_holds holds
  | registered _ member _ =>
    rw [Assembly.leavesOf_stock] at member
    simp [Stock.collections] at member

/-- The answers do not change with a map that is not come to. -/
theorem entryInLocal_beside_other_map :
    let members : List Assembly := (Stock.locals ⟨0⟩ :: Stock.collections false).map .stock
    let h := entryInLocal.handle (Assembly.chain members)
    let w : World Unit := ⟨mapInLocal, ()⟩
    let v : World Unit := ⟨mapInLocal.put (.entry ⟨1⟩ "z") (.boolean true), ()⟩
    entryInLocal.AgreeOn members w.store v.store ∧ h.EndAlike h w v := by
  intro members h w v
  have agree : entryInLocal.AgreeOn members w.store v.store := by
    refine ⟨fun _ _ _ _ => rfl, ?_, ?_⟩
    · intro u reached
      rcases entryInLocal_reaches reached with rfl | rfl
      · rfl
      · trivial
    · intro marker
      rcases entryInLocal_reaches marker with absurdity | absurdity <;> cases absurdity
  exact ⟨agree, Compiled.depends_on_reach members entryInLocal nofun w v agree⟩

end PropertyPath
