import PropertyPath.Proofs.Domains
import PropertyPath.Proofs.Leaves
import PropertyPath.Proofs.Twins

/-!
# Chains that can be interchanged

One chain of stock resolvers can stand for another if both give the same answers. They need
not do so in every store and to every request. It is enough that they do in stores of a kind
and to requests by values of a kind, if what they answer is of the kind again, and if writing
such values keeps the kind of store. An expression cannot tell the two chains apart then, as
long as the fixed values and the functions it captured keep to the kind as well.
-/

namespace PropertyPath

variable {ρ α β : Type}

/-- Two runs in one world, in stores of a kind and with values of a kind, that end alike. -/
def Pairing.same (clean : Store → Prop) (good : Value → Prop) (literals : ∀ l : Literal, good l.value) :
    Pairing ρ ρ where
  related w v := w = v ∧ clean w.store
  good
  alike x y := x = y
  lost _ := False
  words_alike := by
    rintro w _ ⟨rfl, _⟩ a b _ _ words
    rfl
  good_literal := literals

/-- Two resolvers on the store answer a request alike, in all four ways. -/
structure StoreResolver.Agrees (r other : StoreResolver) (s : Store) (q : Request) : Prop where
  get : r.get s q = other.get s q
  type : r.type s q = other.type s q
  readOnly : r.readOnly s q = other.readOnly s q
  target : r.target s q = other.target s q

/-- Chains agree on a request if their leaves come to the same first answer, whatever is asked
that resolvers decline which leave the request to others. -/
theorem Assembly.agrees_of_leaves {members others : List Assembly} {s : Store} {q : Request}
    (same : ∀ {β : Type} (ask : Stock → Option β),
      (∀ r : Stock, r.behaviour.Declines s q → ask r = none) →
      (leavesOf members).findSome? ask = (leavesOf others).findSome? ask) :
    (behaviour (.nested members)).Agrees (behaviour (.nested others)) s q := by
  constructor
  · rw [get_eq_leaves, get_eq_leaves]
    exact same _ fun r declines => declines.get
  · rw [type_eq_leaves, type_eq_leaves]
    exact same _ fun r declines => declines.type
  · rw [readOnly_eq_leaves, readOnly_eq_leaves]
    exact same _ fun r declines => declines.readOnly
  · rw [target_eq_leaves, target_eq_leaves]
    exact same _ fun r declines => declines.target

/-- Where only one of the stock resolvers in a chain takes a request, all is a matter of that one. -/
theorem Assembly.agrees_of_single {members : List Assembly} {x : Stock} (present : x ∈ leavesOf members)
    {q : Request} (single : ∀ r ∈ leavesOf members, r.takes q = true → r = x) (s : Store) :
    (behaviour (.nested members)).Agrees (behaviour (.nested [.stock x])) s q := by
  apply agrees_of_leaves
  intro β ask declines
  refine (findSome?_eq_of_alike present ?_).trans (List.findSome?_singleton ..).symm
  intro r member
  by_cases takes : r.takes q = true
  · rw [single r member takes]
    exact .inr rfl
  · exact .inl (declines r (Stock.declines (Bool.eq_false_iff.mpr takes)))

/-- The four requests of two handles go side by side. -/
structure Handle.Parallel (p : Pairing ρ ρ) (h k : Handle ρ) : Prop where
  get : h.get.Parallel p p.Same k.get
  type : h.type.Parallel p Eq k.type
  readOnly : h.readOnly.Parallel p Eq k.readOnly
  set : ∀ value, p.good value → (h.set value).Parallel p Eq (k.set value)

section Same

variable {clean : Store → Prop} {good : Value → Prop} {literals : ∀ l : Literal, good l.value}

/-- One outcome is a pair of its own, if what it returns may come up. -/
theorem Pairing.matched_same {S : α → α → Prop} {result : Except Fault α} {w : World ρ}
    (begun : clean w.store) (results : ∀ a, result = .ok a → S a a) :
    (same clean good literals).Matched S (result, w) (result, w) := by
  cases result with
  | error x => exact .error rfl ⟨rfl, begun⟩
  | ok a => exact .ok (results a rfl) ⟨rfl, begun⟩

/-- Nothing gets lost when two runs are in one world. -/
theorem Attempt.within_same (m : Attempt ρ α) : m.Within (Pairing.same clean good literals).Loses :=
  fun _ lost => lost.elim

/-- Requests on what two searches find go side by side if they do at all that is found. -/
theorem Handle.parallel_after {S : α → β → Prop} {found : Attempt ρ α} {found' : Attempt ρ β}
    {next : α → Handle ρ} {next' : β → Handle ρ}
    (search : found.Parallel (Pairing.same clean good literals) S found')
    (each : ∀ a b, S a b → Handle.Parallel (.same clean good literals) (next a) (next' b)) :
    Handle.Parallel (.same clean good literals) (after found next) (after found' next') where
  get := Attempt.parallel_bind search (fun a b results => (each a b results).get)
    fun _ => Attempt.within_same _
  type := Attempt.parallel_bind search (fun a b results => (each a b results).type)
    fun _ => Attempt.within_same _
  readOnly := Attempt.parallel_bind search (fun a b results => (each a b results).readOnly)
    fun _ => Attempt.within_same _
  set value taken := Attempt.parallel_bind search (fun a b results => (each a b results).set value taken)
    fun _ => Attempt.within_same _

/-- Two attempts that go side by side end in one outcome, and in a store of the kind. -/
theorem Attempt.Parallel.outcome_eq {S : α → α → Prop} {m n : Attempt ρ α}
    (along : m.Parallel (.same clean good literals) S n) (equal : ∀ a b, S a b → a = b) {w : World ρ}
    (begun : clean w.store) : m.outcome w = n.outcome w ∧ clean (m.outcome w).2.store := by
  have ends := along w w ⟨rfl, begun⟩ not_false
  generalize m.outcome w = ended at ends ⊢
  generalize n.outcome w = ended' at ends ⊢
  cases ends with
  | ok results worlds =>
    obtain ⟨rfl, still⟩ := worlds
    rw [equal _ _ results]
    exact ⟨rfl, still⟩
  | error faults worlds =>
    obtain ⟨rfl, still⟩ := worlds
    cases faults
    exact ⟨rfl, still⟩

end Same

/-- A function goes side by side with itself if its body does; a call that is refused for its
number of arguments ends alike in any case. -/
theorem Function.parallel_of_body {p : Pairing ρ ρ} {f : Function ρ}
    (body : ∀ arguments, (∀ a ∈ arguments, p.good a) →
      (f.body arguments).Parallel p p.Same (f.body arguments)) : f.Parallel p f := by
  intro arguments taken
  rw [call]
  cases f.arity with
  | none => exact body arguments taken
  | some expected =>
    by_cases fits : arguments.length = expected
    · simp only [if_pos fits]
      exact body arguments taken
    · simp only [if_neg fits]
      exact Attempt.parallel_throw _

/-- Two chains of stock resolvers that can be interchanged, in stores and for values of a kind
and for names that may be asked. -/
structure Assembly.Interchangeable (clean : Store → Prop) (good : Value → Prop)
    (asked : String → Prop) (members others : List Assembly) : Prop where
  literals : ∀ l : Literal, good l.value
  agree : ∀ {s}, clean s → ∀ {q : Request}, q.Admitted good asked →
    (behaviour (.nested members)).Agrees (behaviour (.nested others)) s q
  reads : ∀ {s}, clean s → ∀ {q : Request}, q.Admitted good asked → ∀ {v},
    (behaviour (.nested members)).get s q = some (.ok v) → good v
  writes : ∀ {s}, clean s → ∀ {slot}, s.Assignable slot → ∀ {v}, good v → clean (s.put slot v)

/-- An expression keeps to a pairing: it asks the chain for no other names, and what it
captured, or what was captured by expressions it captured, are fixed values that may come up
and functions that go side by side with themselves. -/
structure Compiled.KeepsTo (p : Pairing ρ ρ) (asked : String → Prop) (c : Compiled ρ) : Prop where
  names : ∀ name, c.Asks name → asked name
  literals : ∀ d : Compiled ρ, d.Behind c → ∀ name value,
    (name, Binding.literal value) ∈ d.captured → p.good value
  functions : ∀ f ∈ c.reachableFunctions, f.Parallel p f

/-- An expression that was captured keeps to what the one around it keeps to. -/
theorem Compiled.KeepsTo.of_capturedBy {p : Pairing ρ ρ} {asked : String → Prop}
    {inner outer : Compiled ρ} (keeps : outer.KeepsTo p asked) (captured : CapturedBy inner outer) :
    inner.KeepsTo p asked where
  names name asks := keeps.names name (asks.of_capturedBy captured)
  literals d behind := keeps.literals d (behind.tail captured)
  functions f reachable := keeps.functions f (mem_reachableFunctions_of_capturedBy captured reachable)

/-- An expression that keeps to a pairing in which nothing gets lost is a twin of itself. -/
theorem Compiled.KeepsTo.twins {p : Pairing ρ ρ} {asked : String → Prop} (nothing : ∀ w, ¬ p.lost w)
    {c : Compiled ρ} (keeps : c.KeepsTo p asked) :
    Twins p asked (fun c d => c = d ∧ c.KeepsTo p asked) c c := by
  refine ⟨rfl, rfl, ?_, fun name member free => keeps.names name ⟨c, .refl, member, free⟩, ?_,
    fun f _ arguments w lost => absurd lost (nothing w)⟩
  · intro name
    cases found : c.captured.lookup name with
    | none => exact .none
    | some binding =>
      have member : (name, binding) ∈ c.captured := mem_of_lookup_eq_some found
      refine .some ?_
      cases binding with
      | literal value => exact .literal (keeps.literals c .refl name value member)
      | expression inner => exact .expression ⟨rfl, keeps.of_capturedBy ⟨name, member⟩⟩
  · intro space name arguments _
    cases found : c.functions.lookup (space, name) with
    | none => exact .none
    | some f => exact .some (keeps.functions f (mem_reachableFunctions_of_lookup found))

/-- So it reads the same and comes to the same place in chains whose reads go side by side. -/
theorem Compiled.KeepsTo.parallel {p : Pairing ρ ρ} {asked : String → Prop} (nothing : ∀ w, ¬ p.lost w)
    {chain other : Chain ρ} (chains : chain.Parallel p asked other) {c : Compiled ρ}
    (keeps : c.KeepsTo p asked) :
    (c.handle chain).get.Parallel p p.Same (c.handle other).get ∧
      (c.landing chain).Parallel p (Landing.Parallel p asked) (c.landing other) := by
  have twins : ∀ c d : Compiled ρ, c = d ∧ c.KeepsTo p asked →
      Twins p asked (fun c d => c = d ∧ c.KeepsTo p asked) c d := by
    rintro c _ ⟨rfl, keeps⟩
    exact keeps.twins nothing
  exact parallel_of_twins twins chains ⟨rfl, keeps⟩

namespace Assembly.Interchangeable

variable {clean : Store → Prop} {good : Value → Prop} {asked : String → Prop}
  {members others : List Assembly} (same : Interchangeable clean good asked members others)

include same

/-- The requests for a property that may come up go side by side. -/
theorem handle_parallel {q : Request} (admitted : q.Admitted good asked) (unclaimed : Store → Absence) :
    Handle.Parallel (.same clean good same.literals : Pairing ρ ρ)
      ((chain members).handle q unclaimed) ((chain others).handle q unclaimed) where
  get := by
    rintro w _ ⟨rfl, begun⟩ _
    rw [outcome_get, outcome_get, ← (same.agree begun admitted).get]
    refine Pairing.matched_same begun ?_
    intro v read
    cases answer : (behaviour (.nested members)).get w.store q with
    | none =>
      rw [answer] at read
      cases read
    | some claimed =>
      rw [answer] at read
      have found : claimed = .ok v := read
      rw [found] at answer
      -- what is read may come up, so the walk may go on from it
      exact ⟨rfl, same.reads begun admitted answer⟩
  type := by
    rintro w _ ⟨rfl, begun⟩ _
    rw [outcome_type, outcome_type, ← (same.agree begun admitted).type]
    exact Pairing.matched_same begun fun _ _ => rfl
  readOnly := by
    rintro w _ ⟨rfl, begun⟩ _
    rw [outcome_readOnly, outcome_readOnly, ← (same.agree begun admitted).readOnly]
    exact Pairing.matched_same begun fun _ _ => rfl
  set value taken := by
    rintro w _ ⟨rfl, begun⟩ _
    rw [outcome_set, outcome_set, ← (same.agree begun admitted).target]
    cases found : (behaviour (.nested members)).target w.store q with
    | none => exact .error rfl ⟨rfl, begun⟩
    | some placed =>
      cases placed with
      | error x => exact .error rfl ⟨rfl, begun⟩
      | ok slot =>
        -- the same slot takes the same value, and the store after that is as clean as before
        have assignable : w.store.Assignable slot := (coherent (.nested members)).assignable found
        exact .ok rfl ⟨rfl, same.writes begun assignable taken⟩

/-- Chains that can be interchanged answer the four requests in parallel, as long as only names that
are asked for come to the root. -/
theorem chain_parallel : (chain members : Chain ρ).Parallel (.same clean good same.literals) asked
    (chain others) where
  stays _ _ lost := lost.elim
  reads _ admitted unclaimed _ := (same.handle_parallel admitted unclaimed).get

/-- The requests on a place that both runs come to go side by side. -/
theorem landing_parallel {landing landing' : Landing ρ}
    (places : landing.Parallel (.same clean good same.literals) asked landing') :
    Handle.Parallel (.same clean good same.literals) (landing.handle (chain members))
      (landing'.handle (chain others)) := by
  cases places with
  | reading values words =>
    refine ⟨values, ?_, Attempt.parallel_pure rfl, fun value _ => Attempt.parallel_failWith words⟩
    refine Attempt.parallel_bind values ?_ fun _ => Attempt.within_same _
    rintro value _ ⟨rfl, _⟩ w _ ⟨rfl, begun⟩ _
    exact .ok rfl ⟨rfl, begun⟩
  | request admitted words => exact same.handle_parallel admitted _
  | unreachable source =>
    exact ⟨Attempt.parallel_pure ⟨rfl, same.literals .null⟩, Attempt.parallel_throw _,
      Attempt.parallel_throw _, fun value _ => Attempt.parallel_throw _⟩

/-- The four requests on an expression that keeps to the pairing go side by side in chains
that can be interchanged. -/
theorem compiled_parallel {c : Compiled ρ} (keeps : c.KeepsTo (.same clean good same.literals) asked) :
    Handle.Parallel (.same clean good same.literals) (c.handle (chain members))
      (c.handle (chain others)) := by
  rw [Compiled.handle_eq_landing, Compiled.handle_eq_landing]
  refine Handle.parallel_after (keeps.parallel (fun _ => not_false) same.chain_parallel).2 ?_
  exact fun landing landing' places => same.landing_parallel places

end Assembly.Interchangeable

end PropertyPath
