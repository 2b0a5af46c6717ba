import PropertyPath.Proofs.NestedChains

/-!
# Whose turn it is

A resolver that keeps a journal adds its label to the host's data whenever it is asked, and is
otherwise the resolver that it was. So the journal that a request leaves tells which leaves of a
chain had their turn, and in which order, whatever these leaves are.

A turn is an observation of what a leaf does in the world that the leaves before it have left. A
request for a property ends with the first leaf that answers it: the leaves up to there are asked
once each, from left to right, and no other. A listing asks all of them.
-/

namespace PropertyPath

variable {ι ρ α β : Type}

/-! ## Journals -/

/-- A world whose host keeps a journal besides. -/
def World.noting (w : World ρ) (journal : List ι) : World (ρ × List ι) :=
  ⟨w.store, (w.host, journal)⟩

/-- Notes that an action is begun. -/
def Action.journaled (label : ι) (m : Action ρ α) : Action (ρ × List ι) α := fun w =>
  ((m.outcome ⟨w.store, w.host.1⟩).1,
    (m.outcome ⟨w.store, w.host.1⟩).2.noting (w.host.2 ++ [label]))

/-- An action that is journaled does what it did, and its label is the last in the journal. -/
theorem Action.outcome_journaled (label : ι) (m : Action ρ α) (w : World ρ) (journal : List ι) :
    (m.journaled label).outcome (w.noting journal)
      = ((m.outcome w).1, (m.outcome w).2.noting (journal ++ [label])) := rfl

/-- A labelled resolver that notes every request that is made of it. -/
def Resolver.journaled (labelled : ι × Resolver ρ) : Resolver (ρ × List ι) where
  name := labelled.2.name
  get q := (labelled.2.get q).journaled labelled.1
  type q := (labelled.2.type q).journaled labelled.1
  readOnly q := (labelled.2.readOnly q).journaled labelled.1
  set q value := (labelled.2.set q value).journaled labelled.1
  features base := (labelled.2.features base).journaled labelled.1
  commonType base := (labelled.2.commonType base).journaled labelled.1

/-- A request of a journaling resolver is the request, journaled. This holds of all requests
alike. -/
theorem Query.ask_journaled (query : Query) (labelled : ι × Resolver ρ) :
    query.ask (Resolver.journaled labelled) = (query.ask labelled.2).journaled labelled.1 := by
  cases query <;> rfl

/-! ## Turns -/

/-- The turns of labelled resolvers from a world on: which of them are asked, the first answer,
and the world after it. Nothing is required of the resolvers after that. -/
inductive Turns (ask : Resolver ρ → Action ρ (Option β)) :
    List (ι × Resolver ρ) → World ρ → List ι → Option β → World ρ → Prop where
  | nobody (w : World ρ) : Turns ask [] w [] none w
  | answered {label : ι} {r : Resolver ρ} {rest : List (ι × Resolver ρ)} {w reached : World ρ}
      {answer : β} (observed : (ask r).outcome w = (some answer, reached)) :
      Turns ask ((label, r) :: rest) w [label] (some answer) reached
  | passed {label : ι} {r : Resolver ρ} {rest : List (ι × Resolver ρ)} {w between reached : World ρ}
      {asked : List ι} {answer : Option β} (observed : (ask r).outcome w = (none, between))
      (later : Turns ask rest between asked answer reached) :
      Turns ask ((label, r) :: rest) w (label :: asked) answer reached

namespace Turns

variable {ask : Resolver ρ → Action ρ (Option β)} {leaves : List (ι × Resolver ρ)}
  {w reached : World ρ} {asked : List ι} {answer : Option β}

/-- Resolvers have their turns in their order, one turn each. -/
theorem inOrder (turns : Turns ask leaves w asked answer reached) : asked <+: leaves.map (·.1) := by
  induction turns with
  | nobody w => exact List.prefix_refl []
  | answered observed => exact ⟨_, rfl⟩
  | passed observed later hypothesis => exact (List.prefix_cons_inj _).2 hypothesis

/-- Turns end as the search for the first answer does. -/
theorem outcome (turns : Turns ask leaves w asked answer reached) :
    ((leaves.map (ask ·.2)).foldr Action.otherwise (pure none)).outcome w = (answer, reached) := by
  induction turns with
  | nobody w => rfl
  | answered observed =>
    rw [List.map_cons, List.foldr_cons, Action.outcome_otherwise, observed]
  | passed observed later hypothesis =>
    rw [List.map_cons, List.foldr_cons, Action.outcome_otherwise, observed]
    exact hypothesis

/-- With journals, they end the same way, and the journal is what was asked. -/
theorem outcome_journaled (turns : Turns ask leaves w asked answer reached) (journal : List ι) :
    ((leaves.map fun x => (ask x.2).journaled x.1).foldr Action.otherwise (pure none)).outcome
      (w.noting journal) = (answer, reached.noting (journal ++ asked)) := by
  induction turns generalizing journal with
  | nobody w => rw [List.append_nil]; rfl
  | answered observed =>
    rw [List.map_cons, List.foldr_cons, Action.outcome_otherwise, Action.outcome_journaled, observed]
  | @passed label r rest w between reached asked answer observed later hypothesis =>
    have further := hypothesis (journal ++ [label])
    rw [List.append_assoc, List.singleton_append] at further
    rw [List.map_cons, List.foldr_cons, Action.outcome_otherwise, Action.outcome_journaled, observed]
    exact further

end Turns

/-- There are turns from every world on. -/
theorem exists_turns (ask : Resolver ρ → Action ρ (Option β)) (leaves : List (ι × Resolver ρ))
    (w : World ρ) : ∃ asked answer reached, Turns ask leaves w asked answer reached := by
  induction leaves generalizing w with
  | nil => exact ⟨[], none, w, .nobody w⟩
  | cons first rest hypothesis =>
    cases observed : (ask first.2).outcome w with
    | mk answer reached =>
      cases answer with
      | some answer => exact ⟨[first.1], some answer, reached, .answered observed⟩
      | none =>
        obtain ⟨asked, answer, left, later⟩ := hypothesis reached
        exact ⟨first.1 :: asked, answer, left, .passed observed later⟩

/-- Listings with journals list the same, and the journal has all labels. -/
theorem outcome_followedBy_journaled (ask : Resolver ρ → Action ρ (List β))
    {leaves : List (ι × Resolver ρ)} {w reached : World ρ} {listed : List β}
    (ended : ((leaves.map (ask ·.2)).foldr Action.followedBy (pure [])).outcome w = (listed, reached))
    (journal : List ι) :
    ((leaves.map fun x => (ask x.2).journaled x.1).foldr Action.followedBy (pure [])).outcome
      (w.noting journal) = (listed, reached.noting (journal ++ leaves.map (·.1))) := by
  induction leaves generalizing w reached listed journal with
  | nil =>
    obtain ⟨rfl, rfl⟩ := Prod.mk.inj ended
    rw [List.map_nil, List.map_nil, List.append_nil]
    rfl
  | cons first rest hypothesis =>
    simp only [List.map_cons, List.foldr_cons, Action.followedBy, Action.outcome_bind,
      Action.outcome_pure] at ended
    obtain ⟨rfl, rfl⟩ := Prod.mk.inj ended
    have further := hypothesis (w := ((ask first.2).outcome w).2) rfl (journal ++ [first.1])
    rw [List.append_assoc, List.singleton_append] at further
    simp only [List.map_cons, List.foldr_cons, Action.followedBy, Action.outcome_bind,
      Action.outcome_pure, Action.outcome_journaled, further]
    rfl

/-! ## Changed chains -/

namespace Member

/-- A chain of members, after changes to it. -/
def changed (make : α → Resolver ρ) (members : List (Member α)) (edits : List (Edit α)) : Chain ρ :=
  edits.foldl (Edit.onChain make) (nested make members)

/-- The flat chain of the leaves of members, after the corresponding changes to it. -/
def changedFlat (make : α → Resolver ρ) (members : List (Member α)) (edits : List (Edit α)) : Chain ρ :=
  Edit.allOnFlat make edits members (flat make members)

/-- The leaves of members after changes. -/
def changedLeaves (members : List (Member α)) (edits : List (Edit α)) : List α :=
  leavesOf (Edit.allOnMembers edits members)

/-- The resolvers of a changed flat chain are the changed leaves. -/
theorem changedFlat_resolvers (make : α → Resolver ρ) (members : List (Member α)) (edits : List (Edit α)) :
    (changedFlat make members edits).resolvers = (changedLeaves members edits).map make := by
  rw [changedFlat, Edit.allOnFlat_flat, flat, changedLeaves]

/-- A changed nested chain is the same resolver as the changed flat chain. -/
theorem toResolver_changed (make : α → Resolver ρ) (members : List (Member α)) (edits : List (Edit α)) :
    (changed make members edits).toResolver = (changedFlat make members edits).toResolver := by
  rw [changed, Edit.foldl_onChain_nested, toResolver_nested, changedFlat, Edit.allOnFlat_flat]

/-- A changed chain answers by putting together the answers of the changed leaves, however it is
nested. -/
theorem ask_changed {γ : Type} {ask : Resolver ρ → γ} {op : γ → γ → γ} {unit : γ}
    (together : Resolver.PutTogether ask op unit) (make : α → Resolver ρ) (members : List (Member α))
    (edits : List (Edit α)) : ask (changed make members edits).toResolver
      = (((changedLeaves members edits).map make).map ask).foldr op unit := by
  rw [toResolver_changed, ← changedFlat_resolvers, ← together.ofChain]

section Requests

variable {members : List (Member (ι × Resolver ρ))} {edits : List (Edit (ι × Resolver ρ))}
  {query : Query} {w reached : World ρ} {asked : List ι} {answer : Option query.Found}

/-- Turns tell the answer of a changed chain, and the world after it. -/
theorem outcome_ask_of_turns (turns : Turns query.ask (changedLeaves members edits) w asked answer reached) :
    (query.ask (changed (·.2) members edits).toResolver).outcome w = (answer, reached) := by
  rw [ask_changed query.putTogether, List.map_map]
  exact turns.outcome

/-- With journals kept, they also tell what is noted: the labels of those who had their turn, in
order, behind whatever stood there before. -/
theorem outcome_ask_noting_of_turns
    (turns : Turns query.ask (changedLeaves members edits) w asked answer reached) (journal : List ι) :
    (query.ask (changed Resolver.journaled members edits).toResolver).outcome (w.noting journal)
      = (answer, reached.noting (journal ++ asked)) := by
  have journaled : query.ask ∘ Resolver.journaled
      = fun x : ι × Resolver ρ => (query.ask x.2).journaled x.1 := funext query.ask_journaled
  rw [ask_changed query.putTogether, List.map_map, journaled]
  exact turns.outcome_journaled journal

end Requests

/-- What a write through a chain ends in: a write that nobody takes is refused, in words of the
world that asking has left. -/
def assigned (q : Request) (answer : Answer Unit) (reached : World ρ) : Except Fault Unit :=
  answer.getD (.error (.notWritable (.unclaimed (reached.store.text q.property))))

/-- An assignment through a chain makes the request to write, and turns a missing answer into a
fault. -/
theorem outcome_assign {c : Chain ρ} {q : Request} {value : Value} {answer : Answer Unit}
    {w reached : World ρ} (ended : (c.toResolver.set q value).outcome w = (answer, reached)) :
    (c.assign q value).outcome w = (assigned q answer reached, reached) := by
  rw [Chain.assign, outcome_claimedOr, ended]
  cases answer <;> rfl

/-- A chain of members is the flat chain of their leaves, and stays so when both are changed. Asked
for a property, a write or the common type it asks the leaves from left to right, once each and none
behind the first that answers; a listing asks all of them.

Proof: a nested chain asks its members in turn, so by induction over the members it is the flat
chain of the leaves. Turns are determined by what the leaves do, and a chain that keeps a journal
takes the same turns and notes each of them. -/
theorem nesting_is_transparent (members : List (Member (ι × Resolver ρ)))
    (edits : List (Edit (ι × Resolver ρ))) :
    let leaves := changedLeaves members edits
    let outer := changed (·.2) members edits
    let noting := changed Resolver.journaled members edits
    (∀ (σ : Type) (make : ι × Resolver ρ → Resolver σ),
      (changedFlat make members edits).resolvers = leaves.map make
      ∧ (changed make members edits).toResolver = (changedFlat make members edits).toResolver
      ∧ (changed make members edits).assign = (changedFlat make members edits).assign)
    ∧ ∀ (w : World ρ) (journal : List ι),
      (∀ query : Query, ∃ asked answer reached,
        Turns query.ask leaves w asked answer reached
        ∧ asked <+: leaves.map (·.1)
        ∧ (query.ask outer.toResolver).outcome w = (answer, reached)
        ∧ (query.ask noting.toResolver).outcome (w.noting journal)
          = (answer, reached.noting (journal ++ asked)))
      ∧ (∀ (q : Request) (value : Value), ∃ asked answer reached,
        Turns (·.set q value) leaves w asked answer reached
        ∧ asked <+: leaves.map (·.1)
        ∧ (outer.assign q value).outcome w = (assigned q answer reached, reached)
        ∧ (noting.assign q value).outcome (w.noting journal)
          = (assigned q answer reached, reached.noting (journal ++ asked)))
      ∧ ∀ base : Option Value, ∃ listed reached,
        (outer.toResolver.features base).outcome w = (listed, reached)
        ∧ (noting.toResolver.features base).outcome (w.noting journal)
          = (listed, reached.noting (journal ++ leaves.map (·.1))) := by
  refine ⟨fun σ make => ⟨changedFlat_resolvers make members edits,
    toResolver_changed make members edits, ?_⟩, fun w journal => ⟨fun query => ?_, fun q value => ?_,
    fun base => ?_⟩⟩
  · funext q value
    rw [Chain.assign, toResolver_changed, Chain.assign]
  -- the turns of the leaves are determined by what they do, and both chains follow them
  · obtain ⟨asked, answer, reached, turns⟩ := exists_turns query.ask (changedLeaves members edits) w
    exact ⟨asked, answer, reached, turns, turns.inOrder, outcome_ask_of_turns turns,
      outcome_ask_noting_of_turns turns journal⟩
  -- an assignment is a request to write, with a fault for want of an answer
  · obtain ⟨asked, answer, reached, turns⟩ :=
      exists_turns (Query.set q value).ask (changedLeaves members edits) w
    refine ⟨asked, answer, reached, turns, turns.inOrder, ?_, ?_⟩
    · exact outcome_assign (outcome_ask_of_turns turns)
    · exact outcome_assign (outcome_ask_noting_of_turns turns journal)
  · cases ended : ((changed (·.2) members edits).toResolver.features base).outcome w with
    | mk listed reached =>
      -- a listing has no first answer to stop at, so every leaf has its turn
      have together {ρ : Type} := Resolver.putTogether_features (ρ := ρ) base
      rw [ask_changed together, List.map_map] at ended
      refine ⟨listed, reached, rfl, ?_⟩
      rw [ask_changed together, List.map_map]
      exact outcome_followedBy_journaled (·.features base) ended journal

end Member

end PropertyPath
