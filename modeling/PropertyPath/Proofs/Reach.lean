import PropertyPath.Proofs.Landing

/-!
# How far a path is walked

A path with segments is walked to its last one by all four requests, and the walk
ends in one of three ways. It reaches a base and a property there, and the requests
are those of the chain on the two. It comes to a base that is null with segments
still ahead, and goes no further: the path reads as null and is out of reach for
the other requests. Or it fails, and all four fail with it.

The walk is an attempt in a world that holds whatever resolvers and functions keep,
a record of their calls included. To end in the same world is therefore to have made
the same requests and calls in the same order. That the segments after a null base
are not evaluated is said in the same way: whatever they are, the requests end in
the world in which that base was found.
-/

namespace PropertyPath

variable {ρ : Type}

/-- The four requests in a world come to a null base before the end of the path, and
leave the world in which that base was found. -/
structure Handle.StopsAtNull (h : Handle ρ) (source : String) (w reached : World ρ) : Prop where
  get : h.get.outcome w = (.ok .null, reached)
  type : h.type.outcome w = (.error (.notFound (.unreachable source)), reached)
  readOnly : h.readOnly.outcome w = (.error (.notFound (.unreachable source)), reached)
  set : ∀ value, (h.set value).outcome w = (.error (.notFound (.unreachable source)), reached)

section Locate

variable (env : Environment ρ)

/-- To locate the last of some segments ends at a property or out of reach. -/
theorem Segment.locate_lands {first : Segment Literal} {rest : List (Segment Literal)}
    {base : Value} {w reached : World ρ} {target : Target}
    (located : (Segment.locate env first rest base).outcome w = (.ok target, reached)) :
    (∃ place key, target = .property place key) ∨ target = .unreachable := by
  induction rest generalizing first base w with
  | nil =>
    rw [Segment.locate] at located
    split at located
    · cases located
      exact .inr rfl
    · obtain ⟨key, later, _, ended⟩ := Attempt.outcome_bind_eq_ok_iff.1 located
      cases ended
      exact .inl ⟨base, key, rfl⟩
  | cons next rest hypothesis =>
    rw [Segment.locate] at located
    split at located
    · cases located
      exact .inr rfl
    · obtain ⟨property, later, _, ended⟩ := Attempt.outcome_bind_eq_ok_iff.1 located
      obtain ⟨value, further, _, ended⟩ := Attempt.outcome_bind_eq_ok_iff.1 ended
      exact hypothesis ended

/-- From null there is no way to a further segment, whatever it is. -/
theorem Segment.locate_null (first : Segment Literal) (rest : List (Segment Literal)) :
    Segment.locate env first rest .null = pure .unreachable := by
  cases rest <;> rw [locate, if_pos (Value.isNull_iff.2 rfl)]

/-- Segments are out of reach exactly if some of them, but not all, lead to null. The
induction is on the segments after the first; while the base is not null, both walks
take the same step. -/
theorem Segment.locate_unreachable_iff {first : Segment Literal} {rest : List (Segment Literal)}
    {base : Value} {w reached : World ρ} :
    (Segment.locate env first rest base).outcome w = (.ok .unreachable, reached) ↔
      ∃ before after, first :: rest = before ++ after ∧ after ≠ [] ∧
        (Segment.walk env before base).outcome w = (.ok .null, reached) := by
  induction rest generalizing first base w with
  | nil =>
    constructor
    -- one segment: it is out of reach only if the base is null already
    · intro located
      rw [locate] at located
      split at located
      · rename_i absent
        cases located
        refine ⟨[], [first], rfl, List.cons_ne_nil _ _, ?_⟩
        rw [Value.isNull_iff.1 absent]
        rfl
      · obtain ⟨key, later, _, ended⟩ := Attempt.outcome_bind_eq_ok_iff.1 located
        cases ended
    · rintro ⟨before, after, split, remaining, ended⟩
      rcases List.cons_eq_append_iff.1 split with ⟨rfl, _⟩ | ⟨earlier, rfl, none⟩
      · cases ended
        rw [locate_null]
        rfl
      · exact absurd (List.append_eq_nil_iff.1 none.symm).2 remaining
  | cons next rest hypothesis =>
    constructor
    -- both walks find the same key and read the same value, and go on from there
    · intro located
      rw [locate] at located
      split at located
      · rename_i absent
        cases located
        refine ⟨[], first :: next :: rest, rfl, List.cons_ne_nil _ _, ?_⟩
        rw [Value.isNull_iff.1 absent]
        rfl
      · rename_i present
        obtain ⟨key, later, keyed, ended⟩ := Attempt.outcome_bind_eq_ok_iff.1 located
        obtain ⟨value, further, read, ended⟩ := Attempt.outcome_bind_eq_ok_iff.1 ended
        obtain ⟨before, after, split, remaining, null⟩ := hypothesis.1 ended
        refine ⟨first :: before, after, by rw [split, List.cons_append], remaining, ?_⟩
        rw [walk, if_neg present, Attempt.outcome_bind_ok keyed, Attempt.outcome_bind_ok read]
        exact null
    · rintro ⟨before, after, split, remaining, ended⟩
      rcases List.cons_eq_append_iff.1 split with ⟨rfl, _⟩ | ⟨earlier, rfl, ahead⟩
      · cases ended
        rw [locate_null]
        rfl
      -- a proper part of the path that is not empty begins with the first segment
      · rw [walk] at ended
        by_cases absent : base.isNull = true
        · rw [if_pos absent] at ended
          cases ended
          rw [Value.isNull_iff.1 absent, locate_null]
          rfl
        · rw [if_neg absent] at ended
          obtain ⟨key, later, keyed, ended⟩ := Attempt.outcome_bind_eq_ok_iff.1 ended
          obtain ⟨value, further, read, ended⟩ := Attempt.outcome_bind_eq_ok_iff.1 ended
          rw [locate, if_neg absent, Attempt.outcome_bind_ok keyed, Attempt.outcome_bind_ok read]
          exact hypothesis.2 ⟨earlier, after, ahead, remaining, ended⟩

/-- The target of a path with segments is a property or out of reach. -/
theorem Root.target_lands {root : Root Literal} {first : Segment Literal}
    {rest : List (Segment Literal)} {w reached : World ρ} {target : Target}
    (found : (root.target env (first :: rest)).outcome w = (.ok target, reached)) :
    (∃ base key, target = .property base key) ∨ target = .unreachable := by
  obtain ⟨base, later, _, located⟩ := Attempt.outcome_bind_eq_ok_iff.1 found
  exact Segment.locate_lands env located

/-- A path is out of reach exactly if the root with some of its segments, but not all,
reads as null. -/
theorem Root.target_unreachable_iff {root : Root Literal} {first : Segment Literal}
    {rest : List (Segment Literal)} {w reached : World ρ} :
    (root.target env (first :: rest)).outcome w = (.ok .unreachable, reached) ↔
      ∃ before after, first :: rest = before ++ after ∧ after ≠ [] ∧
        (Expr.value env (.path root before)).outcome w = (.ok .null, reached) := by
  simp only [target, Expr.value, Attempt.outcome_bind_eq_ok_iff, Segment.locate_unreachable_iff]
  constructor
  · rintro ⟨base, later, started, before, after, split, remaining, null⟩
    exact ⟨before, after, split, remaining, base, later, started, null⟩
  · rintro ⟨before, after, split, remaining, base, later, started, null⟩
    exact ⟨base, later, started, before, after, split, remaining, null⟩

end Locate

/-- All four requests on an expression that comes to a null base stop there. -/
theorem Compiled.stopsAtNull (chain : Chain ρ) (c : Compiled ρ) {root : Root Literal}
    {segments : List (Segment Literal)} (path : c.expr = .path root segments) {w reached : World ρ}
    (found : (root.target (c.environment chain) segments).outcome w = (.ok .unreachable, reached)) :
    (c.handle chain).StopsAtNull c.source w reached := by
  rw [handle_eq, path, Expr.handle_path]
  constructor
  · exact Attempt.outcome_bind_ok found _
  · exact Attempt.outcome_bind_ok found _
  · exact Attempt.outcome_bind_ok found _
  · exact fun value => Attempt.outcome_bind_ok found _

/-- For a path with segments, in any chain and with any functions, the search for its
target decides all four requests, begun in the same world.

Where the search finds a base and a property, the requests go on from the world it
has reached as those of the chain on the two; what nobody claims to read, to type or
to find writable is a property not found. Where it comes to null, reading gives null
and the others are out of reach. Where it fails, all four fail with the same fault.

It comes to null exactly if a proper part of the path reads as null. The requests then
leave the world that this part has left, with any segments after it in place of the
ones that are there.

Proof: all four requests are one search with a continuation, so its outcome is followed by the
outcome of the continuation. That the search comes to null exactly if a proper part reads as null
is an induction on the segments, as it is the walk over that part that stops. -/
theorem Compiled.requests_follow_target (chain : Chain ρ) (source : String) (root : Root Literal)
    (first : Segment Literal) (rest : List (Segment Literal)) (captured : List (String × Binding ρ))
    (functions : List ((String × String) × Function ρ)) (w : World ρ) :
    let along (segments : List (Segment Literal)) : Compiled ρ :=
      ⟨source, .path root segments, captured, functions⟩
    let requests := (along (first :: rest)).handle chain
    let env := (along (first :: rest)).environment chain
    let search := (root.target env (first :: rest)).outcome w
    (match search with
      | (.ok (.property base key), reached) =>
        requests.Continues w
          (chain.handle (.on base key) fun s => .propertyOfType (s.text key) (s.typeOf base)) reached
      | (.ok .unreachable, reached) => requests.StopsAtNull source w reached
      | (.error x, reached) => requests.Fails w x reached
      | (.ok (.root _), _) | (.ok .callResult, _) => False) ∧
    ∀ reached, (search = (.ok .unreachable, reached) ↔
        ∃ before after, first :: rest = before ++ after ∧ after ≠ [] ∧
          (Expr.value env (.path root before)).outcome w = (.ok .null, reached)) ∧
      ∀ before, (Expr.value env (.path root before)).outcome w = (.ok .null, reached) →
        ∀ after, after ≠ [] → ((along (before ++ after)).handle chain).StopsAtNull source w reached := by
  intro along requests env search
  refine ⟨?_, fun reached => ⟨Root.target_unreachable_iff env, ?_⟩⟩
  -- all four requests begin with one search and differ only in what they do where it ends
  · have asked : requests = .after (root.target env (first :: rest)) fun target =>
        target.handle env root := by
      rw [← Expr.handle_path, ← handle_eq]
    rw [asked]
    rcases Handle.after_cases (root.target env (first :: rest))
        (fun target => target.handle env root) w with
      ⟨x, reached, ended, fails⟩ | ⟨target, reached, ended, continues⟩
    · rw [show search = (.error x, reached) from ended]
      exact fails
    · rw [show search = (.ok target, reached) from ended]
      rcases Root.target_lands env ended with ⟨base, key, rfl⟩ | rfl
      · exact continues
      · exact ⟨continues.get, continues.type, continues.readOnly, continues.set⟩
  -- the same part reads as null whatever stands behind it
  · intro before null after remaining
    obtain ⟨next, others, split⟩ :=
      List.exists_cons_of_ne_nil (List.append_ne_nil_of_right_ne_nil before remaining)
    have found : (root.target env (before ++ after)).outcome w = (.ok .unreachable, reached) := by
      rw [split]
      exact (Root.target_unreachable_iff env).2 ⟨before, after, split.symm, remaining, null⟩
    exact Compiled.stopsAtNull chain (along (before ++ after)) rfl found

end PropertyPath
