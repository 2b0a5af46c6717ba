import PropertyPath.Proofs.Reach

/-!
# Environments that agree

An expression asks its environment for the names and the functions at its roots and at
the roots of the paths inside it, and for the chain. Environments that agree on these
give it the same value, by the same requests and calls. They lead its path to the same
target, and there the requests differ at most in the source that a fault quotes.
-/

namespace PropertyPath

variable {ρ α : Type}

/-- Environments with one chain in which the names and calls at some roots mean the same. -/
structure Environment.AgreesOn (env other : Environment ρ) (roots : List (Root Literal)) : Prop where
  chain : env.chain = other.chain
  ofVariable : ∀ name, .identifier name ∈ roots → env.variableOf name = other.variableOf name
  ofFunction : ∀ space name arguments, .call space name arguments ∈ roots →
    env.functionOf space name = other.functionOf space name

variable {env other : Environment ρ}

namespace Environment.AgreesOn

variable {roots fewer : List (Root Literal)}

/-- Environments that agree on some roots agree on fewer. -/
theorem mono (agrees : env.AgreesOn other roots) (included : ∀ r ∈ fewer, r ∈ roots) :
    env.AgreesOn other fewer where
  chain := agrees.chain
  ofVariable name member := agrees.ofVariable name (included _ member)
  ofFunction space name arguments member := agrees.ofFunction space name arguments (included _ member)

/-- Agreement on two lists of roots is agreement on the first. -/
theorem left {more : List (Root Literal)} (agrees : env.AgreesOn other (roots ++ more)) :
    env.AgreesOn other roots := agrees.mono fun _ => List.mem_append_left more

/-- It is agreement on the second as well. The inductions below take the roots of an expression
apart with these two. -/
theorem right {before : List (Root Literal)} (agrees : env.AgreesOn other (before ++ roots)) :
    env.AgreesOn other roots := agrees.mono fun _ => List.mem_append_right before

/-- A name among the roots stands for the same in both environments, whether it is bound or left to
the chain. -/
theorem name (agrees : env.AgreesOn other roots) {name : String} (member : .identifier name ∈ roots) :
    env.name name = other.name name := by
  simp only [Environment.name, rootHandle, agrees.ofVariable name member, agrees.chain]

/-- Properties are the business of the chain, so they are the same in both. -/
theorem propertyHandle (agrees : env.AgreesOn other roots) (base property : Value) :
    env.propertyHandle base property = other.propertyHandle base property := by
  simp only [Environment.propertyHandle, agrees.chain]

end Environment.AgreesOn

mutual

/-- The value of an expression depends on its roots and the chain alone. -/
theorem Expr.value_congr : ∀ e : Expr Literal, env.AgreesOn other e.roots →
    e.value env = e.value other
  | .literal _, _ => by rw [Expr.value, Expr.value]
  | .path root segments, agrees => by
    rw [Expr.roots, ← List.cons_append] at agrees
    rw [Expr.value, Expr.value, Root.value_congr root agrees.left,
      Segment.walk_congr segments agrees.right]

/-- The value of a root depends on that root and on those inside its arguments. -/
theorem Root.value_congr : ∀ root : Root Literal, env.AgreesOn other (root :: root.innerRoots) →
    root.value env = root.value other
  | .identifier name, agrees => by rw [Root.value, Root.value, agrees.name List.mem_cons_self]
  | .call space name arguments, agrees => by
    have inner := agrees.mono fun _ => List.mem_cons_of_mem _
    rw [Root.innerRoots] at inner
    rw [Root.value, Root.value, agrees.ofFunction space name arguments List.mem_cons_self,
      Expr.values_congr arguments inner]

/-- The key of a segment depends on the roots inside its index. -/
theorem Segment.key_congr : ∀ segment : Segment Literal, env.AgreesOn other segment.roots →
    segment.key env = segment.key other
  | .property _, _ => by rw [Segment.key, Segment.key]
  | .index index, agrees => by
    rw [Segment.roots] at agrees
    rw [Segment.key, Segment.key, Expr.value_congr index agrees]

/-- The values of arguments depend on their roots. -/
theorem Expr.values_congr : ∀ es : List (Expr Literal), env.AgreesOn other (Expr.rootsOf es) →
    Expr.values env es = Expr.values other es
  | [], _ => by rw [Expr.values, Expr.values]
  | first :: rest, agrees => by
    rw [Expr.rootsOf] at agrees
    rw [Expr.values, Expr.values, Expr.value_congr first agrees.left,
      Expr.values_congr rest agrees.right]

/-- A walk along segments depends on the roots inside them. Each step asks the chain alone. -/
theorem Segment.walk_congr : ∀ segments : List (Segment Literal),
    env.AgreesOn other (Segment.rootsOf segments) →
    Segment.walk env segments = Segment.walk other segments
  | [], _ => by
    funext base
    rw [Segment.walk, Segment.walk]
  | first :: rest, agrees => by
    funext base
    rw [Segment.rootsOf] at agrees
    simp only [Segment.walk, Segment.key_congr first agrees.left, agrees.propertyHandle,
      Segment.walk_congr rest agrees.right]

end

/-- The place of the last segment is found by the same walk. -/
theorem Segment.locate_congr {first : Segment Literal} {rest : List (Segment Literal)}
    (agrees : env.AgreesOn other (Segment.rootsOf (first :: rest))) :
    Segment.locate env first rest = Segment.locate other first rest := by
  funext base
  induction rest generalizing first base with
  | nil =>
    rw [rootsOf] at agrees
    simp only [locate, key_congr first agrees.left]
  | cons next rest hypothesis =>
    rw [rootsOf] at agrees
    simp only [locate, key_congr first agrees.left, agrees.propertyHandle, hypothesis agrees.right]

/-- The target of a path is the same in both environments. It is only the requests made there that
may quote different sources. -/
theorem Root.target_congr {root : Root Literal} {segments : List (Segment Literal)}
    (agrees : env.AgreesOn other (Expr.path root segments).roots) :
    root.target env segments = root.target other segments := by
  rw [Expr.roots, ← List.cons_append] at agrees
  cases segments with
  | nil => cases root <;> rfl
  | cons first rest =>
    rw [target, target, value_congr root agrees.left, Segment.locate_congr agrees.right]

/-! ## Quoted sources -/

/-- Two ways to end that differ at most in the source that a fault quotes. -/
inductive EndsAlike (source quoted : String) : Except Fault α × World ρ → Except Fault α × World ρ → Prop
  | same (ended : Except Fault α × World ρ) : EndsAlike source quoted ended ended
  | unreachable (reached : World ρ) : EndsAlike source quoted
    (.error (.notFound (.unreachable source)), reached)
    (.error (.notFound (.unreachable quoted)), reached)
  | callResult (reached : World ρ) : EndsAlike source quoted
    (.error (.notWritable (.callResult source)), reached)
    (.error (.notWritable (.callResult quoted)), reached)

/-- Requests that end the same in every world. A fault may quote one source in place of the
other, unless they are to read. -/
structure Handle.Alike (source quoted : String) (h k : Handle ρ) : Prop where
  get : ∀ w, h.get.outcome w = k.get.outcome w
  type : ∀ w, EndsAlike source quoted (h.type.outcome w) (k.type.outcome w)
  readOnly : ∀ w, EndsAlike source quoted (h.readOnly.outcome w) (k.readOnly.outcome w)
  set : ∀ value w, EndsAlike source quoted ((h.set value).outcome w) ((k.set value).outcome w)

namespace Handle

variable {source quoted : String}

/-- Requests are like themselves. -/
theorem Alike.refl (h : Handle ρ) : Alike source quoted h h :=
  ⟨fun _ => rfl, fun _ => .same _, fun _ => .same _, fun _ _ => .same _⟩

/-- Requests at what one search finds are alike if they are so at all that it can find. -/
theorem alike_after {found : Attempt ρ α} {next next' : α → Handle ρ}
    (each : ∀ w a reached, found.outcome w = (.ok a, reached) → Alike source quoted (next a) (next' a)) :
    Alike source quoted (after found next) (after found next') := by
  -- the search is one, so it fails in both with one fault or goes on in both in one world
  have ends : ∀ w,
      (∃ x reached, (after found next).Fails w x reached ∧ (after found next').Fails w x reached) ∨
      ∃ h k reached, Alike source quoted h k ∧ (after found next).Continues w h reached ∧
        (after found next').Continues w k reached := by
    intro w
    rcases after_cases found next w with ⟨x, reached, ended, fails⟩ | ⟨a, reached, ended, continues⟩
    · exact .inl ⟨x, reached, fails, after_fails ended next'⟩
    · exact .inr ⟨next a, next' a, reached, each w a reached ended, continues, after_continues ended next'⟩
  constructor
  · intro w
    rcases ends w with ⟨x, reached, fails, fails'⟩ | ⟨h, k, reached, alike, continues, continues'⟩
    · rw [fails.get, fails'.get]
    · rw [continues.get, continues'.get]
      exact alike.get reached
  · intro w
    rcases ends w with ⟨x, reached, fails, fails'⟩ | ⟨h, k, reached, alike, continues, continues'⟩
    · rw [fails.type, fails'.type]
      exact .same _
    · rw [continues.type, continues'.type]
      exact alike.type reached
  · intro w
    rcases ends w with ⟨x, reached, fails, fails'⟩ | ⟨h, k, reached, alike, continues, continues'⟩
    · rw [fails.readOnly, fails'.readOnly]
      exact .same _
    · rw [continues.readOnly, continues'.readOnly]
      exact alike.readOnly reached
  · intro value w
    rcases ends w with ⟨x, reached, fails, fails'⟩ | ⟨h, k, reached, alike, continues, continues'⟩
    · rw [fails.set, fails'.set]
      exact .same _
    · rw [continues.set, continues'.set]
      exact alike.set value reached

/-- Where a path with segments leads, the requests depend on the chain alone, and so do
not depend on the root. -/
theorem alike_at_target {env other : Environment ρ} (same : env.chain = other.chain)
    (root root' : Root Literal) {target : Target}
    (lands : (∃ base key, target = .property base key) ∨ target = .unreachable) :
    Alike env.source other.source (target.handle env root) (target.handle other root') := by
  rcases lands with ⟨base, key, rfl⟩ | rfl
  · have equal : env.propertyHandle base key = other.propertyHandle base key := by
      simp only [Environment.propertyHandle, same]
    simp only [Target.handle, equal]
    exact .refl _
  · exact ⟨fun _ => rfl, fun w => .unreachable w, fun w => .unreachable w, fun _ w => .unreachable w⟩

end Handle

/-- Environments that agree on a path make the same requests on it, whatever sources they
quote. -/
theorem Expr.handle_alike {root : Root Literal} {segments : List (Segment Literal)}
    (agrees : env.AgreesOn other (Expr.path root segments).roots) :
    Handle.Alike env.source other.source (Expr.handle env (.path root segments))
      (Expr.handle other (.path root segments)) := by
  rw [handle_path, handle_path, Root.target_congr agrees]
  rw [Expr.roots, ← List.cons_append] at agrees
  cases segments with
  | cons first rest =>
    exact Handle.alike_after fun _ _ _ found =>
      Handle.alike_at_target agrees.chain root root (Root.target_lands other found)
  | nil =>
    cases root with
    | identifier name =>
      simp only [Root.target, Handle.after_pure, Target.handle, agrees.name List.mem_cons_self]
      exact .refl _
    | call space name arguments =>
      simp only [Root.target, Handle.after_pure, Target.handle,
        Root.value_congr (.call space name arguments) agrees.left]
      exact ⟨fun _ => rfl, fun _ => .same _, fun _ => .same _, fun _ w => .callResult w⟩

end PropertyPath
