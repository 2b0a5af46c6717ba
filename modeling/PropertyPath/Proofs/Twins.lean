import Mathlib.Logic.Relation
import PropertyPath.Proofs.Bindings
import PropertyPath.Proofs.Capture
import PropertyPath.Proofs.Landing
import PropertyPath.Proofs.Pairing

/-!
# Expressions side by side

Two compiled expressions with one tree come to the same place in two chains, if the
variables they captured, the functions they call and the requests they make go side by
side. The variables may be expressions in turn, so expressions are matched by a relation
that passes to what they captured. Captured expressions lie strictly inside, and the
induction is on that.
-/

namespace PropertyPath

variable {ρ σ α β : Type}

/-- What is related to nothing is nothing. -/
theorem rel_none {R : α → β → Prop} {o : Option β} (related : Option.Rel R none o) : o = none := by
  cases related
  rfl

/-- What is related to something is something. -/
theorem rel_some {R : α → β → Prop} {x : α} {o : Option β} (related : Option.Rel R (some x) o) :
    ∃ y, o = some y ∧ R x y := by
  cases related with
  | some holds => exact ⟨_, rfl, holds⟩

/-! ## What lies behind an expression -/

/-- An expression is another one, or captured by it, directly or through others. -/
def Compiled.Behind (inner outer : Compiled ρ) : Prop := Relation.ReflTransGen CapturedBy inner outer

/-- A name that an expression, or one behind its variables, leaves to the chain. -/
def Compiled.Asks (c : Compiled ρ) (name : String) : Prop :=
  ∃ d : Compiled ρ, d.Behind c ∧ .identifier name ∈ d.expr.roots ∧ d.captured.lookup name = none

/-- The functions behind a variable are behind the expression that captured it. -/
theorem Binding.mem_functionsBehind {captured : List (String × Binding ρ)} {name : String}
    {binding : Binding ρ} (member : (name, binding) ∈ captured) {f : Function ρ}
    (reachable : f ∈ binding.reachableFunctions) : f ∈ functionsBehind captured := by
  induction captured with
  | nil => cases member
  | cons first rest hypothesis =>
    obtain ⟨other, bound⟩ := first
    rw [functionsBehind]
    rcases List.mem_cons.1 member with here | later
    · cases here
      exact List.mem_append_left _ reachable
    · exact List.mem_append_right _ (hypothesis later)

/-- A function behind variables is behind one of them. -/
theorem Binding.exists_of_mem_functionsBehind {captured : List (String × Binding ρ)} {f : Function ρ}
    (reachable : f ∈ functionsBehind captured) :
    ∃ name binding, (name, binding) ∈ captured ∧ f ∈ binding.reachableFunctions := by
  induction captured with
  | nil => cases reachable
  | cons first rest hypothesis =>
    obtain ⟨name, binding⟩ := first
    rw [functionsBehind] at reachable
    rcases List.mem_append.1 reachable with here | later
    · exact ⟨name, binding, List.mem_cons_self, here⟩
    · obtain ⟨other, bound, member, further⟩ := hypothesis later
      exact ⟨other, bound, List.mem_cons_of_mem _ member, further⟩

namespace Compiled

variable {inner outer c : Compiled ρ}

/-- The functions behind a captured expression are behind the one that captured it. -/
theorem mem_reachableFunctions_of_capturedBy (captured : CapturedBy inner outer) {f : Function ρ}
    (reachable : f ∈ inner.reachableFunctions) : f ∈ outer.reachableFunctions := by
  obtain ⟨source, expr, captured', functions⟩ := outer
  obtain ⟨name, member⟩ := captured
  rw [reachableFunctions]
  rw [← Binding.reachableFunctions] at reachable
  exact List.mem_append_right _ (Binding.mem_functionsBehind member reachable)

/-- The functions that an expression can look up are among those behind it. -/
theorem mem_reachableFunctions_of_lookup {space name : String} {f : Function ρ}
    (found : c.functions.lookup (space, name) = some f) : f ∈ c.reachableFunctions := by
  obtain ⟨source, expr, captured, functions⟩ := c
  rw [reachableFunctions]
  exact List.mem_append_left _ (List.mem_map_of_mem (mem_of_lookup_eq_some found))

/-- Nothing lies behind an expression that captured nothing. -/
theorem Behind.eq_of_nil {d : Compiled ρ} (behind : d.Behind c) (none : c.captured = []) : d = c := by
  rcases Relation.ReflTransGen.cases_tail behind with same | ⟨e, _, name, member⟩
  · exact same.symm
  · rw [none] at member
    cases member

/-- What an expression captured leaves to the chain, the expression does. -/
theorem Asks.of_capturedBy (captured : CapturedBy inner outer) {name : String} (asks : inner.Asks name) :
    outer.Asks name := by
  obtain ⟨d, behind, member, free⟩ := asks
  exact ⟨d, behind.tail captured, member, free⟩

end Compiled

/-! ## Landings -/

/-- Where a variable lands is where its binding does. -/
theorem Binding.landingOf_eq (chain : Chain ρ) (captured : List (String × Binding ρ)) (name : String) :
    landingOf chain captured name = (captured.lookup name).map (·.landing chain) := by
  induction captured with
  | nil => rw [landingOf, List.lookup_nil, Option.map_none]
  | cons first rest hypothesis =>
    obtain ⟨other, binding⟩ := first
    rw [landingOf, List.lookup_cons]
    by_cases here : name = other
    · rw [if_pos here, beq_iff_eq.2 here, Option.map_some]
    · rw [if_neg here, beq_false_of_ne here, hypothesis]

/-- Where a compiled expression lands is where its tree does, with the landings of the variables
that it captured. -/
theorem Compiled.landing_eq (chain : Chain ρ) (c : Compiled ρ) :
    c.landing chain = c.expr.landing (c.environment chain) (Binding.landingOf chain c.captured) := by
  obtain ⟨source, expr, captured, functions⟩ := c
  rw [landing]

/-- To read an expression is to find its value. -/
theorem Expr.value_eq_get (env : Environment ρ) (expr : Expr Literal) :
    expr.value env = (expr.handle env).get := by
  cases expr with
  | literal l => rw [value]; rfl
  | path root segments => rfl

section Within

variable {R : World ρ → World ρ → Prop} [IsPreorder (World ρ) R] {chain : Chain ρ}

/-- Reading keeps what the requests and the functions of an expression keep. -/
theorem Chain.reads_hereditary (requests : ∀ q w, R w ((chain.toResolver.get q).outcome w).2) :
    chain.Hereditary (fun h => h.get.Within R) (Function.Within R) where
  literal value := Attempt.within_pure value
  expression env expr stock supplies := by
    have steps : env.StaysWithin R := ⟨supplies.ofVariable, by rwa [stock], supplies.ofFunction⟩
    cases expr with
    | literal l => exact Attempt.within_pure l.value
    | path root segments => exact Expr.value_within steps (.path root segments)

/-- In the environment of an expression all steps are related, if those of requests are and those of
the functions behind it. -/
theorem Compiled.staysWithin (requests : ∀ q w, R w ((chain.toResolver.get q).outcome w).2)
    (c : Compiled ρ) (functions : ∀ f ∈ c.reachableFunctions, f.Within R) :
    (c.environment chain).StaysWithin R where
  ofVariable name h bound := by
    have behind : ∀ f ∈ Binding.functionsBehind c.captured, f.Within R := by
      intro f member
      obtain ⟨source, expr, captured, noted⟩ := c
      rw [reachableFunctions] at functions
      exact functions f (List.mem_append_right _ member)
    exact Binding.search_law (Chain.reads_hereditary requests) c.captured behind name h bound
  ofRequest := requests
  ofFunction space name f found := functions f (mem_reachableFunctions_of_lookup found)

/-- So does following a target. -/
theorem Target.landing_within {env : Environment ρ} {root : Root Literal}
    {variableOf : String → Option (Attempt ρ (Landing ρ))}
    (followed : ∀ name m, variableOf name = some m → m.Within R) (target : Target) :
    (target.landing env root variableOf).Within R := by
  cases target with
  | root name =>
    rw [landing]
    cases bound : variableOf name with
    | none => exact Attempt.within_pure _
    | some m => exact followed name m bound
  | _ => exact Attempt.within_pure _

/-- So does the search for the place an expression comes to. -/
theorem Expr.landing_within {env : Environment ρ} {variableOf : String → Option (Attempt ρ (Landing ρ))}
    (steps : env.StaysWithin R) (followed : ∀ name m, variableOf name = some m → m.Within R)
    (expr : Expr Literal) : (expr.landing env variableOf).Within R := by
  cases expr with
  | literal l => exact Attempt.within_pure _
  | path root segments =>
    exact Attempt.within_bind (Root.target_within steps root segments) (Target.landing_within followed)

/-- A literal takes no steps to land, so only expressions need to be asked. -/
theorem Binding.landing_within_of_expression {binding : Binding ρ}
    (expressions : ∀ c, binding = .expression c → (c.landing chain).Within R) :
    (binding.landing chain).Within R := by
  cases binding with
  | literal value =>
    rw [landing]
    exact Attempt.within_pure _
  | expression c =>
    rw [landing]
    exact expressions c rfl

/-- The steps to the place where an expression lands are related. The induction is on the
expressions captured, which lie strictly inside. -/
theorem Compiled.landing_within (requests : ∀ q w, R w ((chain.toResolver.get q).outcome w).2)
    (c : Compiled ρ) (functions : ∀ f ∈ c.reachableFunctions, f.Within R) :
    (c.landing chain).Within R := by
  induction accessible c with
  | intro c _ hypothesis =>
    have steps : (c.environment chain).StaysWithin R := c.staysWithin requests functions
    rw [landing_eq]
    refine Expr.landing_within steps ?_ c.expr
    intro name m bound
    rw [Binding.landingOf_eq] at bound
    obtain ⟨binding, found, rfl⟩ := Option.map_eq_some_iff.1 bound
    refine Binding.landing_within_of_expression ?_
    rintro inner rfl
    have inside : CapturedBy inner c := ⟨name, mem_of_lookup_eq_some found⟩
    exact hypothesis inner inside fun f reachable =>
      functions f (mem_reachableFunctions_of_capturedBy inside reachable)

end Within

/-! ## Requests side by side -/

/-- The requests that may come up: those for a name that is asked, and those for a property
by values of a kind. -/
inductive Request.Admitted (good : Value → Prop) (asked : String → Prop) : Request → Prop
  | root {name : String} (named : asked name) : Admitted good asked (.root name)
  | on {base key : Value} (place : good base) (denotes : good key) :
    Admitted good asked (.on base key)

/-- Reads that may come up go side by side in two chains. -/
structure Chain.Parallel (p : Pairing ρ σ) (asked : String → Prop) (chain : Chain ρ) (other : Chain σ) :
    Prop where
  stays : ∀ q w, p.Loses w ((chain.toResolver.get q).outcome w).2
  reads : ∀ q, q.Admitted p.good asked → ∀ unclaimed, p.Words (fun s => .notFound (unclaimed s)) →
    (chain.handle q unclaimed).get.Parallel p p.Same (other.handle q unclaimed).get

/-- Two places that two runs may come to together: attempts to read that go side by side,
one request that may come up, or nowhere. -/
inductive Landing.Parallel (p : Pairing ρ σ) (asked : String → Prop) : Landing ρ → Landing σ → Prop
  | reading {m : Attempt ρ Value} {n : Attempt σ Value} (values : m.Parallel p p.Same n)
      {refusal : Store → Refusal} (words : p.Words fun s => .notWritable (refusal s)) :
    Parallel p asked (.reading m refusal) (.reading n refusal)
  | request {q : Request} (admitted : q.Admitted p.good asked) {unclaimed : Store → Absence}
      (words : p.Words fun s => .notFound (unclaimed s)) :
    Parallel p asked (.request q unclaimed) (.request q unclaimed)
  | unreachable (source : String) : Parallel p asked (.unreachable source) (.unreachable source)

section Parallel

variable {p : Pairing ρ σ} {asked : String → Prop}

/-- The fault of a property that nobody claims is worded with its key and its base. -/
theorem Pairing.words_of_property (p : Pairing ρ σ) {base key : Value} (place : p.good base)
    (denotes : p.good key) :
    p.Words fun s => .notFound (.propertyOfType (s.text key) (s.typeOf base)) :=
  p.words_of_good denotes place fun text type => .notFound (.propertyOfType text type)

/-- Two searches for a place go side by side, for the variable of a name. A name without a
variable is asked. -/
def Pairing.Followed (p : Pairing ρ σ) (asked : String → Prop) (name : String)
    (found : Option (Attempt ρ (Landing ρ))) (found' : Option (Attempt σ (Landing σ))) : Prop :=
  Option.Rel (Attempt.Parallel p (Landing.Parallel p asked)) found found' ∧ (found = none → asked name)

/-- One target is landed at by both runs together: the value of its root goes side by side, and so
does the search for a variable that it names. -/
theorem Target.landing_parallel {env : Environment ρ} {other : Environment σ} {root : Root Literal}
    {variableOf : String → Option (Attempt ρ (Landing ρ))}
    {variableOf' : String → Option (Attempt σ (Landing σ))} {target : Target}
    (source : env.source = other.source) (mayComeUp : target.MayComeUp p root)
    (along : (root.value env).Parallel p p.Same (root.value other))
    (followed : ∀ name, root = .identifier name →
      p.Followed asked name (variableOf name) (variableOf' name)) :
    (target.landing env root variableOf).Parallel p (Landing.Parallel p asked)
      (target.landing other root variableOf') := by
  cases mayComeUp with
  | @root name named =>
    obtain ⟨bindings, free⟩ := followed name named
    rw [landing, landing]
    generalize variableOf name = found at bindings free
    generalize variableOf' name = found' at bindings
    cases bindings with
    -- a name without a variable is a request at the root, and it is among those that may be asked
    | none => exact Attempt.parallel_pure (.request (.root (free rfl)) (p.words_const _))
    | some attempts => exact attempts
  | callResult =>
    rw [landing, landing, source]
    exact Attempt.parallel_pure (.reading along (p.words_const _))
  | property place denotes =>
    exact Attempt.parallel_pure (.request (.on place denotes) (p.words_of_property place denotes))
  | unreachable =>
    rw [landing, landing, source]
    exact Attempt.parallel_pure (.unreachable _)

/-- Two searches for the place of one expression go side by side if the environments do. -/
theorem Expr.landing_parallel {env : Environment ρ} {other : Environment σ} {expr : Expr Literal}
    {variableOf : String → Option (Attempt ρ (Landing ρ))}
    {variableOf' : String → Option (Attempt σ (Landing σ))}
    (source : env.source = other.source) (along : env.Parallel p other expr.roots)
    (stays : ∀ name m, variableOf name = some m → m.Within p.Loses)
    (followed : ∀ name, .identifier name ∈ expr.roots →
      p.Followed asked name (variableOf name) (variableOf' name)) :
    (expr.landing env variableOf).Parallel p (Landing.Parallel p asked)
      (expr.landing other variableOf') := by
  cases expr with
  | literal l =>
    rw [landing, landing, source]
    have values : (pure l.value : Attempt ρ Value).Parallel p p.Same (pure l.value : Attempt σ Value) :=
      Attempt.parallel_pure ⟨rfl, p.good_literal l⟩
    exact Attempt.parallel_pure (.reading values (p.words_const _))
  | path root segments =>
    rw [landing, landing]
    -- the targets are the same, so both go on in the same way
    have searches := Root.target_parallel along
    rw [Expr.roots, ← List.cons_append] at along
    refine Attempt.parallel_bind searches ?_ (Target.landing_within stays)
    rintro target _ ⟨rfl, mayComeUp⟩
    refine Target.landing_parallel source mayComeUp (Root.value_parallel root along.left) ?_
    rintro name rfl
    exact followed name List.mem_cons_self

/-- Two bindings match: one fixed value that may come up, or expressions that match. -/
inductive Binding.Matches (p : Pairing ρ σ) (T : Compiled ρ → Compiled σ → Prop) :
    Binding ρ → Binding σ → Prop
  | literal {value : Value} (good : p.good value) : Matches p T (.literal value) (.literal value)
  | expression {c : Compiled ρ} {d : Compiled σ} (matched : T c d) :
    Matches p T (.expression c) (.expression d)

/-- Two expressions are twins up to a relation between what they captured: they have one
source and one tree, their functions go side by side, and the names that are no variables
are asked. -/
structure Compiled.Twins (p : Pairing ρ σ) (asked : String → Prop) (T : Compiled ρ → Compiled σ → Prop)
    (c : Compiled ρ) (d : Compiled σ) : Prop where
  source : c.source = d.source
  expr : c.expr = d.expr
  bound : ∀ name, Option.Rel (Binding.Matches p T) (c.captured.lookup name) (d.captured.lookup name)
  free : ∀ name, .identifier name ∈ c.expr.roots → c.captured.lookup name = none → asked name
  calls : ∀ space name arguments, .call space name arguments ∈ c.expr.roots →
    Option.Rel (Function.Parallel p) (c.functions.lookup (space, name)) (d.functions.lookup (space, name))
  stays : ∀ f ∈ c.reachableFunctions, f.Within p.Loses

/-- What a variable captured by twins stands for reads the same. -/
theorem Binding.Matches.get_parallel {T : Compiled ρ → Compiled σ → Prop} {chain : Chain ρ}
    {other : Chain σ} {binding : Binding ρ} {binding' : Binding σ}
    (matched : binding.Matches p T binding')
    (expressions : ∀ c d, binding = .expression c → T c d →
      (c.handle chain).get.Parallel p p.Same (d.handle other).get) :
    (binding.handle chain).get.Parallel p p.Same (binding'.handle other).get := by
  cases matched with
  | literal good => exact Attempt.parallel_pure ⟨rfl, good⟩
  | expression related =>
    rw [handle, handle]
    exact expressions _ _ rfl related

/-- What a variable captured by twins stands for comes to the same place. -/
theorem Binding.Matches.landing_parallel {T : Compiled ρ → Compiled σ → Prop} {chain : Chain ρ}
    {other : Chain σ} {binding : Binding ρ} {binding' : Binding σ}
    (matched : binding.Matches p T binding')
    (expressions : ∀ c d, binding = .expression c → T c d →
      (c.landing chain).Parallel p (Landing.Parallel p asked) (d.landing other)) :
    (binding.landing chain).Parallel p (Landing.Parallel p asked) (binding'.landing other) := by
  cases matched with
  | literal good =>
    rw [landing, landing]
    exact Attempt.parallel_pure (.reading (Attempt.parallel_pure ⟨rfl, good⟩)
      (p.words_of_text good fun text => .notWritable (.literalBinding text)))
  | expression related =>
    rw [landing, landing]
    exact expressions _ _ rfl related

namespace Compiled

/-- An expression that a name is found bound to was captured. -/
theorem capturedBy_of_lookup {c inner : Compiled ρ} {name : String}
    (found : c.captured.lookup name = some (.expression inner)) : CapturedBy inner c :=
  ⟨name, mem_of_lookup_eq_some found⟩

namespace Twins

variable {T : Compiled ρ → Compiled σ → Prop} {chain : Chain ρ} {other : Chain σ} {c : Compiled ρ}
  {d : Compiled σ} (twins : Twins p asked T c d)

include twins

/-- Names and calls mean the same in twins, if what they captured reads the same. -/
theorem environment_parallel (chains : chain.Parallel p asked other)
    (reads : ∀ inner inner', CapturedBy inner c → T inner inner' →
      (inner.handle chain).get.Parallel p p.Same (inner'.handle other).get) :
    (c.environment chain).Parallel p (d.environment other) c.expr.roots := by
  have steps : (c.environment chain).StaysWithin p.Loses := c.staysWithin chains.stays twins.stays
  refine ⟨steps, ?_, fun base key place denotes =>
    chains.reads _ (.on place denotes) _ (p.words_of_property place denotes), twins.calls⟩
  intro name member
  have bound := twins.bound name
  simp only [environment, Environment.name, Binding.search_eq]
  cases found : c.captured.lookup name with
  -- a name that neither captured is left to both chains, and may be asked there
  | none =>
    rw [found] at bound
    rw [rel_none bound]
    exact chains.reads _ (.root (twins.free name member found)) (fun _ => .identifier name) (p.words_const _)
  | some binding =>
    rw [found] at bound
    obtain ⟨binding', found', matched⟩ := rel_some bound
    rw [found']
    refine matched.get_parallel ?_
    rintro inner inner' rfl related
    exact reads inner inner' (capturedBy_of_lookup found) related

/-- Names come to the same places in twins, if what they captured does. -/
theorem followed (lands : ∀ inner inner', CapturedBy inner c → T inner inner' →
      (inner.landing chain).Parallel p (Landing.Parallel p asked) (inner'.landing other))
    (name : String) (member : .identifier name ∈ c.expr.roots) :
    p.Followed asked name (Binding.landingOf chain c.captured name)
      (Binding.landingOf other d.captured name) := by
  have bound := twins.bound name
  rw [Binding.landingOf_eq, Binding.landingOf_eq]
  cases found : c.captured.lookup name with
  | none =>
    rw [found] at bound
    rw [rel_none bound]
    exact ⟨.none, fun _ => twins.free name member found⟩
  | some binding =>
    rw [found] at bound
    obtain ⟨binding', found', matched⟩ := rel_some bound
    rw [found']
    refine ⟨.some (matched.landing_parallel ?_), fun absent => absurd absent (Option.some_ne_none _)⟩
    rintro inner inner' rfl related
    exact lands inner inner' (capturedBy_of_lookup found) related

/-- A walk that is lost stays lost when it follows a variable. -/
theorem landingOf_within (chains : chain.Parallel p asked other) (name : String)
    (m : Attempt ρ (Landing ρ)) (bound : Binding.landingOf chain c.captured name = some m) :
    m.Within p.Loses := by
  rw [Binding.landingOf_eq] at bound
  obtain ⟨binding, found, rfl⟩ := Option.map_eq_some_iff.1 bound
  refine Binding.landing_within_of_expression ?_
  rintro inner rfl
  exact inner.landing_within chains.stays fun f reachable =>
    twins.stays f (mem_reachableFunctions_of_capturedBy (capturedBy_of_lookup found) reachable)

/-- Twins read the same and come to the same place, in chains whose reads go side by side, if
the expressions they captured do. -/
theorem parallel (chains : chain.Parallel p asked other)
    (captured : ∀ inner inner', CapturedBy inner c → T inner inner' →
      (inner.handle chain).get.Parallel p p.Same (inner'.handle other).get ∧
        (inner.landing chain).Parallel p (Landing.Parallel p asked) (inner'.landing other)) :
    (c.handle chain).get.Parallel p p.Same (d.handle other).get ∧
      (c.landing chain).Parallel p (Landing.Parallel p asked) (d.landing other) := by
  have along : (c.environment chain).Parallel p (d.environment other) c.expr.roots :=
    twins.environment_parallel chains fun inner inner' inside related =>
      (captured inner inner' inside related).1
  constructor
  · rw [handle_eq, handle_eq, ← Expr.value_eq_get, ← Expr.value_eq_get, ← twins.expr]
    exact Expr.value_parallel c.expr along
  · rw [landing_eq, landing_eq, ← twins.expr]
    exact Expr.landing_parallel twins.source along (twins.landingOf_within chains) <|
      twins.followed fun inner inner' inside related => (captured inner inner' inside related).2

end Twins

end Compiled

/-- Let a relation between expressions hold of twins only. Then what it relates reads the
same and comes to the same place, in chains whose reads go side by side. -/
theorem Compiled.parallel_of_twins {T : Compiled ρ → Compiled σ → Prop} {chain : Chain ρ} {other : Chain σ}
    (twins : ∀ c d, T c d → Twins p asked T c d) (chains : chain.Parallel p asked other)
    {c : Compiled ρ} {d : Compiled σ} (related : T c d) :
    (c.handle chain).get.Parallel p p.Same (d.handle other).get ∧
      (c.landing chain).Parallel p (Landing.Parallel p asked) (d.landing other) := by
  induction accessible c generalizing d with
  | intro c _ hypothesis =>
    exact (twins c d related).parallel chains fun inner inner' inside related' =>
      hypothesis inner inside related'

end Parallel

end PropertyPath
