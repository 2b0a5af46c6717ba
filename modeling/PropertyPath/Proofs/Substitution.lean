import PropertyPath.Proofs.Agreement
import PropertyPath.Proofs.Compilation
import PropertyPath.Proofs.Exactness

/-!
# Substitution of variables

A variable that is bound to a path stands for its source. Segments behind the name of the
variable and the same segments behind the source of the path make one expression, as far
as requests go: they read the same value or fail with the same fault, they find the same
type and the same writability, they write to the same place, and they leave the same
world. The variable reads its path by a walk of its own and the segments go on from what
that walk has found; a walk along all segments takes the same steps in the same order. If
it comes to null, on either side of the border, it stops.

The two expressions are compiled with the variable bound. What the path captured when it
was bound is what the longer path captures now, because the variable is not among its
names; the segments may well mention it. Only a fault that quotes a source can tell the
two apart.
-/

namespace PropertyPath

variable {ρ : Type}

/-! ## Segments behind segments -/

/-- Segments behind segments are as deep as the deeper of the two. -/
theorem Segment.depthOf_append {α : Type} (segments further : List (Segment α)) :
    Segment.depthOf (segments ++ further) = max (Segment.depthOf segments) (Segment.depthOf further) := by
  induction segments with
  | nil => rw [List.nil_append, depthOf, Nat.zero_max]
  | cons first rest hypothesis => rw [List.cons_append, depthOf, depthOf, hypothesis, Nat.max_assoc]

/-- The roots of segments behind segments come behind theirs. -/
theorem Segment.rootsOf_append {α : Type} (segments further : List (Segment α)) :
    Segment.rootsOf (segments ++ further) = Segment.rootsOf segments ++ Segment.rootsOf further := by
  induction segments with
  | nil => rfl
  | cons first rest hypothesis => rw [List.cons_append, rootsOf, rootsOf, hypothesis, List.append_assoc]

/-- The roots of a path with segments behind it are its own and those of the segments. -/
theorem Expr.roots_path_append {α : Type} (root : Root α) (segments further : List (Segment α)) :
    (Expr.path root (segments ++ further)).roots
      = (Expr.path root segments).roots ++ Segment.rootsOf further := by
  simp only [roots, Segment.rootsOf_append, List.cons_append, List.append_assoc]

/-! ## Walks -/

section Walks

variable (env : Environment ρ)

/-- To locate the last of segments behind segments is to walk along the first ones and to
locate it among the others. -/
theorem Segment.locate_append (first : Segment Literal) (rest : List (Segment Literal))
    (next : Segment Literal) (further : List (Segment Literal)) (base : Value) :
    Segment.locate env first (rest ++ next :: further) base
      = (Segment.walk env (first :: rest) base >>= Segment.locate env next further) := by
  induction rest generalizing first base with
  | nil =>
    rw [List.nil_append, locate, walk]
    split
    · rw [pure_bind, locate_null]
    · simp only [walk, bind_assoc, bind_pure]
  | cons second rest hypothesis =>
    rw [List.cons_append, locate, walk]
    split
    · rw [pure_bind, locate_null]
    · simp only [bind_assoc, hypothesis]

/-- A path with segments behind it leads to where they lead from its value. -/
theorem Root.target_append (root : Root Literal) (segments : List (Segment Literal))
    (next : Segment Literal) (further : List (Segment Literal)) :
    root.target env (segments ++ next :: further)
      = (Expr.value env (.path root segments) >>= Segment.locate env next further) := by
  cases segments with
  | nil => simp only [List.nil_append, target, Expr.value, Segment.walk, bind_pure]
  | cons first rest =>
    simp only [List.cons_append, target, Expr.value, bind_assoc, Segment.locate_append]

end Walks

/-! ## The law -/

/-- Let a name stand for a path in one environment, and let another environment agree with
it on the segments behind the name and with that of the path on the path. Then requests on
the name with the segments are alike to those on the path with them. Without segments the
name hands the requests on to the path. With segments both walks come to the value of the
path and locate the segments from there. -/
theorem Expr.handle_name_alike {env inner outer : Environment ρ} {name : String} {root : Root Literal}
    {segments steps : List (Segment Literal)}
    (stands : env.name name = Expr.handle inner (.path root segments))
    (onPath : inner.AgreesOn outer (Expr.path root segments).roots)
    (onSteps : env.AgreesOn outer (Segment.rootsOf steps)) :
    Handle.Alike (if steps.isEmpty then inner.source else env.source) outer.source
      (Expr.handle env (.path (.identifier name) steps))
      (Expr.handle outer (.path root (segments ++ steps))) := by
  cases steps with
  | nil =>
    -- without segments a name is no search, so the requests are those on the path itself
    have handed : Expr.handle env (.path (.identifier name) []) = Expr.handle inner (.path root segments) := by
      rw [handle_path, Root.target, Handle.after_pure, Target.handle, stands]
    rw [handed, List.append_nil]
    exact handle_alike onPath
  | cons next rest =>
    -- with segments both searches begin at one value
    have value : (env.name name).get = Expr.value outer (.path root segments) := by
      rw [stands]
      exact value_congr _ onPath
    have found : (Root.identifier name).target env (next :: rest)
        = root.target outer (segments ++ next :: rest) := by
      rw [Root.target_append, Root.target, Root.value, value, Segment.locate_congr onSteps]
    rw [handle_path, handle_path, found]
    refine Handle.alike_after fun w target reached ended => ?_
    refine Handle.alike_at_target onSteps.chain _ _ ?_
    rw [← found] at ended
    exact Root.target_lands env ended

namespace Compiled

/-- Expressions that were noted with tables that agree on some roots agree on these. -/
theorem noting_agreesOn {expr expr' : Expr Literal} {source source' : String}
    {bindings bindings' : Bindings ρ} {functions : FunctionTable ρ} (chain : Chain ρ)
    {roots : List (Root Literal)} (inside : ∀ r ∈ roots, r ∈ expr.roots)
    (inside' : ∀ r ∈ roots, r ∈ expr'.roots)
    (same : ∀ name, .identifier name ∈ roots → bindings.get? name = bindings'.get? name) :
    ((noting source expr bindings functions).environment chain).AgreesOn
      ((noting source' expr' bindings' functions).environment chain) roots where
  chain := rfl
  ofVariable name member := by
    rw [variableOf_noting, variableOf_noting, if_pos (Expr.mem_rootNames.2 (inside _ member)),
      if_pos (Expr.mem_rootNames.2 (inside' _ member)), same name member]
  ofFunction space name arguments member := by
    rw [functionOf_noting, functionOf_noting, if_pos (Expr.mem_calls.2 ⟨arguments, inside _ member⟩),
      if_pos (Expr.mem_calls.2 ⟨arguments, inside' _ member⟩)]

/-- The requests on a variable with segments behind it are alike to those on its path with
these segments, both noted with the variable bound. -/
theorem noting_alike {path x further : String} {root : Root Literal}
    {segments steps : List (Segment Literal)} {bindings now : Bindings ρ} {functions : FunctionTable ρ}
    (unmentioned : x ∉ (Expr.path root segments).rootNames)
    (binds : now = bindings.insert x (.expression (noting path (.path root segments) bindings functions)))
    (chain : Chain ρ) :
    Handle.Alike (if steps.isEmpty then path else x ++ further) (path ++ further)
      ((noting (x ++ further) (.path (.identifier x) steps) now functions).handle chain)
      ((noting (path ++ further) (.path root (segments ++ steps)) now functions).handle chain) := by
  let bound := noting path (.path root segments) bindings functions
  let short := noting (x ++ further) (.path (.identifier x) steps) now functions
  let whole := noting (path ++ further) (.path root (segments ++ steps)) now functions
  -- the variable is bound when the name is noted, so the name stands for the path
  have stands : (short.environment chain).name x
      = Expr.handle (bound.environment chain) (.path root segments) := by
    have mentioned : x ∈ (Expr.path (.identifier x) steps).rootNames :=
      Expr.mem_rootNames.2 List.mem_cons_self
    rw [Environment.name, variableOf_noting, if_pos mentioned, binds, Dictionary.get?_insert_self]
    exact handle_eq chain bound
  -- binding it changed no other variable, and the path does not mention it
  have kept : ∀ name, .identifier name ∈ (Expr.path root segments).roots →
      bindings.get? name = now.get? name := by
    intro name member
    have distinct : name ≠ x := by
      rintro rfl
      exact unmentioned (Expr.mem_rootNames.2 member)
    rw [binds, Dictionary.get?_insert_of_ne _ distinct]
  have roots := Expr.roots_path_append root segments steps
  have onPath : (bound.environment chain).AgreesOn (whole.environment chain)
      (Expr.path root segments).roots := by
    refine noting_agreesOn chain (fun _ member => member) (fun _ member => ?_) kept
    rw [roots]
    exact List.mem_append_left _ member
  have onSteps : (short.environment chain).AgreesOn (whole.environment chain)
      (Segment.rootsOf steps) := by
    refine noting_agreesOn chain (fun _ member => List.mem_cons_of_mem _ member) (fun _ member => ?_)
      fun _ _ => rfl
    rw [roots]
    exact List.mem_append_right _ member
  rw [handle_eq, handle_eq]
  exact Expr.handle_name_alike stands onPath onSteps

/-- Let a path be compiled and a variable that it does not mention be bound to it. Segments
behind the source of the path compile only if they do so behind the name of the variable,
and in any chain and every world the requests on the two end alike. They read the same
value or fail with the same fault. In the other requests a fault may quote the source in
which the walk is: the longer path, and in its place the name with its segments, or the
shorter path if there are no segments.

Proof: a rendering is appended to a rendering, and the tree of a rendering is unique, so the
longer source is the path with the segments behind it. The shorter one nests no deeper and calls
nothing else, so it compiles. The walk from the variable goes on where the walk over its path has
ended. -/
theorem variable_stands_for_path (bindings : Bindings ρ) (functions : FunctionTable ρ) (path x further : String)
    (bound whole : Compiled ρ) (root : Root Literal) (segments steps : List (Segment Literal))
    (compiled : compile path bindings functions = .ok bound) (isPath : bound.expr = .path root segments)
    (named : IsName x.toList) (unmentioned : x ∉ bound.expr.rootNames)
    (rendered : Segment.RenderedBy steps further.toList)
    (compiledWhole : compile (path ++ further) (bindings.insert x (.expression bound)) functions
      = .ok whole) :
    ∃ short, compile (x ++ further) (bindings.insert x (.expression bound)) functions = .ok short ∧
      ∀ chain, Handle.Alike (if steps.isEmpty then path else x ++ further) (path ++ further)
        (short.handle chain) (whole.handle chain) := by
  obtain ⟨_, read, _, rfl⟩ := compile_eq_ok_iff.1 compiled
  obtain rfl : _ = Expr.path root segments := isPath
  obtain ⟨_, readWhole, callable, rfl⟩ := compile_eq_ok_iff.1 compiledWhole
  have renderedPath := (Expr.read_eq_ok_iff.1 read).1
  obtain ⟨renderedWhole, shallow⟩ := Expr.read_eq_ok_iff.1 readWhole
  rw [String.toList_append] at renderedWhole
  -- the longer source is the rendering of the path with the segments behind it, and no other
  -- expression is
  obtain rfl := renderedWhole.unique (renderedPath.append rendered)
  -- the name with the segments nests no deeper than the path with them
  have readShort : Expr.parse (x ++ further) = .ok (.path (.identifier x) steps) := by
    refine Expr.read_eq_ok_iff.2 ⟨?_, ?_⟩
    · rw [String.toList_append]
      exact named.rendered.append rendered
    · rw [Expr.depth, Segment.depthOf_append] at shallow
      rw [Expr.depth, Root.depth]
      omega
  -- and calls no function that the path with them does not call
  have callableShort : Callable (.path (.identifier x) steps) functions := by
    rintro ⟨space, name⟩ member
    obtain ⟨arguments, among⟩ := Expr.mem_calls.1 member
    rcases List.mem_cons.1 among with isName | behind
    · cases isName
    · refine callable (space, name) (Expr.mem_calls.2 ⟨arguments, ?_⟩)
      rw [Expr.roots_path_append]
      exact List.mem_append_right _ behind
  exact ⟨_, compile_eq_ok_iff.2 ⟨_, readShort, callableShort, rfl⟩, noting_alike unmentioned rfl⟩

/-- What `a.b` compiles to where nothing is bound. -/
def nestedName : Compiled Unit where
  source := "a.b"
  expr := .path (.identifier "a") [.property "b"]
  captured := []
  functions := []

/-- What `a.b[x]` compiles to where `x` is bound to `a.b`. -/
def nestedNameAtItself : Compiled Unit where
  source := "a.b[x]"
  expr := .path (.identifier "a") [.property "b", .index (.path (.identifier "x") [])]
  captured := [("x", .expression nestedName)]
  functions := []

/-- With `x` bound to `a.b`, requests on `x[x]` are those on `a.b[x]`. -/
theorem variable_at_itself :
    compile "a.b" .empty {} = .ok nestedName ∧
    compile "a.b[x]" (Dictionary.insert .empty "x" (.expression nestedName)) {} = .ok nestedNameAtItself ∧
    ∃ short, compile "x[x]" (Dictionary.insert .empty "x" (.expression nestedName)) {} = .ok short ∧
      ∀ chain, Handle.Alike "x[x]" "a.b[x]" (short.handle chain) (nestedNameAtItself.handle chain) := by
  have a : IsName "a".toList := isName_letter (by decide)
  have b : IsName "b".toList := isName_letter (by decide)
  have x : IsName "x".toList := isName_letter (by decide)
  have blank : Blanks [] := nofun
  have property : Segment.RenderedBy [.property "b"] ".b".toList :=
    ⟨_, .cons (.property b) .nil, .token blank (.token blank (.done blank))⟩
  have index : Segment.RenderedBy [.index (.path (.identifier "x") [])] "[x]".toList :=
    ⟨_, .cons (.index (.path (.identifier x) .nil)) .nil,
      .token blank (.token blank (.token blank (.done blank)))⟩
  have path := a.rendered.append property
  have compiled : compile "a.b" .empty {} = .ok nestedName :=
    compile_eq_ok_iff.2 ⟨_, Expr.read_eq_ok_iff.2 ⟨path, by decide⟩, nofun, rfl⟩
  have compiledWhole : compile "a.b[x]" (Dictionary.insert .empty "x" (.expression nestedName)) {}
      = .ok nestedNameAtItself :=
    compile_eq_ok_iff.2 ⟨_, Expr.read_eq_ok_iff.2 ⟨path.append index, by decide⟩, nofun, rfl⟩
  exact ⟨compiled, compiledWhole, variable_stands_for_path .empty {} "a.b" "x" "[x]" nestedName
    nestedNameAtItself (.identifier "a") [.property "b"] [.index (.path (.identifier "x") [])] compiled rfl
    x (by decide) index compiledWhole⟩

end Compiled

end PropertyPath
