import Mathlib.Data.List.Nodup
import PropertyPath.Proofs.Compilation

/-!
# Where names and calls occur

A root occurs in an expression at the start of its path, or inside it: in an argument of a call
or in an index, at any depth. The roots that are listed for an expression are those that occur in
it. So compiling looks up every call there is, and notes the variable of every name there is.

The listing also has an order. A path is visited before the paths inside it, its arguments before
its indices. A source with calls that are not bound is refused for the first of them.
-/

namespace PropertyPath

variable {ρ α : Type}

/-- A root starts a path somewhere in an expression. -/
inductive Expr.Occurs (r : Root α) : Expr α → Prop where
  | start (segments : List (Segment α)) : Occurs r (.path r segments)
  | argument {space name : String} {arguments : List (Expr α)} {segments : List (Segment α)}
      {inner : Expr α} (member : inner ∈ arguments) (inside : Occurs r inner) :
      Occurs r (.path (.call space name arguments) segments)
  | index {root : Root α} {segments : List (Segment α)} {inner : Expr α}
      (member : .index inner ∈ segments) (inside : Occurs r inner) : Occurs r (.path root segments)

namespace Expr

/-- The roots of several expressions are those of each. -/
theorem mem_rootsOf {r : Root α} {es : List (Expr α)} :
    r ∈ rootsOf es ↔ ∃ e ∈ es, r ∈ e.roots := by
  induction es with
  | nil => simp [rootsOf]
  | cons first rest hypothesis => simp [rootsOf, hypothesis]

/-- The roots of segments are those of their indices. A property has none. -/
theorem mem_rootsOf_segments {r : Root α} {segments : List (Segment α)} :
    r ∈ Segment.rootsOf segments ↔ ∃ e, .index e ∈ segments ∧ r ∈ e.roots := by
  induction segments with
  | nil => simp [Segment.rootsOf]
  | cons first rest hypothesis =>
    cases first with
    | property name => simp [Segment.rootsOf, Segment.roots, hypothesis]
    | index e => simp [Segment.rootsOf, Segment.roots, hypothesis, or_and_right, exists_or]

/-- A root that occurs at any depth is listed, by induction on where it occurs. -/
theorem roots_of_occurs {r : Root α} {e : Expr α} (occurs : Occurs r e) : r ∈ e.roots := by
  induction occurs with
  | start segments =>
    rw [roots]
    exact List.mem_cons_self
  | argument member inside hypothesis =>
    rw [roots, Root.innerRoots]
    refine List.mem_cons_of_mem _ (List.mem_append_left _ ?_)
    exact mem_rootsOf.2 ⟨_, member, hypothesis⟩
  | index member inside hypothesis =>
    rw [roots]
    refine List.mem_cons_of_mem _ (List.mem_append_right _ ?_)
    exact mem_rootsOf_segments.2 ⟨_, member, hypothesis⟩

mutual

/-- What is listed for an expression occurs in it. The induction follows the tree. -/
theorem occurs_of_roots {r : Root α} : ∀ e : Expr α, r ∈ e.roots → Occurs r e
  | .literal l, listed => by
    rw [roots] at listed
    cases listed
  | .path root segments, listed => by
    rw [roots] at listed
    rcases List.mem_cons.1 listed with rfl | inner
    · exact .start segments
    · rcases List.mem_append.1 inner with argument | index
      · obtain ⟨space, name, arguments, rfl, e, member, inside⟩ := occurs_of_innerRoots root argument
        exact .argument member inside
      · obtain ⟨e, member, inside⟩ := occurs_of_segments segments index
        exact .index member inside

/-- What is listed inside a root occurs in an argument of its call. -/
theorem occurs_of_innerRoots {r : Root α} : ∀ root : Root α, r ∈ root.innerRoots →
    ∃ space name arguments, root = .call space name arguments ∧ ∃ e ∈ arguments, Occurs r e
  | .identifier name, listed => by
    rw [Root.innerRoots] at listed
    cases listed
  | .call space name arguments, listed => by
    rw [Root.innerRoots] at listed
    exact ⟨space, name, arguments, rfl, occurs_of_rootsOf arguments listed⟩

/-- What is listed of several expressions occurs in one of them. -/
theorem occurs_of_rootsOf {r : Root α} : ∀ es : List (Expr α), r ∈ rootsOf es → ∃ e ∈ es, Occurs r e
  | [], listed => by
    rw [rootsOf] at listed
    cases listed
  | first :: rest, listed => by
    rw [rootsOf] at listed
    rcases List.mem_append.1 listed with here | later
    · exact ⟨first, List.mem_cons_self, occurs_of_roots first here⟩
    · obtain ⟨e, member, inside⟩ := occurs_of_rootsOf rest later
      exact ⟨e, List.mem_cons_of_mem first member, inside⟩

/-- What is listed of a segment occurs in its index. -/
theorem occurs_of_segment {r : Root α} : ∀ segment : Segment α, r ∈ segment.roots →
    ∃ e, segment = .index e ∧ Occurs r e
  | .property name, listed => by
    rw [Segment.roots] at listed
    cases listed
  | .index e, listed => by
    rw [Segment.roots] at listed
    exact ⟨e, rfl, occurs_of_roots e listed⟩

/-- What is listed of several segments occurs in the index of one. -/
theorem occurs_of_segments {r : Root α} : ∀ segments : List (Segment α), r ∈ Segment.rootsOf segments →
    ∃ e, .index e ∈ segments ∧ Occurs r e
  | [], listed => by
    rw [Segment.rootsOf] at listed
    cases listed
  | first :: rest, listed => by
    rw [Segment.rootsOf] at listed
    rcases List.mem_append.1 listed with here | later
    · obtain ⟨e, rfl, inside⟩ := occurs_of_segment first here
      exact ⟨e, List.mem_cons_self, inside⟩
    · obtain ⟨e, member, inside⟩ := occurs_of_segments rest later
      exact ⟨e, List.mem_cons_of_mem first member, inside⟩

end

/-- The roots listed for an expression are those that occur in it. -/
theorem mem_roots {r : Root α} {e : Expr α} : r ∈ e.roots ↔ Occurs r e :=
  ⟨occurs_of_roots e, roots_of_occurs⟩

end Expr

/-- Only the first of equal keys is kept. The induction is on the number of keys. -/
theorem nodup_eraseDups {κ : Type} [BEq κ] [LawfulBEq κ] : ∀ keys : List κ, keys.eraseDups.Nodup
  | [] => List.nodup_nil
  | key :: rest => by
    have fewer : (rest.filter fun other => !other == key).length ≤ rest.length := List.length_filter_le _ _
    rw [List.eraseDups_cons, List.nodup_cons, List.mem_eraseDups, List.mem_filter]
    refine ⟨?_, nodup_eraseDups _⟩
    rintro ⟨_, apart⟩
    rw [beq_self_eq_true] at apart
    cases apart
termination_by keys => keys.length
decreasing_by exact Nat.lt_succ_of_le fewer

namespace Compiled

/-- Looking up calls stops at the first that is not bound. -/
theorem bindCalls_eq_error_iff {functions : FunctionTable ρ} {calls : List (String × String)} {x : Fault} :
    bindCalls functions calls = .error x ↔ ∃ call,
      calls.find? (fun call => (functions.find? call.1 call.2).isNone) = some call
        ∧ x = .unboundFunction call.1 call.2 := by
  induction calls with
  | nil =>
    constructor
    · rintro ⟨⟩
    · rintro ⟨call, ⟨⟩, _⟩
  | cons call rest hypothesis =>
    rw [bindCalls, List.find?_cons]
    cases found : functions.find? call.1 call.2 with
    | none =>
      constructor
      · rintro ⟨⟩
        exact ⟨call, rfl, rfl⟩
      · rintro ⟨_, ⟨⟩, rfl⟩
        rfl
    | some f =>
      -- a call that is bound is passed over by both
      rw [Option.isNone_some, ← hypothesis]
      cases bindCalls functions rest with
      | error y => exact Iff.rfl
      | ok noted =>
        constructor
        · rintro ⟨⟩
        · rintro ⟨⟩

/-- A source that can be read is refused exactly for the first of its calls that is not bound. -/
theorem compile_eq_error_iff {source : String} {expr : Expr Literal}
    (read : Expr.parse source = .ok expr) {bindings : Bindings ρ} {functions : FunctionTable ρ} {x : Fault} :
    compile source bindings functions = .error x ↔ ∃ call,
      expr.calls.find? (fun call => (functions.find? call.1 call.2).isNone) = some call
        ∧ x = .unboundFunction call.1 call.2 := by
  rw [compile_of_parsed read, ← bindCalls_eq_error_iff]
  cases bindCalls functions expr.calls with
  | error y =>
    constructor
    · rintro ⟨⟩
      rfl
    · rintro ⟨⟩
      rfl
  | ok noted =>
    constructor
    · rintro ⟨⟩
    · rintro ⟨⟩

/-- Every call that occurs in an expression has a function bound to it. -/
theorem callable_iff {expr : Expr Literal} {functions : FunctionTable ρ} :
    Callable expr functions ↔ ∀ space name arguments, Expr.Occurs (.call space name arguments) expr →
      (functions.find? space name).isSome = true := by
  constructor
  · intro callable space name arguments occurs
    exact callable (space, name) (Expr.mem_calls.2 ⟨arguments, Expr.mem_roots.2 occurs⟩)
  · intro bound call member
    obtain ⟨arguments, listed⟩ := Expr.mem_calls.1 member
    exact bound call.1 call.2 arguments (Expr.mem_roots.1 listed)

/-- The variables noted for an expression are those bound for the names that occur in it. -/
theorem mem_variableNames_noting {source : String} {expr : Expr Literal} {bindings : Bindings ρ}
    {functions : FunctionTable ρ} {name : String} :
    name ∈ (noting source expr bindings functions).variableNames
      ↔ Expr.Occurs (.identifier name) expr ∧ (bindings.get? name).isSome = true := by
  rw [variableNames, List.mem_mergeSort, noting, List.mem_map]
  constructor
  · rintro ⟨⟨_, binding⟩, noted, rfl⟩
    obtain ⟨other, member, entry⟩ := List.mem_filterMap.1 noted
    obtain ⟨_, found, ⟨⟩⟩ := Option.map_eq_some_iff.1 entry
    exact ⟨Expr.mem_roots.1 (Expr.mem_rootNames.1 member), found ▸ rfl⟩
  · rintro ⟨occurs, bound⟩
    obtain ⟨binding, found⟩ := Option.isSome_iff_exists.1 bound
    refine ⟨(name, binding), List.mem_filterMap.2 ⟨name, ?_, ?_⟩, rfl⟩
    · exact Expr.mem_rootNames.2 (Expr.mem_roots.2 occurs)
    · rw [found]
      rfl

/-- No variable is noted twice. -/
theorem variableNames_noting_nodup {source : String} {expr : Expr Literal} {bindings : Bindings ρ}
    {functions : FunctionTable ρ} : (noting source expr bindings functions).variableNames.Nodup := by
  rw [variableNames, List.nodup_mergeSort, noting, List.map_filterMap]
  refine List.Nodup.filterMap ?_ (nodup_eraseDups _)
  intro name other key noted noted'
  obtain ⟨_, entry, rfl⟩ := Option.map_eq_some_iff.1 noted
  obtain ⟨_, entry', same⟩ := Option.map_eq_some_iff.1 noted'
  obtain ⟨_, _, rfl⟩ := Option.map_eq_some_iff.1 entry
  obtain ⟨_, _, rfl⟩ := Option.map_eq_some_iff.1 entry'
  exact same.symm

end Compiled

end PropertyPath
