import PropertyPath.Evaluation.Compiled
import PropertyPath.Proofs.Outcome

/-!
# One walk for four requests

Reading a path and locating its target are separate recursions over the segments.
They are the same walk: to read a path is to locate its target and to read there.
Hence all four requests on a path begin with one attempt, the search for the
target, and differ only in what they ask of the place it finds. This holds in any
chain and with any functions, whatever effects they have.
-/

namespace PropertyPath

variable {ρ α : Type}

/-- The requests on what an attempt finds; the attempt is made first, anew for each
request. -/
def Handle.after (found : Attempt ρ α) (next : α → Handle ρ) : Handle ρ where
  get := do (next (← found)).get
  type := do (next (← found)).type
  readOnly := do (next (← found)).readOnly
  set value := do (next (← found)).set value

/-- What is found without an attempt can be asked at once. -/
@[simp] theorem Handle.after_pure (a : α) (next : α → Handle ρ) :
    Handle.after (pure a) next = next a := by
  simp only [after, pure_bind]

/-- A search in two parts is a search for the second part after the first. -/
theorem Handle.after_bind {β : Type} (found : Attempt ρ β) (further : β → Attempt ρ α)
    (next : α → Handle ρ) :
    Handle.after (found >>= further) next
      = Handle.after found fun b => Handle.after (further b) next := by
  simp only [after, bind_assoc]

/-- The four requests fail in a world with one fault and leave one world. -/
structure Handle.Fails (h : Handle ρ) (w : World ρ) (x : Fault) (reached : World ρ) : Prop where
  get : h.get.outcome w = (.error x, reached)
  type : h.type.outcome w = (.error x, reached)
  readOnly : h.readOnly.outcome w = (.error x, reached)
  set : ∀ value, (h.set value).outcome w = (.error x, reached)

/-- The four requests in a world end as those of another handle do in another world. -/
structure Handle.Continues (h : Handle ρ) (w : World ρ) (place : Handle ρ) (reached : World ρ) :
    Prop where
  get : h.get.outcome w = place.get.outcome reached
  type : h.type.outcome w = place.type.outcome reached
  readOnly : h.readOnly.outcome w = place.readOnly.outcome reached
  set : ∀ value, (h.set value).outcome w = (place.set value).outcome reached

/-- Requests that end as others do fail where those do. -/
theorem Handle.Continues.fails {h place : Handle ρ} {w reached left : World ρ} {x : Fault}
    (continues : h.Continues w place reached) (fails : place.Fails reached x left) :
    h.Fails w x left := by
  constructor
  · rw [continues.get, fails.get]
  · rw [continues.type, fails.type]
  · rw [continues.readOnly, fails.readOnly]
  · intro value
    rw [continues.set, fails.set]

/-- A search that fails is the end of all four requests, with the fault it fails with. -/
theorem Handle.after_fails {found : Attempt ρ α} {w reached : World ρ} {x : Fault}
    (ended : found.outcome w = (.error x, reached)) (next : α → Handle ρ) :
    (after found next).Fails w x reached := by
  constructor
  · exact Attempt.outcome_bind_error ended _
  · exact Attempt.outcome_bind_error ended _
  · exact Attempt.outcome_bind_error ended _
  · exact fun value => Attempt.outcome_bind_error ended _

/-- A search that succeeds leaves all four requests to what it has found. -/
theorem Handle.after_continues {found : Attempt ρ α} {w reached : World ρ} {a : α}
    (ended : found.outcome w = (.ok a, reached)) (next : α → Handle ρ) :
    (after found next).Continues w (next a) reached := by
  constructor
  · exact Attempt.outcome_bind_ok ended _
  · exact Attempt.outcome_bind_ok ended _
  · exact Attempt.outcome_bind_ok ended _
  · exact fun value => Attempt.outcome_bind_ok ended _

/-- A search either fails or succeeds, and with it the four requests. -/
theorem Handle.after_cases (found : Attempt ρ α) (next : α → Handle ρ) (w : World ρ) :
    (∃ x reached, found.outcome w = (.error x, reached) ∧ (after found next).Fails w x reached) ∨
    ∃ a reached, found.outcome w = (.ok a, reached) ∧
      (after found next).Continues w (next a) reached := by
  cases ended : found.outcome w with
  | mk result reached =>
    cases result with
    | error x => exact .inl ⟨x, reached, rfl, after_fails ended next⟩
    | ok a => exact .inr ⟨a, reached, rfl, after_continues ended next⟩

/-- To read at the end of segments is to locate the last one and to read there. The
induction is on the segments after the first; a base that is null ends both walks
before the next property is evaluated. -/
theorem Segment.walk_eq_locate (env : Environment ρ) (root : Root Literal)
    (first : Segment Literal) (rest : List (Segment Literal)) (base : Value) :
    Segment.walk env (first :: rest) base
      = (Segment.locate env first rest base >>= fun target => (target.handle env root).get) := by
  induction rest generalizing first base with
  | nil =>
    simp only [walk, locate]
    split
    · rfl
    · simp only [Target.handle, bind_pure, bind_assoc, pure_bind]
  | cons next rest hypothesis =>
    rw [walk, locate]
    split
    · rfl
    · simp only [bind_assoc, hypothesis]

/-- To read a path is to locate its target and to read there. -/
theorem Expr.value_path (env : Environment ρ) (root : Root Literal)
    (segments : List (Segment Literal)) :
    Expr.value env (.path root segments)
      = (root.target env segments >>= fun target => (target.handle env root).get) := by
  cases segments with
  | nil =>
    cases root with
    | identifier name =>
      simp only [value, Segment.walk, Root.target, Root.value, Target.handle, bind_pure, pure_bind]
    | call space name arguments =>
      simp only [value, Segment.walk, Root.target, Target.handle, bind_pure, pure_bind]
  | cons first rest =>
    simp only [value, Root.target, bind_assoc, Segment.walk_eq_locate env root]

/-- All four requests on a path are made of its target. -/
theorem Expr.handle_path (env : Environment ρ) (root : Root Literal)
    (segments : List (Segment Literal)) :
    Expr.handle env (.path root segments)
      = .after (root.target env segments) fun target => target.handle env root := by
  simp only [handle, Handle.after, value_path]

namespace Compiled

/-- What names mean in a compiled expression. -/
def environment (chain : Chain ρ) (c : Compiled ρ) : Environment ρ where
  source := c.source
  chain
  variableOf := Binding.search chain c.captured
  functionOf space name := c.functions.lookup (space, name)

/-- A request on a compiled expression is a request on its tree in the environment that it was
compiled into: its own variables and functions, and the chain for the rest. -/
theorem handle_eq (chain : Chain ρ) (c : Compiled ρ) :
    c.handle chain = c.expr.handle (c.environment chain) := by
  obtain ⟨source, expr, captured, functions⟩ := c
  rw [handle, environment]

end Compiled

end PropertyPath
