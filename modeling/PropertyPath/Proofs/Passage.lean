import Mathlib.Order.Defs.Unbundled
import PropertyPath.Proofs.Walk

/-!
# What evaluation keeps

An attempt stays within a relation between worlds if every world it begins in is
related to the world it leaves, after a fault as after a success. A relation that is
reflexive and transitive is kept by a sequence of attempts if each of them keeps it.

Evaluating an expression is a sequence of three kinds of steps: it reads variables,
asks the chain and calls functions. A preorder between worlds that these keep is
therefore kept by evaluation, and by the walk to the last segment of a path. Nothing
else is assumed of the chain or of the functions.
-/

namespace PropertyPath

variable {ρ α β : Type} {R : World ρ → World ρ → Prop}

/-- An attempt relates each world it begins in to the one it leaves. -/
def Attempt.Within (R : World ρ → World ρ → Prop) (m : Attempt ρ α) : Prop :=
  ∀ w, R w (m.outcome w).2

namespace Attempt

variable [IsPreorder (World ρ) R]

/-- What does nothing stays in its world, and the relation is reflexive. -/
theorem within_pure (a : α) : Within R (pure a : Attempt ρ α) := by
  intro w
  rw [outcome_pure]
  exact refl_of R w

/-- A fault leaves the world as it is. -/
theorem within_throw (x : Fault) : Within R (throw x : Attempt ρ α) := by
  intro w
  rw [outcome_throw]
  exact refl_of R w

/-- So does a fault that is worded in it. -/
theorem within_failWith (cause : Store → Fault) : Within R (failWith cause : Attempt ρ α) := by
  intro w
  rw [outcome_failWith]
  exact refl_of R w

/-- A sequence stays within what both of its parts stay within. A fault in the first
part ends it in the world that part has left. -/
theorem within_bind {m : Attempt ρ α} {f : α → Attempt ρ β} (first : m.Within R)
    (second : ∀ a, (f a).Within R) : Within R (m >>= f) := by
  intro w
  have begun : R w (m.outcome w).2 := first w
  rw [outcome_bind]
  cases ended : m.outcome w with
  | mk result reached =>
    rw [ended] at begun
    cases result with
    | error x => exact begun
    | ok a => exact trans_of R begun (second a reached)

/-- So does a request with what stands for it where nobody claims it. -/
theorem within_claimedOr {ask : Action ρ (Answer α)} {unclaimed : Attempt ρ α}
    (asking : ∀ w, R w (ask.outcome w).2) (otherwise : unclaimed.Within R) :
    Within R (claimedOr ask unclaimed) := by
  intro w
  have asked : R w (ask.outcome w).2 := asking w
  rw [outcome_claimedOr]
  cases ended : ask.outcome w with
  | mk answer reached =>
    rw [ended] at asked
    cases answer with
    | some claimed => exact asked
    | none => exact trans_of R asked (otherwise reached)

/-- To ask for the type of a value is to find the value and look at the store. -/
theorem within_typeOf {m : Attempt ρ Value} (finds : m.Within R) :
    Within R (do let value ← m; return (← get).store.typeOf value) :=
  within_bind finds fun _ w => refl_of R w

end Attempt

/-- A function relates each world it is called in to the one it leaves. -/
def Function.Within (R : World ρ → World ρ → Prop) (f : Function ρ) : Prop :=
  ∀ arguments, (f.call arguments).Within R

/-- Reading a variable, asking the chain and calling a function all keep a relation
between worlds. -/
structure Environment.StaysWithin (R : World ρ → World ρ → Prop) (env : Environment ρ) : Prop where
  ofVariable : ∀ name h, env.variableOf name = some h → h.get.Within R
  ofRequest : ∀ q w, R w ((env.chain.toResolver.get q).outcome w).2
  ofFunction : ∀ space name f, env.functionOf space name = some f → f.Within R

section Evaluation

variable [IsPreorder (World ρ) R] {env : Environment ρ}

/-- A call that is refused for its number of arguments changes nothing, so only the
body of a function matters. -/
theorem Function.within_of_body {f : Function ρ}
    (body : ∀ arguments, (f.body arguments).Within R) : f.Within R := by
  intro arguments
  rw [call]
  cases f.arity with
  | none => exact body arguments
  | some expected =>
    by_cases fits : arguments.length = expected
    · simp only [if_pos fits]
      exact body arguments
    · simp only [if_neg fits]
      exact Attempt.within_throw _

namespace Environment

/-- To read a property is a request of the chain. -/
theorem propertyHandle_within (steps : env.StaysWithin R) (base property : Value) :
    (env.propertyHandle base property).get.Within R :=
  Attempt.within_claimedOr (steps.ofRequest _) (Attempt.within_failWith _)

/-- To read a name is to read what it is bound to, or a request of the chain. -/
theorem name_within (steps : env.StaysWithin R) (name : String) : (env.name name).get.Within R := by
  rw [Environment.name]
  cases bound : env.variableOf name with
  | none => exact Attempt.within_claimedOr (steps.ofRequest _) (Attempt.within_throw _)
  | some h => exact steps.ofVariable name h bound

end Environment

mutual

/-- Evaluation keeps what its steps keep. The induction is on the expression, with a
case for each form of root and segment and for lists of arguments. -/
theorem Expr.value_within (steps : env.StaysWithin R) :
    ∀ expr : Expr Literal, (expr.value env).Within R
  | .literal l => by
    rw [Expr.value]
    exact Attempt.within_pure _
  | .path root segments => by
    rw [Expr.value]
    exact Attempt.within_bind (Root.value_within steps root)
      fun base => Segment.walk_within steps segments base

/-- A root takes the steps of its name, or those of its arguments and then those of its function. -/
theorem Root.value_within (steps : env.StaysWithin R) :
    ∀ root : Root Literal, (root.value env).Within R
  | .identifier name => by
    rw [Root.value]
    exact Environment.name_within steps name
  | .call space name arguments => by
    rw [Root.value]
    cases found : env.functionOf space name with
    | none => exact Attempt.within_throw _
    | some f =>
      exact Attempt.within_bind (Expr.values_within steps arguments)
        fun values => steps.ofFunction space name f found values

/-- The key of a segment takes the steps of its index. -/
theorem Segment.key_within (steps : env.StaysWithin R) :
    ∀ segment : Segment Literal, (segment.key env).Within R
  | .property name => by
    rw [Segment.key]
    exact Attempt.within_pure _
  | .index index => by
    rw [Segment.key]
    exact Expr.value_within steps index

/-- Arguments take their steps in turn, and the relation is transitive. -/
theorem Expr.values_within (steps : env.StaysWithin R) :
    ∀ arguments : List (Expr Literal), (Expr.values env arguments).Within R
  | [] => by
    rw [Expr.values]
    exact Attempt.within_pure _
  | first :: rest => by
    rw [Expr.values]
    refine Attempt.within_bind (Expr.value_within steps first) fun value => ?_
    exact Attempt.within_bind (Expr.values_within steps rest) fun values => Attempt.within_pure _

/-- A walk takes the steps of each key and each request. -/
theorem Segment.walk_within (steps : env.StaysWithin R) :
    ∀ (segments : List (Segment Literal)) (base : Value),
      (Segment.walk env segments base).Within R
  | [], base => by
    rw [Segment.walk]
    exact Attempt.within_pure _
  | first :: rest, base => by
    rw [Segment.walk]
    by_cases absent : base.isNull = true
    · rw [if_pos absent]
      exact Attempt.within_pure _
    · rw [if_neg absent]
      refine Attempt.within_bind (Segment.key_within steps first) fun property => ?_
      refine Attempt.within_bind (Environment.propertyHandle_within steps base property) ?_
      exact fun next => Segment.walk_within steps rest next

end

/-- Walking to the last segment keeps what the steps of evaluation keep. -/
theorem Segment.locate_within (steps : env.StaysWithin R) (first : Segment Literal)
    (rest : List (Segment Literal)) (base : Value) :
    (Segment.locate env first rest base).Within R := by
  induction rest generalizing first base with
  | nil =>
    rw [Segment.locate]
    by_cases absent : base.isNull = true
    · rw [if_pos absent]
      exact Attempt.within_pure _
    · rw [if_neg absent]
      exact Attempt.within_bind (Segment.key_within steps first) fun key => Attempt.within_pure _
  | cons next rest hypothesis =>
    rw [Segment.locate]
    by_cases absent : base.isNull = true
    · rw [if_pos absent]
      exact Attempt.within_pure _
    · rw [if_neg absent]
      refine Attempt.within_bind (Segment.key_within steps first) fun property => ?_
      refine Attempt.within_bind (Environment.propertyHandle_within steps base property) ?_
      exact fun reached => hypothesis next reached

/-- Finding the target of a path keeps what the steps of evaluation keep. -/
theorem Root.target_within (steps : env.StaysWithin R) (root : Root Literal)
    (segments : List (Segment Literal)) : (root.target env segments).Within R := by
  cases segments with
  | nil => cases root <;> exact Attempt.within_pure _
  | cons first rest =>
    exact Attempt.within_bind (Root.value_within steps root)
      fun base => Segment.locate_within steps first rest base

end Evaluation

end PropertyPath
