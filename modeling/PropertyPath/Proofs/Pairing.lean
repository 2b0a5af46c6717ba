import PropertyPath.Proofs.Passage

/-!
# Two runs side by side

Two evaluations of one expression take the same steps as long as what they are told is
the same. A pairing says what the two have to do with each other: which of their worlds
correspond, which values may come up, and which faults may stand for each other. If the
names, the properties and the functions that evaluation asks for keep to the pairing,
evaluation does, and so does the walk to the last segment of a path.

The two runs need not go side by side for ever. A pairing may give up worlds of the first
run as lost; once lost, a world stays lost, and nothing is asked of the second run then.
So what is to be shown of the two can depend on what the first run does later on.
-/

namespace PropertyPath

variable {ρ σ α β γ δ : Type}

/-- What two runs have to do with each other. -/
structure Pairing (ρ σ : Type) where
  /-- The worlds that correspond. -/
  related : World ρ → World σ → Prop
  /-- The values that may come up. -/
  good : Value → Prop
  /-- The faults of the second run that may stand for one of the first. -/
  alike : Fault → Fault → Prop
  /-- The worlds of the first run that are given up. -/
  lost : World ρ → Prop
  /-- Faults may stand for each other that are worded alike, in corresponding worlds, with the text
  and the type of values that may come up. -/
  words_alike : ∀ {w v}, related w v → ∀ {a b}, good a → good b → ∀ words : String → ValueType → Fault,
    alike (words (w.store.text a) (w.store.typeOf b)) (words (v.store.text a) (v.store.typeOf b))
  /-- Literals may always come up. -/
  good_literal : ∀ l : Literal, good l.value

namespace Pairing

variable (p : Pairing ρ σ)

/-- The two runs find one value, which may come up. -/
def Same (value other : Value) : Prop := value = other ∧ p.good value

/-- What is lost stays lost. -/
def Loses (w later : World ρ) : Prop := p.lost w → p.lost later

/-- A run stays lost through any number of steps. -/
instance : IsPreorder (World ρ) p.Loses where
  refl _ lost := lost
  trans _ _ _ first second lost := second (first lost)

/-- A cause has faults in corresponding worlds that may stand for each other. -/
def Words (cause : Store → Fault) : Prop := ∀ w v, p.related w v → p.alike (cause w.store) (cause v.store)

/-- So it is if the cause is worded with values that may come up. -/
theorem words_of_good {a b : Value} (good : p.good a) (good' : p.good b) (words : String → ValueType → Fault) :
    p.Words fun s => words (s.text a) (s.typeOf b) :=
  fun _ _ worlds => p.words_alike worlds good good' words

/-- A cause may be worded with a text alone. -/
theorem words_of_text {a : Value} (good : p.good a) (words : String → Fault) :
    p.Words fun s => words (s.text a) :=
  p.words_of_good good good fun text _ => words text

/-- It may take nothing from the store at all. -/
theorem words_const (x : Fault) : p.Words fun _ => x :=
  p.words_of_text (p.good_literal .null) fun _ => x

/-- Two outcomes in corresponding worlds: results that belong together, or faults that may
stand for each other. -/
inductive Matched (S : α → β → Prop) : Except Fault α × World ρ → Except Fault β × World σ → Prop
  | ok {a : α} {b : β} {left : World ρ} {right : World σ} (results : S a b)
      (worlds : p.related left right) : Matched S (.ok a, left) (.ok b, right)
  | error {x y : Fault} {left : World ρ} {right : World σ} (faults : p.alike x y)
      (worlds : p.related left right) : Matched S (.error x, left) (.error y, right)

end Pairing

/-- In corresponding worlds two attempts end alike, unless the first one gets lost. -/
def Attempt.Parallel (p : Pairing ρ σ) (S : α → β → Prop) (m : Attempt ρ α) (n : Attempt σ β) : Prop :=
  ∀ w v, p.related w v → ¬ p.lost (m.outcome w).2 → p.Matched S (m.outcome w) (n.outcome v)

namespace Attempt

variable {p : Pairing ρ σ} {S : α → β → Prop} {T : γ → δ → Prop}

/-- Results that belong together are parallel, and change no world. -/
theorem parallel_pure {a : α} {b : β} (results : S a b) :
    Parallel p S (pure a : Attempt ρ α) (pure b : Attempt σ β) := by
  intro w v worlds _
  rw [outcome_pure, outcome_pure]
  exact .ok results worlds

/-- One fault in both runs is parallel to itself. Nothing in it comes from a world. -/
theorem parallel_throw (x : Fault) :
    Parallel p S (throw x : Attempt ρ α) (throw x : Attempt σ β) := by
  intro w v worlds _
  rw [outcome_throw, outcome_throw]
  exact .error (p.words_const x _ _ worlds) worlds

/-- A fault worded in each world is parallel if its words are alike there. -/
theorem parallel_failWith {cause : Store → Fault} (words : p.Words cause) :
    Parallel p S (failWith cause : Attempt ρ α) (failWith cause : Attempt σ β) := by
  intro w v worlds _
  rw [outcome_failWith, outcome_failWith]
  exact .error (words _ _ worlds) worlds

/-- Sequences go side by side if their parts do. The first run has not been lost after its
first part if it is not lost in the end. -/
theorem parallel_bind {m : Attempt ρ α} {n : Attempt σ β} {f : α → Attempt ρ γ} {g : β → Attempt σ δ}
    (first : Parallel p S m n) (second : ∀ a b, S a b → Parallel p T (f a) (g b))
    (stays : ∀ a, (f a).Within p.Loses) : Parallel p T (m >>= f) (n >>= g) := by
  intro w v worlds kept
  cases ended : m.outcome w with
  | mk result reached =>
    -- what is lost after the first part stays lost after the second
    have still : ¬ p.lost reached := by
      intro lost
      apply kept
      cases result with
      | error x =>
        rw [outcome_bind_error ended]
        exact lost
      | ok a =>
        rw [outcome_bind_ok ended]
        exact stays a reached lost
    have begun : p.Matched S (m.outcome w) (n.outcome v) := first w v worlds (by rwa [ended])
    rw [ended] at begun
    generalize ended' : n.outcome v = other at begun
    cases begun with
    | ok results later =>
      rw [outcome_bind_ok ended] at kept ⊢
      rw [outcome_bind_ok ended']
      exact second _ _ results _ _ later kept
    | error faults later =>
      rw [outcome_bind_error ended, outcome_bind_error ended']
      exact .error faults later

end Attempt

/-- Two functions go side by side on arguments that may come up. -/
def Function.Parallel (p : Pairing ρ σ) (f : Function ρ) (g : Function σ) : Prop :=
  ∀ arguments, (∀ a ∈ arguments, p.good a) →
    (f.call arguments).Parallel p p.Same (g.call arguments)

/-- What the roots of an expression ask for goes side by side in two environments, and so
do properties. -/
structure Environment.Parallel (p : Pairing ρ σ) (env : Environment ρ) (other : Environment σ)
    (roots : List (Root Literal)) : Prop where
  stays : env.StaysWithin p.Loses
  ofName : ∀ name, .identifier name ∈ roots →
    (env.name name).get.Parallel p p.Same (other.name name).get
  ofProperty : ∀ base key, p.good base → p.good key →
    (env.propertyHandle base key).get.Parallel p p.Same (other.propertyHandle base key).get
  ofCall : ∀ space name arguments, .call space name arguments ∈ roots →
    Option.Rel (Function.Parallel p) (env.functionOf space name) (other.functionOf space name)

section Evaluation

variable {p : Pairing ρ σ} {env : Environment ρ} {other : Environment σ}

namespace Environment.Parallel

variable {roots fewer : List (Root Literal)}

/-- Environments parallel on some roots are so on fewer. -/
theorem mono (along : env.Parallel p other roots) (included : ∀ r ∈ fewer, r ∈ roots) :
    env.Parallel p other fewer where
  stays := along.stays
  ofName name member := along.ofName name (included _ member)
  ofProperty := along.ofProperty
  ofCall space name arguments member := along.ofCall space name arguments (included _ member)

/-- Environments parallel on two lists of roots are so on the first. -/
theorem left {more : List (Root Literal)} (along : env.Parallel p other (roots ++ more)) :
    env.Parallel p other roots := along.mono fun _ => List.mem_append_left more

/-- They are so on the second as well. -/
theorem right {before : List (Root Literal)} (along : env.Parallel p other (before ++ roots)) :
    env.Parallel p other roots := along.mono fun _ => List.mem_append_right before

end Environment.Parallel

mutual

/-- Evaluation goes side by side where what its roots ask for does. The induction is on the
expression, as for what evaluation keeps. -/
theorem Expr.value_parallel : ∀ expr : Expr Literal, env.Parallel p other expr.roots →
    (expr.value env).Parallel p p.Same (expr.value other)
  | .literal l, _ => by
    rw [Expr.value, Expr.value]
    exact Attempt.parallel_pure ⟨rfl, p.good_literal l⟩
  | .path root segments, along => by
    rw [Expr.roots, ← List.cons_append] at along
    rw [Expr.value, Expr.value]
    refine Attempt.parallel_bind (Root.value_parallel root along.left) ?_
      fun base => Segment.walk_within along.stays segments base
    rintro base _ ⟨rfl, good⟩
    exact Segment.walk_parallel segments along.right base good

/-- A name is parallel as the environments say. A call evaluates its arguments side by side first,
and then its function goes side by side with its own on equal arguments. -/
theorem Root.value_parallel : ∀ root : Root Literal,
    env.Parallel p other (root :: root.innerRoots) →
    (root.value env).Parallel p p.Same (root.value other)
  | .identifier name, along => by
    rw [Root.value, Root.value]
    exact along.ofName name List.mem_cons_self
  | .call space name arguments, along => by
    have inner := along.mono fun _ => List.mem_cons_of_mem _
    rw [Root.innerRoots] at inner
    have calls := along.ofCall space name arguments List.mem_cons_self
    rw [Root.value, Root.value]
    cases found : env.functionOf space name with
    -- a function that is missing in one environment is missing in the other, with one fault
    | none =>
      rw [found] at calls
      generalize other.functionOf space name = found' at calls
      cases calls
      exact Attempt.parallel_throw _
    | some f =>
      rw [found] at calls
      generalize other.functionOf space name = found' at calls
      cases calls with
      | some functions =>
        refine Attempt.parallel_bind (Expr.values_parallel arguments inner) ?_
          fun values => along.stays.ofFunction space name f found values
        rintro values _ ⟨rfl, good⟩
        exact functions values good

/-- The keys of a segment go side by side, whether written out or found by an index. -/
theorem Segment.key_parallel : ∀ segment : Segment Literal, env.Parallel p other segment.roots →
    (segment.key env).Parallel p p.Same (segment.key other)
  | .property name, _ => by
    rw [Segment.key, Segment.key]
    exact Attempt.parallel_pure ⟨rfl, p.good_literal (.string name)⟩
  | .index index, along => by
    rw [Segment.roots] at along
    rw [Segment.key, Segment.key]
    exact Expr.value_parallel index along

/-- Arguments go side by side in turn, and each value may come up. -/
theorem Expr.values_parallel : ∀ arguments : List (Expr Literal),
    env.Parallel p other (Expr.rootsOf arguments) →
    (Expr.values env arguments).Parallel p (fun values values' => values = values' ∧
      ∀ value ∈ values, p.good value) (Expr.values other arguments)
  | [], _ => by
    rw [Expr.values, Expr.values]
    exact Attempt.parallel_pure ⟨rfl, nofun⟩
  | first :: rest, along => by
    rw [Expr.rootsOf] at along
    rw [Expr.values, Expr.values]
    refine Attempt.parallel_bind (Expr.value_parallel first along.left) ?_ fun value =>
      Attempt.within_bind (Expr.values_within along.stays rest) fun values => Attempt.within_pure _
    rintro value _ ⟨rfl, good⟩
    refine Attempt.parallel_bind (Expr.values_parallel rest along.right) ?_
      fun values => Attempt.within_pure _
    rintro values _ ⟨rfl, others⟩
    exact Attempt.parallel_pure ⟨rfl, List.forall_mem_cons.2 ⟨good, others⟩⟩

/-- Walks go side by side from a value that may come up: every step asks both chains for one
property of one value. -/
theorem Segment.walk_parallel : ∀ segments : List (Segment Literal),
    env.Parallel p other (Segment.rootsOf segments) → ∀ base, p.good base →
    (Segment.walk env segments base).Parallel p p.Same (Segment.walk other segments base)
  | [], _, base, good => by
    rw [Segment.walk, Segment.walk]
    exact Attempt.parallel_pure ⟨rfl, good⟩
  | first :: rest, along, base, good => by
    rw [Segment.rootsOf] at along
    rw [Segment.walk, Segment.walk]
    by_cases absent : base.isNull = true
    · rw [if_pos absent, if_pos absent]
      exact Attempt.parallel_pure ⟨rfl, p.good_literal .null⟩
    · rw [if_neg absent, if_neg absent]
      refine Attempt.parallel_bind (Segment.key_parallel first along.left) ?_ fun key =>
        Attempt.within_bind (Environment.propertyHandle_within along.stays base key)
          fun next => Segment.walk_within along.stays rest next
      rintro key _ ⟨rfl, denotes⟩
      refine Attempt.parallel_bind (along.ofProperty base key good denotes) ?_
        fun next => Segment.walk_within along.stays rest next
      rintro next _ ⟨rfl, good⟩
      exact Segment.walk_parallel rest along.right next good

end

/-- A target that may come up on a path: a property has a base and a key that may, and a
name is the root of the path. -/
inductive Target.MayComeUp (p : Pairing ρ σ) (root : Root Literal) : Target → Prop
  | root {name : String} (named : root = .identifier name) : MayComeUp p root (.root name)
  | callResult : MayComeUp p root .callResult
  | property {base key : Value} (place : p.good base) (denotes : p.good key) :
    MayComeUp p root (.property base key)
  | unreachable : MayComeUp p root .unreachable

/-- The two runs find one target, which may come up. -/
def Pairing.SameTarget (p : Pairing ρ σ) (root : Root Literal) (target other : Target) : Prop :=
  target = other ∧ target.MayComeUp p root

/-- Two walks to the last of some segments go side by side. The induction is on the
segments after the first. -/
theorem Segment.locate_parallel (root : Root Literal) {first : Segment Literal}
    {rest : List (Segment Literal)} (along : env.Parallel p other (Segment.rootsOf (first :: rest)))
    {base : Value} (good : p.good base) :
    (Segment.locate env first rest base).Parallel p (p.SameTarget root)
      (Segment.locate other first rest base) := by
  induction rest generalizing first base with
  | nil =>
    rw [Segment.rootsOf] at along
    rw [Segment.locate, Segment.locate]
    by_cases absent : base.isNull = true
    · rw [if_pos absent, if_pos absent]
      exact Attempt.parallel_pure ⟨rfl, .unreachable⟩
    · rw [if_neg absent, if_neg absent]
      refine Attempt.parallel_bind (Segment.key_parallel first along.left) ?_
        fun key => Attempt.within_pure _
      rintro key _ ⟨rfl, denotes⟩
      -- the last segment is not read: its key and the value before it are the target
      exact Attempt.parallel_pure ⟨rfl, .property good denotes⟩
  | cons next rest hypothesis =>
    rw [Segment.rootsOf] at along
    rw [Segment.locate, Segment.locate]
    by_cases absent : base.isNull = true
    · rw [if_pos absent, if_pos absent]
      exact Attempt.parallel_pure ⟨rfl, .unreachable⟩
    · rw [if_neg absent, if_neg absent]
      refine Attempt.parallel_bind (Segment.key_parallel first along.left) ?_ fun key =>
        Attempt.within_bind (Environment.propertyHandle_within along.stays base key)
          fun reached => Segment.locate_within along.stays next rest reached
      rintro key _ ⟨rfl, denotes⟩
      refine Attempt.parallel_bind (along.ofProperty base key good denotes) ?_
        fun reached => Segment.locate_within along.stays next rest reached
      rintro reached _ ⟨rfl, good⟩
      exact hypothesis along.right good

/-- The searches for the target of a path go side by side. -/
theorem Root.target_parallel {root : Root Literal} {segments : List (Segment Literal)}
    (along : env.Parallel p other (Expr.path root segments).roots) :
    (root.target env segments).Parallel p (p.SameTarget root) (root.target other segments) := by
  rw [Expr.roots, ← List.cons_append] at along
  cases segments with
  | nil =>
    cases root with
    | identifier name => exact Attempt.parallel_pure ⟨rfl, .root rfl⟩
    | call space name arguments => exact Attempt.parallel_pure ⟨rfl, .callResult⟩
  | cons first rest =>
    refine Attempt.parallel_bind (Root.value_parallel root along.left) ?_
      fun base => Segment.locate_within along.stays first rest base
    rintro base _ ⟨rfl, good⟩
    exact Segment.locate_parallel root along.right good

end Evaluation

end PropertyPath
