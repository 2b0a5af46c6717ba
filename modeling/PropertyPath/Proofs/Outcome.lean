import PropertyPath.Resolver.Basic

/-!
# Outcomes

An action or an attempt begun in a world ends in one outcome: what it returns and
the world it leaves behind. The worlds are part of the outcome because a fault
keeps what was changed before it, and because the texts of faults are read from
the store as it is when they arise.

The laws below say what each way of putting attempts together does to outcomes.
Statements about requests are made on outcomes, and no proof elsewhere looks into
the monads.
-/

namespace PropertyPath

variable {ρ α β : Type}

/-- What an action returns when it begins in a world, and the world it leaves. -/
def Action.outcome (m : Action ρ α) (w : World ρ) : α × World ρ := m.run w

/-- What an attempt ends in when it begins in a world, and the world it leaves. -/
def Attempt.outcome (m : Attempt ρ α) (w : World ρ) : Except Fault α × World ρ := m.run.run w

/-- An action that only returns leaves the world. -/
@[simp] theorem Action.outcome_pure (a : α) (w : World ρ) :
    Action.outcome (pure a) w = (a, w) := rfl

/-- The second of two actions begins in the world that the first has left. -/
@[simp] theorem Action.outcome_bind (m : Action ρ α) (f : α → Action ρ β) (w : World ρ) :
    Action.outcome (m >>= f) w
      = (f (Action.outcome m w).1).outcome (Action.outcome m w).2 := rfl

/-- An attempt that only returns succeeds and leaves the world. -/
@[simp] theorem Attempt.outcome_pure (a : α) (w : World ρ) :
    Attempt.outcome (pure a) w = (.ok a, w) := rfl

/-- A fault that is thrown leaves the world, with all that was changed before it. -/
@[simp] theorem Attempt.outcome_throw (x : Fault) (w : World ρ) :
    (throw x : Attempt ρ α).outcome w = (.error x, w) := rfl

/-- A fault that is worded on the spot is worded from the store as it is then. -/
@[simp] theorem Attempt.outcome_failWith (cause : Store → Fault) (w : World ρ) :
    (failWith cause : Attempt ρ α).outcome w = (.error (cause w.store), w) := rfl

/-- A sequence goes on, from the world reached, only if its first part succeeds. -/
theorem Attempt.outcome_bind (m : Attempt ρ α) (f : α → Attempt ρ β) (w : World ρ) :
    Attempt.outcome (m >>= f) w =
      match m.outcome w with
      | (.ok a, reached) => (f a).outcome reached
      | (.error x, reached) => (.error x, reached) := by
  simp only [outcome, ExceptT.run_bind, StateT.run_bind]
  cases ended : m.run.run w with
  | mk result reached => cases result <;> rfl

/-- After a first part that succeeds, the second goes on with the result in the world reached. -/
theorem Attempt.outcome_bind_ok {m : Attempt ρ α} {w reached : World ρ} {a : α}
    (found : m.outcome w = (.ok a, reached)) (f : α → Attempt ρ β) :
    Attempt.outcome (m >>= f) w = (f a).outcome reached := by
  rw [outcome_bind, found]

/-- After a first part that fails, the second is not begun. -/
theorem Attempt.outcome_bind_error {m : Attempt ρ α} {w reached : World ρ} {x : Fault}
    (failed : m.outcome w = (.error x, reached)) (f : α → Attempt ρ β) :
    Attempt.outcome (m >>= f) w = (.error x, reached) := by
  rw [outcome_bind, failed]

/-- A sequence succeeds exactly if both of its parts do, the second from the world
that the first has left. -/
theorem Attempt.outcome_bind_eq_ok_iff {m : Attempt ρ α} {f : α → Attempt ρ β} {w left : World ρ}
    {b : β} : Attempt.outcome (m >>= f) w = (.ok b, left)
      ↔ ∃ a reached, m.outcome w = (.ok a, reached) ∧ (f a).outcome reached = (.ok b, left) := by
  rw [outcome_bind]
  cases ended : m.outcome w with
  | mk result reached =>
    cases result with
    | error x =>
      constructor
      · rintro ⟨⟩
      · rintro ⟨a, other, ⟨⟩, _⟩
    | ok a =>
      constructor
      · exact fun second => ⟨a, reached, rfl, second⟩
      · rintro ⟨_, _, ⟨⟩, second⟩
        exact second

/-- The type of a value that an attempt has found, in the store it leaves. -/
theorem Attempt.outcome_typeOf (m : Attempt ρ Value) (w : World ρ) :
    Attempt.outcome (do let value ← m; return (← get).store.typeOf value) w =
      match m.outcome w with
      | (.ok value, reached) => (.ok (reached.store.typeOf value), reached)
      | (.error x, reached) => (.error x, reached) := by
  rw [outcome_bind]
  cases m.outcome w with
  | mk result reached => cases result <;> rfl

/-- A request that is claimed ends in the answer; one that is not ends in what
stands for it, begun in the world that asking has left. -/
theorem outcome_claimedOr (ask : Action ρ (Answer α)) (unclaimed : Attempt ρ α) (w : World ρ) :
    (claimedOr ask unclaimed).outcome w =
      match ask.outcome w with
      | (some answer, reached) => (answer, reached)
      | (none, reached) => unclaimed.outcome reached := by
  simp only [claimedOr, Attempt.outcome, Action.outcome, ExceptT.run_mk, StateT.run_bind]
  cases asked : ask.run w with
  | mk answer reached => cases answer <;> rfl

section StoreResolver

variable (r : StoreResolver) (q : Request) (w : World ρ)

/-- Reading through a resolver on the store looks at the store and leaves the world. -/
@[simp] theorem StoreResolver.outcome_get :
    (r.toResolver.get q).outcome w = (r.get w.store q, w) := rfl

/-- So does asking for a type, -/
@[simp] theorem StoreResolver.outcome_type :
    (r.toResolver.type q).outcome w = (r.type w.store q, w) := rfl

/-- asking whether something can be written, -/
@[simp] theorem StoreResolver.outcome_readOnly :
    (r.toResolver.readOnly q).outcome w = (r.readOnly w.store q, w) := rfl

/-- listing names, -/
@[simp] theorem StoreResolver.outcome_features (base : Option Value) :
    (r.toResolver.features base).outcome w = (r.features w.store base, w) := rfl

/-- and asking for the common type of names, which does not even look at the store. -/
@[simp] theorem StoreResolver.outcome_commonType (base : Option Value) :
    (r.toResolver.commonType base).outcome w = (r.commonType base, w) := rfl

/-- A write through a resolver on the store changes the store and nothing that the host keeps. -/
theorem StoreResolver.outcome_set (value : Value) :
    (r.toResolver.set q value).outcome w
      = ((r.write w.store q value).1, { w with store := (r.write w.store q value).2 }) := rfl

end StoreResolver

end PropertyPath
