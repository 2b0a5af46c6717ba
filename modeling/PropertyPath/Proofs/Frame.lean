import PropertyPath.Evaluation.Core
import PropertyPath.Host.Monitor
import PropertyPath.Proofs.Bindings
import PropertyPath.Proofs.Landing
import PropertyPath.Proofs.Passage

/-!
# Reads are pure and a write changes one slot

Stock resolvers answer from the store and leave it alone, so whatever a request on
an expression changes before its last step was changed by a function. If functions
at most make new contents, reading, asking for the type and asking for writability
leave all that was in the store as it was, and so does a write that fails. A write
that succeeds stores its value in one slot of the store that evaluation has reached,
and that slot takes a value: nothing else differs.

Aliasing needs no case of its own. A slot is named by the reference of its container,
so a container that is reached in several ways, or that contains itself, still has
each of its slots once.
-/

namespace PropertyPath

variable {ρ α : Type} {R : World ρ → World ρ → Prop}

/-- What was in the store of the one world is as it was in the other. -/
def World.Grown (before after : World ρ) : Prop := before.store.Grown after.store

/-- A store that grows in several steps has grown. -/
instance : IsPreorder (World ρ) World.Grown where
  refl w := Store.Grown.refl w.store
  trans _ _ _ first second := Store.Grown.trans first second

/-- Core functions look at the store and change nothing. -/
theorem CoreFunction.within [IsPreorder (World ρ) R] (f : CoreFunction) :
    (f.function : Function ρ).Within R :=
  Function.within_of_body fun _ w => refl_of R w

/-- Functions of the host make lists and count calls, but write nothing. -/
theorem HostFunction.within_grown (f : HostFunction) (name : String) (arity : Option Nat) :
    (f.function name arity).Within World.Grown := by
  refine Function.within_of_body fun arguments w => ?_
  cases f with
  | list => exact Store.grown_newSequence w.store .list arguments
  | _ => exact Store.Grown.refl w.store

/-- How a write ends. It may fail in a world that evaluation has reached, or store
its value there in one slot that takes it. -/
inductive WriteEffect (R : World ρ → World ρ → Prop) (w : World ρ) (value : Value) :
    Except Fault Unit × World ρ → Prop
  | failed (x : Fault) (reached : World ρ) (passed : R w reached) :
    WriteEffect R w value (.error x, reached)
  | stored (reached : World ρ) (passed : R w reached) (slot : Slot)
      (assignable : reached.store.Assignable slot) :
    WriteEffect R w value (.ok (), { reached with store := reached.store.put slot value })

/-- What happens before the steps of a write belongs to them. -/
theorem WriteEffect.of_later [IsPreorder (World ρ) R] {w later : World ρ} {value : Value}
    {ended : Except Fault Unit × World ρ} (before : R w later)
    (effect : WriteEffect R later value ended) : WriteEffect R w value ended := by
  cases effect with
  | failed x reached passed => exact .failed x reached (trans_of R before passed)
  | stored reached passed slot assignable =>
    exact .stored reached (trans_of R before passed) slot assignable

/-- Three of the requests keep a relation between worlds, and so does a write up to
the one slot it stores its value in. -/
structure Handle.Frames (R : World ρ → World ρ → Prop) (h : Handle ρ) : Prop where
  get : h.get.Within R
  type : h.type.Within R
  readOnly : h.readOnly.Within R
  set : ∀ value w, WriteEffect R w value ((h.set value).outcome w)

section Frames

variable [IsPreorder (World ρ) R]

/-- What can only be read is framed by reading it. -/
theorem Handle.frames_of_refused {h : Handle ρ} (get : h.get.Within R) (type : h.type.Within R)
    (readOnly : h.readOnly.Within R)
    (refused : ∀ value w, ∃ x, (h.set value).outcome w = (.error x, w)) : h.Frames R where
  get
  type
  readOnly
  set value w := by
    obtain ⟨x, ended⟩ := refused value w
    rw [ended]
    exact .failed x w (refl_of R w)

/-- A search that keeps the relation may precede the requests. -/
theorem Handle.frames_after {found : Attempt ρ α} {next : α → Handle ρ} (search : found.Within R)
    (each : ∀ a, (next a).Frames R) : (Handle.after found next).Frames R where
  get := Attempt.within_bind search fun a => (each a).get
  type := Attempt.within_bind search fun a => (each a).type
  readOnly := Attempt.within_bind search fun a => (each a).readOnly
  set value w := by
    have begun : R w (found.outcome w).2 := search w
    rcases after_cases found next w with
      ⟨x, reached, ended, fails⟩ | ⟨a, reached, ended, continues⟩
    · rw [ended] at begun
      rw [fails.set]
      exact .failed x reached begun
    · rw [ended] at begun
      rw [continues.set]
      exact .of_later begun ((each a).set value reached)

/-- Stock resolvers leave the world alone except for the slot of a write, which takes
the value because stock resolvers are coherent. -/
theorem Assembly.frames_handle (members : List Assembly) (q : Request)
    (unclaimed : Store → Absence) : ((chain members).handle q unclaimed).Frames R where
  get w := by
    rw [outcome_get]
    exact refl_of R w
  type w := by
    rw [outcome_type]
    exact refl_of R w
  readOnly w := by
    rw [outcome_readOnly]
    exact refl_of R w
  set value w := by
    rw [outcome_set]
    -- only a request that finds a slot changes the world, and the slot takes the value
    cases found : (behaviour (.nested members)).target w.store q with
    | none => exact .failed _ w (refl_of R w)
    | some placed =>
      cases placed with
      | error x => exact .failed x w (refl_of R w)
      | ok slot =>
        have assignable : w.store.Assignable slot := (coherent (.nested members)).assignable found
        exact .stored w (refl_of R w) slot assignable

variable {members : List Assembly} {env : Environment ρ}

/-- Variables that are framed and functions that keep the relation make evaluation
keep it in a chain of stock resolvers. -/
theorem Environment.staysWithin_of_supplies (stock : env.chain = Assembly.chain members)
    (supplies : env.Supplies (Handle.Frames R) (Function.Within R)) : env.StaysWithin R where
  ofVariable name h bound := (supplies.ofVariable name h bound).get
  ofRequest q w := by
    rw [stock, Assembly.toResolver_chain, StoreResolver.outcome_get]
    exact refl_of R w
  ofFunction := supplies.ofFunction

/-- Wherever a path leads, the requests there are framed. -/
theorem Target.frames_handle (stock : env.chain = Assembly.chain members)
    (supplies : env.Supplies (Handle.Frames R) (Function.Within R)) (root : Root Literal)
    (target : Target) : (target.handle env root).Frames R := by
  have steps : env.StaysWithin R := Environment.staysWithin_of_supplies stock supplies
  cases target with
  | root name =>
    simp only [handle, Environment.name]
    cases bound : env.variableOf name with
    | none =>
      rw [Option.getD_none, Environment.rootHandle_eq, stock]
      exact Assembly.frames_handle members _ _
    | some h => exact supplies.ofVariable name h bound
  -- the result of a call can be read, and refuses every write
  | callResult =>
    have reading : (root.value env).Within R := Root.value_within steps root
    exact Handle.frames_of_refused reading (Attempt.within_typeOf reading)
      (Attempt.within_pure _) fun _ _ => ⟨_, rfl⟩
  | property base key =>
    rw [handle, Environment.propertyHandle_eq, stock]
    exact Assembly.frames_handle members _ _
  | unreachable =>
    exact Handle.frames_of_refused (Attempt.within_pure _) (Attempt.within_throw _)
      (Attempt.within_throw _) fun _ _ => ⟨_, rfl⟩

/-- Frames pass from the names in an expression to the expression: the walk to its
target keeps the relation, and the requests there are framed. -/
theorem Assembly.frames_hereditary (members : List Assembly) :
    (chain members : Chain ρ).Hereditary (Handle.Frames R) (Function.Within R) where
  literal value :=
    Handle.frames_of_refused (Attempt.within_pure _) (fun w => refl_of R w) (Attempt.within_pure _)
      fun _ _ => ⟨_, rfl⟩
  expression env expr stock supplies := by
    cases expr with
    | literal l =>
      exact Handle.frames_of_refused (Attempt.within_pure _) (fun w => refl_of R w)
        (Attempt.within_pure _) fun _ _ => ⟨_, rfl⟩
    | path root segments =>
      have steps : env.StaysWithin R := Environment.staysWithin_of_supplies stock supplies
      rw [Expr.handle_path]
      exact Handle.frames_after (Root.target_within steps root segments)
        fun target => Target.frames_handle stock supplies root target

/-- Whatever the functions of an expression keep, the requests on it keep, up to the
one slot of a write. -/
theorem Compiled.frames_handle (members : List Assembly) (c : Compiled ρ)
    (functions : ∀ f ∈ c.reachableFunctions, f.Within R) :
    (c.handle (Assembly.chain members)).Frames R :=
  Compiled.handle_law (Assembly.frames_hereditary members) c functions

end Frames

/-- Expressions that call core functions only leave the world as it is, host included,
up to the one slot of a write. -/
theorem Compiled.frames_handle_of_core (members : List Assembly) (c : Compiled ρ)
    (core : ∀ f ∈ c.reachableFunctions, ∃ k : CoreFunction, f = k.function) :
    (c.handle (Assembly.chain members)).Frames (· = ·) := by
  refine Compiled.frames_handle members c fun f member => ?_
  obtain ⟨k, rfl⟩ := core f member
  exact CoreFunction.within k

/-- In a chain of stock resolvers, let the functions of an expression leave all that
is in the store as it is. Then reading, asking for the type and asking for writability
leave it as it is, whether they succeed or not, and so does a write that fails. A write
that succeeds is an assignment to one slot that takes a value.

Proof: the frame of the requests on a base or a root is that of the resolvers, which are
coherent. It is handed down to expressions through everything they capture, with what their
functions keep. A write then has an effect of two kinds, and each of the two is one half of what
is said of writes. -/
theorem Compiled.write_changes_one_slot (members : List Assembly) (c : Compiled ρ)
    (quiet : ∀ f ∈ c.reachableFunctions, f.Within World.Grown) (w : World ρ) :
    let h := c.handle (Assembly.chain members)
    w.store.Grown (h.get.outcome w).2.store ∧
    w.store.Grown (h.type.outcome w).2.store ∧
    w.store.Grown (h.readOnly.outcome w).2.store ∧
    ∀ value,
      (∀ fault left, (h.set value).outcome w = (.error fault, left) → w.store.Grown left.store) ∧
      ∀ left, (h.set value).outcome w = (.ok (), left) →
        ∃ before slot, w.store.Grown before ∧ before.Assignable slot ∧
          before.Assigned slot value left.store := by
  intro h
  have frames : h.Frames World.Grown := Compiled.frames_handle members c quiet
  refine ⟨frames.get w, frames.type w, frames.readOnly w, fun value => ?_⟩
  have effect : WriteEffect World.Grown w value ((h.set value).outcome w) := frames.set value w
  constructor
  · intro fault left failed
    rw [failed] at effect
    cases effect with
    | failed _ _ grown => exact grown
  · intro left succeeded
    rw [succeeded] at effect
    cases effect with
    | stored reached grown slot assignable =>
      exact ⟨reached.store, slot, grown, assignable,
        Store.assigned_put reached.store assignable value⟩

/-- The first item of a list that a function of the host makes of one argument. -/
def firstOfNewList : Compiled Monitor where
  source := "h:list('old')[0]"
  expr := .path (.call "h" "list" [.literal (.string "old")]) [.index (.literal (.integer 0))]
  captured := []
  functions := [(("h", "list"), HostFunction.list.function "list" none)]

/-- From an empty store, a write to that item changes the one slot of the list that
evaluation has made. -/
theorem write_to_new_list :
    (∀ f ∈ firstOfNewList.reachableFunctions, f.Within World.Grown) ∧
    ∃ left, ((firstOfNewList.handle (Assembly.chain [.stock (.sequences .list false)])).set
        (.string "new")).outcome ⟨{}, {}⟩ = (.ok (), left) ∧
      ∃ before slot, Store.Grown {} before ∧ before.Assignable slot ∧
        before.Assigned slot (.string "new") left.store := by
  have quiet : ∀ f ∈ firstOfNewList.reachableFunctions, f.Within World.Grown := by
    intro f member
    have only : f = HostFunction.list.function "list" none := List.mem_singleton.1 member
    rw [only]
    exact HostFunction.within_grown .list "list" none
  have written : ((firstOfNewList.handle (Assembly.chain [.stock (.sequences .list false)])).set
      (.string "new")).outcome ⟨{}, {}⟩
        = (.ok (), ⟨{ lists := ⟨#[[.string "new"]]⟩ }, {}⟩) := rfl
  obtain ⟨_, _, _, writes⟩ := Compiled.write_changes_one_slot
    [.stock (.sequences .list false)] firstOfNewList quiet ⟨{}, {}⟩
  exact ⟨quiet, _, written, (writes (.string "new")).2 _ written⟩

end PropertyPath
