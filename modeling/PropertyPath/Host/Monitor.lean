import PropertyPath.Evaluation.Function

/-!
# Observing resolution

A host can watch what a chain is asked by placing probes in it, and what an
expression calls by binding functions that count, keep or fail. The record of
both is the host's part of the world.
-/

namespace PropertyPath

/-- The four kinds of request. -/
inductive Operation where
  | get
  | type
  | readOnly
  | set
  deriving DecidableEq, Repr

/-- A request as a probe saw it: its own name, the kind of request, the type of
the base and the text of the property at that time. -/
structure Observation where
  probe : String
  operation : Operation
  baseType : Option ValueType
  property : String
  deriving DecidableEq, Repr

/-- The observations so far, oldest first, and counts of calls. -/
structure Monitor where
  observations : List Observation := []
  counts : Arena Nat := {}
  deriving Inhabited

namespace Probe

/-- What a probe does with a request after recording it. -/
inductive Mode where
  | decline
  | claim (value : Value)
  | fail
  deriving DecidableEq

/-- Records a request. -/
def observe (name : String) (operation : Operation) (q : Request) : Action Monitor Unit :=
  modify fun w =>
    let observation : Observation :=
      { probe := name
        operation
        baseType := q.base.map w.store.typeOf
        property := w.store.text q.property }
    { w with host := { w.host with observations := w.host.observations ++ [observation] } }

/-- The answer of a probe to a request. -/
def answer {α : Type} (name : String) (mode : Mode) (operation : Operation) (q : Request)
    (claimed : Store → Value → α) : Action Monitor (Answer α) := do
  observe name operation q
  let store := (← get).store
  match mode with
  | .decline => return none
  | .claim value => return some (.ok (claimed store value))
  | .fail =>
    return some (.error (.notFound (.reported (name ++ " refuses " ++ store.text q.property))))

/-- A resolver that records every request. Where it claims requests, it reads as
one value, is read-only, and takes writes without effect. -/
def resolver (name : String) (mode : Mode) : Resolver Monitor where
  name := name
  get q := answer name mode .get q fun _ value => value
  type q := answer name mode .type q fun store value => store.typeOf value
  readOnly q := answer name mode .readOnly q fun _ _ => true
  set q _ := answer name mode .set q fun _ _ => ()

end Probe

/-- What a function of the host does with its arguments. -/
inductive HostFunction where
  | first
  | list
  | constant (value : Value)
  | count (counter : Ref)
  | fail (message : String)
  deriving DecidableEq

namespace HostFunction

/-- The first argument or null, a new list of the arguments, one value every time,
the number of calls so far including this one, or a failure. -/
def body : HostFunction → List Value → Attempt Monitor Value
  | first, arguments => return arguments.headD .null
  | list, arguments => ExceptT.mk fun w =>
    let (value, store) := w.store.newSequence .list arguments
    (.ok value, { w with store })
  | constant value, _ => return value
  | count counter, _ => ExceptT.mk fun w =>
    let calls := w.host.counts.get counter + 1
    (.ok (.integer (Int64.ofNat calls)),
      { w with host := { w.host with counts := w.host.counts.set counter calls } })
  | fail message, _ => throw (.invocation (.reported message))

/-- A function of the host under a name and, unless it takes any number, with a
number of arguments. -/
def function (f : HostFunction) (name : String) (arity : Option Nat) : Function Monitor :=
  ⟨name, arity, f.body⟩

end HostFunction

end PropertyPath
