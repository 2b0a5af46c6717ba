import PropertyPath.Proofs.Landing

/-!
# Writability beside writes

Asking whether an expression can be written and writing to it take the same way
and ask the same place. An answer that it cannot be written is followed by a
refusal of the write, and a fault by a fault, so a write that succeeds was
announced. This holds for every chain of stock resolvers and whatever the
functions called on the way do, although a request that nobody claims is an
absence to the one and a refusal to the other.

The converse fails at one kind of place. A map says that an entry can be written
without looking at the property, so an entry is announced even for a property that
denotes no key, and the write is then a fault. At every other place an announced
write succeeds.
-/

namespace PropertyPath

variable {ρ : Type}

/-- What a write ends in beside the answer about writability, at one place in one
world. Only a request can be announced as writable. Then the write stores the value
in a slot that takes it, unless it is for an entry of a map without a key. -/
inductive WriteOutcomes (l : Landing ρ) (w : World ρ) (value : Value) :
    Except Fault Bool → Except Fault Unit × World ρ → Prop
  | refused (cause : Refusal) : WriteOutcomes l w value (.ok true) (.error (.notWritable cause), w)
  | failed (x y : Fault) : WriteOutcomes l w value (.error x) (.error y, w)
  | stored (q : Request) (unclaimed : Store → Absence) (asked : l = .request q unclaimed)
      (keyed : ¬ q.Keyless) (slot : Slot) (assignable : w.store.Assignable slot) :
    WriteOutcomes l w value (.ok false) (.ok (), { w with store := w.store.put slot value })
  | keyless (q : Request) (unclaimed : Store → Absence) (asked : l = .request q unclaimed)
      (lacksKey : q.Keyless) :
    WriteOutcomes l w value (.ok false) (.error (.notFound (.mapKey (w.store.text q.property))), w)

/-- Asking for writability leaves the world alone, and the write keeps to the answer. -/
theorem Landing.write_outcomes (members : List Assembly) (l : Landing ρ) (w : World ρ)
    (value : Value) :
    ∃ answer, (l.handle (Assembly.chain members)).readOnly.outcome w = (answer, w) ∧
      WriteOutcomes l w value answer
        (((l.handle (Assembly.chain members)).set value).outcome w) := by
  cases l with
  | reading read refusal => exact ⟨.ok true, rfl, .refused (refusal w.store)⟩
  | unreachable source => exact ⟨_, rfl, .failed _ _⟩
  | request q unclaimed =>
    refine ⟨_, Assembly.outcome_readOnly members q unclaimed w, ?_⟩
    have written := Assembly.outcome_set members q unclaimed w value
    -- the two answers of the chain to one request, taken together
    have answers := (Assembly.coherent (.nested members)).writes w.store q
    simp only [Landing.handle, written]
    generalize (Assembly.behaviour (.nested members)).readOnly w.store q = announced at answers ⊢
    generalize (Assembly.behaviour (.nested members)).target w.store q = placed at answers ⊢
    cases answers with
    | none => exact .failed _ _
    | some related =>
      cases related with
      | refused cause => exact .refused cause
      | failed x y => exact .failed x y
      | writable slot assignable keyed => exact .stored q unclaimed rfl keyed slot assignable
      | keyless lacksKey => exact .keyless q unclaimed rfl lacksKey

namespace Compiled

/-- The two requests on an expression: a fault on the way to its place is the answer
to both, and from there on they are those on the place. -/
theorem write_outcomes (members : List Assembly) (c : Compiled ρ) (w : World ρ) (value : Value) :
    (∃ fault reached,
      (c.handle (Assembly.chain members)).readOnly.outcome w = (.error fault, reached) ∧
      ((c.handle (Assembly.chain members)).set value).outcome w = (.error fault, reached)) ∨
    ∃ l reached answer, (c.landing (Assembly.chain members)).outcome w = (.ok l, reached) ∧
      (c.handle (Assembly.chain members)).readOnly.outcome w = (answer, reached) ∧
      WriteOutcomes l reached value answer
        (((c.handle (Assembly.chain members)).set value).outcome w) := by
  rw [handle_eq_landing]
  rcases Handle.after_cases (c.landing (Assembly.chain members))
      (Landing.handle (Assembly.chain members)) w with
    ⟨x, reached, _, fails⟩ | ⟨l, reached, landed, continues⟩
  · exact .inl ⟨x, reached, fails.readOnly, fails.set value⟩
  · obtain ⟨answer, asked, outcomes⟩ := Landing.write_outcomes members l reached value
    rw [continues.readOnly, continues.set]
    exact .inr ⟨l, reached, answer, landed, asked, outcomes⟩

/-- In a chain of stock resolvers, a write keeps to what was said about writability,
both begun in the same world. What cannot be written refuses the write, a fault is
followed by a fault, and a write that succeeds was announced.

Proof: the search is common to both requests. If it fails, both end in its fault. Else the answer
about writability leaves one kind of outcome to the write, and each of the three statements reads
off one answer. -/
theorem refusal_is_announced (members : List Assembly) (c : Compiled ρ) (w : World ρ)
    (value : Value) :
    let h := c.handle (Assembly.chain members)
    (∀ reached, h.readOnly.outcome w = (.ok true, reached) →
      ∃ cause, (h.set value).outcome w = (.error (.notWritable cause), reached)) ∧
    (∀ fault reached, h.readOnly.outcome w = (.error fault, reached) →
      ∃ other, (h.set value).outcome w = (.error other, reached)) ∧
    (∀ left, (h.set value).outcome w = (.ok (), left) →
      ∃ reached, h.readOnly.outcome w = (.ok false, reached)) := by
  intro h
  rcases write_outcomes members c w value with
    ⟨fault, reached, asked, written⟩ | ⟨l, reached, answer, _, asked, outcomes⟩
  -- no place is found: both requests end in the fault of the search
  · rw [asked, written]
    refine ⟨?_, ?_, ?_⟩
    · rintro _ ⟨⟩
    · rintro _ _ ⟨⟩
      exact ⟨fault, rfl⟩
    · rintro _ ⟨⟩
  · rw [asked]
    -- a place is found, and what was announced there leaves one way for the write to end
    generalize (h.set value).outcome w = written at outcomes ⊢
    refine ⟨?_, ?_, ?_⟩
    · rintro _ ⟨⟩
      cases outcomes with
      | refused cause => exact ⟨cause, rfl⟩
    · rintro _ _ ⟨⟩
      cases outcomes with
      | failed _ other => exact ⟨other, rfl⟩
    · rintro left rfl
      cases outcomes with
      | stored => exact ⟨reached, rfl⟩

/-- In a chain of stock resolvers, a write that was announced succeeds unless the
expression leads to the entry of a map without a key; there it fails for want of
one. Both requests are begun in the same world.

Proof: both requests make the same search and come to the same landing. There the outcome of the
write is one of a few that go with the answer about writability. After an announcement two are
left, a slot that was stored and a key that is lacking, and the expression leads to no other
place. -/
theorem announced_write_succeeds_iff (members : List Assembly) (c : Compiled ρ) (w : World ρ)
    (value : Value) {reached : World ρ}
    (announced : (c.handle (Assembly.chain members)).readOnly.outcome w = (.ok false, reached)) :
    ((∃ left, ((c.handle (Assembly.chain members)).set value).outcome w = (.ok (), left)) ↔
      ∀ q, c.LeadsTo (Assembly.chain members) w q reached → ¬ q.Keyless) ∧
    ∀ q, c.LeadsTo (Assembly.chain members) w q reached → q.Keyless →
      ((c.handle (Assembly.chain members)).set value).outcome w
        = (.error (.notFound (.mapKey (reached.store.text q.property))), reached) := by
  rcases write_outcomes members c w value with
    ⟨fault, place, asked, _⟩ | ⟨l, place, answer, landed, asked, outcomes⟩
  · rw [announced] at asked
    cases asked
  · rw [announced] at asked
    cases asked
    -- an expression leads to one place only
    have only : ∀ q, c.LeadsTo (Assembly.chain members) w q reached →
        ∃ unclaimed, l = .request q unclaimed := by
      rintro q ⟨unclaimed, leads⟩
      rw [landed] at leads
      cases leads
      exact ⟨unclaimed, rfl⟩
    generalize ((c.handle (Assembly.chain members)).set value).outcome w = written at outcomes ⊢
    cases outcomes with
    | stored q unclaimed here keyed slot =>
      have noneLacks : ∀ other, c.LeadsTo (Assembly.chain members) w other reached →
          ¬ other.Keyless := by
        intro other leads
        obtain ⟨_, there⟩ := only other leads
        rw [here] at there
        cases there
        exact keyed
      exact ⟨⟨fun _ => noneLacks, fun _ => ⟨_, rfl⟩⟩,
        fun other leads lacksKey => absurd lacksKey (noneLacks other leads)⟩
    | keyless q unclaimed here lacksKey =>
      have leads : c.LeadsTo (Assembly.chain members) w q reached :=
        ⟨unclaimed, by rw [landed, here]⟩
      refine ⟨⟨?_, fun keyed => absurd lacksKey (keyed q leads)⟩, ?_⟩
      · rintro ⟨_, ⟨⟩⟩
      · intro other leads _
        obtain ⟨_, there⟩ := only other leads
        rw [here] at there
        cases there
        rfl

end Compiled

/-- A world whose one local variable `m` holds a map without entries. -/
def emptyMapWorld : World Unit where
  store :=
    { scopes := ⟨#[Dictionary.empty.insert "m" (.map ⟨0⟩)]⟩
      maps := ⟨#[.empty]⟩ }
  host := ()

/-- The local variables of that world, then maps that can be written. -/
def emptyMapMembers : List Assembly := [.stock (.locals ⟨0⟩), .stock (.maps false)]

/-- The entry of `m` under a literal. -/
def entryOfMap (source : String) (index : Literal) : Compiled Unit where
  source
  expr := .path (.identifier "m") [.index (.literal index)]
  captured := []
  functions := []

/-- The entry under a text is announced, and the write succeeds. -/
theorem announced_write_under_text :
    ((entryOfMap "m['k']" (.string "k")).handle
        (Assembly.chain emptyMapMembers)).readOnly.outcome emptyMapWorld
      = (.ok false, emptyMapWorld) ∧
    ∃ left, (((entryOfMap "m['k']" (.string "k")).handle
        (Assembly.chain emptyMapMembers)).set .null).outcome emptyMapWorld = (.ok (), left) := by
  have announced : ((entryOfMap "m['k']" (.string "k")).handle
      (Assembly.chain emptyMapMembers)).readOnly.outcome emptyMapWorld
        = (.ok false, emptyMapWorld) := rfl
  refine ⟨announced, (Compiled.announced_write_succeeds_iff emptyMapMembers _ emptyMapWorld .null
    announced).1.2 ?_⟩
  rintro q ⟨unclaimed, leads⟩ ⟨_, lacksKey⟩
  cases leads
  cases lacksKey

/-- The entry under null is announced as well, but null is no key: an announced
write can fail. -/
theorem announced_write_under_null :
    ((entryOfMap "m[null]" .null).handle
        (Assembly.chain emptyMapMembers)).readOnly.outcome emptyMapWorld
      = (.ok false, emptyMapWorld) ∧
    (((entryOfMap "m[null]" .null).handle
        (Assembly.chain emptyMapMembers)).set .null).outcome emptyMapWorld
      = (.error (.notFound (.mapKey (emptyMapWorld.store.text .null))), emptyMapWorld) :=
  ⟨rfl, rfl⟩

end PropertyPath
