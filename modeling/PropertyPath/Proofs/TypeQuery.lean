import PropertyPath.Proofs.Landing

/-!
# Types beside values

Reading an expression and asking for its type take the same way and ask the same
place, so both end in the same world and fail with the same fault. They differ
where the value read is null. There the type may be the type of null, because a
null is stored; any type, because the entry of a map could still come into being;
or a fault, because there is no place to ask. In a chain of stock resolvers there
is no other difference, whatever the functions called on the way do.
-/

namespace PropertyPath

variable {ρ α : Type}

/-- Reading and asking for the type, begun in the same world, end in the same world
with answers that belong to one place. -/
def Handle.Typed (h : Handle ρ) : Prop :=
  ∀ w, ∃ value type reached, h.get.outcome w = (value, reached) ∧
    h.type.outcome w = (type, reached) ∧ TypeAnswers reached.store value type

/-- A fault on the way to a place is the answer to both requests. -/
theorem Handle.typed_after (found : Attempt ρ α) {next : α → Handle ρ}
    (each : ∀ a, (next a).Typed) : (Handle.after found next).Typed := by
  intro w
  rcases after_cases found next w with
    ⟨x, reached, _, fails⟩ | ⟨a, reached, _, continues⟩
  · exact ⟨.error x, .error x, reached, fails.get, fails.type, .failed x⟩
  · obtain ⟨value, type, left, read, typed, answers⟩ := each a reached
    rw [continues.get, continues.type]
    exact ⟨value, type, left, read, typed, answers⟩

/-- At every place that stock resolvers answer for, the type belongs to the value. -/
theorem Landing.typed (members : List Assembly) (l : Landing ρ) :
    (l.handle (Assembly.chain members)).Typed := by
  intro w
  cases l with
  | reading value refusal =>
    cases read : value.outcome w with
    | mk result reached =>
      have typed : ((Landing.reading value refusal).handle (Assembly.chain members)).type.outcome w
          = _ := Attempt.outcome_typeOf value w
      rw [read] at typed
      cases result with
      | error x => exact ⟨.error x, .error x, reached, read, typed, .failed x⟩
      | ok v => exact ⟨.ok v, .ok (reached.store.typeOf v), reached, read, typed, .typed v⟩
  | request q unclaimed =>
    refine ⟨_, _, w, Assembly.outcome_get members q unclaimed w,
      Assembly.outcome_type members q unclaimed w, ?_⟩
    exact rel_getD ((Assembly.coherent (.nested members)).types w.store q) (.failed _)
  | unreachable source =>
    exact ⟨.ok .null, .error (.notFound (.unreachable source)), w, rfl, rfl, .absent _⟩

/-- In a chain of stock resolvers, the type of an expression and its value agree,
begun in the same world. A value other than null has its own type as the answer.
A type is that of the value read, or any type where null is read. A fault of the
read is the fault of the type. Where null is read the type is that of null, any
type, or a property that is not found. Both requests leave the same world. -/
theorem Compiled.type_mirrors_value (members : List Assembly) (c : Compiled ρ) (w : World ρ) :
    let h := c.handle (Assembly.chain members)
    (∀ value reached, h.get.outcome w = (.ok value, reached) → value ≠ .null →
      h.type.outcome w = (.ok (reached.store.typeOf value), reached)) ∧
    (∀ type reached, h.type.outcome w = (.ok type, reached) →
      ∃ value, h.get.outcome w = (.ok value, reached) ∧
        (type = reached.store.typeOf value ∨ type = .any ∧ value = .null)) ∧
    (∀ fault reached, h.get.outcome w = (.error fault, reached) →
      h.type.outcome w = (.error fault, reached)) ∧
    (∀ reached, h.get.outcome w = (.ok .null, reached) →
      h.type.outcome w = (.ok .null, reached) ∨ h.type.outcome w = (.ok .any, reached) ∨
        ∃ cause, h.type.outcome w = (.error (.notFound cause), reached)) := by
  intro h
  -- wherever the expression lands, the two requests agree; the search before that is the same for
  -- both
  have typed : h.Typed := by
    change (c.handle (Assembly.chain members)).Typed
    rw [Compiled.handle_eq_landing]
    exact Handle.typed_after _ (Landing.typed members)
  obtain ⟨value, type, left, read, asked, answers⟩ := typed w
  rw [read, asked]
  refine ⟨?_, ?_, ?_, ?_⟩
  · rintro v reached same present
    cases same
    cases answers with
    | typed => rfl
    | missing => exact absurd rfl present
    | absent => exact absurd rfl present
  · rintro t reached same
    cases same
    cases answers with
    | typed v => exact ⟨v, rfl, .inl rfl⟩
    | missing => exact ⟨.null, rfl, .inr ⟨rfl, rfl⟩⟩
  · rintro x reached same
    cases same
    cases answers with
    | failed => rfl
  · rintro reached same
    cases same
    cases answers with
    | typed => exact .inl rfl
    | missing => exact .inr (.inl rfl)
    | absent cause => exact .inr (.inr ⟨cause, rfl⟩)

end PropertyPath
