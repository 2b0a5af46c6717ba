import PropertyPath.Proofs.MapPaths
import PropertyPath.Proofs.Printing

/-!
# Joined items beside the text of a sequence

The text of a sequence shows its items inside the sequence, where the sequence itself is elided.
`join` shows each item on its own. The two come to the same if no item leads back to the sequence:
a container that is open makes no difference to the text of a value that does not reach it. They
differ for an item that is null, which the text shows and `join` leaves empty.
-/

namespace PropertyPath

open Store

variable {ρ : Type} {s : Store} {kind : SequenceKind} {ref : Ref}

/-! ## Texts of items -/

/-- Inside a sequence that it does not reach, a value is shown as it is on its own. -/
theorem Store.textWithin_of_not_reaches {c : Container} {v : Value} (apart : ¬s.Reaches v c) :
    s.textWithin [c] v = s.text v := by
  apply textWithin_congr v (fun _ => rfl) (fun _ _ => rfl)
  intro d reached
  have other : d ≠ c := by
    rintro rfl
    exact apart reached
  simp [other]

/-- The text of a sequence that no item reaches is made of the texts of its items. -/
theorem Store.text_sequence (apart : ∀ item ∈ s.items kind ref, ¬s.Reaches item (.sequence kind ref)) :
    s.text (.sequence kind ref) = "[" ++ ", ".intercalate ((s.items kind ref).map s.text) ++ "]" := by
  have shown : (s.items kind ref).map (s.textWithin [.sequence kind ref])
      = (s.items kind ref).map s.text :=
    List.map_congr_left fun item member => textWithin_of_not_reaches (apart item member)
  rw [text, textWithin_sequence List.not_mem_nil, shown]

namespace CoreFunction

/-- Joined with a separator, the items of a sequence stand behind one another, each as the text that
it displays or as nothing if it is null. -/
theorem join_sequence (separator : String) :
    apply .join s [.string separator, .sequence kind ref]
      = .ok (.string (separator.intercalate ((s.items kind ref).map (textOf s)))) := by
  have shown : textOf s (.string separator) = separator := by
    rw [textOf, if_neg (by simp [Value.isNull]), text_string]
  simp only [apply, joined, List.getElem?_cons_zero, List.getElem?_cons_succ, Option.getD_some, shown]
  rfl

/-- The items of a sequence without null are joined from the texts that they display. -/
theorem join_texts (separator : String) (present : .null ∉ s.items kind ref) :
    apply .join s [.string separator, .sequence kind ref]
      = .ok (.string (separator.intercalate ((s.items kind ref).map s.text))) := by
  have shown : (s.items kind ref).map (textOf s) = (s.items kind ref).map s.text := by
    apply List.map_congr_left
    intro item member
    rw [textOf, if_neg]
    intro isNull
    exact present (Value.isNull_iff.mp isNull ▸ member)
  rw [join_sequence, shown]

end CoreFunction

/-! ## Sources -/

/-- A call of `join` with a string for the separator and a name for the sequence. -/
def Expr.joining (space separator name : String) : Expr Literal :=
  .path (.call space "join" [.literal (.string separator), named name]) []

namespace Compiled

variable {bindings : Bindings ρ} {functions : FunctionTable ρ} {space separator name : String} {v : Value}

/-- The call joins what the name stands for. -/
theorem outcome_joining (chain : Chain ρ) (source : String)
    (registered : functions.find? space "join" = some CoreFunction.join.function)
    (bound : bindings.get? name = some (.literal v)) (w : World ρ) :
    ((noting source (.joining space separator name) bindings functions).handle chain).get.outcome w
      = (CoreFunction.join.apply w.store [.string separator, v], w) := by
  have roots : (Expr.joining space separator name).roots
      = [.call space "join" [.literal (.string separator), .named name], .identifier name] := by
    simp [Expr.joining, Expr.named, Expr.roots, Root.innerRoots, Expr.rootsOf, Segment.rootsOf]
  have calls : (space, "join") ∈ (Expr.joining space separator name).calls := by
    rw [Expr.mem_calls, roots]
    exact ⟨_, List.mem_cons_self⟩
  have used : .identifier name ∈ (Expr.joining space separator name).roots := by
    rw [roots]
    exact List.mem_cons_of_mem _ List.mem_cons_self
  -- the function and the variable are those noted when the source was compiled
  have function : ((noting source (.joining space separator name) bindings functions).environment
      chain).functionOf space "join" = some CoreFunction.join.function := by
    rw [functionOf_noting, if_pos calls, registered]
  have values : Expr.values ((noting source (.joining space separator name) bindings
      functions).environment chain) [.literal (.string separator), .named name]
      = pure [.string separator, v] := by
    rw [Expr.values, Expr.values, Expr.values, Expr.value,
      Expr.value_named (variableOf_of_bound chain source functions bound used)]
    simp only [pure_bind, Literal.value]
  have evaluated : (Expr.values ((noting source (.joining space separator name) bindings
      functions).environment chain) [.literal (.string separator), .named name]).outcome w
      = (.ok [.string separator, v], w) := by
    rw [values, Attempt.outcome_pure]
  rw [outcome_get_of_call rfl function evaluated]
  exact CoreFunction.outcome_call rfl w

/-- Every call in the expression is one of `join`. -/
theorem callable_joining (registered : functions.find? space "join" = some CoreFunction.join.function) :
    Callable (.joining space separator name) functions := by
  rintro ⟨space', name'⟩ member
  have same : (space', name') = (space, "join") := by
    simpa [Expr.calls, Expr.joining, Expr.named, Expr.roots, Root.innerRoots, Expr.rootsOf,
      Segment.rootsOf, Root.function?] using member
  cases same
  rw [registered]
  exact Option.isSome_some

end Compiled

/-- A string between quotes and a name are the arguments of a source that is a call of `join`. -/
theorem Expr.parse_joining {space name : String} (spaceName : IsName space.toList)
    (isName : IsName name.toList) :
    parse (space ++ ":join(', '," ++ name ++ ")") = .ok (joining space ", " name) := by
  have comma : Literal.Spelled "', '".toList (.string ", ") :=
    .string (.inl rfl) (.plain (by decide) (by decide) (.plain (by decide) (by decide) .nil))
  have second : FurtherSpelled Literal.Spelled [[','], name.toList] (named name) :=
    .comma isName.spelled
  have arguments : ArgumentsSpelled Literal.Spelled _ [.literal (.string ", "), named name] :=
    .some (.literal comma) (.cons second .nil)
  have joinName : IsName "join".toList := CoreFunction.join.isName
  have rendered : (joining space ", " name).RenderedBy
      (space.toList ++ ":join(', ',".toList ++ name.toList ++ [')']) := by
    refine ⟨_, .path (.call spaceName joinName arguments) .nil, ?_⟩
    simpa using Spread.flatten
      [space.toList, [':'], "join".toList, ['('], "', '".toList, [','], name.toList, [')']]
  have shallow : (joining space ", " name).depth ≤ Nesting.limit := (by decide : 1 ≤ 64)
  have whole := read_eq_ok_iff.mpr ⟨rendered, shallow⟩
  simpa [parse] using whole

/-! ## Texts and calls -/

namespace CoreFunction

/-- The text of a value is the same whichever containers are open that the value does not reach. So
the text of a sequence that no item of it reaches, and that has no item that is null, is what `join`
makes of the sequence with a comma and a blank, between brackets. It is so in every store, whatever
else the items reach, and for a source as for the function.

Proof: the text asks of the open containers only whether one that it comes to is among them. So
the items of a sequence that they do not reach have the texts inside it that they have alone, and
these are what is joined. -/
theorem join_agrees_with_text :
    (∀ (s : Store) (v : Value) (opened opened' : List Container),
      (∀ c, s.Reaches v c → (c ∈ opened ↔ c ∈ opened')) →
        s.textWithin opened v = s.textWithin opened' v) ∧
    ∀ (w : World ρ) (kind : SequenceKind) (ref : Ref),
      (∀ item ∈ w.store.items kind ref, ¬w.store.Reaches item (.sequence kind ref)) →
      .null ∉ w.store.items kind ref →
      ∃ joined, w.store.text (.sequence kind ref) = "[" ++ joined ++ "]" ∧
        ((join.function : Function ρ).call [.string ", ", .sequence kind ref]).outcome w
          = (.ok (.string joined), w) ∧
        ∀ (context : Context ρ) (space name : String), IsName space.toList → IsName name.toList →
          context.functions.find? space "join" = some join.function →
          context.bindings.get? name = some (.literal (.sequence kind ref)) →
          ∃ c, context.compile (space ++ ":join(', '," ++ name ++ ")") = .ok c ∧
            (c.handle context.chain).get.outcome w = (.ok (.string joined), w) := by
  constructor
  · intro s v opened opened' same
    exact textWithin_congr v (fun _ => rfl) (fun _ _ => rfl) same
  · intro w kind ref apart present
    -- without null the texts that are joined are those between the brackets
    have joins := join_texts ", " present
    refine ⟨_, text_sequence apart, ?_, ?_⟩
    · rw [outcome_call rfl, joins]
    · intro context space name spaceName isName registered bound
      refine ⟨_, Compiled.compile_eq_ok_iff.mpr
        ⟨_, Expr.parse_joining spaceName isName, Compiled.callable_joining registered, rfl⟩, ?_⟩
      rw [Compiled.outcome_joining context.chain _ registered bound, joins]

end CoreFunction

/-- A list that holds a map twice and another list, which holds itself. The map has an array with an
item that is null. -/
def knotted : Store where
  lists := ⟨#[[.map ⟨0⟩, .sequence .list ⟨1⟩, .map ⟨0⟩], [.sequence .list ⟨1⟩]]⟩
  arrays := ⟨#[[.null]]⟩
  maps := ⟨#[.ofList [("a", .sequence .array ⟨0⟩)]]⟩

/-- The items of the list do not reach it, so they are joined to what stands between its brackets. -/
theorem CoreFunction.join_of_knotted :
    knotted.text (.sequence .list ⟨0⟩) = "[" ++ "\x7ba=[null]\x7d, [[...]], \x7ba=[null]\x7d" ++ "]" ∧
      ((join.function : Function Unit).call [.string ", ", .sequence .list ⟨0⟩]).outcome ⟨knotted, ()⟩
        = (.ok (.string "\x7ba=[null]\x7d, [[...]], \x7ba=[null]\x7d"), ⟨knotted, ()⟩) := by
  let below : List Container := [.map ⟨0⟩, .sequence .array ⟨0⟩, .sequence .list ⟨1⟩]
  -- what the items reach is closed, and the list is not in it
  have apart : ∀ item ∈ knotted.items .list ⟨0⟩, ¬knotted.Reaches item (.sequence .list ⟨0⟩) := by
    intro item member reaches
    have start : (knotted.items .list ⟨0⟩).all (fun item =>
        item.container?.all fun c => decide (c ∈ below)) = true := by decide
    have covers : knotted.Covers below item :=
      covers_of_all (by decide) (List.all_eq_true.mp start item member)
    exact absurd (covers _ reaches) (by decide)
  obtain ⟨joined, shown, called, _⟩ :=
    join_agrees_with_text.2 (⟨knotted, ()⟩ : World Unit) .list ⟨0⟩ apart (by decide)
  have covers : knotted.Covers (.sequence .list ⟨0⟩ :: below) (.sequence .list ⟨0⟩) :=
    covers_of_all (by decide) (by decide)
  -- the text is written with a stack, which can be evaluated
  have enough : ((.sequence .list ⟨0⟩ :: below).filter (· ∉ ([] : List Container))).length ≤ 4 := by decide
  have written := write_eq [] _ covers enough ""
  have result : knotted.write 4 (.sequence .list ⟨0⟩) ("", [])
      = some ("[" ++ "\x7ba=[null]\x7d, [[...]], \x7ba=[null]\x7d" ++ "]", []) := by decide
  rw [result, Option.some.injEq, Prod.mk.injEq, String.empty_append] at written
  have text : knotted.text (.sequence .list ⟨0⟩) = _ := written.1.symm
  have same : joined = "\x7ba=[null]\x7d, [[...]], \x7ba=[null]\x7d" := by
    have brackets := shown.symm.trans text
    exact (String.append_right_inj "[").mp ((String.append_left_inj "]").mp brackets)
  rw [same] at called
  exact ⟨text, called⟩

end PropertyPath
