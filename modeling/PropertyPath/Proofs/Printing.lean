import Mathlib.Logic.Relation
import PropertyPath.Proofs.Drawing

/-!
# Printing values of any heap

A text is written from left to right with a stack of the containers that are open. A container is
pushed before its parts are written and popped behind them, and one that is on the stack is elided.
Each container that is opened is another one of the finitely many that can be reached from the
value, so no more of them are ever open than there are, and every exit leaves the stack as it was.

Without elision the writer would not come to an end where a container can be reached from itself.
Where none can, nothing is ever elided, and the text is what plain recursion makes of the value.
-/

namespace PropertyPath.Store

open Relation

variable {s : Store} {v : Value} {c d : Container} {heap : List Container}

/-! ## Writing with a stack -/

/-- A text so far, and the containers that are open, the innermost first. -/
abbrev Pen := String × List Container

/-- Writes the parts of a container behind one another, the first behind a given separator. -/
def writeParts (write : Value → Pen → Option Pen) : String → List (String × Value) → Pen → Option Pen
  | _, [], pen => some pen
  | separator, (label, v) :: rest, pen => do
    let pen ← write v (pen.1 ++ separator ++ label, pen.2)
    writeParts write ", " rest pen

/-- Writes a value: a text without contents, or a container. Open ones are elided. -/
def writeOver (s : Store) (write : Container → Pen → Option Pen) (v : Value) (pen : Pen) : Option Pen :=
  match v.container? with
  | none => some (pen.1 ++ s.scalarText v, pen.2)
  | some c => if c ∈ pen.2 then some (pen.1 ++ elision c, pen.2) else write c pen

/-- Writes a value and opens at most the given number of containers inside one another. If that
does not suffice, nothing is written. -/
def write (s : Store) : Nat → Value → Pen → Option Pen
  | 0 => s.writeOver fun _ _ => none
  | levels + 1 => s.writeOver fun c pen => do
    let (out, opened) ← writeParts (s.write levels) "" (s.parts c) (pen.1 ++ c.opening, c :: pen.2)
    return (out ++ c.closing, opened.tail)

/-- The text of a value by plain recursion at most the given number of levels deep. Nothing is
elided, and there is no text if the levels do not suffice. -/
def render (s : Store) : Nat → Value → Option String
  | 0, v => if v.container? = none then some (s.scalarText v) else none
  | levels + 1, v =>
    match v.container? with
    | none => some (s.scalarText v)
    | some c =>
      ((s.parts c).mapM fun part => (s.render levels part.2).map (part.1 ++ ·)).map c.enclose

/-! ## Containers inside containers -/

/-- A container is a part of another. -/
def Inside (s : Store) (c d : Container) : Prop := ∃ part ∈ s.parts c, part.2.container? = some d

/-- A container is reached from a value: it is the value's, or inside one that is reached. -/
def Reaches (s : Store) (v : Value) (d : Container) : Prop :=
  ∃ c, v.container? = some c ∧ ReflTransGen s.Inside c d

/-- A heap has all containers that are reached from a value. -/
def Covers (s : Store) (heap : List Container) (v : Value) : Prop := ∀ d, s.Reaches v d → d ∈ heap

/-- No container that is reached from a value is inside itself, at any depth. -/
def Acyclic (s : Store) (v : Value) : Prop := ∀ d, s.Reaches v d → ¬TransGen s.Inside d d

/-- The container of a value is reached from it. -/
theorem reaches_self (is : v.container? = some c) : s.Reaches v c := ⟨c, is, .refl⟩

/-- What a part reaches is reached. -/
theorem Reaches.of_part (is : v.container? = some c) {part : String × Value} (member : part ∈ s.parts c)
    (reaches : s.Reaches part.2 d) : s.Reaches v d := by
  obtain ⟨e, inner, further⟩ := reaches
  exact ⟨c, is, .head ⟨part, member, inner⟩ further⟩

/-- What is reached is the container itself or reached from a part of it. -/
theorem Reaches.cases (is : v.container? = some c) (reaches : s.Reaches v d) :
    d = c ∨ ∃ part ∈ s.parts c, s.Reaches part.2 d := by
  obtain ⟨c', is', further⟩ := reaches
  cases is.symm.trans is'
  rcases ReflTransGen.cases_head further with same | ⟨e, ⟨part, member, inner⟩, further⟩
  · exact .inl same.symm
  · exact .inr ⟨part, member, e, inner, further⟩

/-- What a part reaches does not have the part inside it, if no cycle is reached. -/
theorem Acyclic.not_reaches (acyclic : s.Acyclic v) (is : v.container? = some c)
    {part : String × Value} (member : part ∈ s.parts c) : ¬s.Reaches part.2 c := by
  rintro ⟨e, inner, further⟩
  exact acyclic c (reaches_self is) (.head' ⟨part, member, inner⟩ further)

/-- A heap that has the container of a value and leads to no other has all that are reached. -/
theorem covers_of_closed (start : ∀ c, v.container? = some c → c ∈ heap)
    (closed : ∀ c ∈ heap, ∀ d, s.Inside c d → d ∈ heap) : s.Covers heap v := by
  rintro d ⟨c, is, further⟩
  induction further with
  | refl => exact start c is
  | tail _ inner ih => exact closed _ ih _ inner

/-- Whether a heap leads to no other container can be checked. -/
theorem covers_of_all (closed : heap.all (fun c => (s.parts c).all fun part =>
      part.2.container?.all fun d => decide (d ∈ heap)) = true)
    (start : v.container?.all (fun c => decide (c ∈ heap)) = true) : s.Covers heap v := by
  apply covers_of_closed
  · intro c is
    rw [is] at start
    exact of_decide_eq_true start
  · rintro c member d ⟨part, inside, inner⟩
    have known := List.all_eq_true.mp (List.all_eq_true.mp closed c member) part inside
    rw [inner] at known
    exact of_decide_eq_true known

/-- The containers reached from a value are finitely many. -/
theorem exists_covers (s : Store) (v : Value) : ∃ heap, s.Covers heap v := by
  refine ⟨v.container?.toList ++ s.containers.flatMap fun c =>
    (s.parts c).filterMap fun part => part.2.container?, covers_of_closed ?_ ?_⟩
  · intro c is
    exact List.mem_append_left _ (Option.mem_toList.mpr is)
  · rintro c _ d ⟨part, member, inner⟩
    refine List.mem_append_right _ (List.mem_flatMap.mpr ⟨c, mem_containers_of_part member, ?_⟩)
    exact List.mem_filterMap.mpr ⟨part, member, inner⟩

/-! ## What is written -/

/-- Parts are written behind one another, with commas between them, if each of them is. -/
theorem writeParts_eq {write : Value → Pen → Option Pen} {opened : List Container} {f : Value → String}
    {part : String × Value} {parts : List (String × Value)} (separator out : String)
    (each : ∀ p ∈ part :: parts, ∀ out, write p.2 (out, opened) = some (out ++ f p.2, opened)) :
    writeParts write separator (part :: parts) (out, opened) =
      some (out ++ separator ++ ", ".intercalate ((part :: parts).map fun p => p.1 ++ f p.2), opened) := by
  have first := each part List.mem_cons_self (out ++ separator ++ part.1)
  induction parts generalizing part separator out with
  | nil =>
    rw [writeParts, Option.bind_eq_bind, first, Option.bind_some, writeParts]
    simp only [List.map_cons, List.map_nil, String.intercalate_singleton, String.append_assoc]
  | cons next parts ih =>
    have others : ∀ p ∈ next :: parts, ∀ out, write p.2 (out, opened) = some (out ++ f p.2, opened) :=
      fun p member => each p (List.mem_cons_of_mem part member)
    have second := others next List.mem_cons_self (out ++ separator ++ part.1 ++ f part.2 ++ ", " ++ next.1)
    rw [writeParts, Option.bind_eq_bind, first, Option.bind_some, ih ", " _ others second]
    simp only [List.map_cons, String.intercalate_cons_cons, String.append_assoc]

/-- With as many levels as a heap has containers that are not open, a value is written to its end,
and the stack is then as it was before. -/
theorem write_eq (opened : List Container) (v : Value) (covers : s.Covers heap v) {levels : Nat}
    (room : (heap.filter (· ∉ opened)).length ≤ levels) (out : String) :
    s.write levels v (out, opened) = some (out ++ s.textWithin opened v, opened) := by
  induction opened, v using within_induction (s := s) generalizing levels out with
  | plain opened v plain =>
    rw [textWithin_plain plain]
    cases levels <;> simp only [write, writeOver, plain]
  | met opened v c is met =>
    rw [textWithin_met is met]
    cases levels <;> simp only [write, writeOver, is, if_pos met]
  | opened opened v c is fresh hypothesis =>
    -- the container is open from here on, so one level less is needed inside
    have fewer := length_filter_not_mem_lt (covers c (reaches_self is)) fresh
    obtain ⟨levels, rfl⟩ : ∃ n, levels = n + 1 := ⟨levels - 1, by omega⟩
    -- every part is written with the container on the stack, and leaves the stack as it found it
    have each : ∀ part ∈ s.parts c, ∀ out, s.write levels part.2 (out, c :: opened) =
        some (out ++ s.textWithin (c :: opened) part.2, c :: opened) :=
      fun part member => hypothesis part member (fun d reached => covers d (reached.of_part is member)) (by omega)
    rw [textWithin_opened is fresh, write, writeOver, is]
    simp only [if_neg fresh]
    cases inner : s.parts c with
    | nil => simp [writeParts, Container.enclose, String.append_assoc]
    | cons part parts =>
      rw [inner] at each
      rw [writeParts_eq _ _ each]
      simp [Container.enclose, String.append_assoc]

/-! ## Plain recursion -/

/-- What is made of every item of a list is made of the list. -/
theorem mapM_eq_some_of_forall {α β : Type} {f : α → Option β} {g : α → β} {xs : List α}
    (each : ∀ x ∈ xs, f x = some (g x)) : xs.mapM f = some (xs.map g) := by
  induction xs with
  | nil => rfl
  | cons x xs ih =>
    have others := ih fun y member => each y (List.mem_cons_of_mem x member)
    simp only [List.mapM_cons, each x List.mem_cons_self, others, Option.bind_eq_bind, Option.bind_some,
      Option.pure_def, List.map_cons]

/-- If something is made of a list, something is made of every item. -/
theorem exists_of_mapM_eq_some {α β : Type} {f : α → Option β} {xs : List α} {ys : List β}
    (made : xs.mapM f = some ys) {x : α} (member : x ∈ xs) : ∃ y, f x = some y := by
  induction xs generalizing ys with
  | nil => cases member
  | cons first xs ih =>
    simp only [List.mapM_cons, Option.bind_eq_bind, Option.bind_eq_some_iff] at made
    obtain ⟨y, here, _, others, _⟩ := made
    rcases List.mem_cons.mp member with rfl | later
    · exact ⟨y, here⟩
    · exact ih others later

/-- Where no cycle is reached and none of the enclosing containers is, nothing is elided. -/
theorem render_eq (enclosing : List Container) (v : Value) (covers : s.Covers heap v)
    (acyclic : s.Acyclic v) (apart : ∀ d ∈ enclosing, ¬s.Reaches v d) {levels : Nat}
    (room : (heap.filter (· ∉ enclosing)).length ≤ levels) :
    s.render levels v = some (s.textWithin enclosing v) := by
  induction enclosing, v using within_induction (s := s) generalizing levels with
  | plain enclosing v plain =>
    rw [textWithin_plain plain]
    cases levels <;> simp only [render, plain, if_true]
  | met enclosing v c is met => exact absurd (reaches_self is) (apart c met)
  | opened enclosing v c is fresh hypothesis =>
    have fewer := length_filter_not_mem_lt (covers c (reaches_self is)) fresh
    obtain ⟨levels, rfl⟩ : ∃ n, levels = n + 1 := ⟨levels - 1, by omega⟩
    have each : ∀ part ∈ s.parts c, s.render levels part.2 =
        some (s.textWithin (c :: enclosing) part.2) := by
      intro part member
      refine hypothesis part member (fun d reached => covers d (reached.of_part is member))
        (fun d reached => acyclic d (reached.of_part is member)) (fun d around reached => ?_) (by omega)
      -- a part that reaches its container would be on a cycle
      rcases List.mem_cons.mp around with rfl | outer
      · exact acyclic.not_reaches is member reached
      · exact apart d outer (reached.of_part is member)
    have texts := mapM_eq_some_of_forall (f := fun part : String × Value =>
        (s.render levels part.2).map (part.1 ++ ·))
      (g := fun part => part.1 ++ s.textWithin (c :: enclosing) part.2)
      fun part member => by rw [each part member, Option.map_some]
    rw [textWithin_opened is fresh, render, is]
    simp only [texts, Option.map_some]

/-- Plain recursion comes to an end only where no cycle is reached. -/
theorem acyclic_of_render {levels : Nat} {text : String} (rendered : s.render levels v = some text) :
    s.Acyclic v := by
  induction levels generalizing v text with
  | zero =>
    rintro d ⟨c, is, _⟩
    simp [render, is] at rendered
  | succ levels ih =>
    have below : ∀ c, v.container? = some c → ∀ part ∈ s.parts c, s.Acyclic part.2 := by
      intro c is part member
      simp only [render, is, Option.map_eq_some_iff] at rendered
      obtain ⟨texts, made, _⟩ := rendered
      obtain ⟨_, inner⟩ := exists_of_mapM_eq_some made member
      obtain ⟨_, inner, _⟩ := Option.map_eq_some_iff.mp inner
      exact ih inner
    rintro d ⟨c, is, further⟩ cycle
    -- a cycle through the container goes on in one of its parts and comes back there
    rcases ReflTransGen.cases_head further with rfl | ⟨e, ⟨part, member, inner⟩, further⟩
    · obtain ⟨e, ⟨part, member, inner⟩, back⟩ := TransGen.head'_iff.mp cycle
      exact below c is part member e (reaches_self inner) (.tail' back ⟨part, member, inner⟩)
    · exact below c is part member d ⟨e, inner, further⟩ cycle

/-! ## Texts -/

/-- A text shows nothing but what is reached from its value. It is the same in a store in which all
of this has the same parts, and it is the same with other containers open, as long as those of them
that are reached are open in both cases. Further down the container of the value is open in both. -/
theorem textWithin_congr {t : Store} {opened opened' : List Container} (v : Value)
    (scalars : ∀ u, t.scalarText u = s.scalarText u)
    (contents : ∀ c, s.Reaches v c → t.parts c = s.parts c)
    (same : ∀ c, s.Reaches v c → (c ∈ opened ↔ c ∈ opened')) :
    s.textWithin opened v = t.textWithin opened' v := by
  induction opened, v using within_induction (s := s) generalizing opened' with
  | plain opened v plain => rw [textWithin_plain plain, textWithin_plain plain, scalars]
  | met opened v c is met =>
    have met' : c ∈ opened' := (same c (reaches_self is)).mp met
    rw [textWithin_met is met, textWithin_met is met']
  | opened opened v c is fresh hypothesis =>
    have fresh' : c ∉ opened' := fun met => fresh ((same c (reaches_self is)).mpr met)
    rw [textWithin_opened is fresh, textWithin_opened is fresh', contents c (reaches_self is)]
    refine congrArg c.enclose (List.map_congr_left fun part member => congrArg (part.1 ++ ·) ?_)
    apply hypothesis part member
    · intro d reached
      exact contents d (reached.of_part is member)
    · intro d reached
      rw [List.mem_cons, List.mem_cons, same d (reached.of_part is member)]

/-- The text of a value of any heap. It is written to its end with a stack that is then empty again,
and no more containers are ever open than are reached from the value. It is the text of a drawing,
whose places are the walks into the value that enter no container inside itself; there a container
is elided if it is one of those around the place, and is opened with all its parts if it is not.
Where no cycle is reached, the text is that of plain recursion, which has none where one is. The
parts of a map are its entries, each once, in the order of the bytes of their keys.

Proof: a value is printed by recursion over the containers that are not yet open, of which the
heap has fewer with each level. Writing with a stack, drawing, and plain recursion are each
compared with that recursion, by its own induction. A drawing has a place for each walk that
enters no container twice. -/
theorem text_of_any_heap (s : Store) (v : Value) :
    (∃ heap, s.Covers heap v) ∧
    (∀ heap, s.Covers heap v → ∀ levels, heap.length ≤ levels → ∀ out,
      s.write levels v (out, []) = some (out ++ s.text v, [])) ∧
    (s.drawing v).text = s.text v ∧
    (∀ path node, (s.drawing v).at? path = some node → ∃ chain u,
      s.follow [] v path = some (chain, u) ∧ chain.Nodup ∧ s.DrawnAs chain u node) ∧
    (∀ path chain u, s.follow [] v path = some (chain, u) → chain.Nodup →
      ∃ node, (s.drawing v).at? path = some node) ∧
    (s.Acyclic v → ∀ heap, s.Covers heap v → ∀ levels, heap.length ≤ levels →
      s.render levels v = some (s.text v)) ∧
    (¬s.Acyclic v → ∀ levels, s.render levels v = none) ∧
    ∀ ref, s.ListsEntries ref (s.maps.get ref).names := by
  -- at the outset no container is open, so the whole heap counts
  have whole : ∀ heap : List Container, (heap.filter (· ∉ ([] : List Container))).length ≤ heap.length :=
    fun heap => List.length_filter_le _ heap
  refine ⟨s.exists_covers v, ?_, s.text_draw [] v, ?_, ?_, ?_, ?_, s.listsEntries⟩
  · intro heap covers levels enough out
    exact write_eq [] v covers (Nat.le_trans (whole heap) enough) out
  · intro path node found
    obtain ⟨chain, u, followed, distinct, drawn⟩ := (at?_draw_eq_some_iff List.nodup_nil).mp found
    exact ⟨chain, u, followed, distinct, drawn ▸ s.draw_drawnAs chain u⟩
  · intro path chain u followed distinct
    exact ⟨_, (at?_draw_eq_some_iff List.nodup_nil).mpr ⟨chain, u, followed, distinct, rfl⟩⟩
  · intro acyclic heap covers levels enough
    exact render_eq [] v covers acyclic nofun (Nat.le_trans (whole heap) enough)
  · intro cyclic levels
    cases rendered : s.render levels v with
    | none => rfl
    | some text => exact absurd (acyclic_of_render rendered) cyclic

/-- A list that holds itself and a map, which holds another list under two keys. -/
def twisted : Store where
  lists := ⟨#[[.sequence .list ⟨0⟩, .map ⟨0⟩], [.null]]⟩
  maps := ⟨#[.ofList [("b", .sequence .list ⟨1⟩), ("a", .sequence .list ⟨1⟩)]]⟩

/-- What is reached from the list that holds itself. -/
def twistedHeap : List Container := [.sequence .list ⟨0⟩, .map ⟨0⟩, .sequence .list ⟨1⟩]

/-- The list is elided inside itself. From the map no cycle is reached, and the list that it holds
twice is shown twice. -/
theorem text_of_twisted :
    twisted.Covers twistedHeap (.sequence .list ⟨0⟩) ∧
      twisted.text (.sequence .list ⟨0⟩) = "[[...], \x7ba=[null], b=[null]\x7d]" ∧
      twisted.Acyclic (.map ⟨0⟩) ∧
      twisted.render 3 (.map ⟨0⟩) = some (twisted.text (.map ⟨0⟩)) := by
  -- the heap is closed under parts, so it has all that is reached
  have closed : twistedHeap.all (fun c => (twisted.parts c).all fun part =>
      part.2.container?.all fun d => decide (d ∈ twistedHeap)) = true := by decide
  have covers : twisted.Covers twistedHeap (.sequence .list ⟨0⟩) := by
    refine covers_of_closed (fun c is => ?_) ?_
    · cases is
      exact List.mem_cons_self
    · rintro c member d ⟨part, inside, inner⟩
      have known := List.all_eq_true.mp (List.all_eq_true.mp closed c member) part inside
      rw [inner] at known
      exact of_decide_eq_true known
  have written := (text_of_any_heap twisted (.sequence .list ⟨0⟩)).2.1 _ covers 3 (Nat.le_refl 3) ""
  have result : twisted.write 3 (.sequence .list ⟨0⟩) ("", []) =
      some ("[[...], \x7ba=[null], b=[null]\x7d]", []) := by decide
  rw [result, Option.some.injEq, Prod.mk.injEq, String.empty_append] at written
  have acyclic : twisted.Acyclic (.map ⟨0⟩) :=
    acyclic_of_render (by decide : twisted.render 2 (.map ⟨0⟩) = some "\x7ba=[null], b=[null]\x7d")
  have inside : ("", Value.map ⟨0⟩) ∈ twisted.parts (.sequence .list ⟨0⟩) := by decide
  have covers' : twisted.Covers twistedHeap (.map ⟨0⟩) :=
    fun d reached => covers d (reached.of_part rfl inside)
  have rendered := (text_of_any_heap twisted (.map ⟨0⟩)).2.2.2.2.2.1 acyclic _ covers' 3 (Nat.le_refl 3)
  exact ⟨covers, written.1.symm, acyclic, rendered⟩

end PropertyPath.Store
