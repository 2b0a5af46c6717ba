import Mathlib.Data.List.Forall2
import PropertyPath.Syntax.Expr

/-!
# Traversal of the literals of an expression

The literals of an expression are transformed from left to right until one is rejected. What
becomes of an expression is told by what becomes of its parts, and a traversal is rejected
for the first literal that is.
-/

namespace PropertyPath

variable {α β γ ε : Type} {f : α → Except ε β}

/-! ## Transformed expressions -/

/-- Two steps succeed exactly if the first does and the second does on its result. The lemmas below
take a transformation apart with it, one constructor at a time. -/
theorem bind_eq_ok_iff {x : Except ε α} {g : α → Except ε β} {y : β} :
    x >>= g = .ok y ↔ ∃ a, x = .ok a ∧ g a = .ok y := by
  cases x with
  | error e => exact ⟨nofun, nofun⟩
  | ok a => exact ⟨fun done => ⟨a, rfl, done⟩, by rintro ⟨_, ⟨⟩, done⟩; exact done⟩

/-- A literal is transformed to a literal. -/
theorem Expr.traverse_literal_eq_ok_iff {l : α} {e : Expr β} :
    (Expr.literal l).traverse f = .ok e ↔ ∃ x, f l = .ok x ∧ .literal x = e := by
  simp only [Expr.traverse, bind_eq_ok_iff, pure, Except.pure, Except.ok.injEq]

/-- A path is transformed to a path: its root first, and then its segments. -/
theorem Expr.traverse_path_eq_ok_iff {root : Root α} {segments : List (Segment α)} {e : Expr β} :
    (Expr.path root segments).traverse f = .ok e ↔ ∃ root', root.traverse f = .ok root' ∧
      ∃ segments', Segment.traverseList f segments = .ok segments' ∧ .path root' segments' = e := by
  simp only [Expr.traverse, bind_eq_ok_iff, pure, Except.pure, Except.ok.injEq]

/-- A call keeps its prefix and its name, and its arguments are transformed. -/
theorem Root.traverse_call_eq_ok_iff {space name : String} {arguments : List (Expr α)} {r : Root β} :
    (Root.call space name arguments).traverse f = .ok r ↔ ∃ arguments',
      Expr.traverseList f arguments = .ok arguments' ∧ .call space name arguments' = r := by
  simp only [Root.traverse, bind_eq_ok_iff, pure, Except.pure, Except.ok.injEq]

/-- An index is transformed to an index. -/
theorem Segment.traverse_index_eq_ok_iff {index : Expr α} {s : Segment β} :
    (Segment.index index).traverse f = .ok s ↔ ∃ index', index.traverse f = .ok index' ∧
      .index index' = s := by
  simp only [Segment.traverse, bind_eq_ok_iff, pure, Except.pure, Except.ok.injEq]

/-- Several expressions are transformed exactly if each one is. They keep their number and their
order. -/
theorem Expr.traverseList_eq_ok_iff {es : List (Expr α)} {es' : List (Expr β)} :
    Expr.traverseList f es = .ok es' ↔ List.Forall₂ (fun e e' => e.traverse f = .ok e') es es' := by
  induction es generalizing es' with
  | nil => simp [Expr.traverseList, pure, Except.pure, eq_comm]
  | cons e es ih =>
    simp only [Expr.traverseList, bind_eq_ok_iff, pure, Except.pure, Except.ok.injEq, ih,
      List.forall₂_cons_left_iff]
    grind

/-- Several segments are transformed exactly if each one is. -/
theorem Segment.traverseList_eq_ok_iff {ss : List (Segment α)} {ss' : List (Segment β)} :
    Segment.traverseList f ss = .ok ss' ↔
      List.Forall₂ (fun s s' => s.traverse f = .ok s') ss ss' := by
  induction ss generalizing ss' with
  | nil => simp [Segment.traverseList, pure, Except.pure, eq_comm]
  | cons s ss ih =>
    simp only [Segment.traverseList, bind_eq_ok_iff, pure, Except.pure, Except.ok.injEq, ih,
      List.forall₂_cons_left_iff]
    grind

/-! ## Literals from left to right -/

mutual

/-- The literals of an expression, from left to right. -/
def Expr.literals : Expr α → List α
  | .literal value => [value]
  | .path root segments => root.literals ++ Segment.literalsOf segments

/-- The literals in the arguments of a root. -/
def Root.literals : Root α → List α
  | .identifier _ => []
  | .call _ _ arguments => Expr.literalsOf arguments

/-- The literals in an index. -/
def Segment.literals : Segment α → List α
  | .property _ => []
  | .index index => index.literals

/-- The literals in a list of expressions. -/
def Expr.literalsOf : List (Expr α) → List α
  | [] => []
  | first :: rest => first.literals ++ Expr.literalsOf rest

/-- The literals in a list of segments. -/
def Segment.literalsOf : List (Segment α) → List α
  | [] => []
  | first :: rest => first.literals ++ Segment.literalsOf rest

end

/-- The literals of several expressions are those of each, one after another. -/
theorem Expr.literalsOf_eq_flatMap (es : List (Expr α)) : Expr.literalsOf es = es.flatMap Expr.literals := by
  induction es with
  | nil => rfl
  | cons e es ih => rw [Expr.literalsOf, ih, List.flatMap_cons]

/-- The literals of several segments are those of each, one after another. -/
theorem Segment.literalsOf_eq_flatMap (ss : List (Segment α)) :
    Segment.literalsOf ss = ss.flatMap Segment.literals := by
  induction ss with
  | nil => rfl
  | cons s ss ih => rw [Segment.literalsOf, ih, List.flatMap_cons]

mutual

/-- The literals of a transformed expression are the literals transformed, in order. -/
theorem Expr.literals_traverse : ∀ {e : Expr α} {e' : Expr β}, e.traverse f = .ok e' →
    List.Forall₂ (fun x y => f x = .ok y) e.literals e'.literals
  | .literal _, _, done => by
    obtain ⟨_, meant, rfl⟩ := Expr.traverse_literal_eq_ok_iff.mp done
    exact .cons meant .nil
  | .path _ _, _, done => by
    obtain ⟨_, start, _, steps, rfl⟩ := Expr.traverse_path_eq_ok_iff.mp done
    exact List.rel_append (Root.literals_traverse start) (Segment.literals_traverseList steps)

/-- The literals of a transformed root are the transformed literals of the root. -/
theorem Root.literals_traverse : ∀ {r : Root α} {r' : Root β}, r.traverse f = .ok r' →
    List.Forall₂ (fun x y => f x = .ok y) r.literals r'.literals
  | .identifier _, _, done => by
    cases done
    exact .nil
  | .call _ _ _, _, done => by
    obtain ⟨_, given, rfl⟩ := Root.traverse_call_eq_ok_iff.mp done
    exact Expr.literals_traverseList given

/-- The literals of a transformed segment are the transformed literals of the segment. -/
theorem Segment.literals_traverse : ∀ {s : Segment α} {s' : Segment β}, s.traverse f = .ok s' →
    List.Forall₂ (fun x y => f x = .ok y) s.literals s'.literals
  | .property _, _, done => by
    cases done
    exact .nil
  | .index _, _, done => by
    obtain ⟨_, value, rfl⟩ := Segment.traverse_index_eq_ok_iff.mp done
    exact Expr.literals_traverse value

/-- The same of several expressions. -/
theorem Expr.literals_traverseList : ∀ {es : List (Expr α)} {es' : List (Expr β)},
    Expr.traverseList f es = .ok es' →
    List.Forall₂ (fun x y => f x = .ok y) (Expr.literalsOf es) (Expr.literalsOf es')
  | [], _, done => by
    cases done
    exact .nil
  | first :: rest, _, done => by
    obtain _ | ⟨one, more⟩ := Expr.traverseList_eq_ok_iff.mp done
    exact List.rel_append (Expr.literals_traverse one)
      (Expr.literals_traverseList (Expr.traverseList_eq_ok_iff.mpr more))

/-- The same of several segments. -/
theorem Segment.literals_traverseList : ∀ {ss : List (Segment α)} {ss' : List (Segment β)},
    Segment.traverseList f ss = .ok ss' →
    List.Forall₂ (fun x y => f x = .ok y) (Segment.literalsOf ss) (Segment.literalsOf ss')
  | [], _, done => by
    cases done
    exact .nil
  | first :: rest, _, done => by
    obtain _ | ⟨one, more⟩ := Segment.traverseList_eq_ok_iff.mp done
    exact List.rel_append (Segment.literals_traverse one)
      (Segment.literals_traverseList (Segment.traverseList_eq_ok_iff.mpr more))

end

/-- What is a literal of a transformed expression comes from one of the expression. -/
theorem Expr.mem_literals_traverse {e : Expr α} {e' : Expr β} (done : e.traverse f = .ok e') {y : β} :
    y ∈ e'.literals ↔ ∃ x ∈ e.literals, f x = .ok y := by
  have all := Expr.literals_traverse done
  generalize e.literals = xs, e'.literals = ys at all
  induction all with
  | nil => simp
  | cons one _ ih => simp [one, ih, eq_comm]

/-! ## Rejection -/

/-- Why something was rejected, if it was. -/
def rejection? : Except ε α → Option ε
  | .ok _ => none
  | .error reason => some reason

/-- There is no rejection exactly if there is a result. -/
theorem rejection?_eq_none_iff {x : Except ε α} : rejection? x = none ↔ ∃ a, x = .ok a := by
  cases x with
  | error reason => exact ⟨nofun, nofun⟩
  | ok a => exact ⟨fun _ => ⟨a, rfl⟩, fun _ => rfl⟩

/-- A rejection is the error of an outcome that has no result. -/
theorem rejection?_eq_some_iff {x : Except ε α} {reason : ε} :
    rejection? x = some reason ↔ x = .error reason := by
  cases x with
  | error other => simp [rejection?]
  | ok a => exact ⟨nofun, nofun⟩

/-- A step that cannot fail rejects nothing. Building a node from its parts is such a step, so its
rejections are those of its parts. -/
theorem rejection?_bind_pure {x : Except ε α} {g : α → β} :
    rejection? (x >>= fun a => pure (g a)) = rejection? x := by
  cases x <;> rfl

/-- The first of two rejections counts. -/
theorem rejection?_bind_bind {x : Except ε α} {y : Except ε β} {g : α → β → γ} :
    rejection? (x >>= fun a => y >>= fun b => pure (g a b)) = (rejection? x).or (rejection? y) := by
  cases x with
  | error reason => rfl
  | ok a => exact rejection?_bind_pure

mutual

/-- A traversal is rejected for the first literal that is. -/
theorem Expr.rejection?_traverse (f : α → Except ε β) : ∀ e : Expr α,
    rejection? (e.traverse f) = e.literals.findSome? (rejection? ∘ f)
  | .literal value => by
    rw [Expr.traverse, rejection?_bind_pure, Expr.literals, List.findSome?_singleton]
    rfl
  | .path root segments => by
    rw [Expr.traverse, rejection?_bind_bind, Root.rejection?_traverse f root,
      Segment.rejection?_traverseList f segments, Expr.literals, List.findSome?_append]

/-- A root is rejected for its first literal that is. -/
theorem Root.rejection?_traverse (f : α → Except ε β) : ∀ r : Root α,
    rejection? (r.traverse f) = r.literals.findSome? (rejection? ∘ f)
  | .identifier _ => rfl
  | .call _ _ arguments => by
    rw [Root.traverse, rejection?_bind_pure, Expr.rejection?_traverseList f arguments, Root.literals]

/-- A segment is rejected for its first literal that is. -/
theorem Segment.rejection?_traverse (f : α → Except ε β) : ∀ s : Segment α,
    rejection? (s.traverse f) = s.literals.findSome? (rejection? ∘ f)
  | .property _ => rfl
  | .index index => by
    rw [Segment.traverse, rejection?_bind_pure, Expr.rejection?_traverse f index, Segment.literals]

/-- Several expressions are rejected for the first literal of any that is. -/
theorem Expr.rejection?_traverseList (f : α → Except ε β) : ∀ es : List (Expr α),
    rejection? (Expr.traverseList f es) = (Expr.literalsOf es).findSome? (rejection? ∘ f)
  | [] => rfl
  | first :: rest => by
    rw [Expr.traverseList, rejection?_bind_bind, Expr.rejection?_traverse f first,
      Expr.rejection?_traverseList f rest, Expr.literalsOf, List.findSome?_append]

/-- Several segments are rejected for the first literal of any that is. -/
theorem Segment.rejection?_traverseList (f : α → Except ε β) : ∀ ss : List (Segment α),
    rejection? (Segment.traverseList f ss) = (Segment.literalsOf ss).findSome? (rejection? ∘ f)
  | [] => rfl
  | first :: rest => by
    rw [Segment.traverseList, rejection?_bind_bind, Segment.rejection?_traverse f first,
      Segment.rejection?_traverseList f rest, Segment.literalsOf, List.findSome?_append]

end

/-- An expression is transformed if all its literals are. -/
theorem Expr.traverse_ok_iff {e : Expr α} :
    (∃ e', e.traverse f = .ok e') ↔ ∀ x ∈ e.literals, ∃ y, f x = .ok y := by
  rw [← rejection?_eq_none_iff, Expr.rejection?_traverse, List.findSome?_eq_none_iff]
  exact forall₂_congr fun _ _ => rejection?_eq_none_iff

/-- An expression is rejected like the first literal that is. -/
theorem Expr.traverse_eq_error_iff {e : Expr α} {reason : ε} :
    e.traverse f = .error reason ↔ ∃ front x back, e.literals = front ++ x :: back ∧
      f x = .error reason ∧ ∀ y ∈ front, ∃ z, f y = .ok z := by
  rw [← rejection?_eq_some_iff, Expr.rejection?_traverse, List.findSome?_eq_some_iff]
  simp only [Function.comp_apply, rejection?_eq_some_iff, rejection?_eq_none_iff]

end PropertyPath
