import PropertyPath.Proofs.Levels
import PropertyPath.Proofs.Recognition

/-!
# Exactness of reading

A source is read as an expression exactly if it renders that expression and the expression
nests no deeper than the limit. Three things are checked in turn when a source is read, and
each of them is told by the rendering: how deep the scan finds it nested, whether the
grammar applies, and whether its integers are of 64 bits.

Renderings are unambiguous whatever their depth. Given two trees of one text, the grammar
reads the text with as many levels as the deeper of them has, and what it reads is both.
-/

namespace PropertyPath

open Token

/-- What spells a literal is written as one. -/
theorem Literal.isLiteral {w : List Char} {l : Literal} (spelled : Literal.Spelled w l) : IsLiteral w := by
  obtain ⟨_, written, _⟩ := Grammar.Lexeme.Spelled.of_literal spelled [] 0
  exact written.isLiteral

/-- Literals are read where they are spelled. -/
theorem Literal.lexicon (source : List Char) :
    Lexicon Literal.Spelled (Grammar.Lexeme.literal source) := by
  intro w l remaining
  constructor
  · intro spelled
    exact Grammar.Lexeme.Spelled.of_literal spelled source remaining
  · rintro ⟨lexeme, written, meant⟩
    exact written.literal meant

/-- Every shape is read where it is spelled. -/
theorem Shape.lexicon : Lexicon (fun w _ => IsLiteral w) fun _ => (.ok () : Except Empty Unit) := by
  intro w _ remaining
  constructor
  · intro written
    obtain ⟨lexeme, spelled⟩ := Grammar.Lexeme.Spelled.of_isLiteral written remaining
    exact ⟨lexeme, spelled, rfl⟩
  · rintro ⟨_, spelled, _⟩
    exact spelled.isLiteral

namespace Grammar

variable {tokens : List (List Char)} {text : List Char} {levels : Nat}

/-- What is read as an expression is of the grammar. -/
theorem grammatical_of_expression? {e : Expr Lexeme} (read : expression? levels text = some e) :
    Grammatical text := by
  obtain ⟨shape, meant⟩ : ∃ shape, e.traverse (fun _ => (.ok () : Except Empty Unit)) = .ok shape :=
    Expr.traverse_ok_iff.mpr fun _ _ => ⟨(), rfl⟩
  obtain ⟨tokens, value, spread⟩ := spread_of_expression? Shape.lexicon read meant
  exact ⟨tokens, shape, value, spread⟩

/-- A text of the grammar is read as an expression, if it does not nest too deep, with its
literals in their places. -/
theorem expression?_of_shape {shape : Shape} (shallow : shape.depth ≤ levels)
    (value : Shape.Spelled tokens shape) (spread : Spread tokens text) :
    ∃ e rest, expression? levels text = some e ∧ Placed tokens e.literals text rest ∧ Blanks rest := by
  obtain ⟨e, rest, read, _, placed, blank⟩ := expression?_of_spread Shape.lexicon shallow value spread
  exact ⟨e, rest, read, placed, blank⟩

end Grammar

namespace Expr

variable {text : List Char} {e : Expr Literal}

/-- Characters are read as an expression exactly if they render it and it nests within
the limit. -/
theorem read_eq_ok_iff : Expr.read text = .ok e ↔ e.RenderedBy text ∧ e.depth ≤ Nesting.limit := by
  have lexicon := Literal.lexicon text
  constructor
  · intro read
    unfold Expr.read at read
    split at read
    next => cases read
    next nothing =>
      split at read
      next e' found =>
        obtain ⟨tokens, value, spread⟩ := Grammar.spread_of_expression? lexicon found read
        have shallow := (excess?_eq_none_iff Literal.isLiteral value spread).mp nothing
        exact ⟨⟨tokens, value, spread⟩, shallow⟩
      next => cases read
  · rintro ⟨⟨tokens, value, spread⟩, shallow⟩
    have nothing := (excess?_eq_none_iff Literal.isLiteral value spread).mpr shallow
    obtain ⟨e', _, found, meant, _⟩ := Grammar.expression?_of_spread lexicon shallow value spread
    simp only [Expr.read, nothing, found, meant]

/-- Characters are refused for their nesting exactly if the scan finds a level too many. -/
theorem read_nested_iff :
    (∃ f, Expr.read text = .error f ∧ f.cause = .nestedTooDeep) ↔ Nesting.excess? {} text ≠ none := by
  constructor
  · rintro ⟨f, read, cause⟩ nothing
    simp only [Expr.read, nothing] at read
    split at read
    next e' found =>
      obtain ⟨_, lexeme, _, _, rejected, _⟩ := traverse_eq_error_iff.mp read
      obtain ⟨_, _, _, _, _, rfl⟩ := Grammar.literal_eq_error_iff.mp rejected
      cases cause
    next =>
      cases read
      cases cause
  · intro something
    obtain ⟨rest, excess⟩ := Option.ne_none_iff_exists'.mp something
    exact ⟨⟨text, text.length - rest.length, none, .nestedTooDeep⟩, by simp only [Expr.read, excess], rfl⟩

/-- The error stands where the scan stopped. -/
theorem read_of_excess {before rest : List Char} (excess : Nesting.excess? {} (before ++ rest) = some rest) :
    Expr.read (before ++ rest) = .error ⟨before ++ rest, before.length, none, .nestedTooDeep⟩ := by
  have position : (before ++ rest).length - rest.length = before.length := by simp
  simp only [Expr.read, excess, position]

/-- A text renders at most one expression. -/
theorem RenderedBy.unique {other : Expr Literal} (one : e.RenderedBy text)
    (another : other.RenderedBy text) : e = other := by
  obtain ⟨_, value, spread⟩ := one
  obtain ⟨_, value', spread'⟩ := another
  have lexicon := Literal.lexicon text
  obtain ⟨_, _, found, meant, _⟩ := Grammar.expression?_of_spread lexicon
    (Nat.le_max_left e.depth other.depth) value spread
  obtain ⟨_, _, found', meant', _⟩ := Grammar.expression?_of_spread lexicon
    (Nat.le_max_right e.depth other.depth) value' spread'
  cases found.symm.trans found'
  cases meant.symm.trans meant'
  rfl

/-- Reading is exact: a source denotes an expression exactly if it renders the expression
and the brackets and parentheses of the expression nest at most 64 deep. The integers of
a rendering are of 64 bits. No source renders two expressions, however deep they nest. -/
theorem parse_exactly_renderings (source : String) :
    (∀ e, Expr.parse source = .ok e ↔ e.RenderedBy source.toList ∧ e.depth ≤ 64) ∧
      Subsingleton { e : Expr Literal // e.RenderedBy source.toList } :=
  ⟨fun _ => read_eq_ok_iff, ⟨fun one another => Subtype.ext (one.2.unique another.2)⟩⟩

end Expr

end PropertyPath
