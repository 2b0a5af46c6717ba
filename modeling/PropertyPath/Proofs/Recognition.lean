import Mathlib.Data.List.TakeWhile
import PropertyPath.Proofs.Spreading
import PropertyPath.Proofs.Traversal

/-!
# Recognition of renderings

The grammar recognises the renderings of expressions and nothing else, given that it
recognises their literals. One notion for each direction is proved of every rule.

A rule *takes* a tree if, wherever tokens of that tree stand with something behind them
that may follow, it reads these tokens and stops there, and the literals it returns are those
among the tokens, each in its place. No rendering is lost by deciding early: a name is told
apart from a literal at its end, a call from a name by the colon behind it, and one kind of
segment from the other by its first character. A rule *yields* trees if whatever it reads
consists of tokens of the tree that it returns.

The number of levels matters in the first direction only. Taking an expression goes by
induction on it: a value over a reader takes an expression if that reader takes what the
brackets and parentheses of the expression enclose.
-/

namespace PropertyPath

open Reader Token Grammar

variable {α β β' ε : Type} {symbols text rest : List Char} {tokens later : List (List Char)}

/-! ## Repetition -/

/-- A reader takes something if it reads its tokens wherever they stand before what may
follow them, and reads what means that thing, with the literals in their places. -/
def Takes (reader : Reader β') (literals : β' → List Lexeme) (means : β' → β → Prop)
    (item : List (List Char) → β → Prop) (symbols : List Char) (x : β) : Prop :=
  ∀ tokens later text, item tokens x → Follows symbols later → Spread (tokens ++ later) text →
    ∃ x' rest, reader (skip text) = some (x', rest) ∧ means x' x ∧
      Placed tokens (literals x') text rest ∧ Spread later rest ∧ rest.length < text.length

/-- A reader yields things of a kind if it reads tokens of the thing that it returns. -/
def Yields (reader : Reader β') (means : β' → β → Prop) (item : List (List Char) → β → Prop) : Prop :=
  ∀ text x' x rest, reader text = some (x', rest) → means x' x →
    ∃ tokens, item tokens x ∧ Begins tokens text rest

/-- Things of a kind whose tokens begin with one of some symbols. -/
def StartsWith (symbols : List Char) (item : List (List Char) → β → Prop) : Prop :=
  ∀ tokens x, item tokens x → ∃ c more, tokens = [c] :: more ∧ c ∈ symbols ∧ c ∈ marks

variable {reader : Reader β'} {literals : β' → List Lexeme} {means : β' → β → Prop}
  {item : List (List Char) → β → Prop}

/-- The tokens of a sequence begin like those of its items. -/
theorem Sequence.follows {final : List Char} {back : List (List Char)} {xs : List β}
    (starts : StartsWith symbols item)
    (included : ∀ c ∈ final, c ∈ symbols) (sequence : Sequence item back xs)
    (follows : Follows final later) : Follows symbols (back ++ later) := by
  cases sequence with
  | nil => exact follows.mono included
  | cons first _ =>
    obtain ⟨c, more, rfl, member, mark⟩ := starts _ _ first
    exact follows_cons member mark _

/-- Repetition takes a sequence whose items its reader takes, and stops behind it where
the reader does not apply. What may follow an item is the next item or what follows the
sequence, so the symbols that begin items are among those that may follow one. -/
theorem many_takes {final : List Char} {back : List (List Char)} {xs : List β}
    (starts : StartsWith symbols item)
    (included : ∀ c ∈ final, c ∈ symbols)
    (stops : ∀ later text, Follows final later → Spread later text → reader (skip text) = none)
    (sequence : Sequence item back xs) (takes : ∀ x ∈ xs, Takes reader literals means item symbols x)
    (follows : Follows final later) (spread : Spread (back ++ later) text) :
    ∃ xs' rest, many (spaced reader) text = (xs', rest) ∧ List.Forall₂ means xs' xs ∧
      Placed back (xs'.flatMap literals) text rest ∧ Spread later rest ∧ rest.length ≤ text.length := by
  -- on the sequence: each item is followed by the next or by what may stand behind all
  induction sequence generalizing text with
  | nil =>
    have ends : spaced reader text = none := stops later text follows spread
    rw [many, ends]
    exact ⟨[], text, rfl, .nil, .done, spread, Nat.le_refl _⟩
  | @cons front back x xs first sequence ih =>
    rw [List.append_assoc] at spread
    obtain ⟨x', middle, read, meant, placed, spread, shorter⟩ := takes x List.mem_cons_self front
      (back ++ later) text first (sequence.follows starts included follows) spread
    obtain ⟨xs', rest, others, allMeant, othersPlaced, spread, further⟩ :=
      ih (fun x member => takes x (List.mem_cons_of_mem _ member)) spread
    have applies : spaced reader text = some (x', middle) := read
    refine ⟨x' :: xs', rest, ?_, .cons meant allMeant, ?_, spread, by omega⟩
    case refine_2 =>
      rw [List.flatMap_cons]
      exact placed.append othersPlaced
    -- an item has a token, so repetition sees the text shortened and goes on
    rw [many, applies]
    simp only [shorter, if_true, others]

/-- Repetition yields sequences of what its reader yields. -/
theorem many_yields (yields : Yields reader means item) {xs' : List β'} {xs : List β}
    (read : many (spaced reader) text = (xs', rest)) (meant : List.Forall₂ means xs' xs) :
    ∃ tokens, Sequence item tokens xs ∧ Begins tokens text rest := by
  induction text using many.induct (spaced reader) generalizing xs' xs with
  | case1 text ends =>
    rw [many, ends] at read
    cases read
    cases meant
    exact ⟨[], .nil, .nil⟩
  | case2 text x' middle applies shorter others after further ih =>
    rw [many, applies] at read
    simp only [shorter, if_true, further] at read
    cases read
    obtain _ | ⟨firstMeant, allMeant⟩ := meant
    obtain ⟨front, first, begins⟩ := yields _ _ _ _ applies firstMeant
    obtain ⟨back, sequence, continues⟩ := ih further allMeant
    exact ⟨front ++ back, .cons first sequence, begins.of_skip.trans continues⟩
  -- a reading that does not shorten the text is not repeated
  | case3 text x' middle applies longer =>
    rw [many, applies] at read
    simp only [longer, if_false] at read
    cases read
    cases meant
    exact ⟨[], .nil, .nil⟩

/-! ## Rules -/

/-- Literals of a kind are spelled like what is read as a literal and means them. What is read
may mean none of that kind. -/
def Lexicon (spelled : List Char → α → Prop) (meaning : Lexeme → Except ε α) : Prop :=
  ∀ w x remaining, spelled w x ↔ ∃ lexeme, Lexeme.Spelled w remaining lexeme ∧ meaning lexeme = .ok x

variable {spelled : List Char → α → Prop} {meaning : Lexeme → Except ε α}
  {nested : Reader (Expr Lexeme)} {k : Nat}

/-- What was read means an expression. -/
abbrev Expr.Means (meaning : Lexeme → Except ε α) (read : Expr Lexeme) (e : Expr α) : Prop :=
  read.traverse meaning = .ok e

/-- What was read means a root. -/
abbrev Root.Means (meaning : Lexeme → Except ε α) (read : Root Lexeme) (r : Root α) : Prop :=
  read.traverse meaning = .ok r

/-- What was read means a segment. -/
abbrev Segment.Means (meaning : Lexeme → Except ε α) (read : Segment Lexeme) (s : Segment α) : Prop :=
  read.traverse meaning = .ok s

/-- A reader takes the expressions below some depth, and reads nothing at the end of arguments. -/
structure TakesBelow (spelled : List Char → α → Prop) (meaning : Lexeme → Except ε α)
    (nested : Reader (Expr Lexeme)) (k : Nat) : Prop where
  takes : ∀ e : Expr α, e.depth < k →
    Takes nested Expr.literals (Expr.Means meaning) (Expr.Spelled spelled) closing e
  refuses : ∀ rest, nested (')' :: rest) = none

/-- No argument is deeper than all of them. -/
theorem Expr.depth_le_depthOf {e : Expr α} {es : List (Expr α)} (member : e ∈ es) :
    e.depth ≤ Expr.depthOf es := by
  induction es with
  | nil => cases member
  | cons first others ih =>
    rw [Expr.depthOf]
    rcases List.mem_cons.mp member with rfl | further
    · exact Nat.le_max_left _ _
    · exact Nat.le_trans (ih further) (Nat.le_max_right _ _)

/-- No segment is deeper than all of them. -/
theorem Segment.depth_le_depthOf {s : Segment α} {ss : List (Segment α)} (member : s ∈ ss) :
    s.depth ≤ Segment.depthOf ss := by
  induction ss with
  | nil => cases member
  | cons first others ih =>
    rw [Segment.depthOf]
    rcases List.mem_cons.mp member with rfl | further
    · exact Nat.le_max_left _ _
    · exact Nat.le_trans (ih further) (Nat.le_max_right _ _)

namespace Grammar

/-- A further argument is taken behind its comma, if the argument is. -/
theorem furtherArgument_takes {e : Expr α}
    (takes : Takes nested Expr.literals (Expr.Means meaning) (Expr.Spelled spelled) closing e) :
    Takes (furtherArgument nested) Expr.literals (Expr.Means meaning) (Expr.FurtherSpelled spelled)
      separating e := by
  rintro _ later text ⟨value⟩ follows spread
  obtain ⟨afterComma, comma, commaPlaced, spread, shorter⟩ := spread.symbol (by decide)
  obtain ⟨e', rest, read, meant, placed, spread, further⟩ :=
    takes _ later afterComma value (follows.mono (by simp [separating, closing])) spread
  refine ⟨e', rest, ?_, meant, commaPlaced.append placed, spread, by omega⟩
  simp only [furtherArgument, comma, Option.bind_eq_bind, Option.bind_some, spaced, read]

/-- A further argument yields a comma and the tokens of an argument. -/
theorem furtherArgument_yields (yields : Yields nested (Expr.Means meaning) (Expr.Spelled spelled)) :
    Yields (furtherArgument nested) (Expr.Means meaning) (Expr.FurtherSpelled spelled) := by
  intro text e' e rest read meant
  simp only [furtherArgument, Option.bind_eq_bind, Option.bind_eq_some_iff, Prod.exists] at read
  obtain ⟨_, afterComma, comma, read⟩ := read
  obtain ⟨inner, value, begins⟩ := yields _ _ _ _ read meant
  exact ⟨_, .comma value, (Begins.symbol comma).trans begins.of_skip⟩

/-- Further arguments begin with a comma. What they begin with is never part of the argument
before. -/
theorem furtherSpelled_starts : StartsWith separating (Expr.FurtherSpelled spelled) := by
  intro inner e further
  cases further with
  | comma value => exact ⟨',', _, rfl, by decide, by decide⟩

/-- No further argument is read where the arguments have ended. -/
theorem furtherArgument_eq_none (spread : Spread later text) (follows : Follows [')'] later) :
    furtherArgument nested (skip text) = none := by
  simp only [furtherArgument, spread.symbol_eq_none follows (by decide : ',' ∉ [')']),
    Option.bind_eq_bind, Option.bind_none]

/-- Arguments are taken up to the parenthesis behind them. -/
theorem arguments_takes {es : List (Expr α)} {inner : List (List Char)}
    (below : TakesBelow spelled meaning nested k) (bounded : Expr.depthOf es < k)
    (given : Expr.ArgumentsSpelled spelled inner es)
    (spread : Spread (inner ++ [')'] :: later) text) :
    ∃ es' rest, arguments nested (skip text) = (es', rest) ∧
      Expr.traverseList meaning es' = .ok es ∧ Placed inner (Expr.literalsOf es') text rest ∧
      Spread ([')'] :: later) rest ∧ rest.length ≤ text.length := by
  cases given with
  | none =>
    -- the first token is the parenthesis, at which no value begins
    obtain ⟨rest, front, spread, shorter⟩ := spread.exists_of_cons (solid_mark (by decide))
    have ends : nested (skip text) = none := by
      rw [front]
      exact below.refuses rest
    have begins : Begins [[')']] (skip text) rest := by
      rw [front]
      exact .token [')'] rest
    refine ⟨[], skip text, ?_, rfl, Placed.of_skip .done, begins.spread spread, ?_⟩
    · simp only [arguments, ends]
    · rw [front]
      exact shorter
  | @some front back first others value further =>
    -- behind the last argument stands the parenthesis, and behind the others a comma
    have close : Follows [')'] ([')'] :: later) := follows_cons (by decide) (by decide) later
    have between : Follows separating (back ++ [')'] :: later) :=
      further.follows furtherSpelled_starts (by simp [separating]) close
    rw [Expr.depthOf, Nat.max_lt] at bounded
    rw [List.append_assoc] at spread
    obtain ⟨first', middle, read, firstMeant, placed, spread, shorter⟩ := below.takes first bounded.1
      front _ text value (between.mono (by simp [separating, closing])) spread
    have takes : ∀ e ∈ others, Takes (furtherArgument nested) Expr.literals (Expr.Means meaning)
        (Expr.FurtherSpelled spelled) separating e := fun e member =>
      furtherArgument_takes (below.takes e (Nat.lt_of_le_of_lt (Expr.depth_le_depthOf member) bounded.2))
    obtain ⟨others', rest, othersRead, othersMeant, othersPlaced, spread, further⟩ :=
      many_takes furtherSpelled_starts (by simp [separating])
        (fun _ _ follows spread => furtherArgument_eq_none spread follows) further takes close spread
    refine ⟨first' :: others', rest, ?_, ?_, ?_, spread, by omega⟩
    · simp only [arguments, read, othersRead]
    · exact Expr.traverseList_eq_ok_iff.mpr (.cons firstMeant othersMeant)
    · rw [Expr.literalsOf, Expr.literalsOf_eq_flatMap]
      exact placed.append othersPlaced

/-- Arguments yield the tokens of each, or none at all. -/
theorem arguments_yields (yields : Yields nested (Expr.Means meaning) (Expr.Spelled spelled))
    {es' : List (Expr Lexeme)} {es : List (Expr α)} (read : arguments nested text = (es', rest))
    (meant : Expr.traverseList meaning es' = .ok es) :
    ∃ tokens, Expr.ArgumentsSpelled spelled tokens es ∧ Begins tokens text rest := by
  rw [Expr.traverseList_eq_ok_iff] at meant
  unfold arguments at read
  split at read
  next =>
    cases read
    cases meant
    exact ⟨[], .none, .nil⟩
  next first' middle firstRead =>
    obtain ⟨others', after, othersRead⟩ :
        ∃ others' after, many (spaced (furtherArgument nested)) middle = (others', after) := ⟨_, _, rfl⟩
    rw [othersRead] at read
    cases read
    obtain _ | ⟨firstMeant, othersMeant⟩ := meant
    obtain ⟨front, value, begins⟩ := yields _ _ _ _ firstRead firstMeant
    obtain ⟨back, further, continues⟩ :=
      many_yields (furtherArgument_yields yields) othersRead othersMeant
    exact ⟨front ++ back, .some value further, begins.trans continues⟩

/-- A call is taken if its arguments are. They are less deep than the call, and the closing
parenthesis is not read as one of them. -/
theorem call_takes {space name : String} {es : List (Expr α)}
    (below : TakesBelow spelled meaning nested k) (bounded : Expr.depthOf es < k) :
    Takes (call nested) Root.literals (Root.Means meaning) (Root.Spelled spelled) onward
      (.call space name es) := by
  rintro _ later text (_ | ⟨spaceNamed, named, given⟩) follows spread
  simp only [List.cons_append, List.append_assoc] at spread
  have mark : ∀ {c later}, c ∈ marks → Follows marks ([c] :: later) := fun member =>
    follows_cons member member _
  -- token by token, each behind the blanks that the one before it leaves
  obtain ⟨afterSpace, spaceRead, _, spacePlaced, spread, _⟩ := spread.name spaceNamed (mark (by decide))
  obtain ⟨afterColon, colon, colonPlaced, spread, _⟩ := spread.symbol (by decide)
  obtain ⟨afterName, nameRead, _, namePlaced, spread, _⟩ := spread.name named (mark (by decide))
  obtain ⟨afterOpen, opens, openPlaced, spread, _⟩ := spread.symbol (by decide)
  obtain ⟨es', afterArguments, argumentsRead, meant, placed, spread, _⟩ :=
    arguments_takes below bounded given spread
  obtain ⟨rest, closes, closePlaced, spread, _⟩ := spread.symbol (by decide)
  have inPlace := spacePlaced.append (colonPlaced.append (namePlaced.append (openPlaced.append
    (placed.append closePlaced))))
  rw [List.append_nil] at inPlace
  refine ⟨.call space name es', rest, ?_, Root.traverse_call_eq_ok_iff.mpr ⟨es, meant, rfl⟩, inPlace,
    spread, by omega⟩
  simp only [call, spaced, spaceRead, colon, nameRead, opens, argumentsRead, closes,
    Option.bind_eq_bind, Option.bind_some, Option.pure_def]

/-- A call yields its prefix, its name and its arguments, with their symbols. -/
theorem call_yields (yields : Yields nested (Expr.Means meaning) (Expr.Spelled spelled)) :
    Yields (call nested) (Root.Means meaning) (Root.Spelled spelled) := by
  intro text r' r rest read meant
  simp only [call, spaced, Option.bind_eq_bind, Option.bind_eq_some_iff, Prod.exists, Option.pure_def,
    Option.some.injEq, Prod.mk.injEq] at read
  obtain ⟨space, _, spaceRead, _, _, colon, name, _, nameRead, _, _, opens, _, _, closes, rfl, rfl⟩ := read
  obtain ⟨es, allMeant, rfl⟩ := Root.traverse_call_eq_ok_iff.mp meant
  obtain ⟨inner, given, begins⟩ := arguments_yields yields rfl allMeant
  refine ⟨_, .call (name_eq_some_iff.mp spaceRead).1 (name_eq_some_iff.mp nameRead).1 given, ?_⟩
  exact (Begins.name spaceRead).trans ((Begins.symbol colon).of_skip.trans
    ((Begins.name nameRead).of_skip.trans ((Begins.symbol opens).of_skip.trans
      (begins.of_skip.trans (Begins.symbol closes).of_skip))))

/-- A root is taken, be it a call or an identifier. What follows an identifier is no colon, so it is
not taken for the prefix of a call. -/
theorem root_takes {r : Root α} (below : TakesBelow spelled meaning nested k)
    (bounded : r.depth ≤ k) :
    Takes (root nested) Root.literals (Root.Means meaning) (Root.Spelled spelled) onward r := by
  cases r with
  | call space name es =>
    intro tokens later text start follows spread
    obtain ⟨r', rest, read, meant⟩ := call_takes below bounded tokens later text start follows spread
    exact ⟨r', rest, by simp only [root, orElse, read], meant⟩
  | identifier name =>
    rintro _ later text (named | _) follows spread
    obtain ⟨rest, read, _, placed, spread, shorter⟩ := spread.name named follows
    -- a call is tried first and given up for want of a colon
    have notCall : call nested (skip text) = none := by
      simp only [call, spaced, read, spread.symbol_eq_none follows (by decide : ':' ∉ onward),
        Option.bind_eq_bind, Option.bind_some, Option.bind_none]
    refine ⟨.identifier name, rest, ?_, rfl, placed, spread, shorter⟩
    simp only [root, orElse, notCall, read, Option.map_some]

/-- A root yields a call or an identifier. -/
theorem root_yields (yields : Yields nested (Expr.Means meaning) (Expr.Spelled spelled)) :
    Yields (root nested) (Root.Means meaning) (Root.Spelled spelled) := by
  intro text r' r rest read meant
  unfold root orElse at read
  split at read
  next found =>
    cases read
    exact call_yields yields _ _ _ _ found meant
  next =>
    simp only [Option.map_eq_some_iff, Prod.exists, Prod.mk.injEq] at read
    obtain ⟨name, _, nameRead, rfl, rfl⟩ := read
    cases meant
    exact ⟨_, .identifier (name_eq_some_iff.mp nameRead).1, .name nameRead⟩

/-- Every root begins with a name, so it is never taken for a literal. -/
theorem literal_root_eq_none {r : Root α} {front : List (List Char)}
    (start : Root.Spelled spelled front r) (follows : Follows onward later)
    (spread : Spread (front ++ later) text) : literal (skip text) = none := by
  cases start with
  | identifier named =>
    obtain ⟨_, _, notLiteral, _⟩ := spread.name named follows
    exact notLiteral
  | call named _ _ =>
    obtain ⟨_, _, notLiteral, _⟩ := spread.name named
      (follows_cons (by decide : ':' ∈ marks) (by decide) _)
    exact notLiteral

/-- One step of a path. -/
abbrev segment (nested : Reader (Expr Lexeme)) : Reader (Segment Lexeme) :=
  orElse property (index nested)

/-- Segments begin with a point or a bracket, so the root or the segment before them ends there. -/
theorem segmentSpelled_starts : StartsWith onward (Segment.Spelled spelled) := by
  intro tokens s step
  cases step with
  | property named => exact ⟨'.', _, rfl, by decide, by decide⟩
  | index value => exact ⟨'[', _, rfl, by decide, by decide⟩

/-- A segment is taken if its index is. -/
theorem segment_takes {s : Segment α} (below : TakesBelow spelled meaning nested k)
    (bounded : s.depth ≤ k) :
    Takes (segment nested) Segment.literals (Segment.Means meaning) (Segment.Spelled spelled) onward s := by
  rintro _ later text (named | value) follows spread
  case property name =>
    obtain ⟨afterPoint, point, pointPlaced, spread, _⟩ := spread.symbol (by decide)
    obtain ⟨rest, read, _, placed, spread, _⟩ := spread.name named follows
    refine ⟨.property name, rest, ?_, rfl, pointPlaced.append placed, spread, by omega⟩
    simp only [segment, orElse, property, point, spaced, read, Option.bind_eq_bind, Option.bind_some,
      Option.pure_def]
  case index inner e =>
    simp only [List.cons_append, List.append_assoc] at spread
    -- no property is read at a bracket
    have notPoint : character '.' (skip text) = none := spread.symbol_eq_none
      (follows_cons (by decide : '[' ∈ ['[']) (by decide) _) (by decide)
    obtain ⟨afterOpen, opens, openPlaced, spread, _⟩ := spread.symbol (by decide)
    obtain ⟨e', afterIndex, read, meant, placed, spread, _⟩ := below.takes e bounded inner _ afterOpen value
      (follows_cons (by decide) (by decide) later) spread
    obtain ⟨rest, closes, closePlaced, spread, _⟩ := spread.symbol (by decide)
    have inPlace := openPlaced.append (placed.append closePlaced)
    rw [List.append_nil] at inPlace
    refine ⟨.index e', rest, ?_, Segment.traverse_index_eq_ok_iff.mpr ⟨e, meant, rfl⟩, inPlace, spread,
      by omega⟩
    simp only [segment, orElse, property, notPoint, index, opens, spaced, read, closes,
      Option.bind_eq_bind, Option.bind_some, Option.bind_none, Option.pure_def]

/-- A segment yields a point and a name, or an index in brackets. -/
theorem segment_yields (yields : Yields nested (Expr.Means meaning) (Expr.Spelled spelled)) :
    Yields (segment nested) (Segment.Means meaning) (Segment.Spelled spelled) := by
  intro text s' s rest read meant
  unfold segment orElse at read
  split at read
  next found =>
    cases read
    simp only [property, spaced, Option.bind_eq_bind, Option.bind_eq_some_iff, Prod.exists,
      Option.pure_def, Option.some.injEq, Prod.mk.injEq] at found
    obtain ⟨_, _, point, name, _, nameRead, rfl, rfl⟩ := found
    cases meant
    exact ⟨_, .property (name_eq_some_iff.mp nameRead).1,
      (Begins.symbol point).trans (Begins.name nameRead).of_skip⟩
  next =>
    simp only [index, spaced, Option.bind_eq_bind, Option.bind_eq_some_iff, Prod.exists,
      Option.pure_def, Option.some.injEq, Prod.mk.injEq] at read
    obtain ⟨_, _, opens, e', _, indexRead, _, _, closes, rfl, rfl⟩ := read
    obtain ⟨e, indexMeant, rfl⟩ := Segment.traverse_index_eq_ok_iff.mp meant
    obtain ⟨inner, value, begins⟩ := yields _ _ _ _ indexRead indexMeant
    exact ⟨_, .index value, (Begins.symbol opens).trans
      (begins.of_skip.trans (Begins.symbol closes).of_skip)⟩

/-- Segments are not read where a value has ended. -/
theorem segment_eq_none (spread : Spread later text) (follows : Follows closing later) :
    segment nested (skip text) = none := by
  simp only [segment, orElse, property, index, spread.symbol_eq_none follows (by decide : '.' ∉ closing),
    spread.symbol_eq_none follows (by decide : '[' ∉ closing), Option.bind_eq_bind, Option.bind_none]

/-- A value over a reader nests one level deeper than the reader. -/
theorem valueOver_takes (lexicon : Lexicon spelled meaning)
    (below : TakesBelow spelled meaning nested k) {e : Expr α} (bounded : e.depth ≤ k) :
    Takes (valueOver nested) Expr.literals (Expr.Means meaning) (Expr.Spelled spelled) closing e := by
  rintro _ later text (literal | ⟨start, steps⟩) follows spread
  case literal w x =>
    obtain ⟨_, written, _⟩ := (lexicon w x 0).mp literal
    obtain ⟨rest, form, spread, shorter⟩ := spread.exists_of_cons (solid_literal written.isLiteral)
    -- a point behind digits would make them the beginning of a decimal
    have pointless : ∀ after, rest ≠ '.' :: after := by
      intro after found
      rcases spread.front follows found with space | ⟨member, _⟩
      · exact absurd space (by decide)
      · exact absurd member (by decide)
    obtain ⟨lexeme, written, meant⟩ := (lexicon w x rest.length).mp literal
    have read := literal_append written (spread.clear follows) pointless
    refine ⟨.literal lexeme, rest, ?_, Expr.traverse_literal_eq_ok_iff.mpr ⟨x, meant, rfl⟩,
      .of_spelled written form, spread, shorter⟩
    simp only [valueOver, orElse, form, read, Option.map_some]
  case path front back r ss =>
    rw [Expr.depth, Nat.max_le] at bounded
    rw [List.append_assoc] at spread
    have between := steps.follows segmentSpelled_starts (by simp [closing, onward]) follows
    -- the root of a path is no literal, so the rule for paths is tried
    have notLiteral := literal_root_eq_none start between spread
    obtain ⟨r', middle, rootRead, rootMeant, placed, spread, shorter⟩ :=
      root_takes below bounded.1 front _ text start between spread
    have takes : ∀ s ∈ ss, Takes (segment nested) Segment.literals (Segment.Means meaning)
        (Segment.Spelled spelled) onward s := fun s member =>
      segment_takes below (Nat.le_trans (Segment.depth_le_depthOf member) bounded.2)
    obtain ⟨ss', rest, stepsRead, stepsMeant, stepsPlaced, spread, further⟩ :=
      many_takes segmentSpelled_starts (by simp [closing, onward])
        (fun _ _ follows spread => segment_eq_none spread follows) steps takes follows spread
    refine ⟨.path r' ss', rest, ?_, ?_, ?_, spread, by omega⟩
    · simp only [valueOver, orElse, notLiteral, Option.map_none, path, rootRead, stepsRead,
        Option.bind_eq_bind, Option.bind_some, Option.pure_def]
    · exact Expr.traverse_path_eq_ok_iff.mpr
        ⟨r, rootMeant, ss, Segment.traverseList_eq_ok_iff.mpr stepsMeant, rfl⟩
    · rw [Expr.literals, Segment.literalsOf_eq_flatMap]
      exact placed.append stepsPlaced

/-- A value yields the spelling of a literal, or the tokens of a path. -/
theorem valueOver_yields (lexicon : Lexicon spelled meaning)
    (yields : Yields nested (Expr.Means meaning) (Expr.Spelled spelled)) :
    Yields (valueOver nested) (Expr.Means meaning) (Expr.Spelled spelled) := by
  intro text e' e rest read meant
  unfold valueOver orElse at read
  split at read
  next found =>
    cases read
    simp only [Option.map_eq_some_iff, Prod.exists, Prod.mk.injEq] at found
    obtain ⟨lexeme, _, literalRead, rfl, rfl⟩ := found
    obtain ⟨x, literalMeant, rfl⟩ := Expr.traverse_literal_eq_ok_iff.mp meant
    obtain ⟨w, written, rfl⟩ := literal_spells literalRead
    exact ⟨_, .literal ((lexicon _ _ _).mpr ⟨lexeme, written, literalMeant⟩), .token w _⟩
  next =>
    simp only [path, Option.bind_eq_bind, Option.bind_eq_some_iff, Prod.exists, Option.pure_def,
      Option.some.injEq, Prod.mk.injEq] at read
    obtain ⟨r', middle, rootRead, rfl, rfl⟩ := read
    obtain ⟨r, rootMeant, ss, stepsMeant, rfl⟩ := Expr.traverse_path_eq_ok_iff.mp meant
    obtain ⟨front, start, begins⟩ := root_yields yields _ _ _ _ rootRead rootMeant
    obtain ⟨back, steps, continues⟩ := many_yields (segment_yields yields) rfl
      (Segment.traverseList_eq_ok_iff.mp stepsMeant)
    exact ⟨front ++ back, .path start steps, begins.trans continues⟩

/-- No value begins with a closing parenthesis. -/
theorem valueOver_refuses (nested : Reader (Expr Lexeme)) (rest : List Char) :
    valueOver nested (')' :: rest) = none := by
  have notName : name (')' :: rest) = none := by
    simp [name, (by decide : isWordStart ')' = false)]
  have notLiteral := literal_mark_eq_none (by decide : ')' ∈ marks) rest
  simp only [valueOver, orElse, notLiteral, path, root, call, notName, Option.map_none,
    Option.bind_eq_bind, Option.bind_none]

/-- Values of some levels take the expressions of that depth. -/
theorem value_takesBelow (lexicon : Lexicon spelled meaning) (levels : Nat) :
    TakesBelow spelled meaning (value levels) (levels + 1) := by
  induction levels with
  | zero =>
    have nothing : TakesBelow spelled meaning (fun _ => none) 0 := ⟨nofun, fun _ => rfl⟩
    exact ⟨fun e shallow => valueOver_takes lexicon nothing (Nat.le_of_lt_succ shallow),
      valueOver_refuses _⟩
  | succ levels below =>
    exact ⟨fun e shallow => valueOver_takes lexicon below (Nat.le_of_lt_succ shallow),
      valueOver_refuses _⟩

/-- Values of every number of levels yield their tokens, by induction on the levels. -/
theorem value_yields (lexicon : Lexicon spelled meaning) (levels : Nat) :
    Yields (value levels) (Expr.Means meaning) (Expr.Spelled spelled) := by
  induction levels with
  | zero => exact valueOver_yields lexicon nofun
  | succ levels yields => exact valueOver_yields lexicon yields

/-- The tokens of an expression are read as that expression, if it does not nest too deep, and
its literals in their places. -/
theorem expression?_of_spread (lexicon : Lexicon spelled meaning) {e : Expr α} {levels : Nat}
    (shallow : e.depth ≤ levels) (value : Expr.Spelled spelled tokens e) (spread : Spread tokens text) :
    ∃ e' rest, expression? levels text = some e' ∧ e'.traverse meaning = .ok e ∧
      Placed tokens e'.literals text rest ∧ Blanks rest := by
  rw [← List.append_nil tokens] at spread
  obtain ⟨e', rest, read, meant, placed, spread, _⟩ := (value_takesBelow lexicon levels).takes e
    (Nat.lt_succ_of_le shallow) tokens [] text value follows_nil spread
  refine ⟨e', rest, ?_, meant, placed, spread.blanks⟩
  simp only [expression?, spaced, read, spread.skip_eq_nil, Option.bind_eq_bind, Option.bind_some,
    List.isEmpty_nil, if_true]

/-- A text read as an expression consists of the tokens of that expression. -/
theorem spread_of_expression? (lexicon : Lexicon spelled meaning) {levels : Nat} {e' : Expr Lexeme}
    {e : Expr α} (read : expression? levels text = some e') (meant : e'.traverse meaning = .ok e) :
    ∃ tokens, Expr.Spelled spelled tokens e ∧ Spread tokens text := by
  simp only [expression?, spaced, Option.bind_eq_bind, Option.bind_eq_some_iff, Prod.exists,
    Option.ite_none_right_eq_some, Option.some.injEq] at read
  obtain ⟨_, rest, found, ends, rfl⟩ := read
  obtain ⟨tokens, value, begins⟩ := value_yields lexicon levels _ _ _ _ found meant
  have blank : Blanks rest := List.dropWhile_eq_nil_iff.mp (List.isEmpty_iff.mp ends)
  have whole := begins.of_skip.spread (.done blank)
  rw [List.append_nil] at whole
  exact ⟨tokens, value, whole⟩

end Grammar

end PropertyPath
