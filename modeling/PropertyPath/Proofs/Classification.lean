import Mathlib.Algebra.Group.Int.Defs
import PropertyPath.Proofs.Building
import PropertyPath.Proofs.Decimals
import PropertyPath.Proofs.Diagnosing

/-!
# Classification of sources

What becomes of a source is told by the first of four cases that applies. The scan finds a level
too many in it; it is not of the grammar; it has an integer outside the 64-bit range, and the
first of these is reported with its characters and its place; or it is an expression.

The third case needs the places of tokens. Reading the tokens of a source returns its literals in
order, each integer with its place, and their meaning is looked for from left to right. So the
first literal without a meaning is the first token that is an integer outside the range.
-/

namespace PropertyPath

open Reader Token Grammar

variable {text rest : List Char} {tokens front back : List (List Char)}

/-! ## Depth without a limit -/

namespace Nesting

/-- The state after a character, however many levels are open. -/
def State.next (s : State) (c : Char) : State :=
  match s.mode with
  | .escaped quote => { s with mode := .quoted quote }
  | .quoted quote =>
    if c = '\\' then { s with mode := .escaped quote }
    else if c = quote then { s with mode := .plain }
    else s
  | .plain =>
    if c = '\'' ∨ c = '"' then { s with mode := .quoted c }
    else if c = '[' ∨ c = '(' then { s with depth := s.depth + 1 }
    else if c = ']' ∨ c = ')' then { s with depth := s.depth - 1 }
    else s

/-- The levels open behind a text, brackets and parentheses between quotes aside. -/
def depthAfter (text : List Char) : Nat := (text.foldl State.next {}).depth

/-- A text in which more levels than the limit are open at some point. -/
def Deep (text : List Char) : Prop := ∃ before after, text = before ++ after ∧ limit < depthAfter before

/-- The text up to the first character that opens a level more than the limit. -/
def Exceeds (text before : List Char) : Prop :=
  ∃ c after, text = before ++ c :: after ∧ depthAfter (before ++ [c]) = limit + 1 ∧
    ∀ start others, before = start ++ others → depthAfter start ≤ limit

variable {s : State}

/-- One character opens at most one level. So the first place at which the limit is exceeded exceeds
it by one. -/
theorem State.depth_next_le (s : State) (c : Char) : (s.next c).depth ≤ s.depth + 1 := by
  obtain ⟨mode, depth⟩ := s
  cases mode with
  | escaped quote => exact Nat.le_succ depth
  | quoted quote =>
    simp only [next]
    split
    · exact Nat.le_succ depth
    split <;> exact Nat.le_succ depth
  | plain =>
    simp only [next]
    split
    · exact Nat.le_succ depth
    split
    · exact Nat.le_refl _
    split
    · exact Nat.le_succ_of_le (Nat.sub_le depth 1)
    · exact Nat.le_succ depth

/-- The scan with the limit goes on like the one without it, as far as the limit allows. -/
theorem State.step?_eq (shallow : s.depth ≤ limit) (c : Char) :
    s.step? c = if (s.next c).depth ≤ limit then some (s.next c) else none := by
  obtain ⟨mode, depth⟩ := s
  cases mode with
  | escaped quote => exact (if_pos shallow).symm
  | quoted quote =>
    simp only [step?, next]
    split
    · rfl
    split <;> rfl
  | plain =>
    simp only [step?, next]
    split
    · rfl
    split
    · rfl
    split
    · exact (if_pos (Nat.le_trans (Nat.sub_le depth 1) shallow)).symm
    · rfl

/-- The scan passes over a text if no more levels than the limit are ever open, and stops at the
first character that opens one more. -/
theorem excess?_cases (shallow : s.depth ≤ limit) (text : List Char) :
    (excess? s text = none ∧
      ∀ before after, text = before ++ after → (before.foldl State.next s).depth ≤ limit) ∨
    ∃ before c after, text = before ++ c :: after ∧ excess? s text = some (c :: after) ∧
      ((before ++ [c]).foldl State.next s).depth = limit + 1 ∧
      ∀ start others, before = start ++ others → (start.foldl State.next s).depth ≤ limit := by
  induction text generalizing s with
  | nil =>
    refine .inl ⟨rfl, fun before after form => ?_⟩
    obtain ⟨rfl, _⟩ := List.append_eq_nil_iff.mp form.symm
    exact shallow
  | cons c text ih =>
    -- a bound behind the first character is one on the whole, since here it holds already
    have within : ∀ {whole : List Char},
        (∀ start others, whole = start ++ others → (start.foldl State.next (s.next c)).depth ≤ limit) →
        ∀ start others, c :: whole = start ++ others → (start.foldl State.next s).depth ≤ limit := by
      intro whole bound start others form
      cases start with
      | nil => exact shallow
      | cons first start =>
        obtain ⟨rfl, split⟩ := List.cons.inj form
        exact bound start others split
    rw [excess?, State.step?_eq shallow]
    by_cases room : (s.next c).depth ≤ limit
    · rw [if_pos room]
      rcases ih room with ⟨passed, bound⟩ | ⟨before, d, after, rfl, stops, full, bound⟩
      · exact .inl ⟨passed, within bound⟩
      · exact .inr ⟨c :: before, d, after, rfl, stops, full, within bound⟩
    · rw [if_neg room]
      -- this character opens the level beyond, and no more than one
      have step := s.depth_next_le c
      refine .inr ⟨[], c, text, rfl, rfl, ?_, fun start others form => ?_⟩
      · change (s.next c).depth = limit + 1
        omega
      · obtain ⟨rfl, _⟩ := List.append_eq_nil_iff.mp form.symm
        exact shallow

/-- The scan passes over the texts that are not deep. -/
theorem excess?_eq_none_iff : excess? {} text = none ↔ ¬Deep text := by
  have start : ({} : State).depth ≤ limit := Nat.zero_le limit
  rcases excess?_cases start text with
    ⟨passed, bound⟩ | ⟨before, c, after, form, stops, full, _⟩
  · refine iff_of_true passed ?_
    rintro ⟨before, after, form, deep⟩
    exact absurd (bound before after form) (Nat.not_le.mpr deep)
  · rw [stops]
    refine iff_of_false nofun (not_not_intro ⟨before ++ [c], after, by simp [form], ?_⟩)
    rw [depthAfter, full]
    exact Nat.lt_succ_self limit

end Nesting

/-! ## Places of literals -/

namespace Placed

variable {lexemes : List Lexeme}

/-- The tokens in their places are a text of them, if nothing but blanks follows. -/
theorem spread (placed : Placed tokens lexemes text rest) (blank : Blanks rest) : Spread tokens text := by
  induction placed with
  | done => exact .done blank
  | blank space _ ih => exact (ih blank).blanks_append (blanks_single space)
  | other _ _ ih => exact Spread.append (.single _) (ih blank)
  | literal _ _ ih => exact Spread.append (.single _) (ih blank)

/-- Every literal that was read is one of the tokens. -/
theorem exists_token (placed : Placed tokens lexemes text rest) {lexeme : Lexeme}
    (member : lexeme ∈ lexemes) : ∃ token ∈ tokens, ∃ remaining, lexeme.Spelled token remaining := by
  induction placed with
  | done => cases member
  | blank _ _ ih => exact ih member
  | other _ _ ih =>
    obtain ⟨token, further, spelled⟩ := ih member
    exact ⟨token, List.mem_cons_of_mem _ further, spelled⟩
  | literal spelled _ ih =>
    rcases List.mem_cons.mp member with rfl | later
    · exact ⟨_, List.mem_cons_self, _, spelled⟩
    · obtain ⟨token, further, spelled⟩ := ih later
      exact ⟨token, List.mem_cons_of_mem _ further, spelled⟩

/-- A token that is a literal was read in its place, behind the literals among the tokens before it. -/
theorem split {w : List Char} (placed : Placed (front ++ w :: back) lexemes text rest)
    (written : IsLiteral w) :
    ∃ first lexeme others before after,
      lexemes = first ++ lexeme :: others ∧ text = before ++ (w ++ after) ∧
      lexeme.Spelled w after.length ∧ Spread front before ∧ Placed back others after rest ∧
      ∀ earlier ∈ first, ∃ token ∈ front, ∃ remaining, earlier.Spelled token remaining := by
  -- on how the literals are noted; which of the tokens is the one in question is told by what
  -- stands before it
  generalize whole : front ++ w :: back = tokens at placed
  induction placed generalizing front with
  | done => simp at whole
  | @blank c _ _ _ _ space _ ih =>
    obtain ⟨first, lexeme, others, before, after, lexemes, rfl, spelled, spread, placed, earlier⟩ :=
      ih whole
    exact ⟨first, lexeme, others, c :: before, after, lexemes, rfl, spelled,
      spread.blanks_append (blanks_single space), placed, earlier⟩
  | @other v _ _ _ _ unread _ ih =>
    cases front with
    | nil =>
      obtain ⟨rfl, _⟩ := List.cons.inj whole
      -- it is a literal, and would have been noted as one
      exact absurd written unread
    | cons token front =>
      obtain ⟨rfl, later⟩ := List.cons.inj whole
      obtain ⟨first, lexeme, others, before, after, lexemes, rfl, spelled, spread, placed, earlier⟩ :=
        ih later
      refine ⟨first, lexeme, others, token ++ before, after, lexemes, by simp, spelled,
        Spread.append (.single token) spread, placed, fun x member => ?_⟩
      obtain ⟨known, further, spelled⟩ := earlier x member
      exact ⟨known, List.mem_cons_of_mem _ further, spelled⟩
  | @literal v lexeme _ others after _ spelled placed ih =>
    cases front with
    | nil =>
      obtain ⟨rfl, rfl⟩ := List.cons.inj whole
      exact ⟨[], lexeme, others, [], after, rfl, rfl, spelled, .done nofun, placed, nofun⟩
    | cons token front =>
      obtain ⟨rfl, later⟩ := List.cons.inj whole
      obtain ⟨first, found, further, before, after, rfl, rfl, found', spread, placed, earlier⟩ := ih later
      refine ⟨lexeme :: first, found, further, token ++ before, after, rfl, by simp, found',
        Spread.append (.single token) spread, placed, fun x member => ?_⟩
      rcases List.mem_cons.mp member with rfl | inner
      · exact ⟨token, List.mem_cons_self, _, spelled⟩
      · obtain ⟨known, further, spelled⟩ := earlier x inner
        exact ⟨known, List.mem_cons_of_mem _ further, spelled⟩

end Placed

/-! ## Integers outside the range -/

/-- A token that is an integer outside the 64-bit range. -/
def OutOfRange (token : List Char) : Prop :=
  ∃ numeral : Numeral, Digits numeral.digits ∧ token = numeral.text ∧
    (numeral.value < -2 ^ 63 ∨ 2 ^ 63 - 1 < numeral.value)

/-- The end of the range that an integer outside it lies beyond is told by its sign. -/
theorem toInt64_eq_error_iff {numeral : Numeral} {excess : Reading.Excess} :
    Reading.toInt64 numeral.value = .error excess ↔
      (numeral.value < -2 ^ 63 ∨ 2 ^ 63 - 1 < numeral.value) ∧
        excess = if numeral.negative then .tooSmall else .tooLarge := by
  have low : Int64.minValue.toInt = -9223372036854775808 := by decide
  have high : Int64.maxValue.toInt = 9223372036854775807 := by decide
  have bound : (2 : Int) ^ 63 = 9223372036854775808 := by decide
  rw [Reading.toInt64, low, high, bound, Numeral.value]
  -- a numeral without a sign is never too small, and one with a sign never too large
  cases numeral.negative with
  | false =>
    rw [if_neg Bool.false_ne_true, if_neg Bool.false_ne_true, if_neg (by omega)]
    by_cases large : 9223372036854775807 < (Reading.natural numeral.digits : Int)
    · rw [if_pos large, Except.error.injEq, eq_comm, and_iff_right (by omega)]
    · rw [if_neg large]
      refine iff_of_false (fun inside => ?_) (by omega)
      cases inside
  | true =>
    rw [if_pos rfl, if_pos rfl]
    by_cases small : -(Reading.natural numeral.digits : Int) < -9223372036854775808
    · rw [if_pos small, Except.error.injEq, eq_comm, and_iff_right (by omega)]
    · rw [if_neg small, if_neg (by omega)]
      refine iff_of_false (fun inside => ?_) (by omega)
      cases inside

/-- A token is read as one literal. -/
theorem Grammar.Lexeme.Spelled.unique {one other : Lexeme} {w : List Char} {remaining : Nat}
    (spelled : one.Spelled w remaining) (spelled' : other.Spelled w remaining) : one = other := by
  -- both are read from these characters, whatever stands behind them
  have length : (List.replicate remaining ' ').length = remaining := List.length_replicate
  have blank : ∀ c after, List.replicate remaining ' ' = c :: after → c = ' ' := fun c after form =>
    List.eq_of_mem_replicate (form ▸ List.mem_cons_self)
  have clear : Clear (List.replicate remaining ' ') := by
    intro c after form
    rw [blank c after form]
    decide
  have pointless : ∀ after, List.replicate remaining ' ' ≠ '.' :: after := fun after form =>
    absurd (blank '.' after form) (by decide)
  rw [← length] at spelled spelled'
  have read := literal_append spelled clear pointless
  rw [literal_append spelled' clear pointless] at read
  cases read
  rfl

/-- A literal has no meaning exactly if its token is an integer outside the range. -/
theorem Grammar.Lexeme.means_iff {lexeme : Lexeme} {token source : List Char} {remaining : Nat}
    (spelled : lexeme.Spelled token remaining) :
    (∃ l, lexeme.literal source = .ok l) ↔ ¬OutOfRange token := by
  cases meant : lexeme.literal source with
  | ok l =>
    refine iff_of_true ⟨l, rfl⟩ ?_
    rintro ⟨numeral, number, rfl, outside⟩
    rw [spelled.unique (.integer number)] at meant
    obtain ⟨n, denotes, _⟩ := literal_integer_eq_ok_iff.mp meant
    have rejected := toInt64_eq_error_iff.mpr ⟨outside, rfl⟩
    rw [Reading.toInt64_eq_ok_iff.mpr denotes] at rejected
    cases rejected
  | error f =>
    refine iff_of_false nofun (not_not_intro ?_)
    obtain ⟨numeral, _, excess, rfl, rejected, _⟩ := literal_eq_error_iff.mp meant
    cases spelled with
    | integer number => exact ⟨numeral, number, rfl, (toInt64_eq_error_iff.mp rejected).1⟩

/-- If something of a kind is in a list, there is a first. -/
theorem exists_first {α : Type} {p : α → Prop} {xs : List α} (found : ∃ x ∈ xs, p x) :
    ∃ front x back, xs = front ++ x :: back ∧ p x ∧ ∀ y ∈ front, ¬p y := by
  classical
  obtain ⟨x, holds⟩ := Option.isSome_iff_exists.mp
    (List.find?_isSome (p := fun x => decide (p x)) |>.mpr (by simpa using found))
  obtain ⟨first, front, back, form, earlier⟩ := List.find?_eq_some_iff_append.mp holds
  exact ⟨front, x, back, form, of_decide_eq_true first, fun y member => by simpa using earlier y member⟩

/-- A numeral that is the first of some tokens outside the range, in its place in a text of them. -/
structure FirstOutOfRange (text : List Char) (tokens : List (List Char)) (before : List Char)
    (numeral : Numeral) : Prop where
  digits : Digits numeral.digits
  outside : numeral.value < -2 ^ 63 ∨ 2 ^ 63 - 1 < numeral.value
  placed : ∃ front back after, tokens = front ++ numeral.text :: back ∧
    text = before ++ (numeral.text ++ after) ∧ Spread front before ∧ Spread back after ∧
    ∀ token ∈ front, ¬OutOfRange token

/-! ## Sources -/

namespace Expr

variable {shape : Shape}

/-- Too deep a nesting is reported at the first level too many. -/
theorem read_of_deep_scan (deep : Nesting.Deep text) :
    ∃ before, Nesting.Exceeds text before ∧
      Expr.read text = .error ⟨text, before.length, none, .nestedTooDeep⟩ := by
  have start : ({} : Nesting.State).depth ≤ Nesting.limit := Nat.zero_le Nesting.limit
  rcases Nesting.excess?_cases start text with
    ⟨passed, _⟩ | ⟨before, c, after, rfl, stops, full, bound⟩
  · exact absurd deep (Nesting.excess?_eq_none_iff.mp passed)
  · exact ⟨before, ⟨c, after, rfl, full, bound⟩, read_of_excess stops⟩

/-- Characters outside the grammar are refused as such, unless they nest too deep. -/
theorem read_of_not_grammatical (shallow : ¬Nesting.Deep text) (foreign : ¬Grammatical text) :
    ∃ position constructs, constructs ≠ [] ∧
      Expr.read text = .error ⟨text, position, none, .expected constructs⟩ := by
  have passes := Nesting.excess?_eq_none_iff.mpr shallow
  cases found : expression? Nesting.limit text with
  | some e => exact absurd (grammatical_of_expression? found) foreign
  | none =>
    simp only [Expr.read, passes, found]
    exact ⟨_, _, Diagnosis.furthest_named found, rfl⟩

/-- Characters of the grammar mean what their literals mean, each in its place. -/
theorem read_of_grammatical (shallow : ¬Nesting.Deep text) (value : Shape.Spelled tokens shape)
    (spread : Spread tokens text) :
    ∃ (e : Expr Lexeme) (rest : List Char), Expr.read text = e.traverse (·.literal text) ∧
      Placed tokens e.literals text rest ∧ Blanks rest := by
  have passes := Nesting.excess?_eq_none_iff.mpr shallow
  have bounded := (excess?_eq_none_iff id value spread).mp passes
  obtain ⟨e, rest, found, placed, blank⟩ := expression?_of_shape bounded value spread
  exact ⟨e, rest, by simp only [Expr.read, passes, found], placed, blank⟩

/-- The first integer outside the range is reported in its place. -/
theorem read_of_outOfRange (shallow : ¬Nesting.Deep text) (value : Shape.Spelled tokens shape)
    (spread : Spread tokens text) (outside : ∃ token ∈ tokens, OutOfRange token) :
    ∃ before numeral, FirstOutOfRange text tokens before numeral ∧
      Expr.read text = .error ⟨text, before.length, some numeral.text.length,
        .integerOutOfRange (String.ofList numeral.text)
          (if numeral.negative then .tooSmall else .tooLarge)⟩ := by
  -- the first one among the tokens is the first that is rejected, since those before it have their
  -- meaning
  obtain ⟨front, _, back, rfl, ⟨numeral, number, rfl, beyond⟩, first⟩ := exists_first outside
  obtain ⟨e, rest, read, placed, blank⟩ := read_of_grammatical shallow value spread
  obtain ⟨earlier, lexeme, others, before, after, literals, form, spelled, spreadFront, placed, known⟩ :=
    placed.split (.integer number)
  refine ⟨before, numeral, ⟨number, beyond, front, back, after, rfl, form, spreadFront,
    placed.spread blank, first⟩, ?_⟩
  rw [read, traverse_eq_error_iff]
  refine ⟨earlier, lexeme, others, literals, ?_, fun other member => ?_⟩
  -- lexemes note how much of the text was left, and the error counts from the front
  · have position : text.length - after.length - numeral.text.length = before.length := by
      rw [form]
      simp only [List.length_append]
      omega
    rw [spelled.unique (.integer number), literal_eq_error_iff, ← position]
    exact ⟨numeral, after.length, _, rfl, toInt64_eq_error_iff.mpr ⟨beyond, rfl⟩, rfl⟩
  · obtain ⟨token, inside, _, spelled⟩ := known other member
    exact (Grammar.Lexeme.means_iff spelled).mpr (first token inside)

/-- Without an integer outside the range, characters of the grammar are an expression. -/
theorem read_of_inRange (shallow : ¬Nesting.Deep text) (value : Shape.Spelled tokens shape)
    (spread : Spread tokens text) (inside : ∀ token ∈ tokens, ¬OutOfRange token) :
    ∃ e, Expr.read text = .ok e ∧ e.RenderedBy text := by
  obtain ⟨e', _, read, placed, _⟩ := read_of_grammatical shallow value spread
  obtain ⟨e, meant⟩ : ∃ e, e'.traverse (·.literal text) = .ok e := by
    rw [traverse_ok_iff]
    intro lexeme member
    obtain ⟨token, known, _, spelled⟩ := placed.exists_token member
    exact (Grammar.Lexeme.means_iff spelled).mpr (inside token known)
  exact ⟨e, read.trans meant, (read_eq_ok_iff.mp (read.trans meant)).1⟩

/-- The characters of a literal are read as that literal. -/
theorem read_literal {w : List Char} {l : Literal} (spelled : Literal.Spelled w l) :
    Expr.read w = .ok (.literal l) :=
  read_eq_ok_iff.mpr ⟨⟨[w], .literal spelled, .single w⟩, Nat.zero_le Nesting.limit⟩

/-- The decimal digits of an integer of 64 bits, zeros in front of them or not, are read as it. -/
theorem read_integer (n : Int64) (zeros : Nat) :
    Expr.read (Numeral.text ⟨n.toInt < 0, List.replicate zeros '0' ++ Nat.toDigits 10 n.toInt.natAbs⟩) =
      .ok (.literal (.integer n)) := by
  refine read_literal (.integer ⟨?_, fun c member => ?_⟩ ?_)
  · exact List.append_ne_nil_of_right_ne_nil _ Nat.toDigits_ne_nil
  · rcases List.mem_append.mp member with zero | digit
    · rw [List.eq_of_mem_replicate zero]
      decide
    · exact Nat.isDigit_of_mem_toDigits (by decide) (by decide) digit
  · have magnitude := Reading.natural_zeros_append zeros (Nat.toDigits 10 n.toInt.natAbs)
    rw [Reading.natural_toDigits] at magnitude
    simp only [Numeral.value, magnitude, decide_eq_true_eq]
    split <;> omega

/-- Every decimal is read as the double that it denotes. -/
theorem read_decimal {w : List Char} (decimal : Decimal w) :
    ∃ x, Reading.float? w = some x ∧ Expr.read w = .ok (.literal (.float x)) := by
  obtain ⟨x, _, denotes⟩ := float_append decimal stops_nil
  exact ⟨x, denotes, read_literal (.float decimal denotes)⟩

/-- What becomes of a source is told by the first of four cases that applies: too deep a nesting,
at the first level too many; characters outside the grammar; an integer outside the range, which is
the first one, with its characters and its place; and an expression. By way of a tree a source
comes to the same, and never to an internal error. Integers of 64 bits and decimals are all
accepted.

Proof: the scan decides the first case. Where it passes, the reader takes the shapes of the
grammar and refuses all else, and the literals of a shape are converted from left to right, so
the first of them out of range is the one that is reported. The detour by way of a tree commutes
with each of these steps. -/
theorem parse_classified :
    (∀ source : String,
      (Nesting.Deep source.toList → ∃ before, Nesting.Exceeds source.toList before ∧
        Expr.parse source = .error ⟨source.toList, before.length, none, .nestedTooDeep⟩) ∧
      (¬Nesting.Deep source.toList → ¬Grammatical source.toList → ∃ position constructs,
        constructs ≠ [] ∧
        Expr.parse source = .error ⟨source.toList, position, none, .expected constructs⟩) ∧
      (¬Nesting.Deep source.toList → ∀ tokens shape, Shape.Spelled tokens shape →
        Spread tokens source.toList →
        ((∃ token ∈ tokens, OutOfRange token) → ∃ before numeral failure,
          FirstOutOfRange source.toList tokens before numeral ∧
          Expr.parse source = .error failure ∧
          failure = ⟨source.toList, before.length, some numeral.text.length,
            .integerOutOfRange (String.ofList numeral.text)
              (if numeral.negative then .tooSmall else .tooLarge)⟩ ∧
          failure.cause.text = "invalid literal " ++ String.ofList numeral.text ++ ": number too " ++
            (if numeral.negative then "small" else "large") ++ " to fit in target type") ∧
        ((∀ token ∈ tokens, ¬OutOfRange token) → ∃ e, Expr.parse source = .ok e ∧
          e.RenderedBy source.toList)) ∧
      ParseTree.read source.toList = ParseTree.lift (Expr.parse source) ∧
      ∀ message position span,
        ParseTree.read source.toList ≠ .error (.internal message position span)) ∧
    (∀ (n : Int64) (zeros : Nat),
      Expr.parse (String.ofList (Numeral.text
        ⟨n.toInt < 0, List.replicate zeros '0' ++ Nat.toDigits 10 n.toInt.natAbs⟩)) =
        .ok (.literal (.integer n))) ∧
    ∀ w, Decimal w → ∃ x, Reading.float? w = some x ∧
      Expr.parse (String.ofList w) = .ok (.literal (.float x)) := by
  refine ⟨fun source => ⟨read_of_deep_scan, read_of_not_grammatical, ?_, ParseTree.read_eq .., ?_⟩, ?_, ?_⟩
  · intro shallow tokens shape value spread
    refine ⟨fun outside => ?_, read_of_inRange shallow value spread⟩
    obtain ⟨before, numeral, first, read⟩ := read_of_outOfRange shallow value spread outside
    refine ⟨before, numeral, _, first, read, rfl, ?_⟩
    cases numeral.negative <;> rfl
  -- a tree ends in the errors of the source alone
  · intro message position span internal
    rw [ParseTree.read_eq] at internal
    cases read : Expr.read source.toList with
    | ok e => rw [read] at internal; cases internal
    | error f => rw [read] at internal; cases internal
  · intro n zeros
    rw [Expr.parse, String.toList_ofList]
    exact read_integer n zeros
  · intro w decimal
    rw [Expr.parse, String.toList_ofList]
    exact read_decimal decimal

end Expr

/-- An index one beyond the range is reported in its place. -/
theorem indexBeyondRange_rejected :
    ∃ before numeral failure,
      FirstOutOfRange "a[9223372036854775808]".toList
        ["a".toList, ['['], "9223372036854775808".toList, [']']] before numeral ∧
      Expr.parse "a[9223372036854775808]" = .error failure ∧
      failure = ⟨"a[9223372036854775808]".toList, before.length, some numeral.text.length,
        .integerOutOfRange (String.ofList numeral.text)
          (if numeral.negative then .tooSmall else .tooLarge)⟩ ∧
      failure.cause.text = "invalid literal " ++ String.ofList numeral.text ++ ": number too " ++
        (if numeral.negative then "small" else "large") ++ " to fit in target type" := by
  have digits : Digits (Numeral.mk false "9223372036854775808".toList).digits :=
    ⟨by decide, List.all_eq_true.mp (by decide)⟩
  have outside : OutOfRange "9223372036854775808".toList := ⟨_, digits, rfl, .inr (by decide)⟩
  have root : Root.Spelled (fun w (_ : Unit) => IsLiteral w) ["a".toList] (.identifier "a") :=
    .identifier (isName_letter (by decide : isWordStart 'a' = true))
  have index : Segment.Spelled (fun w (_ : Unit) => IsLiteral w)
      [['['], "9223372036854775808".toList, [']']] (.index (.literal ())) :=
    .index (.literal (.integer digits))
  -- the source is one of the grammar, spelled token by token
  have value : Shape.Spelled ["a".toList, ['['], "9223372036854775808".toList, [']']]
      (.path (.identifier "a") [.index (.literal ())]) := .path root (.cons index .nil)
  have shallow : ¬Nesting.Deep "a[9223372036854775808]".toList :=
    Nesting.excess?_eq_none_iff.mp (by decide)
  exact ((Expr.parse_classified.1 "a[9223372036854775808]").2.2.1 shallow _ _ value (.flatten _)).1
    ⟨_, by simp, outside⟩

end PropertyPath
