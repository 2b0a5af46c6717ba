import PropertyPath.Proofs.Exactness

/-!
# Descent of reading

A value is read by reading the values in its brackets and parentheses, and those inside them
in turn. What a reader of nested values is asked for while a value is read is told by a
relation, and so is how far reading descends; a reader that answers alike where it is asked
makes no difference.

Reading descends one level for each bracket or parenthesis that stands open before the point
it has come to. The scan has counted the same brackets. So where the scan finds no level too
many, reading does not descend too far either, whether or not the text is an expression, and
how many levels reading is given makes no difference to what is read.
-/

namespace PropertyPath

open Reader Token Grammar Nesting

variable {α : Type} {nested nested' : Reader (Expr Lexeme)} {text point rest : List Char}
  {front back : List (List Char)}

/-! ## Points at which nested values are read -/

/-- Repetition of a reader arrives at a text. -/
inductive Reader.Arrives (reader : Reader α) : List Char → List Char → Prop
  | start {text : List Char} : Arrives reader text text
  | next {x : α} {text middle rest : List Char} (read : reader text = some (x, middle))
    (shorter : middle.length < text.length) (more : Arrives reader middle rest) :
    Arrives reader text rest

namespace Grammar

/-- A function call begins a text, and its arguments are what follows. -/
inductive Calls : List Char → List Char → Prop
  | mk {space function : String} {text afterSpace afterColon afterName inner : List Char}
    (prefixed : name text = some (space, afterSpace))
    (colon : character ':' (skip afterSpace) = some ((), afterColon))
    (named : name (skip afterColon) = some (function, afterName))
    (opens : character '(' (skip afterName) = some ((), inner)) : Calls text (skip inner)

/-- While a value is read from a text, the reader of nested values is asked for one at a point:
for an argument of a call or for an index. -/
inductive Asks (nested : Reader (Expr Lexeme)) : List Char → List Char → Prop
  | argument {text inner : List Char} (unread : literal text = none) (calls : Calls text inner) :
    Asks nested text inner
  | further {e : Expr Lexeme} {text inner after middle rest : List Char} (unread : literal text = none)
    (calls : Calls text inner) (first : nested inner = some (e, after))
    (others : Arrives (spaced (furtherArgument nested)) after middle)
    (comma : character ',' (skip middle) = some ((), rest)) : Asks nested text (skip rest)
  | index {r : Root Lexeme} {text after middle rest : List Char} (unread : literal text = none)
    (start : root nested text = some (r, after))
    (steps : Arrives (spaced (segment nested)) after middle)
    (opens : character '[' (skip middle) = some ((), rest)) : Asks nested text (skip rest)

/-- Reading a value of at most some levels descends some levels and comes to a point. -/
inductive Descends : Nat → List Char → Nat → List Char → Prop
  | here {levels : Nat} {text : List Char} : Descends levels text 0 text
  | last {text point : List Char} (asks : Asks (fun _ => none) text point) : Descends 0 text 1 point
  | inward {levels depth : Nat} {text inner point : List Char} (asks : Asks (value levels) text inner)
    (further : Descends levels inner depth point) : Descends (levels + 1) text (depth + 1) point

/-! ## What is asked is all that matters -/

/-- Repetition of a reader depends on its answers where it arrives, and on nothing else. The
induction is on the repetition itself, and each case of it arrives one reading further. -/
theorem many_congr {reader reader' : Reader α}
    (same : ∀ rest, Arrives reader text rest → reader rest = reader' rest) :
    many reader text = many reader' text := by
  induction text using many.induct reader with
  | case1 text ends =>
    have ends' : reader' text = none := by rw [← same text .start, ends]
    rw [many, many, ends, ends']
  | case2 text x middle applies shorter others after further ih =>
    have applies' : reader' text = some (x, middle) := by rw [← same text .start, applies]
    rw [many, many, applies, applies']
    simp only [shorter, if_true, ih fun rest arrives => same rest (.next applies shorter arrives)]
  | case3 text x middle applies longer =>
    have applies' : reader' text = some (x, middle) := by rw [← same text .start, applies]
    rw [many, many, applies, applies']
    simp only [longer, if_false]

/-- A call reads alike with readers of arguments that agree behind its parenthesis. -/
theorem call_congr (same : ∀ inner, Calls text inner → arguments nested inner = arguments nested' inner) :
    call nested text = call nested' text := by
  unfold call
  refine Option.bind_congr ?_
  rintro ⟨space, afterSpace⟩ prefixed
  refine Option.bind_congr ?_
  rintro ⟨⟨⟩, afterColon⟩ colon
  refine Option.bind_congr ?_
  rintro ⟨function, afterName⟩ named
  refine Option.bind_congr ?_
  rintro ⟨⟨⟩, inner⟩ opens
  simp only [same (skip inner) (.mk prefixed colon named opens)]

/-- A further argument reads alike with readers that agree behind its comma. -/
theorem furtherArgument_congr {text : List Char}
    (same : ∀ rest, character ',' text = some ((), rest) → nested (skip rest) = nested' (skip rest)) :
    furtherArgument nested text = furtherArgument nested' text := by
  refine Option.bind_congr ?_
  rintro ⟨⟨⟩, rest⟩ comma
  exact same rest comma

/-- A segment reads alike with readers that agree behind its bracket. A property asks for no nested
value. -/
theorem segment_congr {text : List Char}
    (same : ∀ rest, character '[' text = some ((), rest) → nested (skip rest) = nested' (skip rest)) :
    segment nested text = segment nested' text := by
  have indices : index nested text = index nested' text := by
    refine Option.bind_congr ?_
    rintro ⟨⟨⟩, rest⟩ opens
    simp only [spaced, same rest opens]
  simp only [segment, orElse, indices]

/-- A root reads alike with readers that agree where one is asked. Only its arguments ask, the first
where the parenthesis opens and each further one where the readings before it have arrived. -/
theorem root_congr (unread : literal text = none)
    (same : ∀ point, Asks nested text point → nested point = nested' point) :
    root nested text = root nested' text := by
  have calls : call nested text = call nested' text := by
    refine call_congr fun inner calls => ?_
    have first := same inner (.argument unread calls)
    unfold arguments
    rw [← first]
    cases read : nested inner with
    | none => rfl
    | some found =>
      obtain ⟨e, after⟩ := found
      have others :
          many (spaced (furtherArgument nested)) after = many (spaced (furtherArgument nested')) after :=
        many_congr fun _ arrives => furtherArgument_congr fun _ comma =>
          same _ (.further unread calls read arrives comma)
      simp only [others]
  simp only [root, orElse, calls]

/-- Readers of nested values that agree at the points where one is asked read the same value. -/
theorem valueOver_congr (same : ∀ point, Asks nested text point → nested point = nested' point) :
    valueOver nested text = valueOver nested' text := by
  cases unread : literal text with
  | some found => simp only [valueOver, orElse, unread, Option.map_some]
  | none =>
    have roots := root_congr unread same
    simp only [valueOver, orElse, unread, Option.map_none, path]
    rw [← roots]
    cases start : root nested text with
    | none => rfl
    | some found =>
      obtain ⟨r, after⟩ := found
      have steps : many (spaced (segment nested)) after = many (spaced (segment nested')) after :=
        many_congr fun _ arrives => segment_congr fun _ opens => same _ (.index unread start arrives opens)
      simp only [Option.bind_eq_bind, Option.bind_some, steps]

/-- Where reading does not descend below some levels, it needs no more of them. -/
theorem value_eq_of_descends {levels needed : Nat} (enough : needed ≤ levels)
    (shallow : ∀ depth point, Descends levels text depth point → depth ≤ needed) :
    value levels text = value needed text := by
  induction needed generalizing levels text with
  | zero =>
    cases levels with
    | zero => rfl
    | succ levels =>
      refine valueOver_congr fun point asks => ?_
      exact absurd (shallow 1 point (.inward asks .here)) (by omega)
  | succ needed ih =>
    cases levels with
    | zero => omega
    | succ levels =>
      refine valueOver_congr fun point asks => ih (by omega) fun depth inner further => ?_
      have bounded := shallow (depth + 1) inner (.inward asks further)
      omega

/-! ## Brackets before a point -/

/-- From a text to a rest of it stand tokens that leave some levels open. -/
def Leads (text rest : List Char) (levels : Int) : Prop :=
  ∃ front, Begins front text rest ∧ Opens front levels

namespace Leads

variable {middle : List Char} {m n : Int}

/-- A text leads to itself. -/
theorem refl : Leads text text 0 := ⟨[], .nil, .nil⟩

/-- Leading on from where one has come to adds the levels left open. -/
theorem trans (first : Leads text middle m) (second : Leads middle rest n) : Leads text rest (m + n) := by
  obtain ⟨front, begins, opens⟩ := first
  obtain ⟨back, begins', opens'⟩ := second
  exact ⟨front ++ back, begins.trans begins', opens.append opens'⟩

/-- The blanks at the front of a text leave no level open. -/
theorem of_skip (leads : Leads (skip text) rest n) : Leads text rest n := by
  obtain ⟨front, begins, opens⟩ := leads
  exact ⟨front, begins.of_skip, opens⟩

/-- A text leads behind its blanks. -/
theorem to_skip (text : List Char) : Leads text (skip text) 0 := refl.of_skip

/-- A text leads behind a symbol at its front, by the level that the symbol opens. -/
theorem symbol {c : Char} (counted : Counted [c]) (covered : 0 ≤ levelOf [c])
    (read : character c text = some ((), rest)) : Leads text rest (levelOf [c]) :=
  ⟨[[c]], .symbol read, .single counted covered⟩

/-- A text leads behind a name at its front, at the same level. -/
theorem name {n : String} (read : Token.name text = some (n, rest)) : Leads text rest 0 :=
  ⟨_, .name read, (Nests.name (name_eq_some_iff.mp read).1).toOpens⟩

/-- What a reader yields is closed, if the tokens of whatever it may mean are. -/
theorem of_yields {β β' : Type} {reader : Reader β'} {means : β' → β → Prop}
    {item : List (List Char) → β → Prop} (yields : Yields reader means item)
    (meant : ∀ x', ∃ x, means x' x) (closed : ∀ tokens x, item tokens x → Opens tokens 0) {x' : β'}
    (read : reader text = some (x', rest)) : Leads text rest 0 := by
  obtain ⟨x, means⟩ := meant x'
  obtain ⟨tokens, spelled, begins⟩ := yields _ _ _ _ read means
  exact ⟨tokens, begins, closed tokens x spelled⟩

/-- A text leads to wherever repetition arrives, at the same level, if the repeated reader closes
what it opens. -/
theorem of_arrives {reader : Reader α}
    (reads : ∀ {text x rest}, reader text = some (x, rest) → Leads text rest 0)
    (arrives : Arrives reader text rest) : Leads text rest 0 := by
  induction arrives with
  | start => exact refl
  | next read _ _ ih => exact (reads read).trans ih

end Leads

/-- A text leads to the arguments of the call that begins it, one level deeper. Its parenthesis is
the only token up to there that is not passed over. -/
theorem Calls.leads {inner : List Char} (calls : Calls text inner) : Leads text inner 1 := by
  cases calls with
  | mk prefixed colon named opens =>
    have toColon := (Leads.name prefixed).trans (Leads.to_skip _)
    have toName := toColon.trans
      ((Leads.symbol (.quiet (passes_single (by decide)) rfl) (by decide) colon).trans (Leads.to_skip _))
    have toOpening := toName.trans ((Leads.name named).trans (Leads.to_skip _))
    exact toOpening.trans ((Leads.symbol (.opening (.inr rfl)) (by decide) opens).trans (Leads.to_skip _))

section Shapes

/-- Everything read has a shape. -/
abbrev shapeOf : Lexeme → Except Empty Unit := fun _ => .ok ()

/-- No literal is rejected when only its shape is asked for. So every text that is read means some
shape, and its tokens are those of that shape. -/
theorem findSome?_shapeOf (lexemes : List Lexeme) : lexemes.findSome? (rejection? ∘ shapeOf) = none :=
  List.findSome?_eq_none_iff.mpr fun _ _ => rfl

variable (yields : Yields nested (Expr.Means shapeOf) Shape.Spelled)

include yields

/-- A value that is read closes what it opens. -/
theorem value_leads {e : Expr Lexeme} (read : nested text = some (e, rest)) : Leads text rest 0 := by
  refine Leads.of_yields yields (fun e => ?_) (fun _ shape spelled => (shape.nests id spelled).toOpens) read
  exact rejection?_eq_none_iff.mp (by rw [Expr.rejection?_traverse, findSome?_shapeOf])

/-- A further argument that is read closes what it opens. -/
theorem furtherArgument_leads {e : Expr Lexeme} (read : furtherArgument nested text = some (e, rest)) :
    Leads text rest 0 := by
  refine Leads.of_yields (furtherArgument_yields yields) (fun e => ?_) (fun _ shape spelled => ?_) read
  · exact rejection?_eq_none_iff.mp (by rw [Expr.rejection?_traverse, findSome?_shapeOf])
  · obtain ⟨spelled⟩ := spelled
    exact (Nests.separator (by decide) rfl).toOpens.append (shape.nests id spelled).toOpens

/-- A root that is read closes what it opens. -/
theorem root_leads {r : Root Lexeme} (read : root nested text = some (r, rest)) : Leads text rest 0 := by
  refine Leads.of_yields (root_yields yields) (fun r => ?_)
    (fun _ shape spelled => (shape.nests id spelled).toOpens) read
  exact rejection?_eq_none_iff.mp (by rw [Root.rejection?_traverse, findSome?_shapeOf])

/-- A segment that is read closes what it opens. -/
theorem segment_leads {s : Segment Lexeme} (read : segment nested text = some (s, rest)) :
    Leads text rest 0 := by
  refine Leads.of_yields (segment_yields yields) (fun s => ?_)
    (fun _ shape spelled => (shape.nests id spelled).toOpens) read
  exact rejection?_eq_none_iff.mp (by rw [Segment.rejection?_traverse, findSome?_shapeOf])

/-- A point at which a nested value is read lies in one bracket or parenthesis more than the
value that it is nested in. -/
theorem Asks.leads (asks : Asks nested text point) : Leads text point 1 := by
  cases asks with
  | argument _ calls => exact calls.leads
  | further _ calls first others comma =>
    have toOthers := calls.leads.trans (value_leads yields first)
    have toComma := toOthers.trans
      ((Leads.of_arrives (fun read => (furtherArgument_leads yields read).of_skip) others).trans (Leads.to_skip _))
    exact toComma.trans
      ((Leads.symbol (.quiet (passes_single (by decide)) rfl) (by decide) comma).trans (Leads.to_skip _))
  | index _ start steps opens =>
    have toOpening := (root_leads yields start).trans
      ((Leads.of_arrives (fun read => (segment_leads yields read).of_skip) steps).trans (Leads.to_skip _))
    exact toOpening.trans ((Leads.symbol (.opening (.inl rfl)) (by decide) opens).trans (Leads.to_skip _))

end Shapes

/-- Reading descends as many levels as there are brackets and parentheses open before the point
that it has come to. -/
theorem Descends.leads {levels depth : Nat} (descends : Descends levels text depth point) :
    Leads text point depth := by
  induction descends with
  | here => exact .refl
  | last asks =>
    have nothing : Yields (fun _ => none) (Expr.Means shapeOf) Shape.Spelled := nofun
    exact asks.leads nothing
  | inward asks _ ih =>
    have whole := (asks.leads (value_yields Shape.lexicon _)).trans ih
    rwa [Int.add_comm] at whole

/-- Where the scan finds no level too many, reading does not descend below the limit. -/
theorem Descends.depth_le {levels depth : Nat} (passes : excess? {} text = none)
    (descends : Descends levels (skip text) depth point) : depth ≤ limit := by
  obtain ⟨front, ⟨before, rfl, spread⟩, opens⟩ := descends.leads.of_skip
  rcases opens.scan (spread.append (.single point)) with passed | stopped
  · obtain ⟨_, _, _, _, _, bounded⟩ := passed
    have within := bounded front [] (List.append_nil front).symm
    rw [opens.leaves] at within
    omega
  · obtain ⟨_, _, _, _, _, _, _, _, _, _, _, _, stops⟩ := stopped
    exact absurd (passes.symm.trans stops) nofun

/-- Where the scan finds no level too many, more levels than the limit read nothing else. -/
theorem expression?_eq_of_passes {levels : Nat} (passes : excess? {} text = none) (enough : limit ≤ levels) :
    expression? levels text = expression? limit text := by
  have read : value levels (skip text) = value limit (skip text) :=
    value_eq_of_descends enough fun _ _ descends => descends.depth_le passes
  simp only [expression?, spaced, read]

end Grammar

/-! ## The guard -/

/-- At a position of a text stands the first bracket or parenthesis among its tokens that opens a
level beyond the limit. -/
def ExceedsAt (tokens : List (List Char)) (text : List Char) (position : Nat) : Prop :=
  ∃ front bracket back before after, tokens = front ++ [bracket] :: back ∧
    (bracket = '[' ∨ bracket = '(') ∧ level front = limit ∧
    (∀ start others, front = start ++ others → level start ≤ limit) ∧
    text = before ++ bracket :: after ∧ Spread front before ∧ Spread back after ∧ position = before.length

/-- A text of the grammar that nests too deep is refused at the bracket that exceeds the limit. -/
theorem Expr.read_of_deep {tokens : List (List Char)} {shape : Shape} (value : Shape.Spelled tokens shape)
    (spread : Spread tokens text) (deep : limit < shape.depth) :
    ∃ position, ExceedsAt tokens text position ∧
      Expr.read text = .error ⟨text, position, none, .nestedTooDeep⟩ := by
  rcases (shape.nests id value).scan_whole spread with ⟨shallow, _⟩ | ⟨_, stopped⟩
  · exact absurd deep (Nat.not_lt.mpr shallow)
  · obtain ⟨front, c, back, before, after, form, opens, full, bounded, rfl, spread, spread', stops⟩ := stopped
    exact ⟨before.length,
      ⟨front, c, back, before, after, form, opens, full, bounded, rfl, spread, spread', rfl⟩,
      read_of_excess stops⟩

/-- The nesting of a source is checked exactly and bounds the descent of reading. A source of the
grammar is refused for its nesting exactly if it nests more than 64 levels deep, at the first
bracket or parenthesis that opens level 65. In any source that passes the check, reading never
descends into more than 64 brackets and parentheses, which are those open before the point that
it has come to; so it reads the same with any greater number of levels. No expression that is
read nests deeper.

Proof: the scan counts the levels of a spelled source as its tree does, and so stops at the
bracket that opens the first level too many. A descent of the reader follows brackets that are
open where it has come to, of which a source that passes has at most 64 anywhere. -/
theorem Expr.nesting_guard_exact (source : String) :
    (∀ tokens shape, Shape.Spelled tokens shape → Spread tokens source.toList →
      ((∃ f, Expr.parse source = .error f ∧ f.cause = .nestedTooDeep) ↔ 64 < shape.depth) ∧
      ∀ f, Expr.parse source = .error f → f.cause = .nestedTooDeep →
        f.cause.text = "expression nested deeper than 64 levels" ∧
        ExceedsAt tokens source.toList f.position ∧ f.source = source.toList ∧ f.span = none) ∧
    (excess? {} source.toList = none →
      (∀ levels depth point, Descends levels (skip source.toList) depth point → depth ≤ 64 ∧
        ∃ front before, source.toList = before ++ point ∧ Spread front before ∧ level front = depth) ∧
      ∀ levels, 64 ≤ levels → expression? levels source.toList = expression? 64 source.toList) ∧
    ∀ e, Expr.parse source = .ok e → e.depth ≤ 64 := by
  refine ⟨fun tokens shape value spread => ?_, fun passes => ⟨fun levels depth point descends => ?_, ?_⟩, ?_⟩
  · have refused : (∃ f, Expr.parse source = .error f ∧ f.cause = .nestedTooDeep) ↔ 64 < shape.depth := by
      rw [Expr.parse, read_nested_iff, ne_eq, Expr.excess?_eq_none_iff id value spread, Nat.not_le]
      rfl
    refine ⟨refused, fun f read cause => ?_⟩
    obtain ⟨position, exceeds, read'⟩ := read_of_deep value spread (refused.mp ⟨f, read, cause⟩)
    cases read.symm.trans read'
    exact ⟨rfl, exceeds, rfl, rfl⟩
  · obtain ⟨front, ⟨before, form, spread⟩, opens⟩ := descends.leads.of_skip
    exact ⟨descends.depth_le passes, front, before, form, spread, opens.leaves⟩
  · exact fun levels enough => expression?_eq_of_passes passes enough
  · exact fun e read => (read_eq_ok_iff.mp read).2

/-- An index within an index, some levels deep. -/
def nestedIndex : Nat → Shape
  | 0 => .literal ()
  | levels + 1 => .path (.identifier "a") [.index (nestedIndex levels)]

/-- The tokens `a`, `[` and so on, down to the index `0`. -/
def nestedIndexTokens : Nat → List (List Char)
  | 0 => [['0']]
  | levels + 1 => [['a']] ++ (['['] :: (nestedIndexTokens levels ++ [[']']]) ++ [])

/-- The tokens of a nested index spell it. -/
theorem nestedIndex_spelled (levels : Nat) :
    Shape.Spelled (nestedIndexTokens levels) (nestedIndex levels) := by
  induction levels with
  | zero =>
    have number : Digits (Numeral.mk false ['0']).digits := ⟨by decide, by simp [Char.isDigit]⟩
    exact .literal (.integer number)
  | succ levels ih =>
    have isName : IsName "a".toList := isName_letter (by decide)
    exact .path (.identifier isName) (.cons (.index ih) .nil)

/-- A nested index is as deep as it says. -/
theorem nestedIndex_depth (levels : Nat) : (nestedIndex levels).depth = levels := by
  induction levels with
  | zero => rfl
  | succ levels ih => simp [nestedIndex, Expr.depth, Root.depth, Segment.depthOf, Segment.depth, ih]

/-- Indices nested 65 deep are refused, and 64 deep they are not. -/
theorem nestedIndex_refused :
    (∃ f, Expr.parse (String.ofList (nestedIndexTokens 65).flatten) = .error f ∧ f.cause = .nestedTooDeep) ∧
    ¬∃ f, Expr.parse (String.ofList (nestedIndexTokens 64).flatten) = .error f ∧ f.cause = .nestedTooDeep := by
  have guarded : ∀ levels,
      (∃ f, Expr.parse (String.ofList (nestedIndexTokens levels).flatten) = .error f ∧
        f.cause = .nestedTooDeep) ↔ 64 < levels := by
    intro levels
    have spread : Spread (nestedIndexTokens levels)
        (String.ofList (nestedIndexTokens levels).flatten).toList := by
      rw [String.toList_ofList]
      exact .flatten _
    rw [((Expr.nesting_guard_exact _).1 _ _ (nestedIndex_spelled levels) spread).1, nestedIndex_depth]
  exact ⟨(guarded 65).mpr (by decide), mt (guarded 64).mp (by decide)⟩

end PropertyPath
