import PropertyPath.Proofs.Spreading
import PropertyPath.Syntax.Nesting

/-!
# Levels of an expression

The nesting of a text is checked before the text is read, by a scan that knows brackets
and quotes but no grammar. On the renderings of an expression it says what it should: the
scan finds a level too many exactly if the expression nests too deep.

The scan steps from token to token, outside quotes at the end of each. It passes over names,
literals and blanks, a quoted text brings it back to where it was, and a bracket changes its
depth by one. So wherever it stands its depth is the number of brackets and parentheses
opened and not closed before, and it stops at the first that opens a level too many.
-/

namespace PropertyPath

open Token Nesting

variable {α : Type}

namespace Nesting

/-- The characters that the scan takes notice of outside quotes. -/
def noticed : List Char := ['\'', '"', '[', '(', ']', ')']

/-- The scan passes over a text outside quotes, whatever its depth. -/
def Passes (text : List Char) : Prop :=
  ∀ depth rest, excess? ⟨.plain, depth⟩ (text ++ rest) = excess? ⟨.plain, depth⟩ rest

/-- The scan passes over nothing. -/
theorem passes_nil : Passes [] := fun _ _ => rfl

/-- The scan passes over two texts in turn. A token made of several parts is passed over part by
part. -/
theorem Passes.append {front back : List Char} (first : Passes front) (second : Passes back) :
    Passes (front ++ back) := by
  intro depth rest
  rw [List.append_assoc, first, second]

/-- The scan passes over a text that has neither brackets nor quotes. One step over such a character
leaves the state as it is, and the whole text follows by induction. -/
theorem passes_of_unnoticed {text : List Char} (unnoticed : ∀ c ∈ text, c ∉ noticed) :
    Passes text := by
  intro depth rest
  induction text with
  | nil => rfl
  | cons c others ih =>
    have ordinary : c ∉ noticed := unnoticed c List.mem_cons_self
    have unchanged : State.step? ⟨.plain, depth⟩ c = some ⟨.plain, depth⟩ := by
      simp only [noticed, List.mem_cons, List.not_mem_nil, or_false, not_or] at ordinary
      simp [State.step?, ordinary]
    rw [List.cons_append, excess?, unchanged]
    exact ih fun d member => unnoticed d (List.mem_cons_of_mem _ member)

/-- The scan takes no notice of a character of a word. -/
theorem not_noticed_of_isWordChar {c : Char} (wordChar : isWordChar c = true) : c ∉ noticed := by
  have others : noticed.all (fun c => !isWordChar c) = true := by decide
  intro member
  have other := List.all_eq_true.mp others c member
  rw [wordChar] at other
  cases other

/-- The scan takes no notice of a blank. -/
theorem not_noticed_of_isSpace {c : Char} (space : isSpace c = true) : c ∉ noticed := by
  have others : noticed.all (fun c => !isSpace c) = true := by decide
  intro member
  have other := List.all_eq_true.mp others c member
  rw [space] at other
  cases other

/-- The scan passes over names, and so over keywords. -/
theorem passes_name {w : List Char} (isName : IsName w) : Passes w :=
  passes_of_unnoticed fun c member => not_noticed_of_isWordChar (isName.continues c member)

/-- The scan passes over blanks. -/
theorem passes_blanks {blanks : List Char} (blank : Blanks blanks) : Passes blanks :=
  passes_of_unnoticed fun c member => not_noticed_of_isSpace (blank c member)

/-- The scan passes over digits. -/
theorem passes_digits {ds : List Char} (number : Digits ds) : Passes ds :=
  passes_of_unnoticed fun c member => not_noticed_of_isWordChar (isWordChar_of_isDigit (number.each c member))

/-- The scan passes over a single character that it takes no notice of, such as a comma or a
point. -/
theorem passes_single {c : Char} (ordinary : c ∉ noticed) : Passes [c] :=
  passes_of_unnoticed fun _ member => List.mem_singleton.mp member ▸ ordinary

/-- The scan passes over a decimal. None of its parts is a bracket or a quote: the sign, the digits,
the point, and the exponent. -/
theorem passes_decimal {w : List Char} (decimal : Decimal w) : Passes w := by
  have passes_sign : ∀ {sign}, sign = [] ∨ sign = ['+'] ∨ sign = ['-'] → Passes sign := by
    rintro _ (rfl | rfl | rfl)
    · exact passes_nil
    · exact passes_single (by decide)
    · exact passes_single (by decide)
  obtain ⟨signs, before, after, scale⟩ := decimal
  refine (passes_sign (signs.imp_right .inr)).append ((passes_digits before).append ?_)
  refine (passes_single (by decide : '.' ∉ noticed)).append ((passes_digits after).append ?_)
  cases scale with
  | absent => exact passes_nil
  | @present mark _ _ marks signs number =>
    have unnoticed : mark ∉ noticed := by rcases marks with rfl | rfl <;> decide
    exact (passes_single unnoticed).append ((passes_sign signs).append (passes_digits number))

/-- The scan passes over a numeral. -/
theorem passes_numeral {numeral : Numeral} (number : Digits numeral.digits) : Passes numeral.text := by
  obtain ⟨sign, signs, _, text⟩ := numeral.exists_sign
  rw [text]
  rcases signs with rfl | rfl
  · exact passes_digits number
  · exact (passes_single (by decide)).append (passes_digits number)

/-- Between quotes the scan stays until the quote that closes. -/
theorem excess?_quoted {quote : Char} (plain : quote ≠ '\\') {written meant : List Char}
    (body : QuotedText quote written meant) (depth : Nat) (rest : List Char) :
    excess? ⟨.quoted quote, depth⟩ (written ++ quote :: rest) = excess? ⟨.plain, depth⟩ rest := by
  induction body with
  | nil => simp [excess?, State.step?, plain]
  | plain notQuote notEscape _ ih => simp [excess?, State.step?, notQuote, notEscape, ih]
  | escape _ ih => simp [excess?, State.step?, ih]

/-- The scan passes over a quoted text, whatever brackets stand in it. It knows escapes as the
reader of strings does, so both take the same quote for the closing one. -/
theorem passes_quoted {quote : Char} (quotes : quote = '\'' ∨ quote = '"') {written meant : List Char}
    (body : QuotedText quote written meant) : Passes (quote :: (written ++ [quote])) := by
  intro depth rest
  have plain : quote ≠ '\\' := by rcases quotes with rfl | rfl <;> decide
  have opens : State.step? ⟨.plain, depth⟩ quote = some ⟨.quoted quote, depth⟩ := by
    simp [State.step?, quotes]
  rw [List.cons_append, excess?, opens, List.append_assoc]
  exact excess?_quoted plain body depth rest

/-- The scan passes over every literal, quoted brackets included. -/
theorem passes_literal {w : List Char} (written : IsLiteral w) : Passes w := by
  have passes_keyword : ∀ {w}, isKeyword w = true → Passes w := fun known =>
    passes_of_unnoticed fun c member => not_noticed_of_isWordChar ((letters_of_isKeyword known).2 c member)
  cases written with
  | null => exact passes_keyword (by decide)
  | true => exact passes_keyword (by decide)
  | false => exact passes_keyword (by decide)
  | integer number => exact passes_numeral number
  | float decimal => exact passes_decimal decimal
  | string quotes body => exact passes_quoted quotes body

/-- A bracket that opens a level adds one, unless the limit has been reached. This is the only step
at which the scan stops. -/
theorem step?_opening {opening : Char} (opens : opening = '[' ∨ opening = '(') (depth : Nat) :
    State.step? ⟨.plain, depth⟩ opening = if depth < limit then some ⟨.plain, depth + 1⟩ else none := by
  rcases opens with rfl | rfl <;> rfl

/-- A bracket that closes a level takes one away. -/
theorem step?_closing {closing : Char} (closes : closing = ']' ∨ closing = ')') (depth : Nat) :
    State.step? ⟨.plain, depth⟩ closing = some ⟨.plain, depth - 1⟩ := by
  rcases closes with rfl | rfl <;> rfl

/-! ## Levels of tokens -/

/-- The levels that a token opens: one, minus one if it closes one, or none. -/
def levelOf (token : List Char) : Int :=
  if token = ['['] ∨ token = ['('] then 1 else if token = [']'] ∨ token = [')'] then -1 else 0

/-- The brackets and parentheses that tokens open and do not close. -/
def level : List (List Char) → Int
  | [] => 0
  | token :: tokens => levelOf token + level tokens

variable {front back tokens later : List (List Char)} {text : List Char}

/-- No tokens leave no level open. -/
@[simp] theorem level_nil : level [] = 0 := rfl

/-- The levels of tokens add up. -/
@[simp] theorem level_cons (token : List Char) (tokens : List (List Char)) :
    level (token :: tokens) = levelOf token + level tokens := rfl

/-- The levels of two sequences of tokens add up, so a level can be told at every place between
tokens. -/
@[simp] theorem level_append (front back : List (List Char)) :
    level (front ++ back) = level front + level back := by
  induction front with
  | nil => rw [List.nil_append, level_nil, Int.zero_add]
  | cons token front ih => rw [List.cons_append, level_cons, level_cons, ih, Int.add_assoc]

/-- An opening bracket or parenthesis opens one level. -/
theorem levelOf_opening {c : Char} (opens : c = '[' ∨ c = '(') : levelOf [c] = 1 := by
  rcases opens with rfl | rfl <;> rfl

/-- A closing bracket or parenthesis closes one level. -/
theorem levelOf_closing {c : Char} (closes : c = ']' ∨ c = ')') : levelOf [c] = -1 := by
  rcases closes with rfl | rfl <;> rfl

/-- Brackets and parentheses are marks, and no other token opens or closes a level. -/
theorem levelOf_eq_zero {w : List Char} (unmarked : ∀ c ∈ marks, w ≠ [c]) : levelOf w = 0 := by
  simp [levelOf, unmarked _ (by decide : '[' ∈ marks), unmarked _ (by decide : '(' ∈ marks),
    unmarked _ (by decide : ']' ∈ marks), unmarked _ (by decide : ')' ∈ marks)]

/-- The tokens whose levels the scan counts: those it passes over, and brackets and parentheses. -/
inductive Counted : List Char → Prop
  | quiet {w : List Char} (passes : Passes w) (levels : levelOf w = 0) : Counted w
  | opening {c : Char} (opens : c = '[' ∨ c = '(') : Counted [c]
  | closing {c : Char} (closes : c = ']' ∨ c = ')') : Counted [c]

/-- A literal opens no level, even if it is a string of brackets. -/
theorem levelOf_literal {w : List Char} (written : IsLiteral w) : levelOf w = 0 :=
  levelOf_eq_zero fun _ mark isMark => not_isLiteral_mark mark (isMark ▸ written)

/-- A name opens no level. -/
theorem levelOf_name {w : List Char} (isName : IsName w) : levelOf w = 0 := by
  refine levelOf_eq_zero ?_
  rintro c mark rfl
  have wordChar := isName.continues c List.mem_cons_self
  rw [isWordChar_of_mark mark] at wordChar
  cases wordChar

/-- At a counted token the scan stops if the token opens a level too many, and otherwise moves
behind it by the levels of the token. -/
theorem scan_token {token : List Char} (counted : Counted token) {depth : Nat} (shallow : depth ≤ limit)
    (covered : 0 ≤ depth + levelOf token) :
    (∃ c, token = [c] ∧ (c = '[' ∨ c = '(') ∧ depth = limit ∧
      ∀ rest, excess? ⟨.plain, depth⟩ (token ++ rest) = some (c :: rest)) ∨
    ∃ next : Nat, next ≤ limit ∧ (next : Int) = depth + levelOf token ∧
      ∀ rest, excess? ⟨.plain, depth⟩ (token ++ rest) = excess? ⟨.plain, next⟩ rest := by
  cases counted with
  | quiet passes levels => exact .inr ⟨depth, shallow, by omega, passes depth⟩
  | @opening c opens =>
    rw [levelOf_opening opens]
    by_cases room : depth < limit
    · refine .inr ⟨depth + 1, room, by omega, fun rest => ?_⟩
      simp only [List.cons_append, List.nil_append, excess?, step?_opening opens, room, if_true]
    · refine .inl ⟨c, rfl, opens, by omega, fun rest => ?_⟩
      simp only [List.cons_append, List.nil_append, excess?, step?_opening opens, room, if_false]
  | closing closes =>
    rw [levelOf_closing closes] at covered ⊢
    refine .inr ⟨depth - 1, by omega, by omega, fun rest => ?_⟩
    simp only [List.cons_append, List.nil_append, excess?, step?_closing closes]

/-- The scan comes out of tokens that close no level from outside by the levels that they leave
open, or stops at the first bracket or parenthesis among them that opens a level too many. -/
theorem scan_tokens (counted : ∀ token ∈ tokens, Counted token) {depth : Nat} (shallow : depth ≤ limit)
    (covered : ∀ front back, tokens = front ++ back → 0 ≤ depth + level front)
    (spread : Spread (tokens ++ later) text) :
    (∃ (rest : List Char) (next : Nat), (next : Int) = depth + level tokens ∧ Spread later rest ∧
      excess? ⟨.plain, depth⟩ text = excess? ⟨.plain, next⟩ rest ∧
      ∀ front back, tokens = front ++ back → depth + level front ≤ limit) ∨
    ∃ front c back before after, tokens = front ++ [c] :: back ∧ (c = '[' ∨ c = '(') ∧
      text = before ++ c :: after ∧ Spread front before ∧ Spread (back ++ later) after ∧
      depth + level front = limit ∧ (∀ start others, front = start ++ others → depth + level start ≤ limit) ∧
      excess? ⟨.plain, depth⟩ text = some (c :: after) := by
  induction tokens generalizing depth text with
  | nil =>
    refine .inl ⟨text, depth, by simp, spread, rfl, fun front back form => ?_⟩
    obtain ⟨rfl, _⟩ := List.append_eq_nil_iff.mp form.symm
    simpa using shallow
  | cons token tokens ih =>
    cases spread with
    | @token blanks _ _ others blank spread =>
    have here : 0 ≤ depth + levelOf token := by simpa using covered [token] tokens rfl
    have skipped : excess? ⟨.plain, depth⟩ (blanks ++ (token ++ others)) =
        excess? ⟨.plain, depth⟩ (token ++ others) := passes_blanks blank depth _
    rw [skipped]
    -- the first token stops the scan, or leaves it at the next depth
    rcases scan_token (counted token List.mem_cons_self) shallow here with stops | goesOn
    · obtain ⟨c, rfl, opens, full, stops⟩ := stops
      refine .inr ⟨[], c, tokens, blanks, others, rfl, opens, rfl, .done blank, spread, by simp [full],
        fun start others form => ?_, stops others⟩
      obtain ⟨rfl, _⟩ := List.append_eq_nil_iff.mp form.symm
      simpa using shallow
    · obtain ⟨next, bounded, moved, goesOn⟩ := goesOn
      rw [goesOn]
      -- depths behind the first token are counted from where it leaves the scan
      have onward : ∀ front, depth + level (token :: front) = next + level front := by
        intro front
        rw [level_cons]
        omega
      have within : ∀ {whole : List (List Char)},
          (∀ front back, whole = front ++ back → next + level front ≤ limit) →
          ∀ front back, token :: whole = front ++ back → depth + level front ≤ limit := by
        intro whole bound front back form
        cases front with
        | nil => simpa using shallow
        | cons first front =>
          obtain ⟨rfl, split⟩ := List.cons.inj form
          rw [onward]
          exact bound front back split
      have further : ∀ front back, tokens = front ++ back → 0 ≤ next + level front := by
        intro front back form
        rw [← onward]
        exact covered (token :: front) back (by rw [form, List.cons_append])
      rcases ih (fun t member => counted t (List.mem_cons_of_mem _ member)) bounded further spread with
        passed | stopped
      · obtain ⟨rest, final, left, spread, scanned, bound⟩ := passed
        exact .inl ⟨rest, final, by rw [onward, left], spread, scanned, within bound⟩
      · obtain ⟨front, c, back, before, after, rfl, opens, rfl, spread, spread', full, bound, stops⟩ := stopped
        refine .inr ⟨token :: front, c, back, blanks ++ (token ++ before), after, rfl, opens, by simp,
          .token blank spread, spread', by rw [onward, full], within bound, stops⟩

/-! ## Levels of an expression -/

/-- Tokens leave some levels open, and close none that they have not opened. -/
structure Opens (tokens : List (List Char)) (levels : Int) : Prop where
  counted : ∀ token ∈ tokens, Counted token
  covered : ∀ front back, tokens = front ++ back → 0 ≤ level front
  leaves : level tokens = levels

/-- Tokens nest some levels deep: they close all levels that they open, and at their deepest
place that many are open. -/
structure Nests (tokens : List (List Char)) (levels : Nat) : Prop extends Opens tokens 0 where
  bounded : ∀ front back, tokens = front ++ back → level front ≤ levels
  attained : ∃ front back, tokens = front ++ back ∧ level front = levels

namespace Opens

variable {front back tokens later : List (List Char)} {text : List Char} {m n : Int}

/-- No tokens open a level. -/
theorem nil : Opens [] 0 where
  counted := nofun
  covered front back form := by
    obtain ⟨rfl, _⟩ := List.append_eq_nil_iff.mp form.symm
    exact Int.le_refl 0
  leaves := rfl

/-- A token on its own, unless it closes a level. -/
theorem single {token : List Char} (counted : Counted token) (covered : 0 ≤ levelOf token) :
    Opens [token] (levelOf token) where
  counted other member := List.mem_singleton.mp member ▸ counted
  covered front back form := by
    rcases List.append_eq_singleton_iff.mp form.symm with ⟨rfl, _⟩ | ⟨rfl, _⟩
    · exact Int.le_refl 0
    · simpa using covered
  leaves := by simp

/-- Tokens that open levels, one sequence behind another. What the first has opened covers what the
second closes. -/
theorem append (first : Opens front m) (second : Opens back n) : Opens (front ++ back) (m + n) where
  counted token member := (List.mem_append.mp member).elim (first.counted token) (second.counted token)
  covered start others form := by
    rcases List.append_eq_append_iff.mp form with ⟨inner, rfl, split⟩ | ⟨inner, split, _⟩
    · rw [level_append]
      exact Int.add_nonneg (first.covered front [] (List.append_nil front).symm)
        (second.covered inner others split)
    · exact first.covered start inner split
  leaves := by rw [level_append, first.leaves, second.leaves]

/-- The scan of a text comes out of its first tokens by the levels that they leave open, or stops
at the first bracket or parenthesis that opens a level too many. -/
theorem scan (opens : Opens tokens n) (spread : Spread (tokens ++ later) text) :
    (∃ (rest : List Char) (next : Nat), (next : Int) = n ∧ Spread later rest ∧
      excess? {} text = excess? ⟨.plain, next⟩ rest ∧
      ∀ front back, tokens = front ++ back → level front ≤ limit) ∨
    ∃ front c back before after, tokens = front ++ [c] :: back ∧ (c = '[' ∨ c = '(') ∧
      text = before ++ c :: after ∧ Spread front before ∧ Spread (back ++ later) after ∧
      level front = limit ∧ (∀ start others, front = start ++ others → level start ≤ limit) ∧
      excess? {} text = some (c :: after) := by
  have covered : ∀ front back, tokens = front ++ back → 0 ≤ (0 : Nat) + level front := by
    simpa using opens.covered
  have scanned := scan_tokens opens.counted (Nat.zero_le limit) covered spread
  simpa only [opens.leaves, Int.natCast_zero, Int.zero_add] using scanned

end Opens

namespace Nests

variable {front back tokens : List (List Char)} {m n : Nat}

/-- No tokens nest zero levels deep. -/
theorem nil : Nests [] 0 where
  toOpens := .nil
  bounded front back form := by
    obtain ⟨rfl, _⟩ := List.append_eq_nil_iff.mp form.symm
    exact Int.le_refl 0
  attained := ⟨[], [], rfl, rfl⟩

/-- A token that opens and closes no level. -/
theorem token {w : List Char} (passes : Passes w) (levels : levelOf w = 0) : Nests [w] 0 where
  toOpens := levels ▸ .single (.quiet passes levels) (Int.le_of_eq levels.symm)
  bounded front back form := by
    rcases List.append_eq_singleton_iff.mp form.symm with ⟨rfl, _⟩ | ⟨rfl, _⟩ <;> simp [levels]
  attained := ⟨[], [w], rfl, rfl⟩

/-- A name nests zero levels deep. -/
theorem name {w : List Char} (isName : IsName w) : Nests [w] 0 :=
  token (passes_name isName) (levelOf_name isName)

/-- So does a comma, a colon or a point between the parts of an expression. -/
theorem separator {c : Char} (ordinary : c ∉ noticed) (levels : levelOf [c] = 0) : Nests [[c]] 0 :=
  token (passes_single ordinary) levels

/-- Of two sequences of tokens that close what they open, the deeper one counts. The levels do not
add up, since the first is closed where the second begins. -/
theorem append (first : Nests front m) (second : Nests back n) : Nests (front ++ back) (max m n) where
  toOpens := first.toOpens.append second.toOpens
  bounded start others form := by
    rcases List.append_eq_append_iff.mp form with ⟨inner, rfl, split⟩ | ⟨inner, split, _⟩
    · have bounded := second.bounded inner others split
      rw [level_append, first.leaves]
      omega
    · have bounded := first.bounded start inner split
      omega
  attained := by
    rcases Nat.le_total m n with le | le
    · obtain ⟨start, others, rfl, attained⟩ := second.attained
      refine ⟨front ++ start, others, by rw [List.append_assoc], ?_⟩
      rw [level_append, first.leaves, attained, Nat.max_eq_right le, Int.zero_add]
    · obtain ⟨start, others, rfl, attained⟩ := first.attained
      exact ⟨start, others ++ back, by rw [List.append_assoc], by rw [attained, Nat.max_eq_left le]⟩

/-- Where tokens between brackets or parentheses are cut, one level more is open than in the
tokens alone, unless the cut is in front of them or behind. -/
theorem enclosed_cut {opening closing : Char} (opens : opening = '[' ∨ opening = '(')
    (closes : closing = ']' ∨ closing = ')') (inner : Nests tokens n) {start others : List (List Char)}
    (form : [opening] :: (tokens ++ [[closing]]) = start ++ others) :
    level start = 0 ∨ ∃ cut later, tokens = cut ++ later ∧ level start = level cut + 1 := by
  cases start with
  | nil => exact .inl rfl
  | cons first start =>
    obtain ⟨rfl, split⟩ := List.cons.inj form
    rw [level_cons, levelOf_opening opens]
    rcases List.append_eq_append_iff.mp split with ⟨last, rfl, ending⟩ | ⟨last, within, _⟩
    · rw [level_append, inner.leaves]
      rcases List.append_eq_singleton_iff.mp ending.symm with ⟨rfl, _⟩ | ⟨rfl, _⟩
      · exact .inr ⟨tokens, [], (List.append_nil tokens).symm, by simp [inner.leaves]⟩
      · exact .inl (by simp [levelOf_closing closes])
    · exact .inr ⟨start, last, within, Int.add_comm 1 _⟩

/-- Tokens between brackets or parentheses nest one level deeper. -/
theorem enclose {opening closing : Char} (opens : opening = '[' ∨ opening = '(')
    (closes : closing = ']' ∨ closing = ')') (inner : Nests tokens n) :
    Nests ([opening] :: (tokens ++ [[closing]])) (n + 1) where
  counted token member := by
    rcases List.mem_cons.mp member with rfl | member
    · exact .opening opens
    rcases List.mem_append.mp member with member | member
    · exact inner.counted token member
    · rw [List.mem_singleton.mp member]
      exact .closing closes
  covered start others form := by
    -- cut anywhere: outside all tokens, or one level below a cut of those inside
    rcases inner.enclosed_cut opens closes form with level | ⟨cut, later, split, level⟩
    · exact Int.le_of_eq level.symm
    · have covered := inner.covered cut later split
      omega
  leaves := by simp [inner.leaves, levelOf_opening opens, levelOf_closing closes]
  bounded start others form := by
    rcases inner.enclosed_cut opens closes form with level | ⟨cut, later, split, level⟩
    · omega
    · have bounded := inner.bounded cut later split
      omega
  attained := by
    obtain ⟨start, others, rfl, attained⟩ := inner.attained
    refine ⟨[opening] :: start, others ++ [[closing]], by rw [List.append_assoc, List.cons_append], ?_⟩
    rw [level_cons, levelOf_opening opens, attained]
    omega

/-- The scan passes over a text of tokens that nest within the limit, and stops at the first
bracket or parenthesis beyond it otherwise. -/
theorem scan_whole {text : List Char} (nests : Nests tokens n) (spread : Spread tokens text) :
    (n ≤ limit ∧ excess? {} text = none) ∨
    limit < n ∧ ∃ front c back before after, tokens = front ++ [c] :: back ∧ (c = '[' ∨ c = '(') ∧
      level front = limit ∧ (∀ start others, front = start ++ others → level start ≤ limit) ∧
      text = before ++ c :: after ∧ Spread front before ∧ Spread back after ∧
      excess? {} text = some (c :: after) := by
  rw [← List.append_nil tokens] at spread
  rcases nests.scan spread with passed | stopped
  · obtain ⟨rest, next, _, ends, scanned, bound⟩ := passed
    obtain ⟨front, back, form, attained⟩ := nests.attained
    have deepest := bound front back form
    refine .inl ⟨by omega, ?_⟩
    rw [scanned, ← List.append_nil rest, passes_blanks ends.blanks]
    rfl
  · obtain ⟨front, c, back, before, after, form, opens, split, spread, spread', full, bound, stops⟩ := stopped
    have bounded := nests.bounded (front ++ [[c]]) back (by simp [form])
    rw [level_append, full, level_cons, levelOf_opening opens, level_nil] at bounded
    rw [List.append_nil] at spread'
    exact .inr
      ⟨by omega, front, c, back, before, after, form, opens, full, bound, split, spread, spread', stops⟩

end Nests

end Nesting

section Trees

variable {spelled : List Char → α → Prop}

mutual

/-- The tokens of an expression nest as deep as the expression. -/
theorem Expr.nests (written : ∀ {w x}, spelled w x → IsLiteral w) : ∀ (e : Expr α) {tokens},
    Expr.Spelled spelled tokens e → Nests tokens e.depth
  | .literal _, _, .literal literal =>
    .token (passes_literal (written literal)) (levelOf_literal (written literal))
  | .path root segments, _, .path start steps => by
    rw [Expr.depth]
    exact (Root.nests written root start).append (Segment.nestsOf written segments steps)

/-- A root nests as deep as its arguments do, one level deeper for the parentheses. -/
theorem Root.nests (written : ∀ {w x}, spelled w x → IsLiteral w) : ∀ (r : Root α) {tokens},
    Root.Spelled spelled tokens r → Nests tokens r.depth
  | .identifier _, _, .identifier named => .name named
  | .call _ _ arguments, _, .call spaceNamed named given => by
    have around := (Expr.nestsOf written arguments given).enclose (.inr rfl) (.inr rfl)
    have whole := (Nests.name spaceNamed).append
      ((Nests.separator (by decide : ':' ∉ noticed) rfl).append ((Nests.name named).append around))
    simp only [Nat.zero_max] at whole
    exact whole

/-- A segment nests as deep as its index, one level deeper for the brackets. -/
theorem Segment.nests (written : ∀ {w x}, spelled w x → IsLiteral w) : ∀ (s : Segment α) {tokens},
    Segment.Spelled spelled tokens s → Nests tokens s.depth
  | .property _, _, .property named =>
    (Nests.separator (by decide : '.' ∉ noticed) rfl).append (.name named)
  | .index index, _, .index value => (Expr.nests written index value).enclose (.inl rfl) (.inl rfl)

/-- Arguments nest as deep as the deepest of them. -/
theorem Expr.nestsOf (written : ∀ {w x}, spelled w x → IsLiteral w) : ∀ (es : List (Expr α)) {tokens},
    Expr.ArgumentsSpelled spelled tokens es → Nests tokens (Expr.depthOf es)
  | [], _, .none => .nil
  | first :: rest, _, .some value further => by
    rw [Expr.depthOf]
    exact (Expr.nests written first value).append (Expr.nestsOfFurther written rest further)

/-- So do the arguments that follow the first, each behind its comma. -/
theorem Expr.nestsOfFurther (written : ∀ {w x}, spelled w x → IsLiteral w) :
    ∀ (es : List (Expr α)) {tokens}, Sequence (Expr.FurtherSpelled spelled) tokens es →
      Nests tokens (Expr.depthOf es)
  | [], _, .nil => .nil
  | first :: rest, _, .cons one further => by
    rw [Expr.depthOf]
    obtain ⟨value⟩ := one
    have withComma := (Nests.separator (by decide : ',' ∉ noticed) rfl).append
      (Expr.nests written first value)
    rw [Nat.zero_max] at withComma
    exact withComma.append (Expr.nestsOfFurther written rest further)

/-- Segments nest as deep as the deepest of them. -/
theorem Segment.nestsOf (written : ∀ {w x}, spelled w x → IsLiteral w) :
    ∀ (ss : List (Segment α)) {tokens}, Sequence (Segment.Spelled spelled) tokens ss →
      Nests tokens (Segment.depthOf ss)
  | [], _, .nil => .nil
  | first :: rest, _, .cons step further => by
    rw [Segment.depthOf]
    exact (Segment.nests written first step).append (Segment.nestsOf written rest further)

end

/-- The scan of a rendering finds a level too many exactly if there is one. -/
theorem Expr.excess?_eq_none_iff (written : ∀ {w x}, spelled w x → IsLiteral w) {e : Expr α}
    {tokens : List (List Char)} {text : List Char} (value : Expr.Spelled spelled tokens e)
    (spread : Spread tokens text) : excess? {} text = none ↔ e.depth ≤ limit := by
  rcases (e.nests written value).scan_whole spread with ⟨shallow, passes⟩ | ⟨deep, stopped⟩
  · exact iff_of_true passes shallow
  · obtain ⟨_, _, _, _, _, _, _, _, _, _, _, _, stops⟩ := stopped
    rw [stops]
    exact iff_of_false nofun (Nat.not_le.mpr deep)

end Trees

end PropertyPath
