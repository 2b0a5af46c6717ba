import PropertyPath.Proofs.Literals

/-!
# Tokens in a text

A text of tokens is read from its front. Behind the blanks stands its first token, what
follows that token is a text of the others, and a name or a literal ends where a symbol
or a blank stands. The literals among the tokens are noted with their places. In the other
direction, what tokens are read off the front of a text can be put before any tokens of its
rest.
-/

namespace PropertyPath

open Reader Token Grammar

/-- A token that does not begin with a blank. -/
def Solid (token : List Char) : Prop := ∃ c rest, token = c :: rest ∧ isSpace c = false

/-- The symbols that may follow a name. -/
def marks : List Char := ['.', '[', ':', '(', ']', ',', ')']

/-- The symbols that may follow the root of a path or one of its segments. -/
def onward : List Char := ['.', '[', ']', ',', ')']

/-- The symbols that may follow a value. -/
def closing : List Char := [']', ',', ')']

/-- The symbols that may follow an argument of a call. -/
def separating : List Char := [',', ')']

/-- Tokens that begin with one of some symbols, if there are any. -/
def Follows (symbols : List Char) (tokens : List (List Char)) : Prop :=
  ∀ token later, tokens = token :: later → ∃ c ∈ symbols, c ∈ marks ∧ token = [c]

variable {symbols text rest : List Char} {tokens later : List (List Char)}

/-- The end of a text may follow anything. -/
theorem follows_nil : Follows symbols [] := nofun

/-- Tokens that begin with one of the symbols may follow. -/
theorem follows_cons {c : Char} (member : c ∈ symbols) (mark : c ∈ marks)
    (later : List (List Char)) : Follows symbols ([c] :: later) := by
  rintro _ _ ⟨⟩
  exact ⟨c, member, mark, rfl⟩

/-- What begins with one of few symbols begins with one of more. -/
theorem Follows.mono {fewer : List Char} (follows : Follows fewer tokens)
    (included : ∀ c ∈ fewer, c ∈ symbols) : Follows symbols tokens := by
  intro token later form
  obtain ⟨c, member, mark, rfl⟩ := follows token later form
  exact ⟨c, included c member, mark, rfl⟩

/-- No symbol is a blank. -/
theorem isSpace_of_mark {c : Char} (mark : c ∈ marks) : isSpace c = false := by
  have each : marks.all (fun c => !isSpace c) = true := by decide
  exact (Bool.not_eq_true' _).mp (List.all_eq_true.mp each c mark)

/-- No symbol stands in a word, so a word ends before every symbol. -/
theorem isWordChar_of_mark {c : Char} (mark : c ∈ marks) : isWordChar c = false := by
  have each : marks.all (fun c => !isWordChar c) = true := by decide
  exact (Bool.not_eq_true' _).mp (List.all_eq_true.mp each c mark)

/-- A symbol begins with no blank. -/
theorem solid_mark {c : Char} (mark : c ∈ marks) : Solid [c] := ⟨c, [], rfl, isSpace_of_mark mark⟩

/-- A name begins with no blank. -/
theorem IsName.solid {w : List Char} (isName : IsName w) : Solid w := by
  obtain ⟨c, others, rfl, starts⟩ := isName.starts
  exact ⟨c, others, rfl, isSpace_of_isWordChar (isWordChar_of_isWordStart starts)⟩

/-- A literal is a token that begins with no blank. -/
theorem solid_literal {w : List Char} (written : IsLiteral w) : Solid w := by
  have keyword : ∀ {w}, isKeyword w = true → Solid w := by
    intro w known
    obtain ⟨c, others, rfl, starts⟩ := (letters_of_isKeyword known).1
    exact ⟨c, others, rfl, isSpace_of_isWordChar (isWordChar_of_isWordStart starts)⟩
  cases written with
  | null => exact keyword (by decide)
  | true => exact keyword (by decide)
  | false => exact keyword (by decide)
  | @integer numeral number =>
    obtain ⟨sign, signs, _, form⟩ := numeral.exists_sign
    obtain ⟨c, others, begins, _, solid⟩ := numeral_starts signs number []
    rw [List.append_nil, ← form] at begins
    exact ⟨c, others, begins, solid⟩
  | float decimal =>
    obtain ⟨signs, before, _, _⟩ := decimal
    obtain ⟨c, others, begins, _, solid⟩ := numeral_starts signs before _
    exact ⟨c, others, begins, solid⟩
  | @string quote written _ quotes _ =>
    exact ⟨quote, written ++ [quote], rfl, by rcases quotes with rfl | rfl <;> decide⟩

/-- No literal begins with a symbol. -/
theorem Grammar.literal_mark_eq_none {c : Char} (mark : c ∈ marks) (rest : List Char) :
    literal (c :: rest) = none := by
  have each : marks.all (fun c => !isWordStart c && c != '-' && !c.isDigit && c != '\'' && c != '"') = true := by
    decide
  have other := List.all_eq_true.mp each c mark
  simp only [Bool.and_eq_true, Bool.not_eq_true', bne_iff_ne, ne_eq] at other
  obtain ⟨⟨⟨⟨notStart, unsigned⟩, notDigit⟩, notSingle⟩, notDouble⟩ := other
  obtain ⟨notNull, notBoolean⟩ := words_eq_none notStart rest
  obtain ⟨notFloat, notInteger⟩ := numeral_eq_none unsigned notDigit rest
  simp [literal, notNull, notBoolean, notFloat, notInteger, string, notSingle, notDouble]

/-- What the reader of literals does not read is no literal. -/
theorem not_isLiteral_of_literal_eq_none {w : List Char} (unread : literal w = none) : ¬IsLiteral w := by
  intro written
  obtain ⟨lexeme, spelled⟩ := Lexeme.Spelled.of_isLiteral written 0
  have read := literal_append (spelled : lexeme.Spelled w ([] : List Char).length) stops_nil nofun
  rw [List.append_nil, unread] at read
  cases read

/-- No symbol is a literal. -/
theorem not_isLiteral_mark {c : Char} (mark : c ∈ marks) : ¬IsLiteral [c] :=
  not_isLiteral_of_literal_eq_none (literal_mark_eq_none mark [])

/-- No name is a literal. A keyword would be, but names are not keywords. -/
theorem IsName.not_isLiteral {w : List Char} (isName : IsName w) : ¬IsLiteral w := by
  have unread := literal_name_eq_none isName stops_nil
  rw [List.append_nil] at unread
  exact not_isLiteral_of_literal_eq_none unread

/-- A blank on its own is blanks. -/
theorem blanks_single {c : Char} (space : isSpace c = true) : Blanks [c] := by
  intro d member
  rwa [List.mem_singleton.mp member]

/-! ## Literals in their places -/

/-- A text begins with some tokens up to a rest, and the literals among them are those
given, each as it is read in its place. -/
inductive Placed : List (List Char) → List Lexeme → List Char → List Char → Prop
  | done {text : List Char} : Placed [] [] text text
  | blank {c : Char} {tokens : List (List Char)} {lexemes : List Lexeme} {text rest : List Char}
    (space : isSpace c = true) (more : Placed tokens lexemes text rest) :
    Placed tokens lexemes (c :: text) rest
  | other {w : List Char} {tokens : List (List Char)} {lexemes : List Lexeme} {text rest : List Char}
    (unread : ¬IsLiteral w) (more : Placed tokens lexemes text rest) :
    Placed (w :: tokens) lexemes (w ++ text) rest
  | literal {w : List Char} {lexeme : Lexeme} {tokens : List (List Char)} {lexemes : List Lexeme}
    {text rest : List Char} (spelled : lexeme.Spelled w text.length)
    (more : Placed tokens lexemes text rest) : Placed (w :: tokens) (lexeme :: lexemes) (w ++ text) rest

namespace Placed

variable {front back : List (List Char)} {lexemes further : List Lexeme} {middle : List Char}

/-- The literals among two runs of tokens are noted one after another. -/
theorem append (first : Placed front lexemes text middle) (second : Placed back further middle rest) :
    Placed (front ++ back) (lexemes ++ further) text rest := by
  induction first with
  | done => exact second
  | blank space _ ih => exact .blank space (ih second)
  | other unread _ ih => exact .other unread (ih second)
  | literal spelled _ ih => exact .literal spelled (ih second)

/-- Blanks before tokens make no difference. -/
theorem of_skip (placed : Placed tokens lexemes (skip text) rest) : Placed tokens lexemes text rest := by
  induction text with
  | nil => exact placed
  | cons c others ih =>
    by_cases space : isSpace c = true
    · rw [skip, List.dropWhile_cons_of_pos space] at placed
      exact .blank space (ih placed)
    · rwa [skip, List.dropWhile_cons_of_neg space] at placed

/-- A token that is no literal stands behind the blanks. -/
theorem of_unread {w : List Char} (unread : ¬IsLiteral w) (form : skip text = w ++ rest) :
    Placed [w] [] text rest := by
  refine of_skip ?_
  rw [form]
  exact .other unread .done

/-- A literal stands behind the blanks. -/
theorem of_spelled {w : List Char} {lexeme : Lexeme} (spelled : lexeme.Spelled w rest.length)
    (form : skip text = w ++ rest) : Placed [w] [lexeme] text rest := by
  refine of_skip ?_
  rw [form]
  exact .literal spelled .done

end Placed

/-! ## Tokens of a text -/

namespace Spread

/-- Behind its blanks a text begins with the first of its tokens. -/
theorem exists_of_cons {token : List Char} (spread : Spread (token :: later) text)
    (solid : Solid token) :
    ∃ rest, skip text = token ++ rest ∧ Spread later rest ∧ rest.length < text.length := by
  cases spread with
  | @token blanks _ _ rest blank spread =>
    obtain ⟨c, others, rfl, notSpace⟩ := solid
    refine ⟨rest, ?_, spread, by simp only [List.length_append, List.length_cons]; omega⟩
    rw [skip, List.dropWhile_append_of_pos blank, List.cons_append, List.dropWhile_cons_of_neg]
    simp [notSpace]

/-- Blanks before a text make no difference to its tokens. -/
theorem blanks_append {blanks : List Char} (blank : Blanks blanks) (spread : Spread tokens text) :
    Spread tokens (blanks ++ text) := by
  have both : ∀ more, Blanks more → Blanks (blanks ++ more) := by
    intro more moreBlank c member
    rcases List.mem_append.mp member with before | after
    · exact blank c before
    · exact moreBlank c after
  cases spread with
  | done moreBlank => exact .done (both _ moreBlank)
  | token moreBlank spread =>
    rw [← List.append_assoc]
    exact .token (both _ moreBlank) spread

/-- A text without tokens is blank. -/
theorem blanks (spread : Spread [] text) : Blanks text := by
  cases spread with
  | done blank => exact blank

/-- Nothing but blanks is left of a text without tokens. -/
theorem skip_eq_nil (spread : Spread [] text) : skip text = [] := by
  rw [← List.append_nil text, skip, List.dropWhile_append_of_pos spread.blanks]
  rfl

/-- Behind its blanks a text begins with a symbol that may stand there, or ends. -/
theorem mem_of_skip (spread : Spread later text) (follows : Follows symbols later) {c : Char}
    (front : skip text = c :: rest) : c ∈ symbols := by
  cases later with
  | nil =>
    rw [spread.skip_eq_nil] at front
    cases front
  | cons token more =>
    obtain ⟨d, member, mark, rfl⟩ := follows token more rfl
    obtain ⟨after, form, _, _⟩ := spread.exists_of_cons (solid_mark mark)
    rw [form] at front
    cases front
    exact member

/-- A text of tokens that may follow begins with a blank or a symbol, or is empty. -/
theorem front (spread : Spread later text) (follows : Follows symbols later) {c : Char}
    (form : text = c :: rest) : isSpace c = true ∨ c ∈ symbols ∧ c ∈ marks := by
  cases spread with
  | done blank => exact .inl (blank c (form ▸ List.mem_cons_self))
  | @token blanks token more _ blank _ =>
    cases blanks with
    | cons b others =>
      cases form
      exact .inl (blank _ List.mem_cons_self)
    | nil =>
      obtain ⟨d, member, mark, rfl⟩ := follows token more rfl
      cases form
      exact .inr ⟨member, mark⟩

/-- No word goes on where a symbol may stand. -/
theorem clear (spread : Spread later text) (follows : Follows symbols later) : Clear text := by
  intro c rest form
  rcases spread.front follows form with space | ⟨_, mark⟩
  · exact isWordChar_of_isSpace space
  · exact isWordChar_of_mark mark

/-- A symbol is read where it is the first token. -/
theorem symbol {c : Char} (mark : c ∈ marks) (spread : Spread ([c] :: later) text) :
    ∃ rest, character c (skip text) = some ((), rest) ∧ Placed [[c]] [] text rest ∧
      Spread later rest ∧ rest.length < text.length := by
  obtain ⟨rest, form, spread, shorter⟩ := spread.exists_of_cons (solid_mark mark)
  exact ⟨rest, character_eq_some_iff.mpr form, .of_unread (not_isLiteral_mark mark) form, spread, shorter⟩

/-- A symbol is not read where it may not stand. -/
theorem symbol_eq_none (spread : Spread later text) (follows : Follows symbols later) {c : Char}
    (absent : c ∉ symbols) : character c (skip text) = none :=
  character_eq_none fun _ form => absent (spread.mem_of_skip follows form)

/-- A name is read where it is the first token, and not as a literal. -/
theorem name {n : String} (isName : IsName n.toList) (spread : Spread (n.toList :: later) text)
    (follows : Follows symbols later) :
    ∃ rest, Token.name (skip text) = some (n, rest) ∧ literal (skip text) = none ∧
      Placed [n.toList] [] text rest ∧ Spread later rest ∧ rest.length < text.length := by
  obtain ⟨rest, form, spread, shorter⟩ := spread.exists_of_cons isName.solid
  have clear := spread.clear follows
  have placed := Placed.of_unread isName.not_isLiteral form
  rw [form]
  exact ⟨rest, name_eq_some_iff.mpr ⟨isName, rfl, clear⟩, literal_name_eq_none isName clear, placed,
    spread, shorter⟩

end Spread

/-- Texts one after the other are a text of their tokens one after the other. -/
theorem Spread.append {front back : List (List Char)} {before after : List Char}
    (first : Spread front before) (second : Spread back after) :
    Spread (front ++ back) (before ++ after) := by
  induction first with
  | done blank => exact second.blanks_append blank
  | token blank _ hypothesis =>
    rw [List.append_assoc, List.append_assoc]
    exact .token blank hypothesis

/-- Tokens without blanks are a text of them. -/
theorem Spread.flatten (tokens : List (List Char)) : Spread tokens tokens.flatten := by
  have blank : Blanks [] := nofun
  induction tokens with
  | nil => exact .done blank
  | cons token tokens ih =>
    rw [List.flatten_cons]
    exact .token blank ih

/-- A token on its own is a text of it. -/
theorem Spread.single (w : List Char) : Spread [w] w := by
  have spread := Spread.flatten [w]
  rwa [List.flatten_singleton] at spread

/-- A text begins with some tokens, and a rest of it goes on behind them. -/
def Begins (tokens : List (List Char)) (text rest : List Char) : Prop :=
  ∃ before, text = before ++ rest ∧ Spread tokens before

namespace Begins

variable {front back : List (List Char)} {middle : List Char}

/-- Tokens of a rest may be put behind the tokens read off before it. -/
theorem spread (begins : Begins tokens text rest) (spread : Spread later rest) :
    Spread (tokens ++ later) text := by
  obtain ⟨before, rfl, spread'⟩ := begins
  exact spread'.append spread

/-- No tokens are read off where nothing is. -/
theorem nil : Begins [] text text := ⟨[], rfl, .done nofun⟩

/-- One token is read off a text that it begins. -/
theorem token (w rest : List Char) : Begins [w] (w ++ rest) rest := ⟨w, rfl, .single w⟩

/-- Tokens are read off in turn. -/
theorem trans (first : Begins front text middle) (second : Begins back middle rest) :
    Begins (front ++ back) text rest := by
  obtain ⟨before, rfl, spread⟩ := first
  obtain ⟨between, rfl, spread'⟩ := second
  exact ⟨before ++ between, (List.append_assoc ..).symm, spread.append spread'⟩

/-- Blanks before tokens make no difference. -/
theorem of_skip (begins : Begins tokens (skip text) rest) : Begins tokens text rest := by
  obtain ⟨before, form, spread⟩ := begins
  have blank : Blanks (text.takeWhile isSpace) := List.all_eq_true.mp List.all_takeWhile
  refine ⟨text.takeWhile isSpace ++ before, ?_, spread.blanks_append blank⟩
  rw [List.append_assoc, ← form]
  exact List.takeWhile_append_dropWhile.symm

/-- A symbol that is read is a token of its own. -/
theorem symbol {c : Char} (read : character c text = some ((), rest)) : Begins [[c]] text rest := by
  rw [character_eq_some_iff.mp read]
  exact token [c] rest

/-- A name that is read is a token of its characters. -/
theorem name {n : String} (read : Token.name text = some (n, rest)) : Begins [n.toList] text rest := by
  rw [(name_eq_some_iff.mp read).2.1]
  exact token n.toList rest

end Begins

/-! ## Renderings of paths -/

/-- The tokens of two sequences are those of one after those of the other. -/
theorem Sequence.append {β : Type} {item : List (List Char) → β → Prop}
    {front back : List (List Char)} {xs ys : List β} (first : Sequence item front xs)
    (second : Sequence item back ys) : Sequence item (front ++ back) (xs ++ ys) := by
  induction first with
  | nil => exact second
  | cons one _ hypothesis =>
    rw [List.append_assoc]
    exact .cons one hypothesis

/-- Segments behind a rendered path render the longer path. -/
theorem Expr.RenderedBy.append {root : Root Literal} {segments further : List (Segment Literal)}
    {before after : List Char} (path : (Expr.path root segments).RenderedBy before)
    (steps : Segment.RenderedBy further after) :
    (Expr.path root (segments ++ further)).RenderedBy (before ++ after) := by
  obtain ⟨_, value, spread⟩ := path
  obtain ⟨tokens, sequence, spread'⟩ := steps
  cases value with
  | path start sequence' =>
    have whole := spread.append spread'
    rw [List.append_assoc] at whole
    exact ⟨_, .path start (sequence'.append sequence), whole⟩

/-- A name renders itself. -/
theorem IsName.rendered {name : String} (isName : IsName name.toList) :
    (Expr.path (.identifier name) []).RenderedBy name.toList :=
  ⟨[name.toList] ++ [], .path (.identifier isName) .nil, .single name.toList⟩

/-- A letter on its own is a name. -/
theorem isName_letter {c : Char} (starts : isWordStart c = true) : IsName [c] where
  starts := ⟨c, [], rfl, starts⟩
  continues := by
    intro d member
    rw [List.mem_singleton.mp member]
    exact isWordChar_of_isWordStart starts
  notKeyword := by simp [isKeyword]

end PropertyPath
