import PropertyPath.Proofs.Classification

/-!
# Quoted texts of a source

A text can be written between quotes in many ways: most characters raw or behind a backslash, as
the writer likes, and four of them by a letter. Every way is read as the text. In the other
direction, each string of an expression stands between quotes in its source, where its characters
decode to it from left to right.

Where a quoted text ends is a matter of counting. A quote belongs to the text if it is escaped,
which an odd number of backslashes right before it tells, so the text ends at the first quote with
an even number of them. The scan for levels, the rule of the grammar and the decoding of escapes
each read the characters on their own and all come to this place.
-/

namespace PropertyPath

open Token Grammar

/-! ## Ways to write a text -/

/-- The letters that a backslash does not leave as they are. -/
def escapeLetters : List Char := ['n', 't', 'r', '0']

/-- The ways to write a text between two of a quote, character by character: raw, unless it is the
quote or a backslash; behind a backslash, unless it is one of the letters; or by such a letter. -/
inductive Encoded (quote : Char) : List Char → List Char → Prop
  | nil : Encoded quote [] []
  | raw {c : Char} {written meant : List Char} (notQuote : c ≠ quote) (notEscape : c ≠ '\\')
    (rest : Encoded quote written meant) : Encoded quote (c :: written) (c :: meant)
  | itself {c : Char} {written meant : List Char} (unlettered : c ∉ escapeLetters)
    (rest : Encoded quote written meant) : Encoded quote ('\\' :: c :: written) (c :: meant)
  | lineFeed {written meant : List Char} (rest : Encoded quote written meant) :
    Encoded quote ('\\' :: 'n' :: written) ('\n' :: meant)
  | tab {written meant : List Char} (rest : Encoded quote written meant) :
    Encoded quote ('\\' :: 't' :: written) ('\t' :: meant)
  | carriageReturn {written meant : List Char} (rest : Encoded quote written meant) :
    Encoded quote ('\\' :: 'r' :: written) ('\r' :: meant)
  | nul {written meant : List Char} (rest : Encoded quote written meant) :
    Encoded quote ('\\' :: '0' :: written) ('\x00' :: meant)

variable {quote : Char} {written meant : List Char}

/-- A character that is none of the letters stands for itself behind a backslash. -/
theorem unescape_of_not_mem {c : Char} (unlettered : c ∉ escapeLetters) : unescape c = c := by
  simp only [escapeLetters, List.mem_cons, List.not_mem_nil, or_false, not_or] at unlettered
  obtain ⟨notFeed, notTab, notReturn, notNul⟩ := unlettered
  simp only [unescape, notFeed, notTab, notReturn, notNul, if_false]

/-- The ways to write a text are what the grammar takes between quotes. -/
theorem encoded_iff : Encoded quote written meant ↔ QuotedText quote written meant := by
  constructor
  · intro encoded
    induction encoded with
    | nil => exact .nil
    | raw notQuote notEscape _ ih => exact .plain notQuote notEscape ih
    | @itself c _ _ unlettered _ ih =>
      -- an escape without a meaning of its own stands for the character
      have escaped := QuotedText.escape (c := c) ih
      rwa [unescape_of_not_mem unlettered] at escaped
    | lineFeed _ ih | tab _ ih | carriageReturn _ ih | nul _ ih => exact .escape ih
  · intro body
    induction body with
    | nil => exact .nil
    | plain notQuote notEscape _ ih => exact .raw notQuote notEscape ih
    | @escape c _ _ _ ih =>
      -- the letters with a meaning are four, and each is one way to write
      by_cases lettered : c ∈ escapeLetters
      · simp only [escapeLetters, List.mem_cons, List.not_mem_nil, or_false] at lettered
        obtain rfl | rfl | rfl | rfl := lettered
        · exact .lineFeed ih
        · exact .tab ih
        · exact .carriageReturn ih
        · exact .nul ih
      · rw [unescape_of_not_mem lettered]
        exact .itself lettered ih

/-- Every text can be written, its quotes and backslashes escaped. -/
theorem exists_encoded (quotes : quote = '\'' ∨ quote = '"') (meant : List Char) :
    ∃ written, Encoded quote written meant := by
  have unlettered : quote ∉ escapeLetters ∧ '\\' ∉ escapeLetters := by
    rcases quotes with rfl | rfl <;> decide
  induction meant with
  | nil => exact ⟨[], .nil⟩
  | cons c meant ih =>
    obtain ⟨written, encoded⟩ := ih
    by_cases isQuote : c = quote
    · rw [isQuote]
      exact ⟨_, .itself unlettered.1 encoded⟩
    by_cases isEscape : c = '\\'
    · rw [isEscape]
      exact ⟨_, .itself unlettered.2 encoded⟩
    · exact ⟨_, .raw isQuote isEscape encoded⟩

/-! ## The end of a quoted text -/

/-- How many backslashes stand at the end of a text. -/
def backslashes (text : List Char) : Nat := (text.reverse.takeWhile (· = '\\')).length

/-- What follows a text is escaped by the last of an odd number of backslashes. -/
def Escapes (text : List Char) : Prop := backslashes text % 2 = 1

/-- The first quote that is not escaped stands right behind a text. -/
structure EndsAtQuote (quote : Char) (body : List Char) : Prop where
  unescaped : ¬Escapes body
  earlier : ∀ start later, body = start ++ quote :: later → Escapes start

/-- The backslashes at the end go on into what is before a text only if it has nothing else. -/
theorem backslashes_append (front text : List Char) :
    backslashes text = text.length ∧ backslashes (front ++ text) = text.length + backslashes front ∨
      backslashes (front ++ text) = backslashes text := by
  simp only [backslashes, List.reverse_append, List.takeWhile_append, List.length_reverse]
  by_cases only : (text.reverse.takeWhile (· = '\\')).length = text.length
  · rw [if_pos only, List.length_append, List.length_reverse]
    exact .inl ⟨only, rfl⟩
  · rw [if_neg only]
    exact .inr rfl

/-- What is no backslash makes no difference to what follows the text behind it. -/
theorem escapes_cons_iff {c : Char} (notEscape : c ≠ '\\') (text : List Char) :
    Escapes (c :: text) ↔ Escapes text := by
  have alone : backslashes [c] = 0 := by simp [backslashes, notEscape]
  have joined := backslashes_append [c] text
  rw [alone, List.singleton_append] at joined
  rw [Escapes, Escapes]
  omega

/-- Nor do a backslash and the character that it escapes. -/
theorem escapes_pair_iff (c : Char) (text : List Char) : Escapes ('\\' :: c :: text) ↔ Escapes text := by
  have pair : backslashes ['\\', c] % 2 = 0 := by
    by_cases isEscape : c = '\\' <;> simp [backslashes, isEscape]
  have joined := backslashes_append ['\\', c] text
  rw [List.cons_append, List.singleton_append] at joined
  rw [Escapes, Escapes]
  omega

/-- A quoted text ends at the first quote that is not escaped. -/
theorem QuotedText.endsAtQuote (plain : quote ≠ '\\') (body : QuotedText quote written meant) :
    EndsAtQuote quote written := by
  induction body with
  | nil =>
    refine ⟨by simp [Escapes, backslashes], fun start later form => ?_⟩
    simp at form
  | @plain c written _ notQuote notEscape _ ih =>
    refine ⟨fun escapes => ih.unescaped ((escapes_cons_iff notEscape _).mp escapes), ?_⟩
    intro start later form
    cases start with
    | nil => exact absurd (List.cons.inj form).1 notQuote
    | cons first start =>
      obtain ⟨rfl, behind⟩ := List.cons.inj form
      exact (escapes_cons_iff notEscape start).mpr (ih.earlier start later behind)
  | @escape c written _ _ ih =>
    refine ⟨fun escapes => ih.unescaped ((escapes_pair_iff c _).mp escapes), ?_⟩
    intro start later form
    -- the quote is not the backslash, may be what it escapes, or stands behind both
    cases start with
    | nil => exact absurd (List.cons.inj form).1.symm plain
    | cons first start =>
      obtain ⟨escape, behind⟩ := List.cons.inj form
      rw [← escape]
      cases start with
      | nil => simp [Escapes, backslashes]
      | cons second start =>
        obtain ⟨rfl, further⟩ := List.cons.inj behind
        exact (escapes_pair_iff c start).mpr (ih.earlier start later further)

/-! ## Strings in their places -/

namespace Placed

variable {tokens : List (List Char)} {lexemes first others : List Lexeme} {lexeme : Lexeme}
  {text rest : List Char}

/-- Tokens in their places are a text in front of the rest. -/
theorem begins (placed : Placed tokens lexemes text rest) : Begins tokens text rest := by
  induction placed with
  | done => exact .nil
  | @blank c _ _ text _ space _ ih =>
    obtain ⟨before, form, spread⟩ := ih
    exact ⟨c :: before, by rw [form, List.cons_append], spread.blanks_append (blanks_single space)⟩
  | other _ _ ih => exact (Begins.token _ _).trans ih
  | literal _ _ ih => exact (Begins.token _ _).trans ih

/-- Every literal that was read was read at one of the tokens. -/
theorem exists_place (placed : Placed tokens lexemes text rest) (member : lexeme ∈ lexemes) :
    ∃ front w back before after, tokens = front ++ w :: back ∧ text = before ++ (w ++ after) ∧
      lexeme.Spelled w after.length ∧ Spread front before ∧ Begins back after rest := by
  induction placed with
  | done => cases member
  | @blank c _ _ _ _ space _ ih =>
    obtain ⟨front, w, back, before, after, form, rfl, spelled, spread, begins⟩ := ih member
    exact ⟨front, w, back, c :: before, after, form, rfl, spelled,
      spread.blanks_append (blanks_single space), begins⟩
  | @other v _ _ _ _ _ _ ih =>
    obtain ⟨front, w, back, before, after, rfl, rfl, spelled, spread, begins⟩ := ih member
    exact ⟨v :: front, w, back, v ++ before, after, rfl, by simp, spelled,
      Spread.append (.single v) spread, begins⟩
  | @literal v _ tokens _ after _ spelled placed ih =>
    rcases List.mem_cons.mp member with rfl | later
    · exact ⟨[], v, tokens, [], after, rfl, rfl, spelled, .done nofun, placed.begins⟩
    · obtain ⟨front, w, back, before, after, rfl, rfl, spelled, spread, begins⟩ := ih later
      exact ⟨v :: front, w, back, v ++ before, after, rfl, by simp, spelled,
        Spread.append (.single v) spread, begins⟩

end Placed

/-- A string stands between quotes in a source, behind some tokens and in front of others: the
characters between the quotes are a way to write it, they are decoded to it, and the text ends at
its first quote that is not escaped. -/
structure StringAt (source : List Char) (front back : List (List Char)) (quote : Char)
    (body : List Char) (t : String) : Prop where
  quotes : quote = '\'' ∨ quote = '"'
  encoded : Encoded quote body t.toList
  decoded : ParseTree.unescaped body = some t.toList
  ends : EndsAtQuote quote body
  placed : ∃ before after, source = before ++ quote :: (body ++ quote :: after) ∧
    Spread front before ∧ Spread back after

/-- A quoted text between tokens is a string in its place. -/
theorem QuotedText.stringAt {before after : List Char} {front back : List (List Char)}
    (body : QuotedText quote written meant) (quotes : quote = '\'' ∨ quote = '"')
    (spread : Spread front before) (spread' : Spread back after) :
    StringAt (before ++ (quote :: (written ++ [quote]) ++ after)) front back quote written
      (String.ofList meant) where
  quotes := quotes
  encoded := by
    rw [String.toList_ofList]
    exact encoded_iff.mpr body
  decoded := by
    rw [String.toList_ofList]
    exact ParseTree.unescaped_written body
  ends := body.endsAtQuote (by rcases quotes with rfl | rfl <;> decide)
  placed := ⟨before, after, by simp, spread, spread'⟩

namespace Expr

variable {source : List Char} {e : Expr Literal}

/-- The tokens of an accepted source spell its expression, and its literals were read at them. -/
theorem placed_of_read (read : Expr.read source = .ok e) :
    ∃ (tokens : List (List Char)) (lexemes : List Lexeme) (rest : List Char),
      Expr.Spelled Literal.Spelled tokens e ∧ Spread tokens source ∧
      Placed tokens lexemes source rest ∧ Blanks rest ∧
      ∀ l, l ∈ e.literals ↔ ∃ lexeme ∈ lexemes, lexeme.literal source = .ok l := by
  obtain ⟨⟨tokens, value, spread⟩, shallow⟩ := read_eq_ok_iff.mp read
  obtain ⟨_, rest, _, meant, placed, blank⟩ :=
    expression?_of_spread (Literal.lexicon source) shallow value spread
  exact ⟨tokens, _, rest, value, spread, placed, blank, fun _ => mem_literals_traverse meant⟩

/-- The strings of an accepted source are those between quotes at some of its tokens. -/
theorem strings_of_read (read : Expr.read source = .ok e) :
    ∃ tokens, Expr.Spelled Literal.Spelled tokens e ∧ Spread tokens source ∧
      ∀ t, .string t ∈ e.literals ↔ ∃ front quote body back,
        tokens = front ++ (quote :: (body ++ [quote])) :: back ∧ StringAt source front back quote body t := by
  obtain ⟨tokens, lexemes, rest, value, spread, placed, blank, literals⟩ := placed_of_read read
  refine ⟨tokens, value, spread, fun t => ?_⟩
  rw [literals]
  constructor
  · rintro ⟨lexeme, member, meant⟩
    obtain ⟨front, w, back, before, after, rfl, rfl, spelled, ahead, begins⟩ := placed.exists_place member
    -- only blanks are left behind the last token
    have behind := begins.spread (.done blank)
    rw [List.append_nil] at behind
    cases spelled.literal meant with
    | @string quote body _ quotes quoted =>
      exact ⟨front, quote, body, back, rfl, quoted.stringAt quotes ahead behind⟩
  · rintro ⟨front, quote, body, back, rfl, found⟩
    -- a string spells one lexeme, wherever it stands
    have spells : ∀ remaining, Lexeme.Spelled (quote :: (body ++ [quote])) remaining
        (.string (String.ofList t.toList)) :=
      fun _ => .string found.quotes (encoded_iff.mp found.encoded)
    obtain ⟨first, lexeme, others, _, after, rfl, _, spelled, _⟩ :=
      placed.split (spells 0).isLiteral
    refine ⟨lexeme, List.mem_append_right first List.mem_cons_self, ?_⟩
    rw [spelled.unique (spells after.length), String.ofList_toList]
    rfl

/-- Every way to write a text between quotes is read as the text, alone and as the index of a
name. In the other direction, the strings of an accepted source are those that stand between quotes
at its tokens: the characters between the quotes are a way to write the string, they are decoded
to it, and the first quote that is not escaped ends them. Every text can be written between quotes
of either kind.

Proof: the encodings of a text are the spellings of its literal, so reading takes them back,
alone or as an index. Conversely an accepted source is spelled by its tokens, and a string among
the literals comes from one token. -/
theorem strings_round_trip :
    (∀ quote, quote = '\'' ∨ quote = '"' →
      (∀ meant, ∃ written, Encoded quote written meant) ∧
      ∀ written meant, Encoded quote written meant →
        Expr.parse (String.ofList (quote :: (written ++ [quote]))) =
          .ok (.literal (.string (String.ofList meant))) ∧
        ∀ name : String, IsName name.toList →
          Expr.parse (name ++ "[" ++ String.ofList (quote :: (written ++ [quote])) ++ "]") =
            .ok (.path (.identifier name) [.index (.literal (.string (String.ofList meant)))])) ∧
    ∀ source e, Expr.parse source = .ok e → ∃ tokens,
      Expr.Spelled Literal.Spelled tokens e ∧ Spread tokens source.toList ∧
      ∀ t, .string t ∈ e.literals ↔ ∃ front quote body back,
        tokens = front ++ (quote :: (body ++ [quote])) :: back ∧
        StringAt source.toList front back quote body t := by
  refine ⟨fun quote quotes => ⟨exists_encoded quotes, fun written meant encoded => ?_⟩,
    fun source e read => strings_of_read read⟩
  have spelled : Literal.Spelled (quote :: (written ++ [quote])) (.string (String.ofList meant)) :=
    .string quotes (encoded_iff.mp encoded)
  constructor
  · rw [Expr.parse, String.toList_ofList]
    exact read_literal spelled
  · intro name isName
    have spread := Spread.flatten [['['], quote :: (written ++ [quote]), [']']]
    have step : Segment.RenderedBy [.index (.literal (.string (String.ofList meant)))] _ :=
      ⟨_, .cons (.index (.literal spelled)) .nil, spread⟩
    -- an index nests one level deep, which is within the limit
    have whole := read_eq_ok_iff.mpr ⟨isName.rendered.append step, by simp [depth, Root.depth,
      Segment.depthOf, Segment.depth, Nesting.limit]⟩
    simpa [Expr.parse] using whole

end Expr

/-- A text with a quote, open brackets and a backslash at its end, as an index. -/
theorem index_of_escaped_text :
    Encoded '\'' "it\\'s [(\\\\".toList "it's [(\\".toList ∧
      Expr.parse "a['it\\'s [(\\\\']" = .ok (.path (.identifier "a") [.index (.literal (.string "it's [(\\"))]) := by
  have encoded : Encoded '\'' "it\\'s [(\\\\".toList "it's [(\\".toList :=
    .raw (by decide) (by decide) <| .raw (by decide) (by decide) <| .itself (by decide) <|
    .raw (by decide) (by decide) <| .raw (by decide) (by decide) <| .raw (by decide) (by decide) <|
    .raw (by decide) (by decide) <| .itself (by decide) .nil
  have isName : IsName "a".toList := isName_letter (by decide : isWordStart 'a' = true)
  exact ⟨encoded, ((Expr.strings_round_trip.1 '\'' (.inl rfl)).2 _ _ encoded).2 "a" isName⟩

end PropertyPath
