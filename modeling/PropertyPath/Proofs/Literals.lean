import PropertyPath.Proofs.Tokens
import PropertyPath.Syntax.Source

/-!
# Reading literals

A literal is read exactly where one is spelled, integers of any size among them. The order
in which literals are tried costs nothing. Words, numerals and quoted texts differ in their
first characters, and an integer is told apart from a decimal by the point, which may not
follow an integer. What is read means the literal that is spelled there, integers of more
than 64 bits aside.
-/

namespace PropertyPath

open Reader Token

variable {text rest : List Char}

/-- The integers of 64 bits are those that a word holds. -/
theorem Reading.toInt64_eq_ok_iff {i : Int} {n : Int64} : toInt64 i = .ok n ↔ i = n.toInt := by
  unfold toInt64
  constructor
  · intro inside
    split at inside
    · cases inside
    · split at inside
      · cases inside
      next low high =>
        cases inside
        have small := Int.lt_of_le_of_lt (Int.not_lt.mp high) (by decide : (_ : Int) < 2 ^ 63)
        exact (Int64.toInt_ofInt_of_le (Int.not_lt.mp low) small).symm
  · rintro rfl
    rw [if_neg (Int.not_lt.mpr n.minValue_le_toInt), if_neg (Int.not_lt.mpr n.toInt_le),
      Int64.ofInt_toInt]

namespace Grammar

/-- A text that does not begin like a word begins with no literal that is a word. -/
theorem words_eq_none {c : Char} (other : isWordStart c = false) (others : List Char) :
    keyword "null" (c :: others) = none ∧ boolean (c :: others) = none := by
  have notNull : keyword "null" (c :: others) = none := keyword_eq_none (by decide) other others
  have notTrue : keyword "true" (c :: others) = none := keyword_eq_none (by decide) other others
  have notFalse : keyword "false" (c :: others) = none := keyword_eq_none (by decide) other others
  exact ⟨notNull, by simp only [boolean, notTrue, notFalse, Option.map_none]⟩

/-- A numeral begins neither like a word nor with a blank. -/
theorem numeral_starts {sign ds : List Char} (signs : sign = [] ∨ sign = ['-']) (number : Digits ds)
    (rest : List Char) :
    ∃ c others, sign ++ (ds ++ rest) = c :: others ∧ isWordStart c = false ∧ isSpace c = false := by
  rcases signs with rfl | rfl
  · obtain ⟨d, more, rfl, digit⟩ := number.exists_cons
    refine ⟨d, more ++ rest, rfl, Bool.eq_false_iff.mpr fun starts => ?_,
      isSpace_of_isWordChar (isWordChar_of_isDigit digit)⟩
    rw [isDigit_of_isWordStart starts] at digit
    cases digit
  · exact ⟨'-', ds ++ rest, rfl, by decide, by decide⟩

/-- An integer means a literal exactly if it is of 64 bits. -/
theorem literal_integer_eq_ok_iff {numeral : Numeral} {remaining : Nat} {source : List Char}
    {l : Literal} : (Lexeme.integer numeral remaining).literal source = .ok l ↔
      ∃ n, numeral.value = Int64.toInt n ∧ l = .integer n := by
  simp only [Lexeme.literal]
  constructor
  · intro meant
    split at meant
    next n inside =>
      cases meant
      exact ⟨n, Reading.toInt64_eq_ok_iff.mp inside, rfl⟩
    next => cases meant
  · rintro ⟨n, denotes, rfl⟩
    rw [Reading.toInt64_eq_ok_iff.mpr denotes]

/-- What means no literal is an integer of more than 64 bits. -/
theorem literal_eq_error_iff {lexeme : Lexeme} {source : List Char} {f : SyntaxFailure} :
    lexeme.literal source = .error f ↔ ∃ numeral remaining excess,
      lexeme = .integer numeral remaining ∧ Reading.toInt64 numeral.value = .error excess ∧
      f = ⟨source, source.length - remaining - numeral.text.length, some numeral.text.length,
        .integerOutOfRange (String.ofList numeral.text) excess⟩ := by
  constructor
  · intro rejected
    cases lexeme with
    | integer numeral remaining =>
      simp only [Lexeme.literal] at rejected
      split at rejected
      next => cases rejected
      next excess outside =>
        cases rejected
        exact ⟨numeral, remaining, excess, rfl, outside, rfl⟩
    -- the other lexemes have their meaning in themselves
    | null => cases rejected
    | boolean b => cases rejected
    | float x => cases rejected
    | string s => cases rejected
  · rintro ⟨numeral, remaining, excess, rfl, outside, rfl⟩
    simp only [Lexeme.literal, outside]

/-- An integer is read as a literal if no word and no point follows. Behind a point it would be
taken for a decimal. -/
theorem literal_integer_append {numeral : Numeral} (number : Digits numeral.digits)
    (clear : Clear rest) (pointless : ∀ after, rest ≠ '.' :: after) :
    literal (numeral.text ++ rest) = some (.integer numeral rest.length, rest) := by
  have notFloat := float_integer_eq_none number clear pointless
  have read := integer_eq_some_iff.mpr ⟨number, Eq.refl (numeral.text ++ rest), clear⟩
  obtain ⟨sign, signs, _, form⟩ := numeral.exists_sign
  obtain ⟨c, others, begins, other, _⟩ := numeral_starts signs number rest
  obtain ⟨notNull, notBoolean⟩ := words_eq_none other others
  rw [form, List.append_assoc, begins] at notFloat read ⊢
  simp only [literal, notNull, notBoolean, notFloat, read]

/-- A decimal is read as a literal if no word follows. -/
theorem literal_float_append {w : List Char} {x : Float} (decimal : Decimal w)
    (denotes : Reading.float? w = some x) (clear : Clear rest) :
    literal (w ++ rest) = some (.float x, rest) := by
  obtain ⟨y, read, meant⟩ := float_append decimal clear
  cases meant.symm.trans denotes
  obtain @⟨sign, whole, fraction, scale, signs, before, _, _⟩ := decimal
  obtain ⟨c, others, begins, other, _⟩ :=
    numeral_starts signs before ('.' :: (fraction ++ scale) ++ rest)
  obtain ⟨notNull, notBoolean⟩ := words_eq_none other others
  simp only [List.append_assoc] at read begins ⊢
  rw [begins] at read ⊢
  simp only [literal, notNull, notBoolean, read]

/-- A quoted text is read as a string, whatever follows its closing quote. -/
theorem literal_string_append {quote : Char} {written meant : List Char}
    (quotes : quote = '\'' ∨ quote = '"') (body : QuotedText quote written meant) (rest : List Char) :
    literal (quote :: (written ++ [quote]) ++ rest) = some (.string (String.ofList meant), rest) := by
  have other : isWordStart quote = false ∧ quote ≠ '-' ∧ quote.isDigit = false := by
    rcases quotes with rfl | rfl <;> decide
  obtain ⟨notNull, notBoolean⟩ := words_eq_none other.1 (written ++ [quote] ++ rest)
  obtain ⟨notFloat, notInteger⟩ := numeral_eq_none other.2.1 other.2.2 (written ++ [quote] ++ rest)
  have read := string_eq_some_iff.mpr
    ⟨quote, written, quotes, (String.toList_ofList (l := meant)).symm ▸ body, Eq.refl (_ ++ rest)⟩
  rw [List.cons_append] at read ⊢
  simp only [literal, notNull, notBoolean, notFloat, notInteger, read, Option.map_some]

/-! ## Spellings of lexemes -/

/-- The spellings of what is read as a literal. An integer tells how much text stands behind it. -/
inductive Lexeme.Spelled : List Char → Nat → Lexeme → Prop
  | null {remaining : Nat} : Spelled "null".toList remaining .null
  | true {remaining : Nat} : Spelled "true".toList remaining (.boolean true)
  | false {remaining : Nat} : Spelled "false".toList remaining (.boolean false)
  | integer {numeral : Numeral} {remaining : Nat} (number : Digits numeral.digits) :
    Spelled numeral.text remaining (.integer numeral remaining)
  | float {text : List Char} {x : Float} {remaining : Nat} (decimal : Decimal text)
    (denotes : Reading.float? text = some x) : Spelled text remaining (.float x)
  | string {quote : Char} {written meant : List Char} {remaining : Nat}
    (quotes : quote = '\'' ∨ quote = '"') (body : QuotedText quote written meant) :
    Spelled (quote :: (written ++ [quote])) remaining (.string (String.ofList meant))

/-- A literal is read to its end. -/
theorem literal_append {w : List Char} {lexeme : Lexeme} (spelled : lexeme.Spelled w rest.length)
    (clear : Clear rest) (pointless : ∀ after, rest ≠ '.' :: after) :
    literal (w ++ rest) = some (lexeme, rest) := by
  have whole : ∀ k : String, isKeyword k.toList = true → keyword k (k.toList ++ rest) = some ((), rest) :=
    fun k known => (keyword_eq_some_iff known).mpr ⟨rfl, clear⟩
  -- two keywords are never taken for each other, since a keyword is read as a whole word
  have other : ∀ k k' : String, isKeyword k.toList = true → k.toList ≠ k'.toList →
      keyword k' (k.toList ++ rest) = none :=
    fun k k' known differs => keyword_append_eq_none (letters_of_isKeyword known).2 clear differs
  cases spelled with
  | null =>
    have read := whole "null" (by decide)
    simp only [literal, read]
  | true =>
    have notNull := other "true" "null" (by decide) (by decide)
    have read := whole "true" (by decide)
    simp only [literal, notNull, boolean, read]
  | false =>
    have notNull := other "false" "null" (by decide) (by decide)
    have notTrue := other "false" "true" (by decide) (by decide)
    have read := whole "false" (by decide)
    simp only [literal, notNull, boolean, notTrue, read, Option.map_some]
  | integer number => exact literal_integer_append number clear pointless
  | float decimal denotes => exact literal_float_append decimal denotes clear
  | string quotes body => exact literal_string_append quotes body rest

/-- What is read as a keyword is its characters. -/
theorem keyword_spells {k : String} {u : Unit} (known : isKeyword k.toList = true)
    (read : keyword k text = some (u, rest)) : text = k.toList ++ rest :=
  ((keyword_eq_some_iff known).mp read).1

/-- What is read as a truth value is one of the two words. -/
theorem boolean_spells {b : Bool} {remaining : Nat} (read : boolean text = some (b, rest)) :
    ∃ w, Lexeme.Spelled w remaining (.boolean b) ∧ text = w ++ rest := by
  unfold boolean at read
  split at read
  next after found =>
    cases read
    exact ⟨_, .true, keyword_spells (by decide) found⟩
  next =>
    simp only [Option.map_eq_some_iff, Prod.exists, Prod.mk.injEq] at read
    obtain ⟨_, _, found, rfl, rfl⟩ := read
    exact ⟨_, .false, keyword_spells (by decide) found⟩

/-- What is read as a literal is one. -/
theorem literal_spells {lexeme : Lexeme} (read : literal text = some (lexeme, rest)) :
    ∃ w, lexeme.Spelled w rest.length ∧ text = w ++ rest := by
  unfold literal at read
  -- in the order of the grammar: what is not one kind of literal may be the next
  split at read
  next found =>
    cases read
    exact ⟨_, .null, keyword_spells (by decide) found⟩
  split at read
  next b after found =>
    cases read
    exact boolean_spells found
  split at read
  next x after found =>
    cases read
    obtain ⟨w, decimal, form, denotes⟩ := float_spells found
    exact ⟨w, .float decimal denotes, form⟩
  split at read
  next numeral after found =>
    cases read
    obtain ⟨number, form, _⟩ := integer_eq_some_iff.mp found
    exact ⟨_, .integer number, form⟩
  next =>
    simp only [Option.map_eq_some_iff, Prod.exists, Prod.mk.injEq] at read
    obtain ⟨s, after, found, rfl, rfl⟩ := read
    obtain ⟨quote, written, quotes, body, form⟩ := string_eq_some_iff.mp found
    have spelled : Lexeme.Spelled _ after.length (.string (String.ofList s.toList)) := .string quotes body
    rw [String.ofList_toList] at spelled
    exact ⟨_, spelled, form⟩

namespace Lexeme.Spelled

variable {w : List Char} {lexeme : Lexeme} {remaining : Nat} {l : Literal}

/-- What is read as a literal is written as one. -/
theorem isLiteral (spelled : lexeme.Spelled w remaining) : IsLiteral w := by
  cases spelled with
  | null => exact .null
  | true => exact .true
  | false => exact .false
  | integer number => exact .integer number
  | float decimal _ => exact .float decimal
  | string quotes body => exact .string quotes body

/-- Whatever is written as a literal is read as one. -/
theorem of_isLiteral (written : IsLiteral w) (remaining : Nat) : ∃ lexeme, Spelled w remaining lexeme := by
  cases written with
  | null => exact ⟨_, .null⟩
  | true => exact ⟨_, .true⟩
  | false => exact ⟨_, .false⟩
  | integer number => exact ⟨_, .integer number⟩
  | float decimal =>
    obtain ⟨_, _, denotes⟩ := float_append decimal (stops_nil : Clear [])
    exact ⟨_, .float decimal denotes⟩
  | string quotes body => exact ⟨_, .string quotes body⟩

/-- A lexeme spells the literal that it means. -/
theorem literal {source : List Char} (spelled : lexeme.Spelled w remaining)
    (meant : lexeme.literal source = .ok l) : Literal.Spelled w l := by
  cases spelled with
  | null => cases meant; exact .null
  | true => cases meant; exact .true
  | false => cases meant; exact .false
  | integer number =>
    obtain ⟨n, denotes, rfl⟩ := literal_integer_eq_ok_iff.mp meant
    exact .integer number denotes
  | float decimal denotes => cases meant; exact .float decimal denotes
  | string quotes body => cases meant; exact .string quotes body

/-- The spelling of a literal is one of a lexeme that means it. -/
theorem of_literal (spelled : Literal.Spelled w l) (source : List Char) (remaining : Nat) :
    ∃ lexeme, Spelled w remaining lexeme ∧ lexeme.literal source = .ok l := by
  cases spelled with
  | null => exact ⟨_, .null, rfl⟩
  | true => exact ⟨_, .true, rfl⟩
  | false => exact ⟨_, .false, rfl⟩
  | integer number denotes => exact ⟨_, .integer number, literal_integer_eq_ok_iff.mpr ⟨_, denotes, rfl⟩⟩
  | float decimal denotes => exact ⟨_, .float decimal denotes, rfl⟩
  | string quotes body => exact ⟨_, .string quotes body, rfl⟩

end Lexeme.Spelled

/-! ## Names and literals -/

/-- A name is no literal. -/
theorem literal_name_eq_none {w : List Char} (isName : IsName w) (clear : Clear rest) :
    literal (w ++ rest) = none := by
  have notKeyword : ∀ k : String, isKeyword k.toList = true → keyword k (w ++ rest) = none := by
    intro k known
    refine keyword_append_eq_none isName.continues clear ?_
    rintro rfl
    rw [isName.notKeyword] at known
    cases known
  have notBoolean : boolean (w ++ rest) = none := by
    simp only [boolean, notKeyword "true" (by decide), notKeyword "false" (by decide), Option.map_none]
  have notNull := notKeyword "null" (by decide)
  obtain ⟨first, others, rfl, starts⟩ := isName.starts
  -- what begins a name begins neither a numeral nor a string
  have differs : ∀ c, isWordStart c = false → first ≠ c := by
    rintro c other rfl
    rw [starts] at other
    cases other
  obtain ⟨notFloat, notInteger⟩ := numeral_eq_none (differs '-' (by decide))
    (isDigit_of_isWordStart starts) (others ++ rest)
  have notString : string (first :: (others ++ rest)) = none := by
    simp [string, differs '\'' (by decide), differs '"' (by decide)]
  rw [List.cons_append] at notNull notBoolean ⊢
  simp only [literal, notNull, notBoolean, notFloat, notInteger, notString, Option.map_none]

end Grammar

end PropertyPath
