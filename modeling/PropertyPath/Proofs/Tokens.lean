import PropertyPath.Proofs.Rendering

/-!
# Reading tokens

Every reader of a token reads exactly the spellings of that token. A spelling that stands
before a text which does not go on with it is read as it is meant, and reading stops
where the spelling ends; what a reader takes off a text is a spelling.
-/

namespace PropertyPath

open Reader Token

variable {text rest : List Char}

/-! ## Longest runs -/

/-- No character of a class stands at the front of a text. -/
def Stops (p : Char → Bool) (text : List Char) : Prop := ∀ c rest, text = c :: rest → p c = false

/-- No word goes on at the front of a text. -/
abbrev Clear (text : List Char) : Prop := Stops isWordChar text

/-- At the end of a text every run stops. No character is there to go on with it. -/
theorem stops_nil {p : Char → Bool} : Stops p [] := nofun

/-- A run stops before a character outside its class. -/
theorem stops_cons {p : Char → Bool} {c : Char} (outside : p c = false) (rest : List Char) :
    Stops p (c :: rest) := by
  rintro _ _ ⟨⟩
  exact outside

/-- A run reaches as far as its characters and stops at the first other one. -/
theorem Reader.run_eq_iff {p : Char → Bool} {front : List Char} :
    run p text = (front, rest) ↔ text = front ++ rest ∧ (∀ c ∈ front, p c = true) ∧ Stops p rest := by
  constructor
  · intro ran
    cases ran
    refine ⟨List.takeWhile_append_dropWhile.symm, List.all_eq_true.mp List.all_takeWhile, ?_⟩
    intro c after found
    have first := List.head?_dropWhile_not p text
    rw [found] at first
    simpa using first
  · rintro ⟨rfl, inside, stops⟩
    rw [run, List.takeWhile_append_of_pos inside, List.dropWhile_append_of_pos inside]
    cases rest with
    | nil => simp
    | cons c after => simp [stops c after rfl]

/-- A given character is read exactly where it stands. -/
theorem Reader.character_eq_some_iff {c : Char} : character c text = some ((), rest) ↔ text = c :: rest := by
  cases text with
  | nil => simp [character]
  | cons first others =>
    by_cases same : first = c
    · simp [character, same]
    · simp [character, same]

/-- A given character is not read where another stands, or none. With the lemma before, this says
all there is to know about reading one character. -/
theorem Reader.character_eq_none {c : Char} (absent : ∀ after, text ≠ c :: after) :
    character c text = none := by
  cases text with
  | nil => rfl
  | cons first others =>
    have differs : first ≠ c := fun same => absent others (same ▸ rfl)
    simp [character, differs]

/-- The first character of digits is a digit. -/
theorem Digits.exists_cons {ds : List Char} (number : Digits ds) :
    ∃ d more, ds = d :: more ∧ d.isDigit = true := by
  cases ds with
  | nil => exact absurd rfl number.nonempty
  | cons d more => exact ⟨d, more, rfl, number.each d List.mem_cons_self⟩

namespace Token

/-! ## Classes of characters -/

/-- Digits may stand in a word. So a numeral does not end where a letter follows it, and a word may
not follow a numeral without a blank. -/
theorem isWordChar_of_isDigit {c : Char} (digit : c.isDigit = true) : isWordChar c = true := by
  simp [isWordChar, digit]

/-- What may begin a word may stand in one. -/
theorem isWordChar_of_isWordStart {c : Char} (starts : isWordStart c = true) : isWordChar c = true := by
  simp [isWordChar, starts]

/-- No blank stands in a word. A word therefore ends where a blank follows. -/
theorem isWordChar_of_isSpace {c : Char} (space : isSpace c = true) : isWordChar c = false := by
  simp only [isSpace, Bool.or_eq_true, decide_eq_true_eq] at space
  rcases space with ((rfl | rfl) | rfl) | rfl <;> decide

/-- No character of a word is a blank. So nothing is skipped in front of a word. -/
theorem isSpace_of_isWordChar {c : Char} (wordChar : isWordChar c = true) : isSpace c = false := by
  refine Bool.eq_false_iff.mpr fun space => ?_
  rw [isWordChar_of_isSpace space] at wordChar
  cases wordChar

/-- No digit begins a word. A name and a numeral are told apart by their first character. -/
theorem isDigit_of_isWordStart {c : Char} (starts : isWordStart c = true) : c.isDigit = false := by
  have ranges : (decide ('A'.val ≤ c.val ∧ c.val ≤ 'Z'.val) ||
      (decide ('a'.val ≤ c.val) && decide (c.val ≤ 'z'.val)) || decide (c = '_') || decide (c = '$'))
      = true := starts
  simp only [Bool.or_eq_true, Bool.and_eq_true, decide_eq_true_eq] at ranges
  rw [Char.isDigit, Bool.and_eq_false_iff]
  rcases ranges with ((⟨low, _⟩ | ⟨low, _⟩) | rfl) | rfl
  · exact .inr (decide_eq_false (UInt32.not_le.mpr (UInt32.lt_of_lt_of_le (by decide) low)))
  · exact .inr (decide_eq_false (UInt32.not_le.mpr (UInt32.lt_of_lt_of_le (by decide) low)))
  · exact .inr (by decide)
  · exact .inl (by decide)

/-- Digits stop where a word does. -/
theorem stops_isDigit (clear : Clear text) : Stops Char.isDigit text := by
  intro c after found
  refine Bool.eq_false_iff.mpr fun digit => ?_
  have wordChar := isWordChar_of_isDigit digit
  rw [clear c after found] at wordChar
  cases wordChar

/-- Whether a word goes on is decided by the first character, so it can be evaluated. The readers of
keywords and numerals look ahead in this way. -/
theorem clear_iff : Clear text ↔ (text.head?.map isWordChar).getD false = false := by
  cases text with
  | nil => exact iff_of_true stops_nil rfl
  | cons c after => exact ⟨fun clear => clear c after rfl, fun outside => stops_cons outside after⟩

/-! ## Words -/

/-- A word reaches as far as its characters do. -/
theorem word_eq_iff {w : List Char} :
    word text = (w, rest) ↔ text = w ++ rest ∧ (∀ c ∈ w, isWordChar c = true) ∧ Clear rest :=
  run_eq_iff

/-- A name is read exactly where it stands in full. -/
theorem name_eq_some_iff {n : String} :
    name text = some (n, rest) ↔ IsName n.toList ∧ text = n.toList ++ rest ∧ Clear rest := by
  constructor
  · intro read
    cases text with
    | nil => cases read
    | cons first others =>
      obtain ⟨w, after, ran⟩ : ∃ w after, word (first :: others) = (w, after) := ⟨_, _, rfl⟩
      simp only [name, ran, Option.ite_none_right_eq_some, Bool.and_eq_true, Bool.not_eq_true',
        Option.some.injEq, Prod.mk.injEq] at read
      obtain ⟨⟨starts, notKeyword⟩, rfl, rfl⟩ := read
      obtain ⟨whole, inside, clear⟩ := word_eq_iff.mp ran
      rw [String.toList_ofList]
      refine ⟨⟨?_, inside, notKeyword⟩, whole, clear⟩
      cases w with
      | nil =>
        -- the word is not empty, since its first character may begin one
        have inner := isWordChar_of_isWordStart starts
        rw [clear first others whole.symm] at inner
        cases inner
      | cons c more =>
        obtain ⟨rfl, _⟩ := List.cons.inj whole
        exact ⟨first, more, rfl, starts⟩
  · rintro ⟨isName, rfl, clear⟩
    have ran : word (n.toList ++ rest) = (n.toList, rest) :=
      word_eq_iff.mpr ⟨rfl, isName.continues, clear⟩
    obtain ⟨first, others, form, starts⟩ := isName.starts
    have notKeyword := isName.notKeyword
    have whole : String.ofList (first :: others) = n := by rw [← form, String.ofList_toList]
    rw [form] at ran notKeyword ⊢
    rw [List.cons_append] at ran ⊢
    simp [name, ran, starts, notKeyword, whole]

/-- The keywords begin like words and consist of word characters. -/
theorem letters_of_isKeyword {w : List Char} (known : isKeyword w = true) :
    (∃ first more, w = first :: more ∧ isWordStart first = true) ∧ ∀ c ∈ w, isWordChar c = true := by
  simp only [isKeyword, Bool.or_eq_true, decide_eq_true_eq] at known
  rcases known with (rfl | rfl) | rfl <;>
    exact ⟨⟨_, _, rfl, by decide⟩, List.all_eq_true.mp (by decide)⟩

/-- A keyword is read exactly where it stands in full. -/
theorem keyword_eq_some_iff {k : String} (known : isKeyword k.toList = true) :
    keyword k text = some ((), rest) ↔ text = k.toList ++ rest ∧ Clear rest := by
  obtain ⟨w, after, ran⟩ : ∃ w after, word text = (w, after) := ⟨_, _, rfl⟩
  simp only [keyword, ran, Option.ite_none_right_eq_some, Option.some.injEq, Prod.mk.injEq, true_and]
  constructor
  · rintro ⟨rfl, rfl⟩
    exact ⟨(word_eq_iff.mp ran).1, (word_eq_iff.mp ran).2.2⟩
  · rintro ⟨rfl, clear⟩
    rw [word_eq_iff.mpr ⟨rfl, (letters_of_isKeyword known).2, clear⟩] at ran
    cases ran
    exact ⟨rfl, rfl⟩

/-- A word is only the keyword that it spells. -/
theorem keyword_append_eq_none {k : String} {w : List Char} (inside : ∀ c ∈ w, isWordChar c = true)
    (clear : Clear rest) (differs : w ≠ k.toList) : keyword k (w ++ rest) = none := by
  simp only [keyword, word_eq_iff.mpr ⟨rfl, inside, clear⟩, differs, if_false]

/-- A text that does not begin like a word begins with no keyword. -/
theorem keyword_eq_none {k : String} {c : Char} (known : isKeyword k.toList = true)
    (other : isWordStart c = false) (others : List Char) : keyword k (c :: others) = none := by
  obtain ⟨w, after, ran⟩ : ∃ w after, word (c :: others) = (w, after) := ⟨_, _, rfl⟩
  have differs : w ≠ k.toList := by
    rintro rfl
    obtain ⟨whole, _⟩ := word_eq_iff.mp ran
    obtain ⟨first, more, form, starts⟩ := (letters_of_isKeyword known).1
    rw [form] at whole
    obtain ⟨rfl, _⟩ := List.cons.inj whole
    rw [starts] at other
    cases other
  simp only [keyword, ran, differs, if_false]

/-! ## Numerals -/

/-- Digits are read exactly where at least one stands, and all that stand there are read. -/
theorem digits_eq_some_iff {ds : List Char} :
    digits text = some (ds, rest) ↔ Digits ds ∧ text = ds ++ rest ∧ Stops Char.isDigit rest := by
  obtain ⟨w, after, ran⟩ : ∃ w after, run Char.isDigit text = (w, after) := ⟨_, _, rfl⟩
  have taken : text.takeWhile Char.isDigit = w := congrArg Prod.fst ran
  simp only [digits, someOf, ran, taken, Option.ite_none_left_eq_some, Option.some.injEq,
    Prod.mk.injEq, List.isEmpty_iff]
  constructor
  · rintro ⟨nonempty, rfl, rfl⟩
    obtain ⟨whole, each, stops⟩ := run_eq_iff.mp ran
    exact ⟨⟨nonempty, each⟩, whole, stops⟩
  · rintro ⟨number, rfl, stops⟩
    rw [run_eq_iff.mpr ⟨rfl, number.each, stops⟩] at ran
    cases ran
    exact ⟨number.nonempty, rfl, rfl⟩

/-- No digits are read where another character stands. -/
theorem digits_eq_none {c : Char} (other : c.isDigit = false) (others : List Char) :
    digits (c :: others) = none := by
  simp [digits, someOf, other]

/-- A digit is none of the characters that are not digits. This keeps signs, points and exponents
from being taken for digits. -/
theorem ne_of_isDigit {c : Char} (digit : c.isDigit = true) {other : Char}
    (outside : other.isDigit = false) : c ≠ other := by
  rintro rfl
  rw [digit] at outside
  cases outside

/-- A minus sign before digits is taken off, and where there is none nothing is. -/
theorem minus_append {sign ds : List Char} (signs : sign = [] ∨ sign = ['-']) (number : Digits ds)
    (rest : List Char) :
    minus (sign ++ (ds ++ rest)) = (decide (sign = ['-']), ds ++ rest) := by
  obtain ⟨d, more, rfl, digit⟩ := number.exists_cons
  have unsigned : d ≠ '-' := ne_of_isDigit digit (by decide)
  rcases signs with rfl | rfl
  · simp [minus, unsigned]
  · rfl

/-- What is taken off as a sign is a minus sign or nothing. -/
theorem minus_spells {negative : Bool} (split : minus text = (negative, rest)) :
    ∃ sign, (sign = [] ∨ sign = ['-']) ∧ negative = decide (sign = ['-']) ∧ text = sign ++ rest := by
  unfold minus at split
  split at split
  · cases split
    exact ⟨['-'], .inr rfl, rfl, rfl⟩
  · cases split
    exact ⟨[], .inl rfl, rfl, rfl⟩

/-- The sign of an exponent may also be a plus, which changes nothing. -/
theorem sign_append {sign ds : List Char} (signs : sign = [] ∨ sign = ['+'] ∨ sign = ['-'])
    (number : Digits ds) (rest : List Char) :
    Reading.sign (sign ++ (ds ++ rest)) = (decide (sign = ['-']), ds ++ rest) := by
  obtain ⟨d, more, rfl, digit⟩ := number.exists_cons
  have notMinus : d ≠ '-' := ne_of_isDigit digit (by decide)
  have notPlus : d ≠ '+' := ne_of_isDigit digit (by decide)
  rcases signs with rfl | rfl | rfl
  · simp [Reading.sign, notMinus, notPlus]
  · rfl
  · rfl

/-- What is taken off as the sign of an exponent is a sign or nothing. -/
theorem sign_spells {negative : Bool} (split : Reading.sign text = (negative, rest)) :
    ∃ sign, (sign = [] ∨ sign = ['+'] ∨ sign = ['-']) ∧ negative = decide (sign = ['-']) ∧
      text = sign ++ rest := by
  unfold Reading.sign at split
  split at split
  · cases split
    exact ⟨['-'], .inr (.inr rfl), rfl, rfl⟩
  · cases split
    exact ⟨['+'], .inr (.inl rfl), rfl, rfl⟩
  · cases split
    exact ⟨[], .inl rfl, rfl, rfl⟩

/-- The characters of a numeral are its sign and its digits. -/
theorem Numeral.exists_sign (numeral : Numeral) :
    ∃ sign, (sign = [] ∨ sign = ['-']) ∧ numeral.negative = decide (sign = ['-']) ∧
      numeral.text = sign ++ numeral.digits := by
  unfold Numeral.text
  cases numeral.negative with
  | false => exact ⟨[], .inl rfl, rfl, rfl⟩
  | true => exact ⟨['-'], .inr rfl, rfl, rfl⟩

/-- A numeral is its sign and its digits, and reading takes it apart in that way. -/
theorem minus_numeral {numeral : Numeral} (number : Digits numeral.digits) (rest : List Char) :
    minus (numeral.text ++ rest) = (numeral.negative, numeral.digits ++ rest) := by
  obtain ⟨sign, signs, negative, text⟩ := numeral.exists_sign
  rw [text, negative, List.append_assoc, minus_append signs number]

/-- An integer is read exactly where it stands in full. -/
theorem integer_eq_some_iff {numeral : Numeral} :
    integer text = some (numeral, rest) ↔
      Digits numeral.digits ∧ text = numeral.text ++ rest ∧ Clear rest := by
  constructor
  · intro read
    obtain ⟨negative, unsigned, split⟩ : ∃ negative unsigned, minus text = (negative, unsigned) :=
      ⟨_, _, rfl⟩
    simp only [integer, split, Option.bind_eq_bind, Option.bind_eq_some_iff, Prod.exists,
      Option.ite_none_left_eq_some, Bool.not_eq_true, Option.some.injEq, Prod.mk.injEq] at read
    obtain ⟨ds, after, found, clear, rfl, rfl⟩ := read
    obtain ⟨number, rfl, _⟩ := digits_eq_some_iff.mp found
    obtain ⟨sign, signs, rfl, rfl⟩ := minus_spells split
    refine ⟨number, ?_, clear_iff.mpr clear⟩
    rcases signs with rfl | rfl <;> simp [Numeral.text]
  · rintro ⟨number, rfl, clear⟩
    have found := digits_eq_some_iff.mpr ⟨number, rfl, stops_isDigit clear⟩
    simp [integer, minus_numeral number, found, clear_iff.mp clear]

/-- The characters of a numeral denote its value. -/
theorem integer?_numeral {numeral : Numeral} (number : Digits numeral.digits) :
    Reading.integer? numeral.text = some numeral.value := by
  obtain ⟨sign, signs, negative, text⟩ := numeral.exists_sign
  have split := sign_append (signs.imp_right .inr) number []
  rw [List.append_nil] at split
  have each : numeral.digits.all Char.isDigit = true := List.all_eq_true.mpr number.each
  simp [Reading.integer?, text, split, number.nonempty, each, Numeral.value, negative]

/-- An exponent is read to its end, and as the number after its mark. -/
theorem exponent_append {x : List Char} (scale : Exponent x) (clear : Clear rest) :
    ∃ e, exponent (x ++ rest) = (e, rest) ∧ Reading.exponent? x = some e := by
  cases scale with
  | absent =>
    refine ⟨0, ?_, rfl⟩
    cases rest with
    | nil => rfl
    | cons c after =>
      have outside := clear c after rfl
      -- a mark would go on with the word
      have unmarked : ¬(c = 'e' ∨ c = 'E') := by
        rintro (rfl | rfl) <;> exact absurd outside (by decide)
      simp [exponent, unmarked]
  | @present mark sign ds marks signs number =>
    have found := digits_eq_some_iff.mpr ⟨number, rfl, stops_isDigit clear⟩
    have whole := sign_append signs number []
    rw [List.append_nil] at whole
    have each : ds.all Char.isDigit = true := List.all_eq_true.mpr number.each
    refine ⟨if decide (sign = ['-']) then -(Reading.natural ds : Int) else Reading.natural ds, ?_, ?_⟩
    · simp [exponent, marks, exponentPart, sign_append signs number rest, found]
    · simp [Reading.exponent?, marks, Reading.integer?, whole, number.nonempty, each]

/-- What is read as an exponent is one, or nothing. -/
theorem exponent_spells {e : Int} (read : exponent text = (e, rest)) :
    ∃ x, Exponent x ∧ text = x ++ rest ∧ Reading.exponent? x = some e := by
  -- wherever there is no exponent nothing is taken, and the exponent is zero
  have absent : ∀ {e after}, (0, text) = (e, after) →
      ∃ x, Exponent x ∧ text = x ++ after ∧ Reading.exponent? x = some e := by
    rintro _ _ ⟨⟩
    exact ⟨[], .absent, rfl, rfl⟩
  unfold exponent at read
  split at read
  next mark others =>
    split at read
    next marks =>
      cases part : exponentPart others with
      | none =>
        rw [part] at read
        exact absent read
      | some pair =>
        rw [part, Option.getD_some] at read
        subst read
        obtain ⟨negative, unsigned, split⟩ :
          ∃ negative unsigned, Reading.sign others = (negative, unsigned) := ⟨_, _, rfl⟩
        simp only [exponentPart, split, Option.bind_eq_bind, Option.bind_eq_some_iff, Prod.exists,
          Option.pure_def, Option.some.injEq, Prod.mk.injEq] at part
        obtain ⟨ds, after, found, rfl, rfl⟩ := part
        obtain ⟨number, rfl, _⟩ := digits_eq_some_iff.mp found
        obtain ⟨sign, signs, rfl, rfl⟩ := sign_spells split
        -- the digits are read once more for their value, with nothing behind them
        have whole := sign_append signs number []
        rw [List.append_nil] at whole
        have each : ds.all Char.isDigit = true := List.all_eq_true.mpr number.each
        refine ⟨mark :: (sign ++ ds), .present marks signs number, by simp, ?_⟩
        simp [Reading.exponent?, marks, Reading.integer?, whole, number.nonempty, each]
    next => exact absent read
  next => exact absent read

/-- Digits stop where an exponent begins. -/
theorem stops_isDigit_exponent {x : List Char} (scale : Exponent x) (stops : Stops Char.isDigit rest) :
    Stops Char.isDigit (x ++ rest) := by
  cases scale with
  | absent => exact stops
  | present marks _ _ => rcases marks with rfl | rfl <;> exact stops_cons (by decide) _

/-- The lower case of a digit is no letter. -/
theorem toLower_of_isDigit {c : Char} (digit : c.isDigit = true) : c.toLower = c := by
  rw [Char.isDigit, Bool.and_eq_true, decide_eq_true_eq, decide_eq_true_eq] at digit
  have low : ¬(c.val ≥ 'A'.val ∧ c.val ≤ 'Z'.val) := fun upper =>
    absurd (UInt32.le_trans upper.1 digit.2) (by decide)
  exact dif_neg low

/-- The double that a decimal denotes, from its parts. -/
theorem float?_decimal {sign whole fraction x : List Char} {e : Int} (signs : sign = [] ∨ sign = ['-'])
    (before : Digits whole) (after : Digits fraction) (scale : Exponent x)
    (power : Reading.exponent? x = some e) :
    Reading.float? (sign ++ (whole ++ '.' :: (fraction ++ x))) =
      let magnitude := Reading.nearest (Reading.natural (whole ++ fraction)) (e - fraction.length)
      some (if decide (sign = ['-']) then -magnitude else magnitude) := by
  have split := sign_append (signs.imp_right .inr) before ('.' :: (fraction ++ x))
  have wholeRan := run_eq_iff.mpr
    ⟨rfl, before.each, stops_cons (by decide : Char.isDigit '.' = false) (fraction ++ x)⟩
  obtain ⟨wholeTaken, wholeLeft⟩ := Prod.mk.inj wholeRan
  have fractionRan := run_eq_iff.mpr ⟨rfl, after.each, stops_isDigit_exponent scale stops_nil⟩
  rw [List.append_nil] at fractionRan
  obtain ⟨fractionTaken, fractionLeft⟩ := Prod.mk.inj fractionRan
  -- the parts end where the point and the exponent stand, and their digits make one integer
  have decimal : Reading.unsigned? (whole ++ '.' :: (fraction ++ x)) =
      some (Reading.nearest (Reading.natural (whole ++ fraction)) (e - fraction.length)) := by
    simp [Reading.unsigned?, wholeTaken, wholeLeft, fractionTaken, fractionLeft, before.nonempty, power]
  obtain ⟨d, more, rfl, digit⟩ := before.exists_cons
  -- the names of infinity and of what is not a number begin with a letter
  have notName : ∀ letters : String, letters.toList.head?.all (fun c => !c.isDigit) = true →
      String.ofList ((d :: more ++ '.' :: (fraction ++ x)).map Char.toLower) ≠ letters := by
    rintro _ others rfl
    simp [toLower_of_isDigit digit, digit] at others
  simp only [Reading.float?, split, decimal, notName "inf" (by decide), notName "infinity" (by decide),
    notName "nan" (by decide), or_self, if_false, Option.map_some]

/-- A decimal is read to its end, and as the double that it denotes. -/
theorem float_append {w : List Char} (decimal : Decimal w) (clear : Clear rest) :
    ∃ x, float (w ++ rest) = some (x, rest) ∧ Reading.float? w = some x := by
  obtain @⟨sign, whole, fraction, x, signs, before, after, scale⟩ := decimal
  obtain ⟨e, exponentRead, power⟩ := exponent_append scale clear
  refine ⟨_, ?_, float?_decimal signs before after scale power⟩
  have wholeRead := digits_eq_some_iff.mpr
    ⟨before, rfl, stops_cons (by decide : Char.isDigit '.' = false) (fraction ++ (x ++ rest))⟩
  have fractionRead := digits_eq_some_iff.mpr
    ⟨after, rfl, stops_isDigit_exponent scale (stops_isDigit clear)⟩
  have pointRead := character_eq_some_iff.mpr (Eq.refl ('.' :: (fraction ++ (x ++ rest))))
  simp only [List.append_assoc, List.cons_append, float, minus_append signs before, wholeRead,
    pointRead, fractionRead, exponentRead, Option.bind_eq_bind, Option.bind_some, Option.pure_def]

/-- What is read as a float is a decimal. -/
theorem float_spells {x : Float} (read : float text = some (x, rest)) :
    ∃ w, Decimal w ∧ text = w ++ rest ∧ Reading.float? w = some x := by
  obtain ⟨negative, unsigned, split⟩ : ∃ negative unsigned, minus text = (negative, unsigned) :=
    ⟨_, _, rfl⟩
  simp only [float, split, Option.bind_eq_bind, Option.bind_eq_some_iff, Prod.exists,
    Option.pure_def, Option.some.injEq, Prod.mk.injEq] at read
  obtain ⟨whole, _, wholeRead, _, _, pointRead, fraction, scaled, fractionRead, rfl, rfl⟩ := read
  obtain ⟨before, rfl, _⟩ := digits_eq_some_iff.mp wholeRead
  obtain rfl := character_eq_some_iff.mp pointRead
  obtain ⟨after, rfl, _⟩ := digits_eq_some_iff.mp fractionRead
  obtain ⟨sign, signs, rfl, rfl⟩ := minus_spells split
  have scaledRead : exponent scaled = ((exponent scaled).1, (exponent scaled).2) := rfl
  obtain ⟨x, scale, form, power⟩ := exponent_spells scaledRead
  refine ⟨_, .mk signs before after scale, ?_, float?_decimal signs before after scale power⟩
  rw [List.append_assoc, List.append_assoc, List.cons_append, List.append_assoc, ← form]

/-- Without a point after its digits a text begins with no decimal. -/
theorem float_integer_eq_none {numeral : Numeral} (number : Digits numeral.digits) (clear : Clear rest)
    (pointless : ∀ after, rest ≠ '.' :: after) : float (numeral.text ++ rest) = none := by
  have found := digits_eq_some_iff.mpr ⟨number, rfl, stops_isDigit clear⟩
  simp [float, minus_numeral number, found, character_eq_none pointless]

/-- A text that begins with neither a minus sign nor a digit begins with no numeral. -/
theorem numeral_eq_none {c : Char} (unsigned : c ≠ '-') (other : c.isDigit = false)
    (others : List Char) : float (c :: others) = none ∧ integer (c :: others) = none := by
  have split : minus (c :: others) = (false, c :: others) := by simp [minus, unsigned]
  simp [float, integer, split, digits_eq_none other]

/-! ## Quoted texts -/

/-- The text between quotes is read with its escapes resolved, and reading stops behind the closing
quote. No quote stands unescaped in between, so the first that is met closes. -/
theorem quotedBody_append {quote : Char} (plain : quote ≠ '\\') {written meant : List Char}
    (body : QuotedText quote written meant) (rest : List Char) :
    quotedBody quote (written ++ quote :: rest) = some (meant, rest) := by
  induction body with
  | nil => simp [quotedBody, plain]
  | plain notQuote notEscape _ ih => simp [quotedBody, notQuote, notEscape, ih]
  | escape _ ih => simp [quotedBody, ih]

/-- What is read up to a closing quote is a quoted text, and the rest is what stands behind the
quote. -/
theorem quotedBody_spells {quote : Char} {meant : List Char}
    (read : quotedBody quote text = some (meant, rest)) :
    ∃ written, QuotedText quote written meant ∧ text = written ++ quote :: rest := by
  fun_induction quotedBody quote text generalizing meant with
  | case1 => cases read
  | case2 => cases read
  | case3 c others ih =>
    simp only [Option.map_eq_some_iff, Prod.exists, Prod.mk.injEq] at read
    obtain ⟨inner, _, innerRead, rfl, rfl⟩ := read
    obtain ⟨written, body, rfl⟩ := ih innerRead
    exact ⟨_, .escape body, rfl⟩
  | case4 c others =>
    cases read
    exact ⟨[], .nil, by simp_all⟩
  | case5 c others notLast notEscaping notQuote ih =>
    simp only [Option.map_eq_some_iff, Prod.exists, Prod.mk.injEq] at read
    obtain ⟨inner, _, innerRead, rfl, rfl⟩ := read
    -- a backslash with a character behind it is the case of escapes
    have notEscape : c ≠ '\\' := by
      intro isEscape
      cases others with
      | nil => exact notLast isEscape rfl
      | cons d more => exact notEscaping d more isEscape rfl
    obtain ⟨written, body, rfl⟩ := ih innerRead
    exact ⟨_, .plain notQuote notEscape body, rfl⟩

/-- A quoted text is read exactly where it stands in full. -/
theorem string_eq_some_iff {s : String} :
    string text = some (s, rest) ↔ ∃ quote written, (quote = '\'' ∨ quote = '"') ∧
      QuotedText quote written s.toList ∧ text = (quote :: (written ++ [quote])) ++ rest := by
  constructor
  · intro read
    cases text with
    | nil => cases read
    | cons quote others =>
      simp only [string, Option.ite_none_right_eq_some, Option.map_eq_some_iff, Prod.exists,
        Prod.mk.injEq] at read
      obtain ⟨quotes, meant, after, bodyRead, rfl, rfl⟩ := read
      obtain ⟨written, body, rfl⟩ := quotedBody_spells bodyRead
      rw [String.toList_ofList]
      exact ⟨quote, written, quotes, body, by simp⟩
  · rintro ⟨quote, written, quotes, body, rfl⟩
    have plain : quote ≠ '\\' := by rcases quotes with rfl | rfl <;> decide
    simp [string, quotes, quotedBody_append plain body]

end Token

end PropertyPath
