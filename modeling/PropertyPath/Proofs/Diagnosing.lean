import Mathlib.Data.List.DropRight
import PropertyPath.Proofs.Exactness
import PropertyPath.Syntax.Diagnosis

/-!
# Diagnosis beside reading

The diagnosis of a text goes through the grammar once more, with recognisers that keep a record
of failed constructs. Each recogniser tracks the reader of its rule: it accepts a text where the
reader reads it and stops at the same place, blanks aside; and whatever it records, a record that
was changed names a construct. So a text that is not read is not accepted either, and its
diagnosis names something that was expected.
-/

namespace PropertyPath.Diagnosis

open Reader Token
open Grammar (Lexeme spaced)

variable {α β : Type} {text rest : List Char} {record : Record}

/-- A later record that names a construct, if it was changed. -/
def Noted (record later : Record) : Prop := later = record ∨ later.constructs ≠ []

namespace Noted

/-- A record that was not changed. -/
theorem refl (record : Record) : Noted record record := .inl rfl

/-- A record that was changed twice names a construct if the second change does, and if there was
none, if the first does. -/
theorem trans {middle later : Record} (first : Noted record middle) (second : Noted middle later) :
    Noted record later := by
  rcases second with rfl | named
  · exact first
  · exact .inr named

/-- A failure that is recorded names its construct. One that is not recorded leaves the record as it
was. -/
theorem fail (record : Record) (c : Construct) (remaining before : Nat) :
    Noted record (record.fail c remaining before) := by
  unfold Record.fail
  split
  · exact refl record
  split
  · exact .inr nofun
  split
  · exact .inr (by simp)
  · exact refl record

end Noted

/-- Blanks are skipped at most once. -/
theorem skip_skip (text : List Char) : skip (skip text) = skip text := List.dropWhile_idempotent ..

/-- Skipping blanks makes no text longer. Repetition shortens the text with it, and so ends. -/
theorem length_skip_le (text : List Char) : (skip text).length ≤ text.length :=
  (List.dropWhile_suffix isSpace).length_le

/-- A text that goes on like another, or behind the blanks at its front. -/
def Ahead (after rest : List Char) : Prop := after = rest ∨ after = skip rest

namespace Ahead

variable {after : List Char}

/-- Behind their blanks the two texts go on alike, and that is where the next recogniser starts. -/
theorem skip_eq (ahead : Ahead after rest) : skip after = skip rest := by
  rcases ahead with rfl | rfl
  · rfl
  · exact skip_skip rest

/-- What is ahead is no longer than where it started. -/
theorem length_le (ahead : Ahead after rest) : after.length ≤ rest.length := by
  rcases ahead with rfl | rfl
  · exact Nat.le_refl _
  · exact length_skip_le rest

end Ahead

/-- A recogniser that starts from a record tracks a reader: both give up, or both stop at the same
place, blanks aside. -/
inductive Tracks (record : Record) : Option (List Char) × Record → Option (α × List Char) → Prop
  | neither {later : Record} (noted : Noted record later) : Tracks record (none, later) none
  | both {after rest : List Char} {later : Record} (x : α) (ahead : Ahead after rest)
    (noted : Noted record later) : Tracks record (some after, later) (some (x, rest))

namespace Tracks

variable {first second : Recogniser} {read : Option (α × List Char)}
  {outcome : Option (List Char) × Record}

/-- What starts from a later record may as well have started from an earlier one. -/
theorem since {middle : Record} (tracks : Tracks middle outcome read) (noted : Noted record middle) :
    Tracks record outcome read := by
  cases tracks with
  | neither noted' => exact .neither (noted.trans noted')
  | both x ahead noted' => exact .both x ahead (noted.trans noted')

/-- A token is recognised where it is read, and records nothing. -/
theorem token (reader : Reader α) (text : List Char) (record : Record) :
    Tracks record (Diagnosis.token reader text record) (reader text) := by
  rw [Diagnosis.token]
  cases reader text with
  | none => exact .neither (.refl record)
  | some found => exact .both found.1 (.inl rfl) (.refl record)

/-- What a reader makes of a text does not matter. -/
theorem bind (tracks : Tracks record outcome read) (f : α × List Char → β) :
    Tracks record outcome (read.bind fun p => some (f p, p.2)) := by
  cases tracks with
  | neither noted => exact .neither noted
  | both x ahead noted => exact .both _ ahead noted

/-- What a reader makes of what it read does not matter either. -/
theorem map (tracks : Tracks record outcome read) (f : α × List Char → β) :
    Tracks record outcome (read.map fun p => (f p, p.2)) := by
  rw [Option.map_eq_bind]
  exact tracks.bind f

/-- A construct is recognised where its rule applies. If it fails, its name may be recorded. -/
theorem construct {c : Construct} (tracks : Tracks record (first text record) read) :
    Tracks record (Diagnosis.construct c first text record) read := by
  unfold Diagnosis.construct
  generalize first text record = outcome at tracks ⊢
  cases tracks with
  | neither noted => exact .neither (noted.trans (.fail ..))
  | both x ahead noted => exact .both x ahead noted

/-- A second recogniser goes on where the first stopped, if a reader does. -/
theorem andThen_of {result : Option (β × List Char)} (tracks : Tracks record (first text record) read)
    (ends : read = none → result = none)
    (next : ∀ x rest record, read = some (x, rest) → Tracks record (second (skip rest) record) result) :
    Tracks record (Diagnosis.andThen first second text record) result := by
  unfold Diagnosis.andThen
  generalize first text record = outcome at tracks ⊢
  cases tracks with
  | neither noted =>
    rw [ends rfl]
    exact .neither noted
  | both x ahead noted =>
    simp only [ahead.skip_eq]
    exact (next x _ _ rfl).since noted

/-- A second recogniser goes on where the first stopped, and tracks the second of two readers in
sequence. -/
theorem andThen {f : α × List Char → Option (β × List Char)}
    (tracks : Tracks record (first text record) read)
    (next : ∀ x rest record, Tracks record (second (skip rest) record) (f (x, rest))) :
    Tracks record (Diagnosis.andThen first second text record) (read.bind f) := by
  refine tracks.andThen_of (fun nothing => ?_) fun x rest record found => ?_
  · rw [nothing, Option.bind_none]
  · rw [found, Option.bind_some]
    exact next x rest record

/-- A second recogniser is tried where the first gave up. It starts from the record that the first
has left, with whatever failures stand in it. -/
theorem orTry {reader reader' : Reader α} (tracks : Tracks record (first text record) (reader text))
    (next : ∀ record, Tracks record (second text record) (reader' text)) :
    Tracks record (Diagnosis.orTry first second text record) (orElse reader reader' text) := by
  unfold Diagnosis.orTry orElse
  generalize first text record = outcome at tracks ⊢
  generalize reader text = read at tracks ⊢
  cases tracks with
  | neither noted => exact (next _).since noted
  | both x ahead noted => exact .both x ahead noted

/-- What may be left out is accepted in any case. -/
theorem optional (tracks : Tracks record (first text record) read) (nothing : α) :
    Tracks record (Diagnosis.optional first text record) (some (read.getD (nothing, text))) := by
  unfold Diagnosis.optional
  generalize first text record = outcome at tracks ⊢
  cases tracks with
  | neither noted => exact .both nothing (.inl rfl) noted
  | both x ahead noted => exact .both x ahead noted

end Tracks

/-- A recogniser tracks a reader at every text. -/
def Tracking (recogniser : Recogniser) (reader : Reader α) : Prop :=
  ∀ text record, Tracks record (recogniser text record) (reader text)

/-- A reader that takes at least one character of every text it applies to. -/
def Shortens (reader : Reader α) : Prop :=
  ∀ text x rest, reader text = some (x, rest) → rest.length < text.length

/-- A repetition tracks another, whether or not blanks are skipped ahead of it: both skip blanks
before each item, and an item shortens the text. -/
theorem Tracking.repeated {body : Recogniser} {reader : Reader α} (tracking : Tracking body reader)
    (shortens : Shortens reader) {text after : List Char} (ahead : Ahead after text) (record : Record) :
    Tracks record (Diagnosis.repeated body after record) (some (many (spaced reader) text)) := by
  induction text using many.induct (spaced reader) generalizing after record with
  | case1 text ends =>
    have tracks := tracking (skip text) record
    rw [show reader (skip text) = none from ends] at tracks
    rw [Diagnosis.repeated, ahead.skip_eq, many, ends]
    generalize body (skip text) record = outcome at tracks ⊢
    cases tracks with
    | neither noted => exact .both [] ahead noted
  | case2 text x middle applies shorter others rest further ih =>
    have tracks := tracking (skip text) record
    have found : reader (skip text) = some (x, middle) := applies
    have fewer := shortens _ _ _ found
    rw [found] at tracks
    rw [further] at ih
    rw [Diagnosis.repeated, ahead.skip_eq, many, applies]
    simp only [shorter, if_true, further]
    generalize body (skip text) record = outcome at tracks ⊢
    cases tracks with
    | @both stop _ _ _ goesOn noted =>
      -- the recogniser has come as far as the reader, so it sees its text shortened too
      have bound := goesOn.length_le
      have start := length_skip_le after
      rw [ahead.skip_eq] at start
      have stops : stop.length < after.length := by omega
      simp only [stops, if_true]
      exact ((ih goesOn _).map fun p => x :: p.1).since noted
  -- the repeated reader always shortens its text
  | case3 text x middle applies longer =>
    exact absurd (Nat.lt_of_lt_of_le (shortens _ _ _ applies) (length_skip_le text)) longer

/-! ## Rules -/

/-- Things of a kind that begins with a symbol are read off a text that they shorten. -/
theorem shortens_of_yields {symbols : List Char} {reader : Reader α} {means : α → β → Prop}
    {item : List (List Char) → β → Prop} (yields : Yields reader means item)
    (starts : StartsWith symbols item) (meaning : ∀ x, ∃ y, means x y) : Shortens reader := by
  intro text x rest read
  obtain ⟨y, meant⟩ := meaning x
  obtain ⟨tokens, written, begins⟩ := yields text x y rest read meant
  obtain ⟨c, more, rfl, _, mark⟩ := starts tokens y written
  obtain ⟨before, rfl, spread⟩ := begins
  obtain ⟨_, _, _, shorter⟩ := spread.exists_of_cons (solid_mark mark)
  rw [List.length_append]
  omega

/-- Literals are the first that applies of their kinds. -/
theorem literal_eq (text : List Char) : Grammar.literal text =
    orElse (fun text => (keyword "null" text).map fun p => (Lexeme.null, p.2))
      (orElse (fun text => (boolean text).map fun p => (Lexeme.boolean p.1, p.2))
        (orElse (fun text => (float text).map fun p => (Lexeme.float p.1, p.2))
          (orElse (fun text => (integer text).map fun p => (Lexeme.integer p.1 p.2.length, p.2))
            fun text => (string text).map fun p => (Lexeme.string p.1, p.2)))) text := by
  simp only [Grammar.literal, orElse]
  cases keyword "null" text with
  | some found => rfl
  | none =>
  cases boolean text with
  | some found => rfl
  | none =>
  cases float text with
  | some found => rfl
  | none =>
  cases integer text with
  | some found => rfl
  | none => rfl

/-- The recogniser of literals tries the five kinds in the order of the grammar, each under its own
name. -/
theorem literal_tracks : Tracking literal Grammar.literal := by
  intro text record
  rw [literal_eq]
  refine ((Tracks.token (keyword "null") text record).map _).construct.orTry fun record => ?_
  refine ((Tracks.token boolean text record).map _).construct.orTry fun record => ?_
  refine ((Tracks.token float text record).map _).construct.orTry fun record => ?_
  refine ((Tracks.token integer text record).map _).construct.orTry fun record => ?_
  exact ((Tracks.token string text record).map _).construct

/-- An identifier is recognised where a name is read. -/
theorem identifier_tracks : Tracking identifier name := fun text record =>
  (Tracks.token name text record).construct

section Nested

variable {nested : Recogniser} {nested' : Reader (Expr Lexeme)}
  (tracking : Tracking nested nested')

include tracking

/-- A further argument is recognised behind its comma. -/
theorem furtherArgument_tracks :
    Tracking (andThen (token (character ',')) nested) (Grammar.furtherArgument nested') := by
  intro text record
  refine (Tracks.token (character ',') text record).andThen ?_
  rintro ⟨⟩ after record
  exact tracking (skip after) record

/-- A property is tried before an index, as the grammar does. -/
theorem segment_tracks : Tracking (segment nested) (Grammar.segment nested') := by
  intro text record
  refine Tracks.orTry (Tracks.construct ?_) fun record => Tracks.construct ?_
  · refine (Tracks.token (character '.') text record).andThen ?_
    rintro ⟨⟩ after record
    exact (identifier_tracks (skip after) record).bind _
  · refine (Tracks.token (character '[') text record).andThen ?_
    rintro ⟨⟩ after record
    refine (tracking (skip after) record).andThen fun index after record => ?_
    exact (Tracks.token (character ']') (skip after) record).bind _

variable (furtherShortens : Shortens (Grammar.furtherArgument nested'))

include furtherShortens

/-- Arguments are recognised whatever stands there, since there may be none. The first may be left
out with all others. -/
theorem arguments_tracks (text : List Char) (record : Record) :
    Tracks record (arguments nested text record) (some (Grammar.arguments nested' text)) := by
  have read : Grammar.arguments nested' text = ((nested' text).bind fun p =>
      some (p.1 :: (many (spaced (Grammar.furtherArgument nested')) p.2).1,
        (many (spaced (Grammar.furtherArgument nested')) p.2).2)).getD ([], text) := by
    unfold Grammar.arguments
    cases nested' text <;> rfl
  rw [read]
  refine (((tracking text record).andThen fun first after record => ?_).optional []).construct
  have others := (furtherArgument_tracks tracking).repeated furtherShortens
    (.inr (Eq.refl (skip after))) record
  exact others.bind fun p => first :: p.1

/-- A call is recognised where it is read. Its arguments never fail, so after the opening
parenthesis only the closing one can. -/
theorem call_tracks : Tracking (call nested) (Grammar.call nested') := by
  intro text record
  refine ((identifier_tracks text record).andThen fun space after record => ?_).construct
  refine (Tracks.token (character ':') (skip after) record).andThen ?_
  rintro ⟨⟩ after record
  refine (identifier_tracks (skip after) record).andThen fun function after record => ?_
  refine (Tracks.token (character '(') (skip after) record).andThen ?_
  rintro ⟨⟩ after record
  have given := arguments_tracks tracking furtherShortens (skip after) record
  cases read : Grammar.arguments nested' (skip after) with
  | mk es inner =>
    rw [read] at given
    simp only [read]
    refine given.andThen_of nofun ?_
    rintro _ _ record ⟨⟩
    exact (Tracks.token (character ')') (skip inner) record).bind _

variable (segmentShortens : Shortens (Grammar.segment nested'))

include segmentShortens

/-- A path is recognised where it is read: a call or else an identifier, and then segments. -/
theorem path_tracks : Tracking (path nested) (Grammar.path nested') := by
  intro text record
  refine (Tracks.andThen (Tracks.orTry (call_tracks tracking furtherShortens text record) fun record =>
    (identifier_tracks text record).map _) fun root after record => ?_).construct
  have segments := (segment_tracks tracking).repeated segmentShortens (.inr (Eq.refl (skip after))) record
  exact segments.bind fun p => Expr.path root p.1

/-- A value over nested values is recognised where it is read. -/
theorem valueOver_tracks : Tracking (valueOver nested) (Grammar.valueOver nested') := fun text record =>
  Tracks.orTry ((literal_tracks text record).map _)
    fun record => path_tracks tracking furtherShortens segmentShortens text record

end Nested

/-- Every value means a shape, and the rules for what may stand behind one begin with a symbol. -/
theorem shortens_of_nested (nested' : Reader (Expr Lexeme))
    (yields : Yields nested' (Expr.Means fun _ => (.ok () : Except Empty Unit))
      (Expr.Spelled fun w _ => IsLiteral w)) :
    Shortens (Grammar.furtherArgument nested') ∧ Shortens (Grammar.segment nested') := by
  have meaning : ∀ {α : Type} (x : Except Empty α), ∃ a, x = .ok a := by
    intro α x
    cases x with
    | error impossible => exact impossible.elim
    | ok a => exact ⟨a, rfl⟩
  exact ⟨shortens_of_yields (Grammar.furtherArgument_yields yields) Grammar.furtherSpelled_starts
      fun e => meaning _,
    shortens_of_yields (Grammar.segment_yields yields) Grammar.segmentSpelled_starts fun s => meaning _⟩

/-- Values of every number of levels are recognised where they are read. The induction is on the
levels: what holds of the values inside brackets holds of those around them. -/
theorem value_tracks (levels : Nat) : Tracking (value levels) (Grammar.value levels) := by
  induction levels with
  | zero =>
    have nothing : Tracking (fun _ record => (none, record)) (fun _ => none : Reader (Expr Lexeme)) :=
      fun _ record => .neither (.refl record)
    obtain ⟨furtherShortens, segmentShortens⟩ := shortens_of_nested (fun _ => none) nofun
    exact valueOver_tracks nothing furtherShortens segmentShortens
  | succ levels tracking =>
    obtain ⟨furtherShortens, segmentShortens⟩ :=
      shortens_of_nested (Grammar.value levels) (Grammar.value_yields Shape.lexicon levels)
    exact valueOver_tracks tracking furtherShortens segmentShortens

/-! ## Whole texts -/

/-- The end of the input is recognised behind the last character only. -/
theorem endOfInput_tracks (x : α) (text : List Char) (record : Record) :
    Tracks record (endOfInput text record) (if text.isEmpty then some (x, []) else none) := by
  refine Tracks.construct ?_
  split
  · exact .both x (.inl rfl) (.refl record)
  · exact .neither (.refl record)

/-- A whole expression is accepted exactly where the grammar reads it to the end. -/
theorem expression_tracks (levels : Nat) (text : List Char) (record : Record) :
    Tracks record (andThen (value levels) endOfInput (skip text) record)
      ((Grammar.expression? levels text).map fun e => (e, [])) := by
  rw [Grammar.expression?, Option.bind_eq_bind, Option.map_bind]
  refine (value_tracks levels (skip text) record).andThen fun e after record => ?_
  have ends := endOfInput_tracks e (skip after) record
  simp only [Function.comp_apply, apply_ite (Option.map _), Option.map_some, Option.map_none]
  exact ends

/-- Where a construct fails at which the record started from nothing, a name is left. -/
theorem Noted.fail_named {remaining : Nat} {attempted : Record} (noted : Noted ⟨remaining, []⟩ attempted)
    (c : Construct) : (attempted.fail c remaining 0).constructs ≠ [] := by
  unfold Record.fail
  split
  next alone =>
    -- the only failure recorded at this place stays
    intro empty
    simp [Record.countAt, empty] at alone
  split
  next => exact nofun
  split
  next => simp
  next moved =>
    rcases noted with rfl | named
    · exact absurd rfl moved
    · exact named

/-- The diagnosis of a text that is no expression names something that was expected. -/
theorem furthest_named {levels : Nat} {text : List Char} (foreign : Grammar.expression? levels text = none) :
    (furthest levels text).2 ≠ [] := by
  have tracks := expression_tracks levels text ⟨text.length, []⟩
  rw [foreign, Option.map_none] at tracks
  have named : (expression levels text ⟨text.length, []⟩).2.constructs ≠ [] := by
    have count : (Record.mk text.length []).countAt text.length = 0 := if_pos rfl
    rw [expression, construct, count]
    generalize andThen (value levels) endOfInput (skip text) ⟨text.length, []⟩ = outcome at tracks ⊢
    cases tracks with
    | neither noted => exact noted.fail_named .expression
  obtain ⟨c, member⟩ := List.exists_mem_of_ne_nil _ named
  have listed : c ∈ Construct.all := by cases c <;> decide
  exact List.ne_nil_of_mem (List.mem_filter.mpr ⟨listed, decide_eq_true member⟩)

end PropertyPath.Diagnosis
