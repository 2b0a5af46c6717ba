import PropertyPath.Proofs.Literals
import PropertyPath.Proofs.Traversal
import PropertyPath.Syntax.Tree

/-!
# Expressions from parse trees

Reading a tree and building an expression from it comes to the same as reading the expression.
Each rule of the grammar reads a tree where it reads a part of an expression, and stops at the
same place; and what is built from the tree is that part, with the literals that it means. So a
tree never holds a node that building does not expect, and the only errors left are those of the
source.
-/

namespace PropertyPath.ParseTree

open Reader Token
open Diagnosis (Construct)
open Grammar (spaced Lexeme)

variable {α β γ δ : Type} {text rest : List Char}

/-! ## Readers side by side -/

/-- Two readings of a text: neither applies, or both stop at the same place with related results. -/
def Beside (R : α → β → Prop) (x : Option (α × List Char)) (y : Option (β × List Char)) : Prop :=
  (x = none ∧ y = none) ∨ ∃ a b after, x = some (a, after) ∧ y = some (b, after) ∧ R a b

namespace Beside

variable {R : α → β → Prop} {S : γ → δ → Prop} {x : Option (α × List Char)} {y : Option (β × List Char)}

/-- Two readings of which neither applies. -/
theorem neither : Beside R none none := .inl ⟨rfl, rfl⟩

/-- Two readings that stop at the same place with related results. -/
theorem both {a : α} {b : β} (related : R a b) (after : List Char) :
    Beside R (some (a, after)) (some (b, after)) :=
  .inr ⟨a, b, after, rfl, rfl, related⟩

/-- Every reading is beside itself. -/
theorem same (x : Option (α × List Char)) : Beside Eq x x := by
  cases x with
  | none => exact neither
  | some found => exact both rfl found.2

/-- Readings that go on side by side. -/
theorem bind {f : α × List Char → Option (γ × List Char)} {g : β × List Char → Option (δ × List Char)}
    (first : Beside R x y) (next : ∀ a b after, R a b → Beside S (f (a, after)) (g (b, after))) :
    Beside S (x.bind f) (y.bind g) := by
  rcases first with ⟨rfl, rfl⟩ | ⟨a, b, after, rfl, rfl, related⟩
  · exact neither
  · exact next a b after related

end Beside

/-- Two readers that read any text side by side. -/
def Reads (R : α → β → Prop) (reader : Reader α) (reader' : Reader β) : Prop :=
  ∀ text, Beside R (reader text) (reader' text)

namespace Reads

variable {R : α → β → Prop} {reader second : Reader α} {reader' second' : Reader β}

/-- Every reader reads beside itself. -/
theorem same (reader : Reader α) : Reads Eq reader reader := fun text => .same (reader text)

/-- Skipping blanks before reading keeps two readers side by side. -/
theorem spaced (reads : Reads R reader reader') : Reads R (spaced reader) (spaced reader') :=
  fun text => reads (skip text)

/-- Alternatives are side by side if both of them are. The first decides alike in both readers, so
they never disagree about which is taken. -/
theorem orElse (first : Reads R reader reader') (next : Reads R second second') :
    Reads R (orElse reader second) (orElse reader' second') := by
  intro text
  unfold Reader.orElse
  rcases first text with ⟨ends, ends'⟩ | ⟨a, b, after, read, read', related⟩
  · rw [ends, ends']
    exact next text
  · rw [read, read']
    exact .both related after

/-- Repetition of two readers stops at the same place, after as many results. The induction is on
the repetition of the first. -/
theorem many (reads : Reads R reader reader') (text : List Char) :
    ∃ xs ys after, many reader text = (xs, after) ∧ many reader' text = (ys, after) ∧
      List.Forall₂ R xs ys := by
  induction text using many.induct reader with
  | case1 text ends =>
    rcases reads text with ⟨_, ends'⟩ | ⟨a, b, after, read, _, _⟩
    · rw [Reader.many, Reader.many, ends, ends']
      exact ⟨[], [], text, rfl, rfl, .nil⟩
    · rw [ends] at read
      cases read
  | case2 text x middle applies shorter others after further ih =>
    obtain ⟨xs, ys, stop, read, read', related⟩ := ih
    rcases reads text with ⟨ends, _⟩ | ⟨a, b, next, first, first', starts⟩
    · rw [applies] at ends
      cases ends
    · cases applies.symm.trans first
      rw [Reader.many, Reader.many, applies, first']
      simp only [shorter, if_true, read, read']
      exact ⟨x :: xs, b :: ys, stop, rfl, rfl, .cons starts related⟩
  | case3 text x middle applies longer =>
    rcases reads text with ⟨ends, _⟩ | ⟨a, b, next, first, first', _⟩
    · rw [applies] at ends
      cases ends
    · cases applies.symm.trans first
      rw [Reader.many, Reader.many, applies, first']
      simp only [longer, if_false]
      exact ⟨[], [], text, rfl, rfl, .nil⟩

/-- A rule reads its node where it matches what is inside. -/
theorem node {R : Node → β → Prop} {S : List Node → β → Prop} {rule : Reader (List Node)} {label : Label}
    (reads : Reads S rule reader')
    (holds : ∀ inner x text remaining, S inner x → R (.mk label text remaining inner) x) :
    Reads R (ParseTree.node label rule) reader' := by
  intro text
  rcases reads text with ⟨ends, ends'⟩ | ⟨inner, x, after, read, read', related⟩
  · rw [ParseTree.node, ends, ends']
    exact .neither
  · rw [ParseTree.node, read, read']
    exact .both (holds inner x _ _ related) after

end Reads

/-! ## Tokens -/

/-- The node of a token covers its characters. -/
theorem node_append {label : Label} {rule : Reader (List Node)} {w : List Char} {inner : List Node}
    (read : rule (w ++ rest) = some (inner, rest)) :
    node label rule (w ++ rest) = some (.mk label w rest.length inner, rest) := by
  have covered : (w ++ rest).take ((w ++ rest).length - rest.length) = w := by simp
  simp only [node, read, Option.map_some, covered]

/-- The leaf of a token covers its characters. -/
theorem leaf_append {c : Construct} {token : Reader α} {w : List Char} {x : α}
    (read : token (w ++ rest) = some (x, rest)) :
    leaf c token (w ++ rest) = some (.mk (.construct c) w rest.length [], rest) :=
  node_append (by rw [read, Option.map_some])

/-- There is no leaf where the token is not read. -/
theorem leaf_eq_none {c : Construct} {token : Reader α} (ends : token text = none) :
    leaf c token text = none := by
  rw [leaf, node, ends, Option.map_none, Option.map_none]

/-- The node of a name. -/
def Names (n : Node) (name : String) : Prop :=
  ∃ remaining, n = .mk (.construct .identifier) name.toList remaining []

/-- The node of an identifier holds the characters of its name. -/
theorem identifier_reads : Reads Names identifier name := by
  intro text
  cases read : name text with
  | none =>
    rw [identifier, leaf_eq_none read]
    exact .neither
  | some found =>
    obtain ⟨w, after⟩ := found
    obtain ⟨_, rfl, _⟩ := name_eq_some_iff.mp read
    rw [identifier, leaf_append read]
    exact .both ⟨_, rfl⟩ after

/-! ## Quoted texts -/

/-- The characters of a quoted text are passed over up to the closing quote, which is left
standing. -/
theorem behindQuoted_append {quote : Char} (plain : quote ≠ '\\') {written meant : List Char}
    (body : QuotedText quote written meant) (rest : List Char) :
    behindQuoted quote (written ++ quote :: rest) = quote :: rest := by
  induction body with
  | nil => simp [behindQuoted, plain]
  | plain notQuote notEscape _ ih => simp [behindQuoted, notQuote, notEscape, ih]
  | escape _ ih => simp [behindQuoted, ih]

/-- What is passed over up to a closing quote is a quoted text. So the tree covers the same
characters as the reader of strings. -/
theorem behindQuoted_spells {quote : Char} (plain : quote ≠ '\\')
    (found : behindQuoted quote text = quote :: rest) :
    ∃ written meant, QuotedText quote written meant ∧ text = written ++ quote :: rest := by
  fun_induction behindQuoted quote text with
  | case1 c others ih =>
    obtain ⟨written, meant, body, rfl⟩ := ih found
    exact ⟨_, _, .escape body, rfl⟩
  | case2 => exact absurd (List.cons.inj found).1.symm plain
  | case3 =>
    cases found
    exact ⟨[], [], .nil, rfl⟩
  | case4 c others notEscaping notLast notQuote ih =>
    obtain ⟨written, meant, body, rfl⟩ := ih found
    have notEscape : c ≠ '\\' := by
      intro isEscape
      cases written with
      | nil => exact notEscaping quote rest isEscape rfl
      | cons d more => exact notEscaping d (more ++ quote :: rest) isEscape rfl
    exact ⟨_, _, .plain notQuote notEscape body, rfl⟩
  | case5 => cases found

/-- The characters between quotes are unescaped to what they mean. -/
theorem unescaped_written {quote : Char} {written meant : List Char}
    (body : QuotedText quote written meant) : unescaped written = some meant := by
  induction body with
  | nil => rfl
  | @plain c written _ _ notEscape _ ih => simp [unescaped, notEscape, ih]
  | escape _ ih => simp [unescaped, ih]

/-- A quoted text leaves one node inside, for the characters between the quotes. -/
theorem quoted_append {label : Label} {quote : Char} (plain : quote ≠ '\\') {written meant : List Char}
    (body : QuotedText quote written meant) (rest : List Char) :
    quoted label quote (quote :: (written ++ [quote]) ++ rest) =
      some ([.mk label written (rest.length + 1) []], rest) := by
  have opens := character_eq_some_iff.mpr (Eq.refl (quote :: (written ++ quote :: rest)))
  have covers : node label (fun text => some ([], behindQuoted quote text)) (written ++ quote :: rest) =
      some (.mk label written (rest.length + 1) [], quote :: rest) :=
    node_append (by rw [behindQuoted_append plain body])
  have closes := character_eq_some_iff.mpr (Eq.refl (quote :: rest))
  simp only [quoted, List.cons_append, List.append_assoc, List.nil_append, opens, covers, closes,
    Option.bind_eq_bind, Option.bind_some, Option.pure_def]

/-- A quoted node is read only where a quoted text stands between its quotes. -/
theorem quoted_spells {label : Label} {quote : Char} (plain : quote ≠ '\\') {inner : List Node}
    (read : quoted label quote text = some (inner, rest)) :
    ∃ written meant, QuotedText quote written meant ∧ text = quote :: (written ++ [quote]) ++ rest := by
  simp only [quoted, node, Option.map_some, Option.bind_eq_bind, Option.bind_some, Option.bind_eq_some_iff,
    Prod.exists, Option.pure_def, Option.some.injEq, Prod.mk.injEq] at read
  obtain ⟨_, between, opens, _, _, closes, rfl, rfl⟩ := read
  obtain ⟨written, meant, body, form⟩ := behindQuoted_spells plain (character_eq_some_iff.mp closes)
  refine ⟨written, meant, body, ?_⟩
  rw [character_eq_some_iff.mp opens, form]
  simp

/-- Both kinds of quotes are tried, and each tells by its first character whether it applies. -/
theorem string_append {quote : Char} (quotes : quote = '\'' ∨ quote = '"') {written meant : List Char}
    (body : QuotedText quote written meant) (rest : List Char) :
    ∃ label, string (quote :: (written ++ [quote]) ++ rest) =
      some (.mk (.construct .stringLiteral) (quote :: (written ++ [quote])) rest.length
        [.mk label written (rest.length + 1) []], rest) := by
  rcases quotes with rfl | rfl
  · refine ⟨.singleQuoted, node_append ?_⟩
    simp only [orElse, quoted_append (by decide) body rest]
  · refine ⟨.doubleQuoted, node_append ?_⟩
    have other : quoted .singleQuoted '\'' ('"' :: (written ++ ['"']) ++ rest) = none := rfl
    simp only [orElse, other, quoted_append (by decide) body rest]

/-- No node of a string is read where no string is. Were there one, its characters would be a quoted
text, which the reader of strings reads. -/
theorem string_eq_none (ends : Token.string text = none) : string text = none := by
  have unread : ∀ {label quote inner after}, quote = '\'' ∨ quote = '"' →
      quoted label quote text ≠ some (inner, after) := by
    intro label quote inner after quotes read
    have plain : quote ≠ '\\' := by rcases quotes with rfl | rfl <;> decide
    obtain ⟨written, meant, body, form⟩ := quoted_spells plain read
    have meaning := (String.toList_ofList (l := meant)).symm
    rw [meaning] at body
    have read' := string_eq_some_iff.mpr ⟨quote, written, quotes, body, form⟩
    rw [ends] at read'
    cases read'
  have neither : orElse (quoted .singleQuoted '\'') (quoted .doubleQuoted '"') text = none := by
    cases single : quoted .singleQuoted '\'' text with
    | some found => exact absurd single (unread (.inl rfl))
    | none =>
      cases double : quoted .doubleQuoted '"' text with
      | some found => exact absurd double (unread (.inr rfl))
      | none => simp only [orElse, single, double]
  rw [string, node, neither, Option.map_none]

/-! ## Literals -/

/-- An outcome of reading, as one of building. -/
def lift : Except SyntaxFailure α → Except Failure α
  | .ok a => .ok a
  | .error failure => .error (.rejected failure)

/-- Building in two steps comes to the same as reading in two steps. The lemmas on rules below use
it to move the lifting to each part. -/
theorem lift_bind {x : Except SyntaxFailure α} {f : α → Except SyntaxFailure β} :
    lift (x >>= f) = lift x >>= fun a => lift (f a) := by
  cases x <;> rfl

variable (source : List Char)

/-- From a node is built what was read there, once its literals have their meaning. -/
structure Builds (n : Node) (e : Expr Lexeme) : Prop where
  build_eq : build source n = lift (e.traverse (·.literal source))
  inside : n.label ≠ .construct .endOfInput

/-- What a lexeme means is built from the node of its characters. -/
theorem builds_lexeme {c : Construct} {w : List Char} {remaining : Nat} {inner : List Node} {lexeme : Lexeme}
    (inside : c ≠ .endOfInput)
    (built : build source (.mk (.construct c) w remaining inner) =
      lift ((lexeme.literal source).map Expr.literal)) :
    Builds source (.mk (.construct c) w remaining inner) (.literal lexeme) where
  build_eq := by
    rw [built, Expr.traverse]
    cases lexeme.literal source <;> rfl
  inside label := inside (Label.construct.inj label)

/-- The node of a literal is read where the literal is, and what is built from it is what the
literal means. The five kinds are tried in one order by both, and each case has only to compare the
one that applies. -/
theorem literal_reads : Reads (fun n l => Builds source n (.literal l)) literal Grammar.literal := by
  intro text
  -- the kinds are tried in one order by both, so each case below assumes that those before it do
  -- not apply
  cases null : keyword "null" text with
  | some found =>
    obtain ⟨⟨⟩, after⟩ := found
    obtain rfl := Grammar.keyword_spells (by decide) null
    simp only [literal, orElse, leaf_append null, Grammar.literal, null]
    refine .both ?_ after
    exact builds_lexeme source (by decide) rfl
  | none =>
  cases truth : boolean text with
  | some found =>
    obtain ⟨b, after⟩ := found
    obtain ⟨w, spelled, rfl⟩ : ∃ w, Lexeme.Spelled w 0 (.boolean b) ∧ text = w ++ after :=
      Grammar.boolean_spells truth
    simp only [literal, orElse, leaf_eq_none null, leaf_append truth, Grammar.literal, null, truth]
    refine .both ?_ after
    refine builds_lexeme source (by decide) ?_
    cases spelled <;> rfl
  | none =>
  cases decimal : float text with
  | some found =>
    obtain ⟨x, after⟩ := found
    obtain ⟨w, _, rfl, denotes⟩ := float_spells decimal
    simp only [literal, orElse, leaf_eq_none null, leaf_eq_none truth, leaf_append decimal, Grammar.literal,
      null, truth, decimal]
    refine .both ?_ after
    refine builds_lexeme source (by decide) ?_
    simp only [build, buildFloat, Node.text, denotes]
    rfl
  | none =>
  cases numeral : integer text with
  | some found =>
    obtain ⟨n, after⟩ := found
    obtain ⟨number, rfl, _⟩ := integer_eq_some_iff.mp numeral
    simp only [literal, orElse, leaf_eq_none null, leaf_eq_none truth, leaf_eq_none decimal,
      leaf_append numeral, Grammar.literal, null, truth, decimal, numeral]
    refine .both ?_ after
    refine builds_lexeme source (by decide) ?_
    simp only [build, buildInteger, Node.text, integer?_numeral number, Lexeme.literal]
    -- a numeral out of range is an error of the source in both, at the same place
    cases Reading.toInt64 n.value <;> rfl
  | none =>
  cases quotation : Token.string text with
  | some found =>
    obtain ⟨s, after⟩ := found
    obtain ⟨quote, written, quotes, body, rfl⟩ := string_eq_some_iff.mp quotation
    obtain ⟨label, read⟩ := string_append quotes body after
    simp only [literal, orElse, leaf_eq_none null, leaf_eq_none truth, leaf_eq_none decimal,
      leaf_eq_none numeral, read, Grammar.literal, null, truth, decimal, numeral, quotation, Option.map_some]
    refine .both ?_ after
    refine builds_lexeme source (by decide) ?_
    -- the node keeps the characters as they are written, and building resolves their escapes
    simp only [build, buildString, Node.inner, Node.text, unescaped_written body, String.ofList_toList]
    rfl
  | none =>
    simp only [literal, orElse, leaf_eq_none null, leaf_eq_none truth, leaf_eq_none decimal,
      leaf_eq_none numeral, string_eq_none quotation, Grammar.literal, null, truth, decimal, numeral,
      quotation, Option.map_none]
    exact .neither

/-! ## Rules -/

/-- From a node is built the root that was read there. -/
def BuildsRoot (n : Node) (r : Root Lexeme) : Prop :=
  buildRoot source n = lift (r.traverse (·.literal source))

/-- From a node is built the segment that was read there. -/
def BuildsSegment (n : Node) (s : Segment Lexeme) : Prop :=
  buildSegment source n = lift (s.traverse (·.literal source))

/-- The arguments built from nodes are those read there, with the first error of any. -/
theorem buildAll_eq {ns : List Node} {es : List (Expr Lexeme)} (all : List.Forall₂ (Builds source) ns es) :
    buildAll source ns = lift (Expr.traverseList (·.literal source) es) := by
  induction all with
  | nil => rfl
  | cons first _ ih =>
    rw [buildAll, Expr.traverseList, lift_bind, first.build_eq]
    simp only [lift_bind, ih]
    rfl

/-- The segments built from nodes are those read there, with the first error of any. -/
theorem buildSegments_eq {ns : List Node} {ss : List (Segment Lexeme)}
    (all : List.Forall₂ (BuildsSegment source) ns ss) :
    buildSegments source ns = lift (Segment.traverseList (·.literal source) ss) := by
  induction all with
  | nil => rfl
  | cons first _ ih =>
    rw [buildSegments, Segment.traverseList, lift_bind, first]
    simp only [lift_bind, ih]
    rfl

variable {source}

/-- From the node of a property is built the property. -/
theorem property_reads : Reads (BuildsSegment source) property Grammar.property := by
  refine Reads.node (S := fun inner s => ∃ n name, Names n name ∧ inner = [n] ∧ s = .property name)
    (fun text => ?_) ?_
  · refine (Beside.same (character '.' text)).bind ?_
    rintro ⟨⟩ ⟨⟩ after _
    refine (identifier_reads.spaced after).bind fun n name stop named => ?_
    exact .both ⟨n, name, named, rfl, rfl⟩ stop
  · rintro _ _ text remaining ⟨_, name, ⟨_, rfl⟩, rfl, rfl⟩
    simp only [BuildsSegment, buildSegment, buildProperty, Node.inner, Node.text, String.ofList_toList]
    rfl

section Nested

variable {nested : Reader Node} {nested' : Reader (Expr Lexeme)}
  (reads : Reads (Builds source) nested nested')

include reads

/-- A further argument is read beside its node, behind the comma. -/
theorem furtherArgument_reads :
    Reads (Builds source) (furtherArgument nested) (Grammar.furtherArgument nested') := by
  intro text
  refine (Beside.same (character ',' text)).bind ?_
  rintro ⟨⟩ ⟨⟩ after _
  exact reads.spaced after

/-- The node of the arguments holds one node for each. It is read even where there are no
arguments. -/
theorem arguments_reads :
    Reads (fun n es => List.Forall₂ (Builds source) n.inner es) (arguments nested)
      (fun text => some (Grammar.arguments nested' text)) := by
  refine Reads.node (S := List.Forall₂ (Builds source)) (fun text => ?_) fun _ _ _ _ all => all
  unfold Grammar.arguments
  rcases reads text with ⟨ends, ends'⟩ | ⟨first, first', middle, read, read', built⟩
  · rw [ends, ends']
    exact .both .nil text
  · obtain ⟨others, others', after, furtherRead, furtherRead', all⟩ :=
      (furtherArgument_reads reads).spaced.many middle
    rw [read, read']
    simp only [furtherRead, furtherRead']
    exact .both (.cons built all) after

/-- The node of a call holds its prefix, its name and its arguments, and from it is built the
call. -/
theorem call_reads : Reads (BuildsRoot source) (call nested) (Grammar.call nested') := by
  refine Reads.node (S := fun inner r => ∃ space function given spaceName functionName es,
    Names space spaceName ∧ Names function functionName ∧ List.Forall₂ (Builds source) given.inner es ∧
    inner = [space, function, given] ∧ r = .call spaceName functionName es) (fun text => ?_) ?_
  · refine (identifier_reads text).bind fun space spaceName afterSpace spaceNamed => ?_
    refine ((Reads.same (character ':')).spaced afterSpace).bind ?_
    rintro ⟨⟩ ⟨⟩ afterColon _
    refine (identifier_reads.spaced afterColon).bind fun function functionName afterName named => ?_
    refine ((Reads.same (character '(')).spaced afterName).bind ?_
    rintro ⟨⟩ ⟨⟩ inner _
    rcases arguments_reads reads (skip inner) with ⟨_, ends'⟩ | ⟨given, es, after, read, read', all⟩
    · cases ends'
    simp only [spaced, read, Option.some.inj read', Option.bind_eq_bind, Option.bind_some]
    refine ((Reads.same (character ')')).spaced after).bind ?_
    rintro ⟨⟩ ⟨⟩ stop _
    exact .both ⟨space, function, given, spaceName, functionName, es, spaceNamed, named, all, rfl, rfl⟩ stop
  -- both names are cut out of the text, and the arguments are built one by one
  · rintro _ _ text remaining
      ⟨_, _, ⟨_, _, _, given⟩, spaceName, functionName, es, ⟨_, rfl⟩, ⟨_, rfl⟩, all, rfl, rfl⟩
    have built := buildAll_eq source all
    simp only [BuildsRoot, buildRoot, Root.traverse, lift_bind, Node.text, String.ofList_toList]
    rw [← built]
    rfl

/-- From the node of an index is built the index. -/
theorem index_reads : Reads (BuildsSegment source) (index nested) (Grammar.index nested') := by
  refine Reads.node (S := fun inner s => ∃ n e, Builds source n e ∧ inner = [n] ∧ s = .index e)
    (fun text => ?_) ?_
  · refine (Beside.same (character '[' text)).bind ?_
    rintro ⟨⟩ ⟨⟩ after _
    refine (reads.spaced after).bind fun n e middle built => ?_
    refine ((Reads.same (character ']')).spaced middle).bind ?_
    rintro ⟨⟩ ⟨⟩ stop _
    exact .both ⟨n, e, built, rfl, rfl⟩ stop
  · rintro _ _ text remaining ⟨n, e, built, rfl, rfl⟩
    simp only [BuildsSegment, buildSegment, Segment.traverse, lift_bind, built.build_eq]
    rfl

/-- A call is tried first, and an identifier where there is none. -/
theorem root_reads : Reads (BuildsRoot source) (orElse (call nested) identifier) (Grammar.root nested') := by
  refine (call_reads reads).orElse fun text => ?_
  rcases identifier_reads text with ⟨ends, ends'⟩ | ⟨_, name, after, read, read', ⟨remaining, rfl⟩⟩
  · rw [ends, ends']
    exact .neither
  · rw [read, read']
    refine .both ?_ after
    simp only [BuildsRoot, buildRoot, String.ofList_toList]
    rfl

/-- The node of a path holds that of its root and then those of its segments, and from it is built
the path. -/
theorem path_reads : Reads (Builds source) (path nested) (Grammar.path nested') := by
  refine Reads.node (S := fun inner e => ∃ n ns r ss, BuildsRoot source n r ∧
    List.Forall₂ (BuildsSegment source) ns ss ∧ inner = n :: ns ∧ e = .path r ss) (fun text => ?_) ?_
  · refine (root_reads reads text).bind fun n r after built => ?_
    obtain ⟨ns, ss, stop, read, read', all⟩ := (property_reads.orElse (index_reads reads)).spaced.many after
    simp only [read, read']
    exact .both ⟨n, ns, r, ss, built, all, rfl, rfl⟩ stop
  · rintro _ _ text remaining ⟨n, ns, r, ss, built, all, rfl, rfl⟩
    refine ⟨?_, nofun⟩
    simp only [build, Expr.traverse, lift_bind]
    rw [← buildSegments_eq source all, show buildRoot source n = _ from built]
    rfl

/-- A value over readers that read side by side. -/
theorem valueOver_reads : Reads (Builds source) (valueOver nested) (Grammar.valueOver nested') := by
  refine Reads.orElse (fun text => ?_) (path_reads reads)
  rcases literal_reads source text with ⟨ends, ends'⟩ | ⟨n, l, after, read, read', built⟩
  · rw [ends, ends']
    exact .neither
  · rw [read, read']
    exact .both built after

end Nested

/-- Trees and expressions of every number of levels are read side by side, by induction on the
levels. -/
theorem value_reads (source : List Char) (levels : Nat) :
    Reads (Builds source) (value levels) (Grammar.value levels) := by
  have nothing : Reads (Builds source) (fun _ => none) (fun _ => none) := fun _ => .neither
  induction levels with
  | zero => exact valueOver_reads nothing
  | succ levels ih => exact valueOver_reads ih

/-- Building an expression from the tree of a source comes to the same as reading it. -/
theorem read_eq (source : List Char) : read source = lift (Expr.read source) := by
  unfold read Expr.read
  cases Nesting.excess? {} source with
  | some rest => rfl
  | none =>
    rcases (value_reads source Nesting.limit).spaced source with
      ⟨ends, ends'⟩ | ⟨n, e, after, valueRead, valueRead', built⟩
    · simp only [trees, trees.failed, ends, Grammar.expression?, ends', Option.bind_eq_bind, Option.bind_none]
      rfl
    · simp only [trees, trees.failed, valueRead, Grammar.expression?, valueRead', Option.bind_eq_bind,
        Option.bind_some]
      cases (skip after).isEmpty with
      | false => rfl
      | true =>
        have inside : decide (n.label ≠ .construct .endOfInput) = true := decide_eq_true built.inside
        simp only [if_true, Node.inner, List.find?_cons, inside, built.build_eq]

end PropertyPath.ParseTree
