import PropertyPath.Evaluation.Core
import PropertyPath.Proofs.Holding
import PropertyPath.Proofs.Leaves

/-!
# Stores that are alike on some values

Two stores may be alike on some values and differ everywhere else. They are alike on a value if
it has the same contents in both, and they are to be alike on what it holds as well. Then the
text of the value is the same in both, however deep it shows its contents, and so is its type.

A stock resolver that is asked for a property of such a value, by such a value, looks at nothing
else. Its answers are the same in both stores, texts of faults included, and so are the slots
that it finds for writes. A core function gives the same on such arguments.
-/

namespace PropertyPath

variable {good : Value → Prop} {s t : Store}

/-- A container, a record or a class has the same contents in two stores. Other values have no
contents. -/
def Store.SameContents (s t : Store) : Value → Prop
  | .sequence kind ref => t.items kind ref = s.items kind ref
  | .map ref => t.maps.get ref = s.maps.get ref
  | .record ref => t.records.get ref = s.records.get ref
  | .classObject ref => t.classes.get ref = s.classes.get ref
  | _ => True

/-- Every value has the same contents in one store. -/
theorem Store.sameContents_refl (s : Store) (v : Value) : s.SameContents s v := by
  cases v <;> trivial

/-- Two stores are alike on some values: these have the same contents, what they hold is among
them, and so is every value that holds nothing. -/
structure Store.Alike (s : Store) (good : Value → Prop) (t : Store) : Prop where
  contents : ∀ {v}, good v → s.SameContents t v
  held : ∀ {u}, good u → ∀ {v}, s.Holds u v → good v
  plain : ∀ {v}, v.governor? = none → good v

/-! ## Texts -/

/-- The text of a sequence shows the texts of its items. -/
theorem Store.textWithin_sequence {enclosing : List Container} {kind : SequenceKind} {ref : Ref}
    (fresh : .sequence kind ref ∉ enclosing) : s.textWithin enclosing (.sequence kind ref)
      = "[" ++ ", ".intercalate
          ((s.items kind ref).map (s.textWithin (.sequence kind ref :: enclosing))) ++ "]" := by
  rw [textWithin, dif_neg fresh]
  simp only [List.attach_map_val]

/-- The text of a map shows its keys and the texts of its entries. -/
theorem Store.textWithin_map {enclosing : List Container} {ref : Ref} (fresh : .map ref ∉ enclosing) :
    s.textWithin enclosing (.map ref)
      = "\x7b" ++ ", ".intercalate ((s.maps.get ref).entries.map fun entry =>
          entry.1 ++ "=" ++ s.textWithin (.map ref :: enclosing) entry.2) ++ "\x7d" := by
  rw [textWithin, dif_neg fresh]
  simp only [List.attach_map_val (f := fun entry : String × Value =>
    entry.1 ++ "=" ++ s.textWithin (.map ref :: enclosing) entry.2)]

namespace Store.Alike

variable (alike : s.Alike good t)

include alike

/-- Items of a sequence are among the values on which the stores are alike. -/
theorem item_good {kind : SequenceKind} {ref : Ref} (place : good (.sequence kind ref)) {item : Value}
    (member : item ∈ s.items kind ref) : good item := by
  obtain ⟨position, there⟩ := List.mem_iff_getElem?.1 member
  exact alike.held place (.ofItem there)

/-- So are the entries of a map. -/
theorem entry_good {ref : Ref} (place : good (.map ref)) {name : String} {v : Value}
    (there : (s.maps.get ref).get? name = some v) : good v := alike.held place (.ofEntry there)

/-- The text of a value without its contents is the same. Only the name of a record or a class comes
from the store, and these are part of their contents. -/
theorem scalarText_eq {v : Value} (denotes : good v) : t.scalarText v = s.scalarText v := by
  cases v with
  | record ref =>
    have same : t.records.get ref = s.records.get ref := alike.contents denotes
    rw [scalarText, scalarText, same]
  | classObject ref =>
    have same : t.classes.get ref = s.classes.get ref := alike.contents denotes
    rw [scalarText, scalarText, same]
  | marker issuer => cases issuer <;> rfl
  | _ => rfl

/-- A text shows nothing but contents of values on which the stores are alike. The induction is
that of the text, on the containers that do not enclose anything yet. -/
theorem textWithin_eq (enclosing : List Container) (v : Value) (denotes : good v) :
    t.textWithin enclosing v = s.textWithin enclosing v := by
  induction enclosing, v using Store.textWithin.induct s with
  -- an elided container shows nothing of the store
  | case1 enclosing kind ref met => rw [textWithin, textWithin, dif_pos met, dif_pos met]
  | case2 enclosing kind ref fresh hypothesis =>
    have same : t.items kind ref = s.items kind ref := alike.contents denotes
    -- items are among the values on which the stores are alike, so the hypothesis applies to them
    have texts : ∀ item ∈ s.items kind ref, t.textWithin (.sequence kind ref :: enclosing) item
        = s.textWithin (.sequence kind ref :: enclosing) item :=
      fun item member => hypothesis item member (alike.item_good denotes member)
    rw [textWithin_sequence fresh, textWithin_sequence fresh, same, List.map_congr_left texts]
  | case3 enclosing ref met => rw [textWithin, textWithin, dif_pos met, dif_pos met]
  | case4 enclosing ref fresh hypothesis =>
    have same : t.maps.get ref = s.maps.get ref := alike.contents denotes
    have texts : ∀ entry ∈ (s.maps.get ref).entries,
        entry.1 ++ "=" ++ t.textWithin (.map ref :: enclosing) entry.2
          = entry.1 ++ "=" ++ s.textWithin (.map ref :: enclosing) entry.2 := by
      rintro ⟨key, entry⟩ member
      rw [hypothesis key entry member (alike.entry_good denotes (Dictionary.get?_eq_some_iff.2 member))]
    rw [textWithin_map fresh, textWithin_map fresh, same, List.map_congr_left texts]
  | case5 enclosing v notSequence notMap =>
    cases v with
    | sequence kind ref => exact absurd rfl (notSequence kind ref)
    | map ref => exact absurd rfl (notMap ref)
    | _ =>
      simp only [textWithin]
      exact alike.scalarText_eq denotes

/-- The whole text is the same. -/
theorem text_eq {v : Value} (denotes : good v) : t.text v = s.text v := alike.textWithin_eq [] v denotes

/-- The type is the same, and with it every text of a fault that names it. -/
theorem typeOf_eq {v : Value} (denotes : good v) : t.typeOf v = s.typeOf v := by
  cases v with
  | record ref =>
    have same : t.records.get ref = s.records.get ref := alike.contents denotes
    rw [typeOf, typeOf, same]
  | _ => rfl

end Store.Alike

/-! ## Answers -/

/-- A resolver on the store answers a request alike in two stores, in all four ways. -/
structure StoreResolver.AnswersAlike (r : StoreResolver) (s t : Store) (q : Request) : Prop where
  get : r.get t q = r.get s q
  type : r.type t q = r.type s q
  readOnly : r.readOnly t q = r.readOnly s q
  target : r.target t q = r.target s q

section Answers

variable (alike : s.Alike good t) {base property : Value}

include alike

/-- Maps answer alike on stores that are alike on the base and the property. The key and the entry
under it are the same, and so is the text that a fault quotes. -/
theorem Maps.answersAlike {readOnly : Bool} (place : good base) (denotes : good property) :
    (resolver readOnly).AnswersAlike s t (.on base property) := by
  -- a fault quotes the property, and its text is the same
  have word : key t property = key s property := by rw [key, key, alike.text_eq denotes]
  have contents {ref : Ref} (isMap : map? (some base) = some ref) :
      good (.map ref) ∧ t.maps.get ref = s.maps.get ref := by
    cases base with
    | map other =>
      cases isMap
      exact ⟨place, alike.contents place⟩
    | _ => cases isMap
  constructor
  · refine Option.map_congr fun ref isMap => ?_
    obtain ⟨_, same⟩ := contents isMap
    simp only [Request.on, word, same]
  · refine Option.map_congr fun ref isMap => ?_
    obtain ⟨good', same⟩ := contents isMap
    -- types are found in the store as well, of the entry that is there
    have types (name : String) : ((s.maps.get ref).get? name).map t.typeOf
        = ((s.maps.get ref).get? name).map s.typeOf :=
      Option.map_congr fun v there => alike.typeOf_eq (alike.entry_good good' there)
    simp only [Request.on, word, same, types]
  · rfl
  · refine Option.map_congr fun ref isMap => ?_
    simp only [Request.on, word, alike.text_eq denotes]

/-- Lists and arrays answer alike. The position is found from the index and the length, and the item
there is the same. -/
theorem Sequences.answersAlike {kind : SequenceKind} {readOnly : Bool} (place : good base)
    (denotes : good property) : (resolver kind readOnly).AnswersAlike s t (.on base property) := by
  have word : index t property = index s property := by rw [index, index, alike.text_eq denotes]
  -- the position depends on the store only in the text of a fault
  have positions (length : Nat) : position t property length = position s property length := by
    rw [position, position, word]
  -- the base is a sequence of this kind, if the resolver answers at all
  have contents {ref : Ref} (isSequence : sequence? kind (some base) = some ref) :
      good (.sequence kind ref) ∧ t.items kind ref = s.items kind ref := by
    cases base with
    | sequence other inside =>
      rw [sequence?] at isSequence
      split at isSequence
      · rename_i same
        cases same
        cases isSequence
        exact ⟨place, alike.contents place⟩
      · cases isSequence
    | _ => cases isSequence
  constructor
  · refine Option.map_congr fun ref isSequence => ?_
    obtain ⟨_, same⟩ := contents isSequence
    simp only [Request.on, word, same]
  · refine Option.map_congr fun ref isSequence => ?_
    obtain ⟨good', same⟩ := contents isSequence
    have types (n : Nat) : (s.items kind ref)[n]?.map t.typeOf = (s.items kind ref)[n]?.map s.typeOf :=
      Option.map_congr fun v there => alike.typeOf_eq (alike.held good' (.ofItem there))
    simp only [Request.on, positions, same, types]
  · refine Option.map_congr fun ref isSequence => ?_
    obtain ⟨_, same⟩ := contents isSequence
    simp only [Request.on, positions, same]
  · refine Option.map_congr fun ref isSequence => ?_
    obtain ⟨_, same⟩ := contents isSequence
    simp only [Request.on, positions, same, alike.text_eq denotes]

/-- Records answer alike. The properties of the record are the same, and with them the type that a
fault names. -/
theorem Records.answersAlike {readOnly : Bool} (place : good base) (denotes : good property) :
    (resolver readOnly).AnswersAlike s t (.on base property) := by
  have contents {ref : Ref} (isRecord : record? (some base) = some ref) :
      good (.record ref) ∧ t.records.get ref = s.records.get ref := by
    cases base with
    | record other =>
      cases isRecord
      exact ⟨place, alike.contents place⟩
    | _ => cases isRecord
  -- a property is looked up in the record, and a fault quotes the name and the type
  have known {ref : Ref} (same : t.records.get ref = s.records.get ref) :
      Records.property t ref property = Records.property s ref property := by
    rw [Records.property, Records.property, same, alike.text_eq denotes]
  constructor
  · refine Option.map_congr fun ref isRecord => ?_
    simp only [Request.on, known (contents isRecord).2]
  · refine Option.map_congr fun ref isRecord => ?_
    obtain ⟨good', same⟩ := contents isRecord
    simp only [Request.on, known same]
    cases found : Records.property s ref property with
    | error x => rfl
    | ok entry =>
      have held := alike.held good' (.ofProperty (get?_of_property found))
      exact congrArg Except.ok (alike.typeOf_eq held)
  · refine Option.map_congr fun ref isRecord => ?_
    simp only [Request.on, known (contents isRecord).2]
  · refine Option.map_congr fun ref isRecord => ?_
    obtain ⟨_, same⟩ := contents isRecord
    simp only [Request.on, known same, same, alike.text_eq denotes]

omit alike in
/-- A field that is found is held by the class, so its value is one on which the stores are
alike. -/
theorem Classes.holds_of_field {ref : Ref} {found : String × Field}
    (known : field s ref property = .ok found) : s.Holds (.classObject ref) found.2.value := by
  simp only [field] at known
  cases there : (s.classes.get ref).staticField? (property.key?.getD "") with
  | none => rw [there] at known; cases known
  | some entry =>
    rw [there] at known
    cases known
    exact .ofField there

/-- Classes answer alike, if the loader finds the same class under a name. The hypothesis is needed
at the marker alone: a registry belongs to no value, so likeness on values says nothing about it. -/
theorem Classes.answersAlike {loader : Loader} (place : good base) (denotes : good property)
    (registered : base = .marker .classes → loader.load? t = loader.load? s) :
    (resolver loader).AnswersAlike s t (.on base property) := by
  -- a claim on a field is on a class, which has the same fields
  have contents {ref : Ref} (claimed : claim? (.on base property) = some (.fieldOf ref)) :
      good (.classObject ref) ∧ t.classes.get ref = s.classes.get ref := by
    cases base with
    | classObject other =>
      cases claimed
      exact ⟨place, alike.contents place⟩
    | marker issuer => cases issuer <;> cases claimed
    | _ => cases claimed
  -- a claim on a name is on the marker, where the loaders are assumed to agree
  have entry (claimed : claim? (.on base property) = some .namespaceEntry) :
      load loader t property = load loader s property := by
    cases base with
    | marker issuer =>
      cases issuer with
      | classes => rw [load, load, registered rfl]
      | colors => cases claimed
    | _ => cases claimed
  have known {ref : Ref} (same : t.classes.get ref = s.classes.get ref) :
      field t ref property = field s ref property := by
    rw [field, field, same]
  constructor
  · refine Option.map_congr fun claim claimed => ?_
    cases claim with
    | root => rfl
    | namespaceEntry => simp only [Request.on, entry claimed]
    | fieldOf ref => simp only [Request.on, known (contents claimed).2]
  · refine Option.map_congr fun claim claimed => ?_
    cases claim with
    | root => rfl
    | namespaceEntry => simp only [Request.on, entry claimed]
    | fieldOf ref =>
      obtain ⟨good', same⟩ := contents claimed
      simp only [Request.on, known same]
      cases found : field s ref property with
      | error x => rfl
      | ok entry => exact congrArg Except.ok (alike.typeOf_eq (alike.held good' (holds_of_field found)))
  · refine Option.map_congr fun claim claimed => ?_
    cases claim with
    | root => rfl
    | namespaceEntry => rfl
    | fieldOf ref => simp only [Request.on, known (contents claimed).2]
  · refine Option.map_congr fun claim claimed => ?_
    cases claim with
    | root => rfl
    | namespaceEntry => simp only [Request.on, alike.text_eq denotes]
    | fieldOf ref =>
      obtain ⟨_, same⟩ := contents claimed
      simp only [Request.on, known same, same, alike.text_eq denotes]

/-- Colors answer alike. They keep nothing in the store, and only a fault quotes a text from it. -/
theorem Colors.answersAlike {q : Request} (denotes : good q.property) : resolver.AnswersAlike s t q := by
  refine ⟨rfl, rfl, rfl, Option.map_congr fun claim _ => ?_⟩
  cases claim with
  | root => simp only [alike.text_eq denotes]
  | palette => simp only [alike.text_eq denotes]

/-- A stock resolver answers alike for a property of a value on which the stores are alike, asked
for by another. Behind the marker of classes the registries have to be the same. -/
theorem Stock.answersAlike_on {r : Stock} (place : good base) (denotes : good property)
    (registered : base = .marker .classes → ∀ loader, r = .classes loader → loader.load? t = loader.load? s) :
    r.behaviour.AnswersAlike s t (.on base property) := by
  cases r with
  | locals scope => exact ⟨rfl, rfl, rfl, rfl⟩
  | maps readOnly => exact Maps.answersAlike alike place denotes
  | sequences kind readOnly => exact Sequences.answersAlike alike place denotes
  | records readOnly => exact Records.answersAlike alike place denotes
  | classes loader => exact Classes.answersAlike alike place denotes fun marker => registered marker loader rfl
  | colors => exact Colors.answersAlike alike denotes
  | implicit root value => exact ⟨rfl, rfl, rfl, rfl⟩

/-- At the root it does if the local variable of the name is the same, and a value to which the
name leads is one on which the stores are alike. -/
theorem Stock.answersAlike_root {r : Stock} {name : String}
    (same : ∀ scope, r = .locals scope → (t.locals scope).get? name = (s.locals scope).get? name)
    (found : ∀ v, r.behaviour.get s (.root name) = some (.ok v) → good v) :
    r.behaviour.AnswersAlike s t (.root name) := by
  cases r with
  | locals scope =>
    have here := same scope rfl
    have types : ((t.locals scope).get? name).map (fun v => Except.ok (ε := Fault) (t.typeOf v))
        = ((s.locals scope).get? name).map fun v => .ok (s.typeOf v) := by
      rw [here]
      refine Option.map_congr fun v there => congrArg Except.ok (alike.typeOf_eq (found v ?_))
      exact congrArg (Option.map Except.ok) there
    exact ⟨congrArg (Option.map Except.ok) here, types, rfl, rfl⟩
  | implicit root value =>
    refine ⟨rfl, ?_, rfl, rfl⟩
    simp only [behaviour, Implicit.resolver]
    split
    · rename_i named
      have read : (Implicit.resolver root value).get s (.root name) = some (.ok value) := if_pos named
      rw [alike.typeOf_eq (found value read)]
    · rfl
  -- collections leave the root to others, in every store
  | maps readOnly => exact ⟨rfl, rfl, rfl, rfl⟩
  | sequences kind readOnly => exact ⟨rfl, rfl, rfl, rfl⟩
  | records readOnly => exact ⟨rfl, rfl, rfl, rfl⟩
  | classes loader =>
    -- at the root the namespace claims its own name, and answers with its marker
    have root : ∀ claim, Classes.claim? (.root name) = some claim → claim = .root := by
      intro claim claimed
      change (if some name = some Classes.root then some Classes.Claim.root else none) = _ at claimed
      by_cases named : some name = some Classes.root
      · rw [if_pos named] at claimed
        exact (Option.some.inj claimed).symm
      · rw [if_neg named] at claimed
        cases claimed
    constructor
    · exact Option.map_congr fun claim claimed => by rw [root claim claimed]
    · exact Option.map_congr fun claim claimed => by rw [root claim claimed]
    · exact Option.map_congr fun claim claimed => by rw [root claim claimed]
    · exact Option.map_congr fun claim claimed => by rw [root claim claimed]
  | colors => exact Colors.answersAlike alike (alike.plain rfl)

end Answers

/-- Searches that agree on every candidate find the same. -/
theorem findSome?_congr {α β : Type} {f g : α → Option β} {candidates : List α}
    (same : ∀ x ∈ candidates, f x = g x) : candidates.findSome? f = candidates.findSome? g := by
  induction candidates with
  | nil => rfl
  | cons first rest hypothesis =>
    rw [List.findSome?_cons, List.findSome?_cons, same first List.mem_cons_self,
      hypothesis fun x later => same x (List.mem_cons_of_mem first later)]

/-- So does a chain whose leaves do. -/
theorem Assembly.answersAlike {members : List Assembly} {q : Request}
    (leaves : ∀ r ∈ leavesOf members, r.behaviour.AnswersAlike s t q) :
    (behaviour (.nested members)).AnswersAlike s t q := by
  constructor
  · rw [get_eq_leaves, get_eq_leaves]
    exact findSome?_congr fun r member => (leaves r member).get
  · rw [type_eq_leaves, type_eq_leaves]
    exact findSome?_congr fun r member => (leaves r member).type
  · rw [readOnly_eq_leaves, readOnly_eq_leaves]
    exact findSome?_congr fun r member => (leaves r member).readOnly
  · rw [target_eq_leaves, target_eq_leaves]
    exact findSome?_congr fun r member => (leaves r member).target

/-! ## Core functions -/

namespace CoreFunction

section Alike

variable (alike : s.Alike good t)

include alike

/-- The text that a function makes of an argument is the same. -/
theorem textOf_eq {v : Value} (denotes : good v) : textOf t v = textOf s v := by
  rw [textOf, textOf, alike.text_eq denotes]

/-- The length is the same. -/
theorem lengthOf_eq {v : Value} (denotes : good v) : lengthOf t v = lengthOf s v := by
  cases v with
  | sequence kind ref =>
    have same : t.items kind ref = s.items kind ref := alike.contents denotes
    rw [lengthOf, lengthOf, same]
  | map ref =>
    have same : t.maps.get ref = s.maps.get ref := alike.contents denotes
    rw [lengthOf, lengthOf, same]
  | _ => simp only [lengthOf, textOf_eq alike denotes]

/-- Joining gives the same, since items are alike where their sequence is. -/
theorem joined_eq {separator sequence : Value} (denotes : good separator) (denotes' : good sequence) :
    joined t separator sequence = joined s separator sequence := by
  cases sequence with
  | sequence kind ref =>
    have same : t.items kind ref = s.items kind ref := alike.contents denotes'
    have texts : (s.items kind ref).map (textOf t) = (s.items kind ref).map (textOf s) :=
      List.map_congr_left fun item member => textOf_eq alike (alike.item_good denotes' member)
    change Except.ok ((textOf t separator).intercalate ((t.items kind ref).map (textOf t)))
      = .ok ((textOf s separator).intercalate ((s.items kind ref).map (textOf s)))
    rw [same, texts, textOf_eq alike denotes]
  | null => exact congrArg (fun text => Except.ok (String.intercalate text [])) (textOf_eq alike denotes)
  | _ =>
    exact congrArg (fun type => Except.error (Fault.invocation (.notJoinable type)))
      (alike.typeOf_eq denotes')

/-- Asking whether one value contains another gives the same. -/
theorem holds_eq {whole part : Value} (denotes : good whole) (denotes' : good part) :
    holds t whole part = holds s whole part := by
  cases whole with
  | sequence kind ref =>
    have same : t.items kind ref = s.items kind ref := alike.contents denotes
    rw [holds, holds, same]
  | map ref =>
    have same : t.maps.get ref = s.maps.get ref := alike.contents denotes
    rw [holds, holds, same]
  | _ => simp only [holds, textOf_eq alike denotes, textOf_eq alike denotes']

/-- A core function gives the same on arguments on which the stores are alike. -/
theorem apply_eq (f : CoreFunction) {arguments : List Value} (taken : ∀ a ∈ arguments, good a) :
    f.apply t arguments = f.apply s arguments := by
  have argument (n : Nat) : good (arguments[n]?.getD .null) := by
    cases there : arguments[n]? with
    | none => exact alike.plain rfl
    | some a => exact taken a (List.mem_of_getElem? there)
  cases f with
  | length => simp only [apply, lengthOf_eq alike (argument 0)]
  | join => simp only [apply, joined_eq alike (argument 0) (argument 1)]
  | toUpperCase => simp only [apply, textOf_eq alike (argument 0)]
  | toLowerCase => simp only [apply, textOf_eq alike (argument 0)]
  | contains => simp only [apply, holds_eq alike (argument 0) (argument 1)]

end Alike

end CoreFunction

end PropertyPath
