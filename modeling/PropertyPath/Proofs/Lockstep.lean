import Mathlib.Data.List.Forall2
import PropertyPath.Proofs.Absence
import PropertyPath.Proofs.Printing

/-!
# Lists and arrays in step

A sequence on its own is a list of items. It replies to requests, and a write that succeeds puts a
value in the place of an item. Lists and arrays are both such a sequence; they differ in the word for
their kind, which only the refusal of a write mentions.

So a list and an array with the same items reply alike, and have the same items again. Replies show
texts and types of other values, which the store has: the texts of properties, and of these only the
ones that name no item, so a reply that comes with a change shows none. A list and an array that are
asked in turn are therefore in step whatever they are asked. If each is asked on its own, the
properties must not reach the two themselves, for their texts would show what was written to one of
them.
-/

namespace PropertyPath

variable {ρ : Type}

/-! ## Inquiries -/

/-- A request about one base, or the question which names there are on it. -/
inductive Inquiry where
  | get (property : Value)
  | type (property : Value)
  | readOnly (property : Value)
  | set (property value : Value)
  | features

/-- What a resolver says to an inquiry. -/
inductive Reply where
  | value (answer : Answer Value)
  | type (answer : Answer ValueType)
  | readOnly (answer : Answer Bool)
  | written (answer : Answer Unit)
  | features (listed : List Feature)

namespace Inquiry

/-- The property that an inquiry is about. -/
def property? : Inquiry → Option Value
  | get property | type property | readOnly property | set property _ => some property
  | features => none

/-- Makes an inquiry of a resolver about a base. -/
def ask (r : Resolver ρ) (base : Value) : Inquiry → Action ρ Reply
  | get property => do return .value (← r.get (.on base property))
  | type property => do return .type (← r.type (.on base property))
  | readOnly property => do return .readOnly (← r.readOnly (.on base property))
  | set property value => do return .written (← r.set (.on base property) value)
  | features => do return .features (← r.features (some base))

end Inquiry

namespace Reply

/-- The reply with the word for another kind of sequence in a refusal. -/
def ofKind (kind : SequenceKind) : Reply → Reply
  | written (some (.error (.notWritable (.readOnlySequence _ property)))) =>
    written (some (.error (.notWritable (.readOnlySequence kind property))))
  | reply => reply

/-- A list and an array reply the same, each with the word for its kind. -/
def Alike (ofList ofArray : Reply) : Prop :=
  ofArray = ofList.ofKind .array ∧ ofList = ofArray.ofKind .list

end Reply

namespace Sequences

/-- Asks the resolver of a kind of sequence about a sequence of that kind. -/
def ask (kind : SequenceKind) (readOnly : Bool) (ref : Ref) : Inquiry → Action ρ Reply :=
  Inquiry.ask (Stock.sequences kind readOnly).resolver (.sequence kind ref)

/-- Asks about one sequence, one inquiry after another. -/
def askAll (kind : SequenceKind) (readOnly : Bool) (ref : Ref) : List Inquiry → Action ρ (List Reply)
  | [] => return []
  | inquiry :: rest => do
    let reply ← ask kind readOnly ref inquiry
    return reply :: (← askAll kind readOnly ref rest)

/-- Asks about a list and then about an array, one inquiry after another. -/
def askBoth (readOnly : Bool) (l a : Ref) : List Inquiry → Action ρ (List (Reply × Reply))
  | [] => return []
  | inquiry :: rest => do
    let ofList ← ask .list readOnly l inquiry
    let ofArray ← ask .array readOnly a inquiry
    return (ofList, ofArray) :: (← askBoth readOnly l a rest)

/-! ## Positions -/

/-- The position that the index of a property comes to within a length. -/
def place? (property : Value) (length : Nat) : Option Nat := property.index?.bind (position? · length)

/-- A property names a position: its index is the position, within the length. -/
def Names (property : Value) (length i : Nat) : Prop :=
  ∃ index, property.index? = some index ∧ index.toInt = i ∧ i < length

/-- A property names a position exactly if that is the place of its index. -/
theorem names_iff {property : Value} {length i : Nat} :
    Names property length i ↔ place? property length = some i := by
  simp only [Names, place?, Option.bind_eq_some_iff]
  apply exists_congr
  intro index
  apply and_congr_right
  intro _
  simp only [position?, Option.ite_none_right_eq_some, Option.some.injEq]
  omega

/-- Why a property has no position within a length. -/
def missing (s : Store) (property : Value) (length : Nat) : Absence :=
  match property.index? with
  | some index => .outOfBounds index length
  | none => .index (s.text property)

/-- The resolver finds the place of the index, or tells why there is none. -/
theorem position_eq (s : Store) (property : Value) (length : Nat) : position s property length =
    match place? property length with
    | some i => .ok i
    | none => .error (.notFound (missing s property length)) := by
  cases denoted : property.index? with
  | none =>
    simp only [position, Sequences.index, place?, missing, denoted, Option.bind_none]
    rfl
  | some index =>
    simp only [position, Sequences.index, place?, missing, denoted, Option.bind_some, bind, Except.bind]
    cases position? index length <;> rfl

/-! ## A sequence on its own -/

/-- What a sequence replies. The store is looked at for texts and types. -/
def reply (kind : SequenceKind) (readOnly : Bool) (s : Store) (items : List Value) : Inquiry → Reply
  | .get property => .value <| some <|
      match place? property items.length, property.index? with
      | some i, _ => .ok (items[i]?.getD .null)
      | none, some _ => .ok .null
      | none, none => .error (.notFound (missing s property items.length))
  | .type property => .type <| some <| (position s property items.length).map fun i =>
      (items[i]?.map s.typeOf).getD .any
  | .readOnly property => .readOnly <| some <| (position s property items.length).map fun _ => readOnly
  | .set property _ => .written <| some <|
      if readOnly then .error (.notWritable (.readOnlySequence kind (s.text property)))
      else (position s property items.length).map fun _ => ()
  | .features => .features (items.mapIdx fun i item => { name := toString i, type := s.typeOf item })

/-- The position that an inquiry writes to, and the value. -/
def written? (readOnly : Bool) (length : Nat) : Inquiry → Option (Nat × Value)
  | .set property value => if readOnly then none else (place? property length).map (·, value)
  | _ => none

end Sequences

/-- A world after a value took the place of an item, or none did. -/
def World.placing (w : World ρ) (kind : SequenceKind) (ref : Ref) : Option (Nat × Value) → World ρ
  | none => w
  | some entry => { w with store := w.store.put (.item kind ref entry.1) entry.2 }

namespace Sequences

/-- What the resolver of a kind says of a sequence, and what it does, is what the sequence does on its own
with the items that the store has for it. -/
theorem outcome_ask (kind : SequenceKind) (readOnly : Bool) (ref : Ref) (inquiry : Inquiry) (w : World ρ) :
    (ask kind readOnly ref inquiry).outcome w
      = (reply kind readOnly w.store (w.store.items kind ref) inquiry,
          w.placing kind ref (written? readOnly (w.store.items kind ref).length inquiry)) := by
  have own : sequence? kind (some (.sequence kind ref)) = some ref := if_pos rfl
  simp only [ask, Stock.resolver, Stock.behaviour]
  -- each request is the one of the resolver on the base, with the position of the property written
  -- out
  cases inquiry with
  | get property =>
    simp only [Inquiry.ask, Action.outcome_bind, StoreResolver.outcome_get, Action.outcome_pure, resolver,
      Request.on, own, Option.map_some, reply, written?, World.placing]
    cases denoted : property.index? with
    | none =>
      simp only [index, place?, missing, denoted, Option.bind_none]
      rfl
    | some index =>
      simp only [Sequences.index, place?, denoted, Option.bind_some, bind, Except.bind]
      cases position? index (w.store.items kind ref).length <;> rfl
  | type property =>
    simp only [Inquiry.ask, Action.outcome_bind, StoreResolver.outcome_type, Action.outcome_pure, resolver,
      Request.on, own, Option.map_some, reply, written?, World.placing]
    cases position w.store property (w.store.items kind ref).length <;> rfl
  | readOnly property =>
    simp only [Inquiry.ask, Action.outcome_bind, StoreResolver.outcome_readOnly, Action.outcome_pure, resolver,
      Request.on, own, Option.map_some, reply, written?, World.placing]
    cases position w.store property (w.store.items kind ref).length <;> rfl
  | set property value =>
    simp only [Inquiry.ask, Action.outcome_bind, StoreResolver.outcome_set, Action.outcome_pure, StoreResolver.write,
      resolver, Request.on, own, Option.map_some, reply, written?, position_eq]
    cases readOnly with
    | true => rfl
    | false => cases place? property (w.store.items kind ref).length <;> rfl
  | features =>
    simp only [Inquiry.ask, Action.outcome_bind, StoreResolver.outcome_features, Action.outcome_pure, resolver,
      own, reply, written?, World.placing]

/-- The kind of a sequence shows in refusals only. -/
theorem ofKind_reply (kind other : SequenceKind) (readOnly : Bool) (s : Store) (items : List Value)
    (inquiry : Inquiry) :
    (reply kind readOnly s items inquiry).ofKind other = reply other readOnly s items inquiry := by
  cases inquiry with
  | set property value =>
    cases readOnly with
    | true => rfl
    | false =>
      simp only [reply, position_eq]
      cases place? property items.length <;> rfl
  | _ => rfl

/-- A list and an array with the same items reply alike to every inquiry. -/
theorem alike_reply (readOnly : Bool) (s : Store) (items : List Value) (inquiry : Inquiry) :
    (reply .list readOnly s items inquiry).Alike (reply .array readOnly s items inquiry) :=
  ⟨(ofKind_reply ..).symm, (ofKind_reply ..).symm⟩

/-- A reply is the same in another store with the same types, and with the same text of the property
unless something is written. -/
theorem reply_congr {s t : Store} {kind : SequenceKind} {readOnly : Bool} {items : List Value} {inquiry : Inquiry}
    (types : ∀ v, t.typeOf v = s.typeOf v)
    (texts : written? readOnly items.length inquiry = none →
      ∀ property, inquiry.property? = some property → t.text property = s.text property) :
    reply kind readOnly t items inquiry = reply kind readOnly s items inquiry := by
  have missing_congr : ∀ property, t.text property = s.text property →
      missing t property items.length = missing s property items.length := by
    intro property same
    simp only [missing, same]
  have types_eq : t.typeOf = s.typeOf := funext types
  cases inquiry with
  | get property | type property | readOnly property =>
    simp only [reply, position_eq, types_eq, missing_congr property (texts rfl property rfl)]
  | set property value =>
    cases readOnly with
    | true => simp only [reply, if_true, texts rfl property rfl]
    | false =>
      simp only [reply, position_eq, Bool.false_eq_true, if_false]
      cases placed : place? property items.length with
      | none =>
        -- a fault quotes the property, and then nothing is written
        have nothing : written? false items.length (.set property value) = none := by simp [written?, placed]
        simp only [missing_congr property (texts nothing property rfl)]
      | some i => rfl
  | features => simp only [reply, types_eq]

end Sequences

/-! ## What a write leaves alone -/

/-- A store is another one, but for the parts of one container. -/
structure Store.SameBut (c : Container) (s t : Store) : Prop where
  types : ∀ v, t.typeOf v = s.typeOf v
  scalars : ∀ v, t.scalarText v = s.scalarText v
  parts : ∀ d, d ≠ c → t.parts d = s.parts d

/-- What does not reach the container has the same text. -/
theorem Store.SameBut.text {c : Container} {s t : Store} (same : s.SameBut c t) {v : Value}
    (apart : ¬s.Reaches v c) : t.text v = s.text v := by
  have texts : s.textWithin [] v = t.textWithin [] v := by
    apply textWithin_congr v same.scalars
    · intro d reached
      apply same.parts d
      rintro rfl
      exact apart reached
    · intro d _
      exact Iff.rfl
  exact texts.symm

/-- Every store is the same as itself. -/
theorem Store.SameBut.refl (c : Container) (s : Store) : s.SameBut c s := ⟨fun _ => rfl, fun _ => rfl, fun _ _ => rfl⟩

/-- Two changes to one container leave the others as they were. -/
theorem Store.SameBut.trans {c : Container} {s t u : Store} (first : s.SameBut c t) (second : t.SameBut c u) :
    s.SameBut c u where
  types v := (second.types v).trans (first.types v)
  scalars v := (second.scalars v).trans (first.scalars v)
  parts d distinct := (second.parts d distinct).trans (first.parts d distinct)

namespace World

variable (w : World ρ) {kind otherKind : SequenceKind} {ref otherRef : Ref}

/-- An item that is placed stands in its sequence. -/
theorem items_placing (item? : Option (Nat × Value)) : (w.placing kind ref item?).store.items kind ref =
    item?.elim (w.store.items kind ref) fun entry => (w.store.items kind ref).set entry.1 entry.2 := by
  cases item? with
  | none => rfl
  | some entry => exact Store.items_setItems_self ..

/-- Every other sequence has the items that it had. -/
theorem items_placing_of_ne (distinct : (otherKind, otherRef) ≠ (kind, ref)) (item? : Option (Nat × Value)) :
    (w.placing kind ref item?).store.items otherKind otherRef = w.store.items otherKind otherRef := by
  cases item? with
  | none => rfl
  | some entry => exact Store.items_setItems_of_ne _ distinct _

/-- Placing an item makes no sequence longer or shorter. -/
theorem length_placing (item? : Option (Nat × Value)) :
    ((w.placing kind ref item?).store.items kind ref).length = (w.store.items kind ref).length := by
  cases item? with
  | none => rfl
  | some entry => exact Store.length_items_put ..

/-- Placing an item changes the parts of its sequence alone. -/
theorem sameBut_placing (item? : Option (Nat × Value)) :
    w.store.SameBut (.sequence kind ref) (w.placing kind ref item?).store := by
  constructor
  · intro v
    cases item? <;> cases kind <;> cases v <;> rfl
  · intro v
    cases item? <;> cases kind <;> cases v <;> rfl
  · intro d distinct
    cases d with
    | sequence otherKind otherRef =>
      have apart : (otherKind, otherRef) ≠ (kind, ref) := by
        rintro ⟨⟩
        exact distinct rfl
      simp only [Store.parts, w.items_placing_of_ne apart]
    | map ref => cases item? <;> cases kind <;> rfl

/-- No inquiry changes more than the sequence it is about. A run of inquiries about one sequence
therefore leaves the other alone, even if one of them holds the other. -/
theorem sameBut_ask (kind : SequenceKind) (readOnly : Bool) (ref : Ref) (inquiry : Inquiry) :
    w.store.SameBut (.sequence kind ref) ((Sequences.ask kind readOnly ref inquiry).outcome w).2.store := by
  rw [Sequences.outcome_ask]
  exact w.sameBut_placing _

end World

namespace Sequences

/-! ## In step -/

variable {readOnly : Bool} {l a : Ref} {v w : World ρ}

/-- A list and an array with the same items, in worlds of the same types and texts, reply alike and
have the same items again. A reply to a write that succeeds shows no text. -/
theorem ask_alike (readOnly : Bool) (same : v.store.items .list l = w.store.items .array a)
    (types : ∀ u, v.store.typeOf u = w.store.typeOf u) (inquiry : Inquiry)
    (texts : written? readOnly (w.store.items .array a).length inquiry = none →
      ∀ property, inquiry.property? = some property → v.store.text property = w.store.text property) :
    ((ask .list readOnly l inquiry).outcome v).1.Alike ((ask .array readOnly a inquiry).outcome w).1 ∧
      ((ask .list readOnly l inquiry).outcome v).2.store.items .list l
        = ((ask .array readOnly a inquiry).outcome w).2.store.items .array a := by
  rw [outcome_ask, outcome_ask, same]
  constructor
  · rw [reply_congr types texts]
    exact alike_reply ..
  · rw [v.items_placing, w.items_placing, same]

/-- The list is asked first. What it stores is out of sight of the array, and of its reply as well. -/
theorem askBoth_step (readOnly : Bool) (same : w.store.items .list l = w.store.items .array a) (inquiry : Inquiry) :
    ∃ ofList ofArray left, (∀ rest, (askBoth readOnly l a (inquiry :: rest)).outcome w =
        ((ofList, ofArray) :: ((askBoth readOnly l a rest).outcome left).1,
          ((askBoth readOnly l a rest).outcome left).2)) ∧
      ofList.Alike ofArray ∧ left.store.items .list l = left.store.items .array a ∧
      (left.store.items .list l).length = (w.store.items .list l).length := by
  -- the world after the list was asked, in which the array is asked
  let between := ((ask .list readOnly l inquiry).outcome w).2
  have reached : between = w.placing .list l (written? readOnly (w.store.items .list l).length inquiry) :=
    congrArg Prod.snd (outcome_ask .list readOnly l inquiry w)
  have untouched : between.store.items .array a = w.store.items .array a := by
    rw [reached]
    exact w.items_placing_of_ne (by simp) _
  have types : ∀ u, w.store.typeOf u = between.store.typeOf u :=
    fun u => ((w.sameBut_ask .list readOnly l inquiry).types u).symm
  -- a text is quoted where nothing is stored, and there the world is the same
  have texts : written? readOnly (between.store.items .array a).length inquiry = none →
      ∀ property, inquiry.property? = some property → w.store.text property = between.store.text property := by
    intro nothing property _
    rw [untouched, ← same] at nothing
    rw [reached, nothing]
    rfl
  obtain ⟨alike, equal⟩ := ask_alike readOnly (same.trans untouched.symm) types inquiry texts
  refine ⟨_, _, ((ask .array readOnly a inquiry).outcome between).2, fun rest => rfl, alike, ?_, ?_⟩
  · rw [← equal, outcome_ask]
    exact between.items_placing_of_ne (by simp) _
  · rw [outcome_ask, between.items_placing_of_ne (by simp), reached, w.length_placing]

/-- A list and an array that are asked in turn are in step. -/
theorem askBoth_alike (inquiries : List Inquiry) (same : w.store.items .list l = w.store.items .array a) :
    ∃ replies left, (askBoth readOnly l a inquiries).outcome w = (replies, left) ∧
      replies.length = inquiries.length ∧ (∀ pair ∈ replies, pair.1.Alike pair.2) ∧
      left.store.items .list l = left.store.items .array a ∧
      (left.store.items .list l).length = (w.store.items .list l).length := by
  induction inquiries generalizing w with
  | nil => exact ⟨[], w, rfl, rfl, fun _ member => absurd member List.not_mem_nil, same, rfl⟩
  | cons inquiry rest ih =>
    obtain ⟨ofList, ofArray, between, asked, alike, same, kept⟩ := askBoth_step readOnly same inquiry
    obtain ⟨replies, left, outcome, count, others, same, lengths⟩ := ih same
    refine ⟨(ofList, ofArray) :: replies, left, ?_, ?_, ?_, same, lengths.trans kept⟩
    · rw [asked rest, outcome]
    · rw [List.length_cons, List.length_cons, count]
    · rintro pair (_ | ⟨_, member⟩)
      · exact alike
      · exact others pair member

/-- The first inquiry is made in the world as it is, and the others in the world that it leaves. -/
theorem outcome_askAll_cons (kind : SequenceKind) (ref : Ref) (inquiry : Inquiry) (rest : List Inquiry) :
    (askAll kind readOnly ref (inquiry :: rest)).outcome w =
      (((ask kind readOnly ref inquiry).outcome w).1 ::
        ((askAll kind readOnly ref rest).outcome ((ask kind readOnly ref inquiry).outcome w).2).1,
        ((askAll kind readOnly ref rest).outcome ((ask kind readOnly ref inquiry).outcome w).2).2) := rfl

/-- A list and an array that are asked each on its own are in step as well, in worlds that are another
one but for the sequences themselves, if no property reaches one of these there. -/
theorem askAll_alike {s : Store} (inquiries : List Inquiry)
    (same : v.store.items .list l = w.store.items .array a)
    (aside : s.SameBut (.sequence .list l) v.store) (aside' : s.SameBut (.sequence .array a) w.store)
    (apart : ∀ inquiry ∈ inquiries, ∀ property, inquiry.property? = some property →
      ¬s.Reaches property (.sequence .list l) ∧ ¬s.Reaches property (.sequence .array a)) :
    ∃ replies replies' left left', (askAll .list readOnly l inquiries).outcome v = (replies, left) ∧
      (askAll .array readOnly a inquiries).outcome w = (replies', left') ∧
      replies.length = inquiries.length ∧ List.Forall₂ Reply.Alike replies replies' ∧
      left.store.items .list l = left'.store.items .array a ∧
      (left.store.items .list l).length = (v.store.items .list l).length := by
  induction inquiries generalizing v w with
  | nil => exact ⟨[], [], v, w, rfl, rfl, rfl, .nil, same, rfl⟩
  | cons inquiry rest ih =>
    have types : ∀ u, v.store.typeOf u = w.store.typeOf u :=
      fun u => (aside.types u).trans (aside'.types u).symm
    -- the property reaches neither sequence, so what was written to them does not show in its text
    have texts : ∀ property, inquiry.property? = some property → v.store.text property = w.store.text property := by
      intro property about
      obtain ⟨below, below'⟩ := apart inquiry List.mem_cons_self property about
      exact (aside.text below).trans (aside'.text below').symm
    obtain ⟨alike, same⟩ := ask_alike readOnly same types inquiry fun _ => texts
    -- after one more inquiry each world still differs from the first in its own sequence only
    have aside := aside.trans (v.sameBut_ask .list readOnly l inquiry)
    have aside' := aside'.trans (w.sameBut_ask .array readOnly a inquiry)
    obtain ⟨replies, replies', left, left', outcome, outcome', count, others, same, lengths⟩ :=
      ih same aside aside' fun later member => apart later (List.mem_cons_of_mem inquiry member)
    refine ⟨_ :: replies, _ :: replies', left, left', ?_, ?_, ?_, .cons alike others, same, ?_⟩
    · rw [outcome_askAll_cons, outcome]
    · rw [outcome_askAll_cons, outcome']
    · rw [List.length_cons, List.length_cons, count]
    · rw [lengths, outcome_ask, v.length_placing]

/-! ## What is reached -/

/-- Requests about a property reach an item: it is read, and it is what a write replaces, unless the
sequence is read-only. There is such an item. -/
structure Reached (w : World ρ) (kind : SequenceKind) (readOnly : Bool) (ref : Ref) (property : Value)
    (i : Nat) (item : Value) : Prop where
  stands : (w.store.items kind ref)[i]? = some item
  get : (ask kind readOnly ref (.get property)).outcome w = (.value (some (.ok item)), w)
  type : (ask kind readOnly ref (.type property)).outcome w
    = (.type (some (.ok (w.store.typeOf item))), w)
  allows : (ask kind readOnly ref (.readOnly property)).outcome w = (.readOnly (some (.ok readOnly)), w)
  set : ∀ value, (ask kind readOnly ref (.set property value)).outcome w =
    if readOnly then
      (.written (some (.error (.notWritable (.readOnlySequence kind (w.store.text property))))), w)
    else (.written (some (.ok ())), w.placing kind ref (some (i, value)))

/-- Requests about a property reach no item. Only an index without an item can be read, as null, and
nothing is written. -/
structure Missed (w : World ρ) (kind : SequenceKind) (readOnly : Bool) (ref : Ref) (property : Value) :
    Prop where
  get : (ask kind readOnly ref (.get property)).outcome w =
    (.value (some (if property.index?.isSome then .ok .null
      else .error (.notFound (.index (w.store.text property))))), w)
  type : (ask kind readOnly ref (.type property)).outcome w =
    (.type (some (.error (.notFound (missing w.store property (w.store.items kind ref).length)))), w)
  allows : (ask kind readOnly ref (.readOnly property)).outcome w =
    (.readOnly (some (.error (.notFound (missing w.store property (w.store.items kind ref).length)))), w)
  set : ∀ value, (ask kind readOnly ref (.set property value)).outcome w =
    (.written (some (.error (if readOnly then .notWritable (.readOnlySequence kind (w.store.text property))
      else .notFound (missing w.store property (w.store.items kind ref).length)))), w)

variable {kind : SequenceKind} {ref : Ref} {property : Value} {i : Nat}

/-- The position of the index within the length is the one that is reached. -/
theorem exists_reached (readOnly : Bool) (placed : place? property (w.store.items kind ref).length = some i) :
    ∃ item, Reached w kind readOnly ref property i item := by
  obtain ⟨_, _, _, inside⟩ := names_iff.mpr placed
  have stands : (w.store.items kind ref)[i]? = some (w.store.items kind ref)[i] :=
    List.getElem?_eq_getElem inside
  refine ⟨_, stands, ?_, ?_, ?_, fun value => ?_⟩
  · simp only [outcome_ask, reply, written?, placed, stands, Option.getD_some, World.placing]
  · simp only [outcome_ask, reply, written?, position_eq, placed, stands, Option.map_some, Option.getD_some,
      Except.map, World.placing]
  · simp only [outcome_ask, reply, written?, position_eq, placed, Except.map, World.placing]
  · cases readOnly with
    | true => simp only [outcome_ask, reply, written?, if_true, World.placing]
    | false =>
      simp only [outcome_ask, reply, written?, position_eq, placed, Except.map, Option.map_some,
        Bool.false_eq_true, if_false]

/-- Without such a position no item is reached. -/
theorem missed_of_place (readOnly : Bool) (nowhere : place? property (w.store.items kind ref).length = none) :
    Missed w kind readOnly ref property := by
  refine ⟨?_, ?_, ?_, fun value => ?_⟩
  · simp only [outcome_ask, reply, written?, nowhere, World.placing]
    cases denoted : property.index? with
    | none => simp [missing, denoted]
    | some index => simp
  · simp only [outcome_ask, reply, written?, position_eq, nowhere, Except.map, World.placing]
  · simp only [outcome_ask, reply, written?, position_eq, nowhere, Except.map, World.placing]
  · cases readOnly with
    | true => simp only [outcome_ask, reply, written?, if_true, World.placing]
    | false =>
      simp only [outcome_ask, reply, written?, position_eq, nowhere, Except.map, Option.map_none,
        Bool.false_eq_true, if_false, World.placing]

/-- At most one item is reached by one index. -/
theorem Reached.item_eq {j : Nat} {item other : Value} (reached : Reached w kind readOnly ref property i item)
    (reached' : Reached w kind readOnly ref property j other) : item = other := by
  have same := congrArg Prod.fst (reached.get.symm.trans reached'.get)
  simpa using same

/-- An item is reached, whatever stands in its place, exactly if its position is that of the index. -/
theorem reached_iff : (∀ value, Reached (w.placing kind ref (some (i, value))) kind readOnly ref property i value) ↔
    place? property (w.store.items kind ref).length = some i := by
  have length : ∀ value, ((w.placing kind ref (some (i, value))).store.items kind ref).length
      = (w.store.items kind ref).length := fun value => w.length_placing _
  constructor
  · intro reached
    cases placed : place? property (w.store.items kind ref).length with
    | none =>
      -- an item was read, but from an index without a place nothing is
      have missed := missed_of_place readOnly (by rw [length (.boolean true), placed])
      have read := congrArg Prod.fst (missed.get.symm.trans (reached (.boolean true)).get)
      split at read <;> simp at read
    | some j =>
      by_contra distinct
      -- what stands at the other position is read, and it does not depend on what stands at this one
      have stands : ∀ value, (w.store.items kind ref)[j]? = some value := by
        intro value
        obtain ⟨item, there⟩ := exists_reached readOnly (by rw [length value, placed])
        have found := there.stands
        rw [there.item_eq (reached value), w.items_placing] at found
        simpa only [Option.elim_some, List.getElem?_set_ne (fun same => distinct (congrArg some same.symm))]
          using found
      have same := (stands (.boolean true)).symm.trans (stands (.boolean false))
      simp at same
  · intro placed value
    obtain ⟨item, reached⟩ := exists_reached readOnly (by rw [length value, placed])
    obtain ⟨_, _, _, inside⟩ := names_iff.mpr placed
    have stands : some value = some item := by
      rw [← reached.stands, w.items_placing, Option.elim_some, List.getElem?_set_self inside]
    cases stands
    exact reached

/-- A list and an array with the same items are one sequence under two names. Asked in turn, they reply
alike to every inquiry, and after any number of them they have the same items, as many as before. So it
is too when each is asked on its own, about properties that reach neither of them. An item of either is
reached exactly by the properties with an index that is its position, within the length; about other
properties nothing is reached and nothing changes.

Proof: one inquiry has one outcome for both kinds, up to the word for the kind, and leaves the
same items. Runs follow by induction on the inquiries. Asked apart, the two stores stay alike in
what the properties reach, which is neither of the sequences. -/
theorem lists_and_arrays_in_step (w : World ρ) (readOnly : Bool) (l a : Ref)
    (same : w.store.items .list l = w.store.items .array a) :
    (∀ inquiries, ∃ replies left, (askBoth readOnly l a inquiries).outcome w = (replies, left) ∧
      replies.length = inquiries.length ∧ (∀ pair ∈ replies, pair.1.Alike pair.2) ∧
      left.store.items .list l = left.store.items .array a ∧
      (left.store.items .list l).length = (w.store.items .list l).length) ∧
    (∀ inquiries : List Inquiry, (∀ inquiry ∈ inquiries, ∀ property, inquiry.property? = some property →
        ¬w.store.Reaches property (.sequence .list l) ∧ ¬w.store.Reaches property (.sequence .array a)) →
      ∃ replies replies' left left', (askAll .list readOnly l inquiries).outcome w = (replies, left) ∧
        (askAll .array readOnly a inquiries).outcome w = (replies', left') ∧
        replies.length = inquiries.length ∧ List.Forall₂ Reply.Alike replies replies' ∧
        left.store.items .list l = left'.store.items .array a ∧
        (left.store.items .list l).length = (w.store.items .list l).length) ∧
    ∀ (t : World ρ) (kind : SequenceKind) (ref : Ref) (property : Value),
      (∀ i, (∀ value, Reached (t.placing kind ref (some (i, value))) kind readOnly ref property i value) ↔
        Names property (t.store.items kind ref).length i) ∧
      (∀ i, Names property (t.store.items kind ref).length i →
        ∃ item, Reached t kind readOnly ref property i item) ∧
      ((∀ i, ¬Names property (t.store.items kind ref).length i) → Missed t kind readOnly ref property) := by
  refine ⟨fun inquiries => askBoth_alike inquiries same, ?_, fun t kind ref property => ⟨fun i => ?_, ?_, ?_⟩⟩
  · intro inquiries apart
    exact askAll_alike inquiries same (.refl _ w.store) (.refl _ w.store) apart
  · exact reached_iff.trans names_iff.symm
  · intro i names
    exact exists_reached readOnly (names_iff.mp names)
  · intro nameless
    apply missed_of_place
    rw [Option.eq_none_iff_forall_ne_some]
    intro i placed
    exact nameless i (names_iff.mpr placed)

/-- A list and an array that hold the same two items. -/
def paired : World Unit where
  store := { lists := ⟨#[[.null, .string "a"]]⟩, arrays := ⟨#[[.null, .string "a"]]⟩ }
  host := ()

/-- Both take a write to the last item, at an index that is written between blanks, and refuse one
behind it. -/
theorem paired_in_step :
    paired.store.items .list ⟨0⟩ = paired.store.items .array ⟨0⟩ ∧
      ∃ replies left, (askBoth false ⟨0⟩ ⟨0⟩ [.set (.string " 1 ") (.map ⟨0⟩), .set (.string "2") .null]).outcome
          paired = (replies, left) ∧ (∀ pair ∈ replies, pair.1.Alike pair.2) ∧
        left.store.items .list ⟨0⟩ = [.null, .map ⟨0⟩] ∧ left.store.items .array ⟨0⟩ = [.null, .map ⟨0⟩] := by
  have same : paired.store.items .list ⟨0⟩ = paired.store.items .array ⟨0⟩ := by decide
  obtain ⟨replies, left, asked, _, alike, equal, _⟩ := (lists_and_arrays_in_step paired false ⟨0⟩ ⟨0⟩ same).1
    [.set (.string " 1 ") (.map ⟨0⟩), .set (.string "2") .null]
  have items : left.store.items .list ⟨0⟩ = [.null, .map ⟨0⟩] := by
    have result := congrArg (fun out => out.2.store.items .list ⟨0⟩) asked
    rw [← result]
    decide
  exact ⟨same, replies, left, asked, alike, items, equal ▸ items⟩

end Sequences

end PropertyPath
