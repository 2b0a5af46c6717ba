import Mathlib.Logic.Relation
import PropertyPath.Proofs.Coherence
import PropertyPath.Proofs.Domains

/-!
# What values hold

A container, a record or a class holds the values in its slots, and through them whatever
these hold in turn. Local variables, implicit objects and registries hold values too, which
resolvers offer at the root or behind a marker. This is all there is to be found: what a stock
resolver reads on a base is held by the base, or offered by the resolver, or a plain value that
holds nothing.

So a collection of values that is closed under holding, and to which all that is offered
belongs, cannot be left by reading. A write does not lead out of it either, if the value that
is written belongs to it.
-/

namespace PropertyPath

/-- The value that a slot is a part of. A local variable is no part of a value. -/
def Slot.owner? : Slot → Option Value
  | .localVariable _ _ => none
  | .entry map _ => some (.map map)
  | .item kind sequence _ => some (.sequence kind sequence)
  | .property record _ => some (.record record)
  | .field classRef _ => some (.classObject classRef)

namespace Store

/-- Whether a slot shows what it holds. Of the fields of a class, those of its instances do
not. -/
def Shows (s : Store) : Slot → Prop
  | .field classRef name => ((s.classes.get classRef).staticField? name).isSome = true
  | _ => True

/-- A value holds what its slots show. -/
inductive Holds (s : Store) : Value → Value → Prop
  | inSlot {owner v : Value} {slot : Slot} (owned : slot.owner? = some owner)
    (there : s.read? slot = some v) (shown : s.Shows slot) : Holds s owner v

namespace Holds

variable {s : Store} {ref : Ref} {name : String} {v : Value}

/-- A map holds its entries. -/
theorem ofEntry (there : (s.maps.get ref).get? name = some v) : s.Holds (.map ref) v :=
  @inSlot s _ v (.entry ref name) rfl there trivial

/-- A sequence holds its items. -/
theorem ofItem {kind : SequenceKind} {position : Nat} (there : (s.items kind ref)[position]? = some v) :
    s.Holds (.sequence kind ref) v :=
  @inSlot s _ v (.item kind ref position) rfl there trivial

/-- A record holds the values of its properties. -/
theorem ofProperty {property : Property} (there : (s.records.get ref).properties.get? name = some property) :
    s.Holds (.record ref) property.value := by
  have read : s.read? (.property ref name) = some property.value := by
    rw [read?, Record.get?, there, Option.map_some]
  exact @inSlot s _ _ (.property ref name) rfl read trivial

/-- A class holds the values of its static fields, and of no others: only these can be reached by a
request. -/
theorem ofField {field : Field} (there : (s.classes.get ref).staticField? name = some field) :
    s.Holds (.classObject ref) field.value := by
  have found : (s.classes.get ref).field? name = some field := (Option.filter_eq_some_iff.1 there).1
  have read : s.read? (.field ref name) = some field.value := by
    rw [read?, found, Option.map_some]
  have shown : s.Shows (.field ref name) := by
    rw [Shows, there]
    rfl
  exact @inSlot s _ _ (.field ref name) rfl read shown

end Holds

/-- A write does not change which slots are shown. Whether a field is static does not depend on its
value. -/
theorem shows_put (s : Store) (slot : Slot) (value : Value) (other : Slot) :
    (s.put slot value).Shows other ↔ s.Shows other := by
  cases other with
  | field ref name =>
    simp only [Shows]
    rw [isSome_staticField?_put]
  | _ => exact Iff.rfl

/-- After a write, values hold the new value or what they held before. -/
theorem Holds.of_put {s : Store} {slot : Slot} (assignable : s.Assignable slot) {value owner v : Value}
    (holds : (s.put slot value).Holds owner v) : v = value ∨ s.Holds owner v := by
  cases holds with
  | @inSlot other owned there shown =>
    by_cases here : other = slot
    · rw [here, read?_put_of_assignable s assignable] at there
      exact .inl (Option.some.inj there).symm
    · rw [read?_put_of_ne s here] at there
      exact .inr (.inSlot owned there ((shows_put s slot value other).1 shown))

/-- What holds something has a kind of resolver that answers for it. -/
theorem Holds.governed {s : Store} {owner v : Value} (holds : s.Holds owner v) :
    owner.governor? ≠ none := by
  cases holds with
  | @inSlot slot owned there shown => cases slot <;> cases owned <;> nofun

/-- A marker holds nothing. -/
theorem not_holds_marker {s : Store} {issuer : Namespace} {v : Value} : ¬ s.Holds (.marker issuer) v := by
  intro holds
  cases holds with
  | @inSlot slot owned there shown => cases slot <;> cases owned

/-- A value that holds nothing leads to nothing but itself. -/
theorem eq_of_not_holds {s : Store} {v u : Value} (nothing : ∀ x, ¬ s.Holds v x)
    (further : Relation.ReflTransGen s.Holds v u) : u = v := by
  rcases Relation.ReflTransGen.cases_head further with same | ⟨x, holds, _⟩
  · exact same.symm
  · exact absurd holds (nothing x)

end Store

namespace Stock

/-- A resolver answers for the properties of a value. -/
def Governs (r : Stock) (v : Value) : Prop := ∃ k, v.governor? = some k ∧ r.kind? = some k

/-- What a resolver has to offer apart from what values hold: local variables, an implicit
object, or the classes that are registered. -/
inductive Offers (s : Store) : Stock → Value → Prop
  | ofLocals {scope : Ref} {name : String} {v : Value} (there : (s.locals scope).get? name = some v) :
    Offers s (.locals scope) v
  | ofImplicit {root : String} {v : Value} : Offers s (.implicit root v) v
  | ofClasses {loader : Classes.Loader} {name : String} {ref : Ref}
    (registered : loader.load? s name = some ref) : Offers s (.classes loader) (.classObject ref)

/-- After a write, resolvers offer the new value or what they offered before. -/
theorem Offers.of_put {s : Store} {slot : Slot} {value v : Value} {r : Stock}
    (offers : r.Offers (s.put slot value) v) : v = value ∨ r.Offers s v := by
  cases offers with
  | @ofLocals scope name _ there =>
    change (s.put slot value).read? (.localVariable scope name) = some v at there
    by_cases here : Slot.localVariable scope name = slot
    · rw [← here, Store.read?_put_localVariable] at there
      exact .inl (Option.some.inj there).symm
    · rw [Store.read?_put_of_ne s here] at there
      exact .inr (.ofLocals there)
  | ofImplicit => exact .inr .ofImplicit
  | @ofClasses loader name ref registered =>
    refine .inr (@Offers.ofClasses s loader name ref ?_)
    cases loader with
    | disabled => exact registered
    | registry registry =>
      simp only [Classes.Loader.load?, Store.registries_put] at registered ⊢
      exact registered

end Stock

/-! ## What reading finds -/

section Reading

variable {s : Store} {base property v : Value}

/-- An entry of a map, or null. -/
theorem Maps.get_on {readOnly : Bool}
    (found : (resolver readOnly).get s (.on base property) = some (.ok v)) :
    v = .null ∨ s.Holds base v := by
  obtain ⟨ref, isMap, answer⟩ := Option.map_eq_some_iff.1 found
  cases base with
  | map other =>
    cases isMap
    change (key s property >>= fun key => pure (((s.maps.get ref).get? key).getD .null)) = _ at answer
    cases denoted : key s property with
    | error x => rw [denoted] at answer; cases answer
    | ok name =>
      rw [denoted] at answer
      have value : ((s.maps.get ref).get? name).getD .null = v := Except.ok.inj answer
      cases there : (s.maps.get ref).get? name with
      -- what is not there reads as null
      | none => rw [there] at value; exact .inl value.symm
      | some entry =>
        rw [there] at value
        cases value
        exact .inr (.ofEntry there)
  | _ => cases isMap

/-- An item of a sequence, or null. -/
theorem Sequences.get_on {kind : SequenceKind} {readOnly : Bool}
    (found : (resolver kind readOnly).get s (.on base property) = some (.ok v)) :
    v = .null ∨ s.Holds base v := by
  obtain ⟨ref, isSequence, answer⟩ := Option.map_eq_some_iff.1 found
  cases base with
  | sequence other inside =>
    simp only [Request.on, sequence?] at isSequence
    split at isSequence
    · rename_i same
      cases same
      cases isSequence
      change (index s property >>= fun index =>
        pure (((position? index (s.items kind ref).length).bind ((s.items kind ref)[·]?)).getD .null)) = _
        at answer
      cases denoted : index s property with
      | error x => rw [denoted] at answer; cases answer
      | ok i =>
        rw [denoted] at answer
        have value := Except.ok.inj answer
        cases there : (position? i (s.items kind ref).length).bind ((s.items kind ref)[·]?) with
        -- beyond the bounds an item reads as null
        | none => rw [there] at value; exact .inl value.symm
        | some item =>
          rw [there] at value
          cases value
          obtain ⟨position, _, read⟩ := Option.bind_eq_some_iff.1 there
          exact .inr (.ofItem read)
    · cases isSequence
  | _ => cases isSequence

/-- A property of a record. -/
theorem Records.get_on {readOnly : Bool}
    (found : (resolver readOnly).get s (.on base property) = some (.ok v)) : s.Holds base v := by
  obtain ⟨ref, isRecord, answer⟩ := Option.map_eq_some_iff.1 found
  cases base with
  | record other =>
    cases isRecord
    cases known : Records.property s ref property with
    | error x => simp only [Request.on, known] at answer; cases answer
    | ok entry =>
      obtain ⟨name, value⟩ := entry
      simp only [Request.on, known] at answer
      cases answer
      exact .ofProperty (get?_of_property known)
  | _ => cases isRecord

/-- A class behind the marker of the namespace, or a field of a class. -/
theorem Classes.get_on {loader : Loader}
    (found : (resolver loader).get s (.on base property) = some (.ok v)) :
    (base = .marker .classes ∧ (Stock.classes loader).Offers s v) ∨ s.Holds base v := by
  obtain ⟨claim, claimed, answer⟩ := Option.map_eq_some_iff.1 found
  cases base with
  | marker issuer =>
    cases issuer with
    | colors => cases claimed
    | classes =>
      cases claimed
      simp only [Request.on, load] at answer
      cases registered : loader.load? s (property.key?.getD "") with
      | none => rw [registered] at answer; cases answer
      | some ref =>
        rw [registered] at answer
        cases answer
        -- a class is found by its name, and nothing holds it
        exact .inl ⟨rfl, .ofClasses registered⟩
  | classObject ref =>
    cases claimed
    simp only [Request.on, field] at answer
    cases there : (s.classes.get ref).staticField? (property.key?.getD "") with
    | none => rw [there] at answer; cases answer
    | some field =>
      rw [there] at answer
      cases answer
      exact .inr (.ofField there)
  | _ => cases claimed

/-- A color of the palette. -/
theorem Colors.get_on (found : resolver.get s (.on base property) = some (.ok v)) :
    v.governor? = none := by
  obtain ⟨claim, claimed, answer⟩ := Option.map_eq_some_iff.1 found
  have palette : claim = .palette := by
    simp only [claim?, Request.on] at claimed
    split at claimed
    · exact (Option.some.inj claimed).symm
    · cases claimed
  rw [palette] at answer
  cases looked : lookup property with
  | error x => simp only [Request.on, looked] at answer; cases answer
  | ok color =>
    simp only [Request.on, looked] at answer
    cases answer
    rfl

namespace Stock

variable {r : Stock}

/-- What a resolver reads on a base is a plain value, or the base holds it, or it is a class
that the namespace offers behind its marker. -/
theorem get_on (found : r.behaviour.get s (.on base property) = some (.ok v)) :
    v.governor? = none ∨ s.Holds base v ∨ (base = .marker .classes ∧ r.Governs base ∧ r.Offers s v) := by
  cases r with
  | locals scope => cases found
  | maps readOnly =>
    rcases Maps.get_on found with rfl | holds
    · exact .inl rfl
    · exact .inr (.inl holds)
  | sequences kind readOnly =>
    rcases Sequences.get_on found with rfl | holds
    · exact .inl rfl
    · exact .inr (.inl holds)
  | records readOnly => exact .inr (.inl (Records.get_on found))
  | classes loader =>
    rcases Classes.get_on found with ⟨rfl, offers⟩ | holds
    · exact .inr (.inr ⟨rfl, ⟨.classes, rfl, rfl⟩, offers⟩)
    · exact .inr (.inl holds)
  | colors => exact .inl (Colors.get_on found)
  | implicit root value => cases found

/-- What a resolver reads at the root it offers there, or it is the marker of its namespace. -/
theorem get_root {name : String} (found : r.behaviour.get s (.root name) = some (.ok v)) :
    r.Offers s v ∨ (r.root? = some name ∧ (∃ issuer, v = .marker issuer) ∧ r.Governs v) := by
  cases r with
  | locals scope =>
    obtain ⟨value, there, answer⟩ := Option.map_eq_some_iff.1 found
    cases answer
    exact .inl (.ofLocals there)
  | classes loader =>
    obtain ⟨claim, claimed, answer⟩ := Option.map_eq_some_iff.1 found
    change (if some name = some Classes.root then some Classes.Claim.root else none) = _ at claimed
    -- a namespace answers for its own name with its marker, and for no other
    by_cases named : some name = some Classes.root
    · rw [if_pos named] at claimed
      cases claimed
      cases answer
      exact .inr ⟨named.symm, ⟨.classes, rfl⟩, .classes, rfl, rfl⟩
    · rw [if_neg named] at claimed
      cases claimed
  | colors =>
    obtain ⟨claim, claimed, answer⟩ := Option.map_eq_some_iff.1 found
    change (if some name = some Colors.root then some Colors.Claim.root else none) = _ at claimed
    by_cases named : some name = some Colors.root
    · rw [if_pos named] at claimed
      cases claimed
      cases answer
      exact .inr ⟨named.symm, ⟨.colors, rfl⟩, .colors, rfl, rfl⟩
    · rw [if_neg named] at claimed
      cases claimed
  | implicit root value =>
    simp only [behaviour, Implicit.resolver] at found
    split at found
    · cases found
      exact .inl .ofImplicit
    · cases found
  | _ => cases found

end Stock

end Reading

end PropertyPath
