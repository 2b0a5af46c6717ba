import PropertyPath.Proofs.Arrangement
import PropertyPath.Proofs.ByteOrder
import PropertyPath.Proofs.Interchange

/-!
# Requests on a map

A map as the base of a request is claimed by the first resolver for maps in a chain and by nobody
else. Where a chain has one resolver for maps, and that resolver takes writes, reading, writing and
listing the entries of a map are a matter of the map alone: of the text of the key, and of the
dictionary that the store has for the map. So it is in the chain of every context that is assembled
with writable collections, and it stays so when resolvers for other things are added.
-/

namespace PropertyPath

variable {ρ α β : Type}

/-- Candidates that contribute nothing to a listing may be left out. -/
theorem flatMap_filter_of_nil {p : α → Bool} {f : α → List β} {candidates : List α}
    (silent : ∀ x ∈ candidates, p x = false → f x = []) :
    (candidates.filter p).flatMap f = candidates.flatMap f := by
  induction candidates with
  | nil => rfl
  | cons first rest ih =>
    have tail := ih fun x later => silent x (List.mem_cons_of_mem first later)
    rw [List.filter_cons, List.flatMap_cons]
    by_cases kept : p first = true
    · rw [if_pos kept, List.flatMap_cons, tail]
    · rw [if_neg kept, silent first List.mem_cons_self (Bool.eq_false_iff.mpr kept), List.nil_append,
        tail]

/-- What is not of the kind for maps lists nothing on a map. -/
theorem Stock.features_map_eq_nil {r : Stock} (other : r.kind? ≠ some .maps) (s : Store) (ref : Ref) :
    r.behaviour.features s (some (.map ref)) = [] := by
  cases r with
  | maps readOnly => exact absurd rfl other
  | _ => rfl

namespace Assembly

/-- Of the stock resolvers in a chain one is for maps, and it takes writes. -/
def OneMaps (members : List Assembly) : Prop :=
  (leavesOf members).filter (·.kind? = some .maps) = [.maps false]

namespace OneMaps

variable {members : List Assembly} (one : OneMaps members)

include one

/-- The one resolver for maps is among the leaves. -/
theorem present : .maps false ∈ leavesOf members := by
  have found : Stock.maps false ∈ (leavesOf members).filter (·.kind? = some .maps) := by
    rw [one]
    exact List.mem_singleton_self _
  exact (List.mem_filter.mp found).1

/-- A resolver that takes a request on a map is the one for maps. -/
theorem eq_of_takes {r : Stock} (member : r ∈ leavesOf members) {ref : Ref} {k : Value}
    (takes : r.takes (.on (.map ref) k) = true) : r = .maps false := by
  obtain ⟨kind, governor, same⟩ := Stock.takes_on.mp takes
  cases governor
  have found : r ∈ (leavesOf members).filter (·.kind? = some .maps) :=
    List.mem_filter.mpr ⟨member, decide_eq_true same⟩
  rw [one] at found
  exact List.mem_singleton.mp found

/-- Requests on a map are a matter of that resolver. -/
theorem agrees (s : Store) (ref : Ref) (k : Value) :
    (behaviour (.nested members)).Agrees (behaviour (.nested [.stock (.maps false)])) s
      (.on (.map ref) k) := by
  apply agrees_of_single one.present
  intro r member takes
  exact one.eq_of_takes member takes

variable (ref : Ref) (k : Value) (unclaimed : Store → Absence) (w : World ρ)

/-- An entry reads as what the map has under the text of the key, and as null if it has nothing. -/
theorem outcome_get : ((chain members).handle (.on (.map ref) k) unclaimed).get.outcome w
    = ((Maps.key w.store k).map fun text => ((w.store.maps.get ref).get? text).getD .null, w) := by
  rw [Assembly.outcome_get, (one.agrees w.store ref k).get]
  change ((Maps.key w.store k >>= _), w) = _
  cases Maps.key w.store k <;> rfl

/-- A write finds the slot of the entry if the key has a text. -/
theorem target_eq (s : Store) :
    (behaviour (.nested members)).target s (.on (.map ref) k) = some ((Maps.key s k).map (Slot.entry ref)) := by
  rw [(one.agrees s ref k).target]
  change some (Maps.key s k >>= _) = _
  cases Maps.key s k <;> rfl

/-- A write under a key without a text fails and changes nothing. -/
theorem outcome_set_of_keyless (keyless : k.key? = none) (v : Value) :
    (((chain members).handle (.on (.map ref) k) unclaimed).set v).outcome w
      = (.error (.notFound (.mapKey (w.store.text k))), w) := by
  rw [Assembly.outcome_set, one.target_eq, Maps.key, keyless]
  rfl

/-- Any other write puts the value under the text of the key. -/
theorem outcome_set_of_keyed {text : String} (keyed : k.key? = some text) (v : Value) :
    (((chain members).handle (.on (.map ref) k) unclaimed).set v).outcome w
      = (.ok (), { w with store := w.store.put (.entry ref text) v }) := by
  rw [Assembly.outcome_set, one.target_eq, Maps.key, keyed]
  rfl

/-- The names that are listed on a map are the names of its dictionary. -/
theorem outcome_features : ∃ features : List Feature,
    ((chain members).toResolver.features (some (.map ref))).outcome w = (features, w) ∧
      features.map (·.name) = (w.store.maps.get ref).names := by
  refine ⟨(Stock.maps false).behaviour.features w.store (some (.map ref)), ?_, ?_⟩
  · have silent : ∀ r ∈ leavesOf members, decide (r.kind? = some .maps) = false →
        r.behaviour.features w.store (some (.map ref)) = [] :=
      fun r _ other => Stock.features_map_eq_nil (of_decide_eq_false other) w.store ref
    rw [toResolver_chain, StoreResolver.outcome_features, features_eq_leaves,
      ← flatMap_filter_of_nil silent, one, List.flatMap_singleton]
  · change List.map _ (List.map _ (w.store.maps.get ref).entries) = _
    rw [List.map_map]
    rfl

end OneMaps

end Assembly

namespace Context

/-- The chain of a context is made of stock resolvers, however nested. One of them is for maps, and
it takes writes. -/
def WritesMaps (context : Context ρ) : Prop :=
  ∃ members, context.chain = Assembly.chain members ∧ Assembly.OneMaps members

/-- What a configuration assembles with writable collections, and what is added to it for other
things than maps. -/
theorem writesMaps_ofConfig (config : Config) (writable : config.readOnlyCollections = false) (s : Store)
    {added : List Stock} (others : ∀ r ∈ added, r.kind? ≠ some .maps) :
    ((ofConfig config s : Context ρ × Store).1.addAll added).WritesMaps := by
  have arranged := (arranged_ofConfig (ρ := ρ) config s).addAll added
  refine ⟨(config.front s ++ added ++ config.back s).map .stock, arranged.chain, ?_⟩
  have noLocals (place : LocalPlacement) :
      (config.localsAt s place).filter (·.kind? = some .maps) = [] := by
    rw [Config.localsAt]
    split <;> rfl
  have noClasses : (config.classesOf s).filter (·.kind? = some .maps) = [] := by
    rw [Config.classesOf]
    split <;> rfl
  have noColors : config.colorsOf.filter (·.kind? = some .maps) = [] := by
    rw [Config.colorsOf]
    split <;> rfl
  have noOthers : added.filter (·.kind? = some .maps) = [] :=
    List.filter_eq_nil_iff.mpr fun r member => by simpa using others r member
  rw [Assembly.OneMaps, Assembly.leavesOf_stock, Config.front, Config.back, writable]
  simp only [List.filter_append, noLocals, noClasses, noColors, noOthers]
  rfl

end Context

end PropertyPath
