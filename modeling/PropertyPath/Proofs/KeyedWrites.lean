import PropertyPath.Proofs.MapPaths

/-!
# Writes to the entries of a map

Keys of different types that have the same text are one key. A map is therefore seen, in every way in
which paths can look at it, as one finite map from texts to values. A write under a key with a text
decides what the map has under this text until the next one; a write under a key without a text fails
and changes nothing. After any run of writes, with anything between them that leaves the map alone,
an entry reads as the value last written under its text, whatever the keys were.

The induction is on the run. What the dictionary of the map has under a text is the last value written
or else the initial one, and each step keeps it so.
-/

namespace PropertyPath

variable {ρ : Type}

/-- The value last written under a text. Keys without a text were not written under any. -/
def lastWritten (writes : List (Value × Value)) (text : String) : Option Value :=
  (writes.reverse.find? (·.1.key? = some text)).map Prod.snd

/-- The last of some writes counts if it is under the key, and otherwise those before it. -/
theorem lastWritten_append (writes : List (Value × Value)) (k v : Value) (text : String) :
    lastWritten (writes ++ [(k, v)]) text
      = if k.key? = some text then some v else lastWritten writes text := by
  rw [lastWritten, List.reverse_append, List.reverse_singleton, List.singleton_append, List.find?_cons]
  by_cases same : k.key? = some text
  · rw [if_pos same, decide_eq_true same, Option.map_some]
  · rw [if_neg same, decide_eq_false same, lastWritten]

/-- Something was written under a key exactly if some write had that key. -/
theorem isSome_lastWritten {writes : List (Value × Value)} {text : String} :
    (lastWritten writes text).isSome = true ↔ ∃ write ∈ writes, write.1.key? = some text := by
  simp [lastWritten]

namespace World

/-- A run of requests to write to entries of a map in a chain, with their keys and values in order.
Between them there may be any steps that leave the map as it was. -/
inductive Writes (chain : Chain ρ) (ref : Ref) (start : World ρ) : List (Value × Value) → World ρ → Prop
  | start : Writes chain ref start [] start
  | write {writes : List (Value × Value)} {w reached : World ρ} {c : Compiled ρ} {k : Value}
    (earlier : Writes chain ref start writes w) (entry : c.EntryOf chain ref k w reached) (v : Value) :
    Writes chain ref start (writes ++ [(k, v)]) (((c.handle chain).set v).outcome w).2
  | other {writes : List (Value × Value)} {w after : World ρ} (earlier : Writes chain ref start writes w)
    (kept : KeepsMap ref w after) : Writes chain ref start writes after

/-- After any run, any values may be written under any keys: two variables are enough to name the map
and a key. -/
theorem Writes.extend {chain : Chain ρ} {ref : Ref} {start w : World ρ} {writes : List (Value × Value)}
    (run : Writes chain ref start writes w) (further : List (Value × Value)) :
    ∃ left, Writes chain ref start (writes ++ further) left := by
  induction further generalizing writes w with
  | nil => exact ⟨w, by rwa [List.append_nil]⟩
  | cons write rest ih =>
    obtain ⟨k, v⟩ := write
    let bindings : Bindings ρ := (Dictionary.empty.insert "m" (.literal (.map ref))).insert "k" (.literal k)
    have map : bindings.get? "m" = some (.literal (.map ref)) := by
      rw [Dictionary.get?_insert_of_ne _ (by decide), Dictionary.get?_insert_self]
    have key : bindings.get? "k" = some (.literal k) := Dictionary.get?_insert_self _ _ _
    obtain ⟨left, further⟩ := ih (run.write (Compiled.entryOf_noting chain "m[k]" {} map key w) v)
    rw [List.append_assoc] at further
    exact ⟨left, further⟩

/-- What a map has under a text after a run: the value last written, or else the one it had. -/
def contentsAfter (start : World ρ) (ref : Ref) (writes : List (Value × Value)) (text : String) :
    Option Value :=
  (lastWritten writes text).or ((start.store.maps.get ref).get? text)

/-- A text is there after a run if it was there or was written. -/
theorem isSome_contentsAfter {start : World ρ} {ref : Ref} {writes : List (Value × Value)} {text : String} :
    (start.contentsAfter ref writes text).isSome = true ↔
      ((start.store.maps.get ref).get? text).isSome = true ∨ ∃ write ∈ writes, write.1.key? = some text := by
  rw [contentsAfter, Option.isSome_or, Bool.or_eq_true, isSome_lastWritten, or_comm]

/-- A run leaves under every text what was last written there. -/
theorem Writes.get? {members : List Assembly} (one : Assembly.OneMaps members) {ref : Ref}
    {start w : World ρ} {writes : List (Value × Value)}
    (run : Writes (Assembly.chain members) ref start writes w) (text : String) :
    (w.store.maps.get ref).get? text = start.contentsAfter ref writes text := by
  induction run with
  | start => rfl
  | @write writes w reached c k earlier entry v ih =>
    rw [contentsAfter, lastWritten_append]
    -- the key of the last write decides: without a text it changed nothing, and under another text
    -- it left this one alone
    cases denoted : k.key? with
    | none =>
      rw [entry.outcome_set_of_keyless one denoted v, entry.kept, if_neg (by simp)]
      exact ih
    | some written =>
      have placed : (reached.store.put (.entry ref written) v).maps.get ref
          = (w.store.maps.get ref).insert written v := by
        rw [← entry.kept]
        exact Arena.get_set_self _ _ _
      rw [entry.outcome_set_of_keyed one denoted v, placed]
      by_cases same : written = text
      · rw [if_pos (congrArg some same), Option.some_or, same, Dictionary.get?_insert_self]
      · rw [if_neg fun denotes => same (Option.some.inj denotes),
          Dictionary.get?_insert_of_ne _ (Ne.symm same)]
        exact ih
  -- a step that is no write to the map keeps it
  | other _ kept ih =>
    rw [kept]
    exact ih

/-- Paths show a map as a finite map from texts to values. An entry reads as what is there under the
text of its key, or as null; `contains` is true of the keys with a text that is there; the names that are
listed are the texts that are there, in the order of their bytes, and `length` is their number. -/
structure ShowsMap (chain : Chain ρ) (ref : Ref) (contents : String → Option Value) (w : World ρ) :
    Prop where
  reads : ∀ (c : Compiled ρ) (k : Value) (reached : World ρ), c.EntryOf chain ref k w reached →
    (c.handle chain).get.outcome w = ((Maps.key reached.store k).map fun text => (contents text).getD .null,
      reached)
  contains : ∀ (c : Compiled ρ) (k : Value) (reached : World ρ),
    c.Calls chain .contains [.map ref, k] ref w reached →
    ∃ found, (c.handle chain).get.outcome w = (.ok (.boolean found), reached) ∧
      (found = true ↔ ∃ text, k.key? = some text ∧ (contents text).isSome = true)
  lists : ∃ texts : List String, texts.Pairwise (bytes · < bytes ·) ∧
    (∀ text, text ∈ texts ↔ (contents text).isSome = true) ∧
    (∀ (c : Compiled ρ) (reached : World ρ), c.Calls chain .length [.map ref] ref w reached →
      (c.handle chain).get.outcome w = (.ok (.integer (Int64.ofNat texts.length)), reached)) ∧
    ∃ features : List Feature, (chain.toResolver.features (some (.map ref))).outcome w = (features, w) ∧
      features.map (·.name) = texts

/-- It is the finite map that the store has for the map. -/
theorem showsMap {members : List Assembly} (one : Assembly.OneMaps members) {ref : Ref}
    {contents : String → Option Value} {w : World ρ}
    (has : ∀ text, (w.store.maps.get ref).get? text = contents text) :
    w.ShowsMap (Assembly.chain members) ref contents where
  reads c k reached entry := by
    rw [entry.outcome_get one]
    simp only [has]
  contains c k reached calls := by
    refine ⟨_, calls.outcome_get rfl, ?_⟩
    change (k.key?.map (reached.store.maps.get ref).contains).getD false = true ↔ _
    rw [calls.kept]
    cases k.key? with
    | none => simp
    | some text => simp [Dictionary.contains, has]
  lists := by
    refine ⟨(w.store.maps.get ref).names, Dictionary.names_byteOrdered _, ?_, ?_,
      one.outcome_features ref w⟩
    · intro text
      rw [Dictionary.mem_names_iff, has]
    · intro c reached calls
      -- the number of entries is that of their names, which are listed once each
      have size : (reached.store.maps.get ref).size = (w.store.maps.get ref).names.length := by
        rw [calls.kept, Dictionary.size, Dictionary.names, List.length_map]
      rw [calls.outcome_get rfl, ← size]
      rfl

end World

/-- Through paths, a map is one finite map from texts to values.

A context that is assembled with writable collections writes to maps, also with other resolvers added,
and has the core functions. Whatever map and key two variables stand for, their names make sources for
the entry, for the question whether the key is there and for the number of entries.

In the chain of such a context any values may be written under any keys. A write to an entry fails
exactly if its key has no text, for the reason that there is no such key, and then changes nothing. After
any run of writes paths show the map as the finite map of what was last written under each text, or else
was there before. Its texts are those that were there before or were written.

Proof: the one resolver for maps answers for every entry, wherever it stands. A write under a
text replaces what the map has there and nothing else, so by induction on the run the map is what
was last written over what it was. -/
theorem Context.map_keyed_by_text :
    (∀ (config : Config) (s : Store) (added : List Stock), config.readOnlyCollections = false →
      (∀ r ∈ added, r.kind? ≠ some .maps) →
      let context := (ofConfig config s : Context ρ × Store).1.addAll added
      context.WritesMaps ∧ (config.corePrefix.isEmpty = false → ∀ f : CoreFunction,
        context.functions.find? config.corePrefix f.name = some f.function)) ∧
    ∀ context : Context ρ, context.WritesMaps →
      (∀ m k ref key, context.Names m k ref key →
        (∃ c, context.compile (m ++ "[" ++ k ++ "]") = .ok c ∧ ∀ w, c.EntryOf context.chain ref key w w) ∧
        ∀ space : String, IsName space.toList →
          (context.functions.find? space "contains" = some CoreFunction.contains.function →
            ∃ c, context.compile (space ++ ":contains(" ++ m ++ "," ++ k ++ ")") = .ok c ∧
              ∀ w, c.Calls context.chain .contains [.map ref, key] ref w w) ∧
          (context.functions.find? space "length" = some CoreFunction.length.function →
            ∃ c, context.compile (space ++ ":length(" ++ m ++ ")") = .ok c ∧
              ∀ w, c.Calls context.chain .length [.map ref] ref w w)) ∧
      (∀ ref start writes, ∃ w, World.Writes context.chain ref start writes w) ∧
      ∀ ref start writes w, World.Writes context.chain ref start writes w →
        (∀ (c : Compiled ρ) k reached v, c.EntryOf context.chain ref k w reached →
          (k.key? = none → ((c.handle context.chain).set v).outcome w
            = (.error (.notFound (.mapKey (reached.store.text k))), reached)) ∧
          ∀ text, k.key? = some text → ((c.handle context.chain).set v).outcome w
            = (.ok (), { reached with store := reached.store.put (.entry ref text) v })) ∧
        (∀ text, (start.contentsAfter ref writes text).isSome = true ↔
          ((start.store.maps.get ref).get? text).isSome = true ∨
            ∃ write ∈ writes, write.1.key? = some text) ∧
        w.ShowsMap context.chain ref (start.contentsAfter ref writes) := by
  refine ⟨?_, ?_⟩
  -- such contexts are in scope
  · intro config s added writable others context
    refine ⟨writesMaps_ofConfig config writable s others, fun present f => ?_⟩
    rw [functions_addAll]
    exact find?_ofConfig config s present f
  -- and of every context in scope the rest is said
  · rintro context ⟨members, stock, one⟩
    rw [stock]
    refine ⟨?_, fun ref start writes => World.Writes.start.extend writes, ?_⟩
    · intro m k ref key names
      exact ⟨names.compile_entry _, fun space spaceName =>
        ⟨names.compile_contains _ spaceName, names.compile_length _ spaceName⟩⟩
    · intro ref start writes w run
      refine ⟨fun c k reached v entry => ⟨fun keyless => ?_, fun text keyed => ?_⟩,
        fun text => World.isSome_contentsAfter, World.showsMap one (run.get? one)⟩
      · exact entry.outcome_set_of_keyless one keyless v
      · exact entry.outcome_set_of_keyed one keyed v

/-- A map with one entry, and a context assembled beside it with names for the map and three keys. -/
def numberedMap : Context Unit × World Unit :=
  let (context, s) := Context.ofConfig {} (({} : Store).newMap [("1", .null)]).2
  let named := [("m", .map ⟨0⟩), ("i", .integer 1), ("t", .string "1"), ("n", .null)]
  (named.foldl (fun c (name, value) => c.bind name (some (.literal value))) context, ⟨s, ()⟩)

/-- After writes under an integer, under null and under the text of the integer, the entry of the integer
reads as the value written under the text. It was there before and is the only one. -/
theorem Context.written_under_one_text :
    let context := numberedMap.1
    let start := numberedMap.2
    ∃ byInteger byText byNull asked counted,
      context.compile "m[i]" = .ok byInteger ∧ context.compile "m[t]" = .ok byText ∧
      context.compile "m[n]" = .ok byNull ∧ context.compile "fn:contains(m,n)" = .ok asked ∧
      context.compile "fn:length(m)" = .ok counted ∧
      let first := (((byInteger.handle context.chain).set (.boolean true)).outcome start).2
      let second := (((byNull.handle context.chain).set .null).outcome first).2
      let third := (((byText.handle context.chain).set (.integer 7)).outcome second).2
      second = first ∧
      (byInteger.handle context.chain).get.outcome third = (.ok (.integer 7), third) ∧
      (asked.handle context.chain).get.outcome third = (.ok (.boolean false), third) ∧
      (counted.handle context.chain).get.outcome third = (.ok (.integer 1), third) := by
  intro context start
  obtain ⟨assembled, settled⟩ := Context.map_keyed_by_text (ρ := Unit)
  obtain ⟨writes, registered⟩ := assembled {} (({} : Store).newMap [("1", .null)]).2 [] rfl (by simp)
  obtain ⟨sources, _, after⟩ := settled numberedMap.1 writes
  have m : IsName "m".toList := isName_letter (by decide)
  have i : IsName "i".toList := isName_letter (by decide)
  have t : IsName "t".toList := isName_letter (by decide)
  have n : IsName "n".toList := isName_letter (by decide)
  have fn : IsName "fn".toList := ⟨⟨'f', ['n'], rfl, by decide⟩, List.all_eq_true.mp (by decide), by decide⟩
  obtain ⟨⟨byInteger, compiled, entry⟩, _⟩ := sources "m" "i" ⟨0⟩ (.integer 1) ⟨m, i, rfl, rfl⟩
  obtain ⟨⟨byText, compiled', entry'⟩, _⟩ := sources "m" "t" ⟨0⟩ (.string "1") ⟨m, t, rfl, rfl⟩
  obtain ⟨⟨byNull, compiled'', entry''⟩, calls⟩ := sources "m" "n" ⟨0⟩ .null ⟨m, n, rfl, rfl⟩
  obtain ⟨asked, compiledAsked, asks⟩ := (calls "fn" fn).1 (registered rfl .contains)
  obtain ⟨counted, compiledCounted, counts⟩ := (calls "fn" fn).2 (registered rfl .length)
  refine ⟨byInteger, byText, byNull, asked, counted, compiled, compiled', compiled'', compiledAsked,
    compiledCounted, ?_⟩
  intro first second third
  -- the three writes are a run, so the theorem applies to what they leave
  have begun : World.Writes context.chain ⟨0⟩ start [(.integer 1, .boolean true)] first :=
    .write .start (entry start) (.boolean true)
  have run : World.Writes context.chain ⟨0⟩ start
      [(.integer 1, .boolean true), (.null, .null), (.string "1", .integer 7)] third :=
    .write (.write begun (entry'' first) .null) (entry' second) (.integer 7)
  obtain ⟨failing, _, _⟩ := after ⟨0⟩ start _ first begun
  obtain ⟨_, there, shows⟩ := after ⟨0⟩ start _ third run
  refine ⟨?_, ?_, ?_, ?_⟩
  · have refused := (failing byNull .null first .null (entry'' first)).1 rfl
    change (((byNull.handle context.chain).set .null).outcome first).2 = first
    rw [refused]
  · exact shows.reads byInteger (.integer 1) third (entry third)
  · obtain ⟨found, outcome, exactly⟩ := shows.contains asked .null third (asks third)
    cases found with
    | false => exact outcome
    | true =>
      obtain ⟨_, absurdity, _⟩ := exactly.mp rfl
      cases absurdity
  · obtain ⟨texts, ordered, listed, length, _⟩ := shows.lists
    -- the texts under which there is something: the one that was there, and the two that were
    -- written, which are the same
    have only : ∀ text, text ∈ texts ↔ text = "1" := by
      intro text
      rw [listed, there]
      constructor
      · rintro (initial | ⟨write, member, denoted⟩)
        · change (List.lookup text [("1", Value.null)]).isSome = true at initial
          by_contra other
          simp [List.lookup_cons, beq_false_of_ne other] at initial
        · simp only [List.mem_cons, List.not_mem_nil, or_false] at member
          rcases member with rfl | rfl | rfl
          · exact (Option.some.inj denoted).symm
          · cases denoted
          · exact (Option.some.inj denoted).symm
      · rintro rfl
        exact .inl rfl
    rw [length counted third (counts third)]
    cases texts with
    | nil => exact absurd ((only "1").mpr rfl) List.not_mem_nil
    | cons a others =>
      cases others with
      | nil => rfl
      | cons b rest =>
        have same : a = b := ((only a).mp (by simp)).trans ((only b).mp (by simp)).symm
        have less : bytes a < bytes b := (List.pairwise_cons.mp ordered).1 b List.mem_cons_self
        rw [same] at less
        exact absurd less (List.lt_irrefl _)

end PropertyPath
