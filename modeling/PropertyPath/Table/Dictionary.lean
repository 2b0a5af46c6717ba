import PropertyPath.Table.Entries

/-!
# Dictionaries

A finite map from names to values. The entries stand in strictly increasing
order of their names, so each name occurs once, two dictionaries with the same
look-ups are equal, and every listing is sorted. Strings are ordered by code
point, which is also the order of their UTF-8 bytes.
-/

namespace PropertyPath

/-- Entries with strictly increasing names. -/
structure Dictionary (α : Type) where
  entries : List (String × α) := []
  increasing : (entries.map Prod.fst).Pairwise (· < ·) := by simp

namespace Dictionary

variable {α : Type}

/-- The dictionary without entries. -/
def empty : Dictionary α := {}

/-- The dictionary without entries. -/
instance : Inhabited (Dictionary α) := ⟨empty⟩

/-- It is written as the empty collection. -/
instance : EmptyCollection (Dictionary α) := ⟨empty⟩

/-- Equal entries make equal dictionaries. -/
theorem ext_entries {d e : Dictionary α} (same : d.entries = e.entries) : d = e := by
  cases d; cases e; simp_all

/-- The value of a name. -/
def get? (d : Dictionary α) (name : String) : Option α := d.entries.lookup name

/-- Names that increase are distinct, so each name has one entry. -/
theorem distinct (d : Dictionary α) : (d.entries.map Prod.fst).Nodup :=
  d.increasing.imp String.ne_of_lt

/-- The entries are what is found under their names. -/
theorem get?_eq_some_iff {d : Dictionary α} {name : String} {x : α} :
    d.get? name = some x ↔ (name, x) ∈ d.entries :=
  lookup_eq_some_iff_mem d.distinct

/-- Whether a name has a value. -/
def contains (d : Dictionary α) (name : String) : Bool := (d.get? name).isSome

/-- The names, in increasing order. -/
def names (d : Dictionary α) : List String := d.entries.map Prod.fst

/-- The number of names. -/
def size (d : Dictionary α) : Nat := d.entries.length

/-- Whether there are no entries. -/
def isEmpty (d : Dictionary α) : Bool := d.entries.isEmpty

/-- Places an entry in order, replacing an entry of the same name. -/
def place (name : String) (x : α) : List (String × α) → List (String × α)
  | [] => [(name, x)]
  | (other, y) :: rest =>
    if name < other then (name, x) :: (other, y) :: rest
    else if name = other then (name, x) :: rest
    else (other, y) :: place name x rest

/-- Placing an entry adds its name to those that are there, and takes none away. -/
theorem mem_names_place (name : String) (x : α) (entries : List (String × α)) (other : String) :
    other ∈ (place name x entries).map Prod.fst ↔ other = name ∨ other ∈ entries.map Prod.fst := by
  induction entries with
  | nil => simp [place]
  | cons first rest hypothesis =>
    obtain ⟨key, y⟩ := first
    simp only [place]
    split
    · simp
    · split
      · rename_i same; subst same; simp
      · simp only [List.map_cons, List.mem_cons, hypothesis]; grind

/-- The place of an entry keeps the names increasing: before the first greater one, or in place of
an equal one. -/
theorem increasing_place (name : String) (x : α) {entries : List (String × α)}
    (increasing : (entries.map Prod.fst).Pairwise (· < ·)) :
    ((place name x entries).map Prod.fst).Pairwise (· < ·) := by
  induction entries with
  | nil => simp [place]
  | cons first rest hypothesis =>
    obtain ⟨key, y⟩ := first
    simp only [List.map_cons, List.pairwise_cons] at increasing
    simp only [place]
    split
    · rename_i before
      simp only [List.map_cons, List.pairwise_cons, List.mem_cons]
      refine ⟨fun other member => ?_, increasing⟩
      rcases member with rfl | later
      · exact before
      · exact String.lt_trans before (increasing.1 other later)
    · rename_i notBefore
      split
      · rename_i same
        subst same
        simpa only [List.map_cons, List.pairwise_cons] using increasing
      · rename_i distinct
        have after : key < name := by
          rcases Decidable.em (key < name) with after | notAfter
          · exact after
          · exact absurd (String.le_antisymm (String.not_lt.1 notAfter) (String.not_lt.1 notBefore))
              distinct
        simp only [List.map_cons, List.pairwise_cons]
        refine ⟨fun other member => ?_, hypothesis increasing.2⟩
        rcases (mem_names_place name x rest other).1 member with rfl | later
        · exact after
        · exact increasing.1 other later

/-- Gives a name a value, replacing the one it had. -/
def insert (d : Dictionary α) (name : String) (x : α) : Dictionary α :=
  ⟨place name x d.entries, increasing_place name x d.increasing⟩

/-- Takes a name out. -/
def erase (d : Dictionary α) (name : String) : Dictionary α :=
  ⟨d.entries.filter (·.1 ≠ name),
   d.increasing.sublist ((List.filter_sublist).map Prod.fst)⟩

/-- Inserts the pairs from left to right, so the last pair of a name decides. -/
def ofList (pairs : List (String × α)) : Dictionary α :=
  pairs.foldl (fun d (name, x) => d.insert name x) empty

/-- The entry that was placed is found under its name, whatever was there before. -/
theorem lookup_place_self (name : String) (x : α) (entries : List (String × α)) :
    (place name x entries).lookup name = some x := by
  induction entries with
  | nil => simp [place]
  | cons first rest hypothesis =>
    obtain ⟨key, y⟩ := first
    simp only [place]
    split
    · simp
    · split
      · simp
      · rename_i distinct
        simp [List.lookup_cons, beq_false_of_ne distinct, hypothesis]

/-- Under every other name the same is found as before. -/
theorem lookup_place_of_ne (name : String) (x : α) (entries : List (String × α)) {other : String}
    (distinct : other ≠ name) : (place name x entries).lookup other = entries.lookup other := by
  induction entries with
  | nil => simp [place, List.lookup_cons, beq_false_of_ne distinct]
  | cons first rest hypothesis =>
    obtain ⟨key, y⟩ := first
    simp only [place]
    split
    · simp [List.lookup_cons, beq_false_of_ne distinct]
    · split
      · rename_i same
        subst same
        simp [List.lookup_cons, beq_false_of_ne distinct]
      · simp only [List.lookup_cons, hypothesis]

/-- Nothing is found without entries. -/
@[simp] theorem get?_empty (name : String) : (empty : Dictionary α).get? name = none := rfl

/-- What was inserted is found under its name. -/
@[simp] theorem get?_insert_self (d : Dictionary α) (name : String) (x : α) :
    (d.insert name x).get? name = some x :=
  lookup_place_self name x d.entries

/-- An insertion leaves what is found under other names. -/
theorem get?_insert_of_ne (d : Dictionary α) {name other : String} (distinct : other ≠ name) (x : α) :
    (d.insert name x).get? other = d.get? other :=
  lookup_place_of_ne name x d.entries distinct

/-- What is found after an insertion was inserted or found before. -/
theorem eq_or_get?_of_insert {d : Dictionary α} {name other : String} {x y : α}
    (found : (d.insert name x).get? other = some y) : y = x ∨ d.get? other = some y := by
  rcases Decidable.em (other = name) with same | distinct
  · rw [same, get?_insert_self] at found
    exact .inl (Option.some.inj found).symm
  · rw [get?_insert_of_ne d distinct] at found
    exact .inr found

/-- A name that was taken out is not found. -/
@[simp] theorem get?_erase_self (d : Dictionary α) (name : String) :
    (d.erase name).get? name = none := by
  simp only [get?, erase]
  induction d.entries with
  | nil => rfl
  | cons first rest hypothesis =>
    obtain ⟨key, y⟩ := first
    rcases Decidable.em (key = name) with same | distinct
    · subst same; simpa [List.filter_cons] using hypothesis
    · simpa [List.filter_cons, distinct, List.lookup_cons,
        beq_false_of_ne (Ne.symm distinct)] using hypothesis

/-- Taking a name out leaves what is found under the others. -/
theorem get?_erase_of_ne (d : Dictionary α) {name other : String} (distinct : other ≠ name) :
    (d.erase name).get? other = d.get? other := by
  simp only [get?, erase]
  induction d.entries with
  | nil => rfl
  | cons first rest hypothesis =>
    obtain ⟨key, y⟩ := first
    rcases Decidable.em (key = name) with same | kept
    · subst same
      simpa [List.filter_cons, List.lookup_cons, beq_false_of_ne distinct] using hypothesis
    · simp only [List.filter_cons, kept, ne_eq, not_false_eq_true, decide_true, if_true,
        List.lookup_cons, hypothesis]

/-- What is found after a name was taken out was found before. -/
theorem get?_of_erase {d : Dictionary α} {name other : String} {x : α}
    (found : (d.erase name).get? other = some x) : d.get? other = some x := by
  rcases Decidable.em (other = name) with same | distinct
  · rw [same, get?_erase_self] at found
    cases found
  · rwa [get?_erase_of_ne d distinct] at found

end Dictionary

end PropertyPath
