import PropertyPath.Table.Entries

/-!
# Rosters

A roster lists named entries in the order of their last definition. Defining a
name again moves it to the end; changing its entry keeps its place. Each name
occurs once.
-/

namespace PropertyPath

/-- Named entries without a repeated name. -/
structure Roster (α : Type) where
  entries : List (String × α) := []
  distinct : (entries.map Prod.fst).Nodup := by simp

namespace Roster

variable {α : Type}

/-- The roster without entries. -/
def empty : Roster α := {}

/-- The roster without entries. -/
instance : Inhabited (Roster α) := ⟨empty⟩

/-- Equal entries make equal rosters. -/
theorem ext_entries {r s : Roster α} (same : r.entries = s.entries) : r = s := by
  cases r; cases s; simp_all

/-- The entry of a name. -/
def get? (r : Roster α) (name : String) : Option α := r.entries.lookup name

/-- The entries are what is found under their names. -/
theorem get?_eq_some_iff {r : Roster α} {name : String} {x : α} :
    r.get? name = some x ↔ (name, x) ∈ r.entries :=
  lookup_eq_some_iff_mem r.distinct

/-- The names, in the order of their last definition. -/
def names (r : Roster α) : List String := r.entries.map Prod.fst

/-- Puts an entry last, taking out an earlier one of the same name. -/
def define (r : Roster α) (name : String) (x : α) : Roster α :=
  ⟨r.entries.filter (·.1 ≠ name) ++ [(name, x)], by
    rw [List.map_append, List.nodup_append]
    refine ⟨r.distinct.sublist (List.filter_sublist.map Prod.fst), by simp, ?_⟩
    intro other earlier last member
    simp only [List.map_cons, List.map_nil, List.mem_singleton] at member
    subst member
    simp only [List.mem_map, List.mem_filter] at earlier
    obtain ⟨entry, ⟨_, kept⟩, rfl⟩ := earlier
    simpa using kept⟩

/-- Changes the entry of a name in its place; other names are left alone. -/
def modify (r : Roster α) (name : String) (f : α → α) : Roster α :=
  ⟨r.entries.map fun entry => if entry.1 = name then (entry.1, f entry.2) else entry, by
    have same : (r.entries.map fun entry =>
        if entry.1 = name then (entry.1, f entry.2) else entry).map Prod.fst
        = r.entries.map Prod.fst := by
      rw [List.map_map]
      refine List.map_congr_left fun entry _ => ?_
      simp only [Function.comp]
      split <;> rfl
    exact same ▸ r.distinct⟩

/-- A change to an entry keeps all names in their places. -/
@[simp] theorem names_modify (r : Roster α) (name : String) (f : α → α) :
    (r.modify name f).names = r.names := by
  simp only [names, modify, List.map_map]
  refine List.map_congr_left fun entry _ => ?_
  simp only [Function.comp]
  split <;> rfl

/-- A definition takes its name out of the order and puts it last. -/
theorem names_define (r : Roster α) (name : String) (x : α) :
    (r.define name x).names = r.names.filter (· ≠ name) ++ [name] := by
  simp only [names, define, List.map_append, List.map_cons, List.map_nil, List.filter_map]
  rfl

/-- A change shows under its own name, if there is an entry to change, and under no other. -/
theorem get?_modify (r : Roster α) (name : String) (f : α → α) (other : String) :
    (r.modify name f).get? other = if other = name then (r.get? name).map f else r.get? other := by
  simp only [get?, modify]
  induction r.entries with
  | nil => simp
  | cons first rest hypothesis =>
    obtain ⟨key, y⟩ := first
    simp only [List.map_cons]
    rcases Decidable.em (other = name) with same | apart
    · subst same
      rcases Decidable.em (key = other) with here | elsewhere
      · subst here; simp
      · simpa [elsewhere, List.lookup_cons, beq_false_of_ne (Ne.symm elsewhere)] using hypothesis
    · rcases Decidable.em (key = name) with here | elsewhere
      · subst here
        simpa [List.lookup_cons, beq_false_of_ne apart, apart] using hypothesis
      · simp only [elsewhere, if_false, List.lookup_cons, hypothesis, apart]

/-- What was defined last under a name is found there; the earlier entry is gone. -/
@[simp] theorem get?_define_self (r : Roster α) (name : String) (x : α) :
    (r.define name x).get? name = some x := by
  simp only [get?, define]
  induction r.entries with
  | nil => simp
  | cons first rest hypothesis =>
    obtain ⟨key, y⟩ := first
    rcases Decidable.em (key = name) with same | apart
    · subst same; simpa [List.filter_cons] using hypothesis
    · simpa [List.filter_cons, apart, List.lookup_cons,
        beq_false_of_ne (Ne.symm apart)] using hypothesis

/-- A definition leaves the entries of other names. -/
theorem get?_define_of_ne (r : Roster α) {name other : String} (apart : other ≠ name) (x : α) :
    (r.define name x).get? other = r.get? other := by
  simp only [get?, define]
  induction r.entries with
  | nil => simp [List.lookup_cons, beq_false_of_ne apart]
  | cons first rest hypothesis =>
    obtain ⟨key, y⟩ := first
    rcases Decidable.em (key = name) with same | kept
    · subst same
      simpa [List.filter_cons, List.lookup_cons, beq_false_of_ne apart] using hypothesis
    · simp only [List.filter_cons, kept, ne_eq, not_false_eq_true, decide_true, if_true,
        List.cons_append, List.lookup_cons, hypothesis]

/-- Both cases of a lookup after a definition at once. -/
theorem get?_define (r : Roster α) (name : String) (x : α) (other : String) :
    (r.define name x).get? other = if other = name then some x else r.get? other := by
  rcases Decidable.em (other = name) with same | apart
  · rw [if_pos same, same, get?_define_self]
  · rw [if_neg apart, get?_define_of_ne _ apart]

/-- The names of a roster are those under which it has an entry. -/
theorem mem_names {r : Roster α} {name : String} : name ∈ r.names ↔ ∃ x, r.get? name = some x := by
  simp only [names, List.mem_map, get?_eq_some_iff]
  constructor
  · rintro ⟨entry, member, rfl⟩
    exact ⟨entry.2, member⟩
  · rintro ⟨x, member⟩
    exact ⟨(name, x), member, rfl⟩

/-- A change to the entry of a name is a change to the first entry of that name, and to nothing else. -/
theorem modify_entry {r : Roster α} {name : String} {x : α} (found : r.get? name = some x)
    (f : α → α) : ∃ before after, r.entries = before ++ (name, x) :: after ∧
      name ∉ before.map Prod.fst ∧ (r.modify name f).entries = before ++ (name, f x) :: after := by
  obtain ⟨before, after, form⟩ := List.append_of_mem (get?_eq_some_iff.mp found)
  have distinct := r.distinct
  rw [form, List.map_append, List.map_cons, List.nodup_append, List.nodup_cons] at distinct
  obtain ⟨_, ⟨absentAfter, _⟩, apart⟩ := distinct
  have absentBefore : name ∉ before.map Prod.fst :=
    fun member => apart name member name List.mem_cons_self rfl
  have others : ∀ rest : List (String × α), name ∉ rest.map Prod.fst →
      (rest.map fun entry => if entry.1 = name then (entry.1, f entry.2) else entry) = rest := by
    intro rest absent
    have kept : ∀ entry ∈ rest, (if entry.1 = name then (entry.1, f entry.2) else entry) = entry := by
      intro entry member
      apply if_neg
      rintro rfl
      exact absent (List.mem_map_of_mem member)
    exact (List.map_congr_left kept).trans (List.map_id' rest)
  refine ⟨before, after, form, absentBefore, ?_⟩
  simp only [modify, form, List.map_append, List.map_cons, if_true, others before absentBefore,
    others after absentAfter]

end Roster

end PropertyPath
