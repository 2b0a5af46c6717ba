/-!
# Named entries

Tables are lists of named entries. What is looked up under a name is an entry of that name, and
where each name occurs once, every entry is what is looked up under its name.
-/

namespace PropertyPath

variable {κ α : Type} [BEq κ] [LawfulBEq κ] {entries : List (κ × α)} {name : κ} {x : α}

/-- What is looked up is an entry of its name. -/
theorem mem_of_lookup_eq_some (found : entries.lookup name = some x) : (name, x) ∈ entries := by
  obtain ⟨before, after, rfl, _⟩ := List.lookup_eq_some_iff.1 found
  exact List.mem_append_right before List.mem_cons_self

/-- Where each name occurs once, the entries are what is looked up. -/
theorem lookup_eq_some_iff_mem (distinct : (entries.map Prod.fst).Nodup) :
    entries.lookup name = some x ↔ (name, x) ∈ entries := by
  refine ⟨mem_of_lookup_eq_some, fun member => ?_⟩
  induction entries with
  | nil => cases member
  | cons first rest hypothesis =>
    obtain ⟨other, y⟩ := first
    rw [List.map_cons, List.nodup_cons] at distinct
    rw [List.lookup_cons]
    rcases List.mem_cons.1 member with here | later
    · cases here
      rw [beq_self_eq_true]
    · have apart : name ≠ other := fun same =>
        distinct.1 (List.mem_map.2 ⟨(name, x), later, same⟩)
      rw [beq_false_of_ne apart]
      exact hypothesis distinct.2 later

end PropertyPath
