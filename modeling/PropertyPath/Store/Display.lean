import PropertyPath.Store.Basic
import PropertyPath.Text.Quoted

/-!
# Texts of values

The text of a value shows the contents of lists, arrays and maps. A container
that is met again inside itself is elided, so the text of a cyclic value is
finite; a container that is merely shared is shown in full each time. The
recursion is bounded by the containers that are not yet enclosing ones.
-/

namespace PropertyPath.Store

/-- All containers that hold anything. -/
def containers (s : Store) : List Container :=
  (List.range s.lists.cells.size).map (.sequence .list ⟨·⟩)
    ++ (List.range s.arrays.cells.size).map (.sequence .array ⟨·⟩)
    ++ (List.range s.maps.cells.size).map (.map ⟨·⟩)

/-- Of some containers fewer enclose nothing once another one of them encloses. -/
theorem length_filter_not_mem_lt {known enclosing : List Container} {c : Container} (member : c ∈ known)
    (fresh : c ∉ enclosing) :
    (known.filter (· ∉ c :: enclosing)).length < (known.filter (· ∉ enclosing)).length := by
  have narrower : known.filter (· ∉ c :: enclosing) = (known.filter (· ∉ enclosing)).filter (· ≠ c) := by
    rw [List.filter_filter]
    refine List.filter_congr fun other _ => ?_
    simp [not_or]
  rw [narrower]
  refine List.length_filter_lt_length_iff_exists.2 ⟨c, ?_, by simp⟩
  simp [member, fresh]

/-- The containers that enclose nothing yet. -/
def unopened (s : Store) (enclosing : List Container) : List Container :=
  s.containers.filter (· ∉ enclosing)

/-- Opening a container that is known and not open yet leaves fewer to open. This is what ends the
recursion of texts. -/
theorem length_unopened_lt (s : Store) {enclosing : List Container} {c : Container}
    (known : c ∈ s.containers) (fresh : c ∉ enclosing) :
    (s.unopened (c :: enclosing)).length < (s.unopened enclosing).length :=
  length_filter_not_mem_lt known fresh

/-- A sequence with an item holds something, so it is one of the finitely many containers that
do. -/
theorem mem_containers_of_item {s : Store} {kind : SequenceKind} {ref : Ref} {item : Value}
    (member : item ∈ s.items kind ref) : Container.sequence kind ref ∈ s.containers := by
  cases kind with
  | list =>
    rcases Nat.lt_or_ge ref.index s.lists.cells.size with inside | outside
    · simp [containers]; exact ⟨ref.index, inside, rfl⟩
    · simp [items, Arena.get, Array.getElem?_eq_none outside, default] at member
  | array =>
    rcases Nat.lt_or_ge ref.index s.arrays.cells.size with inside | outside
    · simp [containers]; exact ⟨ref.index, inside, rfl⟩
    · simp [items, Arena.get, Array.getElem?_eq_none outside, default] at member

/-- So is a map with an entry. -/
theorem mem_containers_of_entry {s : Store} {ref : Ref} {entry : String × Value}
    (member : entry ∈ (s.maps.get ref).entries) : Container.map ref ∈ s.containers := by
  rcases Nat.lt_or_ge ref.index s.maps.cells.size with inside | outside
  · simp [containers]; exact ⟨ref.index, inside, rfl⟩
  · simp [Arena.get, Array.getElem?_eq_none outside, default, Dictionary.empty] at member

/-- The text of a value without contents to show. Records and classes appear by
name only. -/
def scalarText (s : Store) : Value → String
  | .null => "null"
  | .boolean b => if b then "true" else "false"
  | .string text => text
  | .number n => n.text
  | .record ref => (s.records.get ref).typeName
  | .classObject ref => "class " ++ (s.classes.get ref).name
  | .marker .classes => "<class namespace>"
  | .marker .colors => "<color namespace>"
  | .color c => c.text
  | .sequence _ _ | .map _ => ""

/-- The mark in place of an enclosing container. -/
def elision : Container → String
  | .sequence _ _ => "[...]"
  | .map _ => "\x7b...\x7d"

/-- The text of a value inside the given enclosing containers. -/
def textWithin (s : Store) (enclosing : List Container) : Value → String
  | .sequence kind ref =>
    if _ : .sequence kind ref ∈ enclosing then elision (.sequence kind ref)
    else
      let texts := (s.items kind ref).attach.map fun ⟨item, _⟩ =>
        s.textWithin (.sequence kind ref :: enclosing) item
      "[" ++ ", ".intercalate texts ++ "]"
  | .map ref =>
    if _ : .map ref ∈ enclosing then elision (.map ref)
    else
      let texts := (s.maps.get ref).entries.attach.map fun ⟨(key, value), _⟩ =>
        key ++ "=" ++ s.textWithin (.map ref :: enclosing) value
      "\x7b" ++ ", ".intercalate texts ++ "\x7d"
  | value => s.scalarText value
termination_by (s.unopened enclosing).length
decreasing_by
  · exact s.length_unopened_lt (mem_containers_of_item ‹_›) ‹_›
  · exact s.length_unopened_lt (mem_containers_of_entry ‹_›) ‹_›

/-- The text of a value. -/
def text (s : Store) (value : Value) : String := s.textWithin [] value

/-- A string is shown as it is, without quotes. -/
theorem text_string (s : Store) (text : String) : s.text (.string text) = text := by
  simp only [Store.text, textWithin, scalarText]

/-- A value under inspection: its variant, and its contents or their count. -/
def inspect (s : Store) : Value → String
  | .null => "Value::Null"
  | .boolean b => "Value::Boolean(" ++ (if b then "true" else "false") ++ ")"
  | .string text => "Value::String(" ++ Text.quoted text ++ ")"
  | .number n => "Value::Number(" ++ n.inspect ++ ")"
  | .sequence kind ref =>
    (match kind with
      | .list => "Value::List(len="
      | .array => "Value::Array(len=") ++ toString (s.items kind ref).length ++ ")"
  | .map ref => "Value::Map(len=" ++ toString (s.maps.get ref).size ++ ")"
  | .record ref => "Value::Record(" ++ (s.records.get ref).typeName ++ ")"
  | .classObject ref => "Value::Class(" ++ (s.classes.get ref).name ++ ")"
  | .marker issuer => "Value::Marker(" ++ s.scalarText (.marker issuer) ++ ")"
  | .color c => "Value::Color(" ++ c.inspect ++ ")"

end PropertyPath.Store
