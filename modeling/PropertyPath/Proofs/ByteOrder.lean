import PropertyPath.Table.Dictionary

/-!
# The order of names by their bytes

Names are compared character by character, by code point. This is the order of their UTF-8
encodings as lists of bytes. Of two characters the one with the larger code has the larger
encoding, and the difference shows before either encoding ends, so what follows does not matter.
-/

namespace PropertyPath

/-- The bytes of a text in UTF-8. -/
def bytes (text : String) : List UInt8 := text.toUTF8.data.toList

/-- The encodings of the characters follow one another. -/
theorem bytes_eq_flatMap (text : String) : bytes text = text.toList.flatMap String.utf8EncodeChar := by
  have encoded : text.toUTF8 = text.toList.utf8Encode := by simp
  rw [bytes, encoded, List.utf8Encode, List.data_toByteArray]

/-- A list of bytes is less than another if its first byte is, or these are the same and what
follows is less. -/
theorem ofNat_cons_lt {x y : Nat} {l r : List UInt8} (bound : y < 256) (order : x ≤ y)
    (behind : x = y → l < r) : UInt8.ofNat x :: l < UInt8.ofNat y :: r := by
  rw [List.cons_lt_cons_iff]
  by_cases same : x = y
  · exact .inr ⟨congrArg UInt8.ofNat same, behind same⟩
  · left
    rw [UInt8.lt_iff_toNat_lt, UInt8.toNat_ofNat', UInt8.toNat_ofNat']
    omega

/-- A character with a larger code has a larger encoding, whatever follows. The encodings are of
the same length, and then the codes differ in one of their digits, or of different lengths, and
then they differ in the first byte. -/
theorem utf8EncodeChar_append_lt {c d : Char} (less : c < d) (l r : List UInt8) :
    String.utf8EncodeChar c ++ l < String.utf8EncodeChar d ++ r := by
  have codes : c.val.toNat < d.val.toNat := UInt32.lt_iff_toNat_lt.mp less
  have valid : d.val.toNat < 0xd800 ∨ 0xdfff < d.val.toNat ∧ d.val.toNat < 0x110000 := d.valid
  unfold String.utf8EncodeChar
  generalize c.val.toNat = m, d.val.toNat = n at codes valid
  simp only []
  -- by the length of the longer encoding, and then of the shorter; of equal lengths the bytes are
  -- digits of the codes, and the first that differ decide
  by_cases one : n ≤ 127
  · rw [if_pos one, if_pos (by omega)]
    exact ofNat_cons_lt (by omega) (by omega) (by omega)
  rw [if_neg one]
  by_cases two : n ≤ 2047
  · rw [if_pos two]
    split
    · exact ofNat_cons_lt (by omega) (by omega) (by omega)
    rw [if_pos (by omega)]
    exact ofNat_cons_lt (by omega) (by omega) fun _ => ofNat_cons_lt (by omega) (by omega) (by omega)
  rw [if_neg two]
  by_cases three : n ≤ 65535
  · rw [if_pos three]
    split
    · exact ofNat_cons_lt (by omega) (by omega) (by omega)
    split
    · exact ofNat_cons_lt (by omega) (by omega) (by omega)
    rw [if_pos (by omega)]
    exact ofNat_cons_lt (by omega) (by omega) fun _ => ofNat_cons_lt (by omega) (by omega) fun _ =>
      ofNat_cons_lt (by omega) (by omega) (by omega)
  rw [if_neg three]
  split
  · exact ofNat_cons_lt (by omega) (by omega) (by omega)
  split
  · exact ofNat_cons_lt (by omega) (by omega) (by omega)
  split
  · exact ofNat_cons_lt (by omega) (by omega) (by omega)
  exact ofNat_cons_lt (by omega) (by omega) fun _ => ofNat_cons_lt (by omega) (by omega) fun _ =>
    ofNat_cons_lt (by omega) (by omega) fun _ => ofNat_cons_lt (by omega) (by omega) (by omega)

/-- A larger text has larger bytes. -/
theorem bytes_lt_of_lt {a b : String} (less : a < b) : bytes a < bytes b := by
  rw [bytes_eq_flatMap, bytes_eq_flatMap]
  have lists : a.toList < b.toList := less
  generalize a.toList = xs, b.toList = ys at lists
  induction xs generalizing ys with
  | nil =>
    cases ys with
    | nil => exact absurd lists (List.not_lt_nil [])
    | cons d ys =>
      have some : 0 < (String.utf8EncodeChar d).length := by
        rw [String.length_utf8EncodeChar]
        exact d.utf8Size_pos
      obtain ⟨first, others, form⟩ := List.exists_cons_of_length_pos some
      rw [List.flatMap_nil, List.flatMap_cons, form]
      exact List.nil_lt_cons _ _
  | cons c xs ih =>
    cases ys with
    | nil => exact absurd lists (List.not_lt_nil _)
    | cons d ys =>
      rw [List.flatMap_cons, List.flatMap_cons]
      -- the first characters differ, and so do their bytes; or they are the same, and so are theirs
      rcases List.cons_lt_cons_iff.mp lists with smaller | ⟨rfl, further⟩
      · exact utf8EncodeChar_append_lt smaller _ _
      · exact List.append_left_lt (ih ys further)

/-- Texts are ordered by their bytes. -/
theorem bytes_lt_iff {a b : String} : bytes a < bytes b ↔ a < b := by
  refine ⟨fun less => ?_, bytes_lt_of_lt⟩
  by_cases forward : a < b
  · exact forward
  by_cases backward : b < a
  · exact absurd less (List.lt_asymm (bytes_lt_of_lt backward))
  · have same := String.le_antisymm (String.not_lt.mp backward) (String.not_lt.mp forward)
    rw [same] at less
    exact absurd less (List.lt_irrefl _)

namespace Dictionary

variable {α : Type}

/-- The names of a dictionary stand in the order of their bytes. -/
theorem names_byteOrdered (d : Dictionary α) : d.names.Pairwise fun a b => bytes a < bytes b :=
  d.increasing.imp bytes_lt_iff.mpr

/-- They are the names under which something is found. -/
theorem mem_names_iff {d : Dictionary α} {name : String} : name ∈ d.names ↔ (d.get? name).isSome = true := by
  rw [names, List.mem_map, Option.isSome_iff_exists]
  constructor
  · rintro ⟨entry, member, rfl⟩
    exact ⟨entry.2, get?_eq_some_iff.mpr member⟩
  · rintro ⟨x, found⟩
    exact ⟨(name, x), get?_eq_some_iff.mp found, rfl⟩

end Dictionary

end PropertyPath
