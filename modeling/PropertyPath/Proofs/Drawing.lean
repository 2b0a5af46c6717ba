import PropertyPath.Proofs.ByteOrder
import PropertyPath.Proofs.Likeness

/-!
# Drawings of values

The text of a value does not tell a mark for an elided container from a string of the same
characters. A drawing does: it is the tree of what the text shows, whose leaves are plain texts and
elided containers, and the text can be read off it.

Every place in a drawing is the end of a walk through the store, from the value into a part of it,
a part of that part and so on. A walk could go on for ever in a cyclic value. The places of the
drawing are the walks that enter no container for a second time, and an elided container stands
exactly where the next step would.
-/

namespace PropertyPath

/-- What the text of a value shows: a text without contents, the mark of a container that is
elided, or the parts of one that is opened, each behind a label. -/
inductive Drawing where
  | plain (text : String)
  | elided (c : Container)
  | opened (c : Container) (parts : List (String × Drawing))

namespace Container

/-- What stands before the parts of a container. -/
def opening : Container → String
  | sequence _ _ => "["
  | map _ => "\x7b"

/-- What stands behind them. -/
def closing : Container → String
  | sequence _ _ => "]"
  | map _ => "\x7d"

/-- The texts of its parts between the brackets of a container. -/
def enclose (c : Container) (texts : List String) : String :=
  c.opening ++ ", ".intercalate texts ++ c.closing

end Container

namespace Drawing

mutual

/-- The text of a drawing. -/
def text : Drawing → String
  | plain text => text
  | elided c => Store.elision c
  | opened c parts => c.enclose (textsOf parts)

/-- The texts of the parts of a drawing, behind their labels. -/
def textsOf : List (String × Drawing) → List String
  | [] => []
  | (label, d) :: rest => (label ++ d.text) :: textsOf rest

end

/-- The texts of parts are made one by one, each behind its label. -/
theorem textsOf_eq_map (parts : List (String × Drawing)) :
    textsOf parts = parts.map fun part => part.1 ++ part.2.text := by
  induction parts with
  | nil => rfl
  | cons part rest ih => rw [textsOf, ih, List.map_cons]

/-- What stands at a place of a drawing: the positions of the parts to go to, from the outermost. -/
def at? : Drawing → List Nat → Option Drawing
  | d, [] => some d
  | opened _ parts, i :: path => parts[i]?.bind fun part => part.2.at? path
  | _, _ :: _ => none

end Drawing

namespace Store

variable {s : Store} {enclosing chain : List Container} {c : Container} {u v : Value}

/-- The parts of a container with their labels: items without any, and entries behind their keys. -/
def parts (s : Store) : Container → List (String × Value)
  | .sequence kind ref => (s.items kind ref).map fun item => ("", item)
  | .map ref => (s.maps.get ref).entries.map fun entry => (entry.1 ++ "=", entry.2)

/-- What has parts is one of the containers that hold anything. -/
theorem mem_containers_of_part {part : String × Value} (member : part ∈ s.parts c) :
    c ∈ s.containers := by
  cases c with
  | sequence kind ref =>
    obtain ⟨item, inside, _⟩ := List.mem_map.mp member
    exact mem_containers_of_item inside
  | map ref =>
    obtain ⟨entry, inside, _⟩ := List.mem_map.mp member
    exact mem_containers_of_entry inside

/-! ## Texts by the container of a value -/

/-- A value without contents shows its own text, whatever encloses it. -/
theorem textWithin_plain (plain : v.container? = none) : s.textWithin enclosing v = s.scalarText v := by
  cases v with
  | sequence kind ref => cases plain
  | map ref => cases plain
  | _ => rw [textWithin] <;> (intros; contradiction)

/-- A container that stands among the enclosing ones is elided. -/
theorem textWithin_met (is : v.container? = some c) (met : c ∈ enclosing) :
    s.textWithin enclosing v = elision c := by
  cases v with
  | sequence kind ref => cases is; rw [textWithin, dif_pos met]
  | map ref => cases is; rw [textWithin, dif_pos met]
  | _ => cases is

/-- A container that does not stand among them shows its parts, and is itself among those that
enclose them. -/
theorem textWithin_opened (is : v.container? = some c) (fresh : c ∉ enclosing) :
    s.textWithin enclosing v =
      c.enclose ((s.parts c).map fun part => part.1 ++ s.textWithin (c :: enclosing) part.2) := by
  cases v with
  | sequence kind ref =>
    cases is
    rw [textWithin_sequence fresh, parts, List.map_map]
    simp only [Function.comp_def, String.empty_append]
    rfl
  | map ref =>
    cases is
    rw [textWithin_map fresh, parts, List.map_map]
    rfl
  | _ => cases is

/-- What holds of a value once it holds of its parts inside it holds of every value inside any
containers. Values without parts and containers that are met again have no parts to look at. -/
theorem within_induction {motive : List Container → Value → Prop}
    (plain : ∀ enclosing v, v.container? = none → motive enclosing v)
    (met : ∀ enclosing v c, v.container? = some c → c ∈ enclosing → motive enclosing v)
    (opened : ∀ enclosing v c, v.container? = some c → c ∉ enclosing →
      (∀ part ∈ s.parts c, motive (c :: enclosing) part.2) → motive enclosing v)
    (enclosing : List Container) (v : Value) : motive enclosing v := by
  induction enclosing, v using textWithin.induct s with
  | case1 enclosing kind ref inside => exact met enclosing _ _ rfl inside
  -- the induction of texts is on items and on entries, and both are parts
  | case2 enclosing kind ref fresh hypothesis =>
    refine opened enclosing _ _ rfl fresh fun part member => ?_
    obtain ⟨item, inside, rfl⟩ := List.mem_map.mp member
    exact hypothesis item inside
  | case3 enclosing ref inside => exact met enclosing _ _ rfl inside
  | case4 enclosing ref fresh hypothesis =>
    refine opened enclosing _ _ rfl fresh fun part member => ?_
    obtain ⟨entry, inside, rfl⟩ := List.mem_map.mp member
    exact hypothesis entry.1 entry.2 inside
  | case5 enclosing v notSequence notMap =>
    refine plain enclosing v ?_
    cases v with
    | sequence kind ref => exact absurd rfl (notSequence kind ref)
    | map ref => exact absurd rfl (notMap ref)
    | _ => rfl

/-! ## The drawing of a value -/

/-- The drawing of a value inside the given enclosing containers. -/
def draw (s : Store) (enclosing : List Container) (v : Value) : Drawing :=
  match v.container? with
  | none => .plain (s.scalarText v)
  | some c =>
    if _ : c ∈ enclosing then .elided c
    else .opened c ((s.parts c).attach.map fun part => (part.1.1, s.draw (c :: enclosing) part.1.2))
termination_by (s.unopened enclosing).length
decreasing_by exact s.length_unopened_lt (mem_containers_of_part part.2) ‹_›

/-- The drawing of a value. -/
def drawing (s : Store) (v : Value) : Drawing := s.draw [] v

/-- A value without contents is drawn plain. -/
theorem draw_plain (plain : v.container? = none) : s.draw enclosing v = .plain (s.scalarText v) := by
  rw [draw, plain]

/-- A container among the enclosing ones is drawn elided. -/
theorem draw_met (is : v.container? = some c) (met : c ∈ enclosing) :
    s.draw enclosing v = .elided c := by
  rw [draw, is]
  exact dif_pos met

/-- Any other container is drawn opened, with the drawings of its parts. -/
theorem draw_opened (is : v.container? = some c) (fresh : c ∉ enclosing) :
    s.draw enclosing v =
      .opened c ((s.parts c).map fun part => (part.1, s.draw (c :: enclosing) part.2)) := by
  rw [draw, is]
  simp only [dif_neg fresh, List.attach_map_val
    (f := fun part : String × Value => (part.1, s.draw (c :: enclosing) part.2))]

/-- The text of a value is that of its drawing. -/
theorem text_draw (enclosing : List Container) (v : Value) :
    (s.draw enclosing v).text = s.textWithin enclosing v := by
  induction enclosing, v using within_induction (s := s) with
  | plain enclosing v plain => rw [draw_plain plain, textWithin_plain plain, Drawing.text]
  | met enclosing v c is met => rw [draw_met is met, textWithin_met is met, Drawing.text]
  | opened enclosing v c is fresh hypothesis =>
    rw [draw_opened is fresh, textWithin_opened is fresh, Drawing.text, Drawing.textsOf_eq_map,
      List.map_map]
    refine congrArg c.enclose (List.map_congr_left fun part member => ?_)
    exact congrArg (part.1 ++ ·) (hypothesis part member)

/-! ## Places -/

/-- A walk from a value inside some containers, into a part of it, a part of that part and so on:
the containers around its end, the innermost first, and the value there. It goes on into a
container as often as it is met. -/
def follow (s : Store) : List Container → Value → List Nat → Option (List Container × Value)
  | chain, v, [] => some (chain, v)
  | chain, v, i :: path =>
    v.container?.bind fun c => (s.parts c)[i]?.bind fun part => s.follow (c :: chain) part.2 path

/-- The containers around the start of a walk are around its end as well. -/
theorem follow_suffix {path : List Nat} {there : List Container × Value}
    (followed : s.follow enclosing v path = some there) : enclosing <:+ there.1 := by
  induction path generalizing enclosing v with
  | nil =>
    cases followed
    exact List.suffix_refl enclosing
  | cons i path ih =>
    obtain ⟨c, _, inner⟩ := Option.bind_eq_some_iff.mp followed
    obtain ⟨part, _, inner⟩ := Option.bind_eq_some_iff.mp inner
    exact (List.suffix_cons c enclosing).trans (ih inner)

/-- The places of a drawing are the walks that enter no container inside itself, and what stands
there is the drawing of the value at the end. -/
theorem at?_draw_eq_some_iff {path : List Nat} {node : Drawing} (distinct : enclosing.Nodup) :
    (s.draw enclosing v).at? path = some node ↔ ∃ chain u,
      s.follow enclosing v path = some (chain, u) ∧ chain.Nodup ∧ s.draw chain u = node := by
  induction path generalizing enclosing v with
  | nil =>
    rw [Drawing.at?, follow, Option.some.injEq]
    constructor
    · intro same
      exact ⟨enclosing, v, rfl, distinct, same⟩
    · rintro ⟨chain, u, same, _, drawn⟩
      cases same
      exact drawn
  | cons i path ih =>
    cases is : v.container? with
    | none =>
      rw [draw_plain is, follow, is]
      refine iff_of_false nofun ?_
      rintro ⟨_, _, followed, _⟩
      cases followed
    | some c =>
      by_cases met : c ∈ enclosing
      · -- the walk enters the container again, and is around its end twice
        rw [draw_met is met]
        refine iff_of_false nofun ?_
        rintro ⟨chain, u, followed, nodup, _⟩
        rw [follow, is, Option.bind_some] at followed
        obtain ⟨part, _, inner⟩ := Option.bind_eq_some_iff.mp followed
        have twice := (follow_suffix inner).sublist.nodup nodup
        exact (List.nodup_cons.mp twice).1 met
      -- an opened container is not among the enclosing ones, so they stay distinct with it
      · rw [draw_opened is met, Drawing.at?, follow, is, Option.bind_some, List.getElem?_map]
        cases (s.parts c)[i]? with
        | none => exact iff_of_false nofun (by rintro ⟨_, _, followed, _⟩; cases followed)
        | some part => exact ih (List.nodup_cons.mpr ⟨met, distinct⟩)

/-- How a value is drawn inside a chain of containers: without contents; elided, if its container
is one of the chain; or opened with all its parts, if it is not. -/
inductive DrawnAs (s : Store) (chain : List Container) (u : Value) : Drawing → Prop
  | plain (plain : u.container? = none) : DrawnAs s chain u (.plain (s.scalarText u))
  | elided {c : Container} (is : u.container? = some c) (met : c ∈ chain) : DrawnAs s chain u (.elided c)
  | opened {c : Container} {parts : List (String × Drawing)} (is : u.container? = some c)
    (fresh : c ∉ chain) (labels : parts.map Prod.fst = (s.parts c).map Prod.fst) :
    DrawnAs s chain u (.opened c parts)

/-- A drawing is of the form that the value and its enclosing containers call for. -/
theorem draw_drawnAs (s : Store) (chain : List Container) (u : Value) :
    s.DrawnAs chain u (s.draw chain u) := by
  cases is : u.container? with
  | none =>
    rw [draw_plain is]
    exact .plain is
  | some c =>
    by_cases met : c ∈ chain
    · rw [draw_met is met]
      exact .elided is met
    · rw [draw_opened is met]
      exact .opened is met (by rw [List.map_map]; rfl)

/-! ## Entries -/

/-- The parts of a map are its entries: its keys stand in the order of their bytes, each behind
the one before, and behind each of them is what the map has under it. -/
structure ListsEntries (s : Store) (ref : Ref) (keys : List String) : Prop where
  ordered : keys.Pairwise fun a b => bytes a < bytes b
  mem_iff : ∀ key, key ∈ keys ↔ ((s.maps.get ref).get? key).isSome = true
  labels : (s.parts (.map ref)).map Prod.fst = keys.map (· ++ "=")
  values : ∀ (i : Nat) (key : String), keys[i]? = some key →
    (s.parts (.map ref))[i]?.map Prod.snd = (s.maps.get ref).get? key

/-- The names of a map list its entries, each once and in the order of their bytes. -/
theorem listsEntries (s : Store) (ref : Ref) : s.ListsEntries ref (s.maps.get ref).names where
  ordered := (s.maps.get ref).names_byteOrdered
  mem_iff _ := Dictionary.mem_names_iff
  labels := by
    rw [parts, Dictionary.names, List.map_map, List.map_map]
    rfl
  values i key here := by
    rw [Dictionary.names, List.getElem?_map] at here
    obtain ⟨entry, there, rfl⟩ := Option.map_eq_some_iff.mp here
    rw [parts, List.getElem?_map, there]
    exact (Dictionary.get?_eq_some_iff.mpr (List.mem_of_getElem? there)).symm

end Store

end PropertyPath
