/-!
# Colors

A color has four channels of one byte. The palette names thirteen opaque colors,
each by two spellings.
-/

namespace PropertyPath

/-- Red, green, blue and opacity. -/
structure Color where
  red : UInt8
  green : UInt8
  blue : UInt8
  alpha : UInt8
  deriving DecidableEq, Repr, Inhabited

namespace Color

/-- An opaque color. -/
def rgb (red green blue : UInt8) : Color := ⟨red, green, blue, 255⟩

/-- The named colors: camel-case spelling, constant spelling, color. -/
def palette : List (String × String × Color) :=
  [("white", "WHITE", rgb 255 255 255),
   ("lightGray", "LIGHT_GRAY", rgb 192 192 192),
   ("gray", "GRAY", rgb 128 128 128),
   ("darkGray", "DARK_GRAY", rgb 64 64 64),
   ("black", "BLACK", rgb 0 0 0),
   ("red", "RED", rgb 255 0 0),
   ("pink", "PINK", rgb 255 175 175),
   ("orange", "ORANGE", rgb 255 200 0),
   ("yellow", "YELLOW", rgb 255 255 0),
   ("green", "GREEN", rgb 0 255 0),
   ("magenta", "MAGENTA", rgb 255 0 255),
   ("cyan", "CYAN", rgb 0 255 255),
   ("blue", "BLUE", rgb 0 0 255)]

/-- The color that goes by a name in either spelling. -/
def named? (name : String) : Option Color :=
  palette.findSome? fun (camel, constant, color) =>
    if name = camel ∨ name = constant then some color else none

/-- All names, in increasing order: the constant spellings come first, since
capitals precede small letters. -/
def names : List String :=
  (palette.flatMap fun (camel, constant, _) => [camel, constant]).mergeSort (· ≤ ·)

/-- The text of a color; opacity does not show. -/
def text (c : Color) : String :=
  s!"Color[r={c.red.toNat},g={c.green.toNat},b={c.blue.toNat}]"

/-- All four channels, for inspection. -/
def inspect (c : Color) : String :=
  "Color \x7b red: " ++ toString c.red.toNat ++ ", green: " ++ toString c.green.toNat
    ++ ", blue: " ++ toString c.blue.toNat ++ ", alpha: " ++ toString c.alpha.toNat ++ " \x7d"

end Color

end PropertyPath
