import PropertyPath.Config.Basic
import PropertyPath.Numeric.Layout
import PropertyPath.Text.Quoted
import PropertyPath.Toml.Document

/-!
# Configuration from TOML

Two sections hold the settings, each a table or an array of its settings in
order. Keys that mean nothing here are ignored, and settings that are missing
keep their defaults. Settings are checked in the order of the document, and the
first one of a wrong shape is reported.
-/

namespace PropertyPath

open Toml

/-- What a setting or a section has to be. -/
inductive Expectation where
  | boolean
  | string
  | resolverSection
  | functionSection
  deriving DecidableEq, Repr

/-- How the document departs from the expected shape. -/
inductive ShapeFault where
  | wrongType (found : Item) (expected : Expectation)
  | unknownPlacement (found : String)
  | notPlacement
  | noPlacement
  | severalPlacements
  | placementTable
  | placementArray
  | placementContent (found : Item)

/-- Why a text is no configuration. -/
inductive ConfigFault where
  | notToml
  | wrongShape (fault : ShapeFault)

namespace Expectation

/-- The words for what is expected. -/
def text : Expectation → String
  | boolean => "a boolean"
  | string => "a string"
  | resolverSection => "struct ResolverConfig"
  | functionSection => "struct FunctionConfig"

end Expectation

/-- A double in prose, with a visible fractional part if it is finite. -/
def Toml.floatText (x : Float) : String :=
  let plain := Layout.plain x
  match Binary64.form x with
  | .finite _ _ => if plain.toList.contains '.' then plain else plain ++ ".0"
  | _ => plain

/-- An item in prose, as something of an unexpected type. -/
def Toml.Item.unexpectedText : Item → String
  | .string text => "string " ++ Text.quoted text
  | .integer n => "integer `" ++ toString n.toInt ++ "`"
  | .float x => "floating point `" ++ floatText x ++ "`"
  | .boolean b => "boolean `" ++ (if b then "true" else "false") ++ "`"
  | .datetime | .table _ _ => "map"
  | .array _ | .tables _ => "sequence"

/-- The word for the kind of an item. -/
def Toml.Item.kindText : Item → String
  | .string _ => "string"
  | .integer _ => "integer"
  | .float _ => "float"
  | .boolean _ => "boolean"
  | .datetime => "datetime"
  | .array _ => "array"
  | .tables _ => "array of tables"
  | .table .inlined _ => "inline table"
  | .table _ _ => "table"

/-- The text of a fault of shape. -/
def ShapeFault.text : ShapeFault → String
  | wrongType found expected =>
    "invalid type: " ++ found.unexpectedText ++ ", expected " ++ expected.text
  | unknownPlacement found => "unknown variant `" ++ found ++ "`, expected `first` or `last`"
  | notPlacement => "wanted string or table"
  | noPlacement => "wanted exactly 1 element, found 0 elements"
  | severalPlacements => "wanted exactly 1 element, more than 1 element"
  | placementTable => "expected empty table"
  | placementArray => "expected empty array"
  | placementContent found => "expected table, found " ++ found.kindText

namespace Config

/-- A truth value. -/
def readBoolean : Item → Except ShapeFault Bool
  | .boolean b => .ok b
  | found => .error (.wrongType found .boolean)

/-- A text. -/
def readString : Item → Except ShapeFault String
  | .string text => .ok text
  | found => .error (.wrongType found .string)

/-- A placement by its word. -/
def placementOf (word : String) : Except ShapeFault LocalPlacement :=
  if word = "first" then .ok .first
  else if word = "last" then .ok .last
  else .error (.unknownPlacement word)

/-- What may stand behind a placement that is written as a key: nothing inside. -/
def checkHollow : Item → Except ShapeFault Unit
  | .table _ entries => if entries.isEmpty then .ok () else .error .placementTable
  | .array items => if items.isEmpty then .ok () else .error .placementTable
  | .tables tables => if tables.isEmpty then .ok () else .error .placementArray
  | found => .error (.placementContent found)

/-- A placement, as a word or as the only key of a table. -/
def readPlacement : Item → Except ShapeFault LocalPlacement
  | .string word => placementOf word
  | .table _ [] => .error .noPlacement
  | .table _ [(word, content)] => do
    let placement ← placementOf word
    checkHollow content
    return placement
  | .table _ _ => .error .severalPlacements
  | _ => .error .notPlacement

/-- A setting: its key, and how an item changes the configuration. -/
abbrev Setting := String × (Item → Config → Except ShapeFault Config)

/-- The settings of the section of resolvers, in order. -/
def resolverSettings : List Setting :=
  [("local_variables", fun item c => return { c with localVariables := ← readPlacement item }),
   ("class_namespace", fun item c => return { c with classNamespace := ← readBoolean item }),
   ("color_namespace", fun item c => return { c with colorNamespace := ← readBoolean item }),
   ("read_only_collections", fun item c =>
      return { c with readOnlyCollections := ← readBoolean item })]

/-- The settings of the section of functions. -/
def functionSettings : List Setting :=
  [("core_prefix", fun item c => return { c with corePrefix := ← readString item })]

/-- Applies the entries of a table that are settings. -/
def readEntries (settings : List Setting) (entries : Entries) (c : Config) :
    Except ShapeFault Config :=
  entries.foldlM (fun c (key, item) =>
    match settings.lookup key with
    | some apply => apply item c
    | none => .ok c) c

/-- Applies items as the settings in order; items in excess are ignored. -/
def readItems (settings : List Setting) (items : List Item) (c : Config) :
    Except ShapeFault Config :=
  (settings.zip items).foldlM (fun c ((_, apply), item) => apply item c) c

/-- Applies a section. A date or a time counts as a table without settings. -/
def readSection (settings : List Setting) (expected : Expectation) (item : Item) (c : Config) :
    Except ShapeFault Config :=
  match item with
  | .table _ entries => readEntries settings entries c
  | .array items => readItems settings items c
  | .tables tables => readItems settings (tables.map (.table .header ·)) c
  | .datetime => .ok c
  | found => .error (.wrongType found expected)

/-- The sections of a document. -/
def sections : List Setting :=
  [("resolvers", readSection resolverSettings .resolverSection),
   ("functions", readSection functionSettings .functionSection)]

/-- The configuration that a text holds. -/
def parse (text : String) : Except ConfigFault Config :=
  match document? text.toList with
  | none => .error .notToml
  | some entries => (readEntries sections entries {}).mapError .wrongShape

end Config

end PropertyPath
