/-!
# Configuration

What a context is assembled from: the place of local variables among the
resolvers, the namespaces that are present, whether collections may be written,
and the prefix of the core functions.
-/

namespace PropertyPath

/-- Where local variables stand: before every other resolver, so that they shadow
namespaces, or after all of them. -/
inductive LocalPlacement where
  | first
  | last
  deriving DecidableEq, Repr, Inhabited

/-- The settings of a context. An empty prefix leaves the core functions out. -/
structure Config where
  localVariables : LocalPlacement := .first
  classNamespace : Bool := false
  colorNamespace : Bool := false
  readOnlyCollections : Bool := false
  corePrefix : String := "fn"
  deriving DecidableEq, Repr, Inhabited

end PropertyPath
