/-!
# Path expressions

An expression is a literal or a path. A path starts at a name or at the result of
a function call and continues with properties and indices; indices and arguments
are expressions again. The tree is parametric in its literals, so the same shape
serves for literals as written and for literals as values.
-/

namespace PropertyPath

/-- A literal value. -/
inductive Literal where
  | null
  | boolean (b : Bool)
  | integer (n : Int64)
  | float (x : Float)
  | string (s : String)
  deriving DecidableEq, Inhabited

mutual

/-- A literal, or a root followed by segments. -/
inductive Expr (α : Type) where
  | literal (value : α)
  | path (root : Root α) (segments : List (Segment α))

/-- Where a path starts: at a name, or at the result of `space:name(arguments)`. -/
inductive Root (α : Type) where
  | identifier (name : String)
  | call (space name : String) (arguments : List (Expr α))

/-- One step of a path: `.name` or `[index]`. -/
inductive Segment (α : Type) where
  | property (name : String)
  | index (index : Expr α)

end

variable {α β : Type}

/-- A literal, for want of anything else. -/
instance [Inhabited α] : Inhabited (Expr α) := ⟨.literal default⟩

mutual

/-- The roots of all paths in an expression. A path comes before the paths inside
it, and those in its arguments come before those in its indices. -/
def Expr.roots : Expr α → List (Root α)
  | .literal _ => []
  | .path root segments => root :: (root.innerRoots ++ Segment.rootsOf segments)

/-- The roots of the paths in the arguments of a root. -/
def Root.innerRoots : Root α → List (Root α)
  | .identifier _ => []
  | .call _ _ arguments => Expr.rootsOf arguments

/-- The roots of the paths in an index. -/
def Segment.roots : Segment α → List (Root α)
  | .property _ => []
  | .index index => index.roots

/-- The roots in a list of expressions, from left to right. -/
def Expr.rootsOf : List (Expr α) → List (Root α)
  | [] => []
  | first :: rest => first.roots ++ Expr.rootsOf rest

/-- The roots in a list of segments, from left to right. -/
def Segment.rootsOf : List (Segment α) → List (Root α)
  | [] => []
  | first :: rest => first.roots ++ Segment.rootsOf rest

end

/-- The name a root looks up. -/
def Root.name? : Root α → Option String
  | .identifier name => some name
  | .call _ _ _ => none

/-- The function a root calls, as its prefix and name. -/
def Root.function? : Root α → Option (String × String)
  | .identifier _ => none
  | .call space name _ => some (space, name)

/-- The names looked up anywhere in an expression, each at its first occurrence. -/
def Expr.rootNames (e : Expr α) : List String := (e.roots.filterMap Root.name?).eraseDups

/-- The functions called anywhere in an expression, once per call. -/
def Expr.calls (e : Expr α) : List (String × String) := e.roots.filterMap Root.function?

mutual

/-- Transforms every literal, from left to right, until one is rejected. -/
def Expr.traverse {ε : Type} (f : α → Except ε β) : Expr α → Except ε (Expr β)
  | .literal value => return .literal (← f value)
  | .path root segments => do
    let root ← root.traverse f
    return .path root (← Segment.traverseList f segments)

/-- Transforms the literals in the arguments of a root. -/
def Root.traverse {ε : Type} (f : α → Except ε β) : Root α → Except ε (Root β)
  | .identifier name => return .identifier name
  | .call space name arguments => return .call space name (← Expr.traverseList f arguments)

/-- Transforms the literals in an index. -/
def Segment.traverse {ε : Type} (f : α → Except ε β) : Segment α → Except ε (Segment β)
  | .property name => return .property name
  | .index index => return .index (← index.traverse f)

/-- Transforms the literals in a list of expressions. -/
def Expr.traverseList {ε : Type} (f : α → Except ε β) : List (Expr α) → Except ε (List (Expr β))
  | [] => return []
  | first :: rest => do
    let first ← first.traverse f
    return first :: (← Expr.traverseList f rest)

/-- Transforms the literals in a list of segments. -/
def Segment.traverseList {ε : Type} (f : α → Except ε β) :
    List (Segment α) → Except ε (List (Segment β))
  | [] => return []
  | first :: rest => do
    let first ← first.traverse f
    return first :: (← Segment.traverseList f rest)

end

end PropertyPath
