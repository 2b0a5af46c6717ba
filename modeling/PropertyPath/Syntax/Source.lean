import PropertyPath.Syntax.Failure

/-!
# Expressions from source texts

A source denotes at most one expression. Three things can be wrong with it, and
they are looked for in this order: brackets nested too deep, a text outside the
grammar, and an integer outside the 64-bit range.
-/

namespace PropertyPath

/-- An integer within the 64-bit range, any other literal as it is. -/
def Grammar.Lexeme.literal (source : List Char) : Grammar.Lexeme → Except SyntaxFailure Literal
  | .null => .ok .null
  | .boolean b => .ok (.boolean b)
  | .float x => .ok (.float x)
  | .string s => .ok (.string s)
  | .integer numeral remaining =>
    match Reading.toInt64 numeral.value with
    | .ok n => .ok (.integer n)
    | .error excess =>
      let width := numeral.text.length
      .error ⟨source, source.length - remaining - width, some width,
        .integerOutOfRange (String.ofList numeral.text) excess⟩

/-- The expression that characters denote. Their nesting is checked first, then
their grammar, and last the range of the integers from left to right. -/
def Expr.read (source : List Char) : Except SyntaxFailure (Expr Literal) :=
  match Nesting.excess? {} source with
  | some rest => .error ⟨source, source.length - rest.length, none, .nestedTooDeep⟩
  | none =>
    match Grammar.expression? Nesting.limit source with
    | some e => e.traverse (·.literal source)
    | none =>
      let (remaining, constructs) := Diagnosis.furthest Nesting.limit source
      .error ⟨source, source.length - remaining, none, .expected constructs⟩

/-- The expression that a source denotes. -/
def Expr.parse (source : String) : Except SyntaxFailure (Expr Literal) := Expr.read source.toList

end PropertyPath
