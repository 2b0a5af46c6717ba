import PropertyPath.Text.CaseClasses
import PropertyPath.Text.CaseTable

/-!
# Upper and lower case of texts

Case is mapped character by character with the full Unicode mappings, so a text
may grow. The one mapping that looks at its surroundings is that of the capital
sigma, which becomes a final sigma at the end of a word.
-/

namespace PropertyPath.Text

/-- The capital sigma. -/
def capitalSigma : Char := 'Σ'

/-- Whether the first character that case mapping does not ignore is cased. -/
def touchesCased (text : List Char) : Bool :=
  ((text.dropWhile isCaseIgnorable).head?.map isCased).getD false

/-- Lower case of a capital sigma between two texts, the one before it given in
reverse: final exactly if a cased letter comes before it and none comes after. -/
def lowerSigma (reversedBefore after : List Char) : Char :=
  if touchesCased reversedBefore && !touchesCased after then 'ς' else 'σ'

/-- Lower case of a text that continues one already read, given in reverse. -/
def lowerAfter (reversedBefore : List Char) : List Char → List Char
  | [] => []
  | c :: rest =>
    let image := if c = capitalSigma then [lowerSigma reversedBefore rest]
      else mapCase lowerSpecials lowerRuns c
    image ++ lowerAfter (c :: reversedBefore) rest

/-- The text in lower case. -/
def toLower (text : String) : String := String.ofList (lowerAfter [] text.toList)

/-- The text in upper case. -/
def toUpper (text : String) : String :=
  String.ofList (text.toList.flatMap (mapCase upperSpecials upperRuns))

end PropertyPath.Text
