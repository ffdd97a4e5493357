import SpatialCatalog.Json.Source

/-!
# JSON texts

`Json.render` writes a value without spaces. `Source.parse?` reads the tree of a text, and
`Json.parse?` its value; at most `nestingLimit` containers may stand inside one another.
-/

namespace SpatialCatalog

/-- How many containers of a document may stand inside one another. -/
def nestingLimit : Nat := 127

/-- The text of a value, without spaces. -/
def Json.render (j : Json) : String :=
  String.ofList ((Source.ofJson j).tokens.flatMap Token.text)

/-- The tree of a text. -/
def Source.parse? (text : String) : Option Source :=
  (Token.scan? text.toList).bind Source.ofTokens?

/-- The value of a text. -/
def Json.parse? (text : String) : Option Json :=
  (Source.parse? text).bind (Source.value? nestingLimit)

end SpatialCatalog
