import ImageForge.Json.Written
/-!
Reading a document for its value.
-/

namespace ImageForge.Json

/-- How many containers may stand inside one another in documents from outside. -/
def maxDepth : Nat := 127

/-- The document that a text writes, of some depth at most; `none` when it is not exactly one. -/
def parseWithin? (depth : Nat) (s : String) : Option Json := do (← Written.parse? s).value? depth

/-- The document that a text from outside writes. -/
def parse? (s : String) : Option Json := parseWithin? maxDepth s

end ImageForge.Json
