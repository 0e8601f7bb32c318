/-!
# Replacement

Replacing every occurrence of a text, from left to right and without overlap.
-/

namespace TypeGuard.Text

/-- `replaceFrom pattern new skip cs` replaces the occurrences in `cs` after its first `skip`
characters, which belong to an occurrence that was replaced already and are dropped. -/
def replaceFrom (pattern new : List Char) : Nat → List Char → List Char
  | _, [] => []
  | skip + 1, _ :: cs => replaceFrom pattern new skip cs
  | 0, c :: cs =>
    if pattern.isPrefixOf (c :: cs) then new ++ replaceFrom pattern new (pattern.length - 1) cs
    else c :: replaceFrom pattern new 0 cs

/-- Replaces every occurrence of the nonempty text `pattern` by `new`. -/
def replace (pattern new text : String) : String :=
  String.ofList (replaceFrom pattern.toList new.toList 0 text.toList)

end TypeGuard.Text
