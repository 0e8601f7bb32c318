/-!
# Comments

Configuration texts may hold comments: from `//` to the end of the line, and from `/*` to `*/`.
Outside strings they are removed. The line breaks within them stay, so that every line keeps its
number.
-/

namespace TypeGuard.Comment

mutual
/-- The characters outside strings and comments. -/
def stripCode : List Char → List Char
  | [] => []
  | '/' :: '/' :: cs => stripLine cs
  | '/' :: '*' :: cs => stripBlock cs
  | '"' :: cs => '"' :: stripString cs
  | c :: cs => c :: stripCode cs

/-- The characters of a string and what follows it. A character after a backslash cannot end the
string. -/
def stripString : List Char → List Char
  | [] => []
  | '\\' :: c :: cs => '\\' :: c :: stripString cs
  | '"' :: cs => '"' :: stripCode cs
  | c :: cs => c :: stripString cs

/-- What follows a comment that ends with the line. -/
def stripLine : List Char → List Char
  | [] => []
  | '\n' :: cs => '\n' :: stripCode cs
  | _ :: cs => stripLine cs

/-- The line breaks of a comment that ends with `*/`, and what follows it. -/
def stripBlock : List Char → List Char
  | [] => []
  | '*' :: '/' :: cs => stripCode cs
  | '\n' :: cs => '\n' :: stripBlock cs
  | _ :: cs => stripBlock cs
end

/-- The text without its comments. -/
def strip (text : String) : String := String.ofList (stripCode text.toList)

end TypeGuard.Comment
