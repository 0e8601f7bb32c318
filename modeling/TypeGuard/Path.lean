/-!
# Paths

Paths of files as text, with segments between slashes. Empty segments and `.` lead nowhere, but a
path that starts with `.` keeps it.
-/

namespace TypeGuard.Path

/-- Whether a path starts at the root. -/
def isAbsolute (path : String) : Bool := path.toList.head? == some '/'

/-- The text between the slashes of a path. -/
def split (path : String) : List String := (path.toList.splitOn '/').map String.ofList

/-- Whether a segment after the first leads nowhere. -/
def isVoid (segment : String) : Bool := segment.isEmpty || segment == "."

/-- The segments up to the last that leads somewhere. The first one is always kept. -/
def trimmed : List String → List String
  | [] => []
  | first :: rest => first :: (rest.reverse.dropWhile isVoid).reverse

/-- The segments of a path up to the last that leads somewhere. The first one is empty where the
path starts at the root. -/
def segments (path : String) : List String :=
  if path.isEmpty then [] else trimmed (split path)

/-- The path with the given segments. -/
def ofSegments (segments : List String) : String :=
  if segments = [""] then "/" else "/".intercalate segments

/-- The name of the file that a path ends in. -/
def fileName? (path : String) : Option String :=
  match (segments path).getLast? with
  | some name => if isVoid name || name == ".." then none else some name
  | none => none

/-- The directory that a path stands in. The root and the empty path stand in none. -/
def parent? (path : String) : Option String :=
  match segments path with
  | [] => none
  | [""] => none
  | segments => some (ofSegments (trimmed segments.dropLast))

/-- A path below a directory; one that starts at the root stays as it is. -/
def join (directory path : String) : String :=
  if isAbsolute path || directory.isEmpty then path
  else if directory.toList.getLast? == some '/' then directory ++ path
  else directory ++ "/" ++ path

/-- Whether a file name has an extension; a dot at its start makes none. -/
def hasExtension (name : String) : Bool := (name.toList.drop 1).contains '.'

/-- The path with an extension added to the file name that it ends in, if that has none. -/
def withExtension (extension path : String) : String :=
  match fileName? path with
  | none => path
  | some name =>
    if hasExtension name then path else ofSegments (segments path) ++ "." ++ extension

end TypeGuard.Path
