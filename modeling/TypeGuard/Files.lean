import TypeGuard.Path

/-!
# Files

The files that a run can read: where a path leads, and the text that is found there. Paths that lead
to the same file have the same canonical path.
-/

namespace TypeGuard

structure Files where
  /-- The canonical path of what a path leads to, if it leads to anything. -/
  resolve : String → Option String
  /-- The texts of the files, by canonical path. -/
  texts : List (String × String)

namespace Files

/-- The canonical path, or the path itself where it leads to nothing. -/
def canonical (files : Files) (path : String) : String := (files.resolve path).getD path

/-- The text of the file that a path leads to. -/
def read? (files : Files) (path : String) : Option String :=
  (files.resolve path).bind fun p => files.texts.lookup p

def isFile (files : Files) (path : String) : Bool := (files.read? path).isSome

/-! ### Files below one directory -/

/-- One step into a segment, from the directory with the segments `here`. -/
def enter? (paths : List (List String)) (here : List String) (segment : String) :
    Option (List String) :=
  if paths.contains here then none
  else if segment = ".." then if here.isEmpty then none else some here.dropLast
  else if Path.isVoid segment then some here
  else
    let next := here ++ [segment]
    if paths.any next.isPrefixOf then some next else none

/-- The segments of what a path leads to, from the directory that holds the files. A path that
leaves the directory leads to nothing. -/
def walk? (paths : List (List String)) (path : String) : Option (List String) :=
  if path.isEmpty || Path.isAbsolute path then none
  else (Path.split path).foldlM (enter? paths) []

/-- Files given by their paths below one directory, in which relative paths start. -/
def ofList (files : List (String × String)) : Files :=
  let paths := files.map fun (path, _) => (Path.split path).filter fun s => !Path.isVoid s
  { resolve := fun path => (walk? paths path).map ("/".intercalate ·),
    texts := (paths.zip files).map fun (p, _, text) => ("/".intercalate p, text) }

end Files

end TypeGuard
