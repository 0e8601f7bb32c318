import TypeGuard.Config.Reader
import TypeGuard.Files

/-!
# Loading configurations

A configuration file is loaded together with the files that it extends, directly or through others.
The chain ends, since a file that comes up again is refused and there are only finitely many files.
-/

namespace TypeGuard

/-- Why a configuration file could not be loaded. -/
inductive LoadError where
  /-- The file with the canonical path extends itself, directly or through others. -/
  | cycle (canonical : String)
  | unreadable (path : String)
  | malformed (path : String) (fault : Config.Fault)
  deriving DecidableEq, Repr, Inhabited

namespace LoadError

def message : LoadError → String
  | cycle canonical => "config extends cycle detected at " ++ canonical
  | unreadable path => "failed to read config: " ++ path
  | malformed path _ => "failed to parse config: " ++ path

/-- What the message leaves out. -/
def detail? : LoadError → Option String
  | malformed _ fault => fault.detail?
  | _ => none

end LoadError

namespace Files

/-- The texts of the files that have not been visited. -/
def unvisited (files : Files) (visited : List String) : List (String × String) :=
  files.texts.filter fun (canonical, _) => !visited.contains canonical

theorem mem_texts_of_lookup {texts : List (String × String)} {path text : String}
    (h : texts.lookup path = some text) : (path, text) ∈ texts := by
  induction texts with
  | nil => simp at h
  | cons entry texts ih =>
    obtain ⟨p, t⟩ := entry
    simp only [List.lookup_cons] at h
    split at h
    · rename_i hp
      simp_all
    · exact List.mem_cons_of_mem _ (ih h)

/-- A file that was read is one of the texts, under its canonical path. -/
theorem mem_texts_of_read {files : Files} {path text : String}
    (h : files.read? path = some text) : (files.canonical path, text) ∈ files.texts := by
  simp only [read?, Option.bind_eq_some_iff] at h
  obtain ⟨p, hp, ht⟩ := h
  simpa [canonical, hp] using mem_texts_of_lookup ht

theorem length_filter_lt {α : Type} {p q : α → Bool} {xs : List α} {x : α}
    (imp : ∀ y, p y → q y) (mem : x ∈ xs) (hq : q x) (hp : ¬ p x) :
    (xs.filter p).length < (xs.filter q).length := by
  induction xs with
  | nil => simp at mem
  | cons y ys ih =>
    have le : (ys.filter p).length ≤ (ys.filter q).length := by
      rw [← List.countP_eq_length_filter, ← List.countP_eq_length_filter]
      exact List.countP_mono_left fun z _ => imp z
    rcases List.mem_cons.mp mem with rfl | mem
    · simp [hq, hp]
      omega
    · have lt := ih mem
      by_cases py : p y
      · rw [List.filter_cons_of_pos py, List.filter_cons_of_pos (imp y py)]
        exact Nat.succ_lt_succ lt
      · rw [List.filter_cons_of_neg py, List.filter_cons]
        split
        · exact Nat.lt_succ_of_lt lt
        · exact lt

/-- Visiting a further file leaves fewer that are unvisited. -/
theorem unvisited_lt {files : Files} {visited : List String} {path text : String}
    (new : ¬ visited.contains (files.canonical path)) (h : files.read? path = some text) :
    (files.unvisited (files.canonical path :: visited)).length <
      (files.unvisited visited).length := by
  apply length_filter_lt _ (mem_texts_of_read h)
  · simpa using new
  · simp
  · simp_all

end Files

namespace Config

/-- The name of the configuration file that is looked for. -/
def fileName : String := "flowcheck.json"

/-- The path of the file that the configuration at `path` extends: `base`, which starts in the
directory of `path` and may leave out its extension. -/
def basePath (path base : String) : String :=
  Path.join ((Path.parent? path).getD "") (Path.withExtension "json" base)

/-- The configuration at a path with the settings of the files that it extends, where the files with
the canonical paths `visited` may not come up again. -/
def loadFrom (files : Files) (visited : List String) (path : String) : Except LoadError Config :=
  if _new : visited.contains (files.canonical path) then .error (.cycle (files.canonical path))
  else
    match _read : files.read? path with
    | none => .error (.unreadable path)
    | some text =>
      match Config.ofText text with
      | .error fault => .error (.malformed path fault)
      | .ok config =>
        match config.base with
        | none => .ok config
        | some base =>
          (loadFrom files (files.canonical path :: visited) (basePath path base)).map
            config.withBase
termination_by (files.unvisited visited).length
decreasing_by exact Files.unvisited_lt _new _read

/-- The configuration at a path with the settings of the files that it extends. -/
def load (files : Files) (path : String) : Except LoadError Config := loadFrom files [] path

/-- The configuration file beside the input, if there is one. The standard input has none. -/
def discover? (files : Files) (input : String) : Option String :=
  if input = "-" then none
  else
    match Path.parent? input with
    | some directory =>
      let path := Path.join directory fileName
      if files.isFile path then some path else none
    | none => none

end Config

end TypeGuard
