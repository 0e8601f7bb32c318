import Mathlib.Data.List.Basic
import TypeGuard.Config.Load

/-!
# Files below one directory

The files of a directory are reached by paths of many spellings. A path that leads to a file ends in
the name of the file, since nothing can be entered behind it, and what is in front of the name leads
to the directory of the file. What a configuration extends is looked for from that directory, so it
does not matter by which path the configuration was reached: `Files.coherent_ofList`.
-/

namespace TypeGuard

/-! ### Segments -/

namespace Path

variable {path directory name : String} {ss ss' : List String}

theorem split_append_slash (directory path : String) :
    split (directory ++ "/" ++ path) = split directory ++ split path := by
  simp [split, List.splitOn_append_cons_self]

theorem split_ne_nil (path : String) : split path ≠ [] := by
  simp [split, List.splitOn, List.splitOnP_ne_nil]

theorem map_toList_split (path : String) :
    (split path).map String.toList = path.toList.splitOn '/' := by
  simp [split, Function.comp_def]

theorem intercalate_split (path : String) : "/".intercalate (split path) = path := by
  apply String.toList_inj.mp
  rw [String.toList_intercalate, map_toList_split]
  exact List.intercalate_splitOn '/'

theorem split_intercalate (hne : ss ≠ []) (h : ∀ s ∈ ss, '/' ∉ s.toList) :
    split ("/".intercalate ss) = ss := by
  have hsplit : ("/".intercalate ss).toList.splitOn '/' = ss.map String.toList := by
    rw [String.toList_intercalate]
    apply List.splitOn_intercalate '/'
    · simpa using h
    · simpa using hne
  rw [split, hsplit, List.map_map]
  simp [Function.comp_def]

theorem not_mem_of_mem_splitOnP {α : Type} {p : α → Bool} {xs piece : List α}
    (h : piece ∈ xs.splitOnP p) : ∀ x ∈ piece, p x = false := by
  induction xs generalizing piece with
  | nil =>
    rw [List.splitOnP_nil, List.mem_singleton] at h
    rw [h]
    nofun
  | cons x xs ih =>
    rw [List.splitOnP_cons_eq_if_modifyHead] at h
    split at h
    · rcases List.mem_cons.mp h with rfl | h
      · nofun
      · exact ih h
    · next hx =>
      obtain ⟨first, rest, hpieces⟩ := List.exists_cons_of_ne_nil (List.splitOnP_ne_nil p xs)
      rw [hpieces] at h ih
      rcases List.mem_cons.mp h with rfl | h
      · exact List.forall_mem_cons.mpr ⟨Bool.eq_false_iff.mpr hx, ih (List.mem_cons_self ..)⟩
      · exact ih (List.mem_cons_of_mem _ h)

theorem slash_not_mem (h : name ∈ split path) : '/' ∉ name.toList := by
  obtain ⟨piece, hpiece, rfl⟩ := List.mem_map.mp h
  intro hmem
  rw [String.toList_ofList] at hmem
  have := not_mem_of_mem_splitOnP hpiece _ hmem
  simp at this

/-- Segments that lead somewhere. -/
def Named (ss : List String) : Prop := ∀ s ∈ ss, isVoid s = false ∧ '/' ∉ s.toList

theorem Named.ne_empty (h : Named ss) : ss ≠ [""] := by
  rintro rfl
  cases (h "" (List.mem_singleton_self _)).1

theorem Named.split_intercalate (h : Named ss) (hne : ss ≠ []) :
    split ("/".intercalate ss) = ss :=
  Path.split_intercalate hne fun s hs => (h s hs).2

theorem split_empty : split "" = [""] := rfl

theorem Named.intercalate_inj (h : Named ss) (h' : Named ss')
    (heq : "/".intercalate ss = "/".intercalate ss') : ss = ss' := by
  by_cases hne : ss = [] <;> by_cases hne' : ss' = []
  · rw [hne, hne']
  · have hsplit := h'.split_intercalate hne'
    rw [← heq, hne] at hsplit
    exact absurd hsplit.symm h'.ne_empty
  · have hsplit := h.split_intercalate hne
    rw [heq, hne'] at hsplit
    exact absurd hsplit.symm h.ne_empty
  · rw [← h.split_intercalate hne, heq, h'.split_intercalate hne']

/-! ### The directory of a path -/

/-- A path that starts where it is looked for. -/
def IsRelative (path : String) : Prop := path.isEmpty = false ∧ isAbsolute path = false

theorem IsRelative.head_ne (h : IsRelative path) {rest : List String}
    (hsplit : split path = name :: rest) : name ≠ "" := by
  rintro rfl
  have hpath := intercalate_split path
  rw [hsplit] at hpath
  cases rest with
  | nil =>
    rw [← hpath] at h
    cases h.1
  | cons s rest =>
    have habsolute := h.2
    rw [← hpath, isAbsolute, String.toList_intercalate] at habsolute
    simp [List.intercalate] at habsolute

theorem trimmed_append_singleton (ss : List String) (h : isVoid name = false) :
    trimmed (ss ++ [name]) = ss ++ [name] := by
  cases ss with
  | nil => rfl
  | cons first rest => simp [trimmed, h]

/-- The last segment that leads somewhere, or the first one. -/
theorem ne_empty_of_getLast?_trimmed {first : String} {rest : List String} (hfirst : first ≠ "")
    (h : (trimmed (first :: rest)).getLast? = some name) : name ≠ "" := by
  rw [trimmed, List.getLast?_cons, List.getLast?_reverse] at h
  cases hhead : (rest.reverse.dropWhile isVoid).head? with
  | none =>
    rw [hhead] at h
    exact Option.some.inj h ▸ hfirst
  | some last =>
    rw [hhead] at h
    obtain rfl : last = name := Option.some.inj h
    have hvoid := List.head?_dropWhile_not isVoid rest.reverse
    rw [hhead] at hvoid
    rintro rfl
    exact absurd hvoid (by decide)

theorem mem_of_mem_trimmed (h : name ∈ trimmed ss) : name ∈ ss := by
  cases ss with
  | nil => exact h
  | cons first rest =>
    rcases List.mem_cons.mp h with rfl | h
    · exact List.mem_cons_self ..
    · have hdrop := (List.dropWhile_sublist isVoid).subset (List.mem_reverse.mp h)
      exact List.mem_cons_of_mem _ (List.mem_reverse.mp hdrop)

theorem getLast?_ne_slash (h : ∀ last, (split path).getLast? = some last → last ≠ "") :
    path.toList.getLast? ≠ some '/' := by
  intro hslash
  obtain ⟨front, hfront⟩ := List.getLast?_eq_some_iff.mp hslash
  have hsplit : split path = (front.splitOn '/').map String.ofList ++ [""] := by
    simp [split, hfront, List.splitOn_append_cons_self]
  exact h "" (by simp [hsplit]) rfl

theorem append_singleton_ne (hname : isVoid name = false) (front : List String) :
    front ++ [name] ≠ [""] := by
  intro heq
  obtain rfl : name = "" := by simpa using congrArg List.getLast? heq
  cases hname

theorem parent?_of_split {front : List String} (hsplit : split path = front ++ [name])
    (hname : isVoid name = false) : parent? path = some (ofSegments (trimmed front)) := by
  have hsegments : segments path = front ++ [name] := by
    rw [segments, if_neg, hsplit, trimmed_append_singleton front hname]
    intro hempty
    rw [String.isEmpty_iff.mp hempty, split_empty] at hsplit
    exact append_singleton_ne hname front hsplit.symm
  rw [parent?, hsegments]
  split
  · next heq => simp at heq
  · next heq => exact absurd heq (append_singleton_ne hname front)
  · rw [List.dropLast_concat]

/-- A path that is looked for from the directory of another one. -/
theorem split_join_parent? {front : List String} {base : String} (h : IsRelative path)
    (hsplit : split path = front ++ [name]) (hname : isVoid name = false)
    (hbase : isAbsolute base = false) :
    split (join ((parent? path).getD "") base) = trimmed front ++ split base := by
  rw [parent?_of_split hsplit hname, Option.getD_some]
  cases front with
  | nil => simp [trimmed, ofSegments, join]
  | cons first rest =>
    have hfirst : first ≠ "" := h.head_ne hsplit
    have hne : trimmed (first :: rest) ≠ [] := List.cons_ne_nil _ _
    have hdirectory :
        split ("/".intercalate (trimmed (first :: rest))) = trimmed (first :: rest) := by
      apply split_intercalate hne
      intro s hs
      have hs : s ∈ split path := hsplit ▸ List.mem_append_left _ (mem_of_mem_trimmed hs)
      exact slash_not_mem hs
    have hends : ("/".intercalate (trimmed (first :: rest))).toList.getLast? ≠ some '/' := by
      apply getLast?_ne_slash
      intro last hlast
      rw [hdirectory] at hlast
      exact ne_empty_of_getLast?_trimmed hfirst hlast
    have hroot : trimmed (first :: rest) ≠ [""] := by
      intro heq
      exact hfirst (List.cons.inj heq).1
    have hempty : ("/".intercalate (trimmed (first :: rest))).isEmpty = false := by
      rw [Bool.eq_false_iff]
      intro hempty
      rw [String.isEmpty_iff.mp hempty, split_empty] at hdirectory
      exact hroot hdirectory.symm
    rw [ofSegments, if_neg hroot, join, if_neg (by simp [hbase, hempty]),
      if_neg (by simpa using hends), split_append_slash, hdirectory]

end Path

/-! ### Steps from directory to directory -/

namespace Files

open TypeGuard.Path

variable {paths : List (List String)} {here next file : List String} {path name : String}

/-- Where paths lead: to directories and files that no file stands above. -/
structure Reached (paths : List (List String)) (here : List String) : Prop where
  above : ∀ q ∈ paths, q <+: here → q = here
  named : Named here

theorem reached_nil : Reached paths [] where
  above _ _ h := List.prefix_nil.mp h
  named := nofun

/-- A step leads up, stays or leads down, but never out of a file. -/
theorem enter?_eq_some_iff : enter? paths here name = some next ↔
    here ∉ paths ∧
      (name = ".." ∧ here ≠ [] ∧ next = here.dropLast ∨
        name ≠ ".." ∧ isVoid name = true ∧ next = here ∨
        name ≠ ".." ∧ isVoid name = false ∧ next = here ++ [name] ∧
          ∃ q ∈ paths, here ++ [name] <+: q) := by
  rw [enter?]
  by_cases hhere : here ∈ paths
  · simp [hhere]
  by_cases hup : name = ".."
  · by_cases hempty : here = []
    · simp [hup, hempty]
    · simp [hhere, hup, hempty, @eq_comm _ next here.dropLast]
  · cases hvoid : isVoid name
    · simp [hhere, hup, @eq_comm _ next (here ++ [name]), and_comm]
    · simp [hhere, hup, @eq_comm _ next here]

theorem Reached.enter (h : Reached paths here) (hname : '/' ∉ name.toList)
    (henter : enter? paths here name = some next) : Reached paths next := by
  obtain ⟨hopen, ⟨-, -, rfl⟩ | ⟨-, -, rfl⟩ | ⟨-, hvoid, rfl, -⟩⟩ := enter?_eq_some_iff.mp henter
  · have hshorter : here.dropLast <+: here := List.dropLast_prefix here
    refine ⟨?_, fun s hs => h.named s (hshorter.subset hs)⟩
    intro q hq hbelow
    exact absurd (h.above q hq (hbelow.trans hshorter) ▸ hq) hopen
  · exact h
  · constructor
    · intro q hq hbelow
      rcases List.prefix_concat_iff.mp hbelow with rfl | hbelow
      · rfl
      · exact absurd (h.above q hq hbelow ▸ hq) hopen
    · intro s hs
      rcases List.mem_append.mp hs with hs | hs
      · exact h.named s hs
      · obtain rfl := List.mem_singleton.mp hs
        exact ⟨hvoid, hname⟩

theorem Reached.steps {ss : List String} (h : Reached paths here)
    (hss : ∀ s ∈ ss, '/' ∉ s.toList) (hsteps : ss.foldlM (enter? paths) here = some next) :
    Reached paths next := by
  induction ss generalizing here with
  | nil =>
    obtain rfl := Option.some.inj hsteps
    exact h
  | cons s ss ih =>
    rw [List.foldlM_cons] at hsteps
    obtain ⟨there, henter, hsteps⟩ := Option.bind_eq_some_iff.mp hsteps
    obtain ⟨hs, hss⟩ := List.forall_mem_cons.mp hss
    exact ih (h.enter hs henter) hss hsteps

/-- Only its name leads to a file. -/
theorem Reached.enter_file (h : Reached paths here) (hfile : file ∈ paths)
    (henter : enter? paths here name = some file) :
    isVoid name = false ∧ file = here ++ [name] := by
  obtain ⟨hopen, ⟨-, -, rfl⟩ | ⟨-, -, rfl⟩ | ⟨-, hvoid, rfl, -⟩⟩ := enter?_eq_some_iff.mp henter
  · exact absurd (h.above _ hfile (List.dropLast_prefix here) ▸ hfile) hopen
  · exact absurd hfile hopen
  · exact ⟨hvoid, rfl⟩

theorem eq_of_void_steps {ss : List String} (hss : ∀ s ∈ ss, isVoid s = true)
    (hsteps : ss.foldlM (enter? paths) here = some next) : next = here := by
  induction ss generalizing here with
  | nil => exact (Option.some.inj hsteps).symm
  | cons s ss ih =>
    rw [List.foldlM_cons] at hsteps
    obtain ⟨there, henter, hrest⟩ := Option.bind_eq_some_iff.mp hsteps
    obtain ⟨hs, hss⟩ := List.forall_mem_cons.mp hss
    have hup : s ≠ ".." := by
      rintro rfl
      exact absurd hs (by decide)
    obtain ⟨-, ⟨hs', -⟩ | ⟨-, -, rfl⟩ | ⟨-, hvoid, -⟩⟩ := enter?_eq_some_iff.mp henter
    · exact absurd hs' hup
    · exact ih hss hrest
    · exact absurd hs (by simp [hvoid])

/-- The segments behind the last that leads somewhere change nothing. -/
theorem steps_trimmed {ss : List String} (hsteps : ss.foldlM (enter? paths) here = some next) :
    (trimmed ss).foldlM (enter? paths) here = some next := by
  cases ss with
  | nil => exact hsteps
  | cons first rest =>
    have hrest : rest =
        (rest.reverse.dropWhile isVoid).reverse ++ (rest.reverse.takeWhile isVoid).reverse := by
      rw [← List.reverse_append, List.takeWhile_append_dropWhile, List.reverse_reverse]
    have hsplit : first :: rest =
        trimmed (first :: rest) ++ (rest.reverse.takeWhile isVoid).reverse := by
      rw [trimmed, List.cons_append, ← hrest]
    rw [hsplit, List.foldlM_append] at hsteps
    obtain ⟨there, hthere, hvoid⟩ := Option.bind_eq_some_iff.mp hsteps
    rw [hthere, eq_of_void_steps _ hvoid]
    intro s hs
    exact List.all_eq_true.mp List.all_takeWhile s (List.mem_reverse.mp hs)

/-! ### Paths to files -/

theorem walk?_eq_some_iff : walk? paths path = some next ↔
    IsRelative path ∧ (split path).foldlM (enter? paths) [] = some next := by
  rw [walk?, IsRelative]
  cases path.isEmpty <;> cases isAbsolute path <;> simp

theorem named_of_walk? (h : walk? paths path = some next) : Named next :=
  (reached_nil.steps (fun _ => slash_not_mem) (walk?_eq_some_iff.mp h).2).named

/-- A path to a file leads to the directory of the file and ends in its name. -/
theorem exists_split_of_walk? (hfile : file ∈ paths) (h : walk? paths path = some file) :
    ∃ front name, split path = front ++ [name] ∧ isVoid name = false ∧
      front.foldlM (enter? paths) [] = some file.dropLast := by
  have hsteps := (walk?_eq_some_iff.mp h).2
  obtain ⟨front, name, hsplit⟩ :=
    (List.eq_nil_or_concat (split path)).resolve_left (split_ne_nil path)
  rw [List.concat_eq_append] at hsplit
  rw [hsplit, List.foldlM_append] at hsteps
  obtain ⟨there, hfront, hname⟩ := Option.bind_eq_some_iff.mp hsteps
  have hthere : Reached paths there := by
    refine reached_nil.steps ?_ hfront
    intro s hs
    have hs : s ∈ split path := hsplit ▸ List.mem_append_left _ hs
    exact slash_not_mem hs
  obtain ⟨hvoid, rfl⟩ := hthere.enter_file hfile (by simpa using hname)
  refine ⟨front, name, hsplit, hvoid, ?_⟩
  rw [hfront, List.dropLast_concat]

/-- A path that is looked for from the directory of a file starts there. -/
theorem walk?_join {base : String} (hfile : file ∈ paths) (h : walk? paths path = some file)
    (hbase : isAbsolute base = false)
    (hjoin : walk? paths (join ((parent? path).getD "") base) = some next) :
    (split base).foldlM (enter? paths) file.dropLast = some next := by
  obtain ⟨front, name, hsplit, hname, hfront⟩ := exists_split_of_walk? hfile h
  have hsteps := (walk?_eq_some_iff.mp hjoin).2
  rw [split_join_parent? (walk?_eq_some_iff.mp h).1 hsplit hname hbase, List.foldlM_append,
    steps_trimmed hfront] at hsteps
  exact hsteps

end Files

/-! ### Bases -/

/-- Which file a file extends does not depend on the path by which it is reached. -/
def Config.Coherent (files : Files) : Prop :=
  ∀ p q base, files.isFile p → files.isFile q → files.canonical p = files.canonical q →
    files.isFile (basePath p base) → files.isFile (basePath q base) →
    files.canonical (basePath p base) = files.canonical (basePath q base)

namespace Files

open TypeGuard.Path

variable {files : List (String × String)} {path : String}

/-- The segments of the paths of files. -/
def paths (files : List (String × String)) : List (List String) :=
  files.map fun (path, _) => (split path).filter fun s => !isVoid s

theorem named_of_mem_paths {file : List String} (h : file ∈ paths files) : Named file := by
  obtain ⟨⟨path, text⟩, -, rfl⟩ := List.mem_map.mp h
  intro s hs
  obtain ⟨hs, hvoid⟩ := List.mem_filter.mp hs
  exact ⟨by simpa using hvoid, slash_not_mem hs⟩

theorem exists_of_isFile (h : (ofList files).isFile path) :
    ∃ file ∈ paths files, walk? (paths files) path = some file := by
  obtain ⟨text, hread⟩ := Option.isSome_iff_exists.mp h
  obtain ⟨canonical, hresolve, hlookup⟩ := Option.bind_eq_some_iff.mp hread
  obtain ⟨file, hwalk, rfl⟩ := Option.map_eq_some_iff.mp hresolve
  obtain ⟨⟨listed, entry⟩, hmem, heq⟩ := List.mem_map.mp (mem_texts_of_lookup hlookup)
  have hlisted : listed ∈ paths files := (List.of_mem_zip hmem).1
  have hsame := (named_of_mem_paths hlisted).intercalate_inj (named_of_walk? hwalk)
    (Prod.mk.inj heq).1
  exact ⟨file, hsame ▸ hlisted, hwalk⟩

theorem canonical_ofList {file : List String} (h : walk? (paths files) path = some file) :
    (ofList files).canonical path = "/".intercalate file := by
  have hresolve :
      (ofList files).resolve path = (walk? (paths files) path).map ("/".intercalate ·) := rfl
  rw [canonical, hresolve, h]
  rfl

/-- The files below one directory. -/
theorem coherent_ofList (files : List (String × String)) : Config.Coherent (ofList files) := by
  intro p q base hp hq hsame hbp hbq
  obtain ⟨file, hfile, hpwalk⟩ := exists_of_isFile hp
  obtain ⟨file', hfile', hqwalk⟩ := exists_of_isFile hq
  rw [canonical_ofList hpwalk, canonical_ofList hqwalk] at hsame
  obtain rfl := (named_of_mem_paths hfile).intercalate_inj (named_of_mem_paths hfile') hsame
  obtain ⟨next, -, hpnext⟩ := exists_of_isFile hbp
  obtain ⟨next', -, hqnext⟩ := exists_of_isFile hbq
  rw [canonical_ofList hpnext, canonical_ofList hqnext]
  cases hbase : isAbsolute (withExtension "json" base) with
  | true =>
    have hjoin (directory : String) :
        join directory (withExtension "json" base) = withExtension "json" base := by
      simp [join, hbase]
    rw [Config.basePath, hjoin] at hpnext hqnext
    rw [Option.some.inj (hpnext.symm.trans hqnext)]
  | false =>
    have hpsteps := walk?_join hfile hpwalk hbase hpnext
    have hqsteps := walk?_join hfile hqwalk hbase hqnext
    rw [Option.some.inj (hpsteps.symm.trans hqsteps)]

end Files

end TypeGuard
