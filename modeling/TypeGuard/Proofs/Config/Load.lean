import Mathlib.Data.List.Count
import Mathlib.Data.List.Nodup
import TypeGuard.Proofs.Config.Directory

/-!
# Chains of configurations

A configuration file extends another one, which may extend a further one. Loading follows this chain
to its end, or up to a file that it has come through before. What it makes of a chain that ends are
the settings of the nearest configuration that has them: `Config.load_nearest`.
-/

namespace TypeGuard

/-! ### Nearest settings -/

/-- What the first of several configurations that sets an option sets it to. -/
def Config.firstSet {α : Type} (option : Settings → Option α) (configs : List Config) :
    Option α :=
  configs.findSome? fun c => c.settings.bind option

/-- Every option as the first configuration that sets it sets it. -/
def Settings.nearest (configs : List Config) : Settings :=
  ⟨Config.firstSet (·.skipHelpers) configs, Config.firstSet (·.skipAsserts) configs,
    Config.firstSet (·.warnOnFailure) configs, Config.firstSet (·.globals) configs,
    Config.firstSet (·.ambientTypes) configs, Config.firstSet (·.runtimeLibrary) configs⟩

namespace Config

theorem firstSet_cons {α : Type} (option : Settings → Option α) (c : Config)
    (cs : List Config) :
    firstSet option (c :: cs) = (c.settings.bind option).or (firstSet option cs) := by
  unfold firstSet
  rw [List.findSome?_cons]
  cases c.settings.bind option <;> rfl

theorem nearest_cons (c : Config) (cs : List Config) :
    Settings.nearest (c :: cs) = c.resolved.withBase (Settings.nearest cs) := by
  simp only [Settings.nearest, firstSet_cons, Settings.withBase, resolved]
  cases c.settings <;> rfl

theorem resolved_withBase (c base : Config) :
    (c.withBase base).resolved = c.resolved.withBase base.resolved := by
  unfold withBase resolved
  cases c.settings <;> cases base.settings <;> simp [Settings.withBase, Settings.unset]

theorem nearest_singleton (c : Config) : Settings.nearest [c] = c.resolved := by
  rw [nearest_cons]
  simp [Settings.nearest, firstSet, Settings.withBase]

/-- A configuration on top of those that it extends. -/
def merged (cs : List Config) (last : Config) : Config := cs.foldr withBase last

theorem base_merged (cs : List Config) {last : Config} (h : last.base = none) :
    (merged cs last).base = none := by
  cases cs with
  | nil => exact h
  | cons c cs =>
    unfold merged
    rw [List.foldr_cons, withBase]
    split <;> rfl

theorem resolved_merged (cs : List Config) (last : Config) :
    (merged cs last).resolved = Settings.nearest (cs ++ [last]) := by
  induction cs with
  | nil => exact (nearest_singleton last).symm
  | cons c cs ih =>
    rw [merged, List.foldr_cons, resolved_withBase, List.cons_append, nearest_cons, ← ih]
    rfl

/-! ### Chains -/

/-- The file at a path is a configuration. -/
def ReadsAs (files : Files) (path : String) (c : Config) : Prop :=
  ∃ text, files.read? path = some text ∧ ofText text = .ok c

/-- The configurations that are passed through, each at its path, when the files that they extend
are followed from one path to another one. -/
inductive Extends (files : Files) : String → List (String × Config) → String → Prop where
  | here {path} : Extends files path [] path
  | step {path c base chain stop} : ReadsAs files path c → c.base = some base →
      Extends files (basePath path base) chain stop → Extends files path ((path, c) :: chain) stop

/-- A chain of configurations ends with one that extends nothing. -/
structure Complete (files : Files) (path : String) (chain : List (String × Config)) (stop : String)
    (last : Config) : Prop where
  leads : Extends files path chain stop
  reads : ReadsAs files stop last
  base : last.base = none

/-- The files of a chain, by their canonical paths. -/
def passed (files : Files) (chain : List (String × Config)) : List String :=
  chain.map fun (path, _) => files.canonical path

/-- The files of a chain and the one that it leads to. -/
def visits (files : Files) (chain : List (String × Config)) (stop : String) : List String :=
  passed files chain ++ [files.canonical stop]

/-- What loading comes to where it ends, behind a chain and with the canonical paths `visited`. -/
inductive Outcome (files : Files) (visited : List String) (chain : List (String × Config))
    (stop : String) : Except LoadError Config → Prop where
  | cycle : files.canonical stop ∈ visited →
      Outcome files visited chain stop (.error (.cycle (files.canonical stop)))
  | unreadable : files.read? stop = none →
      Outcome files visited chain stop (.error (.unreadable stop))
  | malformed {text fault} : files.read? stop = some text → ofText text = .error fault →
      Outcome files visited chain stop (.error (.malformed stop fault))
  | complete {last} : ReadsAs files stop last → last.base = none →
      Outcome files visited chain stop (.ok (merged (chain.map (·.2)) last))

variable {files : Files} {visited : List String} {path stop base : String} {c last : Config}
  {chain : List (String × Config)} {result : Except LoadError Config}

theorem loadFrom_again (h : files.canonical path ∈ visited) :
    loadFrom files visited path = .error (.cycle (files.canonical path)) := by
  rw [loadFrom, dif_pos (List.contains_iff_mem.mpr h)]

theorem loadFrom_new (h : files.canonical path ∉ visited) :
    loadFrom files visited path =
      match files.read? path with
      | none => .error (.unreadable path)
      | some text =>
        match ofText text with
        | .error fault => .error (.malformed path fault)
        | .ok c =>
          match c.base with
          | none => .ok c
          | some base =>
            (loadFrom files (files.canonical path :: visited) (basePath path base)).map
              c.withBase := by
  rw [loadFrom, dif_neg (mt List.contains_iff_mem.mp h)]
  split
  · next hread =>
    rewrite [hread]
    rfl
  · next hread =>
    rewrite [hread]
    rfl

theorem loadFrom_last (h : files.canonical path ∉ visited) (hreads : ReadsAs files path c)
    (hbase : c.base = none) : loadFrom files visited path = .ok c := by
  obtain ⟨text, hread, htext⟩ := hreads
  simp only [loadFrom_new h, hread, htext, hbase]

theorem loadFrom_step (h : files.canonical path ∉ visited) (hreads : ReadsAs files path c)
    (hbase : c.base = some base) :
    loadFrom files visited path =
      (loadFrom files (files.canonical path :: visited) (basePath path base)).map c.withBase := by
  obtain ⟨text, hread, htext⟩ := hreads
  simp only [loadFrom_new h, hread, htext, hbase]

/-- The configuration in front of a chain is on top of what the chain comes to. -/
theorem Outcome.step
    (h : Outcome files (passed files chain ++ files.canonical path :: visited) chain stop result) :
    Outcome files (passed files ((path, c) :: chain) ++ visited) ((path, c) :: chain) stop
      (result.map c.withBase) := by
  cases h with
  | cycle hmem =>
    apply Outcome.cycle
    exact List.perm_middle.mem_iff.mp hmem
  | unreadable hread => exact .unreadable hread
  | malformed hread htext => exact .malformed hread htext
  | complete hreads hbase => exact .complete hreads hbase

/-- Loading ends, since every further file of the chain is one that has not been visited. -/
theorem exists_outcome (files : Files) (visited : List String) (path : String) :
    ∃ chain stop, Extends files path chain stop ∧
      chain.length ≤ (files.unvisited visited).length ∧
      Outcome files (passed files chain ++ visited) chain stop (loadFrom files visited path) := by
  by_cases hnew : files.canonical path ∈ visited
  · rw [loadFrom_again hnew]
    exact ⟨[], path, .here, Nat.zero_le _, .cycle hnew⟩
  rcases hread : files.read? path with _ | text
  · have hload : loadFrom files visited path = .error (.unreadable path) := by
      simp only [loadFrom_new hnew, hread]
    rw [hload]
    exact ⟨[], path, .here, Nat.zero_le _, .unreadable hread⟩
  rcases htext : ofText text with fault | c
  · have hload : loadFrom files visited path = .error (.malformed path fault) := by
      simp only [loadFrom_new hnew, hread, htext]
    rw [hload]
    exact ⟨[], path, .here, Nat.zero_le _, .malformed hread htext⟩
  have hreads : ReadsAs files path c := ⟨text, hread, htext⟩
  rcases hbase : c.base with _ | base
  · rw [loadFrom_last hnew hreads hbase]
    exact ⟨[], path, .here, Nat.zero_le _, .complete hreads hbase⟩
  · have hlt := Files.unvisited_lt (mt List.contains_iff_mem.mp hnew) hread
    obtain ⟨chain, stop, hextends, hlength, houtcome⟩ :=
      exists_outcome files (files.canonical path :: visited) (basePath path base)
    rw [loadFrom_step hnew hreads hbase]
    exact ⟨(path, c) :: chain, stop, .step hreads hbase hextends,
      Nat.succ_le_of_lt (Nat.lt_of_le_of_lt hlength hlt), houtcome.step⟩
termination_by (files.unvisited visited).length

theorem visits_cons_append_perm (files : Files) (path : String) (c : Config)
    (chain : List (String × Config)) (stop : String) (visited : List String) :
    (visits files chain stop ++ files.canonical path :: visited).Perm
      (visits files ((path, c) :: chain) stop ++ visited) :=
  List.perm_middle

/-- A chain that leads to a file for the second time is refused. -/
theorem loadFrom_revisit (h : Extends files path chain stop) (hvisited : visited.Nodup)
    (hagain : ¬ (visits files chain stop ++ visited).Nodup) :
    ∃ again, 2 ≤ (visits files chain stop ++ visited).count again ∧
      loadFrom files visited path = .error (.cycle again) := by
  have hcount {canonical : String} {others : List String} (hmem : canonical ∈ others) :
      2 ≤ (canonical :: others).count canonical := by
    rw [List.count_cons_self]
    exact Nat.succ_le_succ (List.count_pos_iff.mpr hmem)
  induction h generalizing visited with
  | @here path =>
    have hmem : files.canonical path ∈ visited := by
      by_contra hnew
      exact hagain (List.nodup_cons.mpr ⟨hnew, hvisited⟩)
    exact ⟨_, hcount hmem, loadFrom_again hmem⟩
  | @step path c base chain stop hreads hbase _ ih =>
    by_cases hnew : files.canonical path ∈ visited
    · exact ⟨_, hcount (List.mem_append_right _ hnew), loadFrom_again hnew⟩
    · have hperm := visits_cons_append_perm files path c chain stop visited
      obtain ⟨again, hcount, hload⟩ :=
        ih (List.nodup_cons.mpr ⟨hnew, hvisited⟩) (mt hperm.nodup_iff.mp hagain)
      refine ⟨again, hperm.count_eq again ▸ hcount, ?_⟩
      rw [loadFrom_step hnew hreads hbase, hload]
      rfl

/-- A chain of different files that ends is loaded. -/
theorem loadFrom_complete (h : Complete files path chain stop last)
    (hnodup : (visits files chain stop ++ visited).Nodup) :
    loadFrom files visited path = .ok (merged (chain.map (·.2)) last) := by
  obtain ⟨hleads, hreads, hbase⟩ := h
  induction hleads generalizing visited with
  | here => exact loadFrom_last (List.nodup_cons.mp hnodup).1 hreads hbase
  | @step path c base chain stop hreads' hbase' _ ih =>
    have hnew : files.canonical path ∉ visited := fun hmem =>
      (List.nodup_cons.mp hnodup).1 (List.mem_append_right _ hmem)
    have hperm := visits_cons_append_perm files path c chain stop visited
    rw [loadFrom_step hnew hreads' hbase', ih (hperm.nodup_iff.mpr hnodup) hreads]
    rfl

/-! ### Chains that end -/

theorem ReadsAs.isFile (h : ReadsAs files path c) : files.isFile path := by
  obtain ⟨text, hread, -⟩ := h
  simp [Files.isFile, hread]

theorem ReadsAs.unique {path' : String} {c' : Config} (h : ReadsAs files path c)
    (h' : ReadsAs files path' c') (hsame : files.canonical path = files.canonical path') :
    c = c' := by
  obtain ⟨text, hread, htext⟩ := h
  obtain ⟨text', hread', htext'⟩ := h'
  obtain ⟨p, hp, hlookup⟩ := Option.bind_eq_some_iff.mp hread
  obtain ⟨p', hp', hlookup'⟩ := Option.bind_eq_some_iff.mp hread'
  obtain rfl : p = p' := by simpa [Files.canonical, hp, hp'] using hsame
  obtain rfl := Option.some.inj (hlookup.symm.trans hlookup')
  exact Except.ok.inj (htext.symm.trans htext')

theorem Complete.isFile (h : Complete files path chain stop last) : files.isFile path := by
  obtain ⟨hleads, hreads, -⟩ := h
  cases hleads with
  | here => exact hreads.isFile
  | step hfirst _ _ => exact hfirst.isFile

/-- All chains from the same file that end are of the same length. -/
theorem Complete.length_eq {path' stop' : String} {chain' : List (String × Config)}
    {last' : Config} (hcoherent : Coherent files) (h : Complete files path chain stop last)
    (h' : Complete files path' chain' stop' last')
    (hsame : files.canonical path = files.canonical path') : chain.length = chain'.length := by
  obtain ⟨hleads, hreads, hbase⟩ := h
  obtain ⟨hleads', hreads', hbase'⟩ := h'
  induction hleads generalizing path' chain' with
  | here =>
    cases hleads' with
    | here => rfl
    | step hfirst hnext _ =>
      rw [← hreads.unique hfirst hsame, hbase] at hnext
      cases hnext
  | step hfirst hnext hleads ih =>
    cases hleads' with
    | here =>
      rw [hfirst.unique hreads' hsame, hbase'] at hnext
      cases hnext
    | step hfirst' hnext' hleads' =>
      obtain rfl := hfirst.unique hfirst' hsame
      obtain rfl := Option.some.inj (hnext.symm.trans hnext')
      have hrest := Complete.isFile ⟨hleads, hreads, hbase⟩
      have hrest' := Complete.isFile ⟨hleads', hreads', hbase'⟩
      have hnext := hcoherent _ _ _ hfirst.isFile hfirst'.isFile hsame hrest hrest'
      rw [List.length_cons, List.length_cons, ih hnext hreads hleads']

/-- From every file of a chain a part of it leads to its end. -/
theorem Complete.exists_part {canonical : String} (h : Complete files path chain stop last)
    (hmem : canonical ∈ visits files chain stop) :
    ∃ path' chain', files.canonical path' = canonical ∧ Complete files path' chain' stop last ∧
      chain'.length ≤ chain.length := by
  obtain ⟨hleads, hreads, hbase⟩ := h
  induction hleads with
  | @here path =>
    obtain rfl := List.mem_singleton.mp hmem
    exact ⟨path, [], rfl, ⟨.here, hreads, hbase⟩, Nat.le_refl _⟩
  | @step path c base chain stop hfirst hnext hleads ih =>
    rcases List.mem_cons.mp hmem with rfl | hmem
    · exact ⟨path, (path, c) :: chain, rfl, ⟨.step hfirst hnext hleads, hreads, hbase⟩,
        Nat.le_refl _⟩
    · obtain ⟨path', chain', hcanonical, hcomplete, hlength⟩ := ih hmem hreads
      exact ⟨path', chain', hcanonical, hcomplete, Nat.le_succ_of_le hlength⟩

/-- A chain that ends has no file twice, since it would be as long from the second time on. -/
theorem Complete.nodup_visits (hcoherent : Coherent files)
    (h : Complete files path chain stop last) : (visits files chain stop).Nodup := by
  obtain ⟨hleads, hreads, hbase⟩ := h
  induction hleads with
  | here => exact List.nodup_singleton _
  | step hfirst hnext hleads ih =>
    refine List.nodup_cons.mpr ⟨?_, ih hreads⟩
    intro hmem
    have hrest : Complete files _ _ _ last := ⟨hleads, hreads, hbase⟩
    obtain ⟨path', chain', hcanonical, hpart, hle⟩ := hrest.exists_part hmem
    have hwhole : Complete files _ _ _ last := ⟨.step hfirst hnext hleads, hreads, hbase⟩
    have hlength := hpart.length_eq hcoherent hwhole hcanonical
    rw [List.length_cons] at hlength
    omega

end Config

/-! ### Options -/

namespace Options

theorem addNames_eq (names further : List String) :
    addNames names further = names ++ (further.filter (· ∉ names)).eraseDups := by
  induction further generalizing names with
  | nil => simp [addNames]
  | cons name further ih =>
    have hcons : addNames names (name :: further) =
        addNames (if names.contains name then names else names ++ [name]) further := rfl
    by_cases hmem : name ∈ names
    · rw [hcons, if_pos (List.contains_iff_mem.mpr hmem), ih, List.filter_cons_of_neg (by simpa)]
    · rw [hcons, if_neg (mt List.contains_iff_mem.mp hmem), ih,
        List.filter_cons_of_pos (by simpa), List.eraseDups_cons, List.filter_filter]
      simp only [List.append_assoc, List.singleton_append, List.mem_append, List.mem_singleton]
      have hlisted (y : String) :
          (!y == name && decide (y ∉ names)) = decide (¬ (y ∈ names ∨ y = name)) := by
        by_cases hy : y = name <;> simp [hy]
      simp only [hlisted]

/-- Options are what settings and flags come to: a truth value is on if the settings or the flags
turn it on, the names of the flags follow those of the settings, and the library is that of the
flags if they name one. Where the settings leave an option open, its default counts. -/
structure Combines (s : Settings) (flags : Flags) (o : Options) : Prop where
  skipHelpers : o.skipHelpers = true ↔
    s.skipHelpers.getD default.skipHelpers = true ∨ flags.skipHelpers = true
  skipAsserts : o.skipAsserts = true ↔
    s.skipAsserts.getD default.skipAsserts = true ∨ flags.skipAsserts = true
  warnOnFailure : o.warnOnFailure = true ↔
    s.warnOnFailure.getD default.warnOnFailure = true ∨ flags.warnOnFailure = true
  globals : o.globals = s.globals.getD default.globals ++
    (flags.globals.filter (· ∉ s.globals.getD default.globals)).eraseDups
  ambientTypes : o.ambientTypes = s.ambientTypes.getD default.ambientTypes
  runtimeLibrary : o.runtimeLibrary =
    flags.runtimeLibrary.getD (s.runtimeLibrary.getD default.runtimeLibrary)

theorem combines_resolve (config : Option Config) (flags : Flags) :
    Combines (config.getD .empty).resolved flags (resolve config flags) where
  skipHelpers := Bool.or_eq_true_iff
  skipAsserts := Bool.or_eq_true_iff
  warnOnFailure := Bool.or_eq_true_iff
  globals := addNames_eq _ _
  ambientTypes := rfl
  runtimeLibrary := rfl

end Options

/-- Loading follows a chain of configurations for at most as many files as there are, and what it
comes to is decided where it stops. A chain that leads to a file twice is a cycle; one of different
files that ends comes to a configuration that extends nothing and has every option as the nearest
configuration sets it. If it does not matter how a file is reached, then a chain that ends always is
one of different files. The options of a run are the settings and the flags together. -/
theorem Config.load_nearest (files : Files) (path : String) :
    (∃ chain stop, Extends files path chain stop ∧ chain.length ≤ files.texts.length ∧
      Outcome files (passed files chain) chain stop (load files path)) ∧
    (∀ chain stop, Extends files path chain stop → ¬ (visits files chain stop).Nodup →
      ∃ again, 2 ≤ (visits files chain stop).count again ∧
        load files path = .error (.cycle again)) ∧
    (∀ chain stop last, Complete files path chain stop last → (visits files chain stop).Nodup →
      ∃ c, load files path = .ok c ∧ c.base = none ∧
        c.resolved = Settings.nearest (chain.map (·.2) ++ [last])) ∧
    (Coherent files → ∀ chain stop last, Complete files path chain stop last →
      (visits files chain stop).Nodup) ∧
    ∀ config flags,
      Options.Combines (config.getD .empty).resolved flags (Options.resolve config flags) := by
  refine ⟨?_, ?_, ?_, ?_, Options.combines_resolve⟩
  · obtain ⟨chain, stop, hextends, hlength, houtcome⟩ := exists_outcome files [] path
    rw [List.append_nil] at houtcome
    exact ⟨chain, stop, hextends, Nat.le_trans hlength (List.length_filter_le _ _), houtcome⟩
  · intro chain stop hextends hagain
    rw [← List.append_nil (visits files chain stop)] at hagain ⊢
    exact loadFrom_revisit hextends List.nodup_nil hagain
  · intro chain stop last hcomplete hnodup
    rw [← List.append_nil (visits files chain stop)] at hnodup
    exact ⟨_, loadFrom_complete hcomplete hnodup, base_merged _ hcomplete.base,
      resolved_merged _ last⟩
  · intro hcoherent chain stop last hcomplete
    exact hcomplete.nodup_visits hcoherent

/-- A configuration that extends one in the directory above. -/
theorem Config.nearest_of_two :
    let near := "\x7b\"extends\": \"../base\", \"transform\": \x7b\"skipHelpers\": true\x7d\x7d"
    let far := "\x7b\"transform\": \x7b\"skipHelpers\": false, \"skipAsserts\": true\x7d\x7d"
    let files := Files.ofList [("src/a.json", near), ("base.json", far)]
    ∃ chain last, Coherent files ∧ Complete files "src/a.json" chain "src/../base.json" last ∧
      (visits files chain "src/../base.json").Nodup ∧
      ∃ c, load files "src/a.json" = .ok c ∧ c.base = none ∧
        c.resolved = Settings.nearest (chain.map (·.2) ++ [last]) ∧
        c.resolved.skipHelpers = some true ∧ c.resolved.skipAsserts = some true := by
  intro near far files
  let first : Config := ⟨some "../base", some ⟨some true, none, none, none, none, none⟩⟩
  let last : Config := ⟨none, some ⟨some false, some true, none, none, none, none⟩⟩
  have hbase : basePath "src/a.json" "../base" = "src/../base.json" := by decide +kernel
  have hfirst : ReadsAs files "src/a.json" first :=
    ⟨near, by decide +kernel, by decide +kernel⟩
  have hlast : ReadsAs files "src/../base.json" last :=
    ⟨far, by decide +kernel, by decide +kernel⟩
  have hleads : Extends files "src/a.json" [("src/a.json", first)] "src/../base.json" := by
    apply Extends.step hfirst rfl
    rw [hbase]
    exact .here
  have hcomplete : Complete files "src/a.json" [("src/a.json", first)] "src/../base.json" last :=
    ⟨hleads, hlast, rfl⟩
  have hcoherent : Coherent files := Files.coherent_ofList _
  obtain ⟨-, -, hloads, hnodup, -⟩ := load_nearest files "src/a.json"
  have hvisits := hnodup hcoherent _ _ _ hcomplete
  obtain ⟨c, hload, hbase, hnearest⟩ := hloads _ _ _ hcomplete hvisits
  refine ⟨_, last, hcoherent, hcomplete, hvisits, c, hload, hbase, hnearest, ?_, ?_⟩
  · rw [hnearest]
    rfl
  · rw [hnearest]
    rfl

end TypeGuard
