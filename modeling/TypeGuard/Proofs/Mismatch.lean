import TypeGuard.Conformance

/-!
# Where values do not fit

A check that fails tells where. The path of the failure leads from the value to a part whose text it
shows or, where the key of an entry does not fit, to the entry whose key it shows:
`Model.validateAs_shows`. Each level of the evaluation either finds fault with the value as a whole
or goes down into one part of it, and then puts the segment of that part in front of the path.
-/

namespace TypeGuard

namespace Json

/-- A segment leads to a part of a value: a position in an array, written in decimal, or a key of an
object. A property that an object lacks reads as `null`. -/
inductive PartAt : Json → String → Json → Prop where
  | item {items : List Json} {i : Nat} {x} : items[i]? = some x →
      PartAt (.arr items) (toString i) x
  | member {members k x} : (k, x) ∈ members → PartAt (.obj members) k x
  | absent {members k} : k ∉ members.map (·.1) → PartAt (.obj members) k .null

/-- A path leads to a part of a value. -/
inductive Reaches : Json → List String → Json → Prop where
  | here {v} : Reaches v [] v
  | step {v s x path w} : v.PartAt s x → Reaches x path w → Reaches v (s :: path) w

/-- A path into a value and a text belong together: the text is that of the part at the path or, the
last segment being a key of the object that the others lead to, that of the key. -/
inductive Shows : Json → List String → String → Prop where
  | part {v path x} : v.Reaches path x → Shows v path x.text
  | key {v path members k x} : v.Reaches path (.obj members) → (k, x) ∈ members →
      Shows v (path ++ [k]) (Json.str k).text

variable {v x : Json} {s k : String} {path : List String} {actual : String}

theorem Shows.under (h : x.Shows path actual) (hs : v.PartAt s x) : v.Shows (s :: path) actual := by
  cases h with
  | part hpath => exact .part (.step hs hpath)
  | key hpath hk => exact .key (.step hs hpath) hk

/-- A string has no parts. -/
theorem Shows.of_str (h : (Json.str k).Shows path actual) :
    path = [] ∧ actual = (Json.str k).text := by
  cases h with
  | part hpath =>
    cases hpath with
    | here => exact ⟨rfl, rfl⟩
    | step hs _ => cases hs
  | key hpath _ =>
    cases hpath with
    | step hs _ => cases hs

/-- What is read under a key is the part at the key. -/
theorem partAt_lookup (members : List (String × Json)) (k : String) :
    (Json.obj members).PartAt k ((members.lookup k).getD .null) := by
  cases hlookup : members.lookup k with
  | none =>
    refine .absent fun hmem => ?_
    obtain ⟨entry, hentry, rfl⟩ := List.mem_map.mp hmem
    simpa using List.lookup_eq_none_iff.mp hlookup entry hentry
  | some x =>
    obtain ⟨before, after, rfl, -⟩ := List.lookup_eq_some_iff.mp hlookup
    exact .member (List.mem_append_right _ List.mem_cons_self)

end Json

namespace Model

variable {m : Model} {sub : Sub} {c : Combinator} {v : Json} {e : Mismatch}

/-! ### Lists of checks -/

theorem exists_of_checkElems_error {sub : Json → Except Mismatch Unit} {i : Nat} {items : List Json}
    (h : checkElems sub i items = .error e) :
    ∃ j x e', items[j]? = some x ∧ sub x = .error e' ∧ e = e'.under (toString (i + j)) := by
  induction items generalizing i with
  | nil => cases h
  | cons x items ih =>
    rw [checkElems] at h
    cases hx : sub x with
    | error e' =>
      rw [hx] at h
      cases h
      exact ⟨0, x, e', rfl, hx, rfl⟩
    | ok u =>
      rw [hx] at h
      obtain ⟨j, y, e', hj, hy, rfl⟩ := ih h
      exact ⟨j + 1, y, e', hj, hy, by rw [Nat.add_right_comm, Nat.add_assoc]⟩

theorem exists_of_checkTuple_error {i : Nat} {cs : List Combinator} {items : List Json}
    (h : checkTuple sub i cs items = .error e) :
    ∃ j c x e', items[j]? = some x ∧ sub c x = .error e' ∧ e = e'.under (toString (i + j)) := by
  induction cs generalizing i items with
  | nil => cases h
  | cons c cs ih =>
    cases items with
    | nil => cases h
    | cons x items =>
      rw [checkTuple] at h
      cases hx : sub c x with
      | error e' =>
        rw [hx] at h
        cases h
        exact ⟨0, c, x, e', rfl, hx, rfl⟩
      | ok u =>
        rw [hx] at h
        obtain ⟨j, d, y, e', hj, hy, rfl⟩ := ih h
        exact ⟨j + 1, d, y, e', hj, hy, by rw [Nat.add_right_comm, Nat.add_assoc]⟩

theorem exists_of_checkEntries_error {key value : Json → Except Mismatch Unit}
    {entries : List (String × Json)} (h : checkEntries key value entries = .error e) :
    ∃ k x e', (k, x) ∈ entries ∧ (key (.str k) = .error e' ∨ value x = .error e') ∧
      e = e'.under k := by
  induction entries with
  | nil => cases h
  | cons entry entries ih =>
    obtain ⟨k, x⟩ := entry
    rw [checkEntries] at h
    cases hk : key (.str k) with
    | error e' =>
      rw [hk] at h
      cases h
      exact ⟨k, x, e', List.mem_cons_self, .inl hk, rfl⟩
    | ok u =>
      rw [hk] at h
      cases hx : value x with
      | error e' =>
        rw [hx] at h
        cases h
        exact ⟨k, x, e', List.mem_cons_self, .inr hx, rfl⟩
      | ok u =>
        rw [hx] at h
        obtain ⟨k', y, e', hmem, hfails, he⟩ := ih h
        exact ⟨k', y, e', List.mem_cons_of_mem _ hmem, hfails, he⟩

theorem exists_of_checkProps_error {members : List (String × Json)}
    {props : List (String × Combinator)} (h : checkProps sub members props = .error e) :
    ∃ k c e', sub c ((members.lookup k).getD .null) = .error e' ∧ e = e'.under k := by
  induction props with
  | nil => cases h
  | cons prop props ih =>
    obtain ⟨k, c⟩ := prop
    rw [checkProps] at h
    cases hx : sub c ((members.lookup k).getD .null) with
    | error e' =>
      rw [hx] at h
      cases h
      exact ⟨k, c, e', hx, rfl⟩
    | ok u =>
      rw [hx] at h
      exact ih h

theorem exists_of_checkExact_error {props : List (String × Combinator)}
    {members : List (String × Json)} (h : checkExact props members = .error e) :
    ∃ k x, (k, x) ∈ members ∧ e = (Mismatch.here (.builtin .nil) x).under k := by
  unfold checkExact at h
  split at h
  · rename_i k x hfind
    cases h
    exact ⟨k, x, List.mem_of_find?_eq_some hfind, rfl⟩
  · cases h

theorem exists_of_checkAll_error {cs : List Combinator} (h : checkAll sub v cs = .error e) :
    ∃ c ∈ cs, sub c v = .error e := by
  induction cs with
  | nil => cases h
  | cons c cs ih =>
    rw [checkAll] at h
    cases hc : sub c v with
    | error e' =>
      rw [hc] at h
      cases h
      exact ⟨c, List.mem_cons_self, hc⟩
    | ok u =>
      rw [hc] at h
      obtain ⟨d, hd, hfails⟩ := ih h
      exact ⟨d, List.mem_cons_of_mem _ hd, hfails⟩

/-! ### Levels -/

/-- The mismatches of a way to check show what does not fit. -/
def ShowsFaults (sub : Sub) : Prop := ∀ c v e, sub c v = .error e → v.Shows e.path e.actual

theorem shows_here (c : Combinator) (v : Json) :
    v.Shows (Mismatch.here c v).path (Mismatch.here c v).actual := .part .here

theorem shows_of_orHere {ok : Bool} (h : orHere c v ok = .error e) : v.Shows e.path e.actual := by
  cases ok with
  | true => cases h
  | false =>
    cases h
    exact shows_here c v

theorem shows_of_checkProps {members : List (String × Json)} {props : List (String × Combinator)}
    (hsub : ShowsFaults sub) (h : checkProps sub members props = .error e) :
    (Json.obj members).Shows e.path e.actual := by
  obtain ⟨k, c, e', hfails, rfl⟩ := exists_of_checkProps_error h
  exact (hsub _ _ _ hfails).under (Json.partAt_lookup members k)

theorem shows_of_checkAll {cs : List Combinator} (hsub : ShowsFaults sub)
    (h : checkAll sub v cs = .error e) : v.Shows e.path e.actual := by
  obtain ⟨c, -, hfails⟩ := exists_of_checkAll_error h
  exact hsub _ _ _ hfails

/-- A key that does not fit is shown itself, a value is shown as the part under its key. -/
theorem shows_of_checkEntries {key value : Combinator} {entries : List (String × Json)}
    (hsub : ShowsFaults sub) (h : checkEntries (sub key) (sub value) entries = .error e) :
    (Json.obj entries).Shows e.path e.actual := by
  obtain ⟨k, x, e', hmem, hkey | hvalue, rfl⟩ := exists_of_checkEntries_error h
  · obtain ⟨hpath, hactual⟩ := (hsub _ _ _ hkey).of_str
    rw [Mismatch.under, hpath, hactual]
    exact .key .here hmem
  · exact (hsub _ _ _ hvalue).under (.member hmem)

/-- By cases on the combinator, and on the value where the combinator looks into it. -/
theorem level_shows (hsub : ShowsFaults sub) : ShowsFaults (m.level sub) := by
  intro c v e h
  cases c with
  | builtin type => exact shows_of_orHere h
  | ref name =>
    rw [level] at h
    split at h
    · exact hsub _ _ _ h
    · cases h
      exact shows_here _ _
  | declare name =>
    rw [level] at h
    split at h
    · exact hsub _ _ _ h
    · cases h
      exact shows_here _ _
  | list elem name =>
    cases v with
    | arr items =>
      obtain ⟨j, x, e', hj, hfails, rfl⟩ := exists_of_checkElems_error h
      rw [Nat.zero_add]
      exact (hsub _ _ _ hfails).under (.item hj)
    | _ =>
      cases h
      exact shows_here _ _
  | maybe inner name =>
    cases v with
    | null => cases h
    | _ => exact hsub _ _ _ h
  | tuple elems name =>
    cases v with
    | arr items =>
      rw [level] at h
      split at h
      · obtain ⟨j, d, x, e', hj, hfails, rfl⟩ := exists_of_checkTuple_error h
        rw [Nat.zero_add]
        exact (hsub _ _ _ hfails).under (.item hj)
      · cases h
        exact shows_here _ _
    | _ =>
      cases h
      exact shows_here _ _
  | union members name => exact shows_of_orHere h
  | enum values name =>
    cases v with
    | str s => exact shows_of_orHere h
    | _ =>
      cases h
      exact shows_here _ _
  | dict key value name =>
    cases v with
    | obj entries => exact shows_of_checkEntries hsub h
    | _ =>
      cases h
      exact shows_here _ _
  | refinement base predicate name =>
    rw [level] at h
    split at h
    · rename_i e' hbase
      cases h
      exact hsub _ _ _ hbase
    · exact shows_of_orHere h
  | interface props name exact =>
    cases v with
    | obj members =>
      rw [level] at h
      split at h
      · rename_i e' hprops
        cases h
        exact shows_of_checkProps hsub hprops
      · cases exact with
        | true =>
          obtain ⟨k, x, hmem, rfl⟩ := exists_of_checkExact_error h
          exact (shows_here _ x).under (.member hmem)
        | false => cases h
    | _ =>
      cases h
      exact shows_here _ _
  | props props =>
    cases v with
    | obj members => exact shows_of_checkProps hsub h
    | _ =>
      cases h
      exact shows_here _ _
  | intersection members name => exact shows_of_checkAll hsub h
  | extend members name => exact shows_of_checkAll hsub h

/-- By induction on the budget. A check that runs out of it finds fault with the whole value. -/
theorem checkWithin_shows (m : Model) (budget : Nat) : ShowsFaults (m.checkWithin budget) := by
  induction budget with
  | zero =>
    intro c v e h
    cases h
    exact shows_here c v
  | succ budget ih => exact level_shows ih

/-! ### Labelled checks -/

/-- A labelled check that fails gives the label and the path as the location, and its path and text
show what does not fit. A value passes the check under its own name exactly where it is accepted,
and an assertion under the policy to warn returns the value. -/
theorem validateAs_shows (m : Model) (label : String) (c : Combinator) (v : Json) :
    (∀ f, m.validateAs label c v = .error f →
      f.location = label ++ String.join (f.path.map fun s => "/" ++ s) ∧ v.Shows f.path f.actual) ∧
    (m.validate c v = .ok () ↔ m.accepts c v = true) ∧ m.assert .warn label c v = .ok v := by
  refine ⟨fun f h => ?_, ?_, ?_⟩
  · rw [validateAs] at h
    split at h
    · cases h
    · rename_i e he
      cases h
      exact ⟨rfl, checkWithin_shows m _ c v e he⟩
  · rw [validate, validateAs, accepts]
    cases m.check c v with
    | ok u => exact iff_of_true rfl rfl
    | error e => exact iff_of_false nofun nofun
  · unfold assert
    cases m.validateAs label c v with
    | ok u => rfl
    | error f => rfl

/-- The definition `Node = { value: number, next?: Node, tags: { [Short]: string } }`, where `Short`
holds of no key. -/
def nodeModel : Model :=
  let key : Combinator := .refinement (.builtin .string) (.ref (.simple "short")) (some "Short")
  let next : Combinator := .maybe (.ref (.simple "Node")) none
  let node : Combinator := .interface [("value", .builtin .number), ("next", next),
    ("tags", .dict key (.builtin .string) none)] (some "Node") false
  (empty.define "Node" node).definePredicate "short" fun _ => false

/-- A key in the second node of a chain does not fit. -/
theorem nodeModel_shows :
    let second := Json.obj [("value", .int 2), ("tags", .obj [("color", .str "red")])]
    let v := Json.obj [("value", .int 1), ("tags", .obj []), ("next", second)]
    ∃ f, nodeModel.validateAs "node" (.ref (.simple "Node")) v = .error f ∧
      f.location = "node/next/tags/color" ∧ v.Shows f.path f.actual := by
  intro second v
  have h : nodeModel.validateAs "node" (.ref (.simple "Node")) v =
      .error ⟨["next", "tags", "color"], "node/next/tags/color", "\"color\"", "Short"⟩ := rfl
  exact ⟨_, h, rfl, ((validateAs_shows nodeModel "node" (.ref (.simple "Node")) v).1 _ h).2⟩

end Model

end TypeGuard
