import TypeGuard.Lowering
import TypeGuard.Proofs.Combinator.Nodes
import TypeGuard.Proofs.Results

/-!
# Nodes of lowered types

What stands at the nodes of a combinator that a type is lowered to without a name: nothing that has
a name, no extension, and references to those names only that are nominal in the environment. This
is said of one level at a time, as what the level adds to its parts, `Lowering.Makes.level`.
-/

namespace TypeGuard

open Results

namespace Lowering

/-- What lowering puts at the nodes of a combinator. -/
inductive Node (env : Environment) : Combinator → Prop where
  | builtin {type} : Node env (.builtin type)
  | ref {ref : GenericRef} : ref.classify env = .ok .nominal → Node env (.ref ref.name)
  | list {elem} : Node env (.list elem none)
  | maybe {inner} : Node env (.maybe inner none)
  | tuple {elems} : Node env (.tuple elems none)
  | union {members} : Node env (.union members none)
  | enum {values} : Node env (.enum values none)
  | dict {key value} : Node env (.dict key value none)
  | refinement {base predicate} : Node env (.refinement base predicate none)
  | interface {props exact} : Node env (.interface props none exact)
  | intersection {members} : Node env (.intersection members none)

variable {env : Environment} {c : Combinator}

theorem Node.name?_eq_none (h : Node env c) : c.name? = none := by
  cases h <;> rfl

theorem Node.isExtension_eq_false (h : Node env c) : c.isExtension = false := by
  cases h <;> rfl

/-- The combinator has such nodes only. -/
abbrev Made (env : Environment) (c : Combinator) : Prop := c.Everywhere (Node env)

/-- Parts are lowered to combinators with such nodes. -/
def Makes (env : Environment) (sub : Sub) : Prop := ∀ type l, sub type = .ok l → Made env l.carrier

namespace Made

theorem of_children (hc : Node env c) (h : ∀ d ∈ c.children, Made env d) : Made env c :=
  Combinator.everywhere_iff.mpr ⟨hc, h⟩

theorem of_child {d : Combinator} (hc : Node env c) (hchildren : c.children = [d])
    (h : Made env d) : Made env c := by
  apply of_children hc
  intro e he
  rw [hchildren] at he
  rwa [List.mem_singleton.mp he]

theorem refinement (h : Made env c) (p : Predicate) : Made env (.refinement c p none) :=
  of_child .refinement rfl h

theorem close {l : Lowered} (h : Made env l.carrier) : Made env (l.close none) := by
  unfold Lowered.close
  split
  · exact h.refinement _
  · exact h

theorem builtin (type : Builtin) : Made env (.builtin type) := of_children .builtin nofun

theorem stack (h : Made env c) (predicates : List Predicate) :
    Made env (Lowering.stack c none predicates) := by
  induction predicates generalizing c with
  | nil => exact h
  | cons p ps ih =>
    cases ps with
    | nil => exact h.refinement p
    | cons q qs => exact ih (h.refinement p)

theorem meet {cs : List Combinator} (h : ∀ c ∈ cs, Made env c) :
    Made env (Lowering.meet none cs) := by
  match cs with
  | [] => exact builtin .any
  | [c] => exact h c (List.mem_singleton.mpr rfl)
  | c :: d :: cs => exact of_children .intersection h

theorem literal (value : Literal) : Made env (Lowering.literal value none) := by
  cases value with
  | string s => exact of_children .enum nofun
  | number text => exact (builtin .number).refinement _
  | boolean b => exact (builtin .boolean).refinement _

end Made

namespace Makes

variable {sub : Sub} (hsub : Makes env sub)

include hsub

theorem part {type : StaticType} (h : Lowering.part sub type = .ok c) : Made env c := by
  obtain ⟨l, hl, rfl⟩ := map_eq_ok.mp h
  exact (hsub type l hl).close

theorem parts {types : List StaticType} {cs : List Combinator}
    (h : Lowering.parts sub types = .ok cs) : ∀ c ∈ cs, Made env c := by
  intro c hc
  obtain ⟨type, -, hpart⟩ := exists_of_mem_mapM h hc
  exact hsub.part hpart

theorem property {p : ObjectProperty} {entry : String × Combinator}
    (h : Lowering.property sub p = .ok entry) : Made env entry.2 := by
  obtain ⟨c, hc, ⟨⟩⟩ := bind_eq_ok.mp h
  cases p.optional with
  | true => exact .of_child .maybe rfl (hsub.part hc)
  | false => exact hsub.part hc

theorem properties {ps : List ObjectProperty} {props : List (String × Combinator)}
    (h : Lowering.properties sub ps = .ok props) : ∀ c ∈ props.map (·.2), Made env c := by
  obtain ⟨entries, hentries, rfl⟩ := map_eq_ok.mp h
  rw [List.forall_mem_map]
  rintro ⟨key, c⟩ hmem
  have hentry :=
    List.mem_reverse.mp (List.mem_of_find?_eq_some (Combinator.mem_propsOfList.mp hmem))
  obtain ⟨p, -, hp⟩ := exists_of_mem_mapM hentries hentry
  exact hsub.property hp

theorem union {members : List StaticType} (h : Lowering.union sub members none = .ok c) :
    Made env c := by
  unfold Lowering.union at h
  split at h
  · cases h
    exact .of_children .enum nofun
  · obtain ⟨cs, hcs, rfl⟩ := map_eq_ok.mp h
    exact .of_children .union (hsub.parts hcs)

theorem object {shape : ObjectShape} (h : Lowering.object sub shape none = .ok c) : Made env c := by
  unfold Lowering.object at h
  split at h
  · obtain ⟨props, hprops, rfl⟩ := map_eq_ok.mp h
    exact .of_children .interface (hsub.properties hprops)
  · obtain ⟨key, hkey, h⟩ := bind_eq_ok.mp h
    obtain ⟨value, hvalue, ⟨⟩⟩ := bind_eq_ok.mp h
    apply Made.of_children .dict
    intro d hd
    simp only [Combinator.children, List.mem_cons, List.not_mem_nil, or_false] at hd
    obtain rfl | rfl := hd
    · exact hsub.part hkey
    · exact hsub.part hvalue
  · cases h

theorem intersection {members : List StaticType}
    (h : Lowering.intersection sub members none = .ok c) : Made env c := by
  obtain ⟨lowered, hlowered, ⟨⟩⟩ := bind_eq_ok.mp h
  rw [ite_self]
  refine Made.stack (Made.meet fun c hc => ?_) _
  obtain ⟨l, hl, rfl⟩ := List.mem_map.mp hc
  obtain ⟨type, -, htype⟩ := exists_of_mem_mapM hlowered (List.mem_filter.mp hl).1
  exact hsub type l htype

theorem generic {ref : GenericRef} {l : Lowered} (h : Lowering.generic env sub ref none = .ok l) :
    Made env l.carrier := by
  obtain ⟨kind, hkind, h⟩ := bind_eq_ok.mp h
  match kind, hkind, h with
  | .list, _, h =>
    simp only at h
    split at h
    · obtain ⟨c, hc, ⟨⟩⟩ := bind_eq_ok.mp h
      exact .of_child .list rfl (hsub.part hc)
    · cases h
  | .exact, _, h =>
    simp only at h
    split at h
    · obtain ⟨props, hprops, ⟨⟩⟩ := bind_eq_ok.mp h
      exact .of_children .interface (hsub.properties hprops)
    · cases h
  | .typeParam (some bound), _, h => exact hsub bound l h
  | .nominal, hkind, rfl => exact .of_children (.ref hkind) nofun
  | .function, _, rfl | .object, _, rfl | .promise, _, rfl | .erased, _, rfl | .reify _, _, rfl
  | .typeParam none, _, rfl | .refinement _, _, rfl => exact .builtin _

/-- One level of a type adds such nodes only. -/
theorem level {type : StaticType} {l : Lowered} (h : Lowering.level env sub none type = .ok l) :
    Made env l.carrier := by
  cases type with
  | primitive | existential | typeof | function =>
    cases h
    exact .builtin _
  | list elem =>
    obtain ⟨c, hc, rfl⟩ := map_eq_ok.mp h
    exact .of_child .list rfl (hsub.part hc)
  | tuple elems =>
    obtain ⟨cs, hcs, rfl⟩ := map_eq_ok.mp h
    exact .of_children .tuple (hsub.parts hcs)
  | nullable inner =>
    obtain ⟨c, hc, rfl⟩ := map_eq_ok.mp h
    exact .of_child .maybe rfl (hsub.part hc)
  | union members =>
    obtain ⟨c, hc, rfl⟩ := map_eq_ok.mp h
    exact hsub.union hc
  | intersection members =>
    obtain ⟨c, hc, rfl⟩ := map_eq_ok.mp h
    exact hsub.intersection hc
  | object shape =>
    obtain ⟨c, hc, rfl⟩ := map_eq_ok.mp h
    exact hsub.object hc
  | generic ref => exact hsub.generic h
  | literal value =>
    cases h
    exact .literal value
  | unsupported kind => cases h

end Makes

/-- By induction on the budget of levels. -/
theorem within_makes (env : Environment) (budget : Nat) : Makes env (within env budget none) := by
  induction budget with
  | zero =>
    intro _ _ h
    cases h
  | succ budget ih =>
    intro _ _ h
    exact ih.level h

end Lowering

theorem StaticType.made_lower {env : Environment} {type : StaticType} {c : Combinator}
    (h : type.lower env none = .ok c) : Lowering.Made env c := by
  obtain ⟨l, hl, rfl⟩ := map_eq_ok.mp h
  exact (Lowering.within_makes env Limits.typeDepth type l hl).close

end TypeGuard
