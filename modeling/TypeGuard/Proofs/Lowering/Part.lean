import Mathlib.Logic.Relation
import TypeGuard.Lowering
import TypeGuard.Proofs.Results

/-!
# Parts of types

The types that are lowered on the way to the check of a type: its parts, and the bound where it is a
type parameter. What a type is lowered to depends on nothing but these and on what its own name
means, so a larger budget of levels does not change it.
-/

namespace TypeGuard

open Results

/-- The lowering of the first type goes on to the second. -/
inductive StaticType.HasPart (env : Environment) : StaticType → StaticType → Prop where
  | elem {elem} : HasPart env (.list elem) elem
  | inner {inner} : HasPart env (.nullable inner) inner
  | component {elems elem} : elem ∈ elems → HasPart env (.tuple elems) elem
  | alternative {members member} : member ∈ members → HasPart env (.union members) member
  | conjunct {members member} : member ∈ members → HasPart env (.intersection members) member
  | property {shape p} : shape.indexers = [] → p ∈ shape.properties →
      HasPart env (.object shape) p.value
  | indexerKey {shape indexer} : shape.indexers = [indexer] →
      HasPart env (.object shape) indexer.key
  | indexerValue {shape indexer} : shape.indexers = [indexer] →
      HasPart env (.object shape) indexer.value
  | argument {ref elem} : ref.classify env = .ok .list → ref.args = [elem] →
      HasPart env (.generic ref) elem
  | exactProperty {ref shape p} : ref.classify env = .ok .exact → ref.args = [.object shape] →
      p ∈ shape.properties → HasPart env (.generic ref) p.value
  | bound {ref bound} : ref.classify env = .ok (.typeParam (some bound)) →
      HasPart env (.generic ref) bound

namespace Lowering

variable {env : Environment} {sub sub' : Sub} {name : Option String}

/-- A type that `sub` lowers is lowered alike by `sub'`. -/
def Follows (sub sub' : Sub) (type : StaticType) : Prop := ∀ l, sub type = .ok l → sub' type = .ok l

theorem mapM_follows {α β : Type} {f g : α → Except LoweringError β} {as : List α} {bs : List β}
    (hfg : ∀ a ∈ as, ∀ b, f a = .ok b → g a = .ok b) (h : as.mapM f = .ok bs) :
    as.mapM g = .ok bs := by
  rw [mapM_eq_ok] at h ⊢
  induction h with
  | nil => exact .nil
  | @cons a b as bs hab _ ih =>
    exact .cons (hfg a (List.mem_cons_self ..) b hab)
      (ih fun x hx => hfg x (List.mem_cons_of_mem _ hx))

theorem part_follows {type : StaticType} {c : Combinator} (hsub : Follows sub sub' type)
    (h : part sub type = .ok c) : part sub' type = .ok c := by
  obtain ⟨l, hl, rfl⟩ := map_eq_ok.mp h
  exact map_eq_ok.mpr ⟨l, hsub l hl, rfl⟩

theorem parts_follows {types : List StaticType} {cs : List Combinator}
    (hsub : ∀ t ∈ types, Follows sub sub' t) (h : parts sub types = .ok cs) :
    parts sub' types = .ok cs :=
  mapM_follows (fun t ht _ => part_follows (hsub t ht)) h

theorem properties_follows {ps : List ObjectProperty} {props : List (String × Combinator)}
    (hsub : ∀ p ∈ ps, Follows sub sub' p.value) (h : properties sub ps = .ok props) :
    properties sub' ps = .ok props := by
  obtain ⟨entries, hentries, rfl⟩ := map_eq_ok.mp h
  refine map_eq_ok.mpr ⟨entries, mapM_follows (fun p hp entry hentry => ?_) hentries, rfl⟩
  obtain ⟨c, hc, hvalue⟩ := bind_eq_ok.mp hentry
  exact bind_eq_ok.mpr ⟨c, part_follows (hsub p hp) hc, hvalue⟩

theorem union_follows {members : List StaticType} {c : Combinator}
    (hsub : ∀ t ∈ members, Follows sub sub' t) (h : union sub members name = .ok c) :
    union sub' members name = .ok c := by
  unfold union at h ⊢
  revert h
  split
  · exact id
  · intro h
    obtain ⟨cs, hcs, rfl⟩ := map_eq_ok.mp h
    exact map_eq_ok.mpr ⟨cs, parts_follows hsub hcs, rfl⟩

theorem object_follows {shape : ObjectShape} {c : Combinator}
    (hsub : ∀ t, (StaticType.object shape).HasPart env t → Follows sub sub' t)
    (h : object sub shape name = .ok c) : object sub' shape name = .ok c := by
  unfold object at h ⊢
  split at h
  · rename_i hindexers
    obtain ⟨props, hprops, rfl⟩ := map_eq_ok.mp h
    have hvalues := fun p hp => hsub _ (.property (p := p) hindexers hp)
    exact map_eq_ok.mpr ⟨props, properties_follows hvalues hprops, rfl⟩
  · rename_i indexer hindexers
    obtain ⟨key, hkey, h⟩ := bind_eq_ok.mp h
    obtain ⟨value, hvalue, ⟨⟩⟩ := bind_eq_ok.mp h
    refine bind_eq_ok.mpr ⟨key, part_follows (hsub _ (.indexerKey hindexers)) hkey, ?_⟩
    exact bind_eq_ok.mpr ⟨value, part_follows (hsub _ (.indexerValue hindexers)) hvalue, rfl⟩
  · cases h

theorem intersection_follows {members : List StaticType} {c : Combinator}
    (hsub : ∀ t ∈ members, Follows sub sub' t) (h : intersection sub members name = .ok c) :
    intersection sub' members name = .ok c := by
  obtain ⟨ls, hls, h⟩ := bind_eq_ok.mp h
  exact bind_eq_ok.mpr ⟨ls, mapM_follows hsub hls, h⟩

theorem generic_follows {ref : GenericRef} {l : Lowered}
    (hsub : ∀ t, (StaticType.generic ref).HasPart env t → Follows sub sub' t)
    (h : generic env sub ref name = .ok l) : generic env sub' ref name = .ok l := by
  obtain ⟨kind, hkind, h⟩ := bind_eq_ok.mp h
  refine bind_eq_ok.mpr ⟨kind, hkind, ?_⟩
  match kind, h with
  | .list, h =>
    simp only at h ⊢
    split at h
    · rename_i elem hargs
      obtain ⟨c, hc, hl⟩ := bind_eq_ok.mp h
      exact bind_eq_ok.mpr ⟨c, part_follows (hsub _ (.argument hkind hargs)) hc, hl⟩
    · cases h
  | .exact, h =>
    simp only at h ⊢
    split at h
    · rename_i shape hargs
      obtain ⟨props, hprops, hl⟩ := bind_eq_ok.mp h
      have hvalues := fun p hp => hsub _ (.exactProperty (p := p) hkind hargs hp)
      exact bind_eq_ok.mpr ⟨props, properties_follows hvalues hprops, hl⟩
    · cases h
  | .typeParam (some bound), h => exact hsub bound (.bound hkind) l h
  | .function, h | .object, h | .promise, h | .erased, h | .reify _, h | .typeParam none, h
  | .refinement _, h | .nominal, h => exact h

/-- One level of a type is lowered alike if its parts are. -/
theorem level_follows {type : StaticType} {l : Lowered}
    (hsub : ∀ t, type.HasPart env t → Follows sub sub' t)
    (h : level env sub name type = .ok l) : level env sub' name type = .ok l := by
  cases type with
  | primitive | existential | typeof | function | literal | unsupported => exact h
  | list elem =>
    obtain ⟨c, hc, rfl⟩ := map_eq_ok.mp h
    exact map_eq_ok.mpr ⟨c, part_follows (hsub _ .elem) hc, rfl⟩
  | nullable inner =>
    obtain ⟨c, hc, rfl⟩ := map_eq_ok.mp h
    exact map_eq_ok.mpr ⟨c, part_follows (hsub _ .inner) hc, rfl⟩
  | tuple elems =>
    obtain ⟨cs, hcs, rfl⟩ := map_eq_ok.mp h
    exact map_eq_ok.mpr ⟨cs, parts_follows (fun _ ht => hsub _ (.component ht)) hcs, rfl⟩
  | union members =>
    obtain ⟨c, hc, rfl⟩ := map_eq_ok.mp h
    exact map_eq_ok.mpr ⟨c, union_follows (fun _ ht => hsub _ (.alternative ht)) hc, rfl⟩
  | intersection members =>
    obtain ⟨c, hc, rfl⟩ := map_eq_ok.mp h
    exact map_eq_ok.mpr ⟨c, intersection_follows (fun _ ht => hsub _ (.conjunct ht)) hc, rfl⟩
  | object shape =>
    obtain ⟨c, hc, rfl⟩ := map_eq_ok.mp h
    exact map_eq_ok.mpr ⟨c, object_follows hsub hc, rfl⟩
  | generic ref => exact generic_follows hsub h

/-! ### Budgets -/

/-- A larger budget of levels lowers a type alike. -/
theorem within_mono {n k : Nat} (hnk : n ≤ k) (type : StaticType) :
    Follows (within env n name) (within env k name) type := by
  induction n generalizing k name type with
  | zero =>
    intro l h
    cases h
  | succ n ih =>
    obtain ⟨k, rfl⟩ := Nat.exists_eq_add_of_le' (Nat.zero_lt_of_lt hnk)
    intro l h
    exact level_follows (fun t _ => ih (Nat.le_of_succ_le_succ hnk) t) h

end Lowering

end TypeGuard
