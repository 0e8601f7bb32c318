import TypeGuard.Proofs.Json.Text
import TypeGuard.Wire.Record

/-!
# Rules for reading

A reader with a number of brackets that may still be opened reads a value back if it does so for
every number from the depth of the value on. There is one rule for every way in which readers are
put together. The depth of a record is the greatest depth of its members, in order, and a
computation that reads one field after the other needs the greatest of what the fields need, so that
the two bounds are the same by definition. That no number is lost in the text of a value is told of
its parts in the same order, and the rules carry it along.
-/

namespace TypeGuard.Wire

variable {α β : Type}

/-- The values that are read meet `P`, and with `k` brackets or more the computation has the result
`a`. -/
def Yields (k : Nat) (P : Prop) (compute : Nat → Option α) (a : α) : Prop :=
  P ∧ ∀ n, k ≤ n → compute n = some a

/-- The value has integers only, and given enough brackets for it the reader reads it as `a`. -/
def Reads (read : Nat → Json → Option α) (j : Json) (a : α) : Prop :=
  Yields j.depth j.Integral (read · j) a

/-! ### Computations -/

namespace Yields

variable {k l : Nat} {P Q : Prop} {compute : Nat → Option α} {a : α}

theorem pure : Yields k True (fun _ => some a) a := ⟨trivial, fun _ _ => rfl⟩

theorem bind {rest : Nat → α → Option β} {b : β} (ha : Yields k P compute a)
    (hb : Yields l Q (rest · a) b) :
    Yields (max k l) (P ∧ Q) (fun n => compute n >>= rest n) b := by
  refine ⟨⟨ha.1, hb.1⟩, fun n h => ?_⟩
  obtain ⟨hk, hl⟩ := Nat.max_le.mp h
  simp only [ha.2 n hk]
  exact hb.2 n hl

/-- The first array or object takes a bracket. -/
theorem enter (h : Yields k P (fun n => compute (n + 1)) a) : Yields (k + 1) P compute a := by
  refine ⟨h.1, fun n hn => ?_⟩
  obtain ⟨m, rfl⟩ : ∃ m, n = m + 1 := ⟨n - 1, by omega⟩
  exact h.2 m (by omega)

end Yields

/-! ### Variants and records -/

namespace Yields

variable {read : Nat → Json → Option α} {j : Json} {a : α}

/-- The value of a variant is the only member of an object. -/
theorem variant {tag : String}
    (h : Yields j.depth j.Integral (fun n => read (n + 1) (variant tag j)) a) :
    Reads read (Wire.variant tag j) a := by
  refine enter ⟨⟨h.1, trivial⟩, fun n hn => h.2 n ?_⟩
  exact Nat.le_trans (Nat.le_max_left _ _) hn

/-- The fields of a record, read one after the other. -/
theorem record (read : Nat → Json → Option α) {members : List (String × Json)}
    (h : Yields (Json.membersDepth members) (Json.membersIntegral members)
      (fun n => read (n + 1) (.obj members)) a) :
    Reads read (.obj members) a :=
  enter h

/-- The fields of a record are at hand. -/
theorem fields {k : Nat} {P : Prop} {fs : List (Option Json)}
    {rest : Nat → List (Option Json) → Option α} (h : Yields k P (rest · fs) a) :
    Yields k P (fun n => some fs >>= rest n) a := h

end Yields

namespace Reads

variable {read : Nat → Json → Option α} {j : Json} {a : α}

/-- A result that is put into a larger tree. -/
theorem map {f : α → β} (h : Reads read j a) :
    Yields j.depth j.Integral (fun n => (read n j).map f) (f a) := by
  refine ⟨h.1, fun n hn => ?_⟩
  have hread : read n j = some a := h.2 n hn
  simp only [hread, Option.map_some]

theorem nullable (h : Reads read j a) (hnull : ∀ n, read n .null = none) :
    Reads (fun n => Wire.nullable (read n)) j (some a) := by
  refine ⟨h.1, fun n hn => ?_⟩
  have hread : read n j = some a := h.2 n hn
  show Wire.nullable (read n) j = some (some a)
  unfold Wire.nullable
  split
  · rw [hnull] at hread
    cases hread
  · rw [hread, Option.map_some]

theorem null : Reads (fun n => Wire.nullable (read n)) .null none := ⟨trivial, fun _ _ => rfl⟩

end Reads

/-! ### Lists -/

/-- The values of an array, each read as the element at its place. -/
def ReadEach (read : Nat → Json → Option α) (js : List Json) (as : List α) : Prop :=
  Yields (Json.elemsDepth js) (Json.elemsIntegral js) (fun n => js.mapM (read n)) as

namespace ReadEach

variable {read : Nat → Json → Option α}

theorem nil : ReadEach read [] [] := ⟨trivial, fun _ _ => rfl⟩

theorem cons {j : Json} {a : α} {js : List Json} {as : List α} (ha : Reads read j a)
    (has : ReadEach read js as) : ReadEach read (j :: js) (a :: as) := by
  refine ⟨⟨ha.1, has.1⟩, fun n h => ?_⟩
  obtain ⟨hj, hjs⟩ := Nat.max_le.mp h
  have hhead : read n j = some a := ha.2 n hj
  have htail : js.mapM (read n) = some as := has.2 n hjs
  show (j :: js).mapM (read n) = some (a :: as)
  rw [List.mapM_cons, hhead, htail]
  rfl

theorem map {toJson : α → Json} (h : ∀ a, Reads read (toJson a) a) (as : List α) :
    ReadEach read (as.map toJson) as := by
  induction as with
  | nil => exact nil
  | cons a as ih => exact cons (h a) ih

/-- An array takes a bracket of its own. -/
theorem array {reads : Nat → Json → Option (List α)} {js : List Json} {as : List α}
    (h : ReadEach read js as)
    (hreads : ∀ n, reads (n + 1) (.arr js) = elems? (read n) (.arr js)) :
    Reads reads (.arr js) as :=
  Yields.enter ⟨h.1, fun n hn => (hreads n).trans (h.2 n hn)⟩

end ReadEach

/-! ### Plain values -/

theorem uint32?_ofUInt32 (n : UInt32) : uint32? (ofUInt32 n) = some n := by
  have hbounds : 0 ≤ (n.toNat : Int) ∧ (n.toNat : Int) < UInt32.size :=
    ⟨Int.natCast_nonneg _, Int.ofNat_lt.mpr n.toNat_lt_size⟩
  show (if 0 ≤ (n.toNat : Int) ∧ (n.toNat : Int) < UInt32.size then
    some (UInt32.ofNat (n.toNat : Int).toNat) else none) = some n
  rw [if_pos hbounds, Int.toNat_natCast, UInt32.ofNat_toNat]

theorem ofUInt32_integral (n : UInt32) : (ofUInt32 n).Integral := by
  have hn : n.toNat < UInt32.size := n.toNat_lt_size
  have hsize : UInt32.size ≤ UInt64.size := by decide
  constructor <;> omega

/-- A variant that carries nothing is read back from its name. -/
theorem unit?_reads {names : List (String × α)} {name : String} {a : α}
    (h : names.lookup name = some a) : Reads (unit? names) (.str name) a := by
  refine ⟨trivial, fun n _ => ?_⟩
  cases n <;> exact h

theorem strings_reads (ss : List String) : Reads strings? (ofStrings ss) ss :=
  have hstring (s : String) : Reads (fun _ => string?) (.str s) s := .pure
  (ReadEach.map hstring ss).array fun _ => rfl

theorem optString_reads (s : Option String) :
    Reads (fun _ => nullable string?) (ofString? s) s := by
  cases s with
  | some s => exact .pure
  | none => exact .null

end TypeGuard.Wire
