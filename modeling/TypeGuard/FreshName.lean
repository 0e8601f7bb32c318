import TypeGuard.Limits

/-!
# Fresh names

A generated name is an underscore and a base, with a number after it where that is needed to avoid
the names that are taken.
-/

namespace TypeGuard.FreshName

/-- The `k`-th candidate for a base, counted from one. -/
def candidate (base : String) (k : Nat) : String :=
  if k = 1 then "_" ++ base else "_" ++ base ++ toString k

/-- The first of the candidates `k, …, k + n` that is not taken, or the last of them. -/
def firstFree (taken : List String) (base : String) : Nat → Nat → String
  | 0, k => candidate base k
  | n + 1, k =>
    if taken.contains (candidate base k) then firstFree taken base n (k + 1) else candidate base k

/-- The first candidate that is not taken; the last one where all are. -/
def choose (taken : List String) (base : String) : String :=
  firstFree taken base (Limits.nameSuffix - 1) 1

/-- Chooses a name and adds it to those that are taken. -/
def generate (taken : List String) (base : String) : String × List String :=
  let name := choose taken base
  (name, name :: taken)

/-- Chooses a name for each base in turn. -/
def generateAll (taken : List String) : List String → List String
  | [] => []
  | base :: bases =>
    let (name, taken) := generate taken base
    name :: generateAll taken bases

end TypeGuard.FreshName
