import TypeGuard.Proofs.Printing.Counting

/-!
# Parentheses

No expression is read from a text with fewer parentheses than its own, `Expr.Elementary.count_le`.
So what is printed for names and binary operators has no parentheses to spare: without any pair of
them it is read as something else, `Expr.OfOperators.grouping`.
-/

namespace TypeGuard

namespace Reader

/-- A sign other than an opening parenthesis holds none. -/
theorem opened_first (c : Char) (cs : List Char) (rest : List String) :
    opened (String.ofList (Sign.first (c :: cs)) :: rest) =
      (Sign.first (c :: cs)).count '(' + opened rest := by
  have hlong : ∀ s ∈ Sign.long, s ≠ "(" ∧ s.toList.count '(' = 0 := by decide
  have hmem {sign : List Char} (h : String.ofList sign ∈ Sign.long) :
      opened (String.ofList sign :: rest) = sign.count '(' + opened rest := by
    obtain ⟨hne, hcount⟩ := hlong _ h
    rw [String.toList_ofList] at hcount
    rw [opened_cons _ hne, hcount, Nat.zero_add]
  rw [Sign.first]
  split
  · exact hmem ‹_›
  · split
    · exact hmem ‹_›
    · by_cases hc : c = '('
      · rw [hc]
        exact (opened_paren rest).trans (Nat.add_comm _ _)
      · have hne : String.ofList [c] ≠ "(" := fun h => hc (by simpa using congrArg String.toList h)
        rw [List.take_succ_cons, List.take_zero, opened_cons _ hne, List.count_cons_of_ne hc,
          List.count_nil, Nat.zero_add]

/-- The first sign of a text is cut off. -/
theorem first_append_drop (c : Char) (cs : List Char) :
    Sign.first (c :: cs) ++ cs.drop ((Sign.first (c :: cs)).length - 1) = c :: cs := by
  have htake (k : Nat) :
      (c :: cs).take (k + 1) ++ cs.drop (((c :: cs).take (k + 1)).length - 1) = c :: cs := by
    rw [List.take_succ_cons, List.length_cons, Nat.add_sub_cancel, List.length_take,
      List.take_eq_take_min, List.cons_append, List.take_append_drop]
  rw [Sign.first]
  split
  · exact htake 2
  · split
    · exact htake 1
    · exact htake 0

/-- The parentheses among the tokens of a text are those among its characters. -/
theorem opened_tokenize (text : List Char) : opened (tokenize text) = text.count '(' := by
  fun_induction tokenize text with
  | case1 => rfl
  | case2 c cs hblank ih =>
    have hc : c ≠ '(' := by
      rintro rfl
      cases hblank
    rw [ih, List.count_cons_of_ne hc]
  | case3 c cs hblank hword ih =>
    have hnone : ((c :: cs).takeWhile isWordChar).count '(' = 0 := by
      refine List.count_eq_zero.mpr fun hmem => ?_
      exact absurd (List.all_eq_true.mp List.all_takeWhile _ hmem) (by decide)
    have hne : String.ofList ((c :: cs).takeWhile isWordChar) ≠ "(" := by
      intro h
      rw [← String.toList_inj, String.toList_ofList] at h
      rw [h] at hnone
      cases hnone
    have hdrop : (c :: cs).dropWhile isWordChar = cs.dropWhile isWordChar := by
      rw [List.dropWhile_cons_of_pos hword]
    rw [opened_cons _ hne, ih, ← hdrop, ← Nat.zero_add (List.count _ _), ← hnone,
      ← List.count_append, List.takeWhile_append_dropWhile]
  | case4 c cs hblank hword ih =>
    rw [opened_first, ih, ← List.count_append, first_append_drop]

end Reader

open Reader

namespace Expr

/-- No expression is read from fewer parentheses than its text has. -/
theorem Elementary.count_le {e : Expr} (he : e.Elementary) (hlegible : e.isLegible = true)
    {text : String} (h : read? text = some e) :
    e.label.toList.count '(' ≤ text.toList.count '(' := by
  have htokens : tokenize e.label.toList = e.tokens := he.tokenize_all hlegible .concise
  rw [← opened_tokenize, ← opened_tokenize, htokens]
  rw [read?] at h
  split at h
  case h_1 f hread =>
    cases h
    have hcount := ((counts _).expr _ _ _ _ hread).2
    rw [opened_nil, Nat.add_zero] at hcount
    exact Nat.le_trans (opened_le_within _ _) hcount
  case h_2 => cases h

/-- The expressions built from names by binary operators. -/
inductive OfOperators : Expr → Prop
  | ident {name} (hname : isName name = true) : OfOperators (.ident name)
  | binary {op left right} (hop : op ∈ Operator.binary) (hleft : OfOperators left)
      (hright : OfOperators right) : OfOperators (.binary op left right)

theorem OfOperators.elementary {e : Expr} (h : e.OfOperators) : e.Elementary := by
  induction h with
  | ident hname => exact .ident hname
  | binary hop _ _ ihleft ihright => exact .binary hop ihleft ihright

theorem OfOperators.isLegible {e : Expr} (h : e.OfOperators) : e.isLegible = true := by
  induction h with
  | ident => rfl
  | binary _ _ _ ihleft ihright => rw [Expr.isLegible, ihleft, ihright, Bool.and_self]

/-- A text of names and binary operators is read as the expression that it is the text of, and as
something else without any pair of its parentheses. -/
theorem OfOperators.grouping {e : Expr} (h : e.OfOperators) :
    read? e.label = some e ∧
      ∀ before inside after, e.label.toList = before ++ '(' :: inside ++ ')' :: after →
        read? (String.ofList (before ++ inside ++ after)) ≠ some e := by
  refine ⟨h.elementary.read?_text h.isLegible .concise, fun before inside after hlabel hread => ?_⟩
  have hcount := h.elementary.count_le h.isLegible hread
  rw [hlabel, String.toList_ofList] at hcount
  have hclose : ')' ≠ '(' := by decide
  simp only [List.count_append, List.count_cons_self, List.count_cons_of_ne hclose] at hcount
  omega

/-- The expression `(a - b) * (c - d)`. -/
def productOfDifferences : Expr :=
  .binary "*" (.binary "-" (.ident "a") (.ident "b")) (.binary "-" (.ident "c") (.ident "d"))

theorem OfOperators.productOfDifferences_grouping :
    productOfDifferences.OfOperators ∧
    read? "(a - b) * (c - d)" = some productOfDifferences ∧
    ∀ before inside after,
      "(a - b) * (c - d)".toList = before ++ '(' :: inside ++ ')' :: after →
        read? (String.ofList (before ++ inside ++ after)) ≠ some productOfDifferences := by
  have hname (name : String) (h : isName name = true) : OfOperators (.ident name) := .ident h
  have h : productOfDifferences.OfOperators :=
    .binary (by decide) (.binary (by decide) (hname "a" (by decide)) (hname "b" (by decide)))
      (.binary (by decide) (hname "c" (by decide)) (hname "d" (by decide)))
  have hlabel : productOfDifferences.label = "(a - b) * (c - d)" := by decide
  rw [← hlabel]
  exact ⟨h, OfOperators.grouping h⟩

end Expr

end TypeGuard
