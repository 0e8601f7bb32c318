import TypeGuard.Proofs.Printing.Word

/-!
# Ambiguous beginnings

The beginnings that make a statement a declaration or a block: a brace, and the keywords of
functions and classes. What a text begins with is told by its first word, or by its first character
where that belongs to no word.
-/

namespace TypeGuard

/-- What a statement cannot begin with as an expression. -/
inductive Opening where
  | brace
  | classDecl
  | function
  | asyncFunction
  deriving DecidableEq, Repr

namespace Opening

/-- What the text begins with: a brace, or a word that is one of the keywords. -/
def ofText (text : List Char) : Option Opening :=
  let word := text.takeWhile isWordChar
  let rest := text.dropWhile isWordChar
  if text.head? = some '\x7b' then some brace
  else if word = "function".toList then some function
  else if word = "class".toList then some classDecl
  else if word = "async".toList ∧ rest.head? = some ' ' ∧
      rest.tail.takeWhile isWordChar = "function".toList then some asyncFunction
  else none

theorem ofText_cons {c : Char} (hc : c ∉ ['\x7b', 'f', 'c', 'a']) (cs : List Char) :
    ofText (c :: cs) = none := by
  simp only [List.mem_cons, List.not_mem_nil, or_false, not_or] at hc
  obtain ⟨hbrace, hf, hclass, ha⟩ := hc
  have hword (d : Char) (ds : List Char) (hd : c ≠ d) :
      (c :: cs).takeWhile isWordChar ≠ d :: ds := by
    rw [List.takeWhile_cons]
    split
    · exact fun h => hd (List.head_eq_of_cons_eq h)
    · exact (List.cons_ne_nil _ _).symm
  simp [ofText, hbrace, hword _ _ hf, hword _ _ hclass, hword _ _ ha]

/-- What can stand after an expression: neither more of its last word nor the word `function`, nor
the beginning of a statement. -/
structure Follows (rest : List Char) : Prop where
  detached : Detached rest
  noFunction : rest.head? = some ' ' → rest.tail.takeWhile isWordChar ≠ "function".toList
  noOpening : ofText rest = none

variable {rest : List Char}

theorem Follows.cons {c : Char} (hc : isWordChar c = false)
    (hother : c ∉ [' ', '\x7b', 'f', 'c', 'a']) (cs : List Char) : Follows (c :: cs) where
  detached := .cons hc cs
  noFunction h := (hother (by simp [Option.some.inj h])).elim
  noOpening := ofText_cons (fun h => hother (List.mem_cons_of_mem _ h)) cs

theorem Follows.blank {c : Char} (hc : isWordChar c = false) (cs : List Char) :
    Follows (' ' :: c :: cs) where
  detached := .cons (by decide) _
  noFunction _ := by simp [hc]
  noOpening := ofText_cons (by decide) _

theorem not_function_of_operator :
    ∀ op ∈ Operator.binary ++ Operator.assignment,
      op.toList ≠ "function".toList ∧ op.toList.takeWhile isWordChar ≠ "function".toList := by
  decide

theorem Follows.operator {op : String} (hop : op ∈ Operator.binary ++ Operator.assignment)
    (cs : List Char) : Follows (' ' :: (op.toList ++ ' ' :: cs)) where
  detached := .cons (by decide) _
  noFunction _ h := by
    obtain ⟨hall, hword⟩ := not_function_of_operator op hop
    rw [List.tail_cons, List.takeWhile_append] at h
    split at h
    · rw [List.takeWhile_cons_of_neg (by decide), List.append_nil] at h
      exact hall h
    · exact hword h
  noOpening := ofText_cons (by decide) _

/-- A text that begins with a word begins with a keyword exactly if the word is one. -/
theorem ofText_word (word : String) (hword : isWord word = true) (hrest : Detached rest) :
    ofText (word.toList ++ rest) =
      if word = "function" then some function
      else if word = "class" then some classDecl
      else if word = "async" ∧ rest.head? = some ' ' ∧
        rest.tail.takeWhile isWordChar = "function".toList then some asyncFunction
      else none := by
  obtain ⟨hne, hword⟩ := isWord_iff.mp hword
  have hhead : (word.toList ++ rest).head? ≠ some '\x7b' := by
    obtain ⟨c, cs, hcs⟩ := List.exists_cons_of_ne_nil hne
    rw [hcs] at hword ⊢
    intro h
    have hbrace := hword c List.mem_cons_self
    rw [Option.some.inj h] at hbrace
    revert hbrace
    decide
  simp only [ofText, takeWhile_word hword hrest, dropWhile_word hword hrest, String.toList_inj]
  rw [if_neg hhead]

/-- A name that is no keyword begins with none. -/
theorem ofText_name {name : String} (hname : isWord name = true)
    (hfunction : name ≠ "function") (hclass : name ≠ "class") (hrest : Follows rest) :
    ofText (name.toList ++ rest) = none := by
  rw [ofText_word name hname hrest.detached, if_neg hfunction, if_neg hclass,
    if_neg fun h => hrest.noFunction h.2.1 h.2.2]

/-- A text that begins with another sign or letter than these begins with no keyword. -/
theorem ofText_of_head (c : Char) {text : String} (h : text.toList.head? = some c)
    (hc : c ∉ ['\x7b', 'f', 'c', 'a']) (rest : List Char) :
    ofText (text.toList ++ rest) = none := by
  obtain ⟨cs, hcs⟩ := List.head?_eq_some_iff.mp h
  rw [hcs]
  exact ofText_cons hc _

/-- A text in braces begins with one. -/
theorem ofText_bracedList (texts : List String) (rest : List Char) :
    ofText ((bracedList texts).toList ++ rest) = some .brace := by
  have hhead : ((bracedList texts).toList ++ rest).head? = some '\x7b' := by
    rw [bracedList]
    split <;> simp
  rw [ofText, if_pos hhead]

theorem ofText_number {text : String}
    (h : (text.toList.head?.any fun c => c.isDigit || c == '.') = true) (rest : List Char) :
    ofText (text.toList ++ rest) = none := by
  obtain ⟨c, hc, hdigit⟩ := Option.any_eq_true _ _ |>.mp h
  have hother : ∀ c ∈ ['\x7b', 'f', 'c', 'a'], (c.isDigit || c == '.') = false :=
    forall_mem_of_all (by decide)
  refine ofText_of_head c hc (fun hmem => ?_) rest
  rw [hother c hmem] at hdigit
  cases hdigit

theorem ofText_prefixOperator {op : String} (hop : op ∈ Operator.unary ++ Operator.update)
    (rest : List Char) : ofText (op.toList ++ rest) = none := by
  have hhead : ∀ op ∈ Operator.unary ++ Operator.update,
      op.toList.head?.any (fun c => decide (c ∉ ['\x7b', 'f', 'c', 'a'])) = true := by
    decide
  obtain ⟨c, hc, hne⟩ := (Option.any_eq_true _ _).mp (hhead op hop)
  exact ofText_of_head c hc (of_decide_eq_true hne) rest

end Opening

end TypeGuard
