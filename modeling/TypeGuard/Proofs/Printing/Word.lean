import Mathlib.Data.List.Basic
import TypeGuard.Printing.Syntax

/-!
# Words and operators

What the names and operators of a tree look like. A word is a run of characters that can stand
within a name; it ends where a text is detached from it. An operator is a word or a sign.
-/

namespace TypeGuard

/-! ### Words -/

/-- Whether the character can stand within a name. Of those beyond ASCII every one is taken to. -/
def isWordChar (c : Char) : Bool :=
  c.isAlphanum || c == '_' || c == '$' || 0x80 ≤ c.toNat

/-- Whether the text is a word. -/
def isWord (text : String) : Bool :=
  !text.toList.isEmpty && text.toList.all isWordChar

/-- The text does not go on with a word that stands before it. -/
def Detached (text : List Char) : Prop := ∀ c ∈ text.head?, isWordChar c = false

theorem Detached.nil : Detached [] := nofun

theorem Detached.cons {c : Char} (h : isWordChar c = false) (cs : List Char) :
    Detached (c :: cs) := by
  intro d hd
  obtain rfl : c = d := Option.some.inj hd
  exact h

theorem Detached.text (text : String) (h : text.toList.head?.any (!isWordChar ·) = true)
    (rest : List Char) : Detached (text.toList ++ rest) := by
  obtain ⟨c, hc, hword⟩ := (Option.any_eq_true _ _).mp h
  obtain ⟨cs, hcs⟩ := List.head?_eq_some_iff.mp hc
  rw [hcs]
  exact .cons (by simpa using hword) _

section

variable {word rest : List Char} (hword : ∀ c ∈ word, isWordChar c = true) (hrest : Detached rest)
include hword hrest

theorem takeWhile_word : (word ++ rest).takeWhile isWordChar = word := by
  rw [List.takeWhile_append_of_pos hword]
  cases rest with
  | nil => simp
  | cons c cs => simp [hrest c rfl]

theorem dropWhile_word : (word ++ rest).dropWhile isWordChar = rest := by
  rw [List.dropWhile_append_of_pos hword]
  cases rest with
  | nil => rfl
  | cons c cs => simp [hrest c rfl]

end

/-- A property of the characters of a text is decided by going through the text. -/
theorem forall_mem_of_all {cs : List Char} {p : Char → Prop} [DecidablePred p]
    (h : cs.all (fun c => decide (p c)) = true) : ∀ c ∈ cs, p c := by
  simpa using h

theorem isWord_iff {text : String} :
    isWord text = true ↔ text.toList ≠ [] ∧ ∀ c ∈ text.toList, isWordChar c = true := by
  simp [isWord]

/-! ### Operators -/

namespace Operator

def unary : List String := ["-", "+", "!", "~", "typeof", "void", "delete"]

def update : List String := ["++", "--"]

def binary : List String :=
  ["??", "||", "&&", "|", "^", "&", "==", "!=", "===", "!==", "<", ">", "<=", ">=", "instanceof",
    "in", "<<", ">>", ">>>", "+", "-", "*", "/", "%", "**"]

def assignment : List String :=
  ["=", "+=", "-=", "*=", "/=", "%=", "**=", "<<=", ">>=", ">>>=", "&=", "^=", "|=", "&&=", "||=",
    "??="]

end Operator

namespace Precedence

/-- A binary operator binds more tightly than a conditional and less than a unary operator. -/
theorem ofOperator_bounds (op : String) :
    conditional < ofOperator op ∧ ofOperator op < unary := by
  have hite (p : Prop) [Decidable p] {a b : Nat} (ha : conditional < a ∧ a < unary)
      (hb : conditional < b ∧ b < unary) :
      conditional < (if p then a else b) ∧ (if p then a else b) < unary := by
    split <;> assumption
  rw [ofOperator]
  repeat' refine hite _ ?_ ?_
  all_goals decide

theorem conditional_lt_ofOperator (op : String) : conditional < ofOperator op :=
  (ofOperator_bounds op).1

theorem ofOperator_lt_unary (op : String) : ofOperator op < unary :=
  (ofOperator_bounds op).2

end Precedence

end TypeGuard
