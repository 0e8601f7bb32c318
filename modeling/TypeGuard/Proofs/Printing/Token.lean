import TypeGuard.Proofs.Printing.Word

/-!
# Tokens

A text is cut into words and signs; blanks only keep them apart. A sign is taken as long as
possible, so that two signs in a row come apart only where they do not begin a longer one.
-/

namespace TypeGuard

/-- Whether the character stands between tokens. -/
def isBlank (c : Char) : Bool := c == ' ' || c == '\n'

namespace Sign

/-- The signs of more than one character. -/
def long : List String :=
  ["??", "||", "&&", "==", "!=", "===", "!==", "<=", ">=", "<<", ">>", ">>>", "**", "++", "--"]

/-- The signs of one character. -/
def short : List String :=
  ["(", ")", "[", "]", "\x7b", "\x7d", ".", ",", ";", "?", ":", "-", "+", "!", "~", "|", "^", "&",
    "<", ">", "*", "/", "%"]

/-- The longest sign that a text begins with. -/
def first (text : List Char) : List Char :=
  if String.ofList (text.take 3) ∈ long then text.take 3
  else if String.ofList (text.take 2) ∈ long then text.take 2
  else text.take 1

end Sign

/-- The tokens of a text. -/
def tokenize : List Char → List String
  | [] => []
  | c :: cs =>
    if isBlank c then tokenize cs
    else if isWordChar c then
      String.ofList ((c :: cs).takeWhile isWordChar) :: tokenize (cs.dropWhile isWordChar)
    else
      String.ofList (Sign.first (c :: cs)) :: tokenize (cs.drop ((Sign.first (c :: cs)).length - 1))
  termination_by text => text.length
  decreasing_by
    · simp
    · exact Nat.lt_succ_of_le (List.dropWhile_suffix _).length_le
    · simp only [List.length_drop, List.length_cons]
      omega

/-! ### Where tokens end -/

/-- The sign does not go on with what stands after it. -/
def Sign.Apart (sign : String) (rest : List Char) : Prop :=
  ∀ c ∈ rest.head?, ∀ s ∈ long, ¬ sign.toList ++ [c] <+: s.toList

variable {rest : List Char}

theorem tokenize_blank {c : Char} (h : isBlank c = true) (cs : List Char) :
    tokenize (c :: cs) = tokenize cs := by
  rw [tokenize, if_pos h]

theorem tokenize_word {word : String} (hword : isWord word = true) (hrest : Detached rest) :
    tokenize (word.toList ++ rest) = word :: tokenize rest := by
  obtain ⟨hne, hall⟩ := isWord_iff.mp hword
  obtain ⟨c, cs, hcs⟩ := List.exists_cons_of_ne_nil hne
  have hc : isWordChar c = true := hall c (by simp [hcs])
  have hblank : isBlank c = false := by
    cases hb : isBlank c with
    | false => rfl
    | true =>
      obtain rfl | rfl : c = ' ' ∨ c = '\n' := by simpa [isBlank] using hb
      · exact absurd hc (by decide)
      · exact absurd hc (by decide)
  have hcsword : ∀ d ∈ cs, isWordChar d = true := fun d hd => hall d (by simp [hcs, hd])
  rw [hcs, List.cons_append, tokenize, if_neg (by simp [hblank]), if_pos hc, ← List.cons_append,
    ← hcs, takeWhile_word hall hrest, dropWhile_word hcsword hrest, String.ofList_toList]

namespace Sign

theorem length_cases : ∀ s ∈ long ++ short,
    s.toList.length = 1 ∨ s ∈ long ∧ (s.toList.length = 2 ∨ s.toList.length = 3) := by
  decide

/-- A sign before what it does not go on with is the longest sign. -/
theorem first_append {sign : String} (hsign : sign ∈ long ++ short) (hrest : Apart sign rest) :
    first (sign.toList ++ rest) = sign.toList := by
  have htake {k : Nat} (hk : sign.toList.length = k) :
      (sign.toList ++ rest).take k = sign.toList := List.take_left' hk
  have hlonger {k : Nat} (hk : sign.toList.length < k)
      (h : String.ofList ((sign.toList ++ rest).take k) ∈ long) :
      (sign.toList ++ rest).take k = sign.toList := by
    cases rest with
    | nil => rw [List.append_nil, List.take_of_length_le (Nat.le_of_lt hk)]
    | cons c cs =>
      refine absurd ?_ (hrest c rfl _ h)
      rw [String.toList_ofList, List.prefix_take_iff]
      exact ⟨by simp, by rw [List.length_append]; exact hk⟩
  rw [first]
  obtain hone | ⟨hlong, htwo | hthree⟩ := length_cases sign hsign
  · split
    · exact hlonger (by omega) ‹_›
    · split
      · exact hlonger (by omega) ‹_›
      · exact htake hone
  · split
    · exact hlonger (by omega) ‹_›
    · rw [htake htwo, String.ofList_toList, if_pos hlong]
  · rw [htake hthree, String.ofList_toList, if_pos hlong]

theorem tokenize_sign {sign : String} (hsign : sign ∈ long ++ short) (hrest : Apart sign rest) :
    tokenize (sign.toList ++ rest) = sign :: tokenize rest := by
  have hhead : ∀ s ∈ long ++ short,
      s.toList.head?.any (fun c => !isBlank c && !isWordChar c) = true := by
    decide
  obtain ⟨c, hc, hplain⟩ := (Option.any_eq_true _ _).mp (hhead sign hsign)
  obtain ⟨hblank, hword⟩ : isBlank c = false ∧ isWordChar c = false := by simpa using hplain
  obtain ⟨cs, hcs⟩ := List.head?_eq_some_iff.mp hc
  have hfirst := first_append hsign hrest
  rw [hcs, List.cons_append] at hfirst ⊢
  rw [tokenize, if_neg (by simp [hblank]), if_neg (by simp [hword]), hfirst, ← hcs,
    String.ofList_toList, hcs, List.length_cons, Nat.add_sub_cancel, List.drop_left]

/-! ### Signs that end -/

/-- A sign that begins no other ends whatever stands after it. -/
theorem Apart.of_maximal {sign : String} (h : ∀ s ∈ long, sign.toList <+: s.toList → s = sign)
    (rest : List Char) : Apart sign rest := by
  intro c _ s hs hbegins
  obtain rfl := h s hs ((List.prefix_append _ _).trans hbegins)
  exact absurd hbegins.length_le (by simp)

/-- A sign ends before a character that occurs in no sign of several. -/
theorem Apart.of_foreign (sign : String) {c : Char} (hc : rest.head? = some c)
    (h : ∀ s ∈ long, c ∉ s.toList) : Apart sign rest := by
  intro d hd s hs hbegins
  obtain rfl : d = c := Option.some.inj (hd.symm.trans hc)
  exact h s hs (hbegins.subset (by simp))

/-- A sign that begins no other is a token whatever stands after it. -/
theorem tokenize_mark (mark : String) (hmark : mark ∈ long ++ short)
    (h : ∀ s ∈ long, mark.toList <+: s.toList → s = mark) (rest : List Char) :
    tokenize (mark.toList ++ rest) = mark :: tokenize rest :=
  tokenize_sign hmark (.of_maximal h rest)

theorem notMem_of_wordChar {c : Char} (h : isWordChar c = true) : ∀ s ∈ long, c ∉ s.toList := by
  have hsigns : ∀ s ∈ long, s.toList.all (!isWordChar ·) = true := by decide
  intro s hs hc
  have hother := List.all_eq_true.mp (hsigns s hs) c hc
  rw [h] at hother
  cases hother

end Sign

end TypeGuard
