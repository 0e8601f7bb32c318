import Mathlib.Data.List.Infix
import TypeGuard.Diagnostic

/-!
# Filled templates

The holes of a template are filled one after the other, each in the text that the earlier ones left.
So a hole that an argument brings in, or completes, is filled too. `Diagnostic.fill_inserts` says
when every argument is left as it is: where the earlier ones meet no later hole, and for all
arguments exactly if the template has no hole but the last.
-/

namespace TypeGuard

/-! ### Replacing in parts of a text -/

namespace Text

variable {pattern new a t : List Char}

theorem replaceFrom_skip (h : a.length = k) :
    replaceFrom pattern new k (a ++ t) = replaceFrom pattern new 0 t := by
  induction a generalizing k with
  | nil =>
    subst h
    rfl
  | cons c a ih =>
    subst h
    exact ih rfl

/-- An occurrence at the front is replaced. -/
theorem replaceFrom_pattern (h : pattern ≠ []) :
    replaceFrom pattern new 0 (pattern ++ t) = new ++ replaceFrom pattern new 0 t := by
  obtain ⟨c, cs, rfl⟩ := List.exists_cons_of_ne_nil h
  have hfront : (c :: cs).isPrefixOf (c :: (cs ++ t)) = true := by simp
  rw [List.cons_append, replaceFrom, if_pos hfront, List.length_cons, Nat.add_sub_cancel,
    replaceFrom_skip rfl]

/-- A part in which no occurrence begins stays as it is. -/
theorem replaceFrom_append (h : ∀ k < a.length, ¬ pattern <+: a.drop k ++ t) :
    replaceFrom pattern new 0 (a ++ t) = a ++ replaceFrom pattern new 0 t := by
  induction a with
  | nil => rfl
  | cons c a ih =>
    have hfront : ¬ pattern.isPrefixOf (c :: (a ++ t)) = true := by
      rw [List.isPrefixOf_iff_prefix]
      exact h 0 (Nat.zero_lt_succ _)
    rw [List.cons_append, replaceFrom, if_neg hfront, List.cons_append, ih]
    intro k hk
    exact h (k + 1) (Nat.succ_lt_succ hk)

/-- In some text around `a`, an occurrence of the word begins within `a`. -/
def BeginsIn (word a : List Char) : Prop := ∃ k < a.length, ∃ after, word <+: a.drop k ++ after

/-- In some text around `a`, an occurrence of the word begins before `a` and does not end before
it. -/
def ReachesInto (word a : List Char) : Prop :=
  ∃ before after, before ≠ [] ∧ before.length < word.length ∧ word <+: before ++ (a ++ after)

/-- In some text around `a`, an occurrence of the word shares characters with `a` or goes on on both
sides of it. -/
def Meets (word a : List Char) : Prop := BeginsIn word a ∨ ReachesInto word a

/-- A word that occurs in a text begins in the first part of it or occurs in the rest. -/
theorem beginsIn_or_infix (h : pattern <:+: a ++ t) : BeginsIn pattern a ∨ pattern <:+: t := by
  obtain ⟨before, after, heq⟩ := h
  rw [List.append_assoc] at heq
  by_cases hlength : before.length < a.length
  · left
    refine ⟨before.length, hlength, t, ⟨after, ?_⟩⟩
    have hdrop := congrArg (List.drop before.length) heq
    rwa [List.drop_left, List.drop_append_of_le_length (Nat.le_of_lt hlength)] at hdrop
  · right
    obtain ⟨between, rfl⟩ : a <+: before :=
      List.prefix_of_prefix_length_le ⟨t, heq.symm⟩ (List.prefix_append _ _) (Nat.not_lt.mp hlength)
    rw [List.append_assoc, List.append_cancel_left_eq] at heq
    exact ⟨between, after, by rw [← heq, List.append_assoc]⟩

end Text

namespace Diagnostic

open Text (replaceFrom BeginsIn ReachesInto Meets)

/-! ### Holes -/

theorem hole_toList (i : Nat) :
    (hole i).toList = '\x7b' :: (Nat.toDigits 10 i ++ ['\x7d']) := by
  simp [hole, Nat.toString_eq_repr, Nat.toList_repr]

theorem hole_ne_nil (i : Nat) : (hole i).toList ≠ [] := by simp [hole_toList]

theorem brace_not_mem {i : Nat} : '\x7b' ∉ Nat.toDigits 10 i ++ ['\x7d'] := by
  intro h
  rw [List.mem_append, List.mem_singleton] at h
  rcases h with h | h
  · have hdigit := Nat.isDigit_of_mem_toDigits (by decide) (by decide) h
    revert hdigit
    decide
  · revert h
    decide

/-- No hole goes on as another one. -/
theorem eq_of_prefix_of_hole {i j : Nat} {t : List Char}
    (h : (hole i).toList <+: (hole j).toList ++ t) : i = j := by
  obtain ⟨s, hs⟩ := h
  simp only [hole_toList, List.cons_append, List.append_assoc, List.nil_append,
    List.cons.injEq, true_and] at hs
  have hdigits (k : Nat) (u : List Char) :
      (Nat.toDigits 10 k ++ '\x7d' :: u).takeWhile Char.isDigit = Nat.toDigits 10 k := by
    rw [List.takeWhile_append_of_pos, List.takeWhile_cons_of_neg (by decide), List.append_nil]
    intro c hc
    exact Nat.isDigit_of_mem_toDigits (by decide) (by decide) hc
  have hread (k : Nat) : Nat.ofDigitChars 10 (Nat.toDigits 10 k) 0 = k :=
    Nat.ofDigitChars_toDigits (by decide) (by decide)
  rw [← hread i, ← hdigits i s, hs, hdigits j t, hread j]

theorem not_beginsIn_hole {i j : Nat} (h : i ≠ j) :
    ¬ BeginsIn (hole i).toList (hole j).toList := by
  rintro ⟨k, hk, after, hbegins⟩
  cases k with
  | zero => exact h (eq_of_prefix_of_hole hbegins)
  | succ k =>
    -- behind its front a hole has no opening brace, with which another one could begin
    rw [hole_toList j, List.length_cons, Nat.succ_lt_succ_iff] at hk
    rw [hole_toList j, List.drop_succ_cons, List.drop_eq_getElem_cons hk, hole_toList i,
      List.cons_append, List.cons_prefix_cons] at hbegins
    apply brace_not_mem (i := j)
    rw [hbegins.1]
    exact List.getElem_mem hk

theorem not_reachesInto_hole (i j : Nat) : ¬ ReachesInto (hole i).toList (hole j).toList := by
  rintro ⟨before, after, hne, hlength, hbegins⟩
  obtain ⟨b, bs, rfl⟩ := List.exists_cons_of_ne_nil hne
  rw [hole_toList i, List.length_cons, List.length_cons, Nat.succ_lt_succ_iff] at hlength
  rw [hole_toList i, hole_toList j, List.cons_append, List.cons_prefix_cons] at hbegins
  apply brace_not_mem (i := i)
  have hat := hbegins.2.getElem hlength
  rw [List.getElem_append_right (Nat.le_refl _)] at hat
  simp only [Nat.sub_self, List.cons_append, List.getElem_cons_zero] at hat
  rw [← hat]
  exact List.getElem_mem hlength

/-- A text without braces that is more than digits meets no hole. -/
theorem not_meets_hole {a : List Char} (hopen : '\x7b' ∉ a) (hclose : '\x7d' ∉ a)
    (hdigits : ∃ c ∈ a, c.isDigit = false) (i : Nat) : ¬ Meets (hole i).toList a := by
  rintro (⟨k, hk, after, hbegins⟩ | ⟨before, after, hne, hlength, hbegins⟩)
  · rw [List.drop_eq_getElem_cons hk, hole_toList, List.cons_append, List.cons_prefix_cons]
      at hbegins
    apply hopen
    rw [hbegins.1]
    exact List.getElem_mem hk
  · obtain ⟨b, bs, rfl⟩ := List.exists_cons_of_ne_nil hne
    rw [hole_toList, List.length_cons, List.length_cons, Nat.succ_lt_succ_iff] at hlength
    rw [hole_toList, List.cons_append, List.cons_prefix_cons] at hbegins
    rw [List.length_append, List.length_singleton, Nat.lt_succ_iff] at hlength
    have hrest := hbegins.2.drop bs.length
    rw [List.drop_left, List.drop_append_of_le_length hlength] at hrest
    -- the rest of the hole has only digits before its closing brace
    rcases List.prefix_or_prefix_of_prefix hrest (List.prefix_append a after) with hin | hin
    · exact hclose (hin.subset (by simp))
    · obtain ⟨c, hc, hnot⟩ := hdigits
      have hmem := hin.subset hc
      rw [List.mem_append, List.mem_singleton] at hmem
      rcases hmem with hmem | rfl
      · have hdigit :=
          Nat.isDigit_of_mem_toDigits (by decide) (by decide) (List.mem_of_mem_drop hmem)
        rw [hnot] at hdigit
        cases hdigit
      · exact hclose hc

/-! ### Parts of a template -/

/-- A part of a template. -/
inductive Part where
  | char (c : Char)
  | hole (i : Nat)

/-- The number of the hole at the front of a text, below a bound. -/
def holeAt? (n : Nat) (cs : List Char) : Option Nat :=
  (List.range n).find? fun i => (hole i).toList.isPrefixOf cs

/-- The parts of a text after its first `skip` characters, with the holes below `n`. -/
def partsFrom (n : Nat) : Nat → List Char → List Part
  | _, [] => []
  | skip + 1, _ :: cs => partsFrom n skip cs
  | 0, c :: cs =>
    match holeAt? n (c :: cs) with
    | some i => .hole i :: partsFrom n ((hole i).length - 1) cs
    | none => .char c :: partsFrom n 0 cs

/-- The text of parts, with a text for every hole. -/
def textOf (value : Nat → List Char) (ps : List Part) : List Char :=
  ps.flatMap fun
    | .char c => [c]
    | .hole i => value i

/-- What stands for a hole: its argument, or the hole itself. -/
def valueOf (args : List String) (i : Nat) : List Char := (args.getD i (hole i)).toList

/-- The template with the argument in the place of every hole, and all else unchanged. -/
def insert (template : String) (args : List String) : String :=
  String.ofList (textOf (valueOf args) (partsFrom args.length 0 template.toList))

/-- The hole occurs in the template. -/
def HasHole (template : String) (i : Nat) : Prop := (hole i).toList <:+: template.toList

/-- A text consists of parts, of which a character is none of the beginning of a hole. -/
inductive Reads (n : Nat) : List Char → List Part → Prop where
  | nil : Reads n [] []
  | atHole {i rest ps} : i < n → Reads n rest ps → Reads n ((hole i).toList ++ rest) (.hole i :: ps)
  | atChar {c rest ps} : (∀ i < n, ¬ (hole i).toList <+: c :: rest) → Reads n rest ps →
      Reads n (c :: rest) (.char c :: ps)

variable {n k i : Nat} {cs : List Char} {ps : List Part} {value : Nat → List Char}

theorem holeAt?_eq_some (h : holeAt? n cs = some i) : i < n ∧ (hole i).toList <+: cs := by
  have hfound : (List.range n).find? (fun i => (hole i).toList.isPrefixOf cs) = some i := h
  have hfront := List.find?_some hfound
  constructor
  · exact List.mem_range.mp (List.mem_of_find?_eq_some h)
  · exact List.isPrefixOf_iff_prefix.mp hfront

theorem not_prefix_of_holeAt? (h : holeAt? n cs = none) :
    ∀ i < n, ¬ (hole i).toList <+: cs := by
  intro i hi hbegins
  have hnot := List.find?_eq_none.mp h i (List.mem_range.mpr hi)
  exact hnot (List.isPrefixOf_iff_prefix.mpr hbegins)

theorem reads_partsFrom (n skip : Nat) (cs : List Char) :
    Reads n (cs.drop skip) (partsFrom n skip cs) := by
  induction cs generalizing skip with
  | nil =>
    rw [List.drop_nil, partsFrom]
    exact .nil
  | cons c cs ih =>
    cases skip with
    | succ skip => exact ih skip
    | zero =>
      rw [List.drop_zero, partsFrom]
      cases hat : holeAt? n (c :: cs) with
      | none => exact .atChar (not_prefix_of_holeAt? hat) (ih 0)
      | some i =>
        obtain ⟨hi, rest, hrest⟩ := holeAt?_eq_some hat
        have hdrop : cs.drop ((hole i).length - 1) = rest := by
          have htail : cs = Nat.toDigits 10 i ++ ['\x7d'] ++ rest := by
            rw [hole_toList] at hrest
            exact (List.cons.inj hrest).2.symm
          rw [htail, ← String.length_toList, hole_toList, List.length_cons, Nat.add_sub_cancel,
            List.drop_left]
        have hreads := ih ((hole i).length - 1)
        rw [hdrop] at hreads
        rw [← hrest]
        exact .atHole hi hreads

@[simp] theorem textOf_nil : textOf value [] = [] := rfl

@[simp] theorem textOf_hole : textOf value (.hole i :: ps) = value i ++ textOf value ps := rfl

@[simp] theorem textOf_char {c : Char} : textOf value (.char c :: ps) = c :: textOf value ps := rfl

theorem textOf_congr {value' : Nat → List Char} (h : ∀ i, .hole i ∈ ps → value i = value' i) :
    textOf value ps = textOf value' ps := by
  apply List.flatMap_congr
  intro p hp
  cases p with
  | char c => rfl
  | hole i => exact h i hp

theorem Reads.text_eq (h : Reads n cs ps) : cs = textOf (fun i => (hole i).toList) ps := by
  induction h with
  | nil => rfl
  | atHole _ _ ih => rw [textOf_hole, ← ih]
  | atChar _ _ ih => rw [textOf_char, ← ih]

/-- A word that begins in front of the text of parts and reaches into none of the values begins
there in the text that the parts were read from too. -/
theorem Reads.prefix_of_textOf {word before : List Char} (h : Reads n cs ps)
    (hvalue : ∀ i, .hole i ∈ ps → ¬ ReachesInto word (value i)) (hne : before ≠ [])
    (hlength : before.length < word.length) (hbegins : word <+: before ++ textOf value ps) :
    word <+: before ++ cs := by
  induction h generalizing before with
  | nil => exact hbegins
  | @atHole i rest ps _ _ _ =>
    exact absurd ⟨before, _, hne, hlength, hbegins⟩ (hvalue i (List.mem_cons_self ..))
  | @atChar c rest ps _ _ ih =>
    rw [textOf_char, List.append_cons] at hbegins
    rw [List.append_cons]
    by_cases hlast : (before ++ [c]).length < word.length
    · exact ih (fun i hi => hvalue i (List.mem_cons_of_mem _ hi)) (by simp) hlast hbegins
    · -- the word ends with this character
      have hend : word <+: before ++ [c] :=
        List.prefix_of_prefix_length_le hbegins (List.prefix_append _ _) (by omega)
      exact hend.trans (List.prefix_append _ _)

/-- Replacing a hole in the text of parts replaces the values that are the hole, if it meets no
other value. -/
theorem Reads.replaceFrom_textOf {new : List Char} (h : Reads n cs ps) (hk : k < n)
    (hvalue : ∀ i, .hole i ∈ ps →
      value i = (hole k).toList ∨ ¬ Meets (hole k).toList (value i)) :
    replaceFrom (hole k).toList new 0 (textOf value ps) =
      textOf (fun i => if value i = (hole k).toList then new else value i) ps := by
  induction h with
  | nil => rfl
  | @atHole i rest ps _ _ ih =>
    have hrest := ih fun j hj => hvalue j (List.mem_cons_of_mem _ hj)
    rw [textOf_hole, textOf_hole, ← hrest]
    by_cases hi : value i = (hole k).toList
    · rw [hi, if_pos rfl, Text.replaceFrom_pattern (hole_ne_nil k)]
    · rw [if_neg hi]
      obtain heq | hmeets := hvalue i (List.mem_cons_self ..)
      · exact absurd heq hi
      · apply Text.replaceFrom_append
        intro m hm hbegins
        exact hmeets (.inl ⟨m, hm, _, hbegins⟩)
  | @atChar c rest ps hc hreads ih =>
    have hothers : ∀ i, .hole i ∈ ps →
        value i = (hole k).toList ∨ ¬ Meets (hole k).toList (value i) :=
      fun j hj => hvalue j (List.mem_cons_of_mem _ hj)
    have hfront : ¬ (hole k).toList <+: [c] ++ textOf value ps := by
      intro hbegins
      refine hc k hk (hreads.prefix_of_textOf ?_ (by simp) ?_ hbegins)
      · intro i hi hreaches
        obtain heq | hmeets := hothers i hi
        · rw [heq] at hreaches
          exact not_reachesInto_hole k k hreaches
        · exact hmeets (.inr hreaches)
      · simp [hole_toList]
    rw [textOf_char, textOf_char, ← ih hothers]
    show replaceFrom (hole k).toList new 0 ([c] ++ textOf value ps) =
      [c] ++ replaceFrom (hole k).toList new 0 (textOf value ps)
    apply Text.replaceFrom_append
    simpa using hfront

theorem Reads.hole_lt (h : Reads n cs ps) (hi : .hole i ∈ ps) : i < n := by
  induction h with
  | nil => cases hi
  | atHole hj _ ih =>
    rcases List.mem_cons.mp hi with heq | hi
    · cases heq
      exact hj
    · exact ih hi
  | atChar _ _ ih =>
    rcases List.mem_cons.mp hi with heq | hi
    · cases heq
    · exact ih hi

/-- The holes among the parts are those that occur in the text. -/
theorem Reads.hole_mem_iff (h : Reads n cs ps) (hi : i < n) :
    .hole i ∈ ps ↔ (hole i).toList <:+: cs := by
  constructor
  · intro hmem
    induction h with
    | nil => cases hmem
    | atHole _ _ ih =>
      rcases List.mem_cons.mp hmem with heq | hmem
      · cases heq
        exact (List.prefix_append _ _).isInfix
      · exact (ih hmem).trans (List.suffix_append _ _).isInfix
    | atChar _ _ ih =>
      rcases List.mem_cons.mp hmem with heq | hmem
      · cases heq
      · exact List.infix_cons (ih hmem)
  · intro hinfix
    induction h with
    | nil => exact absurd (List.infix_nil.mp hinfix) (hole_ne_nil i)
    | @atHole j rest ps _ _ ih =>
      by_cases heq : i = j
      · rw [heq]
        exact List.mem_cons_self ..
      · rcases Text.beginsIn_or_infix hinfix with hbegins | hinfix
        · exact absurd hbegins (not_beginsIn_hole heq)
        · exact List.mem_cons_of_mem _ (ih hinfix)
    | atChar hc _ ih =>
      rcases List.infix_cons_iff.mp hinfix with hbegins | hinfix
      · exact absurd hbegins (hc i hi)
      · exact List.mem_cons_of_mem _ (ih hinfix)

/-! ### Rounds -/

theorem replace_toList (k : Nat) (new text : String) :
    (Text.replace (hole k) new text).toList =
      replaceFrom (hole k).toList new.toList 0 text.toList := by
  simp [Text.replace]

theorem hole_inj {i j : Nat} (h : (hole i).toList = (hole j).toList) : i = j :=
  eq_of_prefix_of_hole (t := []) (by rw [h, List.append_nil])

theorem meets_self (i : Nat) : Meets (hole i).toList (hole i).toList := by
  left
  exact ⟨0, by simp [hole_toList], [], by simp⟩

theorem not_meets_other {i j : Nat} (h : i ≠ j) : ¬ Meets (hole i).toList (hole j).toList := by
  rintro (hbegins | hreaches)
  · exact not_beginsIn_hole h hbegins
  · exact not_reachesInto_hole i j hreaches

variable {template : String} {args : List String} {Inv : Nat → (Nat → List Char) → Prop}

/-- Every round replaces nothing but whole values, and keeps the invariant of the values. -/
def RoundsKeep (args : List String) (ps : List Part)
    (Inv : Nat → (Nat → List Char) → Prop) : Prop :=
  ∀ k value, ∀ hk : k < args.length, Inv k value →
    (∀ i, .hole i ∈ ps → value i = (hole k).toList ∨ ¬ Meets (hole k).toList (value i)) ∧
    Inv (k + 1) fun i => if value i = (hole k).toList then args[k].toList else value i

theorem exists_fillFrom_eq_textOf (hreads : Reads args.length template.toList ps)
    (hrounds : RoundsKeep args ps Inv) (k : Nat) (text : String) (value : Nat → List Char)
    (hk : k ≤ args.length) (hvalue : Inv k value) (htext : text.toList = textOf value ps) :
    ∃ value, Inv args.length value ∧
      (fillFrom k text (args.drop k)).toList = textOf value ps := by
  obtain rfl | hlt := Nat.eq_or_lt_of_le hk
  · rw [List.drop_length]
    exact ⟨value, hvalue, htext⟩
  · obtain ⟨hmeets, hnext⟩ := hrounds k value hlt hvalue
    rw [List.drop_eq_getElem_cons hlt, fillFrom]
    apply exists_fillFrom_eq_textOf hreads hrounds (k + 1) _ _ hlt hnext
    rw [replace_toList, htext, hreads.replaceFrom_textOf hlt hmeets]
termination_by args.length - k

/-- The filled template has the parts of the template, with values as the rounds leave them. -/
theorem exists_fill_eq_textOf (hreads : Reads args.length template.toList ps)
    (hrounds : RoundsKeep args ps Inv) (hstart : Inv 0 fun i => (hole i).toList) :
    ∃ value, Inv args.length value ∧ (fill template args).toList = textOf value ps :=
  exists_fillFrom_eq_textOf hreads hrounds 0 template _ (Nat.zero_le _) hstart hreads.text_eq

/-- The first `k` arguments are in their places, and the other holes are as they were. -/
def Placed (args : List String) (ps : List Part) (k : Nat) (value : Nat → List Char) : Prop :=
  ∀ i, .hole i ∈ ps → value i = if i < k then valueOf args i else (hole i).toList

theorem roundsKeep_placed (hreads : Reads args.length template.toList ps)
    (h : ∀ i j, i < j → j < args.length → HasHole template i →
      ¬ Meets (hole j).toList (valueOf args i)) : RoundsKeep args ps (Placed args ps) := by
  intro k value hk hvalue
  have hmeets (i : Nat) (hi : .hole i ∈ ps) (hlt : i < k) :
      ¬ Meets (hole k).toList (valueOf args i) :=
    h i k hlt hk ((hreads.hole_mem_iff (hreads.hole_lt hi)).mp hi)
  constructor
  · intro i hi
    rw [hvalue i hi]
    split
    · right
      exact hmeets i hi ‹i < k›
    · by_cases heq : k = i
      · left
        rw [heq]
      · right
        exact not_meets_other heq
  · intro i hi
    simp only [hvalue i hi]
    rcases Nat.lt_trichotomy i k with hlt | rfl | hgt
    · have hne : valueOf args i ≠ (hole k).toList := by
        intro heq
        exact hmeets i hi hlt (heq ▸ meets_self k)
      rw [if_pos hlt, if_neg hne, if_pos (by omega)]
    · rw [if_neg (Nat.lt_irrefl i), if_pos rfl, if_pos (Nat.lt_succ_self i)]
      simp [valueOf, hk]
    · have hne : (hole i).toList ≠ (hole k).toList := by
        intro heq
        exact absurd (hole_inj heq) (by omega)
      rw [if_neg (Nat.lt_asymm hgt), if_neg hne, if_neg (by omega)]

/-- Arguments that meet no later hole are put into their places. -/
theorem fill_eq_insert (h : ∀ i j, i < j → j < args.length → HasHole template i →
      ¬ Meets (hole j).toList (valueOf args i)) : fill template args = insert template args := by
  have hreads := reads_partsFrom args.length 0 template.toList
  rw [List.drop_zero] at hreads
  obtain ⟨value, hvalue, hfill⟩ := exists_fill_eq_textOf hreads (roundsKeep_placed hreads h)
    fun i _ => by rw [if_neg (Nat.not_lt_zero i)]
  apply String.toList_inj.mp
  rw [hfill, insert, String.toList_ofList]
  apply textOf_congr
  intro i hi
  rw [hvalue i hi, if_pos (hreads.hole_lt hi)]

/-! ### Arbitrary arguments -/

/-- Every hole is the letter `x` by now, or a hole of a later round. -/
def Lettered (n : Nat) (ps : List Part) (k : Nat) (value : Nat → List Char) : Prop :=
  ∀ i, .hole i ∈ ps → value i = ['x'] ∨ ∃ m, k ≤ m ∧ m < n ∧ value i = (hole m).toList

/-- Arguments that are all `x`, but for one that is the next hole. -/
def forwarding (n i : Nat) : List String := (List.replicate n "x").set i (hole (i + 1))

theorem length_forwarding (n i : Nat) : (forwarding n i).length = n := by simp [forwarding]

theorem not_meets_letter (k : Nat) : ¬ Meets (hole k).toList ['x'] :=
  not_meets_hole (by decide) (by decide) ⟨'x', by decide, by decide⟩ k

theorem roundsKeep_lettered (hi : i + 1 < n) :
    RoundsKeep (forwarding n i) ps (Lettered n ps) := by
  intro k value hk hvalue
  rw [length_forwarding] at hk
  constructor
  · intro j hj
    rcases hvalue j hj with hletter | ⟨m, -, -, hhole⟩
    · right
      rw [hletter]
      exact not_meets_letter k
    · by_cases heq : k = m
      · left
        rw [hhole, heq]
      · right
        rw [hhole]
        exact not_meets_other heq
  · intro j hj
    simp only
    rcases hvalue j hj with hletter | ⟨m, hkm, hm, hhole⟩
    · left
      rw [hletter, if_neg]
      intro heq
      exact not_meets_letter k (heq ▸ meets_self k)
    · by_cases heq : k = m
      · rw [hhole, if_pos (by rw [heq])]
        by_cases hki : i = k
        · right
          exact ⟨i + 1, by omega, hi, by simp [forwarding, hki]⟩
        · left
          simp [forwarding, List.getElem_set_ne hki]
      · right
        refine ⟨m, by omega, hm, ?_⟩
        rw [hhole, if_neg]
        intro h
        exact heq (hole_inj h).symm

theorem length_textOf_le {value' : Nat → List Char}
    (h : ∀ i, .hole i ∈ ps → (value i).length ≤ (value' i).length) :
    (textOf value ps).length ≤ (textOf value' ps).length := by
  induction ps with
  | nil => exact Nat.le_refl _
  | cons p ps ih =>
    have hrest := ih fun i hi => h i (List.mem_cons_of_mem _ hi)
    cases p with
    | char c => simpa using hrest
    | hole i =>
      have hfirst := h i (List.mem_cons_self ..)
      simp only [textOf_hole, List.length_append]
      omega

theorem length_textOf_lt {value' : Nat → List Char} (hi : .hole i ∈ ps)
    (hlt : (value i).length < (value' i).length)
    (h : ∀ i, .hole i ∈ ps → (value i).length ≤ (value' i).length) :
    (textOf value ps).length < (textOf value' ps).length := by
  obtain ⟨before, after, rfl⟩ := List.append_of_mem hi
  have hbefore : (textOf value before).length ≤ (textOf value' before).length :=
    length_textOf_le fun j hj => h j (List.mem_append_left _ hj)
  have hafter : (textOf value after).length ≤ (textOf value' after).length :=
    length_textOf_le fun j hj => h j (List.mem_append_right _ (List.mem_cons_of_mem _ hj))
  simp only [textOf, List.flatMap_append, List.flatMap_cons, List.length_append] at *
  omega

theorem valueOf_forwarding_self (hi : i < n) :
    valueOf (forwarding n i) i = (hole (i + 1)).toList := by
  simp [valueOf, forwarding, hi]

theorem valueOf_forwarding_pos {j : Nat} (hj : j < n) :
    0 < (valueOf (forwarding n i) j).length := by
  by_cases h : i = j
  · rw [h, valueOf_forwarding_self hj, hole_toList]
    simp
  · simp [valueOf, forwarding, h, hj]

/-- A hole that is put in for another one is filled in the next round. -/
theorem fill_forwarding_ne (hi : i + 1 < n) (h : HasHole template i) :
    fill template (forwarding n i) ≠ insert template (forwarding n i) := by
  have hreads := reads_partsFrom (forwarding n i).length 0 template.toList
  rw [List.drop_zero] at hreads
  have hmem : .hole i ∈ partsFrom (forwarding n i).length 0 template.toList :=
    (hreads.hole_mem_iff (by rw [length_forwarding]; omega)).mpr h
  obtain ⟨value, hvalue, hfill⟩ := exists_fill_eq_textOf hreads (roundsKeep_lettered hi)
    (by
      intro j hj
      right
      exact ⟨j, Nat.zero_le _, length_forwarding n i ▸ hreads.hole_lt hj, rfl⟩)
  have hletter (j : Nat) (hj : .hole j ∈ partsFrom (forwarding n i).length 0 template.toList) :
      (value j).length = 1 := by
    rcases hvalue j hj with hletter | ⟨m, hle, hlt, -⟩
    · rw [hletter, List.length_singleton]
    · rw [length_forwarding] at hle
      omega
  intro heq
  have hlength := congrArg (fun s => s.toList.length) heq
  simp only [hfill, insert, String.toList_ofList] at hlength
  refine absurd hlength (Nat.ne_of_lt (length_textOf_lt hmem ?_ ?_))
  · rw [hletter i hmem, valueOf_forwarding_self (by omega), hole_toList]
    simp
  · intro j hj
    rw [hletter j hj]
    have hlt := hreads.hole_lt hj
    rw [length_forwarding] at hlt
    exact valueOf_forwarding_pos hlt

/-- A template is filled with arguments as they are, if none whose hole occurs in it meets a later
hole. It is filled so with all lists of `n` arguments exactly if no hole but the last occurs in
it. -/
theorem fill_inserts (template : String) :
    (∀ args : List String,
      (∀ i j, i < j → j < args.length → HasHole template i →
        ¬ Meets (hole j).toList (valueOf args i)) →
      fill template args = insert template args) ∧
    ∀ n, (∀ args : List String, args.length = n → fill template args = insert template args) ↔
      ∀ i, i + 1 < n → ¬ HasHole template i := by
  constructor
  · intro args h
    exact fill_eq_insert h
  · intro n
    constructor
    · intro h i hi hhole
      exact fill_forwarding_ne hi hhole (h _ (length_forwarding n i))
    · rintro h args rfl
      apply fill_eq_insert
      intro i j hij hj hhole
      exact absurd hhole (h i (by omega))

/-- The message for a list type with a wrong number of arguments, which may itself look like a
hole. -/
theorem listArity_inserted :
    let template := "Unsupported \x7b0\x7d type annotation: incorrect number of type parameters " ++
      "(expected 1, got \x7b1\x7d)"
    fill template ["Array", "\x7b0\x7d"] = insert template ["Array", "\x7b0\x7d"] ∧
      insert template ["Array", "\x7b0\x7d"] = "Unsupported Array type annotation: incorrect " ++
        "number of type parameters (expected 1, got \x7b0\x7d)" := by
  refine ⟨(fill_inserts _).1 _ ?_, by decide⟩
  intro i j hij hj _
  obtain rfl : i = 0 := by
    simp at hj
    omega
  have harray : valueOf ["Array", "\x7b0\x7d"] 0 = ['A', 'r', 'r', 'a', 'y'] := by decide
  rw [harray]
  exact not_meets_hole (by decide) (by decide) ⟨'A', by decide, by decide⟩ j

/-- An argument that is the next hole, or completes it, is replaced by the next argument. -/
theorem broughtHole_replaced :
    fill "\x7b0\x7d" ["\x7b1\x7d", "x"] = "x" ∧
    insert "\x7b0\x7d" ["\x7b1\x7d", "x"] = "\x7b1\x7d" ∧
    fill "\x7b\x7b0\x7d\x7d" ["1", "x"] = "x" ∧
    insert "\x7b\x7b0\x7d\x7d" ["1", "x"] = "\x7b1\x7d" := by
  decide

end Diagnostic

end TypeGuard
