import Mathlib.Data.List.DropRight
import Mathlib.Data.List.Forall2
import TypeGuard.Proofs.Text.Quoted

/-!
# JSON text read back

A value is read back from its text, on one line and indented, if every number in it is an integer of
64 bits: `scan_text` and `scan_prettyText`. The reader takes the text of a value for the value
however the text goes on, `Scans`, and blanks in front of it do not count. So the texts of the parts
can be put together with commas and blanks between them.
-/

namespace TypeGuard.Json

open Text (escape hexDigit)

/-! ### Integers only -/

mutual
/-- Whether every number in the value is an integer of 64 bits, signed or unsigned. -/
def Integral : Json → Prop
  | int i => -(UInt64.size / 2 : Nat) ≤ i ∧ i < UInt64.size
  | double _ => False
  | arr elems => elemsIntegral elems
  | obj members => membersIntegral members
  | _ => True

def elemsIntegral : List Json → Prop
  | [] => True
  | j :: js => j.Integral ∧ elemsIntegral js

def membersIntegral : List (String × Json) → Prop
  | [] => True
  | (_, j) :: ms => j.Integral ∧ membersIntegral ms
end

/-! ### What follows a value -/

/-- The text does not go on as a number does. -/
def Ends (rest : List Char) : Prop :=
  ∀ c ∈ rest.head?, c.isDigit = false ∧ c ≠ '.' ∧ c ≠ 'e' ∧ c ≠ 'E'

def Blanks (cs : List Char) : Prop := ∀ c ∈ cs, isBlank c = true

theorem Blanks.nil : Blanks [] := nofun

theorem Ends.cons {c : Char} {rest : List Char} (hdigit : c.isDigit = false) (hpoint : c ≠ '.')
    (hsmall : c ≠ 'e') (hcapital : c ≠ 'E') : Ends (c :: rest) := by
  rintro _ ⟨⟩
  exact ⟨hdigit, hpoint, hsmall, hcapital⟩

theorem Blanks.ends {bs rest : List Char} (h : Blanks bs) (hrest : Ends rest) :
    Ends (bs ++ rest) := by
  cases bs with
  | nil => exact hrest
  | cons c bs =>
    have hblank : isBlank c = true := h c List.mem_cons_self
    simp only [isBlank, Bool.or_eq_true, beq_iff_eq] at hblank
    obtain ((rfl | rfl) | rfl) | rfl := hblank <;> exact .cons rfl nofun nofun nofun

@[simp] theorem skipBlanks_append {bs : List Char} (h : Blanks bs) (cs : List Char) :
    skipBlanks (bs ++ cs) = skipBlanks cs :=
  List.dropWhile_append_of_pos h

theorem skipBlanks_cons {c : Char} (h : isBlank c = false) (cs : List Char) :
    skipBlanks (c :: cs) = c :: cs :=
  List.dropWhile_cons_of_neg (by simp [h])

@[simp] theorem skipBlanks_skipBlanks (cs : List Char) :
    skipBlanks (skipBlanks cs) = skipBlanks cs :=
  List.dropWhile_idempotent isBlank cs

/-! ### Strings -/

theorem readEscape_of_controlLetter {c l : Char} (h : controlLetter c = some l)
    (rest : List Char) : readEscape (l :: rest) = some (some c, rest) := by
  unfold controlLetter at h
  split_ifs at h with hbreak hreturn htab hback hfeed <;> cases h
  · rw [hbreak]
    rfl
  · rw [hreturn]
    rfl
  · rw [htab]
    rfl
  -- the letters of characters that are told by their codes
  · rw [← Char.ofNat_toNat c, hback]
    rfl
  · rw [← Char.ofNat_toNat c, hfeed]
    rfl

theorem readCode_hexDigits {c : Char} {m n : Nat} (hm : m < 16) (hn : n < 16)
    (hc : c.toNat = 16 * m + n) (rest : List Char) :
    readCode ('0' :: '0' :: hexDigit m :: hexDigit n :: rest) = some (some c, rest) := by
  have hlow : isLowHalf (16 * m + n) = false := by
    simp only [isLowHalf, Bool.and_eq_false_iff, decide_eq_false_iff_not]
    omega
  have hhigh : isHighHalf (16 * m + n) = false := by
    simp only [isHighHalf, Bool.and_eq_false_iff, decide_eq_false_iff_not]
    omega
  have hchar : Char.ofNat (16 * m + n) = c := by rw [← hc, Char.ofNat_toNat]
  simp [readCode, Text.readHex4_hexDigits hm hn, hlow, hhigh, hchar]

/-- The reader takes the written form of a character for the character. -/
theorem readString_escape (c : Char) (fuel : Nat) (done rest : List Char) :
    readString (fuel + 1) (some done) (escape controlLetter c ++ rest) =
      readString fuel (some (c :: done)) rest := by
  obtain ⟨hform, hquote, hslash, hc⟩ | ⟨l, hform, hl⟩ | ⟨m, hm, n, hn, hform, hc⟩ :=
    Text.escape_forms controlLetter c
  · rw [hform, List.singleton_append, readString, if_neg hquote, if_neg hslash,
      if_neg (Nat.not_lt.mpr hc)]
    rfl
  · have hread : readEscape (l :: rest) = some (some c, rest) := by
      obtain hletter | ⟨rfl, rfl | rfl⟩ := hl
      · exact readEscape_of_controlLetter hletter rest
      · rfl
      · rfl
    rw [hform, List.cons_append, List.singleton_append, readString, if_neg (by decide),
      if_pos rfl, hread]
    rfl
  · have hread : readEscape ('u' :: '0' :: '0' :: hexDigit m :: hexDigit n :: rest) =
        some (some c, rest) := readCode_hexDigits hm hn hc rest
    rw [hform]
    simp only [List.cons_append, List.nil_append]
    rw [readString, if_neg (by decide), if_pos rfl, hread]
    rfl

theorem length_escape_pos (letter : Char → Option Char) (c : Char) :
    0 < (escape letter c).length := by
  obtain ⟨hform, -⟩ | ⟨l, hform, -⟩ | ⟨m, -, n, -, hform, -⟩ := Text.escape_forms letter c <;>
    simp [hform]

/-- A string is read up to its closing quote. -/
theorem readString_flatMap_escape {s : List Char} {fuel : Nat}
    (hfuel : (s.flatMap (escape controlLetter)).length < fuel) (done rest : List Char) :
    readString fuel (some done) (s.flatMap (escape controlLetter) ++ '"' :: rest) =
      some (some (String.ofList (done.reverse ++ s)), rest) := by
  obtain ⟨fuel, rfl⟩ : ∃ n, fuel = n + 1 := ⟨fuel - 1, by omega⟩
  induction s generalizing fuel done with
  | nil => simp [readString]
  | cons c s ih =>
    have hpos := length_escape_pos controlLetter c
    rw [List.flatMap_cons, List.length_append] at hfuel
    obtain ⟨fuel, rfl⟩ : ∃ n, fuel = n + 1 := ⟨fuel - 1, by omega⟩
    rw [List.flatMap_cons, List.append_assoc, readString_escape, ih (c :: done) fuel (by omega),
      List.reverse_cons, List.append_assoc, List.singleton_append]

theorem quoted_toList_append (s : String) (rest : List Char) :
    (quoted s).toList ++ rest =
      '"' :: (s.toList.flatMap (escape controlLetter) ++ '"' :: rest) := by
  simp [quoted, Text.quoteWith]

theorem length_quoted (s : String) :
    (quoted s).toList.length = (s.toList.flatMap (escape controlLetter)).length + 2 := by
  simp [quoted, Text.quoteWith]

/-! ### Numbers -/

theorem readFraction_ends {neg : Bool} {n : Nat} {e : Int} {rest : List Char} (h : Ends rest) :
    readFraction neg n e rest = some (none, rest) := by
  unfold readFraction
  split
  · exact absurd rfl (h _ rfl).2.1
  · exact absurd rfl (h _ rfl).2.2.1
  · exact absurd rfl (h _ rfl).2.2.2
  · rfl

/-- Where 64 bits hold the number, no digit is left. -/
theorem addDigits_eq {cs : List Char} {n : Nat} (h : Nat.ofDigitChars 10 cs n ≤ maxUInt64) :
    addDigits n cs = (Nat.ofDigitChars 10 cs n, cs.length) := by
  induction cs generalizing n with
  | nil => rfl
  | cons c cs ih =>
    have hnext : n * 10 + Double.digitValue c = 10 * n + (c.toNat - '0'.toNat) := by
      rw [Nat.mul_comm]
      rfl
    rw [Nat.ofDigitChars_cons] at h ⊢
    have hgrows : 10 * n + (c.toNat - '0'.toNat) ≤
        Nat.ofDigitChars 10 cs (10 * n + (c.toNat - '0'.toNat)) := by
      rw [Nat.ofDigitChars_eq_ofDigitChars_zero]
      have hpos : 0 < 10 ^ cs.length := Nat.pow_pos (by decide)
      exact Nat.le_add_right_of_le (Nat.le_mul_of_pos_left _ hpos)
    simp only [addDigits, hnext]
    rw [if_neg (by omega), ih h]
    rfl

/-- Only the number zero begins with the digit zero. -/
theorem head?_toDigits {n : Nat} (h : 0 < n) : (Nat.toDigits 10 n).head? ≠ some '0' := by
  induction n using Nat.strongRecOn with
  | ind n ih =>
    by_cases hlt : n < 10
    · rw [Nat.toDigits_of_lt_base hlt]
      simpa using Nat.ne_of_gt h
    · rw [Nat.toDigits_of_base_le (by decide) (by omega), List.head?_append_of_ne_nil _ (by simp)]
      exact ih (n / 10) (by omega) (by omega)

theorem readNumber_toDigits {n : Nat} (hn : n ≤ maxUInt64) (neg : Bool) {rest : List Char}
    (hrest : Ends rest) :
    readNumber neg (Nat.toDigits 10 n ++ rest) = some (ofWhole neg n, rest) := by
  have hdigits : ∀ c ∈ Nat.toDigits 10 n, c.isDigit = true := fun c hc =>
    Nat.isDigit_of_mem_toDigits (by decide) (by decide) hc
  have hvalue : Nat.ofDigitChars 10 (Nat.toDigits 10 n) 0 = n := Nat.ofDigitChars_ten_toDigits
  have hend : rest.takeWhile Char.isDigit = [] ∧ rest.dropWhile Char.isDigit = rest := by
    cases rest with
    | nil => exact ⟨rfl, rfl⟩
    | cons c rest => simp [(hrest c rfl).1]
  have hadd := addDigits_eq (hvalue.le.trans hn)
  simp only [readNumber, List.takeWhile_append_of_pos hdigits, List.dropWhile_append_of_pos hdigits,
    hend, List.append_nil]
  split
  · rename_i hnil
    exact absurd hnil Nat.toDigits_ne_nil
  · rename_i c cs hzero
    -- a number with two digits is not zero
    have hpos : 0 < n := by
      by_contra hnot
      obtain rfl : n = 0 := by omega
      simp at hzero
    exact absurd (by rw [hzero]; rfl) (head?_toDigits hpos)
  · simp [hadd, hvalue, readFraction_ends hrest]

/-! ### Values -/

/-- However the text goes on, the reader takes this beginning for the value. -/
def Scans (cs : List Char) (j : Json) : Prop :=
  ∀ fuel rest, 2 * cs.length ≤ fuel → Ends rest → readValue fuel (cs ++ rest) = some (j, rest)

/-- The reader takes the text for the member, blanks in front of it included. -/
def ScansMember (cs : List Char) (member : String × Json) : Prop :=
  ∃ bs vs, Blanks bs ∧ Scans vs member.2 ∧ cs = bs ++ ((quoted member.1).toList ++ ':' :: vs)

theorem readValue_quote (fuel : Nat) (cs : List Char) :
    readValue (fuel + 1) ('"' :: cs) =
      (readString fuel (some []) cs).map fun (s, cs) => ((s.map str).getD void, cs) := rfl

theorem readValue_bracket (fuel : Nat) (cs : List Char) :
    readValue (fuel + 1) ('[' :: cs) =
      match skipBlanks cs with
      | ']' :: cs => some (arr [], cs)
      | cs => (readElems fuel cs).map fun (js, cs) => (arr js, cs) := rfl

theorem readValue_brace (fuel : Nat) (cs : List Char) :
    readValue (fuel + 1) ('\x7b' :: cs) =
      match skipBlanks cs with
      | '\x7d' :: cs => some (obj [], cs)
      | cs => (readMembers fuel cs).map fun (ms, cs) => ((ms.map obj).getD void, cs) := rfl

theorem readElems_succ (fuel : Nat) (cs : List Char) :
    readElems (fuel + 1) cs =
      match readValue fuel cs with
      | none => none
      | some (j, cs) =>
        match skipBlanks cs with
        | ']' :: cs => some ([j], cs)
        | ',' :: cs => (readElems fuel cs).map fun (js, cs) => (j :: js, cs)
        | _ => none := rfl

theorem readValue_skipBlanks (fuel : Nat) (cs : List Char) :
    readValue fuel (skipBlanks cs) = readValue fuel cs := by
  cases fuel with
  | zero => rfl
  | succ fuel => rw [readValue, readValue, skipBlanks_skipBlanks]

theorem readElems_skipBlanks (fuel : Nat) (cs : List Char) :
    readElems fuel (skipBlanks cs) = readElems fuel cs := by
  cases fuel with
  | zero => rfl
  | succ fuel => rw [readElems_succ, readElems_succ, readValue_skipBlanks]

theorem readMembers_skipBlanks (fuel : Nat) (cs : List Char) :
    readMembers fuel (skipBlanks cs) = readMembers fuel cs := by
  cases fuel with
  | zero => rfl
  | succ fuel => rw [readMembers, readMembers, skipBlanks_skipBlanks]

/-- A value that begins with a digit is a number. -/
theorem readValue_digit {c : Char} (h : c.isDigit = true) (fuel : Nat) (cs : List Char) :
    readValue (fuel + 1) (c :: cs) = readNumber false (c :: cs) := by
  have hblank : isBlank c = false := by
    by_contra hblank
    simp only [isBlank, Bool.not_eq_false, Bool.or_eq_true, beq_iff_eq] at hblank
    obtain ((rfl | rfl) | rfl) | rfl := hblank <;> cases h
  rw [readValue, skipBlanks_cons hblank]
  split
  all_goals first | rfl | (rename_i heq; cases heq; cases h)

theorem readValue_toDigits {n : Nat} (hn : n ≤ maxUInt64) (fuel : Nat) {rest : List Char}
    (hrest : Ends rest) :
    readValue (fuel + 1) (Nat.toDigits 10 n ++ rest) = some (ofWhole false n, rest) := by
  rw [← readNumber_toDigits hn false hrest]
  obtain ⟨c, cs, hcs⟩ := List.exists_cons_of_ne_nil (Nat.toDigits_ne_nil (b := 10) (n := n))
  have hdigit : c ∈ Nat.toDigits 10 n := by
    rw [hcs]
    exact List.mem_cons_self
  rw [hcs, List.cons_append]
  exact readValue_digit (Nat.isDigit_of_mem_toDigits (by decide) (by decide) hdigit) fuel _

theorem ofWhole_of_le {n : Nat} (h : n ≤ maxUInt64) : ofWhole false n = int n := by
  simp [ofWhole, h]

theorem ofWhole_neg {n : Nat} (hpos : 0 < n) (h : n ≤ UInt64.size / 2) :
    ofWhole true n = int (-n) := by
  rw [ofWhole, if_neg (by simp), if_pos (by simpa [Nat.ne_of_gt hpos] using h)]

namespace Scans

variable {cs : List Char} {j : Json}

theorem blanks {bs : List Char} (hbs : Blanks bs) (h : Scans cs j) : Scans (bs ++ cs) j := by
  intro fuel rest hfuel hrest
  rw [List.length_append] at hfuel
  rw [List.append_assoc, ← readValue_skipBlanks, skipBlanks_append hbs, readValue_skipBlanks]
  exact h fuel rest (by omega) hrest

theorem null : Scans "null".toList null := by
  intro fuel rest hfuel _
  obtain ⟨fuel, rfl⟩ : ∃ n, fuel = n + 1 := ⟨fuel - 1, by simp at hfuel; omega⟩
  rfl

theorem bool (b : Bool) : Scans (if b then "true" else "false").toList (bool b) := by
  intro fuel rest hfuel _
  have hpos : 0 < (if b then "true" else "false").toList.length := by cases b <;> decide
  obtain ⟨fuel, rfl⟩ : ∃ n, fuel = n + 1 := ⟨fuel - 1, by omega⟩
  cases b <;> rfl

theorem str (s : String) : Scans (quoted s).toList (str s) := by
  intro fuel rest hfuel _
  rw [length_quoted] at hfuel
  obtain ⟨fuel, rfl⟩ : ∃ n, fuel = n + 1 := ⟨fuel - 1, by omega⟩
  have hbody : (s.toList.flatMap (escape controlLetter)).length < fuel := by omega
  have hread := readString_flatMap_escape hbody [] rest
  rw [quoted_toList_append, readValue_quote, hread]
  simp

theorem int {i : Int} (h : (Json.int i).Integral) : Scans (toString i).toList (int i) := by
  obtain ⟨hlow, hhigh⟩ := h
  have hmax : maxUInt64 = UInt64.size - 1 := rfl
  intro fuel rest hfuel hrest
  rw [Int.toString_eq_repr, Int.repr_eq_if] at hfuel ⊢
  by_cases hsign : 0 ≤ i
  · rw [if_pos hsign, Nat.toList_repr] at hfuel ⊢
    have hpos : 0 < (Nat.toDigits 10 i.toNat).length := Nat.length_toDigits_pos
    obtain ⟨fuel, rfl⟩ : ∃ n, fuel = n + 1 := ⟨fuel - 1, by omega⟩
    rw [readValue_toDigits (by omega) fuel hrest, ofWhole_of_le (by omega),
      Int.toNat_of_nonneg hsign]
  · rw [if_neg hsign, String.toList_append, Nat.toList_repr, List.length_append] at hfuel
    rw [if_neg hsign, String.toList_append, Nat.toList_repr]
    obtain ⟨fuel, rfl⟩ : ∃ n, fuel = n + 1 := ⟨fuel - 1, by simp at hfuel; omega⟩
    show readNumber true (Nat.toDigits 10 (-i).toNat ++ rest) = _
    rw [readNumber_toDigits (by omega) true hrest, ofWhole_neg (by omega) (by omega),
      Int.toNat_of_nonneg (by omega), Int.neg_neg]

end Scans

/-! ### Arrays and objects -/

/-- Texts with commas between them. -/
def listed (items : List (List Char)) : List Char := [','].intercalate items

@[simp] theorem listed_singleton (item : List Char) : listed [item] = item :=
  List.intercalate_singleton

theorem listed_cons_append (item next : List Char) (items : List (List Char))
    (rest : List Char) :
    listed (item :: next :: items) ++ rest = item ++ ',' :: (listed (next :: items) ++ rest) := by
  simp [listed, List.intercalate_cons_cons]

theorem length_listed_cons (item next : List Char) (items : List (List Char)) :
    (listed (item :: next :: items)).length =
      item.length + (listed (next :: items)).length + 1 := by
  simp [listed, List.intercalate_cons_cons]
  omega

section

variable {items : List (List Char)} {bs : List Char}

/-- The elements of an array are read up to its bracket. -/
theorem readElems_listed {js : List Json} (h : List.Forall₂ Scans items js) (hne : items ≠ [])
    (hbs : Blanks bs) {fuel : Nat} (hfuel : 2 * (listed items).length < fuel) (rest : List Char) :
    readElems fuel (listed items ++ (bs ++ ']' :: rest)) = some (js, rest) := by
  induction h generalizing fuel with
  | nil => exact absurd rfl hne
  | @cons item j items js hitem hitems ih =>
    obtain ⟨fuel, rfl⟩ : ∃ n, fuel = n + 1 := ⟨fuel - 1, by omega⟩
    cases items with
    | nil =>
      cases hitems
      rw [listed_singleton] at hfuel ⊢
      rw [readElems_succ, hitem fuel (bs ++ ']' :: rest) (by omega)
        (hbs.ends (.cons rfl nofun nofun nofun))]
      simp [hbs, skipBlanks_cons (c := ']') rfl]
    | cons next items =>
      rw [length_listed_cons] at hfuel
      rw [listed_cons_append, readElems_succ,
        hitem fuel (',' :: _) (by omega) (.cons rfl nofun nofun nofun)]
      have hnext : 2 * (listed (next :: items)).length < fuel := by omega
      simp [skipBlanks_cons (c := ',') rfl, ih nofun hnext]

theorem ScansMember.readMembers {cs : List Char} {key : String} {j : Json}
    (h : ScansMember cs (key, j)) {fuel : Nat} (hfuel : 2 * cs.length ≤ fuel) {tail : List Char}
    (htail : Ends tail) :
    readMembers (fuel + 1) (cs ++ tail) =
      match skipBlanks tail with
      | '\x7d' :: cs => some (some [(key, j)], cs)
      | ',' :: cs => (Json.readMembers fuel cs).map fun (ms, cs) => (prepend (some (key, j)) ms, cs)
      | _ => none := by
  obtain ⟨bs, vs, hbs, hvs, rfl⟩ := h
  simp only [List.length_append, List.length_cons, length_quoted] at hfuel
  have hbody : (key.toList.flatMap (escape controlLetter)).length < fuel := by omega
  have hkey := readString_flatMap_escape hbody [] (':' :: (vs ++ tail))
  have hvalue := hvs fuel tail (by omega) htail
  rw [List.append_assoc, ← readMembers_skipBlanks, skipBlanks_append hbs, readMembers_skipBlanks,
    List.append_assoc, List.cons_append, quoted_toList_append, Json.readMembers,
    skipBlanks_cons rfl]
  simp only [hkey, skipBlanks_cons (c := ':') rfl, hvalue]
  split <;> simp_all [prepend]

/-- The members of an object are read up to its brace. -/
theorem readMembers_listed {ms : List (String × Json)} (h : List.Forall₂ ScansMember items ms)
    (hne : items ≠ []) (hbs : Blanks bs) {fuel : Nat} (hfuel : 2 * (listed items).length < fuel)
    (rest : List Char) :
    readMembers fuel (listed items ++ (bs ++ '\x7d' :: rest)) = some (some ms, rest) := by
  induction h generalizing fuel with
  | nil => exact absurd rfl hne
  | @cons item member items ms hitem hitems ih =>
    obtain ⟨fuel, rfl⟩ : ∃ n, fuel = n + 1 := ⟨fuel - 1, by omega⟩
    cases items with
    | nil =>
      cases hitems
      rw [listed_singleton] at hfuel ⊢
      have hends : Ends (bs ++ '\x7d' :: rest) := hbs.ends (.cons rfl nofun nofun nofun)
      rw [hitem.readMembers (by omega) hends]
      simp [hbs, skipBlanks_cons (c := '\x7d') rfl]
    | cons next items =>
      rw [length_listed_cons] at hfuel
      have hends : Ends (',' :: (listed (next :: items) ++ (bs ++ '\x7d' :: rest))) :=
        .cons rfl nofun nofun nofun
      rw [listed_cons_append, hitem.readMembers (by omega) hends]
      have hnext : 2 * (listed (next :: items)).length < fuel := by omega
      simp [skipBlanks_cons (c := ',') rfl, ih nofun hnext, prepend]

/-- Blanks may stand in front of the bracket that ends an array. -/
theorem Scans.arr {js : List Json} (h : List.Forall₂ Scans items js) (hbs : Blanks bs) :
    Scans ('[' :: (listed items ++ (bs ++ [']']))) (arr js) := by
  intro fuel rest hfuel _
  simp only [List.length_cons, List.length_append, List.length_nil] at hfuel
  obtain ⟨fuel, rfl⟩ : ∃ n, fuel = n + 1 := ⟨fuel - 1, by omega⟩
  simp only [List.cons_append, List.append_assoc, List.nil_append]
  rw [readValue_bracket]
  cases h with
  | nil => simp [listed, hbs, skipBlanks_cons (c := ']') rfl]
  | @cons item j items js hitem hitems =>
    have hlength : 2 * (listed (item :: items)).length < fuel := by omega
    have hread := readElems_listed (.cons hitem hitems) nofun hbs hlength rest
    -- no element begins with a bracket that ends the array
    have hbracket (cs : List Char) : readElems fuel (']' :: cs) = none := by
      obtain _ | _ | fuel := fuel <;> rfl
    simp only
    split
    · rename_i heq
      rw [← readElems_skipBlanks, heq, hbracket] at hread
      cases hread
    · rw [readElems_skipBlanks, hread]
      rfl

/-- Blanks may stand in front of the brace that ends an object. -/
theorem Scans.obj {ms : List (String × Json)} (h : List.Forall₂ ScansMember items ms)
    (hbs : Blanks bs) : Scans ('\x7b' :: (listed items ++ (bs ++ ['\x7d']))) (obj ms) := by
  intro fuel rest hfuel _
  simp only [List.length_cons, List.length_append, List.length_nil] at hfuel
  obtain ⟨fuel, rfl⟩ : ∃ n, fuel = n + 1 := ⟨fuel - 1, by omega⟩
  simp only [List.cons_append, List.append_assoc, List.nil_append]
  rw [readValue_brace]
  cases h with
  | nil => simp [listed, hbs, skipBlanks_cons (c := '\x7d') rfl]
  | @cons item member items ms hitem hitems =>
    have hlength : 2 * (listed (item :: items)).length < fuel := by omega
    have hread := readMembers_listed (.cons hitem hitems) nofun hbs hlength rest
    -- a member begins with its key
    have hbrace (cs : List Char) : readMembers fuel ('\x7d' :: cs) = none := by
      cases fuel <;> rfl
    simp only
    split
    · rename_i heq
      rw [← readMembers_skipBlanks, heq, hbrace] at hread
      cases hread
    · rw [readMembers_skipBlanks, hread]
      rfl

end

/-! ### Texts of values -/

theorem member_scans (key : String) {bs vs : List Char} {j : Json} (hbs : Blanks bs)
    (h : Scans vs j) : ScansMember (bs ++ ((quoted key).toList ++ ':' :: vs)) (key, j) :=
  ⟨bs, vs, hbs, h, rfl⟩

mutual
theorem text_scans (j : Json) (h : j.Integral) : Scans j.text.toList j := by
  match j with
  | .null => exact .null
  | .bool b => exact .bool b
  | .int i => exact .int h
  | .str s => exact .str s
  | .arr elems =>
    have htext : (arr elems).text.toList =
        '[' :: (listed ((elemTexts elems).map String.toList) ++ ([] ++ [']'])) := by
      simp [text, listed]
    rw [htext]
    exact .arr (elemTexts_scan elems h) .nil
  | .obj members =>
    have htext : (obj members).text.toList =
        '\x7b' :: (listed ((memberTexts members).map String.toList) ++ ([] ++ ['\x7d'])) := by
      simp [text, listed]
    rw [htext]
    exact .obj (memberTexts_scan members h) .nil

theorem elemTexts_scan (js : List Json) (h : elemsIntegral js) :
    List.Forall₂ Scans ((elemTexts js).map String.toList) js := by
  match js with
  | [] => exact .nil
  | j :: js => exact .cons (j.text_scans h.1) (elemTexts_scan js h.2)

theorem memberTexts_scan (ms : List (String × Json)) (h : membersIntegral ms) :
    List.Forall₂ ScansMember ((memberTexts ms).map String.toList) ms := by
  match ms with
  | [] => exact .nil
  | (key, j) :: ms =>
    refine .cons ?_ (memberTexts_scan ms h.2)
    simpa using member_scans key .nil (j.text_scans h.1)
end

theorem blanks_freshLine (level : Nat) : Blanks (freshLine level).toList := by
  intro c hc
  simp only [freshLine, String.toList_append, String.toList_ofList, List.mem_append,
    List.mem_replicate] at hc
  rcases hc with hc | ⟨-, rfl⟩
  · obtain rfl : c = '\n' := by simpa using hc
    rfl
  · rfl

/-- Items on lines of their own are a list of texts with blanks in front, and blanks behind it. -/
theorem prettyItems_toList (level : Nat) (openText closeText : String) (items : List String) :
    ∃ bs, Blanks bs ∧ (prettyItems level openText closeText items).toList = openText.toList ++
      (listed (items.map fun s => (freshLine (level + 1)).toList ++ s.toList) ++
        (bs ++ closeText.toList)) := by
  cases items with
  | nil => exact ⟨[], .nil, by simp [prettyItems, listed]⟩
  | cons item items =>
    refine ⟨(freshLine level).toList, blanks_freshLine level, ?_⟩
    rw [prettyItems, if_neg (by simp)]
    simp only [String.toList_append, String.toList_intercalate, List.map_map, Function.comp_def,
      List.append_assoc, listed]
    rfl

mutual
theorem prettyAt_scans (level : Nat) (j : Json) (h : j.Integral) :
    Scans (j.prettyAt level).toList j := by
  match j with
  | .null => exact .null
  | .bool b => exact .bool b
  | .int i => exact .int h
  | .str s => exact .str s
  | .arr elems =>
    obtain ⟨bs, hbs, htext⟩ := prettyItems_toList level "[" "]" (prettyElems (level + 1) elems)
    rw [prettyAt, htext]
    exact .arr (prettyElems_scan (level + 1) elems h) hbs
  | .obj members =>
    obtain ⟨bs, hbs, htext⟩ :=
      prettyItems_toList level "\x7b" "\x7d" (prettyMembers (level + 1) members)
    rw [prettyAt, htext]
    exact .obj (prettyMembers_scan (level + 1) members h) hbs

theorem prettyElems_scan (level : Nat) (js : List Json) (h : elemsIntegral js) :
    List.Forall₂ Scans
      ((prettyElems level js).map fun s => (freshLine level).toList ++ s.toList) js := by
  match js with
  | [] => exact .nil
  | j :: js =>
    have hj := (j.prettyAt_scans level h.1).blanks (blanks_freshLine level)
    exact .cons hj (prettyElems_scan level js h.2)

theorem prettyMembers_scan (level : Nat) (ms : List (String × Json)) (h : membersIntegral ms) :
    List.Forall₂ ScansMember
      ((prettyMembers level ms).map fun s => (freshLine level).toList ++ s.toList) ms := by
  match ms with
  | [] => exact .nil
  | (key, j) :: ms =>
    have hblank : Blanks [' '] := fun c hc => by
      obtain rfl := List.mem_singleton.mp hc
      rfl
    have hj := (j.prettyAt_scans level h.1).blanks hblank
    refine .cons ?_ (prettyMembers_scan level ms h.2)
    simpa using member_scans key (blanks_freshLine level) hj
end

/-! ### Whole texts -/

/-- Blanks may stand behind a value. -/
theorem Scans.scan {cs bs : List Char} {j : Json} {s : String} (h : Scans cs j) (hbs : Blanks bs)
    (hs : s.toList = cs ++ bs) : scan s = some j := by
  have hends : Ends bs := by
    rw [← List.append_nil bs]
    exact hbs.ends nofun
  have hrest : skipBlanks bs = [] := by
    rw [← List.append_nil bs, skipBlanks_append hbs]
    rfl
  have hread := h (2 * (cs ++ bs).length + 2) bs (by rw [List.length_append]; omega) hends
  simp only [Json.scan, hs, hread, hrest]
  rfl

/-- The text on one line is read back. -/
theorem scan_text {j : Json} (h : j.Integral) : scan j.text = some j :=
  (j.text_scans h).scan .nil (List.append_nil _).symm

/-- The indented text is read back, with a line break behind it. -/
theorem scan_prettyText {j : Json} (h : j.Integral) : scan (j.prettyText ++ "\n") = some j := by
  have hbreak : Blanks ['\n'] := fun c hc => by
    obtain rfl := List.mem_singleton.mp hc
    rfl
  exact (j.prettyAt_scans 0 h).scan hbreak (by simp [prettyText])

end TypeGuard.Json
