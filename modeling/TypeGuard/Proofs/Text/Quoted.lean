import TypeGuard.Json.Reader
import TypeGuard.Proofs.Config.Comment

/-!
# String literals read back

A reader of string literals as they stand in JSON, with the escapes that a literal needs. A
character has one of three written forms, `escape_cases`, and the reader takes every one of them for
the character, however the text goes on. So a text is read back from its literal,
`unquote?_quote`.
-/

namespace TypeGuard.Text

open Comment (InQuotes)

/-! ### Reading literals -/

/-- The character that a letter denotes after a backslash. -/
def escaped? : Char → Option Char
  | '"' => some '"'
  | '\\' => some '\\'
  | 'n' => some '\n'
  | 'r' => some '\r'
  | 't' => some '\t'
  | _ => none

/-- The character with a code of four hexadecimal digits. Half of a surrogate pair is none. -/
def coded? (digits : List Char) : Option Char :=
  match Json.readHex4 digits with
  | some (n, []) => if n.isValidChar then some (Char.ofNat n) else none
  | _ => none

/-- The characters of a literal up to its closing quote, behind which nothing may stand. -/
def unquoteRest? : List Char → Option (List Char)
  | [] => none
  | '\\' :: 'u' :: a :: b :: c :: d :: cs =>
    (coded? [a, b, c, d]).bind fun x => (unquoteRest? cs).map (x :: ·)
  | '\\' :: l :: cs => (escaped? l).bind fun x => (unquoteRest? cs).map (x :: ·)
  | c :: cs =>
    if c = '"' then if cs.isEmpty then some [] else none
    else if c = '\\' ∨ c.toNat < 0x20 then none
    else (unquoteRest? cs).map (c :: ·)

/-- The text that a string literal denotes. -/
def unquote? (literal : String) : Option String :=
  match literal.toList with
  | '"' :: cs => (unquoteRest? cs).map String.ofList
  | _ => none

/-! ### Written forms -/

theorem escaped?_of_literalLetter {c l : Char} (h : literalLetter c = some l) :
    escaped? l = some c := by
  unfold literalLetter at h
  split at h <;> cases h <;> rfl

theorem hexValue_hexDigit : ∀ n < 16, Json.hexValue (hexDigit n) = some n := by decide

/-- A digit needs no escape. -/
theorem hexDigit_plain : ∀ n < 16,
    hexDigit n ≠ '"' ∧ hexDigit n ≠ '\\' ∧ 0x20 ≤ (hexDigit n).toNat := by decide

/-- A character is written as it is, as a letter after a backslash, or by its code. -/
theorem escape_forms (letter : Char → Option Char) (c : Char) :
    (escape letter c = [c] ∧ c ≠ '"' ∧ c ≠ '\\' ∧ 0x20 ≤ c.toNat) ∨
    (∃ l, escape letter c = ['\\', l] ∧ (letter c = some l ∨ l = c ∧ (c = '"' ∨ c = '\\'))) ∨
    ∃ m < 16, ∃ n < 16, escape letter c = ['\\', 'u', '0', '0', hexDigit m, hexDigit n] ∧
      c.toNat = 16 * m + n := by
  unfold escape
  split
  · subst c
    exact .inr (.inl ⟨'"', rfl, .inr ⟨rfl, .inl rfl⟩⟩)
  split
  · subst c
    exact .inr (.inl ⟨'\\', rfl, .inr ⟨rfl, .inr rfl⟩⟩)
  split
  · rename_i hlow
    cases hletter : letter c with
    | some l => exact .inr (.inl ⟨l, rfl, .inl rfl⟩)
    | none =>
      refine .inr (.inr ⟨c.toNat / 16, by omega, c.toNat % 16, by omega, rfl, by omega⟩)
  · rename_i hquote hslash hlow
    exact .inl ⟨rfl, hquote, hslash, by omega⟩

/-- In a literal the letters are those that the reader knows. -/
theorem escape_cases (c : Char) :
    (escape literalLetter c = [c] ∧ c ≠ '"' ∧ c ≠ '\\' ∧ 0x20 ≤ c.toNat) ∨
    (∃ l, escape literalLetter c = ['\\', l] ∧ escaped? l = some c) ∨
    ∃ m < 16, ∃ n < 16, escape literalLetter c = ['\\', 'u', '0', '0', hexDigit m, hexDigit n] ∧
      c.toNat = 16 * m + n := by
  obtain h | ⟨l, hform, hl⟩ | h := escape_forms literalLetter c
  · exact .inl h
  · refine .inr (.inl ⟨l, hform, ?_⟩)
    obtain hletter | ⟨rfl, rfl | rfl⟩ := hl
    · exact escaped?_of_literalLetter hletter
    · rfl
    · rfl
  · exact .inr (.inr h)

theorem readHex4_hexDigits {m n : Nat} (hm : m < 16) (hn : n < 16) (rest : List Char) :
    Json.readHex4 ('0' :: '0' :: hexDigit m :: hexDigit n :: rest) = some (16 * m + n, rest) := by
  have hzero : Json.hexValue '0' = some 0 := rfl
  simp [Json.readHex4, hzero, hexValue_hexDigit m hm, hexValue_hexDigit n hn, Nat.mul_comm m]

theorem coded?_hexDigits {c : Char} {m n : Nat} (hm : m < 16) (hn : n < 16)
    (hc : c.toNat = 16 * m + n) : coded? ['0', '0', hexDigit m, hexDigit n] = some c := by
  have hvalid : c.toNat.isValidChar := c.valid
  simp only [coded?, readHex4_hexDigits hm hn, ← hc, if_pos hvalid, Char.ofNat_toNat]

/-! ### Reading written forms -/

/-- No quote within a written form ends the literal. -/
theorem inQuotes_escape (c : Char) {body : List Char} (h : InQuotes body) :
    InQuotes (escape literalLetter c ++ body) := by
  obtain ⟨hform, hquote, hslash, -⟩ | ⟨l, hform, -⟩ | ⟨m, hm, n, hn, hform, -⟩ := escape_cases c
  · rw [hform]
    exact .char hquote hslash h
  · rw [hform]
    exact .escape l h
  · rw [hform]
    obtain ⟨hmquote, hmslash, -⟩ := hexDigit_plain m hm
    obtain ⟨hnquote, hnslash, -⟩ := hexDigit_plain n hn
    exact .escape 'u' <| .char (by decide) (by decide) <| .char (by decide) (by decide) <|
      .char hmquote hmslash <| .char hnquote hnslash h

/-- A letter that stands for a character after a backslash is no control character. -/
theorem le_toNat_of_escaped? {c l : Char} (h : escaped? l = some c) : 0x20 ≤ l.toNat := by
  unfold escaped? at h
  split at h <;> simp at h <;> decide

/-- A written form has no control character. -/
theorem le_toNat_of_mem_escape {c x : Char} (hx : x ∈ escape literalLetter c) :
    0x20 ≤ x.toNat := by
  obtain ⟨hform, -, -, hc⟩ | ⟨l, hform, hl⟩ | ⟨m, hm, n, hn, hform, -⟩ := escape_cases c
  · rw [hform, List.mem_singleton] at hx
    rwa [hx]
  · simp only [hform, List.mem_cons, List.not_mem_nil, or_false] at hx
    rcases hx with rfl | rfl
    · decide
    · exact le_toNat_of_escaped? hl
  · have hfixed : ∀ x ∈ ['\\', 'u', '0', '0'], 0x20 ≤ x.toNat := by simp
    have hparts : escape literalLetter c = ['\\', 'u', '0', '0'] ++ [hexDigit m, hexDigit n] :=
      hform
    rw [hparts, List.mem_append, List.mem_pair] at hx
    rcases hx with hx | rfl | rfl
    · exact hfixed x hx
    · exact (hexDigit_plain m hm).2.2
    · exact (hexDigit_plain n hn).2.2

/-- The reader takes a written form for its character. -/
theorem unquoteRest?_escape (c : Char) (rest : List Char) :
    unquoteRest? (escape literalLetter c ++ rest) = (unquoteRest? rest).map (c :: ·) := by
  obtain ⟨hform, hquote, hslash, hc⟩ | ⟨l, hform, hl⟩ | ⟨m, hm, n, hn, hform, hc⟩ := escape_cases c
  · rw [hform, List.singleton_append, unquoteRest?]
    · simp [hquote, hslash, Nat.not_lt.mpr hc]
    · rintro a b d e cs rfl
      contradiction
    · rintro l cs rfl
      contradiction
  · rw [hform, List.cons_append, List.singleton_append, unquoteRest?]
    · simp [hl]
    · -- no character is written as a `u` after a backslash
      rintro a b d e cs rfl
      cases hl
  · rw [hform]
    simp [unquoteRest?, coded?_hexDigits hm hn hc]

theorem unquoteRest?_flatMap_escape (s : List Char) :
    unquoteRest? (s.flatMap (escape literalLetter) ++ ['"']) = some s := by
  induction s with
  | nil => rfl
  | cons c s ih =>
    rw [List.flatMap_cons, List.append_assoc, unquoteRest?_escape, ih, Option.map_some]

theorem quote_toList (s : String) :
    (quote s).toList = '"' :: (s.toList.flatMap (escape literalLetter) ++ ['"']) := by
  simp [quote, quoteWith]

/-- The literal of a text stands between two quotes, between which no quote is unescaped, and has no
control character. It is read as the text, so no other text has the same literal. -/
theorem unquote?_quote (s : String) :
    (∃ body, (quote s).toList = '"' :: (body ++ ['"']) ∧ InQuotes body) ∧
    (∀ c ∈ (quote s).toList, 0x20 ≤ c.toNat) ∧
    unquote? (quote s) = some s ∧
    ∀ t, quote t = quote s → t = s := by
  have hreads (t : String) : unquote? (quote t) = some t := by
    simp [unquote?, quote_toList, unquoteRest?_flatMap_escape]
  refine ⟨⟨_, quote_toList s, ?_⟩, ?_, hreads s, ?_⟩
  · induction s.toList with
    | nil => exact .nil
    | cons c cs ih => exact inQuotes_escape c ih
  · intro c hc
    simp only [quote_toList, List.mem_cons, List.mem_append, List.mem_flatMap, List.not_mem_nil,
      or_false] at hc
    rcases hc with rfl | ⟨x, -, hx⟩ | rfl
    · decide
    · exact le_toNat_of_mem_escape hx
    · decide
  · intro t ht
    have hsome : some t = some s := by rw [← hreads t, ht, hreads s]
    exact Option.some.inj hsome

example : unquote? "\"\\\"a\\u000b\\n\"" = some "\"a\x0b\n" := by decide

end TypeGuard.Text
